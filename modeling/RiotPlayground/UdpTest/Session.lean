import RiotPlayground.UdpTest.Server

/-!
# The datagrams of a session

Each payload is filled with a byte that tells how many were allocated before it since `send_count`
was set to 0.
-/

namespace RiotPlayground

open Directive

namespace UdpTest

variable {α A : Type*}

/-- How many payloads were allocated since `send_count` was set to 0, and the datagrams since then,
each with how many payloads were allocated before it. -/
structure Session (A : Type*) where
  allocated : ℕ
  sent : List (Datagram A × ℕ)

/-- `r` is what a call of `send` did. -/
def Session.add (k : Session A) (r : Sent α A) : Session A where
  allocated := k.allocated + r.allocated
  sent := k.sent ++ r.datagrams.zipIdx k.allocated

def noteSession (fromStr : List Char → Option A) (k : Session A) (s : State α A) (e : Event α)
    (_ : State α A) : Session A :=
  match e with
  | .cmd name args answers =>
    match udpCmd name args with
    | .send addrStr portStr dataLenStr num =>
      k.add (send fromStr answers addrStr portStr dataLenStr num s.sendCount)
    | _ => k
  | .shell _ => if s.shell = .clearCount then ⟨0, []⟩ else k
  | _ => k

def session (fromStr : List Char → Option A) :
    TransitionSystem (State α A × Session A) (Event α) :=
  (system fromStr).recording (noteSession fromStr)

/-- All the datagrams are filled with their numbers, which grow. -/
structure Session.Numbered (k : Session A) : Prop where
  fill : ∀ p ∈ k.sent, p.1.data = List.replicate p.1.data.length (UInt8.ofNat p.2)
  bound : ∀ p ∈ k.sent, p.2 < k.allocated
  grow : (k.sent.map Prod.snd).Pairwise (· < ·)

variable {fromStr : List Char → Option A} {answers : ℕ → Answers α} {s t : State α A} {e : Event α}
  {k : Session A}

/-- What the datagrams of one call are. -/
lemma send_fill (fromStr : List Char → Option A) (answers : ℕ → Answers α)
    (addrStr portStr dataLenStr : List Char) (num : ℕ) (sendCount : UInt8) :
    let r := send fromStr answers addrStr portStr dataLenStr num sendCount
    r.datagrams.length ≤ r.allocated ∧
      ∀ d j, r.datagrams[j]? = some d →
        d.data = List.replicate d.data.length (sendCount + UInt8.ofNat j) := by
  have hfailed : ∀ line : String, (failed line : Sent α A).datagrams.length ≤
      (failed line : Sent α A).allocated ∧
      ∀ d j, (failed line : Sent α A).datagrams[j]? = some d →
        d.data = List.replicate d.data.length (sendCount + UInt8.ofNat j) := by
    intro line
    exact ⟨le_rfl, fun d j hget => by cases hget⟩
  unfold send
  rcases withAddrPort_cases fromStr addrStr portStr _ with ⟨line, h⟩ | ⟨addr, port, h⟩
  · rw [h]
    exact hfailed line
  · rw [h]
    dsimp only
    split
    · exact hfailed _
    · obtain ⟨m, -, -, -, hdatagrams, hallocated⟩ := sendLoop_datagrams
        (sendPass (fun payload => [.access payload]) (fun _ => [])
          (successLine (atoi dataLenStr).toUInt32.toNat addrStr port))
        (fun n => (⟨addr, port, List.replicate (atoi dataLenStr).toUInt32.toNat
          (sendCount + UInt8.ofNat n)⟩ : Datagram A)) answers num 0 0
      rw [hdatagrams, hallocated, List.length_map, List.length_range]
      refine ⟨Nat.le_add_right _ _, fun d j hget => ?_⟩
      rw [List.getElem?_map, Option.map_eq_some_iff] at hget
      obtain ⟨i, hi, rfl⟩ := hget
      obtain ⟨hlt, rfl⟩ := List.getElem?_eq_some_iff.mp hi
      rw [List.getElem_range, Nat.zero_add]
      simp

lemma numbered_add {r : Sent α A} (h : k.Numbered) (hlen : r.datagrams.length ≤ r.allocated)
    (hfill : ∀ d j, r.datagrams[j]? = some d →
      d.data = List.replicate d.data.length (UInt8.ofNat k.allocated + UInt8.ofNat j)) :
    (k.add r).Numbered := by
  have hnew : ∀ p ∈ r.datagrams.zipIdx k.allocated, k.allocated ≤ p.2 ∧
      p.2 < k.allocated + r.datagrams.length ∧ r.datagrams[p.2 - k.allocated]? = some p.1 := by
    intro p hp
    obtain ⟨hle, hget⟩ := List.mem_zipIdx_iff_le_and_getElem?_sub.mp hp
    have hlt := List.snd_lt_add_of_mem_zipIdx hp
    exact ⟨hle, by omega, hget⟩
  constructor
  · intro p hp
    rcases List.mem_append.mp hp with hp | hp
    · exact h.fill p hp
    · obtain ⟨hle, -, hget⟩ := hnew p hp
      have hdata := hfill p.1 _ hget
      rw [← UInt8.ofNat_add, Nat.add_sub_cancel' hle] at hdata
      exact hdata
  · intro p hp
    change p.2 < k.allocated + r.allocated
    rcases List.mem_append.mp hp with hp | hp
    · have := h.bound p hp
      omega
    · have := (hnew p hp).2.1
      omega
  · change ((k.sent ++ r.datagrams.zipIdx k.allocated).map Prod.snd).Pairwise (· < ·)
    rw [List.map_append, List.pairwise_append]
    refine ⟨h.grow, ?_, fun m hm n hn => ?_⟩
    · rw [List.zipIdx_map_snd]
      exact List.pairwise_lt_range'
    · obtain ⟨p, hp, rfl⟩ := List.mem_map.mp hm
      obtain ⟨q, hq, rfl⟩ := List.mem_map.mp hn
      exact (h.bound p hp).trans_le (hnew q hq).1

lemma startServer_sendCount (portStr : List Char) :
    (startServer s portStr).sendCount = s.sendCount := by
  unfold startServer
  split
  · rfl
  · dsimp only
    split
    · rfl
    · rfl

lemma stopServer_sendCount : (stopServer s).sendCount = s.sendCount := by
  unfold stopServer
  split
  · rfl
  · rfl

/-- Only `udp reset` sets the count back, in its second statement. -/
lemma shellStep_sendCount {pid : ℤ} (hs : shellStep s pid = some t) :
    t.sendCount = if s.shell = .clearCount then 0 else s.sendCount := by
  unfold shellStep at hs
  split at hs
  case h_1 => cases hs
  case h_2 port hshell =>
    obtain rfl := Option.some.inj hs
    rw [hshell]
    dsimp only
    split
    · rfl
    · rfl
  case h_5 hshell =>
    obtain ⟨u, hu, rfl⟩ := Option.map_eq_some_iff.mp hs
    obtain ⟨-, rfl⟩ := enqueue_eq_some.mp hu
    rw [hshell]
    rfl
  case h_8 hshell =>
    obtain ⟨u, hu, rfl⟩ := Option.map_eq_some_iff.mp hs
    obtain ⟨-, rfl⟩ := enqueue_eq_some.mp hu
    rw [hshell]
    rfl
  case h_9 hshell =>
    obtain rfl := Option.some.inj hs
    rw [if_pos hshell]
  case h_3 hshell | h_4 hshell | h_6 hshell | h_7 hshell =>
    obtain rfl := Option.some.inj hs
    rw [hshell]
    rfl

lemma eventloop_sendCount (m : Msg α) : (eventloop s m).sendCount = s.sendCount := by
  cases m <;> rfl

lemma numbered_step (h : k.Numbered) (hcount : s.sendCount = UInt8.ofNat k.allocated)
    (hs : step fromStr s e = some t) :
    (noteSession fromStr k s e t).Numbered ∧
      t.sendCount = UInt8.ofNat (noteSession fromStr k s e t).allocated := by
  cases e with
  | cmd name args answers =>
    obtain ⟨-, hs⟩ := Option.ite_none_right_eq_some.mp hs
    obtain rfl := Option.some.inj hs
    unfold noteSession
    dsimp only
    cases udpCmd name args with
    | fail line => exact ⟨h, hcount⟩
    | send addrStr portStr dataLenStr num =>
      obtain ⟨hlen, hfill⟩ :=
        send_fill fromStr answers addrStr portStr dataLenStr num s.sendCount
      refine ⟨numbered_add h hlen ?_, ?_⟩
      · rw [← hcount]
        exact hfill
      · change s.sendCount + UInt8.ofNat _ = UInt8.ofNat (k.allocated + _)
        rw [UInt8.ofNat_add, hcount]
    | start portStr => exact ⟨h, (startServer_sendCount portStr).trans hcount⟩
    | stop => exact ⟨h, stopServer_sendCount.trans hcount⟩
    | reset =>
      refine ⟨h, ?_⟩
      change (if 0 < s.server.serverPid then { s with shell := .reset } else s).sendCount = _
      split
      · exact hcount
      · exact hcount
  | shell pid =>
    obtain ⟨-, hs⟩ := Option.ite_none_right_eq_some.mp hs
    unfold noteSession
    dsimp only
    rw [shellStep_sendCount hs]
    split
    · exact ⟨⟨nofun, nofun, .nil⟩, rfl⟩
    · exact ⟨h, hcount⟩
  | deliver port pkt =>
    refine ⟨h, ?_⟩
    cases moves_of_step hs with
    | taken port pkt htakes => exact hcount
    | dropped port pkt htakes => exact hcount
  | netapi set =>
    refine ⟨h, ?_⟩
    cases moves_of_step hs with
    | netapi set m hpid hm hroom => exact hcount
  | handle =>
    refine ⟨h, ?_⟩
    cases moves_of_step hs with
    | handle m waiting hwaiting => exact (eventloop_sendCount m).trans hcount

/-- In every session the datagrams sent since `udp reset` are filled with numbers, modulo 256, that
only grow: the receiver can tell which of them are missing. -/
theorem session_numbered (es : List (Event α))
    (hrun : (session fromStr).run (.boot, ⟨0, []⟩) es = some (s, k)) :
    k.Numbered ∧ s.sendCount = UInt8.ofNat k.allocated := by
  refine (TransitionSystem.reach_of_run (TransitionSystem.meets_true _ es) hrun).invariant
    (P := fun p => p.2.Numbered ∧ p.1.sendCount = UInt8.ofNat p.2.allocated)
    ⟨⟨nofun, nofun, .nil⟩, rfl⟩ ?_
  rintro ⟨s, k⟩ e ⟨t, k'⟩ ⟨h, hcount⟩ _ hs
  obtain ⟨hstep, hnote⟩ := TransitionSystem.recording_step.mp hs
  change k' = noteSession fromStr k s e t at hnote
  subst hnote
  exact numbered_step h hcount hstep

/-- `udp send x 7 3 5`, twice. -/
def sendTwice : List (Event ℕ) :=
  [.cmd [] [['s', 'e', 'n', 'd'], ['x'], ['7'], ['3'], ['5']] threePasses,
    .cmd [] [['s', 'e', 'n', 'd'], ['x'], ['7'], ['3'], ['5']] threePasses]

/-- The third payload was allocated, but not sent. -/
theorem session_numbered_sendTwice :
    ∃ s k, (session anyAddr).run (.boot, ⟨0, []⟩) sendTwice = some (s, k) ∧
      k.sent.map Prod.snd = [0, 1, 3, 4] ∧ k.Numbered ∧ s.sendCount = UInt8.ofNat k.allocated :=
  ⟨_, _, rfl, rfl, session_numbered sendTwice rfl⟩

end UdpTest

end RiotPlayground
