import RiotPlayground.Lib.Atoi
import RiotPlayground.Lib.Holding

/-!
# Sending over UDP: `udp_test/udp.c` and the older `gnrc_host/udp.c`

In each pass through its loop `send` takes a packet snip for the payload, puts one for the UDP
header and one for the IPv6 header in front of it, and gives the packet to the stack.
-/

namespace RiotPlayground

open Directive

/-- What the stack answers in one pass: the addresses of the snips, `none` if there is no space left
in the packet buffer, and how many threads `gnrc_netapi_dispatch_send` finds. -/
structure Answers (α : Type*) where
  payload : Option α
  udp : Option α
  ip : Option α
  receivers : ℕ

/-- What the stack sends. -/
structure Datagram (A : Type*) where
  addr : A
  port : UInt16
  data : List UInt8
  deriving DecidableEq

/-- One pass: what it does with the packet buffer, whether it came behind the allocation of the
payload, what it prints, and whether the stack got the packet. -/
structure Pass (α : Type*) where
  uses : List (Use α)
  allocated : Bool
  line : String
  sent : Bool

/-- What `send` did, and how many payloads it allocated. -/
structure Sent (α A : Type*) where
  uses : List (Use α)
  lines : List String
  datagrams : List (Datagram A)
  allocated : ℕ

variable {α A : Type*}

/-- The body of the loop. `fill` is what it does with the new payload, and `after` what it does with
it when the stack has the packet. -/
def sendPass (fill after : α → List (Use α)) (success : String) (answers : Answers α) : Pass α :=
  match answers.payload with
  | none => ⟨[], false, "Error: unable to copy data to packet buffer\n", false⟩
  | some payload =>
    match answers.udp with
    | none =>
      ⟨.take payload :: (fill payload ++ [.release payload]), true,
        "Error: unable to allocate UDP header\n", false⟩
    | some udp =>
      match answers.ip with
      | none =>
        ⟨.take payload :: (fill payload ++ [.prepend udp payload, .release udp]), true,
          "Error: unable to allocate IPv6 header\n", false⟩
      | some ip =>
        if answers.receivers = 0 then
          ⟨.take payload :: (fill payload ++ [.prepend udp payload, .prepend ip udp, .release ip]),
            true, "Error: unable to locate UDP thread\n", false⟩
        else
          ⟨.take payload :: (fill payload ++
            ([.prepend udp payload, .prepend ip udp, .give ip] ++ after payload)),
            true, success, true⟩

/-- `num` passes from the `i`-th on, up to one in which the stack did not get the packet.
`datagram n` is what is sent when `n` payloads were allocated before. -/
def sendLoop (pass : Answers α → Pass α) (datagram : ℕ → Datagram A) (answers : ℕ → Answers α) :
    ℕ → ℕ → ℕ → Sent α A
  | 0, _, _ => ⟨[], [], [], 0⟩
  | num + 1, i, n =>
    let p := pass (answers i)
    if p.sent then
      let r := sendLoop pass datagram answers num (i + 1) (n + 1)
      ⟨p.uses ++ r.uses, p.line :: r.lines, datagram n :: r.datagrams, r.allocated + 1⟩
    else ⟨p.uses, [p.line], [], if p.allocated then 1 else 0⟩

def failed (line : String) : Sent α A := ⟨[], [line], [], 0⟩

/-- What is parsed before the loop. -/
def withAddrPort (fromStr : List Char → Option A) (addrStr portStr : List Char)
    (go : A → UInt16 → Sent α A) : Sent α A :=
  match fromStr addrStr with
  | none => failed "Error: unable to parse destination address\n"
  | some addr =>
    let port := (atoi portStr).toUInt32.toUInt16
    if port = 0 then failed "Error: unable to parse destination port\n" else go addr port

/-- `Success: send %u byte to [%s]:%u` -/
def successLine (len : ℕ) (addrStr : List Char) (port : UInt16) : String :=
  "Success: send " ++ toString len ++ " byte to [" ++ String.ofList addrStr ++ "]:" ++
    toString port ++ "\n"

namespace GnrcHost

/-- `payload->size` is read for the output. -/
def send (fromStr : List Char → Option A) (answers : ℕ → Answers α)
    (addrStr portStr : List Char) (data : List UInt8) (num : ℕ) : Sent α A :=
  withAddrPort fromStr addrStr portStr fun addr port =>
    sendLoop (sendPass (fun _ => []) (fun payload => [.access payload])
      (successLine data.length addrStr port)) (fun _ => ⟨addr, port, data⟩) answers num 0 0

end GnrcHost

namespace UdpTest

/-- `memset` fills the payload with `send_count++`. -/
def send (fromStr : List Char → Option A) (answers : ℕ → Answers α)
    (addrStr portStr dataLenStr : List Char) (num : ℕ) (sendCount : UInt8) : Sent α A :=
  withAddrPort fromStr addrStr portStr fun addr port =>
    let dataLen := (atoi dataLenStr).toUInt32
    if dataLen = 0 then failed "Error: unable to parse data_len\n"
    else
      sendLoop (sendPass (fun payload => [.access payload]) (fun _ => [])
        (successLine dataLen.toNat addrStr port))
        (fun n => ⟨addr, port, List.replicate dataLen.toNat (sendCount + UInt8.ofNat n)⟩)
        answers num 0 0

end UdpTest

section Datagrams

variable {fill after : α → List (Use α)} {success : String} {a : Answers α}

/-- `gnrc_netapi_dispatch_send` is reached and finds a thread. -/
def Answers.Delivers (a : Answers α) : Prop :=
  a.payload.isSome ∧ a.udp.isSome ∧ a.ip.isSome ∧ a.receivers ≠ 0

lemma sendPass_sent : (sendPass fill after success a).sent = true ↔ a.Delivers := by
  obtain ⟨payload, udp, ip, receivers⟩ := a
  cases payload with
  | none => simp [sendPass, Answers.Delivers]
  | some payload =>
    cases udp with
    | none => simp [sendPass, Answers.Delivers]
    | some udp =>
      cases ip with
      | none => simp [sendPass, Answers.Delivers]
      | some ip => by_cases hzero : receivers = 0 <;> simp [sendPass, Answers.Delivers, hzero]

lemma sendPass_allocated : (sendPass fill after success a).allocated = a.payload.isSome := by
  obtain ⟨payload, udp, ip, receivers⟩ := a
  cases payload with
  | none => rfl
  | some payload =>
    cases udp with
    | none => rfl
    | some udp =>
      cases ip with
      | none => rfl
      | some ip => by_cases hzero : receivers = 0 <;> simp [sendPass, hzero]

variable {pass : Answers α → Pass α} {datagram : ℕ → Datagram A} {answers : ℕ → Answers α}

lemma sendLoop_sent {num i n : ℕ} (h : (pass (answers i)).sent = true) :
    sendLoop pass datagram answers (num + 1) i n =
      let r := sendLoop pass datagram answers num (i + 1) (n + 1)
      ⟨(pass (answers i)).uses ++ r.uses, (pass (answers i)).line :: r.lines,
        datagram n :: r.datagrams, r.allocated + 1⟩ :=
  if_pos h

lemma sendLoop_failed {num i n : ℕ} (h : ¬ (pass (answers i)).sent = true) :
    sendLoop pass datagram answers (num + 1) i n =
      ⟨(pass (answers i)).uses, [(pass (answers i)).line], [],
        if (pass (answers i)).allocated then 1 else 0⟩ :=
  if_neg h

/-- The loop sends one datagram for each of its first passes, up to the first that fails, which may
have allocated a payload too. -/
theorem sendLoop_datagrams (pass : Answers α → Pass α) (datagram : ℕ → Datagram A)
    (answers : ℕ → Answers α) (num i n : ℕ) :
    ∃ m ≤ num, (∀ j < m, (pass (answers (i + j))).sent = true) ∧
      (m < num → (pass (answers (i + m))).sent = false) ∧
      (sendLoop pass datagram answers num i n).datagrams =
        (List.range m).map (fun j => datagram (n + j)) ∧
      (sendLoop pass datagram answers num i n).allocated =
        m + if m < num ∧ (pass (answers (i + m))).allocated = true then 1 else 0 := by
  induction num generalizing i n with
  | zero => exact ⟨0, le_rfl, by simp, by simp, rfl, by simp [sendLoop]⟩
  | succ num ih =>
    by_cases hsent : (pass (answers i)).sent = true
    · obtain ⟨m, hm, hbefore, hat, hdatagrams, hallocated⟩ := ih (i + 1) (n + 1)
      have hshift : ∀ j, i + 1 + j = i + (j + 1) := fun j => by omega
      refine ⟨m + 1, by omega, fun j hj => ?_, fun hlt => ?_, ?_, ?_⟩
      · cases j with
        | zero => exact hsent
        | succ j =>
          rw [← hshift]
          exact hbefore j (by omega)
      · rw [← hshift]
        exact hat (by omega)
      · rw [sendLoop_sent hsent]
        change datagram n :: _ = _
        rw [hdatagrams, List.range_succ_eq_map, List.map_cons, List.map_map]
        congr 1
        apply List.map_congr_left
        intro j _
        change datagram (n + 1 + j) = datagram (n + (j + 1))
        rw [show n + 1 + j = n + (j + 1) by omega]
      · rw [sendLoop_sent hsent]
        change _ + 1 = _
        rw [hallocated, hshift]
        simp only [Nat.add_lt_add_iff_right]
        omega
    · refine ⟨0, by omega, by simp, fun _ => by simpa using hsent, ?_, ?_⟩
      · rw [sendLoop_failed hsent]
        rfl
      · rw [sendLoop_failed hsent]
        simp

variable {fromStr : List Char → Option A} {addrStr portStr : List Char}

/-- Either nothing is done, or what was parsed is used. -/
lemma withAddrPort_cases (fromStr : List Char → Option A) (addrStr portStr : List Char)
    (go : A → UInt16 → Sent α A) :
    (∃ line, withAddrPort fromStr addrStr portStr go = failed line) ∨
      ∃ addr port, withAddrPort fromStr addrStr portStr go = go addr port := by
  unfold withAddrPort
  cases fromStr addrStr with
  | none => exact .inl ⟨_, rfl⟩
  | some addr =>
    by_cases hport : (atoi portStr).toUInt32.toUInt16 = 0
    · exact .inl ⟨_, if_pos hport⟩
    · exact .inr ⟨addr, _, if_neg hport⟩

namespace UdpTest

/-- The datagrams are those of the passes before the first that fails, and are filled with the next
values of `send_count`. -/
theorem send_datagrams {dataLenStr : List Char} {addr : A} {port : UInt16} {dataLen : UInt32}
    (haddr : fromStr addrStr = some addr) (hport : (atoi portStr).toUInt32.toUInt16 = port)
    (hport0 : port ≠ 0) (hlen : (atoi dataLenStr).toUInt32 = dataLen) (hlen0 : dataLen ≠ 0)
    (num : ℕ) (sendCount : UInt8) :
    let r := send fromStr answers addrStr portStr dataLenStr num sendCount
    ∃ m ≤ num, (∀ j < m, (answers j).Delivers) ∧ (m < num → ¬ (answers m).Delivers) ∧
      r.datagrams = (List.range m).map (fun j =>
        ⟨addr, port, List.replicate dataLen.toNat (sendCount + UInt8.ofNat j)⟩) ∧
      r.allocated = m + if m < num ∧ (answers m).payload.isSome = true then 1 else 0 := by
  have hsend : send fromStr answers addrStr portStr dataLenStr num sendCount =
      sendLoop (sendPass (fun payload => [.access payload]) (fun _ => [])
        (successLine dataLen.toNat addrStr port))
        (fun n => ⟨addr, port, List.replicate dataLen.toNat (sendCount + UInt8.ofNat n)⟩)
        answers num 0 0 := by
    unfold send withAddrPort
    rw [haddr]
    dsimp only
    rw [hport, hlen, if_neg hport0, if_neg hlen0]
  obtain ⟨m, hm, hbefore, hat, hdatagrams, hallocated⟩ := sendLoop_datagrams
    (sendPass (fun payload => [.access payload]) (fun _ => [])
      (successLine dataLen.toNat addrStr port))
    (fun n => (⟨addr, port, List.replicate dataLen.toNat (sendCount + UInt8.ofNat n)⟩ :
      Datagram A)) answers num 0 0
  simp only [Nat.zero_add] at hbefore hat hdatagrams hallocated
  rw [hsend]
  refine ⟨m, hm, fun j hj => sendPass_sent.mp (hbefore j hj), fun hlt hdelivers => ?_,
    hdatagrams, ?_⟩
  · exact absurd (sendPass_sent.mpr hdelivers) (by rw [hat hlt]; exact Bool.false_ne_true)
  · rw [hallocated, sendPass_allocated]

/-- Two passes get their three snips, the third no IPv6 header. -/
def threePasses (i : ℕ) : Answers ℕ :=
  if i < 2 then ⟨some 0, some 1, some 2, 1⟩ else ⟨some 0, some 1, none, 1⟩

def anyAddr (_ : List Char) : Option Unit := some ()

theorem send_datagrams_threePasses :
    ∃ m ≤ 5, (∀ j < m, (threePasses j).Delivers) ∧ (m < 5 → ¬ (threePasses m).Delivers) ∧
      (send anyAddr threePasses [] ['7'] ['3'] 5 255).datagrams =
        (List.range m).map (fun j => ⟨(), 7, List.replicate 3 (255 + UInt8.ofNat j)⟩) ∧
      (send anyAddr threePasses [] ['7'] ['3'] 5 255).allocated =
        m + if m < 5 ∧ (threePasses m).payload.isSome = true then 1 else 0 :=
  have haddr : anyAddr [] = some () := rfl
  have hport : (atoi ['7']).toUInt32.toUInt16 = 7 := by decide
  have hlen : (atoi ['3']).toUInt32 = 3 := by decide
  send_datagrams haddr hport (by decide) hlen (by decide) 5 255

end UdpTest

end Datagrams

/-- The packet buffer gives out no snip that is in use. -/
def Answers.Fresh (a : Answers α) (held : List (List α)) : Prop :=
  let snips := a.payload.toList ++ a.udp.toList ++ a.ip.toList
  snips.Nodup ∧ ∀ snip ∈ snips, snip ∉ held.flatten

variable [DecidableEq α] {fill after : α → List (Use α)} {success : String} {a : Answers α}
  {held : List (List α)}

open Use TransitionSystem

/-- A pass gives up all it took, and then does what it does after the packet was given away. -/
lemma sendPass_run (hfresh : a.Fresh held)
    (hfill : ∀ payload, holding.run ([payload] :: held) (fill payload) = some ([payload] :: held)) :
    holding.run held (sendPass fill after success a).uses =
      if (sendPass fill after success a).sent then
        a.payload.bind fun payload => holding.run held (after payload)
      else some held := by
  obtain ⟨payload, udp, ip, receivers⟩ := a
  obtain ⟨hnodup, hnot⟩ := hfresh
  have hrun : ∀ p rest, p ∉ held.flatten →
      holding.run held (.take p :: (fill p ++ rest)) = holding.run ([p] :: held) rest := by
    intro p rest hp
    rw [run_cons (take_step hp), run_append, hfill]
    rfl
  cases payload with
  | none => rfl
  | some payload =>
    have hp : payload ∉ held.flatten := hnot payload (by simp)
    cases udp with
    | none =>
      refine (hrun payload _ hp).trans ?_
      rw [run_cons (release_step rfl)]
      rfl
    | some udp =>
      have hu : udp ∉ ([payload] :: held).flatten := by
        have hne : payload ≠ udp := by
          rintro rfl
          simp at hnodup
        have hheld := hnot udp (by simp)
        simpa [hne.symm] using hheld
      cases ip with
      | none =>
        refine (hrun payload _ hp).trans ?_
        rw [run_cons (prepend_step rfl hu), run_cons (release_step rfl)]
        rfl
      | some ip =>
        have hi : ip ∉ ([udp, payload] :: held).flatten := by
          have hheld := hnot ip (by simp)
          simp only [Option.toList_some, List.cons_append, List.nil_append, List.nodup_cons,
            List.mem_cons, not_or] at hnodup
          simpa [Ne.symm hnodup.1.2.1, Ne.symm hnodup.2.1.1] using hheld
        by_cases hzero : receivers = 0
        · simp only [sendPass, hzero, if_true]
          rw [hrun payload _ hp, run_cons (prepend_step rfl hu), run_cons (prepend_step rfl hi),
            run_cons (release_step rfl)]
          rfl
        · simp only [sendPass, hzero, if_false]
          rw [hrun payload _ hp, List.cons_append, List.cons_append, List.cons_append,
            run_cons (prepend_step rfl hu), run_cons (prepend_step rfl hi),
            run_cons (give_step rfl)]
          rfl

lemma run_access_head (payload : α) :
    holding.run ([payload] :: held) [.access payload] = some ([payload] :: held) := by
  rw [run_cons (access_step.trans (if_pos (by simp)))]
  rfl

lemma sendPass_gives_back (hfresh : a.Fresh held)
    (hfill : ∀ payload, holding.run ([payload] :: held) (fill payload) = some ([payload] :: held)) :
    holding.run held (sendPass fill (fun _ => []) success a).uses = some held := by
  rw [sendPass_run hfresh hfill]
  split
  case isTrue hsent =>
    obtain ⟨payload, hpayload⟩ := Option.isSome_iff_exists.mp (sendPass_sent.mp hsent).1
    rw [hpayload]
    rfl
  case isFalse => rfl

lemma sendPass_access_after (hfresh : a.Fresh held)
    (hfill : ∀ payload, holding.run ([payload] :: held) (fill payload) = some ([payload] :: held)) :
    holding.run held (sendPass fill (fun payload => [.access payload]) success a).uses =
      if (sendPass fill (fun payload => [.access payload]) success a).sent then none
      else some held := by
  rw [sendPass_run hfresh hfill]
  split
  case isTrue hsent =>
    obtain ⟨payload, hpayload⟩ := Option.isSome_iff_exists.mp (sendPass_sent.mp hsent).1
    have hnot : payload ∉ held.flatten := hfresh.2 payload (by simp [hpayload])
    rw [hpayload]
    change (holding.step held (.access payload)).bind _ = none
    rw [access_step, if_neg hnot]
    rfl
  case isFalse => rfl

section Loop

variable {pass : Answers α → Pass α} {datagram : ℕ → Datagram A} {answers : ℕ → Answers α}

/-- What each pass gives back, the loop gives back. -/
lemma sendLoop_run (hpass : ∀ i, holding.run held (pass (answers i)).uses = some held)
    (num i n : ℕ) :
    holding.run held (sendLoop pass datagram answers num i n).uses = some held := by
  induction num generalizing i n with
  | zero => rfl
  | succ num ih =>
    by_cases hsent : (pass (answers i)).sent = true
    · rw [sendLoop_sent hsent, run_append, hpass]
      exact ih (i + 1) (n + 1)
    · rw [sendLoop_failed hsent]
      exact hpass i

/-- If only the passes that fail give back what they took, the loop does if it sent nothing. -/
lemma sendLoop_run_iff
    (hpass : ∀ i, holding.run held (pass (answers i)).uses =
      if (pass (answers i)).sent then none else some held) (num i n : ℕ) :
    (∃ t, holding.run held (sendLoop pass datagram answers num i n).uses = some t) ↔
      (sendLoop pass datagram answers num i n).datagrams = [] := by
  cases num with
  | zero => exact iff_of_true ⟨held, rfl⟩ rfl
  | succ num =>
    by_cases hsent : (pass (answers i)).sent = true
    · rw [sendLoop_sent hsent, run_append, hpass, if_pos hsent]
      simp
    · rw [sendLoop_failed hsent, hpass, if_neg hsent]
      simp

end Loop

variable {fromStr : List Char → Option A} {answers : ℕ → Answers α}
  {addrStr portStr : List Char}

namespace UdpTest

/-- `send` touches no snip that it does not hold, and holds none at its end. -/
theorem send_gives_back (hfresh : ∀ i, (answers i).Fresh held) (dataLenStr : List Char) (num : ℕ)
    (sendCount : UInt8) :
    holding.run held (send fromStr answers addrStr portStr dataLenStr num sendCount).uses =
      some held := by
  unfold send
  rcases withAddrPort_cases fromStr addrStr portStr _ with ⟨line, h⟩ | ⟨addr, port, h⟩
  · rw [h]
    rfl
  · rw [h]
    dsimp only
    split
    · rfl
    · apply sendLoop_run
      intro i
      exact sendPass_gives_back (hfresh i) run_access_head

lemma threePasses_fresh (i : ℕ) : (threePasses i).Fresh [] := by
  unfold threePasses
  split
  · exact ⟨by decide, by simp⟩
  · exact ⟨by decide, by simp⟩

theorem send_gives_back_threePasses :
    holding.run [] (send anyAddr threePasses [] ['7'] ['3'] 5 255).uses = some [] :=
  send_gives_back threePasses_fresh ['3'] 5 255

end UdpTest

namespace GnrcHost

/-- `send` touches a snip that it gave away as soon as the stack gets a packet. -/
theorem send_holds_payload_iff (hfresh : ∀ i, (answers i).Fresh held) (data : List UInt8)
    (num : ℕ) :
    (∃ t, holding.run held (send fromStr answers addrStr portStr data num).uses = some t) ↔
      (send fromStr answers addrStr portStr data num).datagrams = [] := by
  unfold send
  rcases withAddrPort_cases fromStr addrStr portStr _ with ⟨line, h⟩ | ⟨addr, port, h⟩
  · rw [h]
    exact iff_of_true ⟨held, rfl⟩ rfl
  · rw [h]
    apply sendLoop_run_iff
    intro i
    exact sendPass_access_after (hfresh i) fun _ => rfl

theorem send_holds_payload_iff_threePasses :
    ¬ ∃ t, holding.run [] (send UdpTest.anyAddr UdpTest.threePasses [] ['7'] [1, 2] 5).uses =
      some t :=
  fun hrun => absurd ((send_holds_payload_iff UdpTest.threePasses_fresh [1, 2] 5).mp hrun)
    (by decide)

end GnrcHost

end RiotPlayground
