import RiotPlayground.Lib.Atoi
import RiotPlayground.Lib.Buffer
import RiotPlayground.Lib.TransitionSystem

/-!
# The power experiment: `power_tx/gnrc/main.c` and `power_rx/gnrc/main.c`

The LEDs of both nodes tell the power meter when to measure. The sender switches them off for
`NUM_PACKETS` packets, the receiver from the first packet on up to the one that is sent in excess.
Time goes by in microseconds; packets take a fixed time, or are lost.
-/

namespace RiotPlayground

open Directive Buffer

namespace Power

def NUM_PACKETS : ℕ := 100

def PACKET_DELAY : ℕ := 1000000

/-- The size of `data` in both programs. -/
def DATA_SIZE : ℕ := 21

/-- `xtimer_sleep(20)` -/
def startDelay : ℕ := 20000000

def Leds : Type := Fin 3 → Bool

def ledOn (i : Fin 3) (leds : Leds) : Leds := Function.update leds i true

def ledOff (i : Fin 3) (leds : Leds) : Leds := Function.update leds i false

/-- What `sprintf` leaves in `data`. -/
def text (i : ℕ) : List Char := twoDigits i ++ " Msg buffer w/20b".toList

/-- What the sender waits for: the start, or the end of `xtimer_usleep` in the loop over `i`. -/
inductive Wait
  | start
  | sleep (i : ℕ)
  | done

structure Sender where
  leds : Leds
  wait : Wait
  /-- When it goes on. -/
  until_ : ℕ
  printed : List String

def Sender.boot : Sender where
  leds := ledOn 2 (ledOn 1 (ledOn 0 fun _ => false))
  wait := .start
  until_ := startDelay
  printed := []

/-- The loop of `send` from `i` on, up to the next wait: the packet that is sent. -/
def Sender.loop (now i : ℕ) (s : Sender) : Option ℕ × Sender :=
  if i < NUM_PACKETS + 1 then
    (some i, { s with wait := .sleep i, until_ := now + PACKET_DELAY })
  else (none, { s with wait := .done, printed := s.printed ++ ["Sender done"] })

/-- The end of the loop's body. -/
def Sender.slept (i : ℕ) (s : Sender) : Sender :=
  if i = NUM_PACKETS - 1 then { s with leds := ledOn 2 (ledOn 1 (ledOn 0 s.leds)) } else s

def Sender.goOn (now : ℕ) (s : Sender) : Option ℕ × Sender :=
  match s.wait with
  | .start => Sender.loop now 0 { s with leds := ledOff 2 (ledOff 1 (ledOff 0 s.leds)) }
  | .sleep i => Sender.loop now (i + 1) (s.slept i)
  | .done => (none, s)

structure Receiver where
  leds : Leds
  data : ℕ → Char
  printed : List String

def Receiver.boot : Receiver where
  leds := ledOn 2 (ledOn 1 (ledOn 0 fun _ => false))
  data := fun _ => Char.ofNat 0
  printed := []

/-- `conn_udp_recvfrom` fails if the packet does not fit; it does not terminate the string. -/
def recvfrom (data : ℕ → Char) (pkt : List Char) : Option (ℕ → Char) :=
  if pkt.length ≤ DATA_SIZE then some (poke data 0 pkt) else none

def Receiver.receive (r : Receiver) (pkt : List Char) : Receiver :=
  match recvfrom r.data pkt with
  | none => r
  | some data =>
    let r := { r with data := data }
    let packetNr := atoi (slice data 0 DATA_SIZE)
    let r :=
      if packetNr = 0 then { r with leds := ledOff 2 (ledOff 1 (ledOff 0 r.leds)) } else r
    if packetNr = Int32.ofNat NUM_PACKETS then
      { r with
        leds := ledOn 2 (ledOn 1 (ledOn 0 r.leds))
        printed := r.printed ++ ["last pkt_no received " ++ toString packetNr.toInt ++ "\n"] }
    else r

/-- The packets on their way, with when they arrive. -/
structure State where
  now : ℕ
  sender : Sender
  channel : List (ℕ × List Char)
  receiver : Receiver

def State.boot : State := ⟨0, .boot, [], .boot⟩

inductive Event
  | pass (n : ℕ)
  | sender (lost : Bool)
  | deliver

/-- The sender has something to do. -/
def Sender.due (s : Sender) (now : ℕ) : Bool :=
  match s.wait with
  | .done => false
  | _ => s.until_ = now

/-- Something is due before `time`. -/
def State.dueBefore (s : State) (time : ℕ) : Bool :=
  match s.sender.wait with
  | .done => s.channel.any fun p => p.1 < time
  | _ => s.sender.until_ < time || s.channel.any fun p => p.1 < time

variable (latency : ℕ)

/-- Time passes up to where something is due. -/
def step (s : State) : Event → Option State
  | .pass n => if s.dueBefore (s.now + n) then none else some { s with now := s.now + n }
  | .sender lost =>
    if s.sender.due s.now then
      let res := s.sender.goOn s.now
      let sent := if lost then none else res.1
      some { s with
        sender := res.2
        channel := s.channel ++ (sent.map fun i => (s.now + latency, text i)).toList }
    else none
  | .deliver =>
    match s.channel with
    | (due, pkt) :: channel =>
      if due = s.now then some { s with channel := channel, receiver := s.receiver.receive pkt }
      else none
    | [] => none

def system : TransitionSystem State Event := ⟨step latency⟩

/-- The LEDs of both nodes in each microsecond so far. -/
structure History where
  sender : List Leds
  receiver : List Leds

def History.note (h : History) (s : State) (e : Event) (_ : State) : History :=
  match e with
  | .pass n =>
    ⟨h.sender ++ List.replicate n s.sender.leds, h.receiver ++ List.replicate n s.receiver.leds⟩
  | _ => h

def measured : TransitionSystem (State × History) Event := (system latency).recording History.note

/-- Neither the first packet nor the one in excess gets lost. -/
def KeepsEnds (s : State) : Event → Prop
  | .sender true => (s.sender.goOn s.now).1 ≠ some 0 ∧ (s.sender.goOn s.now).1 ≠ some NUM_PACKETS
  | _ => True

instance (s : State) : ∀ e, Decidable (KeepsEnds s e)
  | .sender true => inferInstanceAs (Decidable (_ ∧ _))
  | .sender false => .isTrue trivial
  | .pass _ => .isTrue trivial
  | .deliver => .isTrue trivial

def allOn : Leds := fun _ => true

def allOff : Leds := fun _ => false

lemma leds_on (leds : Leds) : ledOn 2 (ledOn 1 (ledOn 0 leds)) = allOn := by
  funext i
  match i with
  | 0 => rfl
  | 1 => rfl
  | 2 => rfl

lemma leds_off (leds : Leds) : ledOff 2 (ledOff 1 (ledOff 0 leds)) = allOff := by
  funext i
  match i with
  | 0 => rfl
  | 1 => rfl
  | 2 => rfl

lemma text_fits {j : ℕ} (hj : j ≤ NUM_PACKETS) : (text j).length ≤ DATA_SIZE := by
  have hj : j ≤ 100 := hj
  have hdigits : (Nat.toDigits 10 j).length ≤ 3 :=
    (Nat.length_toDigits_le_iff (by omega) (by omega)).mpr (by omega)
  have htext : " Msg buffer w/20b".toList.length = 17 := rfl
  rw [text, List.length_append, htext]
  unfold twoDigits DATA_SIZE
  split
  · have hone : (Nat.toDigits 10 j).length ≤ 1 :=
      (Nat.length_toDigits_le_iff (by omega) (by omega)).mpr (by omega)
    rw [List.length_cons]
    omega
  · omega

/-- Whatever an earlier packet has left behind it, the number of the packet is read. -/
lemma packetNr_text (data : ℕ → Char) {j : ℕ} (hj : j ≤ NUM_PACKETS) :
    atoi (slice (poke data 0 (text j)) 0 DATA_SIZE) = Int32.ofNat j := by
  obtain ⟨k, hk⟩ := Nat.exists_eq_add_of_le (text_fits hj)
  have hself := slice_poke_self data 0 (text j)
  rw [hk, slice_add, hself, text, List.append_assoc]
  have hj : j ≤ 100 := hj
  exact atoi_twoDigits (by omega) rfl

lemma receive_text (r : Receiver) {j : ℕ} (hj : j ≤ NUM_PACKETS) :
    (r.receive (text j)).leds =
      if j = 0 then allOff else if j = NUM_PACKETS then allOn else r.leds := by
  have hj' : j ≤ 100 := hj
  have hzero : Int32.ofNat j = 0 ↔ j = 0 := ofNat_eq_ofNat_iff (n := 0) (by omega) (by omega)
  have hlast : Int32.ofNat j = Int32.ofNat NUM_PACKETS ↔ j = NUM_PACKETS :=
    ofNat_eq_ofNat_iff (by omega) (by decide)
  unfold Receiver.receive recvfrom
  rw [if_pos (text_fits hj)]
  simp only [packetNr_text r.data hj, hzero, hlast, leds_on, leds_off]
  by_cases h0 : j = 0
  · have hne : ¬ j = NUM_PACKETS := by
      rw [h0]
      decide
    rw [if_neg hne, if_pos h0, if_pos h0]
  · rw [if_neg h0, if_neg h0]
    by_cases hN : j = NUM_PACKETS
    · rw [if_pos hN, if_pos hN]
    · rw [if_neg hN, if_neg hN]

/-- When packet `j` is sent. -/
def sendTime (j : ℕ) : ℕ := startDelay + j * PACKET_DELAY

/-- The LEDs that are off from `sendTime 0` to `sendTime NUM_PACKETS`, `delay` later. -/
def windowLeds (delay now : ℕ) : Leds := fun _ =>
  !decide (sendTime 0 + delay ≤ now ∧ now < sendTime NUM_PACKETS + delay)

lemma sendTime_succ (j : ℕ) : sendTime (j + 1) = sendTime j + PACKET_DELAY := by
  unfold sendTime
  rw [Nat.succ_mul, Nat.add_assoc]

lemma sendTime_lt {i j : ℕ} (h : i < j) : sendTime i < sendTime j := by
  unfold sendTime PACKET_DELAY
  omega

lemma sendTime_le {i j : ℕ} (h : i ≤ j) : sendTime i ≤ sendTime j := by
  unfold sendTime PACKET_DELAY
  omega

lemma windowLeds_eq (delay now : ℕ) : windowLeds delay now =
    if sendTime 0 + delay ≤ now ∧ now < sendTime NUM_PACKETS + delay then allOff else allOn := by
  funext i
  unfold windowLeds
  by_cases h : sendTime 0 + delay ≤ now ∧ now < sendTime NUM_PACKETS + delay
  · rw [if_pos h, decide_eq_true h]
    rfl
  · rw [if_neg h, decide_eq_false h]
    rfl

lemma windowLeds_delay (delay now : ℕ) : windowLeds delay (delay + now) = windowLeds 0 now := by
  have hwindow : sendTime 0 + delay ≤ delay + now ∧ delay + now < sendTime NUM_PACKETS + delay ↔
      sendTime 0 + 0 ≤ now ∧ now < sendTime NUM_PACKETS + 0 := by
    omega
  rw [windowLeds_eq, windowLeds_eq]
  simp only [hwindow]

/-- How many packets the sender has sent. -/
def Wait.sent : Wait → ℕ
  | .start => 0
  | .sleep i => i + 1
  | .done => NUM_PACKETS + 1

/-- Where the sender stands at a time. -/
inductive SenderAt (now : ℕ) (s : Sender) : Prop
  | start (hwait : s.wait = .start) (hdue : s.until_ = sendTime 0) (hle : now ≤ sendTime 0)
    (hleds : s.leds = allOn)
  | sleep (i : ℕ) (hwait : s.wait = .sleep i) (hi : i ≤ NUM_PACKETS)
    (hdue : s.until_ = sendTime (i + 1)) (hsent : sendTime i ≤ now) (hle : now ≤ sendTime (i + 1))
    (hleds : s.leds = if i < NUM_PACKETS then allOff else allOn)
  | done (hwait : s.wait = .done) (hsent : sendTime (NUM_PACKETS + 1) ≤ now)
    (hleds : s.leds = allOn)

variable {latency}

/-- The packets `js` are on their way. -/
structure Carries (latency now sent : ℕ) (channel : List (ℕ × List Char)) (js : List ℕ) :
    Prop where
  channel : channel = js.map fun j => (sendTime j + latency, text j)
  inOrder : js.Pairwise (· < ·)
  sent : ∀ j ∈ js, j < sent
  early : ∀ j ∈ js, now ≤ sendTime j + latency

/-- Packet `j` was sent and is no longer on its way. -/
def Arrived (sent : ℕ) (js : List ℕ) (j : ℕ) : Prop := j < sent ∧ j ∉ js

structure ReceiverAt (latency now sent : ℕ) (js : List ℕ) (r : Receiver) : Prop where
  off : Arrived sent js 0 → ¬ Arrived sent js NUM_PACKETS → r.leds = allOff
  on : ¬ (Arrived sent js 0 ∧ ¬ Arrived sent js NUM_PACKETS) → r.leds = allOn
  first : Arrived sent js 0 → sendTime 0 + latency ≤ now
  last : Arrived sent js NUM_PACKETS → sendTime NUM_PACKETS + latency ≤ now

/-- The invariant of the experiment. -/
structure Synchronous (latency : ℕ) (s : State) : Prop where
  sender : SenderAt s.now s.sender
  flight : ∃ js, Carries latency s.now s.sender.wait.sent s.channel js ∧
    ReceiverAt latency s.now s.sender.wait.sent js s.receiver

lemma boot_synchronous : Synchronous latency .boot where
  sender := .start rfl (by simp [sendTime, Sender.boot, State.boot]) (Nat.zero_le _) (leds_on _)
  flight :=
    ⟨[], ⟨rfl, .nil, by simp, by simp⟩,
      ⟨fun h => absurd h.1 (Nat.not_lt_zero _), fun _ => leds_on _,
        fun h => absurd h.1 (Nat.not_lt_zero _), fun h => absurd h.1 (Nat.not_lt_zero _)⟩⟩

variable {s t : State} {e : Event}

lemma Sender.until_ne {r : Sender} {now : ℕ} (hwait : r.wait ≠ .done) (h : r.due now = false) :
    r.until_ ≠ now := by
  unfold Sender.due at h
  cases hw : r.wait with
  | start => simpa [hw] using h
  | sleep i => simpa [hw] using h
  | done => exact absurd hw hwait

/-- How far a sender with nothing due has come. -/
lemma SenderAt.idle {now : ℕ} {r : Sender} (h : SenderAt now r) (hdue : r.due now = false) :
    (∀ j, j < r.wait.sent → j ≤ NUM_PACKETS → sendTime j ≤ now) ∧
      (∀ j, r.wait.sent ≤ j → j ≤ NUM_PACKETS → now < sendTime j) ∧
      r.leds = windowLeds 0 now := by
  rw [windowLeds_eq]
  cases h with
  | start hwait huntil hle hleds =>
    have hne := Sender.until_ne (by simp [hwait]) hdue
    rw [hwait, hleds, if_neg (by omega)]
    refine ⟨fun j hj => absurd hj (Nat.not_lt_zero j), fun j _ _ => ?_, rfl⟩
    have := sendTime_le (Nat.zero_le j)
    omega
  | sleep i hwait hi huntil hsent hle hleds =>
    have hne := Sender.until_ne (by simp [hwait]) hdue
    have hfirst := sendTime_le (Nat.zero_le i)
    rw [hwait, hleds]
    refine ⟨fun j hj _ => ?_, fun j hj _ => ?_, ?_⟩
    · have hj : j < i + 1 := hj
      have := sendTime_le (Nat.le_of_lt_succ hj)
      omega
    · have := sendTime_le (show i + 1 ≤ j from hj)
      omega
    · by_cases hlast : i < NUM_PACKETS
      · have := sendTime_le (show i + 1 ≤ NUM_PACKETS from hlast)
        rw [if_pos hlast, if_pos (by omega)]
      · have := sendTime_le (Nat.not_lt.mp hlast)
        rw [if_neg hlast, if_neg (by omega)]
  | done hwait hsent hleds =>
    rw [hwait, hleds]
    refine ⟨fun j _ hj => ?_, fun j hj hle => ?_, ?_⟩
    · have := sendTime_le (show j ≤ NUM_PACKETS + 1 from Nat.le_succ_of_le hj)
      omega
    · exact absurd (show NUM_PACKETS + 1 ≤ j from hj) (by omega)
    · have := sendTime_le (show NUM_PACKETS ≤ NUM_PACKETS + 1 from Nat.le_succ _)
      rw [if_neg (by omega)]

lemma Carries.any {now sent : ℕ} {channel : List (ℕ × List Char)} {js : List ℕ}
    (hc : Carries latency now sent channel js) {j : ℕ} (hj : j ∈ js)
    (hdue : sendTime j + latency = now) : channel.any (fun p => p.1 = now) = true := by
  rw [hc.channel, List.any_map, List.any_eq_true]
  refine ⟨j, hj, ?_⟩
  rw [Function.comp_apply, decide_eq_true_eq]
  exact hdue

/-- The receiver has got what is due, and nothing else. -/
lemma arrived_iff {now sent : ℕ} {channel : List (ℕ × List Char)} {js : List ℕ}
    (hc : Carries latency now sent channel js) (hsent : ∀ j, sent ≤ j → j ≤ NUM_PACKETS →
      now < sendTime j)
    (hchannel : channel.any (fun p => p.1 = now) = false) {j : ℕ} (hj : j ≤ NUM_PACKETS)
    (hgot : Arrived sent js j → sendTime j + latency ≤ now) :
    Arrived sent js j ↔ sendTime j + latency ≤ now := by
  refine ⟨hgot, fun hle => ⟨?_, fun hmem => ?_⟩⟩
  · by_contra hlt
    have := hsent j (Nat.not_lt.mp hlt) hj
    omega
  · have hearly := hc.early j hmem
    have hany := hc.any hmem (Nat.le_antisymm hle hearly)
    rw [hany] at hchannel
    cases hchannel

/-- When nothing is due the LEDs are those of the two windows. -/
lemma Synchronous.leds (h : Synchronous latency s) (hdue : s.sender.due s.now = false)
    (hchannel : s.channel.any (fun p => p.1 = s.now) = false) :
    s.sender.leds = windowLeds 0 s.now ∧ s.receiver.leds = windowLeds latency s.now := by
  obtain ⟨-, hsent, hleds⟩ := h.sender.idle hdue
  obtain ⟨js, hc, hr⟩ := h.flight
  have hfirst := arrived_iff hc hsent hchannel (Nat.zero_le _) hr.first
  have hlast := arrived_iff hc hsent hchannel (Nat.le_refl _) hr.last
  refine ⟨hleds, ?_⟩
  rw [windowLeds_eq]
  by_cases hwindow : sendTime 0 + latency ≤ s.now ∧ s.now < sendTime NUM_PACKETS + latency
  · rw [if_pos hwindow]
    exact hr.off (hfirst.mpr hwindow.1) fun h => absurd (hlast.mp h) (by omega)
  · rw [if_neg hwindow]
    apply hr.on
    rintro ⟨h0, hN⟩
    exact hwindow ⟨hfirst.mp h0, Nat.lt_of_not_le fun hle => hN (hlast.mpr hle)⟩

lemma synchronous_tick (h : Synchronous latency s) (hdue : s.sender.due s.now = false)
    (hchannel : s.channel.any (fun p => p.1 = s.now) = false) :
    Synchronous latency { s with now := s.now + 1 } := by
  obtain ⟨js, hc, hr⟩ := h.flight
  refine ⟨?_, js, ⟨hc.channel, hc.inOrder, hc.sent, ?_⟩, hr.off, hr.on, ?_, ?_⟩
  · cases h.sender with
    | start hwait huntil hle hleds =>
      have hne := Sender.until_ne (by simp [hwait]) hdue
      exact .start hwait huntil (by dsimp only; omega) hleds
    | sleep i hwait hi huntil hsent hle hleds =>
      have hne := Sender.until_ne (by simp [hwait]) hdue
      exact .sleep i hwait hi huntil (by dsimp only; omega) (by dsimp only; omega) hleds
    | done hwait hsent hleds => exact .done hwait (Nat.le_succ_of_le hsent) hleds
  · intro j hj
    have hle := hc.early j hj
    have hne : sendTime j + latency ≠ s.now := by
      intro heq
      have hany := hc.any hj heq
      rw [hany] at hchannel
      cases hchannel
    dsimp only
    omega
  · exact fun h0 => Nat.le_succ_of_le (hr.first h0)
  · exact fun hN => Nat.le_succ_of_le (hr.last hN)

lemma SenderAt.sent_le {now : ℕ} {r : Sender} (h : SenderAt now r) :
    r.wait.sent ≤ NUM_PACKETS + 1 := by
  cases h with
  | start hwait =>
    rw [hwait]
    exact Nat.zero_le _
  | sleep i hwait hi =>
    rw [hwait]
    exact Nat.succ_le_succ hi
  | done hwait =>
    rw [hwait]
    exact Nat.le_refl _

lemma synchronous_deliver (h : Synchronous latency s) {pkt : List Char}
    {channel : List (ℕ × List Char)} (hc : s.channel = (s.now, pkt) :: channel) :
    Synchronous latency { s with channel := channel, receiver := s.receiver.receive pkt } := by
  obtain ⟨js, hcarries, hr⟩ := h.flight
  have hjs := hcarries.channel
  rw [hc] at hjs
  cases js with
  | nil => cases hjs
  | cons j js =>
    obtain ⟨⟨hnow, rfl⟩, hrest⟩ := List.cons.inj hjs |>.imp_left Prod.mk.inj
    obtain ⟨hlt, horder⟩ := List.pairwise_cons.mp hcarries.inOrder
    have hnotin : j ∉ js := fun hmem => Nat.lt_irrefl j (hlt j hmem)
    have hj := hcarries.sent j List.mem_cons_self
    have hle : j ≤ NUM_PACKETS := by
      have := h.sender.sent_le
      omega
    have harrived : ∀ k, Arrived s.sender.wait.sent js k ↔
        Arrived s.sender.wait.sent (j :: js) k ∨ k = j := by
      intro k
      unfold Arrived
      rw [List.mem_cons]
      by_cases hk : k = j
      · subst hk
        simp [hj, hnotin]
      · simp [hk]
    have hleds := receive_text s.receiver hle
    have hends : j = 0 → ¬ Arrived s.sender.wait.sent (j :: js) NUM_PACKETS := by
      rintro rfl hN
      have := hr.last hN
      have := sendTime_lt (show 0 < NUM_PACKETS by decide)
      omega
    refine ⟨h.sender, js, ⟨hrest, horder, fun k hk => hcarries.sent k (.tail j hk),
      fun k hk => hcarries.early k (.tail j hk)⟩, ?_, ?_, ?_, ?_⟩
    · intro h0 hN
      rw [harrived] at h0 hN
      by_cases hj0 : j = 0
      · rw [hleds, if_pos hj0]
      · have hjN : ¬ j = NUM_PACKETS := fun hjN => hN (.inr hjN.symm)
        rw [hleds, if_neg hj0, if_neg hjN]
        exact hr.off (h0.resolve_right fun h => hj0 h.symm) fun h => hN (.inl h)
    · intro hnot
      rw [harrived, harrived] at hnot
      by_cases hj0 : j = 0
      · refine absurd ⟨.inr hj0.symm, ?_⟩ hnot
        rintro (hN | hN)
        · exact hends hj0 hN
        · exact absurd (hN.trans hj0) (by decide)
      · rw [hleds, if_neg hj0]
        by_cases hjN : j = NUM_PACKETS
        · rw [if_pos hjN]
        · rw [if_neg hjN]
          apply hr.on
          rintro ⟨h0, hN⟩
          exact hnot ⟨.inl h0, fun h => hN (h.resolve_right fun h => hjN h.symm)⟩
    · intro h0
      obtain h0 | h0 := (harrived 0).mp h0
      · exact hr.first h0
      · rw [h0]
        exact Nat.le_of_eq hnow.symm
    · intro hN
      obtain hN | hN := (harrived NUM_PACKETS).mp hN
      · exact hr.last hN
      · rw [hN]
        exact Nat.le_of_eq hnow.symm

lemma Sender.until_eq {r : Sender} {now : ℕ} (h : r.due now = true) : r.until_ = now := by
  unfold Sender.due at h
  cases hw : r.wait with
  | start => simpa [hw] using h
  | sleep i => simpa [hw] using h
  | done => simp [hw] at h

lemma Sender.loop_of_lt {now i : ℕ} {r : Sender} (hi : i < NUM_PACKETS + 1) :
    r.loop now i = (some i, { r with wait := .sleep i, until_ := now + PACKET_DELAY }) :=
  if_pos hi

lemma Sender.goOn_start {now : ℕ} {r : Sender} (h : r.wait = .start) : r.goOn now =
    Sender.loop now 0 { r with leds := ledOff 2 (ledOff 1 (ledOff 0 r.leds)) } := by
  obtain ⟨leds, wait, until_, printed⟩ := r
  cases h
  rfl

lemma Sender.goOn_sleep {now i : ℕ} {r : Sender} (h : r.wait = .sleep i) :
    r.goOn now = (r.slept i).loop now (i + 1) := by
  obtain ⟨leds, wait, until_, printed⟩ := r
  cases h
  rfl

lemma Sender.slept_leds {i : ℕ} {r : Sender}
    (h : r.leds = if i < NUM_PACKETS then allOff else allOn) :
    (r.slept i).leds = if i + 1 < NUM_PACKETS then allOff else allOn := by
  have hpos : 0 < NUM_PACKETS := by decide
  unfold Sender.slept
  by_cases hlast : i = NUM_PACKETS - 1
  · rw [if_pos hlast, if_neg (by omega)]
    exact leds_on _
  · rw [if_neg hlast, h]
    by_cases hlt : i < NUM_PACKETS
    · rw [if_pos hlt, if_pos (by omega)]
    · rw [if_neg hlt, if_neg (by omega)]

/-- The sender sends its next packet on time, or it has sent them all. -/
lemma SenderAt.goOn {now : ℕ} {r : Sender} (h : SenderAt now r) (hdue : r.due now = true) :
    SenderAt now (r.goOn now).2 ∧
      ((r.goOn now).1 = some r.wait.sent ∧ (r.goOn now).2.wait.sent = r.wait.sent + 1 ∧
          now = sendTime r.wait.sent ∨
        (r.goOn now).1 = none ∧ (r.goOn now).2.wait.sent = r.wait.sent) := by
  have hnow := Sender.until_eq hdue
  cases h with
  | start hwait huntil hle hleds =>
    have hfirst : now = sendTime 0 := hnow.symm.trans huntil
    have hnext := sendTime_succ 0
    rw [Sender.goOn_start hwait, Sender.loop_of_lt (by decide), hwait]
    refine ⟨.sleep 0 rfl (Nat.zero_le _) ?_ ?_ ?_ ?_, .inl ⟨rfl, rfl, hfirst⟩⟩
    · rw [hnext, hfirst]
    · exact Nat.le_of_eq hfirst.symm
    · omega
    · exact leds_off _
  | sleep i hwait hi huntil hsent hle hleds =>
    have hturn : now = sendTime (i + 1) := hnow.symm.trans huntil
    have hnext := sendTime_succ (i + 1)
    rw [Sender.goOn_sleep hwait, hwait]
    by_cases hlt : i + 1 < NUM_PACKETS + 1
    · rw [Sender.loop_of_lt hlt]
      refine ⟨.sleep (i + 1) rfl (Nat.le_of_lt_succ hlt) ?_ ?_ ?_ (Sender.slept_leds hleds),
        .inl ⟨rfl, rfl, hturn⟩⟩
      · rw [hnext, hturn]
      · exact Nat.le_of_eq hturn.symm
      · omega
    · have hiN : i = NUM_PACKETS := by omega
      have hleds' := Sender.slept_leds hleds
      rw [if_neg (by omega)] at hleds'
      unfold Sender.loop
      rw [if_neg hlt]
      refine ⟨.done rfl ?_ hleds', .inr ⟨rfl, ?_⟩⟩
      · rw [← hiN, hturn]
      · rw [hiN]
        rfl
  | done hwait =>
    unfold Sender.due at hdue
    rw [hwait] at hdue
    cases hdue

lemma ReceiverAt.of_arrived {now sent sent' : ℕ} {js js' : List ℕ} {r : Receiver}
    (h : ReceiverAt latency now sent js r) (h0 : Arrived sent' js' 0 ↔ Arrived sent js 0)
    (hN : Arrived sent' js' NUM_PACKETS ↔ Arrived sent js NUM_PACKETS) :
    ReceiverAt latency now sent' js' r := by
  refine ⟨?_, ?_, ?_, ?_⟩
  · rw [h0, hN]
    exact h.off
  · rw [h0, hN]
    exact h.on
  · rw [h0]
    exact h.first
  · rw [hN]
    exact h.last

lemma arrived_append {sent j : ℕ} {js : List ℕ} :
    Arrived (sent + 1) (js ++ [sent]) j ↔ Arrived sent js j := by
  unfold Arrived
  rw [List.mem_append, List.mem_singleton]
  constructor
  · rintro ⟨hlt, hnot⟩
    exact ⟨by omega, fun hj => hnot (.inl hj)⟩
  · rintro ⟨hlt, hnot⟩
    refine ⟨by omega, ?_⟩
    rintro (hj | hj)
    · exact hnot hj
    · omega

lemma arrived_succ {sent j : ℕ} {js : List ℕ} (hj : j ≠ sent) :
    Arrived (sent + 1) js j ↔ Arrived sent js j := by
  unfold Arrived
  refine and_congr_left fun _ => ?_
  omega

lemma synchronous_sender (h : Synchronous latency s) {lost : Bool}
    (hdue : s.sender.due s.now = true) (hk : KeepsEnds s (.sender lost)) :
    Synchronous latency
      { s with
        sender := (s.sender.goOn s.now).2
        channel := s.channel ++ ((if lost then none else (s.sender.goOn s.now).1).map
          fun i => (s.now + latency, text i)).toList } := by
  obtain ⟨hsender, hsend⟩ := h.sender.goOn hdue
  obtain ⟨js, hc, hr⟩ := h.flight
  obtain ⟨hsome, hsent, hnow⟩ | ⟨hnone, hsent⟩ := hsend
  · cases lost with
    | false =>
      refine ⟨hsender, js ++ [s.sender.wait.sent], ⟨?_, ?_, ?_, ?_⟩, hr.of_arrived ?_ ?_⟩
      · rw [hsome, hc.channel, List.map_append, hnow]
        rfl
      · refine List.pairwise_append.mpr ⟨hc.inOrder, List.pairwise_singleton _ _, ?_⟩
        intro j hj k hk
        rw [List.mem_singleton.mp hk]
        exact hc.sent j hj
      · intro j hj
        rw [hsent]
        cases List.mem_append.mp hj with
        | inl hj => exact Nat.lt_succ_of_lt (hc.sent j hj)
        | inr hj =>
          rw [List.mem_singleton.mp hj]
          exact Nat.lt_succ_self _
      · intro j hj
        cases List.mem_append.mp hj with
        | inl hj => exact hc.early j hj
        | inr hj =>
          rw [List.mem_singleton.mp hj]
          dsimp only
          omega
      · rw [hsent]
        exact arrived_append
      · rw [hsent]
        exact arrived_append
    | true =>
      obtain ⟨h0, hN⟩ := hk
      rw [hsome] at h0 hN
      refine ⟨hsender, js, ⟨by simp [hc.channel], hc.inOrder, ?_, hc.early⟩, hr.of_arrived ?_ ?_⟩
      · intro j hj
        rw [hsent]
        exact Nat.lt_succ_of_lt (hc.sent j hj)
      · rw [hsent]
        exact arrived_succ fun h => h0 (congrArg some h.symm)
      · rw [hsent]
        exact arrived_succ fun h => hN (congrArg some h.symm)
  · refine ⟨hsender, js, ⟨by simp [hnone, hc.channel], hc.inOrder, ?_, hc.early⟩, ?_⟩
    · rw [hsent]
      exact hc.sent
    · rw [hsent]
      exact hr

/-- What is due now is due before the next microsecond. -/
lemma State.not_due {n : ℕ} (h : s.dueBefore (s.now + n) = false) {k : ℕ} (hk : k < n) :
    s.sender.due (s.now + k) = false ∧ s.channel.any (fun p => p.1 = s.now + k) = false := by
  have hchannel : s.channel.any (fun p => p.1 < s.now + n) = false →
      s.channel.any (fun p => p.1 = s.now + k) = false := by
    intro hnone
    rw [List.any_eq_false] at hnone ⊢
    intro p hp
    have := hnone p hp
    simp only [decide_eq_true_eq] at this ⊢
    omega
  unfold State.dueBefore at h
  unfold Sender.due
  cases hw : s.sender.wait with
  | done =>
    rw [hw] at h
    exact ⟨rfl, hchannel h⟩
  | start =>
    rw [hw] at h
    obtain ⟨hsender, hnone⟩ := Bool.or_eq_false_iff.mp h
    refine ⟨?_, hchannel hnone⟩
    simp only [decide_eq_false_iff_not] at hsender ⊢
    omega
  | sleep i =>
    rw [hw] at h
    obtain ⟨hsender, hnone⟩ := Bool.or_eq_false_iff.mp h
    refine ⟨?_, hchannel hnone⟩
    simp only [decide_eq_false_iff_not] at hsender ⊢
    omega

/-- Time passes one microsecond after the other. -/
lemma synchronous_pass (h : Synchronous latency s) {n : ℕ}
    (hnone : s.dueBefore (s.now + n) = false) :
    ∀ k, k ≤ n → Synchronous latency { s with now := s.now + k } ∧ ∀ i, i < k →
      s.sender.leds = windowLeds 0 (s.now + i) ∧
        s.receiver.leds = windowLeds latency (s.now + i) := by
  intro k
  induction k with
  | zero => exact fun _ => ⟨h, fun i hi => absurd hi (Nat.not_lt_zero i)⟩
  | succ k ih =>
    intro hk
    obtain ⟨hsync, hleds⟩ := ih (Nat.le_of_succ_le hk)
    obtain ⟨hdue, hchannel⟩ := s.not_due hnone hk
    refine ⟨synchronous_tick hsync hdue hchannel, fun i hi => ?_⟩
    by_cases hik : i < k
    · exact hleds i hik
    · obtain rfl : i = k := by omega
      exact hsync.leds hdue hchannel

lemma step_cases (hs : step latency s e = some t) :
    (∃ n, e = .pass n ∧ s.dueBefore (s.now + n) = false ∧ t = { s with now := s.now + n }) ∨
      (∃ lost, e = .sender lost ∧ s.sender.due s.now = true ∧
        t = { s with
          sender := (s.sender.goOn s.now).2
          channel := s.channel ++ ((if lost then none else (s.sender.goOn s.now).1).map
            fun i => (s.now + latency, text i)).toList }) ∨
      (e = .deliver ∧ ∃ pkt channel, s.channel = (s.now, pkt) :: channel ∧
        t = { s with channel := channel, receiver := s.receiver.receive pkt }) := by
  cases e with
  | pass n =>
    change (if s.dueBefore (s.now + n) then none else some { s with now := s.now + n }) =
      some t at hs
    by_cases hdue : s.dueBefore (s.now + n) = true
    · rw [if_pos hdue] at hs
      cases hs
    · rw [if_neg hdue] at hs
      exact .inl ⟨n, rfl, Bool.eq_false_iff.mpr hdue, (Option.some.inj hs).symm⟩
  | sender lost =>
    change (if s.sender.due s.now then some _ else none) = some t at hs
    by_cases hdue : s.sender.due s.now = true
    · rw [if_pos hdue] at hs
      exact .inr (.inl ⟨lost, rfl, hdue, (Option.some.inj hs).symm⟩)
    · rw [if_neg hdue] at hs
      cases hs
  | deliver =>
    unfold step at hs
    cases hc : s.channel with
    | nil => simp [hc] at hs
    | cons p channel =>
      obtain ⟨due, pkt⟩ := p
      simp only [hc] at hs
      by_cases hdue : due = s.now
      · subst hdue
        rw [if_pos rfl] at hs
        exact .inr (.inr ⟨rfl, pkt, channel, rfl, (Option.some.inj hs).symm⟩)
      · rw [if_neg hdue] at hs
        cases hs

lemma synchronous_step (h : Synchronous latency s) (hk : KeepsEnds s e)
    (hs : step latency s e = some t) : Synchronous latency t := by
  obtain ⟨n, -, hnone, rfl⟩ | ⟨lost, rfl, hdue, rfl⟩ | ⟨-, pkt, channel, hc, rfl⟩ :=
    step_cases hs
  · exact (synchronous_pass h hnone n (Nat.le_refl n)).1
  · exact synchronous_sender h hdue hk
  · exact synchronous_deliver h hc

/-- For how long all LEDs were off. -/
def offTime (leds : List Leds) : ℕ := leds.countP fun leds => !(leds 0 || leds 1 || leds 2)

lemma countP_range (a b n : ℕ) : (List.range n).countP (fun τ => a ≤ τ ∧ τ < b) =
    min n b - min n a := by
  induction n with
  | zero => simp
  | succ n ih =>
    rw [List.range_succ, List.countP_append, ih, List.countP_singleton]
    by_cases h : a ≤ n ∧ n < b
    · rw [if_pos (decide_eq_true h)]
      omega
    · rw [if_neg (by simpa using h)]
      omega

lemma offTime_window (delay now : ℕ) : offTime ((List.range now).map (windowLeds delay)) =
    min now (sendTime NUM_PACKETS + delay) - min now (sendTime 0 + delay) := by
  rw [← countP_range, offTime, List.countP_map]
  congr 1
  funext τ
  simp [windowLeds]

lemma map_range_add {f : ℕ → Leds} {leds : Leds} {m n : ℕ} (h : ∀ i, i < n → f (m + i) = leds) :
    (List.range (m + n)).map f = (List.range m).map f ++ List.replicate n leds := by
  rw [List.range_add, List.map_append, List.map_map]
  congr 1
  rw [List.eq_replicate_iff]
  refine ⟨by simp, ?_⟩
  intro x hx
  obtain ⟨i, hi, rfl⟩ := List.mem_map.mp hx
  exact h i (List.mem_range.mp hi)

/-- The histories are those of the two windows. -/
structure Measured (latency : ℕ) (p : State × History) : Prop where
  synchronous : Synchronous latency p.1
  sender : p.2.sender = (List.range p.1.now).map (windowLeds 0)
  receiver : p.2.receiver = (List.range p.1.now).map (windowLeds latency)

lemma measured_step (p : State × History) (e : Event) (q : State × History)
    (h : Measured latency p) (hk : KeepsEnds p.1 e) (hs : (measured latency).step p e = some q) :
    Measured latency q := by
  obtain ⟨s, hist⟩ := p
  obtain ⟨t, hist'⟩ := q
  obtain ⟨hstep, hnote⟩ := TransitionSystem.recording_step.mp hs
  change step latency s e = some t at hstep
  change hist' = hist.note s e t at hnote
  subst hnote
  have hsync := synchronous_step h.synchronous hk hstep
  obtain ⟨n, rfl, hnone, rfl⟩ | ⟨lost, rfl, -, rfl⟩ | ⟨rfl, pkt, channel, -, rfl⟩ :=
    step_cases hstep
  · have hleds := (synchronous_pass h.synchronous hnone n (Nat.le_refl n)).2
    refine ⟨hsync, ?_, ?_⟩
    · change hist.sender ++ List.replicate n s.sender.leds =
        (List.range (s.now + n)).map (windowLeds 0)
      rw [map_range_add fun i hi => (hleds i hi).1.symm, ← h.sender]
    · change hist.receiver ++ List.replicate n s.receiver.leds =
        (List.range (s.now + n)).map (windowLeds latency)
      rw [map_range_add fun i hi => (hleds i hi).2.symm, ← h.receiver]
  · exact ⟨hsync, h.sender, h.receiver⟩
  · exact ⟨hsync, h.sender, h.receiver⟩

lemma Measured.mirrored {p : State × History} (h : Measured latency p) :
    p.2.receiver.drop latency <+: p.2.sender := by
  rw [h.sender, h.receiver]
  rcases Nat.le_total latency p.1.now with hle | hle
  · obtain ⟨k, hk⟩ := Nat.exists_eq_add_of_le hle
    have hdrop : ((List.range p.1.now).map (windowLeds latency)).drop latency =
        (List.range k).map (windowLeds 0) := by
      rw [hk, List.range_add, List.map_append, List.drop_left' (by simp), List.map_map]
      apply List.map_congr_left
      intro τ _
      exact windowLeds_delay latency τ
    rw [hdrop]
    apply List.IsPrefix.map
    rw [hk, Nat.add_comm, List.range_add]
    exact List.prefix_append _ _
  · rw [List.drop_eq_nil_of_le (by simpa using hle)]
    exact List.nil_prefix

lemma Measured.offTime {p : State × History} (h : Measured latency p)
    (hdone : p.1.sender.wait = .done) (hchannel : p.1.channel = []) :
    offTime p.2.sender = NUM_PACKETS * PACKET_DELAY ∧
      offTime p.2.receiver = NUM_PACKETS * PACKET_DELAY := by
  have hsent : sendTime (NUM_PACKETS + 1) ≤ p.1.now := by
    cases h.synchronous.sender with
    | start hwait => simp [hwait] at hdone
    | sleep i hwait => simp [hwait] at hdone
    | done _ hsent => exact hsent
  have harrived : sendTime NUM_PACKETS + latency ≤ p.1.now := by
    obtain ⟨js, hc, hr⟩ := h.synchronous.flight
    apply hr.last
    rw [hdone]
    refine ⟨Nat.lt_succ_self _, ?_⟩
    have hnil := hc.channel
    rw [hchannel] at hnil
    rw [List.map_eq_nil_iff.mp hnil.symm]
    exact List.not_mem_nil
  have hwindow : sendTime NUM_PACKETS = sendTime 0 + NUM_PACKETS * PACKET_DELAY := by
    unfold sendTime
    omega
  have hnext := sendTime_succ NUM_PACKETS
  rw [h.sender, h.receiver, offTime_window, offTime_window]
  omega

/-- Whatever else gets lost, the LEDs of the receiver are those of the sender, later by the time a
packet takes, and both nodes are measured for equally long. -/
theorem receiver_mirrors_sender {es : List Event} {s : State} {h : History}
    (hrun : (measured latency).run (.boot, ⟨[], []⟩) es = some (s, h))
    (hk : (measured latency).Meets (fun p e => KeepsEnds p.1 e) (.boot, ⟨[], []⟩) es) :
    h.receiver.drop latency <+: h.sender ∧
      (s.sender.wait = .done → s.channel = [] →
        offTime h.sender = NUM_PACKETS * PACKET_DELAY ∧
          offTime h.receiver = NUM_PACKETS * PACKET_DELAY) := by
  have hm : Measured latency (s, h) := (TransitionSystem.reach_of_run hk hrun).invariant
    ⟨boot_synchronous, rfl, rfl⟩ measured_step
  exact ⟨hm.mirrored, hm.offTime⟩

/-- The first three packets, of which the third gets lost. -/
def losesThird : List Event :=
  [.pass startDelay, .sender false, .pass 700, .deliver, .pass 999300, .sender false, .pass 700,
    .deliver, .pass 999300, .sender true, .pass 5000]

theorem receiver_mirrors_sender_losesThird :
    ∃ s h, (measured 700).run (.boot, ⟨[], []⟩) losesThird = some (s, h) ∧
      h.receiver.drop 700 <+: h.sender := by
  obtain ⟨s, hrun⟩ : ∃ s, (system 700).run .boot losesThird = some s :=
    Option.isSome_iff_exists.mp (by decide +kernel)
  have hk : (system 700).Meets KeepsEnds .boot losesThird := by decide +kernel
  obtain ⟨h, hrun⟩ := TransitionSystem.exists_recording_run History.note ⟨[], []⟩ hrun
  exact ⟨s, h, hrun,
    (receiver_mirrors_sender hrun (TransitionSystem.meets_recording.mpr hk)).1⟩

end Power

end RiotPlayground
