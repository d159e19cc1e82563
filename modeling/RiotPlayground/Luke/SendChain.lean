import RiotPlayground.Luke.Controller

/-!
# The send chain of the controller

While sends remain there is one token: the armed timer, the message in the queue, the client between
its receipt and the next schedule, or the interrupt that is about to schedule.
-/

namespace RiotPlayground

namespace Luke

namespace Controller

/-- The send for which the interrupt is responsible. -/
def Isr.token : Isr → ℕ
  | .schedule => 1
  | _ => 0

/-- The send for which the client is responsible. -/
def Client.token : Client → ℕ
  | .received _ => 1
  | .taken _ => 1
  | .schedule _ => 1
  | _ => 0

/-- What the client is about to subtract from `_sends_remaining`. -/
def Client.due : Client → ℕ
  | .taken _ => 1
  | _ => 0

lemma Client.due_le_one (client : Client) : client.due ≤ 1 := by
  unfold Client.due
  split
  · exact Nat.le_refl 1
  · exact Nat.zero_le 1

def State.timerToken (s : State) : ℕ := if s.timerArmed then 1 else 0

/-- The sends that are under way: the timer is armed, or a message is queued. -/
def State.outstanding (s : State) : ℕ := s.timerToken + s.queue.length

structure OneToken (s : State) : Prop where
  queued : ∀ type ∈ s.queue, type = LUKE_MSG_TYPE_SEND_POINTS
  received : ∀ type, s.client = .received type → type = LUKE_MSG_TYPE_SEND_POINTS
  token : s.outstanding + s.isr.token + s.client.token = if s.sendsRemaining.toNat = 0 then 0 else 1
  covered : 0 < s.counter → s.isr ≠ .counted → s.client.due < s.sendsRemaining.toNat

lemma oneToken_init : OneToken init where
  queued := by intro type h; cases h
  received := by intro type h; cases h
  token := rfl
  covered := by intro h; exact absurd h (by decide)

variable {s t : State}

lemma OneToken.remaining (h : OneToken s)
    (htoken : 0 < s.outstanding + s.isr.token + s.client.token) : 0 < s.sendsRemaining.toNat := by
  have := h.token
  split at this <;> omega

lemma OneToken.atMostOne (h : OneToken s) : s.outstanding + s.isr.token + s.client.token ≤ 1 := by
  have := h.token
  split at this <;> omega

/-- An empty chain: where another token is, the timer is not armed and the queue is empty. -/
lemma OneToken.idle (h : OneToken s) (htoken : 0 < s.isr.token + s.client.token) :
    s.timerArmed = false ∧ s.queue = [] := by
  have hone := h.atMostOne
  unfold State.outstanding State.timerToken at hone
  refine ⟨?_, List.length_eq_zero_iff.mp (by omega)⟩
  cases harmed : s.timerArmed with
  | false => rfl
  | true =>
    rw [harmed, if_pos rfl] at hone
    omega

lemma OneToken.armed (h : OneToken s) (harmed : s.timerArmed = true) :
    s.queue = [] ∧ s.isr.token = 0 ∧ s.client.token = 0 ∧ s.sendsRemaining.toNat ≠ 0 := by
  have hone := h.atMostOne
  have hremaining := h.remaining
  unfold State.outstanding State.timerToken at hone hremaining
  rw [harmed, if_pos rfl] at hone hremaining
  exact ⟨List.length_eq_zero_iff.mp (by omega), by omega, by omega, by omega⟩

lemma oneToken_press (h : OneToken s) (hs : press s = some t) : OneToken t := by
  unfold press at hs
  split at hs
  · rename_i hidle
    obtain rfl := Option.some.inj hs
    refine ⟨h.queued, h.received, ?_, fun _ hcounted => absurd rfl hcounted⟩
    have htoken := h.token
    rw [hidle.2] at htoken
    exact htoken
  · cases hs

lemma oneToken_isrExchange (h : OneToken s) (hs : isrExchange s = some t) : OneToken t := by
  unfold isrExchange at hs
  split at hs
  · rename_i hcounted
    obtain rfl := Option.some.inj hs
    have htoken := h.token
    rw [hcounted] at htoken
    refine ⟨h.queued, h.received, ?_, fun _ _ => ?_⟩
    · change s.outstanding + Isr.token (if s.sendsRemaining = 0 then .schedule else .idle) +
        s.client.token = 1
      by_cases hzero : s.sendsRemaining = 0
      · rw [hzero, if_pos (by rfl)] at htoken
        rw [if_pos hzero]
        unfold Isr.token at htoken ⊢
        dsimp only at htoken ⊢
        omega
      · have hne : s.sendsRemaining.toNat ≠ 0 := fun hz => hzero (UInt32.toNat_inj.mp hz)
        rw [if_neg hne] at htoken
        rw [if_neg hzero]
        exact htoken
    · change s.client.due < 10
      exact Nat.lt_of_le_of_lt s.client.due_le_one (by decide)
  · cases hs

lemma oneToken_isrSchedule (h : OneToken s) (hs : isrSchedule s = some t) : OneToken t := by
  unfold isrSchedule at hs
  split at hs
  · rename_i hschedule
    obtain rfl := Option.some.inj hs
    have htoken := h.token
    obtain ⟨harmed, hqueue⟩ := h.idle (by rw [hschedule]; exact Nat.le_add_right 1 _)
    refine ⟨h.queued, h.received, ?_, fun hcounter _ => ?_⟩
    · unfold State.outstanding State.timerToken at htoken ⊢
      rw [hschedule, harmed, hqueue] at htoken
      dsimp only
      rw [← htoken, hqueue]
      rfl
    · exact h.covered hcounter (by rw [hschedule]; decide)
  · cases hs

lemma oneToken_expire (h : OneToken s) (hs : expire s = some t) : OneToken t := by
  unfold expire at hs
  split at hs
  · rename_i harmed
    obtain rfl := Option.some.inj hs
    obtain ⟨hqueue, hisr, hclient, hremaining⟩ := h.armed harmed
    unfold deliver
    dsimp only
    split
    · rename_i hwaiting
      refine ⟨h.queued, fun type htype => ?_, ?_, fun hcounter hcounted => ?_⟩
      · cases htype
        rfl
      · unfold State.outstanding State.timerToken
        dsimp only
        rw [hqueue, hisr, if_neg hremaining]
        rfl
      · exact Nat.pos_of_ne_zero hremaining
    · rw [hqueue, if_pos (by decide)]
      refine ⟨fun type htype => List.mem_singleton.mp htype, h.received, ?_, h.covered⟩
      unfold State.outstanding State.timerToken
      dsimp only
      rw [hisr, hclient, if_neg hremaining]
      rfl
  · cases hs

lemma oneToken_receive (h : OneToken s) (hs : receive s = some t) : OneToken t := by
  have htoken := h.token
  unfold receive at hs
  split at hs
  · rename_i hclient hqueue
    obtain rfl := Option.some.inj hs
    rw [hclient] at htoken
    refine ⟨h.queued, fun _ htype => (nomatch htype), htoken, fun hcounter hcounted => ?_⟩
    have := h.covered hcounter hcounted
    rw [hclient] at this
    exact this
  · rename_i type queue hclient hqueue
    obtain rfl := Option.some.inj hs
    have hqueued := h.queued
    rw [hqueue] at hqueued
    refine ⟨fun u hu => hqueued u (List.mem_cons_of_mem _ hu), fun u hu => ?_, ?_,
      fun hcounter hcounted => ?_⟩
    · cases hu
      exact hqueued type List.mem_cons_self
    · unfold State.outstanding at htoken ⊢
      rw [hclient, hqueue, List.length_cons] at htoken
      rw [← htoken]
      unfold Client.token State.timerToken
      dsimp only
      omega
    · have := h.covered hcounter hcounted
      rw [hclient] at this
      exact this
  · cases hs

lemma oneToken_takeCounter (h : OneToken s) (hs : takeCounter s = some t) : OneToken t := by
  unfold takeCounter at hs
  split at hs
  · rename_i type hclient
    rw [if_pos (h.received type hclient)] at hs
    obtain rfl := Option.some.inj hs
    have htoken := h.token
    rw [hclient] at htoken
    exact ⟨h.queued, fun _ htype => (nomatch htype), htoken,
      fun hcounter => absurd hcounter (by decide : ¬ (0 : UInt32) < LUKE_START_VALUE)⟩
  · cases hs

lemma oneToken_decrement (h : OneToken s) (hs : decrement s = some t) : OneToken t := by
  unfold decrement at hs
  split at hs
  · rename_i counter hclient
    obtain rfl := Option.some.inj hs
    have htoken := h.token
    have hcovered := h.covered
    have hpos : 0 < s.sendsRemaining.toNat :=
      h.remaining (by rw [hclient]; exact Nat.le_add_left 1 _)
    have hsub : (s.sendsRemaining - 1).toNat = s.sendsRemaining.toNat - 1 :=
      UInt32.toNat_sub_of_le _ _ (UInt32.le_iff_toNat_le.mpr hpos)
    have hlt : 1 < s.sendsRemaining ↔ 1 < s.sendsRemaining.toNat := UInt32.lt_iff_toNat_lt
    rw [hclient, if_neg (Nat.ne_of_gt hpos)] at htoken
    rw [hclient] at hcovered
    refine ⟨h.queued, fun type htype => ?_, ?_, fun hcounter hcounted => ?_⟩
    · dsimp only at htype
      split at htype <;> cases htype
    · change s.outstanding + s.isr.token + Client.token (if 1 < s.sendsRemaining then _ else _) =
        if (s.sendsRemaining - 1).toNat = 0 then 0 else 1
      rw [hsub]
      by_cases hmore : 1 < s.sendsRemaining
      · have hrest : ¬ s.sendsRemaining.toNat - 1 = 0 := Nat.sub_ne_zero_of_lt (hlt.mp hmore)
        rw [if_pos hmore, if_neg hrest]
        exact htoken
      · have hrest : s.sendsRemaining.toNat - 1 = 0 :=
          Nat.sub_eq_zero_of_le (Nat.le_of_not_lt fun hc => hmore (hlt.mpr hc))
        rw [if_neg hmore, if_pos hrest]
        exact Nat.succ.inj htoken
    · have hdue : 1 < s.sendsRemaining.toNat := hcovered hcounter hcounted
      dsimp only
      rw [hsub, if_pos (hlt.mpr hdue)]
      unfold Client.due
      dsimp only
      omega
  · cases hs

lemma oneToken_schedule (h : OneToken s) (hs : schedule s = some t) : OneToken t := by
  unfold schedule at hs
  split at hs
  · rename_i counter hclient
    obtain rfl := Option.some.inj hs
    have htoken := h.token
    have hcovered := h.covered
    obtain ⟨harmed, hqueue⟩ := h.idle (by rw [hclient]; exact Nat.le_add_left 1 _)
    rw [hclient] at hcovered
    refine ⟨h.queued, fun _ htype => (nomatch htype), ?_, hcovered⟩
    unfold State.outstanding State.timerToken at htoken ⊢
    rw [hclient, harmed, hqueue] at htoken
    dsimp only
    rw [← htoken, hqueue]
    unfold Client.token
    dsimp only [List.length_nil]
    rw [if_pos rfl, if_neg Bool.false_ne_true]
    omega
  · cases hs

lemma oneToken_post {now later : UInt32} {res : ℕ} (h : OneToken s)
    (hs : post now later res s = some t) : OneToken t := by
  unfold post at hs
  split at hs
  · rename_i counter hclient
    obtain rfl := Option.some.inj hs
    have htoken := h.token
    have hcovered := h.covered
    rw [hclient] at htoken hcovered
    exact ⟨h.queued, fun _ htype => (nomatch htype), htoken, hcovered⟩
  · cases hs

lemma oneToken_step {e : Event} (h : OneToken s) (hs : step s e = some t) : OneToken t := by
  cases e with
  | press => exact oneToken_press h hs
  | isrExchange => exact oneToken_isrExchange h hs
  | isrSchedule => exact oneToken_isrSchedule h hs
  | enableButton =>
    obtain rfl := Option.some.inj (Option.ite_none_left_eq_some.mp hs).2
    exact ⟨h.queued, h.received, h.token, h.covered⟩
  | expire => exact oneToken_expire h hs
  | receive => exact oneToken_receive h hs
  | takeCounter => exact oneToken_takeCounter h hs
  | decrement => exact oneToken_decrement h hs
  | schedule => exact oneToken_schedule h hs
  | post now later res => exact oneToken_post h hs
  | setTarget remote path =>
    obtain rfl := Option.some.inj hs
    exact ⟨h.queued, h.received, h.token, h.covered⟩

lemma oneToken_reach (h : controller.Reach (fun _ _ => True) init s) : OneToken s :=
  h.invariant oneToken_init fun _ _ _ hone _ hs => oneToken_step hone hs

/-- The chain neither stalls nor doubles nor underflows. The interrupt accounts for a press from its
`atomic_fetch_add` to its `atomic_exchange`, and for the send from there until it has scheduled
it. -/
structure SendChain (s : State) : Prop where
  outstanding : s.client = .waiting → s.isr ≠ .schedule →
    s.outstanding = if s.sendsRemaining = 0 then 0 else 1
  stranded : s.isr ≠ .counted → 0 < s.counter → 0 < s.sendsRemaining
  subtracts : ∀ counter, s.client = .taken counter → s.sendsRemaining ≠ 0
  arms : s.isr = .schedule ∨ (∃ counter, s.client = .schedule counter) → s.timerArmed = false
  queues : s.timerArmed = true → s.queue = []

def ChainHolds : Prop := ∀ s, controller.Reach (fun _ _ => True) init s → SendChain s

lemma OneToken.chain (h : OneToken s) : SendChain s where
  outstanding hwaiting hschedule := by
    have htoken := h.token
    have hisr : s.isr.token = 0 := by
      cases hisr : s.isr with
      | schedule => exact absurd hisr hschedule
      | idle => rfl
      | counted => rfl
    rw [hwaiting, hisr] at htoken
    by_cases hzero : s.sendsRemaining = 0
    · rw [hzero, if_pos (by rfl)] at htoken
      rw [if_pos hzero]
      exact htoken
    · have hne : s.sendsRemaining.toNat ≠ 0 := fun hz => hzero (UInt32.toNat_inj.mp hz)
      rw [if_neg hne] at htoken
      rw [if_neg hzero]
      exact htoken
  stranded hcounted hcounter :=
    UInt32.lt_iff_toNat_lt.mpr (Nat.lt_of_le_of_lt (Nat.zero_le _) (h.covered hcounter hcounted))
  subtracts counter hclient hzero := by
    have hpos := h.remaining (by rw [hclient]; exact Nat.le_add_left 1 _)
    rw [hzero] at hpos
    exact absurd hpos (by decide)
  arms hnext := by
    refine (h.idle ?_).1
    rcases hnext with hisr | ⟨counter, hclient⟩
    · rw [hisr]
      exact Nat.le_add_right 1 _
    · rw [hclient]
      exact Nat.le_add_left 1 _
  queues harmed := (h.armed harmed).1

/-- For every interleaving of the interrupt, the timers and the threads. -/
theorem sendChain : ChainHolds := fun _ h => (oneToken_reach h).chain

/-- Between its two atomic operations the interrupt has counted a press for which no send
remains. -/
theorem sendChain_inInterrupt : ¬ ∀ s, controller.Reach (fun _ _ => True) init s →
    s.client = .waiting → (s.outstanding = if s.sendsRemaining = 0 then 0 else 1) ∧
      (0 < s.counter → 0 < s.sendsRemaining) := by
  intro h
  obtain ⟨s, hs⟩ : ∃ s, controller.run init [.receive, .press] = some s := ⟨_, rfl⟩
  have hreach := TransitionSystem.reach_of_run (TransitionSystem.meets_true _ _) hs
  obtain rfl := Option.some.inj hs
  exact absurd ((h _ hreach rfl).2 (by decide)) (by decide)

end Controller

end Luke

end RiotPlayground
