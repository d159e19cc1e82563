import RiotPlayground.Luke.Controller

/-!
# Button presses are conserved

The client takes the count before it sends it. A press is lost when the request cannot be sent,
and when the counter wraps around.
-/

namespace RiotPlayground

namespace Luke

namespace Controller

/-- The points the client has taken but not posted yet. -/
def Client.inHand : Client → UInt32
  | .taken counter => counter
  | .schedule counter => counter
  | .post counter => counter
  | _ => 0

/-- The step loses no press: a press finds room in the counter, and points can be posted. -/
def Keeps (s : State) : Event → Prop
  | .press => s.counter.toNat + 1 < UInt32.size
  | .post now _ res => s.client.inHand = 0 ∨ s.common.CanPost now res
  | _ => True

/-- The presses are the points that were sent, that are counted, that the client has, and `lost`
more. -/
def Balance (s : State) (lost : ℕ) : Prop :=
  s.presses = s.sent + s.counter.toNat + s.client.inHand.toNat + lost

variable {s t : State} {lost : ℕ}

lemma Balance.congr (h : Balance s lost) (hpresses : t.presses = s.presses)
    (hsent : t.sent = s.sent) (hcounter : t.counter = s.counter)
    (hhand : t.client.inHand = s.client.inHand) : Balance t lost := by
  unfold Balance at h ⊢
  rw [hpresses, hsent, hcounter, hhand, h]

lemma balance_press (h : Balance s lost) (hs : press s = some t) :
    ∃ k, Balance t (lost + k) ∧ (k = 0 ↔ s.counter.toNat + 1 < UInt32.size) := by
  unfold press at hs
  split at hs
  · obtain rfl := Option.some.inj hs
    have hlt := s.counter.toNat_lt
    have hpow : 2 ^ 32 = UInt32.size := rfl
    unfold Balance at h ⊢
    dsimp only
    rw [UInt32.toNat_add, UInt32.toNat_one, hpow]
    rw [hpow] at hlt
    by_cases hroom : s.counter.toNat + 1 < UInt32.size
    · refine ⟨0, ?_, iff_of_true rfl hroom⟩
      rw [Nat.mod_eq_of_lt hroom]
      omega
    · have hwrap : s.counter.toNat + 1 = UInt32.size := by omega
      refine ⟨UInt32.size, ?_, iff_of_false (by decide) hroom⟩
      rw [hwrap, Nat.mod_self]
      omega
  · cases hs

lemma balance_takeCounter (h : Balance s lost) (hs : takeCounter s = some t) : Balance t lost := by
  unfold takeCounter at hs
  unfold Balance at h
  split at hs
  · rename_i type hclient
    rw [hclient] at h
    split at hs
    · obtain rfl := Option.some.inj hs
      unfold Balance
      rw [h]
      exact congrArg (· + lost) (Nat.add_right_comm s.sent s.counter.toNat 0)
    · obtain rfl := Option.some.inj hs
      exact h
  · cases hs

lemma balance_decrement (h : Balance s lost) (hs : decrement s = some t) : Balance t lost := by
  unfold decrement at hs
  split at hs
  · rename_i counter hclient
    obtain rfl := Option.some.inj hs
    refine h.congr rfl rfl rfl ?_
    rw [hclient]
    dsimp only
    split <;> rfl
  · cases hs

lemma balance_schedule (h : Balance s lost) (hs : schedule s = some t) : Balance t lost := by
  unfold schedule at hs
  split at hs
  · rename_i counter hclient
    obtain rfl := Option.some.inj hs
    refine h.congr rfl rfl rfl ?_
    rw [hclient]
    rfl
  · cases hs

lemma balance_post {now later : UInt32} {res : ℕ} (h : Balance s lost)
    (hs : post now later res s = some t) :
    ∃ k, Balance t (lost + k) ∧ (k = 0 ↔ s.client.inHand = 0 ∨ s.common.CanPost now res) := by
  unfold post at hs
  split at hs
  · rename_i counter hclient
    obtain rfl := Option.some.inj hs
    have hresult := s.common.result_ne_zero_iff counter now later res
    have hzero : counter.toNat = 0 ↔ counter = 0 := by rw [← UInt32.toNat_inj, UInt32.toNat_zero]
    unfold Balance at h ⊢
    rw [hclient] at h ⊢
    dsimp only [Client.inHand] at h ⊢
    by_cases hres : (s.common.postPointsToTarget counter now later res).result = 0
    · refine ⟨counter.toNat, ?_, ?_⟩
      · rw [if_pos hres, UInt32.toNat_zero]
        omega
      · rw [hzero, or_iff_left (fun hcan => hresult.mpr hcan hres)]
    · refine ⟨0, ?_, iff_of_true rfl (.inr (hresult.mp hres))⟩
      rw [if_neg hres, UInt32.toNat_zero]
      omega
  · cases hs

lemma balance_receive (h : Balance s lost) (hs : receive s = some t) : Balance t lost := by
  unfold receive at hs
  split at hs
  · rename_i hclient _
    obtain rfl := Option.some.inj hs
    exact h.congr rfl rfl rfl (by rw [hclient]; rfl)
  · rename_i hclient _
    obtain rfl := Option.some.inj hs
    exact h.congr rfl rfl rfl (by rw [hclient]; rfl)
  · cases hs

lemma balance_expire (h : Balance s lost) (hs : expire s = some t) : Balance t lost := by
  unfold expire at hs
  split at hs
  · obtain rfl := Option.some.inj hs
    unfold deliver
    dsimp only
    split
    · rename_i hclient
      exact h.congr rfl rfl rfl (by rw [hclient]; rfl)
    · split
      · exact h
      · exact h
  · cases hs

lemma balance_isr {e : Event} (h : Balance s lost) (hs : step s e = some t)
    (he : e = .isrExchange ∨ e = .isrSchedule ∨ e = .enableButton) : Balance t lost := by
  rcases he with rfl | rfl | rfl
  · obtain rfl := Option.some.inj (Option.ite_none_right_eq_some.mp hs).2
    exact h
  · obtain rfl := Option.some.inj (Option.ite_none_right_eq_some.mp hs).2
    exact h
  · obtain rfl := Option.some.inj (Option.ite_none_left_eq_some.mp hs).2
    exact h

lemma balance_step {e : Event} (h : Balance s lost) (hs : step s e = some t) :
    ∃ k, Balance t (lost + k) ∧ (k = 0 ↔ Keeps s e) := by
  cases e with
  | press => exact balance_press h hs
  | post now later res => exact balance_post h hs
  | isrExchange => exact ⟨0, balance_isr h hs (.inl rfl), iff_of_true rfl trivial⟩
  | isrSchedule => exact ⟨0, balance_isr h hs (.inr (.inl rfl)), iff_of_true rfl trivial⟩
  | enableButton => exact ⟨0, balance_isr h hs (.inr (.inr rfl)), iff_of_true rfl trivial⟩
  | expire => exact ⟨0, balance_expire h hs, iff_of_true rfl trivial⟩
  | receive => exact ⟨0, balance_receive h hs, iff_of_true rfl trivial⟩
  | takeCounter => exact ⟨0, balance_takeCounter h hs, iff_of_true rfl trivial⟩
  | decrement => exact ⟨0, balance_decrement h hs, iff_of_true rfl trivial⟩
  | schedule => exact ⟨0, balance_schedule h hs, iff_of_true rfl trivial⟩
  | setTarget remote path =>
    obtain rfl := Option.some.inj hs
    exact ⟨0, h, iff_of_true rfl trivial⟩

lemma balance_run {es : List Event} (h : Balance s lost) (hs : controller.run s es = some t) :
    ∃ k, Balance t (lost + k) ∧ (k = 0 ↔ controller.Meets Keeps s es) := by
  induction es generalizing s lost with
  | nil =>
    obtain rfl := Option.some.inj hs
    exact ⟨0, h, iff_of_true rfl trivial⟩
  | cons e es ih =>
    obtain ⟨u, hu, hs⟩ := TransitionSystem.run_cons_some.mp hs
    obtain ⟨k, hk, hkeeps⟩ := balance_step h hu
    obtain ⟨k', hk', hmeets⟩ := ih hk hs
    refine ⟨k + k', Nat.add_assoc lost k k' ▸ hk', ?_⟩
    rw [TransitionSystem.meets_cons hu, ← hkeeps, ← hmeets, Nat.add_eq_zero_iff]

/-- In every run, whenever the client waits, each press was sent once or is counted, if and only if
no step has lost one. -/
theorem presses_conserved_iff {es : List Event} {s : State} (h : controller.run init es = some s)
    (hw : s.client = .waiting) :
    s.presses = s.sent + s.counter.toNat ↔ controller.Meets Keeps init es := by
  have hinit : Balance init 0 := rfl
  obtain ⟨k, hk, hmeets⟩ := balance_run hinit h
  have hhand : Client.waiting.inHand.toNat = 0 := rfl
  unfold Balance at hk
  rw [hw, hhand] at hk
  rw [← hmeets]
  omega

def pressAndSend : List Event :=
  [.setTarget ⟨.inet6, Vector.replicate 16 1, SOCK_ADDR_ANY_NETIF, LUKE_TARGET_PORT⟩ fun _ => 47,
    .press, .isrExchange, .isrSchedule, .receive, .expire, .takeCounter, .decrement, .schedule,
    .post 2000000 2000000 40, .receive]

theorem pressAndSend_keeps : controller.Meets Keeps init pressAndSend := by
  obtain ⟨s, hs⟩ : ∃ s, controller.run init pressAndSend = some s := ⟨_, rfl⟩
  have hfinal : s.client = .waiting ∧ s.presses = s.sent + s.counter.toNat := by
    obtain rfl := Option.some.inj hs
    exact ⟨rfl, rfl⟩
  exact (presses_conserved_iff hs hfinal.1).mp hfinal.2

/-- Without a target the press is gone. -/
theorem pressWithoutTarget_lost : ¬ ∀ (es : List Event) (s : State),
    controller.run init es = some s → s.client = .waiting →
    s.presses = s.sent + s.counter.toNat := by
  intro h
  obtain ⟨s, hs⟩ : ∃ s, controller.run init [.press, .isrExchange, .isrSchedule, .receive, .expire,
    .takeCounter, .decrement, .schedule, .post 2000000 2000000 40, .receive] = some s := ⟨_, rfl⟩
  have hfinal : s.client = .waiting ∧ s.presses = 1 ∧ s.sent + s.counter.toNat = 0 := by
    obtain rfl := Option.some.inj hs
    exact ⟨rfl, rfl, rfl⟩
  have hconserved := h _ s hs hfinal.1
  omega

end Controller

end Luke

end RiotPlayground
