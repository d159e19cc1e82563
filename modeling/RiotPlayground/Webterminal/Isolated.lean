import RiotPlayground.Webterminal.Terminal

/-!
# Commands while the node is configured

`shell` is set before `config_node` has done its work, and `config_node` sleeps between its
commands. Others are not kept from using the shell in the meantime.
-/

namespace RiotPlayground

namespace Webterminal

/-- Who is between the reset and the end of `config_node`, `none` before the first reset. -/
def note (p : Option (List ℕ)) : Sent → Option (List ℕ)
  | .reset c => some (c :: (p.getD []).filter (· ≠ c))
  | .configured c => p.map fun q => q.filter (· ≠ c)
  | _ => p

/-- May be sent while `p` are in `config_node`. -/
def Allowed (p : Option (List ℕ)) : Sent → Prop
  | .user _ _ => p = some []
  | _ => True

instance (p : Option (List ℕ)) : DecidablePred (Allowed p)
  | .user _ _ => inferInstanceAs (Decidable (p = some []))
  | .reset _ | .config _ _ | .configured _ => .isTrue trivial

/-- Commands of `open` and `on_message` are only sent after a reset, and when every reset so far has
been followed by the end of its `config_node`. -/
def Isolated : Option (List ℕ) → List Sent → Prop
  | _, [] => True
  | p, a :: as => Allowed p a ∧ Isolated (note p a) as

instance Isolated.decidable : ∀ p, DecidablePred (Isolated p)
  | _, [] => .isTrue trivial
  | p, a :: as =>
    have := Isolated.decidable (note p a) as
    inferInstanceAs (Decidable (_ ∧ _))

def Phase.configuring : Phase → Bool
  | .discovery _ | .failed _ => true
  | _ => false

namespace Terminal

def Configuring (s : Terminal) (c : ℕ) : Prop :=
  ∃ cl, s.client c = some cl ∧ cl.phase.configuring

/-- No `open` goes on, no message is handled and no reboot begins while anyone is in
`config_node`. -/
def Calm (s : Terminal) : Event → Prop
  | .resume c _ =>
    (s.client c).map Client.phase = some .opening → ∀ d, ¬ s.Configuring d
  | .wrote c ok _ =>
    ok = true → (s.client c).map Client.phase = some (.writing true) → ∀ d, ¬ s.Configuring d
  | .message .. => ∀ d, ¬ s.Configuring d
  | _ => True

instance (s : Terminal) : Decidable (∀ d, ¬ s.Configuring d) := by
  refine decidable_of_iff (∀ cl ∈ s.clients, ¬ cl.phase.configuring) ⟨?_, ?_⟩
  · rintro h d ⟨cl, hcl, hconfiguring⟩
    exact h cl (List.mem_of_getElem? hcl) hconfiguring
  · intro h cl hcl hconfiguring
    obtain ⟨d, hd⟩ := List.mem_iff_getElem?.mp hcl
    exact h d ⟨cl, hd, hconfiguring⟩

instance (s : Terminal) : DecidablePred s.Calm
  | .resume _ _ | .wrote _ _ _ => inferInstanceAs (Decidable (_ → _))
  | .message _ _ _ => inferInstanceAs (Decidable (∀ d, ¬ s.Configuring d))
  | .connect | .close _ => .isTrue trivial

/-- The second client switches the node while the first one waits for the server. -/
theorem secondOpen_not_isolated : ¬ ∀ U args es s, (system U args).run init es = some s →
    Isolated none s.log := by
  intro h
  have hrun : ((system ⟨fun _ => false, fun _ => none⟩ ⟨⟨[], [], [], [], [], []⟩, none⟩).run init
      [.connect, .connect, .resume 0 [some []], .resume 1 [some []]]).map Terminal.log =
        some [.reset 0, .config 0 serverCmd, .user 1 switchCmd] := by decide +kernel
  obtain ⟨s, hs, hlog⟩ := Option.map_eq_some_iff.mp hrun
  have hisolated := h _ _ _ s hs
  rw [hlog] at hisolated
  exact absurd hisolated (by decide)

end Terminal

lemma isolated_append {p : Option (List ℕ)} {l l' : List Sent} :
    Isolated p (l ++ l') ↔ Isolated p l ∧ Isolated (l.foldl note p) l' := by
  induction l generalizing p with
  | nil => exact (and_iff_right trivial).symm
  | cons a as ih => exact (and_congr_right fun _ => ih).trans and_assoc.symm

lemma isolated_config (p : Option (List ℕ)) (c : ℕ) (cmds : List (List Char)) :
    Isolated p (cmds.map (.config c)) := by
  induction cmds with
  | nil => trivial
  | cons cmd cmds ih => exact ⟨trivial, ih⟩

lemma foldl_config (p : Option (List ℕ)) (c : ℕ) (cmds : List (List Char)) :
    (cmds.map (Sent.config c)).foldl note p = p := by
  induction cmds with
  | nil => rfl
  | cons cmd cmds ih => exact ih

/-- What `c` sends is isolated if `p` are in `config_node` before, and leaves at most `c` in it. -/
structure Run.Takes (r : Run) (p : Option (List ℕ)) (c : ℕ) : Prop where
  isolated : Isolated p r.sent
  pending : r.sent.foldl note p = some (if r.phase.configuring then [c] else [])

lemma Run.Takes.after {r : Run} {p q : Option (List ℕ)} {c : ℕ} {sent : List Sent}
    (h : r.Takes q c) (hsent : Isolated p sent) (hq : sent.foldl note p = q) :
    (r.after sent).Takes p c := by
  refine ⟨isolated_append.mpr ⟨hsent, hq ▸ h.isolated⟩, ?_⟩
  rw [Run.after_sent, List.foldl_append, hq, h.pending]
  rfl

lemma finish_takes {c : ℕ} {cmds : List (List Char)} {again : ℕ} {addr : Option (List Char)}
    {answers : Answers} {next : Answers → Run} (hnext : ∀ rest, (next rest).Takes (some []) c) :
    (finish c cmds again addr answers next).Takes (some [c]) c := by
  unfold finish
  dsimp only
  generalize (sendAll cmds answers).1 = sent
  cases (sendAll cmds answers).2 with
  | none => exact ⟨isolated_config .., foldl_config ..⟩
  | some rest =>
    have hdone : note (some [c]) (.configured c) = some [] := by simp [note]
    have hisolated : Isolated (some [c])
        (sent.map (.config c) ++ [.configured c, .user c switchCmd]) := by
      refine isolated_append.mpr ⟨isolated_config .., trivial, ?_, trivial⟩
      rw [foldl_config, hdone]
      rfl
    have hpending : (sent.map (Sent.config c) ++
        [Sent.configured c, Sent.user c switchCmd]).foldl note (some [c]) = some [] := by
      rw [List.foldl_append, foldl_config, List.foldl_cons, hdone]
      rfl
    dsimp only
    split
    · exact (hnext rest.tail).after hisolated hpending
    · exact ⟨hisolated, hpending⟩

lemma discoverThen_takes {U : PyText.Unicode} {args : Args} {c again : ℕ}
    {addr : Option (List Char)} {answers : Answers} {next : Answers → Run}
    (hnext : ∀ rest, (next rest).Takes (some []) c) :
    (discoverThen U args c again addr answers next).Takes (some [c]) c := by
  unfold discoverThen
  split
  · exact finish_takes hnext
  · split
    · exact finish_takes hnext
    · split
      · exact ⟨⟨trivial, trivial⟩, rfl⟩
      · exact ⟨⟨trivial, trivial⟩, rfl⟩

lemma discover_takes (U : PyText.Unicode) (args : Args) (c again : ℕ) (addr : Option (List Char))
    (answers : Answers) : (discover U args c again addr answers).Takes (some [c]) c := by
  induction again generalizing addr answers with
  | zero => exact discoverThen_takes fun _ => ⟨trivial, rfl⟩
  | succ again ih =>
    exact discoverThen_takes fun rest => (ih addr rest).after ⟨trivial, trivial⟩ rfl

/-- Whoever is in `config_node` before is `c`. -/
def Only (p : Option (List ℕ)) (c : ℕ) : Prop := p = none ∨ p = some [] ∨ p = some [c]

lemma configNode_takes (U : PyText.Unicode) (args : Args) {p : Option (List ℕ)} {c : ℕ}
    (hp : Only p c) (again : ℕ) (addr : Option (List Char)) (answers : Answers) :
    (configNode U args c again addr answers).Takes p c := by
  refine (discover_takes U args c again addr answers).after ⟨trivial, trivial⟩ ?_
  rcases hp with rfl | rfl | rfl
  · rfl
  · rfl
  · simp [note]

namespace Terminal

variable {U : PyText.Unicode} {args : Args}

/-- What holds in a calm run: `c` is the one client that may be in `config_node`. -/
structure Sound (s : Terminal) : Prop where
  isolated : Isolated none s.log
  unset : s.shell = false → s.log.foldl note none = none ∧
    ∀ c cl, s.client c = some cl → cl.phase = .opening
  pending : s.shell = true → ∃ q, s.log.foldl note none = some q ∧
    (q = [] ∨ ∃ c, q = [c]) ∧ ∀ c, c ∈ q ↔ s.Configuring c

lemma sound_init : Sound init := ⟨trivial, fun _ => ⟨rfl, nofun⟩, nofun⟩

lemma client_goOn_self {s : Terminal} {c : ℕ} {cl : Client} (h : s.client c = some cl) (r : Run) :
    (s.goOn c cl r).client c =
      some { cl with phase := r.phase, serverAddr := r.serverAddr } :=
  List.getElem?_set_self (List.getElem?_eq_some_iff.mp h).1

lemma client_goOn_ne {s : Terminal} {c d : ℕ} {cl : Client} (h : d ≠ c) (r : Run) :
    (s.goOn c cl r).client d = s.client d := List.getElem?_set_ne h.symm

lemma configuring_goOn_self {s : Terminal} {c : ℕ} {cl : Client} (h : s.client c = some cl)
    (r : Run) : (s.goOn c cl r).Configuring c ↔ r.phase.configuring := by
  unfold Configuring
  rw [client_goOn_self h]
  refine ⟨?_, fun hconf => ⟨_, rfl, hconf⟩⟩
  rintro ⟨cl', hcl', hconf⟩
  obtain rfl := Option.some.inj hcl'
  exact hconf

lemma configuring_goOn_ne {s : Terminal} {c d : ℕ} {cl : Client} (h : d ≠ c) (r : Run) :
    (s.goOn c cl r).Configuring d ↔ s.Configuring d := by
  unfold Configuring
  rw [client_goOn_ne h]

/-- A step of `c` while no one else is in `config_node`. -/
lemma sound_goOn {s : Terminal} {c : ℕ} {cl : Client} {r : Run} (h : Sound s)
    (hcl : s.client c = some cl) (hothers : ∀ d, d ≠ c → ¬ s.Configuring d)
    (hr : r.Takes (s.log.foldl note none) c) : Sound { s.goOn c cl r with shell := true } := by
  refine ⟨isolated_append.mpr ⟨h.isolated, hr.isolated⟩, nofun, fun _ => ?_⟩
  refine ⟨if r.phase.configuring then [c] else [], ?_, ?_, fun d => ?_⟩
  · exact List.foldl_append.trans hr.pending
  · split
    · exact .inr ⟨c, rfl⟩
    · exact .inl rfl
  · change _ ↔ (s.goOn c cl r).Configuring d
    by_cases hd : d = c
    · subst hd
      rw [configuring_goOn_self hcl]
      split
      · rename_i hconf
        exact iff_of_true (List.mem_singleton.mpr rfl) hconf
      · rename_i hconf
        exact iff_of_false List.not_mem_nil hconf
    · rw [configuring_goOn_ne hd]
      refine iff_of_false ?_ (hothers d hd)
      split
      · exact fun hmem => hd (List.mem_singleton.mp hmem)
      · exact List.not_mem_nil

lemma sound_goOn_of_shell {s : Terminal} {c : ℕ} {cl : Client} {r : Run} (h : Sound s)
    (hshell : s.shell = true) (hcl : s.client c = some cl)
    (hothers : ∀ d, d ≠ c → ¬ s.Configuring d) (hr : r.Takes (s.log.foldl note none) c) :
    Sound (s.goOn c cl r) := by
  obtain ⟨shell, clients, log⟩ := s
  obtain rfl : shell = true := hshell
  exact sound_goOn h hcl hothers hr

/-- What is sent and who is in `config_node` stays as it is. -/
lemma Sound.congr {s t : Terminal} (h : Sound s) (hshell : t.shell = s.shell)
    (hlog : t.log = s.log) (hconf : ∀ c, t.Configuring c ↔ s.Configuring c)
    (hunset : s.shell = false → ∀ c cl, t.client c = some cl → cl.phase = .opening) :
    Sound t := by
  refine ⟨hlog ▸ h.isolated, fun hs => ?_, fun hs => ?_⟩
  · rw [hshell] at hs
    exact ⟨hlog ▸ (h.unset hs).1, hunset hs⟩
  · rw [hshell] at hs
    obtain ⟨q, hq, hsingle, hmem⟩ := h.pending hs
    exact ⟨q, hlog ▸ hq, hsingle, fun c => (hmem c).trans (hconf c).symm⟩

/-- A step of `c` that sends nothing, outside `config_node`. -/
lemma sound_quiet {s : Terminal} {c : ℕ} {cl : Client} {r : Run} (h : Sound s)
    (hshell : s.shell = true) (hcl : s.client c = some cl) (hsent : r.sent = [])
    (hbefore : ¬ cl.phase.configuring) (hafter : ¬ r.phase.configuring) :
    Sound (s.goOn c cl r) := by
  refine h.congr rfl ?_ (fun d => ?_) fun hs => absurd (hshell.symm.trans hs) (by decide)
  · exact (congrArg (s.log ++ ·) hsent).trans (List.append_nil _)
  · by_cases hd : d = c
    · subst hd
      rw [configuring_goOn_self hcl]
      apply iff_of_false hafter
      rintro ⟨cl', hcl', hconf⟩
      exact hbefore (Option.some.inj (hcl.symm.trans hcl') ▸ hconf)
    · exact configuring_goOn_ne hd r

lemma sound_connect {s : Terminal} (h : Sound s) (addr : Option (List Char)) :
    Sound { s with clients := s.clients ++ [⟨.opening, addr, false⟩] } := by
  have hclient : ∀ c cl, (s.clients ++ [⟨.opening, addr, false⟩])[c]? = some cl →
      s.client c = some cl ∨ cl.phase = .opening := by
    intro c cl hcl
    rw [List.getElem?_append] at hcl
    split at hcl
    · exact .inl hcl
    · right
      rw [List.mem_singleton.mp (List.mem_of_getElem? hcl)]
  refine h.congr rfl rfl (fun c => ⟨?_, ?_⟩) fun hs c cl hcl => ?_
  · rintro ⟨cl, hcl, hconf⟩
    rcases hclient c cl hcl with hold | hnew
    · exact ⟨cl, hold, hconf⟩
    · rw [hnew] at hconf
      cases hconf
  · rintro ⟨cl, hcl, hconf⟩
    have hlt : c < s.clients.length := (List.getElem?_eq_some_iff.mp hcl).1
    exact ⟨cl, (List.getElem?_append_left hlt).trans hcl, hconf⟩
  · exact (hclient c cl hcl).elim ((h.unset hs).2 c cl) id

lemma sound_close {s : Terminal} {c : ℕ} {cl : Client} (h : Sound s) (hcl : s.client c = some cl) :
    Sound { s with clients := s.clients.set c { cl with closed := true } } := by
  have hphase : ∀ d, ((s.clients.set c { cl with closed := true })[d]?).map Client.phase =
      (s.client d).map Client.phase := by
    intro d
    by_cases hd : c = d
    · subst hd
      rw [List.getElem?_set_self (List.getElem?_eq_some_iff.mp hcl).1, hcl]
      rfl
    · rw [List.getElem?_set_ne hd]
      rfl
  have hconf : ∀ (t : Terminal) d, t.Configuring d ↔
      ∃ p, (t.client d).map Client.phase = some p ∧ p.configuring := by
    intro t d
    constructor
    · rintro ⟨cl', hcl', hconf⟩
      exact ⟨cl'.phase, by rw [hcl']; rfl, hconf⟩
    · rintro ⟨p, hp, hconf⟩
      obtain ⟨cl', hcl', rfl⟩ := Option.map_eq_some_iff.mp hp
      exact ⟨cl', hcl', hconf⟩
  refine h.congr rfl rfl (fun d => ?_) fun hs d cl' hcl' => ?_
  · rw [hconf, hconf]
    change (∃ p, ((s.clients.set c { cl with closed := true })[d]?).map Client.phase = _ ∧ _) ↔ _
    rw [hphase]
  · have hp := hphase d
    change (s.clients.set c { cl with closed := true })[d]? = some cl' at hcl'
    rw [hcl'] at hp
    obtain ⟨cl'', hcl'', hsame⟩ := Option.map_eq_some_iff.mp hp.symm
    rw [← hsame]
    exact (h.unset hs).2 d cl'' hcl''

lemma Sound.shell {s : Terminal} {c : ℕ} {cl : Client} (h : Sound s) (hcl : s.client c = some cl)
    (hphase : cl.phase ≠ .opening) : s.shell = true := by
  by_contra hs
  exact hphase ((h.unset (Bool.not_eq_true _ ▸ hs)).2 c cl hcl)

lemma Sound.settled {s : Terminal} (h : Sound s) (hshell : s.shell = true)
    (hC : ∀ d, ¬ s.Configuring d) : s.log.foldl note none = some [] := by
  obtain ⟨q, hq, -, hmem⟩ := h.pending hshell
  rw [hq, List.eq_nil_iff_forall_not_mem.mpr fun c hc => hC c ((hmem c).mp hc)]

lemma Sound.alone {s : Terminal} {c : ℕ} (h : Sound s) (hshell : s.shell = true)
    (hc : s.Configuring c) :
    s.log.foldl note none = some [c] ∧ ∀ d, d ≠ c → ¬ s.Configuring d := by
  obtain ⟨q, hq, hsingle, hmem⟩ := h.pending hshell
  rcases hsingle with rfl | ⟨e, rfl⟩
  · exact absurd ((hmem c).mpr hc) List.not_mem_nil
  · obtain rfl := List.mem_singleton.mp ((hmem c).mpr hc)
    exact ⟨hq, fun d hd hconf => hd (List.mem_singleton.mp ((hmem d).mpr hconf))⟩

lemma sound_opened {s : Terminal} {c : ℕ} {cl : Client} (h : Sound s) (hcl : s.client c = some cl)
    (hC : ∀ d, ¬ s.Configuring d) (answers : Answers) :
    Sound (s.opened U args c cl answers) := by
  unfold opened
  split
  · rename_i hshell
    apply sound_goOn_of_shell h hshell hcl (fun d _ => hC d)
    rw [h.settled hshell hC]
    refine ⟨⟨rfl, trivial⟩, ?_⟩
    split <;> rfl
  · rename_i hshell
    refine sound_goOn h hcl (fun d _ => hC d) (configNode_takes U args (.inl ?_) ..)
    exact (h.unset (Bool.not_eq_true _ ▸ hshell)).1

lemma sound_resume {s t : Terminal} {c : ℕ} {cl : Client} {answers : Answers} (h : Sound s)
    (hC : Calm s (.resume c answers)) (hcl : s.client c = some cl)
    (ht : s.resume U args c cl answers = some t) : Sound t := by
  unfold resume at ht
  split at ht
  · rename_i hphase
    obtain rfl := Option.some.inj ht
    exact sound_opened h hcl (hC (by rw [hcl, ← hphase]; rfl)) answers
  · rename_i again hphase
    obtain rfl := Option.some.inj ht
    have hshell := h.shell hcl (by rw [hphase]; exact nofun)
    obtain ⟨hlog, hothers⟩ := h.alone hshell ⟨cl, hcl, by rw [hphase]; rfl⟩
    exact sound_goOn_of_shell h hshell hcl hothers (hlog ▸ discover_takes ..)
  · rename_i again hphase
    obtain rfl := Option.some.inj ht
    have hshell := h.shell hcl (by rw [hphase]; exact nofun)
    obtain ⟨hlog, hothers⟩ := h.alone hshell ⟨cl, hcl, by rw [hphase]; rfl⟩
    exact sound_goOn_of_shell h hshell hcl hothers
      (configNode_takes U args (.inr (.inr hlog)) ..)
  · cases ht

lemma sound_wrote {s t : Terminal} {c : ℕ} {cl : Client} {ok : Bool} {answers : Answers}
    (h : Sound s) (hC : Calm s (.wrote c ok answers)) (hcl : s.client c = some cl)
    (ht : s.wrote U args c cl ok answers = some t) : Sound t := by
  unfold wrote at ht
  split at ht
  · rename_i reboot hphase
    have hshell := h.shell hcl (by rw [hphase]; exact nofun)
    have hbefore : ¬ cl.phase.configuring = true := by
      rw [hphase]
      exact Bool.false_ne_true
    split at ht
    · rename_i hok
      split at ht
      · rename_i hreboot
        obtain rfl := Option.some.inj ht
        have hnobody := hC hok (by rw [hcl, Option.map_some, hphase, hreboot])
        apply sound_goOn_of_shell h hshell hcl (fun d _ => hnobody d)
        exact configNode_takes U args (.inr (.inl (h.settled hshell hnobody))) ..
      · obtain rfl := Option.some.inj ht
        exact sound_quiet h hshell hcl rfl hbefore Bool.false_ne_true
    · obtain rfl := Option.some.inj ht
      exact sound_quiet h hshell hcl rfl hbefore Bool.false_ne_true
  · cases ht

lemma sound_message {s : Terminal} {c : ℕ} {cl : Client} (h : Sound s)
    (hC : ∀ d, ¬ s.Configuring d) (hcl : s.client c = some cl) (hphase : cl.phase = .idle)
    (text : List Char) (answers : Answers) : Sound (s.message U args c cl text answers) := by
  have hshell := h.shell hcl (by rw [hphase]; exact nofun)
  have hlog := h.settled hshell hC
  unfold message
  dsimp only
  split
  · apply sound_goOn_of_shell h hshell hcl (fun d _ => hC d)
    rw [hlog]
    exact ⟨⟨rfl, trivial⟩, rfl⟩
  · apply sound_goOn_of_shell h hshell hcl (fun d _ => hC d)
    rw [hlog]
    exact (configNode_takes U args (.inr (.inl rfl)) ..).after ⟨rfl, trivial⟩ rfl

lemma sound_step {s t : Terminal} {e : Event} (h : Sound s) (hC : Calm s e)
    (hs : step U args s e = some t) : Sound t := by
  cases e with
  | connect =>
    obtain rfl := Option.some.inj hs
    exact sound_connect h _
  | resume c answers =>
    obtain ⟨cl, hcl, ht⟩ := Option.bind_eq_some_iff.mp hs
    exact sound_resume h hC hcl ht
  | wrote c ok answers =>
    obtain ⟨cl, hcl, ht⟩ := Option.bind_eq_some_iff.mp hs
    exact sound_wrote h hC hcl ht
  | message c text answers =>
    obtain ⟨cl, hcl, ht⟩ := Option.bind_eq_some_iff.mp hs
    obtain ⟨hidle, ht⟩ := Option.ite_none_right_eq_some.mp ht
    obtain rfl := Option.some.inj ht
    exact sound_message h hC hcl hidle.1 text answers
  | close c =>
    obtain ⟨cl, hcl, rfl⟩ := Option.map_eq_some_iff.mp hs
    exact sound_close h hcl

/-- Configuration is isolated in calm runs. -/
theorem isolatedRuns_of_calm {U : PyText.Unicode} {args : Args} {es : List Event} {s : Terminal}
    (hC : (system U args).Meets Calm init es) (hrun : (system U args).run init es = some s) :
    Isolated none s.log := by
  have h : Sound s := (TransitionSystem.reach_of_run hC hrun).invariant sound_init
    fun _ _ _ h hC hs => sound_step h hC hs
  exact h.isolated

/-- The second client opens and sends a message when the first one is through. -/
theorem isolated_oneByOne : ∃ s,
    (system ⟨fun _ => false, fun _ => none⟩ ⟨⟨[], [], [], [], [], []⟩, some []⟩).run init
      [.connect, .connect, .resume 0 (List.replicate 7 (some [])), .resume 1 [some []],
        .message 1 switchCmd [some []]] = some s ∧
      s.log.drop 8 = [.user 0 switchCmd, .user 1 switchCmd, .user 1 switchCmd] ∧
        Isolated none s.log := by
  have hrun : ((system ⟨fun _ => false, fun _ => none⟩ ⟨⟨[], [], [], [], [], []⟩, some []⟩).run init
      [.connect, .connect, .resume 0 (List.replicate 7 (some [])), .resume 1 [some []],
        .message 1 switchCmd [some []]]).map (fun s => s.log.drop 8) =
        some [.user 0 switchCmd, .user 1 switchCmd, .user 1 switchCmd] := by decide +kernel
  obtain ⟨s, hs, hlog⟩ := Option.map_eq_some_iff.mp hrun
  exact ⟨s, hs, hlog, isolatedRuns_of_calm (by decide +kernel) hs⟩

end Terminal

end Webterminal

end RiotPlayground
