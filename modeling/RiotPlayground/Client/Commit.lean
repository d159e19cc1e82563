import RiotPlayground.Client.Userctx

/-!
# What `-c` commits

The variables are assigned before they are checked, so a rejected command leaves its traces in
them. They have the values of accepted commands as long as the last command that got to the
variables was well formed.
-/

namespace RiotPlayground

open Buffer

namespace Client

variable {K : Crypto}

lemma slice_poke_decoded {len : ℕ} {hex : List Char} {bytes : List UInt8}
    (h : decodeHex len hex = some bytes) (data : ℕ → UInt8) :
    decodeHex len hex = some (slice (poke data 0 bytes) 0 len) := by
  have hself := slice_poke_self data 0 bytes
  rw [length_decodeHex h] at hself
  rw [hself, h]

lemma initUserctx_spec (e : Entry) (s : UserCtx) :
    ((initUserctx K (e.arg 2) (e.arg 3) s).reply.code = 0 ↔ Sub.wellFormed K .init e) ∧
    (Sub.wellFormed K .init e → ∀ n,
      Sub.holds K n (initUserctx K (e.arg 2) (e.arg 3) s).ctx .init e) := by
  unfold initUserctx Sub.wellFormed Sub.holds
  dsimp only
  cases (parseI64 (e.arg 2)).1 with
  | false => simp [Reply.code]
  | true =>
    obtain ⟨hres, hdata⟩ := parseHex_eq (e.arg 3) (K.ivLength (parseI64 (e.arg 2)).2) s.commonIv 0
    rw [if_neg (Bool.noConfusion), hres]
    cases hhex : decodeHex (K.ivLength (parseI64 (e.arg 2)).2) (e.arg 3) with
    | none => simp [Reply.code]
    | some bytes =>
      refine ⟨by simp [Reply.code], fun _ n => ⟨rfl, ?_⟩⟩
      dsimp only [Option.isSome_some]
      rw [if_neg (Bool.noConfusion), hdata bytes hhex, ← slice_poke_decoded hhex, hhex]

lemma parsePeer_spec (p : Peer) (e : Entry) (m : KeyMaterial) :
    ((parsePeer K e.algNum p (e.arg 2) (e.arg 3) m).1.code = 0 ↔ Sub.wellFormed K (.key p) e) ∧
    (Sub.wellFormed K (.key p) e → ∀ ctx : UserCtx,
      ctx.peer p = (parsePeer K e.algNum p (e.arg 2) (e.arg 3) m).2 →
      Sub.holds K e.algNum ctx (.key p) e) := by
  unfold parsePeer Sub.wellFormed
  dsimp only
  by_cases hlen : K.keyidMaxlen < (e.arg 2).length / 2
  · rw [if_pos hlen]
    simp [Reply.code, Nat.not_le.mpr hlen]
  · obtain ⟨hidRes, hidData⟩ := parseHex_eq (e.arg 2) ((e.arg 2).length / 2) m.id 0
    obtain ⟨hkeyRes, hkeyData⟩ := parseHex_eq (e.arg 3) (K.keyLength e.algNum) m.key 0
    rw [if_neg hlen, hidRes, hkeyRes]
    cases hid : decodeHex ((e.arg 2).length / 2) (e.arg 2) with
    | none => simp [Reply.code]
    | some idBytes =>
      cases hkey : decodeHex (K.keyLength e.algNum) (e.arg 3) with
      | none => simp [Reply.code]
      | some keyBytes =>
        refine ⟨by simp [Reply.code, Nat.not_lt.mp hlen], fun _ ctx hctx => ?_⟩
        dsimp only [Option.isSome_some] at hctx
        rw [if_neg (Bool.noConfusion), if_neg (Bool.noConfusion), hidData idBytes hid,
          hkeyData keyBytes hkey] at hctx
        rw [Sub.holds, hctx]
        exact ⟨Nat.not_lt.mp hlen, slice_poke_decoded hid m.id, slice_poke_decoded hkey m.key⟩

lemma opt_inj {a b : Sub} (h : a.opt = b.opt) : a = b := by
  rcases a with _ | _ | _ <;> rcases b with _ | _ | _ <;> first | rfl | cases h

lemma opt_ne_commit (sub : Sub) : sub.opt ≠ ['-', 'c'] := by
  rcases sub with _ | _ | _ <;> exact fun h => by cases h

lemma reached_iff {sub : Sub} {e : Entry} : sub.reached e = true ↔
    e.arg 1 = sub.opt ∧ 4 ≤ e.argv.length ∧ (sub = .init ∨ e.algNum ≠ 0) :=
  decide_eq_true_iff

lemma accepted_iff {sub : Sub} {e : Entry} :
    sub.accepted e = true ↔ e.arg 1 = sub.opt ∧ e.reply.code = 0 :=
  decide_eq_true_iff

/-- Everything a command can do. -/
lemma userctx_cases (σ : Session) (cmd : Command) :
    (Sub.init.reached (σ.entry K cmd) = true ∧ userctx K cmd.argv cmd.res σ.ctx =
      initUserctx K ((σ.entry K cmd).arg 2) ((σ.entry K cmd).arg 3) σ.ctx) ∨
    (∃ p, (Sub.key p).reached (σ.entry K cmd) = true ∧ userctx K cmd.argv cmd.res σ.ctx =
      addKey K p ((σ.entry K cmd).arg 2) ((σ.entry K cmd).arg 3) σ.ctx) ∨
    (∀ sub : Sub, sub.reached (σ.entry K cmd) = false) ∧
      (userctx K cmd.argv cmd.res σ.ctx = ⟨.usage, none, σ.ctx⟩ ∨
        (σ.entry K cmd).arg 1 = ['-', 'c'] ∧ σ.ctx.algNum ≠ 0 ∧
        userctx K cmd.argv cmd.res σ.ctx = commit cmd.res σ.ctx) := by
  have hnone (h : ∀ sub : Sub, cmd.argv.getD 1 [] = sub.opt → 4 ≤ cmd.argv.length →
      (sub = .init ∨ σ.ctx.algNum ≠ 0) → False) :
      ∀ sub : Sub, sub.reached (σ.entry K cmd) = false := fun sub => by
    rw [Bool.eq_false_iff]
    intro hreached
    obtain ⟨hopt, hlen, halg⟩ := reached_iff.mp hreached
    exact h sub hopt hlen halg
  have hlen (hargs : ¬(cmd.argv.length < 2 ∨
      cmd.argv.getD 1 [] ≠ ['-', 'c'] ∧ cmd.argv.length < 4)) (sub : Sub)
      (hopt : cmd.argv.getD 1 [] = sub.opt) : 4 ≤ cmd.argv.length := by
    by_contra hlt
    exact hargs (.inr ⟨hopt ▸ opt_ne_commit sub, by omega⟩)
  unfold userctx
  dsimp only
  split
  · rename_i hargs
    exact .inr (.inr ⟨hnone fun sub hopt hlen halg => by omega, .inl rfl⟩)
  rename_i hargs
  split
  · rename_i hopt
    exact .inl ⟨reached_iff.mpr ⟨hopt, hlen hargs .init hopt, .inl rfl⟩, rfl⟩
  rename_i hinit
  split
  · rename_i halg
    refine .inr (.inr ⟨hnone fun sub hopt _ h => ?_, .inl rfl⟩)
    rcases h with rfl | h
    · exact hinit hopt
    · exact h halg
  rename_i halg
  split
  · rename_i hopt
    exact .inr (.inl ⟨.sender, reached_iff.mpr
      ⟨hopt, hlen hargs (.key .sender) hopt, .inr halg⟩, rfl⟩)
  rename_i hsender
  split
  · rename_i hopt
    exact .inr (.inl ⟨.recipient, reached_iff.mpr
      ⟨hopt, hlen hargs (.key .recipient) hopt, .inr halg⟩, rfl⟩)
  rename_i hrecipient
  have hunreached := hnone fun sub hopt _ _ => by
    rcases sub with _ | _ | _
    · exact hinit hopt
    · exact hsender hopt
    · exact hrecipient hopt
  split
  · rename_i hopt
    exact .inr (.inr ⟨hunreached, .inr ⟨hopt, halg, rfl⟩⟩)
  · exact .inr (.inr ⟨hunreached, .inl rfl⟩)

def Sub.same (ctx ctx' : UserCtx) : Sub → Prop
  | .init => ctx'.algNum = ctx.algNum ∧ ctx'.commonIv = ctx.commonIv
  | .key p => ctx'.peer p = ctx.peer p

lemma Sub.same_refl (ctx : UserCtx) (sub : Sub) : sub.same ctx ctx := by
  cases sub with
  | init => exact ⟨rfl, rfl⟩
  | key p => rfl

lemma Sub.holds_of_same {ctx ctx' : UserCtx} {sub : Sub} (h : sub.same ctx ctx') {n : ℤ} {e : Entry}
    (he : sub.holds K n ctx e) : sub.holds K n ctx' e := by
  cases sub with
  | init =>
    rw [Sub.holds, h.1, h.2]
    exact he
  | key p =>
    have hp : ctx'.peer p = ctx.peer p := h
    rw [Sub.holds, hp]
    exact he

lemma Sub.unset_of_same {ctx ctx' : UserCtx} {sub : Sub} (h : sub.same ctx ctx')
    (hu : sub.unset ctx) : sub.unset ctx' := by
  cases sub with
  | init => exact h.1.trans hu
  | key p =>
    have hp : ctx'.peer p = ctx.peer p := h
    rw [Sub.unset, hp]
    exact hu

lemma initUserctx_peer (alg iv : List Char) (s : UserCtx) (p : Peer) :
    (initUserctx K alg iv s).ctx.peer p = s.peer p := by
  unfold initUserctx
  dsimp only
  split
  · cases p <;> rfl
  · split <;> cases p <;> rfl

lemma commit_ctx (res : ℤ) (s : UserCtx) : (commit res s).ctx = s := by
  unfold commit
  split
  · rfl
  · split
    · rfl
    · rfl

lemma peer_setPeer (s : UserCtx) (m : KeyMaterial) (p : Peer) : (s.setPeer m p).peer p = m := by
  cases p <;> rfl

lemma same_setPeer (s : UserCtx) (m : KeyMaterial) {p : Peer} {sub : Sub} (h : sub ≠ .key p) :
    sub.same s (s.setPeer m p) := by
  rcases sub with _ | _ | _ <;> cases p <;> first | exact ⟨rfl, rfl⟩ | rfl | exact absurd rfl h

lemma same_next (σ : Session) (cmd : Command) {sub : Sub}
    (h : sub.reached (σ.entry K cmd) = false) : sub.same σ.ctx (σ.next K cmd).ctx := by
  rcases userctx_cases (K := K) σ cmd with ⟨hinit, hrun⟩ | ⟨p, hkey, hrun⟩ | ⟨-, hrun⟩
  · rw [Session.next, hrun]
    cases sub with
    | init =>
      rw [hinit] at h
      cases h
    | key p => exact initUserctx_peer _ _ _ p
  · rw [Session.next, hrun]
    apply same_setPeer
    rintro rfl
    rw [hkey] at h
    cases h
  · have hctx : (userctx K cmd.argv cmd.res σ.ctx).ctx = σ.ctx := by
      rcases hrun with hrun | ⟨-, -, hrun⟩
      · rw [hrun]
      · rw [hrun, commit_ctx]
    rw [Session.next, hctx]
    exact sub.same_refl σ.ctx

lemma sub_unique {a b : Sub} {e : Entry} (ha : a.reached e = true) (hb : e.arg 1 = b.opt) : b = a :=
  opt_inj (hb.symm.trans (reached_iff.mp ha).1)

lemma holds_next (σ : Session) (cmd : Command) {sub : Sub}
    (h : sub.reached (σ.entry K cmd) = true) (hwell : sub.wellFormed K (σ.entry K cmd)) :
    sub.holds K σ.ctx.algNum (σ.next K cmd).ctx (σ.entry K cmd) := by
  have hopt := (reached_iff.mp h).1
  rcases userctx_cases (K := K) σ cmd with ⟨hinit, hrun⟩ | ⟨p, hkey, hrun⟩ | ⟨hnone, -⟩
  · obtain rfl := sub_unique hinit hopt
    rw [Session.next, hrun]
    exact (initUserctx_spec (σ.entry K cmd) σ.ctx).2 hwell _
  · obtain rfl := sub_unique hkey hopt
    rw [Session.next, hrun]
    exact (parsePeer_spec p (σ.entry K cmd) (σ.ctx.peer p)).2 hwell _ (peer_setPeer _ _ p)
  · rw [hnone sub] at h
    cases h

lemma accepted_iff_of_reached {a sub : Sub} {e : Entry} (ha : a.reached e = true)
    (hspec : e.reply.code = 0 ↔ a.wellFormed K e) :
    sub.accepted e = true ↔ sub.reached e = true ∧ sub.wellFormed K e := by
  rw [accepted_iff]
  refine ⟨fun ⟨hopt, hcode⟩ => ?_, fun ⟨hreached, hwell⟩ => ?_⟩
  · obtain rfl := sub_unique ha hopt
    exact ⟨ha, hspec.mp hcode⟩
  · have hopt := (reached_iff.mp hreached).1
    obtain rfl := sub_unique ha hopt
    exact ⟨hopt, hspec.mpr hwell⟩

/-- Accepted are the well-formed commands that get to the variables. -/
lemma accepted_entry (σ : Session) (cmd : Command) (sub : Sub) :
    sub.accepted (σ.entry K cmd) = true ↔
      sub.reached (σ.entry K cmd) = true ∧ sub.wellFormed K (σ.entry K cmd) := by
  have hreply : (σ.entry K cmd).reply = (userctx K cmd.argv cmd.res σ.ctx).reply := rfl
  rcases userctx_cases (K := K) σ cmd with ⟨hinit, hrun⟩ | ⟨p, hkey, hrun⟩ | ⟨hnone, hrun⟩
  · apply accepted_iff_of_reached hinit
    rw [hreply, hrun]
    exact (initUserctx_spec (σ.entry K cmd) σ.ctx).1
  · apply accepted_iff_of_reached hkey
    rw [hreply, hrun]
    exact (parsePeer_spec p (σ.entry K cmd) (σ.ctx.peer p)).1
  · rw [accepted_iff, hnone sub, hreply]
    refine ⟨fun ⟨hopt, hcode⟩ => ?_, fun ⟨hreached, _⟩ => by cases hreached⟩
    rcases hrun with hrun | ⟨hc, -, -⟩
    · rw [hrun] at hcode
      cases hcode
    · exact absurd (hopt.symm.trans hc) (opt_ne_commit sub)

lemma call_entry (σ : Session) (cmd : Command) {sec : UserCtx}
    (h : (σ.entry K cmd).call = some sec) :
    sec = σ.ctx ∧ (∀ sub : Sub, ¬ sub.unset σ.ctx) ∧ cmd.argv.getD 1 [] = ['-', 'c'] := by
  have hcall : (userctx K cmd.argv cmd.res σ.ctx).call = some sec := h
  rcases userctx_cases (K := K) σ cmd with ⟨-, hrun⟩ | ⟨p, -, hrun⟩ | ⟨-, hrun | ⟨hc, halg, hrun⟩⟩
  · rw [hrun, initUserctx] at hcall
    dsimp only at hcall
    split at hcall
    · cases hcall
    · split at hcall <;> cases hcall
  · rw [hrun] at hcall
    cases hcall
  · rw [hrun] at hcall
    cases hcall
  · rw [hrun, commit] at hcall
    split at hcall
    · cases hcall
    · rename_i hlens
      have hsec : some σ.ctx = some sec := by split at hcall <;> exact hcall
      refine ⟨(Option.some.inj hsec).symm, fun sub hunset => ?_, hc⟩
      rcases sub with _ | _ | _
      · exact halg hunset
      · exact hlens (.inl hunset)
      · exact hlens (.inr hunset)

/-- What the variables have to do with the commands so far. -/
structure Tracks (K : Crypto) (σ : Session) : Prop where
  holds : ∀ (sub : Sub) (e : Entry), σ.log.find? sub.reached = some e → sub.wellFormed K e →
    sub.holds K e.algNum σ.ctx e
  unset : ∀ sub : Sub, σ.log.find? sub.reached = none → sub.unset σ.ctx
  accepted : ∀ e ∈ σ.log, ∀ sub : Sub,
    sub.accepted e = true ↔ sub.reached e = true ∧ sub.wellFormed K e

lemma tracks_boot (K : Crypto) : Tracks K boot := by
  refine ⟨fun _ _ h => (nomatch h), fun sub _ => ?_, fun _ h => (nomatch h)⟩
  rcases sub with _ | _ | _ <;> rfl

lemma tracks_next {σ : Session} (h : Tracks K σ) (cmd : Command) : Tracks K (σ.next K cmd) := by
  have hlog : (σ.next K cmd).log = σ.entry K cmd :: σ.log := rfl
  refine ⟨fun sub e he hwell => ?_, fun sub hnone => ?_, fun e he sub => ?_⟩
  · rw [hlog] at he
    cases hreached : sub.reached (σ.entry K cmd) with
    | true =>
      rw [List.find?_cons_of_pos hreached] at he
      obtain rfl := Option.some.inj he
      exact holds_next σ cmd hreached hwell
    | false =>
      rw [List.find?_cons_of_neg (by rw [hreached]; exact Bool.false_ne_true)] at he
      exact Sub.holds_of_same (same_next σ cmd hreached) (h.holds sub e he hwell)
  · rw [hlog] at hnone
    cases hreached : sub.reached (σ.entry K cmd) with
    | true =>
      rw [List.find?_cons_of_pos hreached] at hnone
      cases hnone
    | false =>
      rw [List.find?_cons_of_neg (by rw [hreached]; exact Bool.false_ne_true)] at hnone
      exact Sub.unset_of_same (same_next σ cmd hreached) (h.unset sub hnone)
  · rw [hlog] at he
    rcases List.mem_cons.mp he with rfl | he
    · exact accepted_entry σ cmd sub
    · exact h.accepted e he sub

lemma Tracks.find_accepted {σ : Session} (h : Tracks K σ) {sub : Sub} {e : Entry}
    (he : σ.log.find? sub.reached = some e) (hwell : sub.wellFormed K e) :
    σ.log.find? sub.accepted = some e := by
  obtain ⟨hreached, before, after, hsplit, hbefore⟩ := List.find?_eq_some_iff_append.mp he
  have hmem : e ∈ σ.log := List.mem_of_find?_eq_some he
  refine List.find?_eq_some_iff_append.mpr
    ⟨(h.accepted e hmem sub).mpr ⟨hreached, hwell⟩, before, after, hsplit, fun a ha => ?_⟩
  have hmem : a ∈ σ.log := by
    rw [hsplit]
    exact List.mem_append_left _ ha
  have hnot := hbefore a ha
  rw [Bool.not_eq_true'] at hnot ⊢
  rw [Bool.eq_false_iff]
  intro hacc
  rw [((h.accepted a hmem sub).mp hacc).1] at hnot
  cases hnot

lemma Tracks.faithful {σ : Session} (h : Tracks K σ) (hset : ∀ sub : Sub, ¬ sub.unset σ.ctx)
    (hs : Settled K σ) : Faithful K σ.ctx σ.log := by
  intro sub
  cases he : σ.log.find? sub.reached with
  | none => exact absurd (h.unset sub he) (hset sub)
  | some e =>
    obtain ⟨hwell, hlen⟩ := hs sub e he
    refine ⟨e, h.find_accepted he hwell, ?_⟩
    have hholds := h.holds sub e he hwell
    cases sub with
    | init => exact hholds
    | key p =>
      unfold Sub.holds at hholds ⊢
      rwa [hlen (fun h => by cases h)] at hholds

/-- In every session whose `-c` commands find the variables settled, what is committed are the
values of the last accepted commands. -/
theorem commitsAccepted_of_settled {cmds : List Command} {σ : Session}
    (hC : (shell K).Meets (CommitsSettled K) boot cmds)
    (hrun : (shell K).run boot cmds = some σ) : Committed K σ.log := by
  have hinv : Tracks K σ ∧ Committed K σ.log := by
    have hreach := TransitionSystem.reach_of_run hC hrun
    refine hreach.invariant (P := fun σ => Tracks K σ ∧ Committed K σ.log)
      ⟨tracks_boot K, trivial⟩ ?_
    rintro σ cmd σ' ⟨htracks, hcommitted⟩ hsettled hstep
    obtain rfl := Option.some.inj hstep
    refine ⟨tracks_next htracks cmd, fun sec hcall => ?_, hcommitted⟩
    obtain ⟨rfl, hset, hc⟩ := call_entry σ cmd hcall
    exact htracks.faithful hset (hsettled hc hset)
  exact hinv.2

/-- AES-CCM-16-64-128 and ChaCha20/Poly1305. -/
def libOscore : Crypto where
  keyidMaxlen := 7
  ivLength alg := if alg = 10 then 13 else if alg = 24 then 12 else 0
  keyLength alg := if alg = 10 then 16 else if alg = 24 then 32 else 0
  ivLength_le alg := by split <;> [decide; (split <;> decide)]
  keyLength_le alg := by split <;> [decide; (split <;> decide)]

/-- A complete context, a sender ID of ten bytes that is rejected, and `-c`. -/
def rejectedSender : List Command :=
  let arg (opt : Char) (rest : List (List Char)) : Command := ⟨['u'] :: ['-', opt] :: rest, 0⟩
  [arg 'i' [['1', '0'], List.replicate 26 'a'], arg 's' [['0', '1'], List.replicate 32 'b'],
    arg 'r' [['0', '2'], List.replicate 32 'c'],
    arg 's' [List.replicate 20 '0', List.replicate 32 'd'], arg 'c' []]

theorem rejectedSender_committed : ¬ ∀ cmds σ, (shell libOscore).run boot cmds = some σ →
    Committed libOscore σ.log := by
  intro h
  have hrun : ((shell libOscore).run boot rejectedSender).bind (fun σ =>
      σ.log.head?.bind fun e => e.call.map fun sec => sec.sender.idLen) = some 10 := by
    decide +kernel
  obtain ⟨σ, hσ, hhead⟩ := Option.bind_eq_some_iff.mp hrun
  obtain ⟨e, he, hcall⟩ := Option.bind_eq_some_iff.mp hhead
  obtain ⟨sec, hsec, hlen⟩ := Option.map_eq_some_iff.mp hcall
  have hcommitted := h _ σ hσ
  rw [List.eq_cons_of_mem_head? he] at hcommitted
  obtain ⟨_, -, hle, -⟩ := hcommitted.1 sec hsec (.key .sender)
  rw [UserCtx.peer, hlen] at hle
  exact absurd hle (by decide)

/-- Without the command that is rejected, `-c` commits the sender ID of one byte. -/
theorem acceptedSender_committed : ∃ σ e sec,
    (shell libOscore).run boot (rejectedSender.eraseIdx 3) = some σ ∧ σ.log.head? = some e ∧
      e.call = some sec ∧ sec.sender.idLen = 1 ∧ Committed libOscore σ.log := by
  have hrun : ((shell libOscore).run boot (rejectedSender.eraseIdx 3)).bind (fun σ =>
      σ.log.head?.bind fun e => e.call.map fun sec => sec.sender.idLen) = some 1 := by
    decide +kernel
  obtain ⟨σ, hσ, hhead⟩ := Option.bind_eq_some_iff.mp hrun
  obtain ⟨e, he, hcall⟩ := Option.bind_eq_some_iff.mp hhead
  obtain ⟨sec, hsec, hlen⟩ := Option.map_eq_some_iff.mp hcall
  exact ⟨σ, e, sec, hσ, he, hsec, hlen, commitsAccepted_of_settled (by decide +kernel) hσ⟩

end Client

end RiotPlayground
