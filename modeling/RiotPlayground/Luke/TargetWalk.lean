import RiotPlayground.Luke.TargetUpdate

/-!
# Which targets are accepted

The walk of `_set_target_from_payload`, compared with a description of the tokens it takes. What
stands where in the payload is said by the tokens; behind the last one the tokens are what `toks`
held before.
-/

namespace RiotPlayground

open Buffer

namespace Luke

/-- The strings `jsmn` reports lie within the text and hold no NUL, and none of them has the
closing quote of another one inside. -/
structure Packages.Strings (P : Packages) : Prop where
  within : ∀ text tokens, P.jsmnParse text = some tokens → ∀ tok ∈ tokens, tok.type = .string →
    tok.start ≤ tok.stop ∧ tok.stop.toNat ≤ text.length ∧
      0 ∉ (text.drop tok.start.toNat).take tok.len
  apart : ∀ text tokens, P.jsmnParse text = some tokens → ∀ tok ∈ tokens, ∀ tok' ∈ tokens,
    tok.type = .string → tok'.type = .string →
      ¬ (tok'.start.toNat ≤ tok.stop.toNat ∧ tok.stop.toNat < tok'.stop.toNat)

/-- `toks` after `jsmn_parse`. -/
def TargetPdu.toks (pdu : TargetPdu) (tokens : List JsmnTok) (i : ℕ) : JsmnTok :=
  tokens[i]?.getD (pdu.stack i)

/-- The last token before `n` in the place of a key that is `s`. -/
def lastKey (payload : ℕ → UInt8) (toks : ℕ → JsmnTok) (n : ℕ) (s : List UInt8) : Option ℕ :=
  ((List.range n).filter fun i => i % 2 = 1 ∧ jsoneq payload (toks i) s).getLast?

def addrKey : List UInt8 := ascii ['a', 'd', 'd', 'r']

def pathKey : List UInt8 := ascii ['p', 'a', 't', 'h']

/-- Where the NUL behind the value of an `"addr"` goes that is the last token and has no value. -/
def Struck (payload : ℕ → UInt8) (toks : ℕ → JsmnTok) (num x : ℕ) : Prop :=
  num % 2 = 0 ∧ jsoneq payload (toks (num - 1)) addrKey ∧ x = (toks num).stop.toNat

/-- The payload with a NUL behind the value of every `"addr"` before token `n`. -/
def cut (payload : ℕ → UInt8) (toks : ℕ → JsmnTok) (n x : ℕ) : UInt8 :=
  if ∃ i < n, i % 2 = 1 ∧ jsoneq payload (toks i) addrKey ∧ x = (toks (i + 1)).stop.toNat then 0
  else payload x

/-- An address or a path with its value. -/
def TargetMember (payload : ℕ → UInt8) (key value : JsmnTok) : Prop :=
  (jsoneq payload key addrKey ∨ jsoneq payload key pathKey) ∧ value.type = .string

/-- The tokens are those of an object of addresses and paths, with both of them, and the last
address is empty or one that can be parsed. -/
structure Acceptable (P : Packages) (payload : ℕ → UInt8) (toks : ℕ → JsmnTok) (num : ℕ)
    (remote : SockUdpEp) : Prop where
  object : 0 < num ∧ (toks 0).type = .object
  members : ∀ i < num, i % 2 = 1 → TargetMember payload (toks i) (toks (i + 1))
  path : (lastKey payload toks num pathKey).isSome
  addr : ∃ k, lastKey payload toks num addrKey = some k ∧ ((toks (k + 1)).len = 0 ∨
    (makeSockEp P remote ((slice (cut payload toks num) (toks (k + 1)).start.toNat
      (toks (k + 1)).len).takeWhile (· ≠ 0))).1)

/-- The tokens are those of an object of addresses and paths, with both of them, and the last
address is `addr`, which is not empty. -/
structure NamesAddress (payload : ℕ → UInt8) (toks : ℕ → JsmnTok) (num : ℕ) (addr : List UInt8) :
    Prop where
  object : 0 < num ∧ (toks 0).type = .object
  members : ∀ i < num, i % 2 = 1 → TargetMember payload (toks i) (toks (i + 1))
  path : (lastKey payload toks num pathKey).isSome
  addr : ∃ k, lastKey payload toks num addrKey = some k ∧ (toks (k + 1)).len ≠ 0 ∧
    (slice (cut payload toks num) (toks (k + 1)).start.toNat (toks (k + 1)).len).takeWhile (· ≠ 0) =
      addr

variable {P : Packages}

lemma lastKey_succ_succ (payload : ℕ → UInt8) (toks : ℕ → JsmnTok) {i : ℕ} (hi : i % 2 = 1)
    (s : List UInt8) : lastKey payload toks (i + 2) s =
      if jsoneq payload (toks i) s then some i else lastKey payload toks i s := by
  have hodd : ¬ (i + 1) % 2 = 1 := by omega
  unfold lastKey
  rw [List.range_succ, List.range_succ, List.filter_append, List.filter_append]
  simp only [List.filter_singleton, hi, hodd, true_and, false_and, decide_false]
  by_cases hkey : jsoneq payload (toks i) s
  · simp [hkey]
  · simp [hkey]

/-- An even place holds no key. -/
lemma lastKey_succ_of_even (payload : ℕ → UInt8) (toks : ℕ → JsmnTok) {n : ℕ} (hn : n % 2 = 0)
    (s : List UInt8) : lastKey payload toks (n + 1) s = lastKey payload toks n s := by
  have hodd : ¬ n % 2 = 1 := by omega
  unfold lastKey
  rw [List.range_succ, List.filter_append]
  simp [hodd]

lemma jsoneq_congr {payload payload' : ℕ → UInt8} {tok : JsmnTok} (hle : tok.start ≤ tok.stop)
    (h : ∀ x, tok.start.toNat ≤ x → x < tok.stop.toNat → payload' x = payload x)
    (s : List UInt8) : jsoneq payload' tok s = jsoneq payload tok s := by
  have hlen : tok.start.toNat + tok.len = tok.stop.toNat := by
    rw [JsmnTok.len, UInt32.toNat_sub_of_le _ _ hle]
    have := UInt32.le_iff_toNat_le.mp hle
    omega
  unfold jsoneq
  rw [slice_congr fun x hx hx' => h x hx (hlen ▸ hx')]

section Walk

variable {payload : ℕ → UInt8} {toks : ℕ → JsmnTok} {num : ℕ}

/-- What the strings reported are like, as positions. -/
structure Apart (toks : ℕ → JsmnTok) (num : ℕ) : Prop where
  ordered : ∀ k < num, (toks k).type = .string → (toks k).start ≤ (toks k).stop
  apart : ∀ j < num, ∀ k < num, (toks j).type = .string → (toks k).type = .string →
    ¬ ((toks k).start.toNat ≤ (toks j).stop.toNat ∧ (toks j).stop.toNat < (toks k).stop.toNat)

lemma cut_addr {i : ℕ} (hi : i % 2 = 1) (hkey : jsoneq payload (toks i) addrKey) :
    cut payload toks (i + 2) =
      Function.update (cut payload toks i) (toks (i + 1)).stop.toNat 0 := by
  funext x
  unfold cut
  by_cases hx : x = (toks (i + 1)).stop.toNat
  · rw [hx, Function.update_self, if_pos ⟨i, by omega, hi, hkey, rfl⟩]
  · rw [Function.update_of_ne hx]
    refine if_congr ⟨?_, ?_⟩ rfl rfl
    · rintro ⟨j, hj, hodd, haddr, heq⟩
      refine ⟨j, ?_, hodd, haddr, heq⟩
      have hne : j ≠ i := by
        rintro rfl
        exact hx heq
      omega
    · rintro ⟨j, hj, hrest⟩
      exact ⟨j, by omega, hrest⟩

lemma cut_succ_of_even {n : ℕ} (hn : n % 2 = 0) :
    cut payload toks (n + 1) = cut payload toks n := by
  funext x
  unfold cut
  refine if_congr ⟨?_, ?_⟩ rfl rfl
  · rintro ⟨j, hj, hodd, hrest⟩
    exact ⟨j, by omega, hodd, hrest⟩
  · rintro ⟨j, hj, hrest⟩
    exact ⟨j, by omega, hrest⟩

lemma cut_path {i : ℕ} (hi : i % 2 = 1) (hkey : ¬ jsoneq payload (toks i) addrKey) :
    cut payload toks (i + 2) = cut payload toks i := by
  rw [cut_succ_of_even (n := i + 1) (by omega)]
  funext x
  unfold cut
  refine if_congr ⟨?_, ?_⟩ rfl rfl
  · rintro ⟨j, hj, hodd, haddr, heq⟩
    refine ⟨j, ?_, hodd, haddr, heq⟩
    have hne : j ≠ i := by
      rintro rfl
      exact hkey haddr
    omega
  · rintro ⟨j, hj, hrest⟩
    exact ⟨j, by omega, hrest⟩

/-- The strings reported are left alone by the values among them. -/
lemma cut_of_not_struck (hA : Apart toks num)
    {n k x : ℕ} (hvalues : ∀ i < n, i % 2 = 1 → (toks (i + 1)).type = .string) (hn : n ≤ num)
    (hk : k < num) (hs : (toks k).type = .string) (hx : (toks k).start.toNat ≤ x)
    (hx' : x < (toks k).stop.toNat) (hfree : n % 2 = 1 ∨ ¬ Struck payload toks num x) :
    cut payload toks n x = payload x := by
  apply if_neg
  rintro ⟨i, hi, hodd, haddr, rfl⟩
  have hlt : i + 1 < num := by
    rcases hfree with hend | hfree
    · omega
    · by_contra hlast
      obtain rfl : num = i + 1 := by omega
      exact hfree ⟨by omega, by rwa [Nat.add_sub_cancel], rfl⟩
  exact hA.apart (i + 1) hlt k hk (hvalues i hi hodd) hs ⟨hx, hx'⟩

lemma cut_struck {x : ℕ} (h : Struck payload toks num x) (hnum : 0 < num) :
    cut payload toks num x = 0 := by
  obtain ⟨heven, hkey, rfl⟩ := h
  exact if_pos ⟨num - 1, by omega, by omega, hkey, by rw [Nat.sub_add_cancel hnum]⟩

/-- The members before token `n` as the walk has found them. -/
structure Found (payload : ℕ → UInt8) (toks : ℕ → JsmnTok) (n : ℕ) (w : Walk) : Prop where
  memory : w.payload = cut payload toks n
  remote : w.remoteTok = (lastKey payload toks n addrKey).map fun k => (toks (k + 1)).start.toNat
  remoteLen : ∀ k, lastKey payload toks n addrKey = some k → w.remoteTokLen = (toks (k + 1)).len
  path : w.pathTok = (lastKey payload toks n pathKey).map fun k => (toks (k + 1)).start.toNat
  pathLen : ∀ k, lastKey payload toks n pathKey = some k → w.pathTokLen = (toks (k + 1)).len

lemma Found.init : Found payload toks 1 ⟨payload, none, 0, none, 0⟩ := by
  refine ⟨?_, rfl, nofun, rfl, nofun⟩
  funext x
  refine (if_neg ?_).symm
  rintro ⟨i, hi, hodd, -⟩
  omega

lemma Found.of_succ {n : ℕ} {w : Walk} (hn : n % 2 = 0) (h : Found payload toks (n + 1) w) :
    Found payload toks n w := by
  obtain ⟨hpayload, hremote, hremoteLen, hpath, hpathLen⟩ := h
  rw [cut_succ_of_even hn] at hpayload
  rw [lastKey_succ_of_even payload toks hn] at hremote hremoteLen hpath hpathLen
  exact ⟨hpayload, hremote, hremoteLen, hpath, hpathLen⟩

lemma jsoneq_inj {json : ℕ → UInt8} {tok : JsmnTok} {s s' : List UInt8} (h : jsoneq json tok s)
    (h' : jsoneq json tok s') : s = s' := by
  simp only [jsoneq, Bool.and_eq_true, decide_eq_true_eq] at h h'
  exact h.2.symm.trans h'.2

lemma Found.addr {i : ℕ} {w : Walk} (h : Found payload toks i w) (hi : i % 2 = 1)
    (hkey : jsoneq payload (toks i) addrKey) : Found payload toks (i + 2) { w with
      payload := Function.update w.payload (toks (i + 1)).stop.toNat 0
      remoteTok := some (toks (i + 1)).start.toNat
      remoteTokLen := (toks (i + 1)).len } := by
  have hno : ¬ jsoneq payload (toks i) pathKey = true := fun hpath =>
    absurd (jsoneq_inj hkey hpath) (by decide)
  have haddr := lastKey_succ_succ payload toks hi addrKey
  have hpath := lastKey_succ_succ payload toks hi pathKey
  rw [if_pos hkey] at haddr
  rw [if_neg hno] at hpath
  refine ⟨?_, by rw [haddr]; rfl, fun k hk => ?_, by rw [hpath, ← h.path], ?_⟩
  · rw [h.memory, cut_addr hi hkey]
  · obtain rfl := Option.some.inj (haddr.symm.trans hk)
    rfl
  · rw [hpath]
    exact h.pathLen

lemma Found.pathMember {i : ℕ} {w : Walk} (h : Found payload toks i w) (hi : i % 2 = 1)
    (hkey : jsoneq payload (toks i) pathKey) : Found payload toks (i + 2) { w with
      pathTok := some (toks (i + 1)).start.toNat
      pathTokLen := (toks (i + 1)).len } := by
  have hno : ¬ jsoneq payload (toks i) addrKey = true := fun haddr =>
    absurd (jsoneq_inj haddr hkey) (by decide)
  have haddr := lastKey_succ_succ payload toks hi addrKey
  have hpath := lastKey_succ_succ payload toks hi pathKey
  rw [if_neg hno] at haddr
  rw [if_pos hkey] at hpath
  refine ⟨?_, by rw [haddr, ← h.remote], ?_, by rw [hpath]; rfl, fun k hk => ?_⟩
  · rw [cut_path hi hno, ← h.memory]
  · rw [haddr]
    exact h.remoteLen
  · obtain rfl := Option.some.inj (hpath.symm.trans hk)
    rfl

lemma walk_done {fuel i : ℕ} (w : Walk) (h : num ≤ i) : walk toks num fuel i w = some w := by
  cases fuel with
  | zero => rfl
  | succ fuel =>
    unfold walk
    rw [if_neg (Nat.not_lt.mpr h)]

lemma walkStep_none {key value : JsmnTok} {w : Walk} (h : ¬ TargetMember w.payload key value) :
    walkStep key value w = none := by
  unfold walkStep
  split
  · rename_i haddr
    exact if_pos fun hs => h ⟨.inl haddr, hs⟩
  · split
    · rename_i hpath
      exact if_pos fun hs => h ⟨.inr hpath, hs⟩
    · rfl

lemma Found.step {i : ℕ} {w : Walk} (h : Found payload toks i w) (hi : i % 2 = 1)
    (hkey : ∀ s, jsoneq w.payload (toks i) s = jsoneq payload (toks i) s)
    (hm : TargetMember payload (toks i) (toks (i + 1))) :
    ∃ w', walkStep (toks i) (toks (i + 1)) w = some w' ∧ Found payload toks (i + 2) w' := by
  obtain ⟨hmember, hs⟩ := hm
  by_cases haddr : jsoneq payload (toks i) addrKey
  · refine ⟨_, ?_, h.addr hi haddr⟩
    exact (if_pos ((hkey _).trans haddr)).trans (if_neg (not_not.mpr hs))
  · have hpath := hmember.resolve_left haddr
    refine ⟨_, ?_, h.pathMember hi hpath⟩
    have hno : ¬ jsoneq w.payload (toks i) addrKey = true := by rwa [hkey]
    exact (if_neg hno).trans ((if_pos ((hkey _).trans hpath)).trans (if_neg (not_not.mpr hs)))

lemma Found.ended {i : ℕ} {w : Walk} (h : Found payload toks i w) (hi : i % 2 = 1) (hle : num ≤ i)
    (hle' : i ≤ num + 1) : Found payload toks num w := by
  by_cases hend : i = num
  · exact hend ▸ h
  · obtain rfl : i = num + 1 := by omega
    exact h.of_succ (by omega)

/-- The NULs the walk has written are in no key it still gets to. -/
lemma Found.jsoneq_eq (hA : Apart toks num) {i : ℕ} {w : Walk} (h : Found payload toks i w)
    (hi : i % 2 = 1) (hlt : i < num)
    (hvalues : ∀ j < i, j % 2 = 1 → (toks (j + 1)).type = .string) (s : List UInt8) :
    jsoneq w.payload (toks i) s = jsoneq payload (toks i) s := by
  by_cases hs : (toks i).type = .string
  · refine jsoneq_congr (hA.ordered i hlt hs) (fun x hx hx' => ?_) s
    rw [h.memory]
    exact cut_of_not_struck hA hvalues (Nat.le_of_lt hlt) hlt hs hx hx' (.inl hi)
  · simp [jsoneq, hs]

/-- The walk takes the tokens if and only if all of them are members, and then it has found what
there is. -/
lemma walk_found (hA : Apart toks num) {fuel i : ℕ} {w : Walk} (hfuel : num ≤ i + fuel)
    (hi : i % 2 = 1) (hle : i ≤ num + 1) (hf : Found payload toks i w)
    (hbefore : ∀ j < i, j % 2 = 1 → TargetMember payload (toks j) (toks (j + 1))) :
    ((∀ j < num, j % 2 = 1 → TargetMember payload (toks j) (toks (j + 1))) ∧
      ∃ w', walk toks num fuel i w = some w' ∧ Found payload toks num w') ∨
    ((¬ ∀ j < num, j % 2 = 1 → TargetMember payload (toks j) (toks (j + 1))) ∧
      walk toks num fuel i w = none) := by
  induction fuel generalizing i w with
  | zero =>
    have hend : num ≤ i := hfuel
    exact .inl ⟨fun j hj => hbefore j (by omega), w, rfl, hf.ended hi hend hle⟩
  | succ fuel ih =>
    by_cases hlt : i < num
    · have hvalues : ∀ j < i, j % 2 = 1 → (toks (j + 1)).type = .string :=
        fun j hj hodd => (hbefore j hj hodd).2
      have hkey := hf.jsoneq_eq hA hi hlt hvalues
      by_cases hm : TargetMember payload (toks i) (toks (i + 1))
      · obtain ⟨w₁, hstep, hf₁⟩ := hf.step hi hkey hm
        unfold walk
        rw [if_pos hlt, hstep]
        apply ih (by omega) (by omega) (by omega) hf₁
        intro j hj hodd
        by_cases hji : j = i
        · exact hji ▸ hm
        · exact hbefore j (by omega) hodd
      · refine .inr ⟨fun hall => hm (hall i hlt hi), ?_⟩
        have hno : ¬ TargetMember w.payload (toks i) (toks (i + 1)) := by
          unfold TargetMember at hm ⊢
          rwa [hkey, hkey]
        unfold walk
        rw [if_pos hlt, walkStep_none hno]
    · refine .inl ⟨fun j hj => hbefore j (by omega), w, ?_, hf.ended hi (by omega) hle⟩
      exact walk_done w (by omega)

end Walk

lemma toks_mem {pdu : TargetPdu} {tokens : List JsmnTok} {k : ℕ} (hk : k < tokens.length) :
    pdu.toks tokens k ∈ tokens := by
  unfold TargetPdu.toks
  rw [List.getElem?_eq_getElem hk, Option.getD_some]
  exact List.getElem_mem hk

lemma apart_toks (hP : P.Strings) (pdu : TargetPdu) {text : List UInt8} {tokens : List JsmnTok}
    (h : P.jsmnParse text = some tokens) : Apart (pdu.toks tokens) tokens.length :=
  ⟨fun _ hk hs => (hP.within _ _ h _ (toks_mem hk) hs).1,
    fun _ hj _ hk => hP.apart _ _ h _ (toks_mem hj) _ (toks_mem hk)⟩

lemma findTarget_eq {pdu : TargetPdu} {tokens : List JsmnTok}
    (hparsed : P.jsmnParse (slice pdu.payload 0 pdu.payloadLen) = some tokens) :
    findTarget P pdu =
      if tokens.length < 1 ∨ (pdu.toks tokens 0).type ≠ .object then none
      else walk (pdu.toks tokens) tokens.length tokens.length 1
        ⟨pdu.payload, none, 0, none, 0⟩ := by
  unfold findTarget
  rw [hparsed]
  rfl

lemma findTarget_found (hP : P.Strings) {pdu : TargetPdu} {tokens : List JsmnTok}
    (hparsed : P.jsmnParse (slice pdu.payload 0 pdu.payloadLen) = some tokens) :
    (((0 < tokens.length ∧ (pdu.toks tokens 0).type = .object) ∧ ∀ i < tokens.length, i % 2 = 1 →
        TargetMember pdu.payload (pdu.toks tokens i) (pdu.toks tokens (i + 1))) ∧
      ∃ w, findTarget P pdu = some w ∧ Found pdu.payload (pdu.toks tokens) tokens.length w) ∨
    ((¬ ((0 < tokens.length ∧ (pdu.toks tokens 0).type = .object) ∧
        ∀ i < tokens.length, i % 2 = 1 →
          TargetMember pdu.payload (pdu.toks tokens i) (pdu.toks tokens (i + 1)))) ∧
      findTarget P pdu = none) := by
  rw [findTarget_eq hparsed]
  split
  · rename_i hobject
    refine .inr ⟨fun h => ?_, rfl⟩
    rcases hobject with hempty | htype
    · exact absurd h.1.1 (by omega)
    · exact htype h.1.2
  · rename_i hobject
    obtain ⟨hnonempty, htype⟩ := not_or.mp hobject
    have hobject' : 0 < tokens.length ∧ (pdu.toks tokens 0).type = .object :=
      ⟨by omega, not_not.mp htype⟩
    have hfuel : tokens.length ≤ 1 + tokens.length := Nat.le_add_left _ _
    have hbefore : ∀ j < 1, j % 2 = 1 →
        TargetMember pdu.payload (pdu.toks tokens j) (pdu.toks tokens (j + 1)) :=
      fun j hj hodd => absurd hodd (by omega)
    rcases walk_found (apart_toks hP pdu hparsed) hfuel rfl (by omega) Found.init
        hbefore with ⟨hmembers, hfound⟩ | ⟨hmembers, hnone⟩
    · exact .inl ⟨⟨hobject', hmembers⟩, hfound⟩
    · exact .inr ⟨fun h => hmembers h.2, hnone⟩

lemma storeTarget_valid_iff {w : Walk} {s : Common} : (storeTarget P w s).1 = .valid ↔
    w.pathTok.isSome ∧ ∃ remote, w.remoteTok = some remote ∧ (w.remoteTokLen = 0 ∨
      (makeSockEp P s.targetRemote
        ((slice w.payload remote w.remoteTokLen).takeWhile (· ≠ 0))).1) := by
  unfold storeTarget
  split
  · rename_i remote path hremote hpath
    rw [hremote, hpath]
    dsimp only
    split
    · rename_i hmade
      apply iff_of_false nofun
      rintro ⟨-, remote', hremote', hmade'⟩
      obtain rfl := Option.some.inj hremote'
      rw [hmade.2] at hmade'
      exact hmade'.elim hmade.1 nofun
    · rename_i hmade
      refine iff_of_true rfl ⟨rfl, remote, rfl, ?_⟩
      by_cases hlen : w.remoteTokLen = 0
      · exact .inl hlen
      · exact .inr (Bool.not_eq_false _ ▸ fun hfalse => hmade ⟨hlen, hfalse⟩)
  · rename_i hnone
    apply iff_of_false nofun
    rintro ⟨hpath, remote, hremote, -⟩
    obtain ⟨path, hpath⟩ := Option.isSome_iff_exists.mp hpath
    exact hnone remote path hremote hpath

lemma setTargetFromPayload_of_find {pdu : TargetPdu} {s : Common} {w : Walk}
    (h : findTarget P pdu = some w) : setTargetFromPayload P pdu s = storeTarget P w s := by
  unfold setTargetFromPayload
  rw [h]

/-- Once found, a target is accepted if and only if it is acceptable. -/
lemma Found.acceptable_iff {pdu : TargetPdu} {s : Common} {tokens : List JsmnTok} {w : Walk}
    (hf : Found pdu.payload (pdu.toks tokens) tokens.length w)
    (hobject : 0 < tokens.length ∧ (pdu.toks tokens 0).type = .object)
    (hmembers : ∀ i < tokens.length, i % 2 = 1 →
      TargetMember pdu.payload (pdu.toks tokens i) (pdu.toks tokens (i + 1))) :
    Acceptable P pdu.payload (pdu.toks tokens) tokens.length s.targetRemote ↔
      (storeTarget P w s).1 = .valid := by
  rw [storeTarget_valid_iff, hf.path, Option.isSome_map, hf.memory]
  constructor
  · rintro ⟨-, -, hpath, k, hk, haddr⟩
    refine ⟨hpath, (pdu.toks tokens (k + 1)).start.toNat, by rw [hf.remote, hk]; rfl, ?_⟩
    rwa [hf.remoteLen k hk]
  · rintro ⟨hpath, remote, hremote, haddr⟩
    obtain ⟨k, hk, rfl⟩ := Option.map_eq_some_iff.mp (hf.remote.symm.trans hremote)
    rw [hf.remoteLen k hk] at haddr
    exact ⟨hobject, hmembers, hpath, k, hk, haddr⟩

lemma valid_iff_acceptable (hP : P.Strings) {pdu : TargetPdu} {s : Common}
    {tokens : List JsmnTok}
    (hparsed : P.jsmnParse (slice pdu.payload 0 pdu.payloadLen) = some tokens) :
    (setTargetFromPayload P pdu s).1 = .valid ↔
      Acceptable P pdu.payload (pdu.toks tokens) tokens.length s.targetRemote := by
  rcases findTarget_found hP hparsed with ⟨⟨hobject, hmembers⟩, w, hfind, hf⟩ | ⟨hno, hnone⟩
  · rw [setTargetFromPayload_of_find hfind]
    exact (hf.acceptable_iff hobject hmembers).symm
  · refine iff_of_false ?_ fun h => hno ⟨h.object, h.members⟩
    unfold setTargetFromPayload
    rw [hnone]
    exact nofun

lemma parsedAddress_of_find {pdu : TargetPdu} {w : Walk} (h : findTarget P pdu = some w)
    {addr : List UInt8} : parsedAddress P pdu = some addr ↔
      pdu.contentType = COAP_FORMAT_JSON ∧ w.pathTok.isSome ∧ ∃ remote, w.remoteTok = some remote ∧
        w.remoteTokLen ≠ 0 ∧
          (slice w.payload remote w.remoteTokLen).takeWhile (· ≠ 0) = addr := by
  unfold parsedAddress
  rw [h, Option.ite_none_right_eq_some]
  refine and_congr_right fun _ => ?_
  obtain ⟨payload, _ | remote, len, _ | path, pathLen⟩ := w
  · exact iff_of_false nofun fun hw => nomatch hw.1
  · exact iff_of_false nofun fun ⟨_, _, hw, _⟩ => nomatch hw
  · exact iff_of_false nofun fun hw => nomatch hw.1
  · dsimp only
    rw [Option.ite_none_left_eq_some]
    constructor
    · rintro ⟨hlen, haddr⟩
      exact ⟨rfl, remote, rfl, hlen, Option.some.inj haddr⟩
    · rintro ⟨-, remote', hremote, hlen, haddr⟩
      obtain rfl := Option.some.inj hremote
      exact ⟨hlen, congrArg some haddr⟩

/-- The address that `make_sock_ep` parses, by the tokens. -/
theorem parsedAddress_eq_some_iff (hP : P.Strings) {pdu : TargetPdu} {addr : List UInt8} :
    parsedAddress P pdu = some addr ↔ pdu.contentType = COAP_FORMAT_JSON ∧
      ∃ tokens, P.jsmnParse (slice pdu.payload 0 pdu.payloadLen) = some tokens ∧
        NamesAddress pdu.payload (pdu.toks tokens) tokens.length addr := by
  cases hparsed : P.jsmnParse (slice pdu.payload 0 pdu.payloadLen) with
  | none =>
    have hnone : findTarget P pdu = none := by
      unfold findTarget
      rw [hparsed]
    refine iff_of_false ?_ fun ⟨_, _, htokens, _⟩ => nomatch htokens
    unfold parsedAddress
    rw [hnone, ite_self]
    exact nofun
  | some tokens =>
    have hnames : (∃ tokens', some tokens = some tokens' ∧
        NamesAddress pdu.payload (pdu.toks tokens') tokens'.length addr) ↔
          NamesAddress pdu.payload (pdu.toks tokens) tokens.length addr := by
      constructor
      · rintro ⟨tokens', htokens, h⟩
        obtain rfl := Option.some.inj htokens
        exact h
      · exact fun h => ⟨tokens, rfl, h⟩
    rw [hnames]
    rcases findTarget_found hP hparsed with ⟨⟨hobject, hmembers⟩, w, hfind, hf⟩ | ⟨hno, hnone⟩
    · rw [parsedAddress_of_find hfind, hf.path, Option.isSome_map, hf.memory]
      refine and_congr_right fun _ => ⟨?_, ?_⟩
      · rintro ⟨hpath, remote, hremote, hlen, haddr⟩
        obtain ⟨k, hk, rfl⟩ := Option.map_eq_some_iff.mp (hf.remote.symm.trans hremote)
        rw [hf.remoteLen k hk] at hlen haddr
        exact ⟨hobject, hmembers, hpath, k, hk, hlen, haddr⟩
      · rintro ⟨-, -, hpath, k, hk, hlen, haddr⟩
        refine ⟨hpath, (pdu.toks tokens (k + 1)).start.toNat, by rw [hf.remote, hk]; rfl, ?_⟩
        rw [hf.remoteLen k hk]
        exact ⟨hlen, haddr⟩
    · refine iff_of_false ?_ fun ⟨_, h⟩ => hno ⟨h.object, h.members⟩
      unfold parsedAddress
      rw [hnone, ite_self]
      exact nofun

end Luke

end RiotPlayground
