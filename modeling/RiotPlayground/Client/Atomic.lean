import RiotPlayground.Client.Bounds

/-!
# Failing commands

The handlers assign the configuration as they check their arguments. A command that fails has left
it alone exactly when it had just those values already.
-/

namespace RiotPlayground

open Buffer Directive Luke Logged

namespace Client

/-- What the commands configure. -/
structure Config where
  dnsServer : SockUdpEp
  credential : PskCredential
  respCode : UInt8
  response : List UInt8
  userctx : UserCtx

def Vars.config (s : Vars) : Config where
  dnsServer := s.dnsServer
  credential := s.credential
  respCode := s.respCode
  response := slice s.mockResponse 0 s.mockResponseLen
  userctx := s.userctx

/-- A non-zero value is only returned in a state with the configuration of `s`. -/
def Kept (s : Vars) (code : ℤ) (t : Vars) : Prop := code ≠ 0 → t.config = s.config

/-- A command that returns a non-zero value has changed nothing. -/
def Atomic (m : Shell ℤ) (s : Vars) : Prop := Ends m (Kept s) s

def Holds (mem : ℕ → UInt8) (bytes : List UInt8) : Prop := slice mem 0 bytes.length = bytes

/-- A refused address is not written to, and a refused port finds the address and no port. -/
structure ServerKept (L : Libs) (argv : List (List Char)) (s : Vars) : Prop where
  addr : 2 ≤ argv.length → (L.inetPton (argv.getD 1 []) s.dnsServer.addr).1 = false →
    s.dnsServer.addr = (L.inetPton (argv.getD 1 []) s.dnsServer.addr).2
  port : 3 ≤ argv.length → (L.inetPton (argv.getD 1 []) s.dnsServer.addr).1 = true →
    UInt16.ofInt (atoi (argv.getD 2 [])).toInt = 0 →
      s.dnsServer.addr = (L.inetPton (argv.getD 1 []) s.dnsServer.addr).2 ∧ s.dnsServer.port = 0

/-- `creds <cred_tag> <psk_id> <psk>` finds what it assigns until it fails. -/
structure AddKept (L : Libs) (tag : UInt16) (id key : List Char) (s : Vars) : Prop where
  noTag : tag = 0 → s.tag = 0
  idTooLong : tag ≠ 0 → PSK_ID_LEN < id.length → s.tag = tag ∧ s.idLen = id.length
  keyTooLong : tag ≠ 0 → id.length ≤ PSK_ID_LEN → PSK_LEN < key.length →
    s.tag = tag ∧ s.idLen = id.length ∧ s.keyLen = key.length
  notAdded : tag ≠ 0 → id.length ≤ PSK_ID_LEN → key.length ≤ PSK_LEN →
    L.credAdd ⟨tag, ascii id, ascii key⟩ < 0 → s.credential = ⟨tag, ascii id, ascii key⟩

def CredsKept (L : Libs) (argv : List (List Char)) (s : Vars) : Prop :=
  argv.getD 1 [] ≠ ['-', 'd'] → 4 ≤ argv.length →
    AddKept L (UInt16.ofInt (atoi (argv.getD 1 [])).toInt) (argv.getD 2 []) (argv.getD 3 []) s

/-- A new response that is refused finds its code and no response. -/
def RespKept (L : Libs) (argv : List (List Char)) (s : Vars) : Prop :=
  argv.getD 1 [] ≠ ['-', 'c'] → 3 ≤ argv.length →
    UInt8.ofInt (atoi (argv.getD 1 [])).toInt >>> 5 = 2 →
    (L.dnsMsgLen ≤ (argv.getD 2 []).length / 2 ∨
      decodeHex ((argv.getD 2 []).length / 2) (argv.getD 2 []) = none) →
    s.respCode = UInt8.ofInt (atoi (argv.getD 1 [])).toInt ∧ s.mockResponseLen = 0

structure InitKept (K : Crypto) (alg iv : List Char) (u : UserCtx) : Prop where
  notANumber : (parseI64 alg).1 = false → u.algNum = (parseI64 alg).2
  invalidIv : (parseI64 alg).1 = true → decodeHex (K.ivLength (parseI64 alg).2) iv = none →
    u.algNum = (parseI64 alg).2 ∧ Holds u.commonIv (writtenHex (K.ivLength (parseI64 alg).2) iv)

structure PeerKept (K : Crypto) (algNum : ℤ) (id key : List Char) (m : KeyMaterial) : Prop where
  idTooLong : K.keyidMaxlen < id.length / 2 → m.idLen = id.length / 2
  invalidId : id.length / 2 ≤ K.keyidMaxlen → decodeHex (id.length / 2) id = none →
    m.idLen = id.length / 2 ∧ Holds m.id (writtenHex (id.length / 2) id)
  invalidKey : id.length / 2 ≤ K.keyidMaxlen → (decodeHex (id.length / 2) id).isSome = true →
    decodeHex (K.keyLength algNum) key = none →
      m.idLen = id.length / 2 ∧ Holds m.id (writtenHex (id.length / 2) id) ∧
        Holds m.key (writtenHex (K.keyLength algNum) key)

structure UserctxKept (K : Crypto) (argv : List (List Char)) (u : UserCtx) : Prop where
  init : argv.getD 1 [] = Sub.init.opt → 4 ≤ argv.length →
    InitKept K (argv.getD 2 []) (argv.getD 3 []) u
  key : ∀ p, argv.getD 1 [] = (Sub.key p).opt → 4 ≤ argv.length → u.algNum ≠ 0 →
    PeerKept K u.algNum (argv.getD 2 []) (argv.getD 3 []) (u.peer p)

def ShellCommand.Kept (L : Libs) (argv : List (List Char)) (s : Vars) : ShellCommand → Prop
  | .server => ServerKept L argv s
  | .creds => CredsKept L argv s
  | .resp => RespKept L argv s
  | .userctx => UserctxKept L.toCrypto argv s.userctx
  | _ => True

variable {L : Libs} {K : Crypto} {argv : List (List Char)} {s : Vars}

/-- The command ends as `out` does, and leaves the other variables alone. -/
def Yields (s : Vars) (out : Outcome) (code : ℤ) (t : Vars) : Prop :=
  code = out.reply.code ∧ t = { s with userctx := out.ctx }

@[simp] lemma peer_setPeer_self (m : KeyMaterial) (p : Peer) : (s.setPeer p m).userctx.peer p = m :=
  peer_setPeer s.userctx m p

@[simp] lemma algNum_setPeer (m : KeyMaterial) (p : Peer) :
    (s.setPeer p m).userctx.algNum = s.userctx.algNum := by
  cases p with
  | sender => rfl
  | recipient => rfl

@[simp] lemma setPeer_setPeer (m m' : KeyMaterial) (p : Peer) :
    (s.setPeer p m).setPeer p m' = s.setPeer p m' := by
  cases p with
  | sender => rfl
  | recipient => rfl

lemma initCtx_yields : Ends (initCtx L argv)
    (Yields s (initUserctx L.toCrypto (argv.getD 2 []) (argv.getD 3 []) s.userctx)) s := by
  rw [ends_iff, initCtx, initUserctx]
  simp only [spec_bind, spec_arg, spec_modify, spec_ite, spec_pure, spec_parseHexTo, true_and,
    implies_true, Vars.buf, Vars.setBuf]
  split
  · exact ⟨rfl, rfl⟩
  by_cases hiv : (parseHex (argv.getD 3 []) (L.ivLength (parseI64 (argv.getD 2 [])).2)
      s.userctx.commonIv 0).1 = true
  · rw [if_pos hiv, if_neg (ne_false_of_eq_true hiv)]
    exact ⟨rfl, rfl⟩
  · rw [if_neg hiv, if_pos (eq_false_of_ne_true hiv)]
    exact ⟨rfl, rfl⟩

lemma peerCtx_yields (p : Peer) : Ends (peerCtx L argv p)
    (Yields s (addKey L.toCrypto p (argv.getD 2 []) (argv.getD 3 []) s.userctx)) s := by
  rw [ends_iff, peerCtx, addKey, parsePeer]
  simp only [spec_bind, spec_arg, spec_modify, spec_ite, spec_pure, spec_read, spec_parseHexTo,
    true_and, implies_true, Vars.buf, Vars.setBuf, peer_setPeer_self, algNum_setPeer,
    setPeer_setPeer]
  split
  · exact ⟨rfl, rfl⟩
  by_cases hid : (parseHex (argv.getD 2 []) ((argv.getD 2 []).length / 2)
      (s.userctx.peer p).id 0).1 = true
  · rw [if_pos hid, if_neg (ne_false_of_eq_true hid)]
    by_cases hkey : (parseHex (argv.getD 3 []) (L.keyLength s.userctx.algNum)
        (s.userctx.peer p).key 0).1 = true
    · rw [if_pos hkey, if_neg (ne_false_of_eq_true hkey)]
      exact ⟨rfl, rfl⟩
    · rw [if_neg hkey, if_pos (eq_false_of_ne_true hkey)]
      exact ⟨rfl, rfl⟩
  · rw [if_neg hid, if_pos (eq_false_of_ne_true hid)]
    exact ⟨rfl, rfl⟩

lemma commitCtx_yields : Ends (commitCtx L argv)
    (Yields s (commit (L.setSecctx s.userctx) s.userctx)) s := by
  rw [ends_iff, commitCtx, commit]
  simp only [spec_bind, spec_ite, spec_pure, spec_read, spec_usage, true_and]
  split
  · exact ⟨rfl, rfl⟩
  split
  · exact ⟨rfl, rfl⟩
  · exact ⟨rfl, rfl⟩

/-- What the command does to the context is what `userctx` says. -/
lemma userctxCmd_yields (L : Libs) (argv : List (List Char)) (s : Vars) : Ends (userctxCmd L argv)
    (Yields s (userctx L.toCrypto argv (L.setSecctx s.userctx) s.userctx)) s := by
  have husage : Spec (fun _ => True) (usage argv) (Yields s ⟨.usage, none, s.userctx⟩) s :=
    spec_usage.mpr ⟨trivial, rfl, rfl⟩
  rw [ends_iff, userctxCmd, userctx, spec_ite]
  by_cases hargs : argv.length < 2
  · rw [if_pos hargs, if_pos (.inl hargs)]
    exact husage
  rw [if_neg hargs, spec_bind, spec_arg, spec_ite]
  refine ⟨trivial, ?_⟩
  by_cases hshort : argv.getD 1 [] ≠ ['-', 'c'] ∧ argv.length < 4
  · rw [if_pos hshort, if_pos (.inr hshort)]
    exact husage
  rw [if_neg hshort, if_neg (not_or.mpr ⟨hargs, hshort⟩), spec_ite]
  split
  · exact ends_iff.mp initCtx_yields
  rw [spec_bind, spec_read, spec_ite]
  split
  · exact husage
  rw [spec_ite]
  split
  · exact ends_iff.mp (peerCtx_yields .sender)
  rw [spec_ite]
  split
  · exact ends_iff.mp (peerCtx_yields .recipient)
  rw [spec_ite]
  split
  · exact ends_iff.mp commitCtx_yields
  · exact husage

lemma poke_eq_self_iff {mem : ℕ → UInt8} {bytes : List UInt8} :
    poke mem 0 bytes = mem ↔ Holds mem bytes := by
  constructor
  · intro h
    have hself := slice_poke_self mem 0 bytes
    rwa [h] at hself
  · intro h
    funext i
    by_cases hi : i < bytes.length
    · rw [poke, if_pos (Nat.zero_le i), Nat.sub_zero, ← h]
      simp [slice, hi]
    · exact poke_of_le (by omega)

lemma initUserctx_kept_iff (alg iv : List Char) (u : UserCtx) :
    ((initUserctx K alg iv u).reply.code ≠ 0 → (initUserctx K alg iv u).ctx = u) ↔
      InitKept K alg iv u := by
  unfold initUserctx
  dsimp only
  cases hnum : (parseI64 alg).1 with
  | false =>
    rw [if_pos rfl]
    constructor
    · intro h
      have hkept := h Nat.one_ne_zero
      exact ⟨fun _ => (congrArg UserCtx.algNum hkept).symm,
        fun hok => absurd hok (ne_true_of_eq_false hnum)⟩
    · rintro h -
      have halg := h.notANumber hnum
      dsimp only
      rw [← halg]
  | true =>
    have hno : ¬ (parseI64 alg).1 = false := ne_false_of_eq_true hnum
    rw [if_neg (by decide), parseHex_written, (parseHex_eq iv _ _ 0).1]
    cases hiv : decodeHex (K.ivLength (parseI64 alg).2) iv with
    | some bytes =>
      rw [if_neg (by simp)]
      exact iff_of_true (fun h => absurd rfl h)
        ⟨fun h => absurd h hno, fun _ h => absurd (hiv.symm.trans h) (Option.some_ne_none bytes)⟩
    | none =>
      rw [if_pos Option.isSome_none]
      constructor
      · intro h
        have hkept := h Nat.one_ne_zero
        exact ⟨fun h => absurd h hno, fun _ _ => ⟨(congrArg UserCtx.algNum hkept).symm,
          poke_eq_self_iff.mp (congrArg UserCtx.commonIv hkept)⟩⟩
      · rintro h -
        obtain ⟨halg, hhold⟩ := h.invalidIv hnum hiv
        dsimp only
        rw [poke_eq_self_iff.mpr hhold, ← halg]

lemma parsePeer_kept_iff (algNum : ℤ) (p : Peer) (id key : List Char) (m : KeyMaterial) :
    ((parsePeer K algNum p id key m).1.code ≠ 0 → (parsePeer K algNum p id key m).2 = m) ↔
      PeerKept K algNum id key m := by
  unfold parsePeer
  dsimp only
  by_cases hlen : K.keyidMaxlen < id.length / 2
  · rw [if_pos hlen]
    have hno : ¬ id.length / 2 ≤ K.keyidMaxlen := Nat.not_le.mpr hlen
    constructor
    · intro h
      have hkept := h Nat.one_ne_zero
      exact ⟨fun _ => (congrArg KeyMaterial.idLen hkept).symm, fun h => absurd h hno,
        fun h => absurd h hno⟩
    · rintro h -
      have hidLen := h.idTooLong hlen
      dsimp only
      rw [← hidLen]
  rw [if_neg hlen, parseHex_written, parseHex_written, (parseHex_eq id _ _ 0).1,
    (parseHex_eq key _ _ 0).1]
  cases hid : decodeHex (id.length / 2) id with
  | none =>
    rw [if_pos Option.isSome_none]
    constructor
    · intro h
      have hkept := h Nat.one_ne_zero
      refine ⟨fun h => absurd h hlen, fun _ _ => ⟨(congrArg KeyMaterial.idLen hkept).symm,
        poke_eq_self_iff.mp (congrArg KeyMaterial.id hkept)⟩, fun _ hsome => ?_⟩
      rw [hid] at hsome
      cases hsome
    · rintro h -
      obtain ⟨hidLen, hhold⟩ := h.invalidId (Nat.not_lt.mp hlen) hid
      dsimp only
      rw [poke_eq_self_iff.mpr hhold, ← hidLen]
  | some idBytes =>
    have hnone : ¬ decodeHex (id.length / 2) id = none := fun h =>
      Option.some_ne_none idBytes (hid.symm.trans h)
    rw [if_neg (by simp)]
    cases hkey : decodeHex (K.keyLength algNum) key with
    | some keyBytes =>
      rw [if_neg (by simp)]
      exact iff_of_true (fun h => absurd rfl h) ⟨fun h => absurd h hlen, fun _ h => absurd h hnone,
        fun _ _ h => absurd (hkey.symm.trans h) (Option.some_ne_none keyBytes)⟩
    | none =>
      rw [if_pos Option.isSome_none]
      constructor
      · intro h
        have hkept := h Nat.one_ne_zero
        exact ⟨fun h => absurd h hlen, fun _ h => absurd h hnone, fun _ _ _ =>
          ⟨(congrArg KeyMaterial.idLen hkept).symm,
            poke_eq_self_iff.mp (congrArg KeyMaterial.id hkept),
            poke_eq_self_iff.mp (congrArg KeyMaterial.key hkept)⟩⟩
      · rintro h -
        obtain ⟨hidLen, hidHold, hkeyHold⟩ :=
          h.invalidKey (Nat.not_lt.mp hlen) (by rw [hid]; rfl) hkey
        dsimp only
        rw [poke_eq_self_iff.mpr hidHold, poke_eq_self_iff.mpr hkeyHold, ← hidLen]

lemma setPeer_eq_self_iff {u : UserCtx} {m : KeyMaterial} {p : Peer} :
    u.setPeer m p = u ↔ m = u.peer p := by
  constructor
  · intro h
    rw [← peer_setPeer u m p, h]
  · rintro rfl
    cases p with
    | sender => rfl
    | recipient => rfl

lemma userctx_kept_iff (argv : List (List Char)) (res : ℤ) (u : UserCtx) :
    ((userctx K argv res u).reply.code ≠ 0 → (userctx K argv res u).ctx = u) ↔
      UserctxKept K argv u := by
  let σ : Session := ⟨u, []⟩
  let cmd : Command := ⟨argv, res⟩
  rcases userctx_cases (K := K) σ cmd with ⟨hinit, hrun⟩ | ⟨p, hkey, hrun⟩ | ⟨hnone, hrun⟩
  · have hkept := initUserctx_kept_iff (K := K) (argv.getD 2 []) (argv.getD 3 []) u
    rw [show userctx K argv res u = _ from hrun]
    refine hkept.trans ⟨fun h => ⟨fun _ _ => h, fun p hopt => ?_⟩, fun h => ?_⟩
    · cases sub_unique hinit hopt
    · obtain ⟨hopt, hlen, -⟩ := reached_iff.mp hinit
      exact h.init hopt hlen
  · have hkept :=
      parsePeer_kept_iff (K := K) u.algNum p (argv.getD 2 []) (argv.getD 3 []) (u.peer p)
    rw [show userctx K argv res u = _ from hrun]
    refine (imp_congr_right fun _ => setPeer_eq_self_iff).trans (hkept.trans ?_)
    refine ⟨fun h => ⟨fun hopt => ?_, fun q hopt _ _ => ?_⟩, fun h => ?_⟩
    · cases sub_unique hkey hopt
    · cases sub_unique hkey hopt
      exact h
    · obtain ⟨hopt, hlen, halg⟩ := reached_iff.mp hkey
      exact h.key p hopt hlen (halg.resolve_left (by simp))
  · have hctx : (userctx K argv res u).ctx = u := by
      rcases hrun with hrun | ⟨-, -, hrun⟩
      · rw [show userctx K argv res u = _ from hrun]
      · rw [show userctx K argv res u = _ from hrun, commit_ctx]
    have hreached : ∀ sub : Sub, argv.getD 1 [] = sub.opt → 4 ≤ argv.length →
        (sub = .init ∨ u.algNum ≠ 0) → False := fun sub hopt hlen halg =>
      Bool.noConfusion ((hnone sub).symm.trans (reached_iff.mpr ⟨hopt, hlen, halg⟩))
    exact iff_of_true (fun _ => hctx)
      ⟨fun hopt hlen => (hreached .init hopt hlen (.inl rfl)).elim,
        fun p hopt hlen halg => (hreached (.key p) hopt hlen (.inr halg)).elim⟩

/-! ### The other commands -/

@[simp] lemma kept_zero (t : Vars) : Kept s 0 t ↔ True := iff_true_intro fun h => absurd rfl h

@[simp] lemma kept_one (t : Vars) : Kept s 1 t ↔ t.config = s.config :=
  forall_prop_of_true Int.one_ne_zero

lemma config_dnsServer_iff (addr : Vector UInt8 16) (port : UInt16) :
    ({ s with dnsServer := { s.dnsServer with addr := addr, port := port } } : Vars).config =
      s.config ↔ s.dnsServer.addr = addr ∧ s.dnsServer.port = port := by
  constructor
  · intro h
    have hep := congrArg Config.dnsServer h
    exact ⟨(congrArg SockUdpEp.addr hep).symm, (congrArg SockUdpEp.port hep).symm⟩
  · rintro ⟨rfl, rfl⟩
    rfl

lemma atomic_userctxCmd_iff :
    Atomic (userctxCmd L argv) s ↔ UserctxKept L.toCrypto argv s.userctx := by
  obtain ⟨hcode, hstate⟩ := userctxCmd_yields L argv s
  rw [← userctx_kept_iff argv (L.setSecctx s.userctx) s.userctx]
  unfold Atomic Ends Kept
  rw [hcode, hstate, Int.natCast_ne_zero]
  refine imp_congr_right fun _ => ⟨fun h => congrArg Config.userctx h, fun h => ?_⟩
  rw [h]

lemma atomic_dnsServer_iff : Atomic (dnsServer L argv) s ↔ ServerKept L argv s := by
  have hkept : ServerKept L argv s ↔ _ ∧ _ :=
    ⟨fun h => ⟨h.addr, h.port⟩, fun h => ⟨h.1, h.2⟩⟩
  rw [Atomic, ends_iff, dnsServer, refusesAddr, refusesPort, hkept]
  simp only [spec_bind, spec_or, spec_provided, spec_ite, spec_usage, spec_arg, spec_pure,
    spec_modify, spec_read, true_and, kept_zero, kept_one, ite_self, config_dnsServer_iff]
  grind

lemma slice_strcpy (mem : ℕ → UInt8) (text : List Char) :
    slice (poke mem 0 (ascii text ++ [0])) 0 text.length = ascii text := by
  have hread := slice_poke_left mem 0 (ascii text) [0]
  rwa [show (ascii text).length = text.length from List.length_map _] at hread

lemma config_lens_iff (tag : UInt16) (idLen keyLen : ℕ) :
    ({ s with tag := tag, idLen := idLen, keyLen := keyLen } : Vars).config = s.config ↔
      s.tag = tag ∧ s.idLen = idLen ∧ s.keyLen = keyLen := by
  constructor
  · intro h
    have hcred := congrArg Config.credential h
    have hid := congrArg (fun c => c.id.length) hcred
    have hkey := congrArg (fun c => c.key.length) hcred
    simp only [Vars.config, Vars.credential, length_slice] at hid hkey
    exact ⟨(congrArg PskCredential.tag hcred).symm, hid.symm, hkey.symm⟩
  · rintro ⟨rfl, rfl, rfl⟩
    rfl

/-- The credential is stored before it is added. -/
lemma kept_storeCreds_iff (tag : UInt16) :
    Spec (fun _ => True) (storeCreds L argv) (Kept s) { s with
        tag := tag
        idLen := (argv.getD 2 []).length
        keyLen := (argv.getD 3 []).length } ↔
      (L.credAdd ⟨tag, ascii (argv.getD 2 []), ascii (argv.getD 3 [])⟩ < 0 →
        s.credential = ⟨tag, ascii (argv.getD 2 []), ascii (argv.getD 3 [])⟩) := by
  rw [storeCreds]
  simp only [spec_bind, spec_ite, spec_arg, spec_pure, spec_strcpy, spec_read, true_and,
    implies_true, kept_zero, Vars.buf, Vars.setBuf, Vars.credential, slice_strcpy]
  split
  · rename_i hres
    have hcode : -L.credAdd ⟨tag, ascii (argv.getD 2 []), ascii (argv.getD 3 [])⟩ ≠ 0 := by omega
    rw [forall_prop_of_true hres, Kept, forall_prop_of_true hcode]
    constructor
    · intro h
      have hcred := congrArg Config.credential h
      simp only [Vars.config, Vars.credential, slice_strcpy] at hcred
      exact hcred.symm
    · intro h
      simp only [Vars.config, Vars.credential, slice_strcpy, h]
  · rename_i hres
    exact iff_of_true trivial fun h => absurd h hres

lemma atomic_addCreds_iff : Atomic (addCreds L argv) s ↔
    AddKept L (UInt16.ofInt (atoi (argv.getD 1 [])).toInt) (argv.getD 2 []) (argv.getD 3 []) s := by
  have hkept : AddKept L (UInt16.ofInt (atoi (argv.getD 1 [])).toInt) (argv.getD 2 [])
      (argv.getD 3 [])
      s ↔ _ ∧ _ ∧ _ ∧ _ :=
    ⟨fun h => ⟨h.noTag, h.idTooLong, h.keyTooLong, h.notAdded⟩,
      fun ⟨h₁, h₂, h₃, h₄⟩ => ⟨h₁, h₂, h₃, h₄⟩⟩
  rw [Atomic, ends_iff, addCreds, hkept]
  simp only [spec_bind, spec_ite, spec_usage, spec_arg, spec_pure, spec_modify, true_and,
    kept_one, kept_storeCreds_iff, config_lens_iff]
  grind

lemma atomic_creds_iff : Atomic (creds L argv) s ↔ CredsKept L argv s := by
  rw [Atomic, ends_iff, creds, spec_bind, spec_isOption, spec_ite, CredsKept]
  refine (and_iff_right fun _ => trivial).trans ?_
  by_cases hopt : 1 < argv.length ∧ argv.getD 1 [] = ['-', 'd']
  · rw [if_pos (decide_eq_true hopt), removeCreds]
    simp only [spec_bind, spec_ite, spec_usage, spec_arg, spec_pure, true_and, kept_zero, kept_one,
      ite_self]
    exact iff_of_true trivial fun hno => absurd hopt.2 hno
  · rw [if_neg fun hdel => hopt (of_decide_eq_true hdel), spec_ite]
    split
    · rename_i hshort
      refine iff_of_true (spec_usage.mpr ⟨trivial, fun _ => rfl⟩) fun _ hlong => ?_
      exact absurd hshort (Nat.not_lt.mpr hlong)
    · rename_i hlong
      have hno : argv.getD 1 [] ≠ ['-', 'd'] := fun hdel => hopt ⟨by omega, hdel⟩
      rw [forall_prop_of_true hno, forall_prop_of_true (Nat.not_lt.mp hlong)]
      exact ends_iff.symm.trans atomic_addCreds_iff

lemma ends_copyMockResponse_iff {Q : Option ℕ → Vars → Prop} (str : List Char) :
    Spec (fun _ => True) (copyMockResponse L str) Q s ↔
      if L.dnsMsgLen ≤ s.mockResponseLen + str.length / 2 then Q none s
      else
        let bytes := writtenHex (str.length / 2) str
        let t := { s with mockResponse := poke s.mockResponse s.mockResponseLen bytes }
        if (decodeHex (str.length / 2) str).isSome = true then
          Q (some (str.length / 2)) { t with mockResponseLen := s.mockResponseLen + str.length / 2 }
        else Q none t := by
  rw [copyMockResponse]
  simp only [spec_bind, spec_ite, spec_pure, spec_parseHexTo, spec_modify, spec_read, true_and,
    implies_true, Vars.buf, Vars.setBuf, parseHex_written]
  rw [(parseHex_eq str _ _ _).1]

/-- Behind the response that is stored. -/
lemma config_behind (bytes : List UInt8) :
    ({ s with mockResponse := poke s.mockResponse s.mockResponseLen bytes } : Vars).config =
      s.config := by
  unfold Vars.config Vars.credential
  dsimp only
  rw [slice_poke_before (by omega)]

lemma config_resp_iff (code : UInt8) (mem : ℕ → UInt8) :
    ({ s with respCode := code, mockResponse := mem, mockResponseLen := 0 } : Vars).config =
      s.config ↔ s.respCode = code ∧ s.mockResponseLen = 0 := by
  constructor
  · intro h
    have hlen := congrArg (fun c => c.response.length) h
    simp only [Vars.config, length_slice] at hlen
    exact ⟨(congrArg Config.respCode h).symm, hlen.symm⟩
  · rintro ⟨rfl, hlen⟩
    unfold Vars.config Vars.credential
    rw [hlen]
    rfl

lemma atomic_resp_iff : Atomic (resp L argv) s ↔ RespKept L argv s := by
  rw [Atomic, ends_iff, resp, RespKept, ← Option.not_isSome_iff_eq_none]
  simp only [spec_bind, spec_ite, spec_arg, spec_pure, spec_isOption, ends_copyMockResponse_iff,
    spec_modify, true_and, implies_true, kept_zero, kept_one, ite_self, config_behind,
    config_resp_iff, Option.isSome_some, Option.isSome_none, if_true, Bool.false_eq_true, if_false,
    Nat.zero_add]
  grind

lemma kept_self (code : ℤ) : Kept s code s ↔ True := iff_true_intro fun _ => rfl

lemma atomic_setUri : Atomic (setUri L argv) s := by
  rw [Atomic, ends_iff, setUri]
  simp only [spec_bind, spec_isOption, spec_ite, spec_usage, spec_arg, spec_pure, kept_self,
    ite_self, implies_true, and_self]

lemma atomic_proxy : Atomic (proxy L argv) s := by
  rw [Atomic, ends_iff, proxy]
  simp only [spec_bind, spec_ite, spec_usage, spec_arg, spec_pure, kept_self, ite_self, and_self]

lemma atomic_query : Atomic (query L argv) s := by
  rw [Atomic, ends_iff, query, family]
  simp only [spec_bind, spec_ite, spec_usage, spec_arg, spec_pure, kept_self, ite_self, and_self]

lemma atomic_dns : Atomic (dns L argv) s := by
  rw [Atomic, ends_iff, dns, family]
  simp only [spec_bind, spec_ite, spec_usage, spec_arg, spec_pure, kept_self, ite_self, and_self]

/-- A failing command of the shell has changed nothing exactly when the configuration had already
the values that it assigns before it fails. -/
theorem atomic_handler_iff (L : Libs) (s : Vars) (cmd : ShellCommand)
    (argv : List (List Char)) : Atomic (cmd.handler L argv) s ↔ cmd.Kept L argv s := by
  cases cmd with
  | server => exact atomic_dnsServer_iff
  | creds => exact atomic_creds_iff
  | resp => exact atomic_resp_iff
  | userctx => exact atomic_userctxCmd_iff
  | switch => exact iff_of_true (fun h => absurd rfl h) trivial
  | uri => exact iff_of_true atomic_setUri trivial
  | proxy => exact iff_of_true atomic_proxy trivial
  | doc => exact iff_of_true atomic_query trivial
  | dns => exact iff_of_true atomic_dns trivial

/-- `resp 69 zz`, where the response is no hex. -/
theorem respCode_changed :
    ¬ ∀ (L : Libs) (s : Vars) (cmd : ShellCommand) (argv : List (List Char)),
      Atomic (cmd.handler L argv) s := by
  intro h
  have hkept := h acceptingLibs .init .resp
    [['r', 'e', 's', 'p'], ['6', '9'], ['z', 'z']] (by decide +kernel)
  exact absurd (congrArg Config.respCode hkept) (by decide +kernel)

end Client

end RiotPlayground
