import RiotPlayground.Client.Commit
import RiotPlayground.Client.Shell

/-!
# Where the handlers of the shell reach

All but two of them check the number of their arguments and the lengths before they use them.
-/

namespace RiotPlayground

open Buffer Directive Luke Logged

namespace Client

/-- The argument is there, or the byte is inside its buffer. -/
def InBounds (L : Libs) (argv : List (List Char)) : Access → Prop
  | .arg i => i < argv.length
  | .store b i => i < b.size L

/-- `creds` has a tag to remove, or strings with room for their ends. -/
structure CredsFit (argv : List (List Char)) : Prop where
  remove : argv.getD 1 [] = ['-', 'd'] → 3 ≤ argv.length
  add : argv.getD 1 [] ≠ ['-', 'd'] → 4 ≤ argv.length →
    UInt16.ofInt (atoi (argv.getD 1 [])).toInt ≠ 0 →
    (argv.getD 2 []).length ≤ PSK_ID_LEN → (argv.getD 3 []).length ≤ PSK_LEN →
      (argv.getD 2 []).length < PSK_ID_LEN ∧ (argv.getD 3 []).length < PSK_LEN

def ShellCommand.Fits (argv : List (List Char)) : ShellCommand → Prop
  | .creds => CredsFit argv
  | .dns => 2 ≤ argv.length
  | _ => True

variable {L : Libs} {argv : List (List Char)} {s : Vars}

@[simp] lemma inBounds_arg (i : ℕ) : InBounds L argv (.arg i) ↔ i < argv.length := Iff.rfl

@[simp] lemma inBounds_store (b : Buf) (i : ℕ) : InBounds L argv (.store b i) ↔ i < b.size L :=
  Iff.rfl

section Arguments

variable (h : 1 ≤ argv.length)
include h

lemma within_setUri : Within (InBounds L argv) (setUri L argv) s := by
  rw [within_iff, setUri]
  simp only [spec_bind, spec_isOption, spec_ite, spec_usage, spec_arg, spec_pure, inBounds_arg]
  grind

lemma within_dnsServer : Within (InBounds L argv) (dnsServer L argv) s := by
  rw [within_iff, dnsServer, refusesAddr, refusesPort]
  simp only [spec_bind, spec_or, spec_provided, spec_ite, spec_usage, spec_arg, spec_pure,
    spec_modify, spec_read, inBounds_arg]
  grind

lemma within_proxy : Within (InBounds L argv) (proxy L argv) s := by
  rw [within_iff, proxy]
  simp only [spec_bind, spec_ite, spec_usage, spec_arg, spec_pure, inBounds_arg]
  grind

lemma within_query : Within (InBounds L argv) (query L argv) s := by
  rw [within_iff, query, family]
  simp only [spec_bind, spec_ite, spec_usage, spec_arg, spec_pure, inBounds_arg]
  grind

/-- After the usage the missing argument is read. -/
lemma within_dns_iff : Within (InBounds L argv) (dns L argv) s ↔ 2 ≤ argv.length := by
  rw [within_iff, dns, family]
  simp only [spec_bind, spec_ite, spec_usage, spec_arg, spec_pure, inBounds_arg]
  grind

end Arguments

lemma lt_of_mem_hexStores {hex : List Char} {len start i : ℕ} (h : i ∈ hexStores hex len start) :
    i < start + len := by
  have hlt := (mem_hexStores.mp h).2
  have hle := length_writtenHex_le len hex
  omega

lemma spec_parseHexTo_of_le {Q : Bool → Vars → Prop} {b : Buf} {hex : List Char} {len start : ℕ}
    (h : start + len ≤ b.size L) :
    Spec (InBounds L argv) (parseHexTo b hex len start) Q s ↔
      Q (parseHex hex len (s.buf b) start).1
        (s.setBuf (parseHex hex len (s.buf b) start).2 b) := by
  rw [spec_parseHexTo]
  exact and_iff_right fun i hi => Nat.lt_of_lt_of_le (lt_of_mem_hexStores hi) h

lemma spec_copyMockResponse (str : List Char) :
    Spec (InBounds L argv) (copyMockResponse L str) (fun _ _ => True) s := by
  rw [copyMockResponse, spec_bind, spec_read, spec_ite]
  split
  · rw [spec_pure]
    trivial
  · rename_i hfits
    rw [spec_bind, spec_parseHexTo_of_le (Nat.le_of_not_le hfits)]
    simp only [spec_ite, spec_bind, spec_modify, spec_pure, ite_self]

lemma within_resp : Within (InBounds L argv) (resp L argv) s := by
  rw [within_iff, resp]
  simp only [spec_bind, spec_isOption, spec_ite, spec_arg, spec_pure, spec_modify, ite_self,
    spec_copyMockResponse, inBounds_arg]
  grind

lemma spec_initCtx (h : 4 ≤ argv.length) :
    Spec (InBounds L argv) (initCtx L argv) (fun _ _ => True) s := by
  have hfits : ∀ alg, 0 + L.ivLength alg ≤ Buf.commonIv.size L := fun alg => by
    rw [Nat.zero_add]
    exact L.ivLength_le alg
  rw [initCtx]
  simp only [spec_bind, spec_ite, spec_arg, spec_pure, spec_modify, ite_self,
    spec_parseHexTo_of_le (hfits _), inBounds_arg]
  grind

lemma spec_peerCtx (h : 4 ≤ argv.length) (p : Peer) :
    Spec (InBounds L argv) (peerCtx L argv p) (fun _ _ => True) s := by
  have hkey : ∀ alg, 0 + L.keyLength alg ≤ (Buf.key p).size L := fun alg => by
    rw [Nat.zero_add]
    exact L.keyLength_le alg
  rw [peerCtx]
  simp only [spec_bind, spec_arg, spec_modify, spec_ite, spec_pure, inBounds_arg]
  refine ⟨by omega, ?_⟩
  split
  · trivial
  · rename_i hlen
    have hid : 0 + (argv.getD 2 []).length / 2 ≤ (Buf.id p).size L := by
      rw [Nat.zero_add]
      exact Nat.not_lt.mp hlen
    simp only [spec_parseHexTo_of_le hid, spec_read, spec_parseHexTo_of_le (hkey _), ite_self]
    grind

lemma spec_commitCtx (h : 1 ≤ argv.length) :
    Spec (InBounds L argv) (commitCtx L argv) (fun _ _ => True) s := by
  rw [commitCtx]
  simp only [spec_bind, spec_ite, spec_usage, spec_pure, spec_read, ite_self, inBounds_arg]
  grind

lemma within_userctxCmd (h : 1 ≤ argv.length) :
    Within (InBounds L argv) (userctxCmd L argv) s := by
  have husage : ∀ t, Spec (InBounds L argv) (usage argv) (fun _ _ => True) t := fun t =>
    spec_usage.mpr ⟨h, trivial⟩
  rw [within_iff, userctxCmd, spec_ite]
  split
  · exact husage s
  rename_i hargs
  rw [spec_bind, spec_arg, spec_ite]
  refine ⟨Nat.le_of_not_lt hargs, ?_⟩
  split
  · exact husage s
  rename_i hlong
  -- The options other than `-c` come with two arguments.
  have hargs : ∀ opt, argv.getD 1 [] = opt → opt ≠ ['-', 'c'] → 4 ≤ argv.length := by
    rintro _ rfl hopt
    exact Nat.not_lt.mp fun hlt => hlong ⟨hopt, hlt⟩
  rw [spec_ite]
  split
  · rename_i hopt
    exact spec_initCtx (hargs _ hopt (by decide))
  rw [spec_bind, spec_read, spec_ite]
  split
  · exact husage s
  rw [spec_ite]
  split
  · rename_i hopt
    exact spec_peerCtx (hargs _ hopt (by decide)) .sender
  rw [spec_ite]
  split
  · rename_i hopt
    exact spec_peerCtx (hargs _ hopt (by decide)) .recipient
  rw [spec_ite]
  split
  · exact spec_commitCtx h
  · exact husage s

lemma spec_storeCreds_iff (h : 4 ≤ argv.length) :
    Spec (InBounds L argv) (storeCreds L argv) (fun _ _ => True) s ↔
      (argv.getD 2 []).length < PSK_ID_LEN ∧ (argv.getD 3 []).length < PSK_LEN := by
  have hstrcpy : ∀ {n size : ℕ}, (∀ i < n + 1, i < size) ↔ n < size := fun {n size} =>
    ⟨fun hall => hall n (Nat.lt_succ_self n), fun hlt i hi => by omega⟩
  rw [storeCreds]
  simp only [spec_bind, spec_arg, spec_strcpy, spec_read, spec_ite, spec_pure, inBounds_arg,
    inBounds_store, hstrcpy, Buf.size]
  grind

lemma spec_addCreds_iff (h : 4 ≤ argv.length) :
    Spec (InBounds L argv) (addCreds L argv) (fun _ _ => True) s ↔
      (UInt16.ofInt (atoi (argv.getD 1 [])).toInt ≠ 0 →
        (argv.getD 2 []).length ≤ PSK_ID_LEN → (argv.getD 3 []).length ≤ PSK_LEN →
          (argv.getD 2 []).length < PSK_ID_LEN ∧ (argv.getD 3 []).length < PSK_LEN) := by
  rw [addCreds]
  simp only [spec_bind, spec_arg, spec_modify, spec_ite, spec_usage, spec_pure,
    spec_storeCreds_iff h, inBounds_arg]
  grind

lemma spec_removeCreds_iff (h : 2 ≤ argv.length) :
    Spec (InBounds L argv) (removeCreds argv) (fun _ _ => True) s ↔ 3 ≤ argv.length := by
  rw [removeCreds]
  simp only [spec_bind, spec_arg, spec_ite, spec_usage, spec_pure, inBounds_arg]
  grind

lemma within_creds_iff (h : 1 ≤ argv.length) :
    Within (InBounds L argv) (creds L argv) s ↔ CredsFit argv := by
  rw [within_iff, creds, spec_bind, spec_isOption, spec_ite]
  refine (and_iff_right fun hlen => hlen).trans ?_
  by_cases hopt : argv.getD 1 [] = ['-', 'd']
  · have hlen : 1 < argv.length := by
      by_contra hshort
      rw [List.getD_eq_getElem?_getD, List.getElem?_eq_none (Nat.not_lt.mp hshort)] at hopt
      cases hopt
    rw [if_pos (decide_eq_true ⟨hlen, hopt⟩), spec_removeCreds_iff hlen]
    exact ⟨fun hargs => ⟨fun _ => hargs, fun hno => absurd hopt hno⟩, fun hfit => hfit.remove hopt⟩
  · rw [if_neg fun hdel => hopt (of_decide_eq_true hdel).2, spec_ite]
    split
    · rename_i hshort
      refine iff_of_true (spec_usage.mpr ⟨h, trivial⟩) ⟨fun hdel => absurd hdel hopt, ?_⟩
      intro _ hlong
      exact absurd hshort (Nat.not_lt.mpr hlong)
    · rename_i hlong
      rw [spec_addCreds_iff (Nat.not_lt.mp hlong)]
      exact ⟨fun hadd => ⟨fun hdel => absurd hdel hopt, fun _ _ => hadd⟩,
        fun hfit => hfit.add hopt (Nat.not_lt.mp hlong)⟩

/-- The handlers of the shell stay inside their arguments and buffers exactly when `creds` has a
tag to remove or strings with room for their ends, and `dns` has a name. -/
theorem within_handler_iff (L : Libs) (s : Vars) (cmd : ShellCommand) (name : List Char)
    (args : List (List Char)) :
    Within (InBounds L (name :: args)) (cmd.handler L (name :: args)) s ↔
      cmd.Fits (name :: args) := by
  have h : 1 ≤ (name :: args).length := Nat.le_add_left 1 args.length
  cases cmd with
  | switch => exact iff_of_true (within_iff.mpr ((spec_pure 0).mpr trivial)) trivial
  | uri => exact iff_of_true (within_setUri h) trivial
  | server => exact iff_of_true (within_dnsServer h) trivial
  | creds => exact within_creds_iff h
  | proxy => exact iff_of_true (within_proxy h) trivial
  | doc => exact iff_of_true (within_query h) trivial
  | dns => exact within_dns_iff h
  | resp => exact iff_of_true within_resp trivial
  | userctx => exact iff_of_true (within_userctxCmd h) trivial

/-- Libraries that take what they are given. The address parser is not needed. -/
def acceptingLibs : Libs :=
  { libOscore with
    dnsMsgLen := 128
    inetPton := fun _ addr => (false, addr)
    uriGet := none
    uriSet := fun _ => 0
    credAdd := fun _ => 0
    setSecctx := fun _ => 0
    proxyGet := none
    proxySet := fun _ => 0
    dnsQuery := fun _ _ => 16
    sockDnsQuery := fun _ _ => 16 }

/-- `creds 5 <psk_id> k` with an identity that fills `_psk_id`, so that its end does not fit. -/
def fullPskId : List (List Char) := [['5'], List.replicate 32 'a', ['k']]

theorem fullPskId_outside :
    ¬ ∀ (L : Libs) (s : Vars) (cmd : ShellCommand) (name : List Char) (args : List (List Char)),
      Within (InBounds L (name :: args)) (cmd.handler L (name :: args)) s := by
  intro h
  have hfit := (within_creds_iff (by decide)).mp
    (h acceptingLibs .init .creds ['c', 'r', 'e', 'd', 's'] fullPskId)
  have hroom := hfit.add (by decide) (by decide) (by decide +kernel) (by decide) (by decide)
  exact absurd hroom.1 (by decide)

end Client

end RiotPlayground
