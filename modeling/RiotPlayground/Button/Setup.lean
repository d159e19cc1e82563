import Mathlib.Data.Bool.AllAny
import Mathlib.Data.List.DropRight
import Mathlib.Data.List.Infix
import Mathlib.Logic.Function.Iterate
import RiotPlayground.Button.LastTarget
import RiotPlayground.Luke.TargetRoundTrip
import RiotPlayground.Websniffer.PktDict

/-!
# From the resource directory to the dino: `setup-button.py`, `button/main.c` and `dino/main.c`

The script looks up both nodes and posts the resource of the dino to the button, which posts to the
dino from then on.
-/

namespace RiotPlayground

open Buffer FlatJson Luke

namespace Button

/-- The white space of `str.strip`. -/
def isStrSpace (c : Char) : Bool :=
  let n := c.toNat
  9 ≤ n && n ≤ 13 || 28 ≤ n && n ≤ 32 || n = 0x85 || n = 0xa0 || n = 0x1680 ||
    0x2000 ≤ n && n ≤ 0x200a || n = 0x2028 || n = 0x2029 || n = 0x202f || n = 0x205f || n = 0x3000

def coapScheme : Text := ['c', 'o', 'a', 'p', ':', '/', '/']

/-- `/dino/move` -/
def DINO_MOVE_PATH : Text := ['/', 'd', 'i', 'n', 'o', '/', 'm', 'o', 'v', 'e']

/-- `/button/target` -/
def BUTTON_SET_TARGET_PATH : Text :=
  ['/', 'b', 'u', 't', 't', 'o', 'n', '/', 't', 'a', 'r', 'g', 'e', 't']

/-- What stands before the last bracket of the line. -/
def toBracket : Text → Option Text
  | [] => none
  | c :: text =>
    if c = '\n' then none
    else
      match toBracket text with
      | some inside => some (c :: inside)
      | none => if c = '>' then some [] else none

/-- `<coap://([^/]+)(/.*)>` at the start of a text. -/
def movePairHere (text : Text) : Option (Text × Text) :=
  (text.dropPrefix? ('<' :: coapScheme)).bind fun rest =>
    let addr := rest.takeWhile (· ≠ '/')
    match rest.dropWhile (· ≠ '/') with
    | [] => none
    | slash :: more =>
      if addr = [] then none else (toBracket more).map fun path => (addr, slash :: path)

/-- `re.search("<coap://([^/]+)(/.*)>", resource)` -/
def movePair (resource : Text) : Option (Text × Text) := resource.tails.findSome? movePairHere

/-- `<(coap://.+)>` at the start of a text. -/
def targetUrlHere (text : Text) : Option Text :=
  (text.dropPrefix? ('<' :: coapScheme)).bind fun rest =>
    (toBracket rest).bind fun url => if url = [] then none else some (coapScheme ++ url)

def targetUrl (resource : Text) : Option Text := resource.tails.findSome? targetUrlHere

/-- `dino_move_target` and `button_target_url`. -/
structure SetupVars where
  dinoMoveTarget : Option (Text × Text)
  buttonTargetUrl : Option Text

/-- One resource; `none` is the `break`. -/
def setupStep (v : SetupVars) (resource : Text) : Option SetupVars :=
  if DINO_MOVE_PATH <:+: resource then
    (movePair resource).map fun target => { v with dinoMoveTarget := some target }
  else if BUTTON_SET_TARGET_PATH <:+: resource then
    (targetUrl resource).map fun url => { v with buttonTargetUrl := some url }
  else some v

/-- The loop over the resources. -/
def setupLoop (v : SetupVars) : List Text → SetupVars
  | [] => v
  | resource :: rest =>
    match setupStep v resource with
    | none => v
    | some w => setupLoop w rest

/-- `resources.strip().split(",")` -/
def lookedUp (stdout : Text) : List Text :=
  ((stdout.dropWhile isStrSpace).rdropWhile isStrSpace).splitOn ','

/-- `json.dumps(dino_move_target)` -/
def dumpTarget (target : Text × Text) : Option Text :=
  (PyValue.dumps none (fun _ => [])
    (.dict [(['a', 'd', 'd', 'r'], .str target.1), (['p', 'a', 't', 'h'], .str target.2)])).toOption

/-- The URL and the document of the POST that the script makes, if it makes one. -/
def setupButton (stdout : Text) : Option (Text × Text) :=
  let v := setupLoop ⟨none, none⟩ (lookedUp stdout)
  match v.dinoMoveTarget, v.buttonTargetUrl with
  | some target, some url => (dumpTarget target).map fun doc => (url, doc)
  | _, _ => none

/-! ### `dino/main.c` -/

structure Dino where
  led0 : Bool
  movePin : Bool
  deriving DecidableEq

def toggleDino (s : Dino) : Dino := ⟨!s.led0, !s.movePin⟩

/-- A POST for a path, as `gcoap` gives it to `_dino_move`. -/
def dinoMove (s : Dino) (path : List UInt8) : Dino :=
  if path = ascii DINO_MOVE_PATH then toggleDino s else s

/-- A request that the network brings to the dino if it is for its endpoint. -/
def receive (ep : SockUdpEp) (s : Dino) (r : Request) : Dino :=
  if r.remote.addr = ep.addr ∧ r.remote.port = ep.port then dinoMove s r.path else s

variable {host attrs : Text}

lemma toBracket_append {inside : Text} (hline : '\n' ∉ inside) (hattrs : '>' ∉ attrs) :
    toBracket (inside ++ '>' :: attrs) = some inside := by
  have hnone : toBracket attrs = none := by
    induction attrs with
    | nil => rfl
    | cons c attrs ih =>
      obtain ⟨hc, hattrs⟩ := not_or.mp (List.mem_cons.not.mp hattrs)
      unfold toBracket
      rw [ih hattrs]
      split
      · rfl
      · exact if_neg fun heq => hc heq.symm
  induction inside with
  | nil =>
    change toBracket ('>' :: attrs) = _
    unfold toBracket
    rw [hnone]
    rfl
  | cons c inside ih =>
    obtain ⟨hc, hline⟩ := not_or.mp (List.mem_cons.not.mp hline)
    change toBracket (c :: (inside ++ '>' :: attrs)) = _
    unfold toBracket
    rw [ih hline, if_neg fun heq => hc heq.symm]

lemma findSome?_tails {α : Type*} {f : Text → Option α} {text : Text} {a : α}
    (h : f text = some a) : text.tails.findSome? f = some a := by
  cases text with
  | nil =>
    change [[]].findSome? f = some a
    rw [List.findSome?_cons, h]
  | cons c text =>
    change ((c :: text) :: _).findSome? f = some a
    rw [List.findSome?_cons, h]

lemma movePair_link (hne : host ≠ []) (hhost : '/' ∉ host) (hattrs : '>' ∉ attrs) :
    movePair ('<' :: coapScheme ++ (host ++ (DINO_MOVE_PATH ++ '>' :: attrs))) =
      some (host, DINO_MOVE_PATH) := by
  apply findSome?_tails
  have hpos : ∀ c ∈ host, decide (c ≠ '/') = true := by
    intro c hc
    exact decide_eq_true fun heq => hhost (heq ▸ hc)
  have htake : (host ++ (DINO_MOVE_PATH ++ '>' :: attrs)).takeWhile (· ≠ '/') = host := by
    rw [List.takeWhile_append_of_pos hpos]
    simp [DINO_MOVE_PATH]
  have hdrop : (host ++ (DINO_MOVE_PATH ++ '>' :: attrs)).dropWhile (· ≠ '/') =
      '/' :: (DINO_MOVE_PATH.tail ++ '>' :: attrs) := by
    rw [List.dropWhile_append_of_pos hpos]
    simp [DINO_MOVE_PATH]
  unfold movePairHere
  rw [List.dropPrefix?_append_of_beq _ (by simp), Option.bind_some]
  dsimp only
  rw [htake, hdrop]
  dsimp only
  rw [if_neg hne, toBracket_append (by decide) hattrs]
  rfl

lemma targetUrl_link {rest : Text} (hne : rest ≠ []) (hline : '\n' ∉ rest)
    (hattrs : '>' ∉ attrs) :
    targetUrl ('<' :: coapScheme ++ (rest ++ '>' :: attrs)) = some (coapScheme ++ rest) := by
  apply findSome?_tails
  unfold targetUrlHere
  rw [List.dropPrefix?_append_of_beq _ (by simp), Option.bind_some, toBracket_append hline hattrs,
    Option.bind_some, if_neg hne]

/-- What the resource directory lists: the resource of the dino, that of the button, and others. -/
inductive Listed (host rest : Text) : Text → Prop
  | dino {attrs : Text} (hattrs : '>' ∉ attrs) :
      Listed host rest ('<' :: coapScheme ++ (host ++ (DINO_MOVE_PATH ++ '>' :: attrs)))
  | button {attrs : Text} (hattrs : '>' ∉ attrs)
      (hnot : ¬ DINO_MOVE_PATH <:+: '<' :: coapScheme ++ (rest ++ '>' :: attrs)) :
      Listed host rest ('<' :: coapScheme ++ (rest ++ '>' :: attrs))
  | other {text : Text} (hdino : ¬ DINO_MOVE_PATH <:+: text)
      (hbutton : ¬ BUTTON_SET_TARGET_PATH <:+: text) : Listed host rest text

/-- The host of the dino and the URL of the button behind its scheme. -/
structure Setting (host rest : Text) : Prop where
  host_ne : host ≠ []
  host_slash : '/' ∉ host
  url_ne : rest ≠ []
  url_line : '\n' ∉ rest
  url : BUTTON_SET_TARGET_PATH <:+: rest

variable {rest : Text}

lemma move_within (host attrs : Text) :
    DINO_MOVE_PATH <:+: '<' :: coapScheme ++ (host ++ (DINO_MOVE_PATH ++ '>' :: attrs)) := by
  refine ⟨'<' :: coapScheme ++ host, '>' :: attrs, ?_⟩
  simp

/-- The script takes the resource for that of the button. -/
def IsButton (resource : Text) : Prop :=
  ¬ DINO_MOVE_PATH <:+: resource ∧ BUTTON_SET_TARGET_PATH <:+: resource

lemma target_within (h : Setting host rest) (attrs : Text) :
    BUTTON_SET_TARGET_PATH <:+: '<' :: coapScheme ++ (rest ++ '>' :: attrs) := by
  apply h.url.trans
  exact ⟨'<' :: coapScheme, '>' :: attrs, by simp⟩

/-- What one resource sets. -/
lemma setupStep_listed (h : Setting host rest) {resource : Text} (hr : Listed host rest resource)
    (v : SetupVars) : ∃ w, setupStep v resource = some w ∧
      (DINO_MOVE_PATH <:+: resource → w.dinoMoveTarget = some (host, DINO_MOVE_PATH)) ∧
      (¬ DINO_MOVE_PATH <:+: resource → w.dinoMoveTarget = v.dinoMoveTarget) ∧
      (IsButton resource → w.buttonTargetUrl = some (coapScheme ++ rest)) ∧
      (¬ IsButton resource → w.buttonTargetUrl = v.buttonTargetUrl) := by
  unfold setupStep
  cases hr with
  | @dino attrs hattrs =>
    have hmove := move_within host attrs
    rw [if_pos hmove, movePair_link h.host_ne h.host_slash hattrs]
    exact ⟨_, rfl, fun _ => rfl, fun hnot => absurd hmove hnot,
      fun hbutton => absurd hmove hbutton.1, fun _ => rfl⟩
  | @button attrs hattrs hnot =>
    have htarget := target_within h attrs
    rw [if_neg hnot, if_pos htarget, targetUrl_link h.url_ne h.url_line hattrs]
    exact ⟨_, rfl, fun hmove => absurd hmove hnot, fun _ => rfl, fun _ => rfl,
      fun hbutton => absurd ⟨hnot, htarget⟩ hbutton⟩
  | other hdino hbutton =>
    rw [if_neg hdino, if_neg hbutton]
    exact ⟨v, rfl, fun hmove => absurd hmove hdino, fun _ => rfl,
      fun htarget => absurd htarget.2 hbutton, fun _ => rfl⟩

/-- A variable that the resources with a property set, and no others, is set once it was set or
there is such a resource. -/
lemma setupLoop_sets {α : Type*} {field : SetupVars → Option α} {value : α} {p : Text → Prop}
    {resources : List Text} (hstep : ∀ r ∈ resources, ∀ v, ∃ w, setupStep v r = some w ∧
      (p r → field w = some value) ∧ (¬ p r → field w = field v)) (v : SetupVars)
    (hfound : field v = some value ∨ ∃ r ∈ resources, p r) :
    field (setupLoop v resources) = some value := by
  induction resources generalizing v with
  | nil =>
    obtain hfound | ⟨r, hr, -⟩ := hfound
    · exact hfound
    · exact absurd hr List.not_mem_nil
  | cons resource resources ih =>
    obtain ⟨hfirst, hrest⟩ := List.forall_mem_cons.mp hstep
    obtain ⟨w, hw, hset, hkept⟩ := hfirst v
    have hloop : setupLoop v (resource :: resources) = setupLoop w resources := by
      change (match setupStep v resource with
        | none => v
        | some w => setupLoop w resources) = _
      rw [hw]
    rw [hloop]
    apply ih hrest
    by_cases hp : p resource
    · exact .inl (hset hp)
    · rw [hkept hp]
      refine hfound.imp_right fun ⟨r, hmem, hr⟩ => ?_
      obtain rfl | hmem := List.mem_cons.mp hmem
      · exact absurd hr hp
      · exact ⟨r, hmem, hr⟩

/-- The document with the address of the dino. -/
def moveDocument (host : Text) : Text :=
  ['{', '"', 'a', 'd', 'd', 'r', '"', ':', ' ', '"'] ++ (host ++
    (['"', ',', ' ', '"', 'p', 'a', 't', 'h', '"', ':', ' ', '"'] ++
      (DINO_MOVE_PATH ++ ['"', '}'])))

lemma dumpTarget_move (hplain : ∀ c ∈ host, PyValue.escape c = [c]) :
    dumpTarget (host, DINO_MOVE_PATH) = some (moveDocument host) := by
  have hhost : host.flatMap PyValue.escape = host := by
    induction host with
    | nil => rfl
    | cons c host ih =>
      rw [List.flatMap_cons, hplain c List.mem_cons_self,
        ih fun d hd => hplain d (List.mem_cons_of_mem c hd)]
      rfl
  have hquote : PyValue.quote host = '"' :: host ++ ['"'] := by
    unfold PyValue.quote
    rw [hhost]
  have haddr : PyValue.quote ['a', 'd', 'd', 'r'] = ['"', 'a', 'd', 'd', 'r', '"'] := by decide
  have hpath : PyValue.quote ['p', 'a', 't', 'h'] = ['"', 'p', 'a', 't', 'h', '"'] := by decide
  have hmove : PyValue.quote DINO_MOVE_PATH = '"' :: DINO_MOVE_PATH ++ ['"'] := by decide
  unfold dumpTarget
  simp [PyValue.dumps, PyValue.dumpsEntries, hquote, haddr, hpath, hmove, moveDocument,
    List.intercalate, bind, Except.bind, pure, Except.pure, Except.map, Except.toOption]

/-- The script posts the resource of the dino to the button. -/
theorem setupButton_listed (h : Setting host rest) (hplain : ∀ c ∈ host, PyValue.escape c = [c])
    {stdout : Text} (hlisted : ∀ r ∈ lookedUp stdout, Listed host rest r)
    (hdino : ∃ r ∈ lookedUp stdout, DINO_MOVE_PATH <:+: r)
    (hbutton : ∃ r ∈ lookedUp stdout, IsButton r) :
    setupButton stdout = some (coapScheme ++ rest, moveDocument host) := by
  have htarget : (setupLoop ⟨none, none⟩ (lookedUp stdout)).dinoMoveTarget =
      some (host, DINO_MOVE_PATH) := by
    apply setupLoop_sets (p := fun r => DINO_MOVE_PATH <:+: r) _ _ (.inr hdino)
    intro r hr v
    obtain ⟨w, hw, hset, hkept, -⟩ := setupStep_listed h (hlisted r hr) v
    exact ⟨w, hw, hset, hkept⟩
  have hurl : (setupLoop ⟨none, none⟩ (lookedUp stdout)).buttonTargetUrl =
      some (coapScheme ++ rest) := by
    apply setupLoop_sets (p := IsButton) _ _ (.inr hbutton)
    intro r hr v
    obtain ⟨w, hw, -, -, hset, hkept⟩ := setupStep_listed h (hlisted r hr) v
    exact ⟨w, hw, hset, hkept⟩
  unfold setupButton
  dsimp only
  rw [htarget, hurl]
  dsimp only
  rw [dumpTarget_move hplain]
  rfl

/-- The tokens of the document, of a host with a length. -/
def moveToks (n : ℕ) : List JsmnTok :=
  ⟨.object, 0, UInt32.ofNat (34 + n)⟩ ::
    [⟨2, 6⟩, ⟨10, 10 + n⟩, ⟨14 + n, 18 + n⟩, ⟨22 + n, 32 + n⟩].map stringTok

/-- The packages on the document: the address is read up to its end, and has the port of the dino
unless that is the default port. -/
structure Speaks (P : Packages) (host : Text) (ep : SockUdpEp) : Prop where
  tokenises : P.jsmnParse (ascii (moveDocument host)) = some (moveToks host.length)
  parses : ∀ e memory, slice memory 0 (host.length + 1) = ascii host ++ [34] →
    (P.sockUdpStr2ep e memory).1 = true ∧ (P.sockUdpStr2ep e memory).2.addr = ep.addr ∧
      ((P.sockUdpStr2ep e memory).2.port = ep.port ∨
        (P.sockUdpStr2ep e memory).2.port = 0 ∧ ep.port = GCOAP_PORT)
  port : ep.port ≠ 0
  addr : ep.addr ≠ Vector.replicate 16 0
  short : host.length < 1000

lemma reads_of_append {memory : ℕ → UInt8} {n start stop : ℕ} {before string after : List UInt8}
    (h : slice memory 0 n = before ++ (string ++ after)) (hstart : before.length = start)
    (hstop : start + string.length = stop) : Reads memory ⟨start, stop⟩ string := by
  have hread := (slice_of_append (slice_of_append h).2).1
  rw [Nat.zero_add, hstart] at hread
  exact ⟨hstop.symm, hread⟩

variable {memory : ℕ → UInt8}

lemma length_ascii (text : Text) : (ascii text).length = text.length := List.length_map _

/-- Where the strings of the document stand. -/
lemma reads_move {n : ℕ} (h : slice memory 0 n = ascii (moveDocument host)) :
    Reads memory ⟨2, 6⟩ addrKey ∧
    Reads memory ⟨10, 10 + host.length⟩ (ascii host) ∧
    Reads memory ⟨14 + host.length, 18 + host.length⟩ pathKey ∧
    Reads memory ⟨22 + host.length, 32 + host.length⟩ (ascii DINO_MOVE_PATH) := by
  have hkey : ascii (moveDocument host) = ascii ['{', '"'] ++ (addrKey ++ ascii (
      ['"', ':', ' ', '"'] ++ (host ++ (['"', ',', ' ', '"', 'p', 'a', 't', 'h', '"', ':', ' ',
        '"'] ++ (DINO_MOVE_PATH ++ ['"', '}']))))) := by
    simp [moveDocument, ascii, addrKey]
  have hhost : ascii (moveDocument host) = ascii ['{', '"', 'a', 'd', 'd', 'r', '"', ':', ' ',
      '"'] ++ (ascii host ++ ascii (['"', ',', ' ', '"', 'p', 'a', 't', 'h', '"', ':', ' ', '"'] ++
        (DINO_MOVE_PATH ++ ['"', '}']))) := by
    simp [moveDocument, ascii]
  have hkey' : ascii (moveDocument host) = ascii (['{', '"', 'a', 'd', 'd', 'r', '"', ':', ' ',
      '"'] ++ (host ++ ['"', ',', ' ', '"'])) ++ (pathKey ++ ascii (['"', ':', ' ', '"'] ++
        (DINO_MOVE_PATH ++ ['"', '}']))) := by
    simp [moveDocument, ascii, pathKey]
  have hpath : ascii (moveDocument host) = ascii (['{', '"', 'a', 'd', 'd', 'r', '"', ':', ' ',
      '"'] ++ (host ++ ['"', ',', ' ', '"', 'p', 'a', 't', 'h', '"', ':', ' ', '"'])) ++
        (ascii DINO_MOVE_PATH ++ ascii ['"', '}']) := by
    simp [moveDocument, ascii]
  refine ⟨?_, ?_, ?_, ?_⟩
  · exact reads_of_append (h.trans hkey) rfl rfl
  · exact reads_of_append (h.trans hhost) rfl (by rw [length_ascii])
  · apply reads_of_append (h.trans hkey')
    · simp only [length_ascii, List.length_append, List.length_cons, List.length_nil]
      omega
    · change 14 + host.length + 4 = _
      omega
  · apply reads_of_append (h.trans hpath)
    · simp only [length_ascii, List.length_append, List.length_cons, List.length_nil]
      omega
    · change 22 + host.length + 10 = _
      omega

/-- The quotation mark behind the address. -/
lemma slice_host {n : ℕ} (h : slice memory 0 n = ascii (moveDocument host)) :
    slice memory 10 (host.length + 1) = ascii host ++ [34] := by
  have hhost : ascii (moveDocument host) = ascii ['{', '"', 'a', 'd', 'd', 'r', '"', ':', ' ',
      '"'] ++ ((ascii host ++ [34]) ++ ascii ([',', ' ', '"', 'p', 'a', 't', 'h', '"', ':', ' ',
        '"'] ++ (DINO_MOVE_PATH ++ ['"', '}']))) := by
    simp [moveDocument, ascii]
  have hreads := reads_of_append (h.trans hhost) rfl rfl
  have hlength : (ascii host ++ [34]).length = host.length + 1 := by
    rw [List.length_append, length_ascii]
    rfl
  rw [← hlength]
  exact hreads.2

variable {P : Packages} {ep : SockUdpEp}

/-- The button has the endpoint of the dino and the path, and ends the path. -/
structure AimsAt (ep : SockUdpEp) (s : Vars) : Prop where
  remote : s.targetRemote = ⟨.inet6, ep.addr, SOCK_ADDR_ANY_NETIF, ep.port⟩
  path : slice s.targetPath 0 (DINO_MOVE_PATH.length + 1) = ascii DINO_MOVE_PATH ++ [0]

lemma makeSockEp_host (h : Speaks P host ep)
    (hread : slice memory 0 (host.length + 1) = ascii host ++ [34]) (remote : SockUdpEp) :
    (makeSockEp P remote memory).2 = ⟨.inet6, ep.addr, SOCK_ADDR_ANY_NETIF, ep.port⟩ := by
  obtain ⟨hparsed, haddr, hport⟩ := h.parses { remote with port := 0 } memory hread
  have hmade : (if (P.sockUdpStr2ep { remote with port := 0 } memory).2.port = 0 then GCOAP_PORT
      else (P.sockUdpStr2ep { remote with port := 0 } memory).2.port) = ep.port := by
    obtain hport | ⟨hzero, hdefault⟩ := hport
    · rw [hport, if_neg h.port]
    · rw [if_pos hzero, hdefault]
  unfold makeSockEp
  dsimp only
  rw [if_pos hparsed, hmade, haddr]

/-- The request of the script is accepted by a button that no longer path was stored in. -/
theorem setTarget_move (h : Speaks P host ep) {pdu : TargetPdu} {s : Vars}
    (hposts : pdu.Posts (ascii (moveDocument host)))
    (hend : s.targetPath DINO_MOVE_PATH.length = 0) :
    (setTarget P pdu s).1 = some ⟨.valid, []⟩ ∧ AimsAt ep (setTarget P pdu s).2 ∧
      (setTarget P pdu s).2.lastSent = s.lastSent := by
  obtain ⟨hpost, htype, hlen, hpayload⟩ := hposts
  obtain ⟨haddrKey, hhost, hpathKey, hpath⟩ := reads_move hpayload
  have hshort := h.short
  have hsize : 32 + host.length < UInt32.size := by
    change 32 + host.length < 4294967296
    omega
  have hsize₁ : 10 + host.length < UInt32.size := by omega
  have hsize₂ : 18 + host.length < UInt32.size := by omega
  let toks := pdu.toks (moveToks host.length)
  have hw : Walked P pdu (moveToks host.length) := by
    refine ⟨htype, ?_, by simp [moveToks], rfl⟩
    rw [hlen, hpayload]
    exact h.tokenises
  have hfirst : jsoneq pdu.payload (toks 1) addrKey = true :=
    (jsoneq_stringTok (by decide) haddrKey addrKey).trans (decide_eq_true rfl)
  have hsecond : jsoneq pdu.payload (toks 3) pathKey = true :=
    (jsoneq_stringTok hsize₂ hpathKey pathKey).trans (decide_eq_true rfl)
  have hstart : (toks 2).start.toNat = 10 := stringTok_start hsize₁ hhost
  have htext : valueText pdu.payload (toks 4) = ascii DINO_MOVE_PATH := by
    unfold valueText
    change (slice pdu.payload (stringTok ⟨22 + host.length, 32 + host.length⟩).start.toNat
      (stringTok ⟨22 + host.length, 32 + host.length⟩).len).takeWhile (· ≠ 0) = _
    rw [stringTok_start hsize hpath, stringTok_len hsize hpath, hpath.2]
    decide
  have hlen₄ : (toks 4).len = DINO_MOVE_PATH.length :=
    (stringTok_len hsize hpath).trans (length_ascii DINO_MOVE_PATH)
  have hwalk : walk P pdu.payload toks 5 5 1 s = (.valid, { s with
      targetRemote := ⟨.inet6, ep.addr, SOCK_ADDR_ANY_NETIF, ep.port⟩
      targetPath := copiedPath s.targetPath pdu.payload (toks 4) }) := by
    have hread :
        slice (fun k => pdu.payload (10 + k)) 0 (host.length + 1) = ascii host ++ [34] := by
      rw [← slice_host hpayload]
      simp [slice]
    rw [walk_next s (by decide) ⟨.inl hfirst, rfl⟩, walk_next _ (by decide) ⟨.inr hsecond, rfl⟩,
      walk_end _ (by decide), walkStep_addr s hfirst rfl, walkStep_path _ hsecond rfl, hstart,
      makeSockEp_host h hread]
  rw [setTarget_walked hpost hw s]
  change some (TargetResponse.mk (walk P pdu.payload toks 5 5 1 s).1 []) = _ ∧
    AimsAt ep (walk P pdu.payload toks 5 5 1 s).2 ∧
    (walk P pdu.payload toks 5 5 1 s).2.lastSent = s.lastSent
  rw [hwalk]
  refine ⟨rfl, ⟨rfl, ?_⟩, rfl⟩
  have hcopied := slice_copiedPath s.targetPath pdu.payload (toks 4)
    (.inr (.inr (by rw [hlen₄, hend])))
  rw [htext, length_ascii] at hcopied
  exact hcopied

/-- The POST for the resource of the dino. -/
def moveRequest (ep : SockUdpEp) : Request :=
  ⟨⟨.inet6, ep.addr, SOCK_ADDR_ANY_NETIF, ep.port⟩, ascii DINO_MOVE_PATH, []⟩

/-- The requests of calls of `_post_to_target`, each with the readings of the clock. -/
def postAll : Vars → List (UInt32 × UInt32) → List Request × Vars
  | s, [] => ([], s)
  | s, (now, later) :: calls =>
    let res := s.postToTarget now later
    let rest := postAll res.2 calls
    (res.1.toList ++ rest.1, rest.2)

variable {s : Vars}

lemma AimsAt.targetPath_zero (h : AimsAt ep s) : s.targetPath 0 = 47 :=
  Option.some.inj (congrArg List.head? h.path)

lemma AimsAt.path_read (h : AimsAt ep s) :
    (slice s.targetPath 0 BUTTON_TARGET_PATH_LEN).takeWhile (· ≠ 0) = ascii DINO_MOVE_PATH := by
  have hslice : slice s.targetPath 0 BUTTON_TARGET_PATH_LEN =
      ascii DINO_MOVE_PATH ++ (0 :: slice s.targetPath (0 + (DINO_MOVE_PATH.length + 1)) 5) := by
    change slice s.targetPath 0 (DINO_MOVE_PATH.length + 1 + 5) = _
    rw [slice_add, h.path, List.append_assoc]
    rfl
  have hpos : ∀ b ∈ ascii DINO_MOVE_PATH, decide (b ≠ 0) = true :=
    List.all_iff_forall_prop.mp (by decide)
  rw [hslice, List.takeWhile_append_of_pos hpos]
  simp

lemma AimsAt.postToTarget (h : AimsAt ep s) (haddr : ep.addr ≠ Vector.replicate 16 0)
    (now later : UInt32) : s.postToTarget now later =
      if s.tooSoon now then (none, s)
      else (some (moveRequest ep), { s with lastSent := later }) := by
  have htarget : s.noTarget = false := by
    unfold Vars.noTarget
    rw [h.remote, h.targetPath_zero]
    exact decide_eq_false (not_or.mpr ⟨haddr, by decide⟩)
  unfold Vars.postToTarget moveRequest
  rw [htarget, h.path_read, h.remote]
  rfl

/-- Sending leaves the target as it is, so every request is the one for the dino. -/
theorem postAll_aims (haddr : ep.addr ≠ Vector.replicate 16 0) (calls : List (UInt32 × UInt32))
    (h : AimsAt ep s) :
    AimsAt ep (postAll s calls).2 ∧ ∀ r ∈ (postAll s calls).1, r = moveRequest ep := by
  induction calls generalizing s with
  | nil => exact ⟨h, fun r hr => absurd hr List.not_mem_nil⟩
  | cons call calls ih =>
    obtain ⟨now, later⟩ := call
    unfold postAll
    dsimp only
    rw [h.postToTarget haddr]
    split
    · exact ih h
    · obtain ⟨hafter, hrest⟩ := ih (s := { s with lastSent := later }) ⟨h.remote, h.path⟩
      refine ⟨hafter, fun r hr => ?_⟩
      obtain rfl | hr := List.mem_cons.mp hr
      · rfl
      · exact hrest r hr

lemma receive_moveRequest (ep : SockUdpEp) (dino : Dino) :
    receive ep dino (moveRequest ep) = toggleDino dino :=
  (if_pos ⟨rfl, rfl⟩).trans (if_pos rfl)

lemma foldl_receive {requests : List Request} (h : ∀ r ∈ requests, r = moveRequest ep)
    (dino : Dino) : requests.foldl (receive ep) dino = toggleDino^[requests.length] dino := by
  induction requests generalizing dino with
  | nil => rfl
  | cons r requests ih =>
    obtain ⟨rfl, hrest⟩ := List.forall_mem_cons.mp h
    rw [List.foldl_cons, receive_moveRequest, ih hrest, List.length_cons,
      Function.iterate_succ_apply]

/-- The resource directory lists both nodes, and the button has no longer path yet. Then the script
posts the resource of the dino to the button, which accepts it. From then on each press that is not
too soon is a request for the dino, and the dino toggles for each request it receives. -/
theorem button_moves_dino (h : Setting host rest) (hplain : ∀ c ∈ host, PyValue.escape c = [c])
    {stdout : Text} (hlisted : ∀ r ∈ lookedUp stdout, Listed host rest r)
    (hdino : ∃ r ∈ lookedUp stdout, DINO_MOVE_PATH <:+: r)
    (hbutton : ∃ r ∈ lookedUp stdout, IsButton r)
    (hspeaks : Speaks P host ep) (hend : s.targetPath DINO_MOVE_PATH.length = 0) :
    ∃ doc, setupButton stdout = some (coapScheme ++ rest, doc) ∧
      ∀ pdu : TargetPdu, pdu.Posts (ascii doc) →
        (setTarget P pdu s).1 = some ⟨.valid, []⟩ ∧ ∀ calls dino,
          let after := postAll (setTarget P pdu s).2 calls
          after.1.foldl (receive ep) dino = toggleDino^[after.1.length] dino ∧
            ∀ now later, (after.2.postToTarget now later).1 =
              if after.2.tooSoon now then none else some (moveRequest ep) := by
  refine ⟨_, setupButton_listed h hplain hlisted hdino hbutton, fun pdu hposts => ?_⟩
  obtain ⟨hvalid, haims, -⟩ := setTarget_move hspeaks hposts hend
  refine ⟨hvalid, fun calls dino => ?_⟩
  obtain ⟨hafter, hall⟩ := postAll_aims hspeaks.addr calls haims
  refine ⟨foldl_receive hall dino, fun now later => ?_⟩
  rw [hafter.postToTarget hspeaks.addr]
  split <;> rfl

def dinoHost : Text := ['[', 'f', 'd', '0', '0', ':', ':', '1', ']']

def dinoEp : SockUdpEp :=
  ⟨.inet6, Vector.ofFn fun i => if i.val = 0 then 0xfd else if i.val = 15 then 1 else 0,
    SOCK_ADDR_ANY_NETIF, GCOAP_PORT⟩

/-- The URL of the button behind its scheme. -/
def buttonUrl : Text := ['[', 'f', 'd', '0', '0', ':', ':', '2', ']'] ++ BUTTON_SET_TARGET_PATH

/-- The links that the directory returns. -/
def dinoLink : Text := '<' :: coapScheme ++ (dinoHost ++ (DINO_MOVE_PATH ++ ['>']))

def buttonLink : Text := '<' :: coapScheme ++ (buttonUrl ++ ['>', ';', 'c', 't', '=', '0'])

def listing : Text := buttonLink ++ ',' :: dinoLink ++ ['\n']

/-- The packages on the document with the address of the dino. -/
def dinoPackages : Packages where
  jsmnParse text :=
    if text = ascii (moveDocument dinoHost) then some (moveToks dinoHost.length) else none
  sockUdpStr2ep e memory :=
    if slice memory 0 (dinoHost.length + 1) = ascii dinoHost ++ [34] then
      (true, { e with addr := dinoEp.addr, port := 0 })
    else (false, e)

lemma speaks_dino : Speaks dinoPackages dinoHost dinoEp where
  tokenises := by
    unfold dinoPackages
    dsimp only
    rw [if_pos rfl]
  parses e memory h := by
    have hparsed : dinoPackages.sockUdpStr2ep e memory =
        (true, { e with addr := dinoEp.addr, port := 0 }) := by
      unfold dinoPackages
      exact if_pos h
    rw [hparsed]
    exact ⟨rfl, rfl, .inr ⟨rfl, rfl⟩⟩
  port := by decide
  addr := by decide
  short := by decide

lemma setting_dino : Setting dinoHost buttonUrl where
  host_ne := by decide
  host_slash := by decide
  url_ne := by decide
  url_line := by decide
  url := by decide

lemma lookedUp_listing : lookedUp listing = [buttonLink, dinoLink] := by decide +kernel

lemma listed_listing : ∀ r ∈ lookedUp listing, Listed dinoHost buttonUrl r := by
  rw [lookedUp_listing, List.forall_mem_cons, List.forall_mem_singleton]
  exact ⟨.button (by decide) (by decide), .dino (by decide)⟩

/-- The script runs, and the button is pressed after the start. -/
theorem button_moves_dino_listing :
    setupButton listing = some (coapScheme ++ buttonUrl, moveDocument dinoHost) ∧
      ((setTarget dinoPackages (postDocument (ascii (moveDocument dinoHost))) .init).2.postToTarget
        0 0).1 = some (moveRequest dinoEp) := by
  have hdino : ∃ r ∈ lookedUp listing, DINO_MOVE_PATH <:+: r := by
    rw [lookedUp_listing]
    exact ⟨dinoLink, by simp, by decide⟩
  have hbutton : ∃ r ∈ lookedUp listing, IsButton r := by
    rw [lookedUp_listing]
    exact ⟨buttonLink, by simp, by decide, by decide⟩
  obtain ⟨doc, hdoc, hposted⟩ := button_moves_dino (s := .init) setting_dino
    (List.all_iff_forall_prop.mp (by decide)) listed_listing hdino hbutton speaks_dino rfl
  obtain rfl : doc = moveDocument dinoHost := by
    have hsame : setupButton listing = some (coapScheme ++ buttonUrl, moveDocument dinoHost) := by
      decide +kernel
    exact (Prod.mk.inj (Option.some.inj (hdoc.symm.trans hsame))).2
  obtain ⟨-, hsent⟩ := hposted _ (posts_postDocument _)
  have hfirst := (hsent [] ⟨false, false⟩).2 0 0
  refine ⟨hdoc, hfirst.trans (if_neg ?_)⟩
  exact Bool.not_eq_true _ ▸ (by decide +kernel)

end Button

end RiotPlayground
