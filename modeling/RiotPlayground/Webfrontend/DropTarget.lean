import Mathlib.Data.Bool.AllAny
import RiotPlayground.CoapService.RequestHandler
import RiotPlayground.Luke.TargetRoundTrip
import RiotPlayground.Webfrontend.ParseLink

/-!
# Dropping a widget: `load_widget`, `post` and `get_handlers["target"]` of `luke.js`

The widget of a node that is dropped on another makes it the target of the other node. When the
targets are loaded, what the nodes tell is dropped again.
-/

namespace RiotPlayground

open Buffer FlatJson Luke CoapService

namespace Webfrontend

/-- `{addr: .., path: ..}` -/
structure TargetData where
  addr : Text
  path : Text
  deriving DecidableEq

def coapScheme : Text := ['c', 'o', 'a', 'p', ':', '/', '/']

def coapsScheme : Text := ['c', 'o', 'a', 'p', 's', ':', '/', '/']

/-- The rest of a text behind a prefix. -/
def behind (start text : Text) : Option Text :=
  if start <+: text then some (text.drop start.length) else none

/-- `coaps?:\/\/([^\/]+(:\d+)?)(\/.*)` at the start of the text: the first group takes all up to the
slash. -/
def addrPathHere (text : Text) : Option TargetData :=
  ((behind coapScheme text).or (behind coapsScheme text)).bind fun rest =>
    let addr := rest.takeWhile (· ≠ '/')
    match rest.dropWhile (· ≠ '/') with
    | [] => none
    | slash :: path =>
      if addr = [] then none else some ⟨addr, slash :: path.takeWhile fun c => !isLineEnd c⟩

/-- `addr_path_pair`; `none` where it throws. -/
def addrPathPair (url : Text) : Option TargetData := url.tails.findSome? addrPathHere

/-- How `JSON.stringify` writes a character of a string. -/
def jsonChar (c : Char) : Text :=
  if c = '"' then ['\\', '"']
  else if c = '\\' then ['\\', '\\']
  else if c.toNat = 0x08 then ['\\', 'b']
  else if c.toNat = 0x09 then ['\\', 't']
  else if c.toNat = 0x0a then ['\\', 'n']
  else if c.toNat = 0x0c then ['\\', 'f']
  else if c.toNat = 0x0d then ['\\', 'r']
  else if c.toNat < 0x20 then
    ['\\', 'u', '0', '0', Nat.digitChar (c.toNat / 16), Nat.digitChar (c.toNat % 16)]
  else [c]

def jsonString (text : Text) : Text := '"' :: text.flatMap jsonChar ++ ['"']

def TargetData.stringify (data : TargetData) : Text :=
  '{' :: jsonString ['a', 'd', 'd', 'r'] ++ ':' :: jsonString data.addr ++
    ',' :: jsonString ['p', 'a', 't', 'h'] ++ ':' :: jsonString data.path ++ ['}']

def utf8 (text : Text) : List UInt8 := text.flatMap String.utf8EncodeChar

/-- `(.*):(\d+)` in a line: the last colon before a digit. -/
def portInLine : Text → Option (Text × Text)
  | [] => none
  | c :: rest =>
    match portInLine rest with
    | some (host, port) => some (c :: host, port)
    | none =>
      let port := rest.takeWhile Char.isDigit
      if c = ':' ∧ port ≠ [] then some ([], port) else none

/-- The lines, as `.` sees them. -/
def lines (text : Text) : List Text := text.splitOnP isLineEnd

/-- `data.addr.match(/(.*):(\d+)/)` -/
def portSuffix (addr : Text) : Option (Text × Text) := (lines addr).findSome? portInLine

/-- `(coap:\/\/[^\/]*)\/` at the start of a text -/
def originHere (text : Text) : Option Text :=
  (behind coapScheme text).bind fun rest =>
    if rest.dropWhile (· ≠ '/') = [] then none
    else some (coapScheme ++ rest.takeWhile (· ≠ '/'))

/-- `this.url.match(/.*(coap:\/\/[^\/]*)\/.*/)[1]`: the last one. An URL has no line ends. -/
def lastOrigin : Text → Option Text
  | [] => none
  | c :: rest => (lastOrigin rest).or (originHere (c :: rest))

/-- `http_url_from_coap_url` -/
def httpUrlFromCoapUrl (coapService url : Text) : Text :=
  ['h', 't', 't', 'p', ':', '/', '/'] ++ coapService ++
    ['/', 'c', 'o', 'a', 'p', '?', 't', 'a', 'r', 'g', 'e', 't', '='] ++ url

def jsonType : Text :=
  ['a', 'p', 'p', 'l', 'i', 'c', 'a', 't', 'i', 'o', 'n', '/', 'j', 's', 'o', 'n']

/-- `post` of the resource with the URL. -/
def post (url : Text) (data : TargetData) : HttpRequest :=
  ⟨.post, url, some jsonType, utf8 data.stringify⟩

/-- `get` of the resource with the URL. -/
def get (url : Text) : HttpRequest := ⟨.get, url, none, []⟩

/-- What is posted when the widget of a node is dropped; `none` where `drop` throws. -/
def Frontend.dropped (s : Frontend) (name : NodeName) : Option TargetData :=
  (s.getNodeByName name).bind fun anchor =>
    (s.nodes.get anchor).bind fun node =>
      (node.resources.get .points).bind fun points => addrPathPair points.url

/-- What `get_handlers["target"]` does: it drops the widget of the node with an anchor on that of
the node with a name. -/
inductive Shows
  | throws
  | nothing
  | dropTo (anchor : Text) (name : NodeName)
  deriving DecidableEq

/-- `target_node.drop_to(node.name)`, if a resource of the node has the path. `widgets` tells under
which anchors the `widget` is there: it has been loaded, and not removed. -/
def Frontend.dropTo (s : Frontend) (widgets : Text → Bool) (anchor : Text) (data : TargetData)
    (origin : Text) : Shows :=
  match s.nodes.get anchor with
  | none => .nothing
  | some target =>
    if target.resources.entries.any fun r => data.path <:+ r.2.url then
      match s.nodes.get origin with
      | none => .throws
      | some node => if widgets anchor then .dropTo anchor node.name else .nothing
    else .nothing

/-- `get_handlers["target"]` -/
def Frontend.showTarget (s : Frontend) (widgets : Text → Bool) (url : Text) (data : TargetData) :
    Shows :=
  match lastOrigin url with
  | none => .throws
  | some origin =>
    if (s.nodes.get (coapScheme ++ data.addr)).isSome then
      s.dropTo widgets (coapScheme ++ data.addr) data origin
    else
      match portSuffix data.addr with
      | none => .throws
      | some (host, port) =>
        -- The default port may be left out of the anchor.
        if port = ['5', '6', '8', '3'] then
          s.dropTo widgets (coapScheme ++ host) data origin
        else .nothing

lemma behind_append (start rest : Text) : behind start (start ++ rest) = some rest := by
  unfold behind
  rw [if_pos (List.prefix_append start rest), List.drop_left]

lemma behind_of_head {start text : Text} {c d : Char} (h : c ≠ d) :
    behind (c :: start) (d :: text) = none := by
  unfold behind
  rw [if_neg]
  intro hbegins
  exact h (List.cons_prefix_cons.mp hbegins).1

variable {host path : Text}

lemma not_slash (hhost : '/' ∉ host) : ∀ c ∈ host, decide (c ≠ '/') = true := by
  intro c hc
  exact decide_eq_true fun heq => hhost (heq ▸ hc)

lemma takeWhile_slash (hhost : '/' ∉ host) (rest : Text) :
    (host ++ '/' :: rest).takeWhile (· ≠ '/') = host := by
  rw [List.takeWhile_append_of_pos (not_slash hhost)]
  simp

lemma dropWhile_slash (hhost : '/' ∉ host) (rest : Text) :
    (host ++ '/' :: rest).dropWhile (· ≠ '/') = '/' :: rest := by
  rw [List.dropWhile_append_of_pos (not_slash hhost)]
  simp

lemma originHere_url (hhost : '/' ∉ host) :
    originHere (coapScheme ++ (host ++ '/' :: path)) = some (coapScheme ++ host) := by
  unfold originHere
  rw [behind_append, Option.bind_some, dropWhile_slash hhost, takeWhile_slash hhost]
  exact if_neg (List.cons_ne_nil _ _)

lemma lastOrigin_eq_none {text : Text} (h : ¬ coapScheme <:+: text) : lastOrigin text = none := by
  induction text with
  | nil => rfl
  | cons c rest ih =>
    have hrest : ¬ coapScheme <:+: rest := fun hwithin =>
      h (hwithin.trans (List.suffix_cons c rest).isInfix)
    have hhere : originHere (c :: rest) = none := by
      unfold originHere behind
      rw [if_neg fun hbegins => h hbegins.isInfix]
      rfl
    change (lastOrigin rest).or (originHere (c :: rest)) = none
    rw [ih hrest, hhere]
    rfl

lemma lastOrigin_append {url origin : Text} (h : lastOrigin url = some origin) (start : Text) :
    lastOrigin (start ++ url) = some origin := by
  induction start with
  | nil => exact h
  | cons c start ih =>
    change (lastOrigin (start ++ url)).or _ = _
    rw [ih]
    rfl

lemma lastOrigin_url (coapService : Text) (hhost : '/' ∉ host)
    (hclean : ¬ coapScheme <:+: host ++ '/' :: path) :
    lastOrigin (httpUrlFromCoapUrl coapService (coapScheme ++ (host ++ '/' :: path))) =
      some (coapScheme ++ host) := by
  apply lastOrigin_append
  have hskip : ∀ c rest, c ≠ 'c' → lastOrigin rest = none → lastOrigin (c :: rest) = none := by
    intro c rest hc hrest
    change (lastOrigin rest).or (originHere (c :: rest)) = none
    rw [hrest]
    unfold originHere
    rw [coapScheme, behind_of_head hc.symm]
    rfl
  have htail : lastOrigin (['o', 'a', 'p', ':', '/', '/'] ++ (host ++ '/' :: path)) = none := by
    have hnone := lastOrigin_eq_none hclean
    iterate 6 apply hskip _ _ (by decide)
    exact hnone
  change (lastOrigin (['o', 'a', 'p', ':', '/', '/'] ++ (host ++ '/' :: path))).or
    (originHere (coapScheme ++ (host ++ '/' :: path))) = _
  rw [htail, originHere_url hhost]
  rfl

lemma portInLine_digits {port : Text} (hport : ∀ c ∈ port, c.isDigit = true) :
    portInLine port = none := by
  induction port with
  | nil => rfl
  | cons c port ih =>
    have hcolon : c ≠ ':' := by
      rintro rfl
      exact absurd (hport ':' List.mem_cons_self) (by decide)
    unfold portInLine
    rw [ih fun d hd => hport d (List.mem_cons_of_mem c hd)]
    exact if_neg fun h => hcolon h.1

lemma portInLine_append {port : Text} (hne : port ≠ []) (hport : ∀ c ∈ port, c.isDigit = true) :
    portInLine (host ++ ':' :: port) = some (host, port) := by
  induction host with
  | nil =>
    have hall : port.takeWhile Char.isDigit = port := List.takeWhile_eq_self_iff.mpr hport
    change (match portInLine port with
      | some (host, port) => some (':' :: host, port)
      | none => _) = _
    rw [portInLine_digits hport]
    dsimp only
    rw [hall]
    exact if_pos ⟨rfl, hne⟩
  | cons c host ih =>
    change (match portInLine (host ++ ':' :: port) with
      | some (host, port) => some (c :: host, port)
      | none => _) = _
    rw [ih]

/-- The characters that JSON and UTF-8 leave as they are. -/
def Plain (c : Char) : Prop := 0x20 ≤ c.toNat ∧ c.toNat < 0x80 ∧ c ≠ '"' ∧ c ≠ '\\'

instance (c : Char) : Decidable (Plain c) := inferInstanceAs (Decidable (_ ∧ _ ∧ _ ∧ _))

lemma plain_nil : ∀ c ∈ ([] : Text), Plain c := fun _ hc => absurd hc List.not_mem_nil

lemma jsonChar_plain {c : Char} (h : Plain c) : jsonChar c = [c] := by
  obtain ⟨hlow, -, hquote, hslash⟩ := h
  unfold jsonChar
  rw [if_neg hquote, if_neg hslash, if_neg (by omega), if_neg (by omega), if_neg (by omega),
    if_neg (by omega), if_neg (by omega), if_neg (by omega)]

lemma jsonString_plain {text : Text} (h : ∀ c ∈ text, Plain c) :
    jsonString text = '"' :: text ++ ['"'] := by
  have hflat : text.flatMap jsonChar = text := by
    induction text with
    | nil => rfl
    | cons c text ih =>
      rw [List.flatMap_cons, jsonChar_plain (h c List.mem_cons_self),
        ih fun d hd => h d (List.mem_cons_of_mem c hd)]
      rfl
  unfold jsonString
  rw [hflat]

lemma utf8_append (text rest : Text) : utf8 (text ++ rest) = utf8 text ++ utf8 rest :=
  List.flatMap_append

lemma utf8_ascii {text : Text} (h : ∀ c ∈ text, c.toNat < 0x80) : utf8 text = ascii text := by
  induction text with
  | nil => rfl
  | cons c text ih =>
    have hsize : c.utf8Size = 1 := by
      have hlow := h c List.mem_cons_self
      exact Char.utf8Size_eq_one_iff.mpr (UInt32.le_iff_toNat_le.mpr (Nat.le_of_lt_succ hlow))
    change String.utf8EncodeChar c ++ utf8 text = _ :: ascii text
    rw [String.utf8EncodeChar_eq_singleton hsize, ih fun d hd => h d (List.mem_cons_of_mem c hd)]
    rfl

/-- The body of the request is the document that the nodes use. -/
lemma utf8_stringify {data : TargetData} (haddr : ∀ c ∈ data.addr, Plain c)
    (hpath : ∀ c ∈ data.path, Plain c) :
    utf8 data.stringify = objectText (targetMembers (ascii data.addr) (ascii data.path)) := by
  have hshape : data.stringify = ['{', '"', 'a', 'd', 'd', 'r', '"', ':', '"'] ++ (data.addr ++
      (['"', ',', '"', 'p', 'a', 't', 'h', '"', ':', '"'] ++ (data.path ++ ['"', '}']))) := by
    unfold TargetData.stringify
    rw [jsonString_plain haddr, jsonString_plain hpath,
      jsonString_plain (List.all_iff_forall_prop.mp (by decide)),
      jsonString_plain (List.all_iff_forall_prop.mp (by decide))]
    simp
  rw [hshape, utf8_append, utf8_append, utf8_append, utf8_append,
    utf8_ascii (List.all_iff_forall_prop.mp (by decide)),
    utf8_ascii fun c hc => (haddr c hc).2.1,
    utf8_ascii (List.all_iff_forall_prop.mp (by decide)),
    utf8_ascii fun c hc => (hpath c hc).2.1,
    utf8_ascii (List.all_iff_forall_prop.mp (by decide))]
  simp [ascii, targetMembers, objectText, membersText, memberText]

/-- `[addr]:port` -/
def hostPortText (addr : Text) (port : UInt16) : Text :=
  '[' :: addr ++ ']' :: ':' :: Nat.toDigits 10 port.toNat

lemma ascii_hostPortText (addr : Text) (port : UInt16) :
    ascii (hostPortText addr port) = hostPort (ascii addr) port := by
  simp [ascii, hostPortText, hostPort]

/-- The packages on the host of a node: its text has the address, and the port unless it is the
default port; printed, the address has the same text. -/
structure Names (P : Luke.Packages) (host addr : Text) (ep : SockUdpEp) : Prop where
  spelled : host = hostPortText addr ep.port ∨ host = '[' :: addr ++ [']'] ∧ ep.port = GCOAP_PORT
  plain : ∀ c ∈ addr, Plain c ∧ c ≠ '/'
  nonempty : addr ≠ []
  short : addr.length < 48
  port : ep.port ≠ 0
  family : ep.family = .inet6
  netif : ep.netif = SOCK_ADDR_ANY_NETIF
  parses : ∀ e, (P.sockUdpStr2ep e (ascii host)).1 = true ∧
    (P.sockUdpStr2ep e (ascii host)).2.addr = ep.addr ∧
    (P.sockUdpStr2ep e (ascii host)).2.port =
      if host = hostPortText addr ep.port then ep.port else 0
  prints : P.sockUdpEpFmt ep = (ascii addr, ep.port)

variable {P : Luke.Packages} {addr : Text} {ep : SockUdpEp}

lemma Names.makeSockEp (h : Names P host addr ep) (e : SockUdpEp) :
    Luke.makeSockEp P e (ascii host) = (true, ep) := by
  obtain ⟨hparsed, haddr, hport⟩ := h.parses { e with port := 0 }
  have hmade : (if (P.sockUdpStr2ep { e with port := 0 } (ascii host)).2.port = 0 then GCOAP_PORT
      else (P.sockUdpStr2ep { e with port := 0 } (ascii host)).2.port) = ep.port := by
    rw [hport]
    split
    case isTrue => exact if_neg h.port
    case isFalse hother => exact (if_pos rfl).trans (h.spelled.resolve_left hother).2.symm
  unfold Luke.makeSockEp
  dsimp only
  rw [if_pos hparsed, hmade, haddr, ← h.family, ← h.netif]

lemma Plain.not_lineEnd {c : Char} (h : Plain c) : isLineEnd c = false := by
  obtain ⟨hlow, hhigh, -, -⟩ := h
  have hlf : c.toNat ≠ 0x0a := by omega
  have hcr : c.toNat ≠ 0x0d := by omega
  have hls : c.toNat ≠ 0x2028 := by omega
  have hps : c.toNat ≠ 0x2029 := by omega
  simp [isLineEnd, hlf, hcr, hls, hps]

lemma plain_of_isDigit {c : Char} (h : c.isDigit = true) : Plain c ∧ c ≠ '/' := by
  have hrange : 48 ≤ c.toNat ∧ c.toNat ≤ 57 := by
    simpa [Char.isDigit, UInt32.le_iff_toNat_le] using h
  refine ⟨⟨by omega, by omega, ?_, ?_⟩, ?_⟩
  · rintro rfl
    exact absurd hrange (by decide)
  · rintro rfl
    exact absurd hrange (by decide)
  · rintro rfl
    exact absurd hrange (by decide)

lemma isDigit_of_mem_port {port : UInt16} : ∀ c ∈ Nat.toDigits 10 port.toNat, c.isDigit = true :=
  fun _ hc => Nat.isDigit_of_mem_toDigits (by omega) (by omega) hc

lemma plain_hostPortText (hplain : ∀ c ∈ addr, Plain c ∧ c ≠ '/') (port : UInt16) :
    ∀ c ∈ hostPortText addr port, Plain c ∧ c ≠ '/' := by
  intro c hc
  simp only [hostPortText, List.cons_append, List.mem_cons, List.mem_append] at hc
  obtain rfl | hc | rfl | rfl | hc := hc
  · decide
  · exact hplain c hc
  · decide
  · decide
  · exact plain_of_isDigit (isDigit_of_mem_port c hc)

lemma portSuffix_hostPortText (hplain : ∀ c ∈ addr, Plain c ∧ c ≠ '/') (port : UInt16) :
    portSuffix (hostPortText addr port) =
      some ('[' :: addr ++ [']'], Nat.toDigits 10 port.toNat) := by
  have hline : lines (hostPortText addr port) = [hostPortText addr port] :=
    List.splitOnP_eq_singleton fun c hc => (plain_hostPortText hplain port c hc).1.not_lineEnd
  have hshape : hostPortText addr port =
      ('[' :: addr ++ [']']) ++ ':' :: Nat.toDigits 10 port.toNat := by
    simp [hostPortText]
  have hport : portInLine (('[' :: addr ++ [']']) ++ ':' :: Nat.toDigits 10 port.toNat) =
      some ('[' :: addr ++ [']'], Nat.toDigits 10 port.toNat) :=
    portInLine_append Nat.toDigits_ne_nil isDigit_of_mem_port
  unfold portSuffix
  rw [hline, List.findSome?_cons, hshape, hport]

/-- The number of a response code. -/
def codeNumber : Luke.Code → ℕ
  | .valid => 0x43
  | .content => 0x45
  | .badRequest => 0x80

lemma isSuccessful_valid (doc : List UInt8) :
    CoapResponse.isSuccessful ⟨codeNumber .valid, doc⟩ = true := by
  simp [CoapResponse.isSuccessful, codeNumber]

lemma isSuccessful_content (doc : List UInt8) :
    CoapResponse.isSuccessful ⟨codeNumber .content, doc⟩ = true := by
  simp [CoapResponse.isSuccessful, codeNumber]

/-- What the node receives of a request: all that is set in it. -/
structure Reaches (m : CoapRequest) (pdu : TargetPdu) : Prop where
  method : pdu.method = match m.code with
    | .get => .get
    | .post => .post
  contentType : ∀ format, m.contentFormat = some format → pdu.contentType.toNat = format
  length : pdu.payloadLen = m.payload.length
  payload : slice pdu.payload 0 m.payload.length = m.payload

/-- A request that the service sends on to the URL of the target of a node, in a state: the response
and the state of the node after it. -/
def Exchanged (L : HandlerLibs) (P : Luke.Packages) (url : Text) (r : HttpRequest) (t : Common)
    (resp : HttpResponse) (after : Common) : Prop :=
  ∃ m pdu res, L.request r = some m ∧ m.uri = url ∧ Reaches m pdu ∧
    lukeSetTarget P pdu t = (some res, after) ∧
    resp = answer r.method ⟨codeNumber res.code, res.payload⟩

lemma posts_of_reaches {target : Text} {doc : List UInt8} {pdu : TargetPdu}
    (h : Reaches ⟨.post, target, some 50, doc⟩ pdu) : pdu.Posts doc :=
  ⟨h.method, UInt16.toNat_inj.mp (h.contentType 50 rfl), h.length, h.payload⟩

lemma sameTarget_document {t₁ t₂ : Common} (h : SameTarget t₁ t₂) :
    targetDocument P t₂ = targetDocument P t₁ := by
  unfold targetDocument Common.pathString
  rw [h.1, h.2]

variable {L : HandlerLibs}

lemma exchanged_post {url : Text} {data : TargetData} {t after : Common} {posted : HttpResponse}
    (htype : L.mediaTypesRev jsonType = some 50)
    (h : Exchanged L P url (post url data) t posted after) :
    ∃ pdu : TargetPdu, pdu.Posts (utf8 data.stringify) ∧ after = (lukeSetTarget P pdu t).2 ∧
      ((lukeSetTarget P pdu t).1 = some ⟨.valid, []⟩ → posted.status = 200) := by
  obtain ⟨m, pdu, res, hm, -, hreaches, hset, rfl⟩ := h
  rw [request_post htype hm] at hreaches
  refine ⟨pdu, posts_of_reaches hreaches, by rw [hset], fun hvalid => ?_⟩
  rw [hset] at hvalid
  rw [Option.some.inj hvalid]
  exact congrArg HttpResponse.status
    (answer_successful (fun heq => nomatch (heq : HttpMethod.post = .head)) (isSuccessful_valid _))

lemma exchanged_get {url : Text} {t after : Common} {told : HttpResponse}
    (h : Exchanged L P url (get url) t told after) : told = ⟨200, targetDocument P t⟩ := by
  obtain ⟨m, pdu, res, hm, -, hreaches, hset, rfl⟩ := h
  rw [request_get hm] at hreaches
  have hres : res = ⟨.content, targetDocument P t⟩ := by
    unfold lukeSetTarget at hset
    rw [hreaches.method] at hset
    exact (Option.some.inj (congrArg Prod.fst hset)).symm
  rw [hres]
  exact answer_successful (fun heq => nomatch (heq : HttpMethod.get = .head))
    (isSuccessful_content _)

def displayAddr : Text := ['f', 'd', '0', '0', ':', ':', '1']

def displayHost : Text := '[' :: displayAddr ++ [']']

def displayPath : Text := ['d', 's', 'p', '/', 'p', 'o', 'i', 'n', 't', 's']

def controllerHost : Text := ['[', 'f', 'd', '0', '0', ':', ':', '2', ']']

def controllerPath : Text := ['b', 't', 'n', '/', 't', 'a', 'r', 'g', 'e', 't']

def displayEp : SockUdpEp :=
  ⟨.inet6, #v[0xfd, 0, 0, 0, 0, 0, 0, 0, 0, 0, 0, 0, 0, 0, 0, 1], SOCK_ADDR_ANY_NETIF, GCOAP_PORT⟩

/-- The packages on the address of the display. -/
def displayPackages : Luke.Packages where
  jsmnParse text :=
    let ms := targetMembers (ascii displayHost) (ascii ('/' :: displayPath))
    if text = objectText ms then some (objectToks ms) else none
  sockUdpStr2ep ep text :=
    if text = ascii displayHost then (true, { ep with addr := displayEp.addr, port := 0 })
    else (false, ep)
  sockUdpEpFmt ep := (ascii displayAddr, ep.port)

def serviceLibs : HandlerLibs where
  getQueryArgument query := query
  coapSchemes := [['c', 'o', 'a', 'p']]
  scheme target := target.takeWhile (· ≠ ':')
  mediaTypesRev type := if type = jsonType then some 50 else none

def displayNode : Node :=
  Node.addResource ⟨coapScheme ++ displayHost, .display, .empty⟩
    ⟨coapScheme ++ displayHost, coapScheme ++ (displayHost ++ '/' :: displayPath)⟩

def controllerNode : Node :=
  Node.addResource ⟨coapScheme ++ controllerHost, .controller, .empty⟩
    ⟨coapScheme ++ controllerHost, coapScheme ++ (controllerHost ++ '/' :: controllerPath)⟩

def twoNodes : Frontend :=
  ⟨(Dict.empty.set displayNode.anchor displayNode).set controllerNode.anchor controllerNode, [], 0⟩

/-- `JSON.parse` on one document. -/
def parseOnly (data : TargetData) (body : List UInt8) : Option TargetData :=
  if body = utf8 data.stringify then some data else none

/-- The URL of the target of the controller. -/
def controllerUrl : Text := coapScheme ++ (controllerHost ++ '/' :: controllerPath)

/-- The controller after the request. -/
def toldState : Common :=
  (lukeSetTarget displayPackages
    (postDocument (utf8 (TargetData.stringify ⟨displayHost, '/' :: displayPath⟩))) Common.init).2

def allWidgets : Text → Bool := fun _ => true

def readTarget : TargetPdu := ⟨.get, 0, fun _ => 0, 0, fun _ => ⟨.undefined, 0, 0⟩⟩

/-- A node that is sent the empty texts has no target then. -/
lemma post_cleared {t : Common} {pdu : TargetPdu} (htokenises : P.Tokenises (targetMembers [] []))
    (hposts : pdu.Posts (utf8 (TargetData.stringify ⟨[], []⟩))) :
    (lukeSetTarget P pdu t).1 = some ⟨.valid, []⟩ ∧
      (lukeSetTarget P pdu t).2.targetRemote =
        { t.targetRemote with addr := Vector.replicate 16 0 } ∧
      (lukeSetTarget P pdu t).2.pathString = [] := by
  obtain ⟨hpost, htype, hlen, hpayload⟩ := hposts
  rw [utf8_stringify plain_nil plain_nil] at hlen hpayload
  have hfind := findTarget_members (by decide) hlen hpayload htokenises
  have hset : setTargetFromPayload P pdu t = (.valid, { t with
      targetRemote := { t.targetRemote with addr := Vector.replicate 16 0 }
      targetPath := strncpy (poke t.targetPath 0 (List.replicate LUKE_TARGET_PATH_LEN 0))
        (Function.update pdu.payload 9 0) 19 0 }) := by
    unfold setTargetFromPayload
    rw [hfind]
    rfl
  have hposted : lukeSetTarget P pdu t =
      (some ⟨.valid, []⟩, (setTargetFromPayload P pdu t).2) := by
    unfold lukeSetTarget
    rw [hpost]
    dsimp only
    rw [if_pos htype, hset]
  rw [hposted, hset]
  refine ⟨rfl, rfl, ?_⟩
  exact @pathString_copied t.targetPath (Function.update pdu.payload 9 0) 19 0 _ rfl
    (Nat.zero_le _)

/-- The text of the address that is all zeros. -/
def anyAddr : Text := [':', ':']

lemma plain_anyAddr : ∀ c ∈ anyAddr, Plain c ∧ c ≠ '/' :=
  List.all_iff_forall_prop.mp (by decide)

/-- A page shows nothing for the target that was cleared. -/
lemma showTarget_cleared {s : Frontend} {widgets : Text → Bool} {coapService hostN pathN : Text}
    {port : UInt16} (hslash : '/' ∉ hostN) (hclean : ¬ coapScheme <:+: hostN ++ '/' :: pathN)
    (hfull : s.nodes.get (coapScheme ++ hostPortText anyAddr port) = none)
    (hbare : s.nodes.get (coapScheme ++ ('[' :: anyAddr ++ [']'])) = none) :
    s.showTarget widgets (httpUrlFromCoapUrl coapService (coapScheme ++ (hostN ++ '/' :: pathN)))
      ⟨hostPortText anyAddr port, []⟩ = .nothing := by
  have hdrop : ∀ origin, s.dropTo widgets (coapScheme ++ ('[' :: anyAddr ++ [']']))
      ⟨hostPortText anyAddr port, []⟩ origin = .nothing := by
    intro origin
    unfold Frontend.dropTo
    rw [hbare]
  unfold Frontend.showTarget
  rw [lastOrigin_url coapService hslash hclean]
  dsimp only
  rw [hfull, portSuffix_hostPortText plain_anyAddr]
  dsimp only
  rw [hdrop, ite_self]
  rfl

/-- When the widget is dragged out, the node has no target, whatever it was, and sends no points
until another is set. What it tells is shown as nothing. -/
theorem dragged_out_clears {s : Frontend} {widgets : Text → Bool}
    {coapService url hostN pathN : Text} {t : Common}
    {parse : List UInt8 → Option TargetData} (hslash : '/' ∉ hostN)
    (hclean : ¬ coapScheme <:+: hostN ++ '/' :: pathN)
    (htarget : url = coapScheme ++ (hostN ++ '/' :: pathN))
    (hfull : s.nodes.get (coapScheme ++ hostPortText anyAddr t.targetRemote.port) = none)
    (hbare : s.nodes.get (coapScheme ++ ('[' :: anyAddr ++ [']'])) = none)
    -- The packages on the documents that are exchanged.
    (htype : L.mediaTypesRev jsonType = some 50)
    (htokenises : P.Tokenises (targetMembers [] []))
    (hprints : P.sockUdpEpFmt { t.targetRemote with addr := Vector.replicate 16 0 } =
      (ascii anyAddr, t.targetRemote.port))
    (hparse : parse (utf8 (TargetData.stringify
      ⟨hostPortText anyAddr t.targetRemote.port, []⟩)) =
        some ⟨hostPortText anyAddr t.targetRemote.port, []⟩) :
    ∀ t₁ t₂ t₃ posted told,
      Exchanged L P url (post url ⟨[], []⟩) t posted t₁ → SameTarget t₁ t₂ →
      Exchanged L P url (get url) t₂ told t₃ →
      posted.status = 200 ∧
        (∀ points now later res, (t₂.postPointsToTarget points now later res).request = none) ∧
        (parse told.body).map (s.showTarget widgets (httpUrlFromCoapUrl coapService url)) =
        some .nothing := by
  intro t₁ t₂ t₃ posted told hpost hkept hget
  obtain ⟨pdu, hposts, rfl, hposted⟩ := exchanged_post htype hpost
  obtain ⟨hvalid, hremote, hpathString⟩ := post_cleared (t := t) htokenises hposts
  have hnone : t₂.noTarget = true := by
    unfold Common.noTarget
    rw [hkept.1, hremote]
    exact decide_eq_true (Or.inl rfl)
  have hdocument : targetDocument P (lukeSetTarget P pdu t).2 = utf8 (TargetData.stringify
      ⟨hostPortText anyAddr t.targetRemote.port, []⟩) := by
    rw [targetDocument_eq, utf8_stringify
      (fun c hc => (plain_hostPortText plain_anyAddr t.targetRemote.port c hc).1) plain_nil,
      ascii_hostPortText]
    unfold documentMembers
    rw [hremote, hprints, hpathString]
    rfl
  refine ⟨hposted hvalid, ?_, ?_⟩
  · intro points now later res
    unfold Common.postPointsToTarget
    rw [if_pos hnone]
  · rw [exchanged_get hget, sameTarget_document hkept, hdocument, hparse, Option.map_some,
      htarget, showTarget_cleared hslash hclean hfull hbare]

/-- The packages on the cleared address. -/
def outPackages : Luke.Packages where
  jsmnParse text :=
    let ms := targetMembers [] []
    if text = objectText ms then some (objectToks ms) else none
  sockUdpStr2ep ep _ := (false, ep)
  sockUdpEpFmt ep := (ascii anyAddr, ep.port)

lemma tokenises_out : outPackages.Tokenises (targetMembers [] []) := by
  unfold Packages.Tokenises outPackages
  dsimp only
  rw [if_pos rfl]

/-- The display is the target. -/
def displayTarget : Common := { toldState with targetRemote := displayEp }

def outState : Common :=
  (lukeSetTarget outPackages (postDocument (utf8 (TargetData.stringify ⟨[], []⟩)))
    displayTarget).2

def outData : TargetData := ⟨hostPortText anyAddr GCOAP_PORT, []⟩

theorem dragged_out_clears_display :
    (outState.postPointsToTarget 1 0 0 1).request = none ∧
      (parseOnly outData
        (answer .get ⟨codeNumber .content, targetDocument outPackages outState⟩).body).map
        (twoNodes.showTarget allWidgets (httpUrlFromCoapUrl controllerHost controllerUrl)) =
      some .nothing := by
  have hclean : ¬ coapScheme <:+: controllerHost ++ '/' :: controllerPath := by decide
  have hfull : twoNodes.nodes.get (coapScheme ++ hostPortText anyAddr displayEp.port) = none := by
    rw [← Option.isNone_iff_eq_none]
    decide +kernel
  have hbare : twoNodes.nodes.get (coapScheme ++ ('[' :: anyAddr ++ [']'])) = none := by
    rw [← Option.isNone_iff_eq_none]
    decide +kernel
  have hparse : parseOnly outData (utf8 (TargetData.stringify
      ⟨hostPortText anyAddr displayTarget.targetRemote.port, []⟩)) =
      some ⟨hostPortText anyAddr displayTarget.targetRemote.port, []⟩ :=
    if_pos rfl
  have hpost : Exchanged serviceLibs outPackages controllerUrl (post controllerUrl ⟨[], []⟩)
      displayTarget _ outState :=
    ⟨_, postDocument _, _, rfl, rfl, ⟨rfl, fun _ hformat => Option.some.inj hformat, rfl,
      slice_poke_self _ 0 _⟩, rfl, rfl⟩
  have hget : Exchanged serviceLibs outPackages controllerUrl (get controllerUrl) outState _
      outState :=
    ⟨_, readTarget, _, rfl, rfl, ⟨rfl, nofun, rfl, rfl⟩, rfl, rfl⟩
  obtain ⟨-, hsends, hshows⟩ := dragged_out_clears (s := twoNodes) (t := displayTarget)
    (by decide) hclean rfl hfull hbare rfl tokenises_out rfl hparse _ _ _ _ _ hpost ⟨rfl, rfl⟩ hget
  exact ⟨hsends 1 0 0 1, hshows⟩

end Webfrontend

end RiotPlayground
