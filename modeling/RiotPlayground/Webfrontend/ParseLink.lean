import RiotPlayground.Webfrontend.Registry

/-!
# Malformed links: `webfrontend/js/parse_link_header.js`

`parseLinkHeader` puts `null` where a link could not be parsed, and the handler reads the anchor of
every entry. What the constructor of `URL` accepts is left to the browser.
-/

namespace RiotPlayground

namespace Webfrontend

/-- What `\s` matches. -/
def isSpace (c : Char) : Bool :=
  let n := c.toNat
  n = 0x20 || 0x09 ≤ n && n ≤ 0x0d || n = 0xa0 || n = 0x1680 || 0x2000 ≤ n && n ≤ 0x200a ||
    n = 0x2028 || n = 0x2029 || n = 0x202f || n = 0x205f || n = 0x3000 || n = 0xfeff

/-- What `.` does not match. -/
def isLineEnd (c : Char) : Bool :=
  let n := c.toNat
  n = 0x0a || n = 0x0d || n = 0x2028 || n = 0x2029

/-- `linkHeader.split(/,\s*</)`, with the characters of a separator still to skip and the part so
far. -/
def splitLinks : ℕ → Text → Text → List Text
  | _, part, [] => [part]
  | skip + 1, part, _ :: rest => splitLinks skip part rest
  | 0, part, c :: rest =>
    let spaces := (rest.takeWhile isSpace).length
    if c = ',' ∧ (rest.drop spaces).head? = some '<' then part :: splitLinks (spaces + 1) [] rest
    else splitLinks 0 (part ++ [c]) rest

/-- `link.match(/<?([^>]*)>(.*)/)` -/
def bracketed (link : Text) : Option (Text × Text) :=
  let url := link.takeWhile (· ≠ '>')
  match link.dropWhile (· ≠ '>') with
  | [] => none
  | _ :: rest =>
    some (if url.head? = some '<' then url.tail else url, rest.takeWhile fun c => !isLineEnd c)

/-- What `\s*"?([^"]+)"?` captures. A space is given back where nothing else is left. -/
def attributeValue (text : Text) : Option Text :=
  let tail := text.dropWhile isSpace
  let tail := if tail.head? = some '"' then tail.tail else tail
  let value := tail.takeWhile (· ≠ '"')
  if value = [] then (text.takeWhile isSpace).getLast?.map fun c => [c] else some value

/-- What `\s*(.+)` captures. -/
def attributeKey (text : Text) : Option Text :=
  let key := text.dropWhile isSpace
  if key = [] then text.getLast?.map fun c => [c] else some key

/-- The match of `createObjects`: the key goes as far as possible. -/
def linkAttribute (p : Text) : Option (Text × Text) :=
  (List.range p.length).reverse.findSome? fun i =>
    if p[i]? = some '=' then
      (attributeKey (p.take i)).bind fun key =>
        (attributeValue (p.drop (i + 1))).map fun value => (key, value)
    else none

/-- The anchor that `parts.reduce(createObjects, {})` has at the end. -/
def anchorOf (parts : List Text) : Text :=
  let anchors := (parts.filterMap linkAttribute).filter fun a => a.1 = "anchor".toList
  (anchors.getLast?.map Prod.snd).getD "undefined".toList

variable (isUrl : Text → Bool)

def parseLink (link : Text) : Option Link :=
  (bracketed link).bind fun m =>
    if isUrl m.1 then some ⟨anchorOf (m.2.splitOn ';').tail, m.1⟩ else none

/-- The texts that `parseLink` is applied to. -/
def linkTexts (linkHeader : Text) : List Text :=
  if linkHeader = [] then [] else splitLinks 0 [] linkHeader

def parseLinkHeader (linkHeader : Text) : List (Option Link) :=
  (linkTexts linkHeader).map (parseLink isUrl)

/-- No brackets, or no URL between them. -/
def Malformed (link : Text) : Prop := ∀ m, bracketed link = some m → isUrl m.1 = false

/-- The handler goes on to `load_targets`. -/
def Frontend.RunsLoadTargets (s : Frontend) (doc : List (Option Link)) : Prop :=
  (s.registerAll doc).2 = true

/-- The links that could be parsed are registered as if they were the only ones, and
`load_targets` is run. -/
def Frontend.HandlesGood (s : Frontend) (doc : List (Option Link)) : Prop :=
  (s.registerAll doc).1 = (s.registerAll (doc.filter Option.isSome)).1 ∧ s.RunsLoadTargets doc

lemma parseLink_eq_none_iff (link : Text) : parseLink isUrl link = none ↔ Malformed isUrl link := by
  unfold parseLink Malformed
  cases bracketed link with
  | none => simp
  | some m => cases h : isUrl m.1 <;> simp [h]

lemma runsLoadTargets_iff (s : Frontend) (doc : List (Option Link)) :
    s.RunsLoadTargets doc ↔ ∀ l ∈ doc, ¬ Frontend.Throws l := by
  unfold Frontend.RunsLoadTargets
  induction doc generalizing s with
  | nil => simp [Frontend.registerAll]
  | cons l doc ih =>
    rw [List.forall_mem_cons]
    cases l with
    | none => simp [Frontend.registerAll, Frontend.throws_none]
    | some r =>
      unfold Frontend.registerAll
      by_cases hr : Frontend.Throws (some r)
      · simp [hr]
      · simp [hr, ih]

lemma handlesGood_iff (s : Frontend) (doc : List (Option Link)) :
    s.HandlesGood doc ↔ ∀ l ∈ doc, ¬ Frontend.Throws l := by
  unfold Frontend.HandlesGood
  rw [runsLoadTargets_iff]
  apply and_iff_right_of_imp
  intro h
  rw [List.filter_eq_self.mpr]
  intro l hl
  cases l with
  | none => exact absurd Frontend.throws_none (h none hl)
  | some r => rfl

/-- Links are not hidden exactly when none is malformed. Where an anchor is a name that every object
inherits, the handler throws as well. -/
theorem handlesGood_parseLinkHeader_iff (s : Frontend) (text : Text) :
    s.HandlesGood (parseLinkHeader isUrl text) ↔
      (∀ link ∈ linkTexts text, ¬ Malformed isUrl link) ∧
      ∀ r, some r ∈ parseLinkHeader isUrl text → r.anchor ∉ Frontend.objectPrototype := by
  rw [handlesGood_iff]
  constructor
  · intro h
    constructor
    · intro link hlink hmalformed
      have hnone := (parseLink_eq_none_iff isUrl link).mpr hmalformed
      exact h none (List.mem_map.mpr ⟨link, hlink, hnone⟩) Frontend.throws_none
    · intro r hr hanchor
      apply h (some r) hr
      rintro _ ⟨⟩
      exact hanchor
  · rintro ⟨hwell, hanchor⟩ l hl hthrows
    cases l with
    | none =>
      obtain ⟨link, hlink, hnone⟩ := List.mem_map.mp hl
      exact hwell link hlink ((parseLink_eq_none_iff isUrl link).mp hnone)
    | some r => exact hanchor r hl (hthrows r rfl)

/-- A link without brackets in front of one that is well-formed. -/
def bareFirst : Text := "x, <coap://[::1]/dino/points>;anchor=\"coap://[::1]\"".toList

def isCoap (url : Text) : Bool := "coap://".toList <+: url

theorem bareFirst_hides :
    parseLinkHeader isCoap bareFirst =
      [none, some ⟨"coap://[::1]".toList, "coap://[::1]/dino/points".toList⟩] ∧
    ¬ (Frontend.init ⟨"coap://[::2]".toList, "coap://[::2]/resource-lookup".toList⟩).HandlesGood
      (parseLinkHeader isCoap bareFirst) := by
  have hparse : parseLinkHeader isCoap bareFirst =
      [none, some ⟨"coap://[::1]".toList, "coap://[::1]/dino/points".toList⟩] := by decide +kernel
  refine ⟨hparse, ?_⟩
  rw [handlesGood_iff, hparse]
  intro h
  exact h none List.mem_cons_self Frontend.throws_none

end Webfrontend

end RiotPlayground
