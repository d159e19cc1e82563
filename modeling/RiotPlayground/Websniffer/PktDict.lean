import Mathlib.Data.Int.Notation
import RiotPlayground.Lib.Dict
import RiotPlayground.Lib.PyText

/-!
# Packets for the browser: `_pkg_to_dict` and `_try_send` of `websniffer/main.py`

Values are what scapy puts into the fields of a packet and what `json.dumps` is given. A packet is
the list of its layers, each as `pkg[lay]` returns it for the classes that `pkg.layers()` lists.
-/

namespace RiotPlayground

open PyText

/-- A layer: its name, the fields it declares with what `getattr` returns for them, and the item
`"fields"` of its `__dict__`, with the fields that were set, if there is one. -/
structure PktLayer (α : Type) where
  name : List Char
  fieldsDesc : List (List Char × α)
  fields : Option (List (List Char × α))

inductive PyValue
  | none
  | str (s : List Char)
  | int (n : ℤ)
  | float (bits : UInt64)
  | bytes (bs : List UInt8)
  | list (vs : List PyValue)
  | tuple (vs : List PyValue)
  | dict (entries : List (List Char × PyValue))
  | pkg (layers : List (PktLayer PyValue))

abbrev Packet := List (PktLayer PyValue)

/-- The characters of `[A-Za-z0-9_]`. -/
def isNameChar (c : Char) : Bool := c.isAlphanum || c = '_'

/-- `re.sub("[^A-Za-z0-9_]+", "_", name)`, inside a run of other characters or not. -/
def subOthers : Bool → List Char → List Char
  | _, [] => []
  | inRun, c :: cs =>
    if isNameChar c then c :: subOthers false cs
    else if inRun then subOthers true cs
    else '_' :: subOthers true cs

def ieee802154 : List Char := "802_15_4".toList

/-- `replace("802_15_4", "wpan")` after the first `skip` characters. -/
def replaceFrom : ℕ → List Char → List Char
  | _, [] => []
  | skip + 1, _ :: cs => replaceFrom skip cs
  | 0, c :: cs =>
    if ieee802154 <+: c :: cs then "wpan".toList ++ replaceFrom 7 cs else c :: replaceFrom 0 cs

/-- The name a layer gets in the result. -/
def layerName (name : List Char) : List Char :=
  let name := (subOthers false name).map Char.toLower
  if ieee802154 <+: name then replaceFrom 0 name else name

namespace PyValue

/-- `bytes.hex()` -/
def hex (bs : List UInt8) : List Char :=
  bs.flatMap fun b => [Nat.digitChar (b.toNat / 16), Nat.digitChar (b.toNat % 16)]

def truthy : PyValue → Bool
  | none => false
  | str s => !s.isEmpty
  | int n => n != 0
  | float bits => bits != 0 && bits != 0x8000000000000000
  | bytes bs => !bs.isEmpty
  | list vs => !vs.isEmpty
  | tuple vs => !vs.isEmpty
  | dict entries => !entries.isEmpty
  | pkg _ => true

/-- `isinstance(y, (str, int, float, list, dict))` -/
def isPlainType : PyValue → Bool
  | str _ | int _ | float _ | list _ | dict _ => true
  | none | bytes _ | tuple _ | pkg _ => false

/-- The second pass over a layer, on the fields that were set; `none` is the `KeyError`. The keys
of a dictionary are distinct, so where `tmp_t[x]` is read `x` is not there yet. -/
def customFields (tmp : Dict (List Char) PyValue) :
    List (List Char × PyValue) → Option (Dict (List Char) PyValue)
  | [] => some tmp
  | (x, y) :: rest =>
    if y.truthy && !y.isPlainType then Option.none else customFields (tmp.set x y) rest

/-- What the two passes over a layer leave in the result, `first` being the first one's. -/
def layerDict (first : Dict (List Char) PyValue) (fields : Option (List (List Char × PyValue))) :
    Dict (List Char) PyValue :=
  match fields with
  | some fields => (customFields .empty fields).getD first
  | Option.none => first

mutual

/-- `_value_to_json_parsable` -/
def toJsonParsable : PyValue → PyValue
  | list vs | tuple vs => .list (toJsonParsables vs)
  | bytes bs => .str (hex bs)
  | pkg layers => .dict (Dict.empty.setAll (layerDicts layers)).entries
  | v => v

def toJsonParsables : List PyValue → List PyValue
  | [] => []
  | v :: vs => toJsonParsable v :: toJsonParsables vs

def toJsonFields : List (List Char × PyValue) → List (List Char × PyValue)
  | [] => []
  | (x, v) :: rest => (x, toJsonParsable v) :: toJsonFields rest

/-- What is set in `results`, layer by layer. -/
def layerDicts : List (PktLayer PyValue) → List (List Char × PyValue)
  | [] => []
  | ⟨name, fieldsDesc, fields⟩ :: rest =>
    (layerName name, .dict (layerDict (Dict.empty.setAll (toJsonFields fieldsDesc)) fields).entries)
      :: layerDicts rest

end

def pkgToDict (layers : Packet) : PyValue := .dict (Dict.empty.setAll (layerDicts layers)).entries

mutual

/-- The most that `ofInt` gives for an integer in the value, plus `level` for each level above. -/
def extent (ofInt : ℤ → ℕ) (level : ℕ) : PyValue → ℕ
  | int n => ofInt n
  | list vs | tuple vs => extentAll ofInt level vs + level
  | dict entries => extentFields ofInt level entries + level
  | pkg layers => extentLayers ofInt level layers + level
  | _ => 0

def extentAll (ofInt : ℤ → ℕ) (level : ℕ) : List PyValue → ℕ
  | [] => 0
  | v :: vs => max (extent ofInt level v) (extentAll ofInt level vs)

def extentFields (ofInt : ℤ → ℕ) (level : ℕ) : List (List Char × PyValue) → ℕ
  | [] => 0
  | (_, v) :: rest => max (extent ofInt level v) (extentFields ofInt level rest)

def extentLayers (ofInt : ℤ → ℕ) (level : ℕ) : List (PktLayer PyValue) → ℕ
  | [] => 0
  | ⟨_, fieldsDesc, _⟩ :: rest =>
    max (extentFields ofInt level fieldsDesc) (extentLayers ofInt level rest)

end

/-- How deep lists, tuples, dictionaries and packets nest. -/
def depth : PyValue → ℕ := extent (fun _ => 0) 1

/-- The decimal digits of the longest integer. -/
def digits : PyValue → ℕ := extent (fun n => (Nat.toDigits 10 n.natAbs).length) 0

end PyValue

/-- How deep values may nest before a recursion over them runs out of stack, and how many digits
of an integer are printed, where the interpreter sets a limit. -/
structure Limits where
  maxDepth : Option ℕ
  maxDigits : Option ℕ

namespace Limits

def unlimited : Limits := ⟨none, none⟩

def tooDeep (L : Limits) (v : PyValue) : Bool := L.maxDepth.any (· < v.depth)

/-- The interpreter's limits are not met. -/
def Admits (L : Limits) (v : PyValue) : Prop :=
  L.tooDeep v = false ∧ L.maxDigits.any (· < v.digits) = false

instance (L : Limits) (v : PyValue) : Decidable (L.Admits v) :=
  inferInstanceAs (Decidable (_ ∧ _))

end Limits

/-- The exceptions that end up in `send_pkts`. -/
inductive SendError
  | typeError
  | valueError
  | recursionError
  | attributeError
  | keyError
  | webSocketClosed
deriving DecidableEq

/-- Those its handler logs before it goes on. -/
def SendError.caught : SendError → Bool
  | .valueError | .webSocketClosed => true
  | .typeError | .recursionError | .attributeError | .keyError => false

namespace PyValue

/-! ### `json.dumps` -/

def hex4 (n : ℕ) : List Char :=
  '\\' :: 'u' :: [n / 4096 % 16, n / 256 % 16, n / 16 % 16, n % 16].map Nat.digitChar

def escape (c : Char) : List Char :=
  if c = '"' then ['\\', '"']
  else if c = '\\' then ['\\', '\\']
  else if c = '\n' then ['\\', 'n']
  else if c = '\r' then ['\\', 'r']
  else if c = '\t' then ['\\', 't']
  else if c.toNat = 8 then ['\\', 'b']
  else if c.toNat = 12 then ['\\', 'f']
  else if 32 ≤ c.toNat ∧ c.toNat ≤ 126 then [c]
  else if c.toNat < 0x10000 then hex4 c.toNat
  else hex4 (0xd800 + (c.toNat - 0x10000) / 1024) ++ hex4 (0xdc00 + (c.toNat - 0x10000) % 1024)

def quote (s : List Char) : List Char := '"' :: s.flatMap escape ++ ['"']

def intText (n : ℤ) : List Char :=
  if n < 0 then '-' :: Nat.toDigits 10 n.natAbs else Nat.toDigits 10 n.natAbs

mutual

/-- A `TypeError` is raised for what JSON has no text for. `floatText` is what Python prints for a
float. -/
def dumps (maxDigits : Option ℕ) (floatText : UInt64 → List Char) :
    PyValue → Except SendError (List Char)
  | none => .ok "null".toList
  | str s => .ok (quote s)
  | int n =>
    if tooManyDigits maxDigits (Nat.toDigits 10 n.natAbs) then .error .valueError
    else .ok (intText n)
  | float bits => .ok (floatText bits)
  | bytes _ => .error .typeError
  | list vs | tuple vs =>
    (dumpsAll maxDigits floatText vs).map fun texts => '[' :: [',', ' '].intercalate texts ++ [']']
  | dict entries =>
    (dumpsEntries maxDigits floatText entries).map fun texts =>
      '{' :: [',', ' '].intercalate texts ++ ['}']
  | pkg _ => .error .typeError

def dumpsAll (maxDigits : Option ℕ) (floatText : UInt64 → List Char) :
    List PyValue → Except SendError (List (List Char))
  | [] => .ok []
  | v :: vs => do
    let text ← dumps maxDigits floatText v
    let texts ← dumpsAll maxDigits floatText vs
    return text :: texts

def dumpsEntries (maxDigits : Option ℕ) (floatText : UInt64 → List Char) :
    List (List Char × PyValue) → Except SendError (List (List Char))
  | [] => .ok []
  | (x, v) :: rest => do
    let text ← dumps maxDigits floatText v
    let texts ← dumpsEntries maxDigits floatText rest
    return (quote x ++ ':' :: ' ' :: text) :: texts

end

/-- No byte string and no packet is left, at any depth. -/
inductive Plain : PyValue → Prop
  | none : Plain .none
  | str (s : List Char) : Plain (.str s)
  | int (n : ℤ) : Plain (.int n)
  | float (bits : UInt64) : Plain (.float bits)
  | list {vs : List PyValue} (h : ∀ v ∈ vs, Plain v) : Plain (.list vs)
  | tuple {vs : List PyValue} (h : ∀ v ∈ vs, Plain v) : Plain (.tuple vs)
  | dict {entries : List (List Char × PyValue)} (h : ∀ e ∈ entries, Plain e.2) :
      Plain (.dict entries)

/-- The second pass over the layer ends in the `KeyError`: the `__dict__` has no `"fields"`, or one
of them is a non-empty byte string or tuple or a packet. -/
def keepsFirst (fields : Option (List (List Char × PyValue))) : Bool :=
  fields.all fun fields => fields.any fun e => e.2.truthy && !e.2.isPlainType

/-- The values whose conversion is plain. Of the layers of a packet that get the same name in the
result only the last counts. It has its declared values converted if the second pass fails, and else
the fields that were set as they are. -/
inductive Converts : PyValue → Prop
  | none : Converts .none
  | str (s : List Char) : Converts (.str s)
  | int (n : ℤ) : Converts (.int n)
  | float (bits : UInt64) : Converts (.float bits)
  | bytes (bs : List UInt8) : Converts (.bytes bs)
  | list {vs : List PyValue} (h : ∀ v ∈ vs, Converts v) : Converts (.list vs)
  | tuple {vs : List PyValue} (h : ∀ v ∈ vs, Converts v) : Converts (.tuple vs)
  | dict {entries : List (List Char × PyValue)} (h : Plain (.dict entries)) :
      Converts (.dict entries)
  | pkg {layers : Packet}
      (h : ∀ lay ∈ Dict.lastWins (fun lay => layerName lay.name) layers, keepsFirst lay.fields →
        ∀ e ∈ Dict.lastWins Prod.fst lay.fieldsDesc, Converts e.2)
      (h' : ∀ lay ∈ Dict.lastWins (fun lay => layerName lay.name) layers,
        ¬ keepsFirst lay.fields →
        ∀ e ∈ Dict.lastWins Prod.fst (lay.fields.getD []), Plain e.2) : Converts (.pkg layers)

/-- Induction over values, with the fields of a packet's layers. -/
theorem induct {P : PyValue → Prop} (none : P .none) (str : ∀ s, P (.str s))
    (int : ∀ n, P (.int n)) (float : ∀ bits, P (.float bits)) (bytes : ∀ bs, P (.bytes bs))
    (list : ∀ vs, (∀ v ∈ vs, P v) → P (.list vs))
    (tuple : ∀ vs, (∀ v ∈ vs, P v) → P (.tuple vs))
    (dict : ∀ entries, (∀ e ∈ entries, P e.2) → P (.dict entries))
    (pkg : ∀ layers, (∀ lay ∈ layers, ∀ e ∈ lay.fieldsDesc, P e.2) → P (.pkg layers))
    (v : PyValue) : P v := by
  apply @PyValue.rec P (fun vs => ∀ v ∈ vs, P v) (fun entries => ∀ e ∈ entries, P e.2)
    (fun layers => ∀ lay ∈ layers, ∀ e ∈ lay.fieldsDesc, P e.2)
    (fun e => P e.2) (fun lay => ∀ e ∈ lay.fieldsDesc, P e.2) (fun _ => True)
    none str int float bytes list tuple dict pkg
  · simp
  · exact fun v vs hv hvs => List.forall_mem_cons.mpr ⟨hv, hvs⟩
  · simp
  · exact fun e entries he hentries => List.forall_mem_cons.mpr ⟨he, hentries⟩
  · simp
  · exact fun lay layers hlay hlayers => List.forall_mem_cons.mpr ⟨hlay, hlayers⟩
  · exact fun _ _ hv => hv
  · exact fun _ _ _ hfields _ => hfields
  · trivial
  · exact fun _ _ => trivial

lemma plain_list_iff {vs : List PyValue} : Plain (.list vs) ↔ ∀ v ∈ vs, Plain v := by
  constructor
  · rintro ⟨⟩
    assumption
  · exact .list

lemma plain_tuple_iff {vs : List PyValue} : Plain (.tuple vs) ↔ ∀ v ∈ vs, Plain v := by
  constructor
  · rintro ⟨⟩
    assumption
  · exact .tuple

lemma plain_dict_iff {entries : List (List Char × PyValue)} :
    Plain (.dict entries) ↔ ∀ e ∈ entries, Plain e.2 := by
  constructor
  · rintro ⟨⟩
    assumption
  · exact .dict

lemma toJsonParsables_eq (vs : List PyValue) : toJsonParsables vs = vs.map toJsonParsable := by
  induction vs with
  | nil => rfl
  | cons v vs ih => rw [toJsonParsables, ih, List.map_cons]

lemma toJsonFields_eq (l : List (List Char × PyValue)) :
    toJsonFields l = l.map fun e => (e.1, toJsonParsable e.2) := by
  induction l with
  | nil => rfl
  | cons e l ih => rw [toJsonFields, ih, List.map_cons]

/-- What is set in `results` for a layer. -/
def resultOf (lay : PktLayer PyValue) : PyValue :=
  .dict (layerDict (Dict.empty.setAll (toJsonFields lay.fieldsDesc)) lay.fields).entries

lemma layerDicts_eq (layers : Packet) :
    layerDicts layers = layers.map fun lay => (layerName lay.name, resultOf lay) := by
  induction layers with
  | nil => rfl
  | cons lay layers ih => rw [layerDicts, ih, List.map_cons, resultOf]

lemma customFields_eq (tmp : Dict (List Char) PyValue) (fields : List (List Char × PyValue)) :
    customFields tmp fields =
      if fields.any fun e => e.2.truthy && !e.2.isPlainType then Option.none
      else some (tmp.setAll fields) := by
  induction fields generalizing tmp with
  | nil => rfl
  | cons e fields ih =>
    rw [customFields, ih, List.any_cons, Dict.setAll]
    cases e.2.truthy && !e.2.isPlainType <;> rfl

lemma layerDict_eq (first : Dict (List Char) PyValue)
    (fields : Option (List (List Char × PyValue))) :
    layerDict first fields =
      if keepsFirst fields then first else Dict.empty.setAll (fields.getD []) := by
  cases fields with
  | none => rfl
  | some fields =>
    rw [layerDict, customFields_eq, keepsFirst, Option.all_some]
    split <;> rfl

lemma plain_setAll_iff {entries : List (List Char × PyValue)} :
    Plain (.dict (Dict.empty.setAll entries).entries) ↔
      ∀ e ∈ Dict.lastWins Prod.fst entries, Plain e.2 := by
  rw [plain_dict_iff]
  exact forall_congr' fun e => imp_congr_left Dict.mem_setAll_empty

lemma plain_pkgToDict_iff {layers : Packet} : Plain (pkgToDict layers) ↔
    ∀ lay ∈ Dict.lastWins (fun lay => layerName lay.name) layers, Plain (resultOf lay) := by
  rw [pkgToDict, plain_setAll_iff, layerDicts_eq, Dict.lastWins_map fun _ => rfl,
    List.forall_mem_map]

/-- What a layer leaves in the result is plain when its declared values are converted to plain
ones or, if the second pass succeeds, when the fields that were set are plain. -/
lemma plain_resultOf_iff {lay : PktLayer PyValue} : Plain (resultOf lay) ↔
    (keepsFirst lay.fields →
      ∀ e ∈ Dict.lastWins Prod.fst lay.fieldsDesc, Plain (toJsonParsable e.2)) ∧
    (¬ keepsFirst lay.fields →
      ∀ e ∈ Dict.lastWins Prod.fst (lay.fields.getD []), Plain e.2) := by
  rw [resultOf, layerDict_eq]
  by_cases hkeeps : keepsFirst lay.fields
  · rw [if_pos hkeeps, plain_setAll_iff, toJsonFields_eq, Dict.lastWins_map fun _ => rfl,
      List.forall_mem_map]
    simp [hkeeps]
  · rw [if_neg hkeeps, plain_setAll_iff]
    simp [hkeeps]

lemma converts_list_iff {vs : List PyValue} : Converts (.list vs) ↔ ∀ v ∈ vs, Converts v := by
  constructor
  · rintro ⟨⟩
    assumption
  · exact .list

lemma converts_tuple_iff {vs : List PyValue} : Converts (.tuple vs) ↔ ∀ v ∈ vs, Converts v := by
  constructor
  · rintro ⟨⟩
    assumption
  · exact .tuple

lemma converts_dict_iff {entries : List (List Char × PyValue)} :
    Converts (.dict entries) ↔ Plain (.dict entries) := by
  constructor
  · rintro ⟨⟩
    assumption
  · exact .dict

lemma converts_pkg_iff {layers : Packet} : Converts (.pkg layers) ↔
    ∀ lay ∈ Dict.lastWins (fun lay => layerName lay.name) layers,
      (keepsFirst lay.fields → ∀ e ∈ Dict.lastWins Prod.fst lay.fieldsDesc, Converts e.2) ∧
      (¬ keepsFirst lay.fields →
        ∀ e ∈ Dict.lastWins Prod.fst (lay.fields.getD []), Plain e.2) := by
  constructor
  · rintro ⟨⟩
    rename_i hfirst hset
    exact fun lay hlay => ⟨hfirst lay hlay, hset lay hlay⟩
  · intro h
    exact .pkg (fun lay hlay => (h lay hlay).1) fun lay hlay => (h lay hlay).2

/-- A value is converted to a plain one exactly if it meets `Converts`. -/
lemma plain_toJsonParsable_iff (v : PyValue) : Plain (toJsonParsable v) ↔ Converts v := by
  induction v using induct with
  | none => exact iff_of_true .none .none
  | str s => exact iff_of_true (.str s) (.str s)
  | int n => exact iff_of_true (.int n) (.int n)
  | float bits => exact iff_of_true (.float bits) (.float bits)
  | bytes bs => exact iff_of_true (.str _) (.bytes bs)
  | list vs ih =>
    rw [toJsonParsable, plain_list_iff, toJsonParsables_eq, List.forall_mem_map, converts_list_iff]
    exact forall₂_congr ih
  | tuple vs ih =>
    rw [toJsonParsable, plain_list_iff, toJsonParsables_eq, List.forall_mem_map,
      converts_tuple_iff]
    exact forall₂_congr ih
  | dict entries _ => exact converts_dict_iff.symm
  | pkg layers ih =>
    rw [toJsonParsable, ← pkgToDict, plain_pkgToDict_iff, converts_pkg_iff]
    apply forall₂_congr
    intro lay hlay
    apply plain_resultOf_iff.trans
    apply and_congr_left'
    apply imp_congr_right
    intro _
    apply forall₂_congr
    intro e he
    exact ih lay (Dict.mem_of_mem_lastWins hlay) e (Dict.mem_of_mem_lastWins he)

section

variable {maxDigits : Option ℕ} {floatText : UInt64 → List Char}

lemma isOk_map {α β : Type} (f : α → β) (x : Except SendError α) : (x.map f).isOk = x.isOk := by
  cases x <;> rfl

lemma isOk_dumpsAll {vs : List PyValue} : (dumpsAll maxDigits floatText vs).isOk ↔
    ∀ v ∈ vs, (dumps maxDigits floatText v).isOk := by
  induction vs with
  | nil => simp [dumpsAll, Except.isOk, Except.toBool]
  | cons v vs ih =>
    rw [dumpsAll, List.forall_mem_cons, ← ih]
    cases dumps maxDigits floatText v <;> cases dumpsAll maxDigits floatText vs <;>
      simp [Except.isOk, Except.toBool, bind, Except.bind, pure, Except.pure]

lemma isOk_dumpsEntries {entries : List (List Char × PyValue)} :
    (dumpsEntries maxDigits floatText entries).isOk ↔
      ∀ e ∈ entries, (dumps maxDigits floatText e.2).isOk := by
  induction entries with
  | nil => simp [dumpsEntries, Except.isOk, Except.toBool]
  | cons e entries ih =>
    rw [dumpsEntries, List.forall_mem_cons, ← ih]
    cases dumps maxDigits floatText e.2 <;> cases dumpsEntries maxDigits floatText entries <;>
      simp [Except.isOk, Except.toBool, bind, Except.bind, pure, Except.pure]

lemma dumpsAll_error {vs : List PyValue} {exc : SendError}
    (h : dumpsAll maxDigits floatText vs = .error exc) :
    ∃ v ∈ vs, dumps maxDigits floatText v = .error exc := by
  induction vs with
  | nil => cases h
  | cons v vs ih =>
    rw [dumpsAll] at h
    cases hv : dumps maxDigits floatText v with
    | error exc' =>
      rw [hv] at h
      cases h
      exact ⟨v, List.mem_cons_self, hv⟩
    | ok text =>
      cases hvs : dumpsAll maxDigits floatText vs with
      | ok texts =>
        rw [hv, hvs] at h
        cases h
      | error exc' =>
        rw [hv, hvs] at h
        cases h
        obtain ⟨w, hw, hraise⟩ := ih hvs
        exact ⟨w, List.mem_cons_of_mem v hw, hraise⟩

lemma dumpsEntries_error {entries : List (List Char × PyValue)} {exc : SendError}
    (h : dumpsEntries maxDigits floatText entries = .error exc) :
    ∃ e ∈ entries, dumps maxDigits floatText e.2 = .error exc := by
  induction entries with
  | nil => cases h
  | cons e entries ih =>
    rw [dumpsEntries] at h
    cases hv : dumps maxDigits floatText e.2 with
    | error exc' =>
      rw [hv] at h
      cases h
      exact ⟨e, List.mem_cons_self, hv⟩
    | ok text =>
      cases hvs : dumpsEntries maxDigits floatText entries with
      | ok texts =>
        rw [hv, hvs] at h
        cases h
      | error exc' =>
        rw [hv, hvs] at h
        cases h
        obtain ⟨w, hw, hraise⟩ := ih hvs
        exact ⟨w, List.mem_cons_of_mem e hw, hraise⟩

lemma error_of_map {α β : Type} {g : α → β} {x : Except SendError α} {exc : SendError}
    (h : x.map g = .error exc) : x = .error exc := by
  cases x <;> cases h
  rfl

/-- Without a limit on digits nothing but a `TypeError` is raised. -/
lemma typeError_of_dumps {v : PyValue} {exc : SendError}
    (h : dumps Option.none floatText v = .error exc) : exc = .typeError := by
  induction v using induct with
  | none | str | float | int => cases h
  | bytes | pkg => exact (Except.error.inj h).symm
  | list vs ih | tuple vs ih =>
    obtain ⟨v, hv, hraise⟩ := dumpsAll_error (error_of_map h)
    exact ih v hv hraise
  | dict entries ih =>
    obtain ⟨e, he, hraise⟩ := dumpsEntries_error (error_of_map h)
    exact ih e he hraise

lemma isOk_dumps_list {vs : List PyValue} : (dumps maxDigits floatText (.list vs)).isOk ↔
    ∀ v ∈ vs, (dumps maxDigits floatText v).isOk := by
  rw [dumps, isOk_map, isOk_dumpsAll]

lemma isOk_dumps_dict {entries : List (List Char × PyValue)} :
    (dumps maxDigits floatText (.dict entries)).isOk ↔
      ∀ e ∈ entries, (dumps maxDigits floatText e.2).isOk := by
  rw [dumps, isOk_map, isOk_dumpsEntries]

/-- Without a limit on digits `json.dumps` raises exactly on what is not plain. -/
lemma isOk_dumps_iff (v : PyValue) : (dumps Option.none floatText v).isOk ↔ Plain v := by
  induction v using induct with
  | none => exact iff_of_true rfl .none
  | str s => exact iff_of_true rfl (.str s)
  | int n => exact iff_of_true rfl (.int n)
  | float bits => exact iff_of_true rfl (.float bits)
  | bytes bs =>
    apply iff_of_false (Bool.false_ne_true)
    rintro ⟨⟩
  | list vs ih =>
    rw [isOk_dumps_list, plain_list_iff]
    exact forall₂_congr ih
  | tuple vs ih =>
    rw [dumps, isOk_map, isOk_dumpsAll, plain_tuple_iff]
    exact forall₂_congr ih
  | dict entries ih =>
    rw [isOk_dumps_dict, plain_dict_iff]
    exact forall₂_congr ih
  | pkg layers _ =>
    apply iff_of_false (Bool.false_ne_true)
    rintro ⟨⟩

end

/-- The values scapy puts into the fields of its packets. A packet's own attributes, `fields` among
them, are in `__slots__`, so that no `__dict__` has an item `"fields"`. -/
inductive OfScapy : PyValue → Prop
  | none : OfScapy .none
  | str (s : List Char) : OfScapy (.str s)
  | int (n : ℤ) : OfScapy (.int n)
  | float (bits : UInt64) : OfScapy (.float bits)
  | bytes (bs : List UInt8) : OfScapy (.bytes bs)
  | list {vs : List PyValue} (h : ∀ v ∈ vs, OfScapy v) : OfScapy (.list vs)
  | tuple {vs : List PyValue} (h : ∀ v ∈ vs, OfScapy v) : OfScapy (.tuple vs)
  | pkg {layers : Packet} (hset : ∀ lay ∈ layers, lay.fields = Option.none)
      (h : ∀ lay ∈ layers, ∀ e ∈ lay.fieldsDesc, OfScapy e.2) : OfScapy (.pkg layers)

lemma resultOf_ofScapy {lay : PktLayer PyValue} (h : lay.fields = Option.none) :
    resultOf lay = .dict (Dict.empty.setAll (toJsonFields lay.fieldsDesc)).entries := by
  rw [resultOf, h, layerDict]

/-- Every value of scapy is converted. -/
lemma OfScapy.converts {v : PyValue} (h : OfScapy v) : Converts v := by
  induction v using induct with
  | none => exact .none
  | str s => exact .str s
  | int n => exact .int n
  | float bits => exact .float bits
  | bytes bs => exact .bytes bs
  | list vs ih =>
    cases h with
    | list hvs => exact .list fun v hv => ih v hv (hvs v hv)
  | tuple vs ih =>
    cases h with
    | tuple hvs => exact .tuple fun v hv => ih v hv (hvs v hv)
  | dict entries _ => cases h
  | pkg layers ih =>
    cases h with
    | pkg hset hfields =>
      apply converts_pkg_iff.mpr
      intro lay hlay
      have hmem := Dict.mem_of_mem_lastWins hlay
      have hkeeps : keepsFirst lay.fields := by
        rw [hset lay hmem]
        rfl
      refine ⟨fun _ e he => ?_, fun hnot => absurd hkeeps hnot⟩
      have hmem' := Dict.mem_of_mem_lastWins he
      exact ih lay hmem e hmem' (hfields lay hmem e hmem')

section

variable {ofInt : ℤ → ℕ} {level : ℕ}

lemma extent_le_list {vs : List PyValue} {v : PyValue} (h : v ∈ vs) :
    extent ofInt level v ≤ extentAll ofInt level vs := by
  induction vs with
  | nil => cases h
  | cons w vs ih =>
    rw [extentAll]
    rcases List.mem_cons.mp h with rfl | h
    · exact le_max_left _ _
    · exact (ih h).trans (le_max_right _ _)

lemma extent_le_fields {entries : List (List Char × PyValue)} {e : List Char × PyValue}
    (h : e ∈ entries) : extent ofInt level e.2 ≤ extentFields ofInt level entries := by
  induction entries with
  | nil => cases h
  | cons f entries ih =>
    rw [extentFields]
    rcases List.mem_cons.mp h with rfl | h
    · exact le_max_left _ _
    · exact (ih h).trans (le_max_right _ _)

lemma extent_le_layers {layers : Packet} {lay : PktLayer PyValue} (hlay : lay ∈ layers)
    {e : List Char × PyValue} (he : e ∈ lay.fieldsDesc) :
    extent ofInt level e.2 ≤ extentLayers ofInt level layers := by
  induction layers with
  | nil => cases hlay
  | cons other layers ih =>
    rw [extentLayers]
    rcases List.mem_cons.mp hlay with rfl | hlay
    · exact (extent_le_fields he).trans (le_max_left _ _)
    · exact (ih hlay).trans (le_max_right _ _)

end

lemma digits_le_list {vs : List PyValue} {v : PyValue} (h : v ∈ vs) :
    v.digits ≤ (list vs).digits :=
  extent_le_list h

lemma digits_le_tuple {vs : List PyValue} {v : PyValue} (h : v ∈ vs) :
    v.digits ≤ (tuple vs).digits :=
  extent_le_list h

lemma digits_le_pkg {layers : Packet} {lay : PktLayer PyValue} (hlay : lay ∈ layers)
    {e : List Char × PyValue} (he : e ∈ lay.fieldsDesc) : e.2.digits ≤ (pkg layers).digits :=
  extent_le_layers hlay he

/-- What is converted from a value of scapy has a text, if its integers have one. -/
lemma OfScapy.isOk_dumps {v : PyValue} (h : OfScapy v) {maxDigits : Option ℕ}
    (hdigits : maxDigits.any (· < v.digits) = false) {floatText : UInt64 → List Char} :
    (dumps maxDigits floatText (toJsonParsable v)).isOk := by
  have hmono : ∀ {w u : PyValue}, w.digits ≤ u.digits → maxDigits.any (· < u.digits) = false →
      maxDigits.any (· < w.digits) = false := by
    intro w u hle hu
    cases maxDigits with
    | none => rfl
    | some d =>
      simp only [Option.any_some, decide_eq_false_iff_not] at hu ⊢
      omega
  induction v using induct with
  | none => rfl
  | str s => rfl
  | float bits => rfl
  | bytes bs => rfl
  | int n =>
    have hfit : tooManyDigits maxDigits (Nat.toDigits 10 n.natAbs) = false := hdigits
    rw [toJsonParsable, dumps, hfit]
    · rfl
    all_goals simp
  | list vs ih =>
    cases h with
    | list hvs =>
      rw [toJsonParsable, isOk_dumps_list, toJsonParsables_eq, List.forall_mem_map]
      exact fun v hv => ih v hv (hvs v hv) (hmono (digits_le_list hv) hdigits)
  | tuple vs ih =>
    cases h with
    | tuple hvs =>
      rw [toJsonParsable, isOk_dumps_list, toJsonParsables_eq, List.forall_mem_map]
      exact fun v hv => ih v hv (hvs v hv) (hmono (digits_le_tuple hv) hdigits)
  | dict entries _ => cases h
  | pkg layers ih =>
    cases h with
    | pkg hset hfields =>
      rw [toJsonParsable, isOk_dumps_dict, layerDicts_eq]
      intro e he
      obtain ⟨lay, hlay, rfl⟩ :=
        List.mem_map.mp (Dict.mem_of_mem_lastWins (Dict.mem_setAll_empty.mp he))
      rw [resultOf_ofScapy (hset lay hlay), isOk_dumps_dict, toJsonFields_eq]
      intro f hf
      obtain ⟨field, hfield, rfl⟩ :=
        List.mem_map.mp (Dict.mem_of_mem_lastWins (Dict.mem_setAll_empty.mp hf))
      exact ih lay hlay field hfield (hfields lay hlay field hfield)
        (hmono (digits_le_pkg hlay hfield) hdigits)

end PyValue

/-! ### `_try_send` -/

/-- What `_try_send` uses besides: whether a packet has an IPv6 layer and one of DNS or CoAP, and
what Python prints for a float. -/
structure SendEnv where
  wanted : Packet → Bool
  floatText : UInt64 → List Char

namespace SendEnv

variable (E : SendEnv)

def fragmentObj (f : List Char × Packet) : PyValue :=
  .dict [("time".toList, .str f.1), ("pkg".toList, PyValue.pkgToDict f.2)]

/-- The object that is sent. The times of fragments are still text. -/
def sendObj (time : UInt64) (pkg : Packet) (fragments : Option (List (List Char × Packet))) :
    PyValue :=
  .dict ([("time".toList, .float time), ("pkg".toList, PyValue.pkgToDict pkg)] ++
    (fragments.map fun fs => ("fragments".toList, PyValue.list (fs.map fragmentObj))).toList)

/-- The text written to the websocket if the packet is sent, and an exception otherwise;
`write_message` raises on a websocket that is `closed`. -/
def trySend (L : Limits) (closed : Bool) (time : UInt64) (pkg : Packet)
    (fragments : Option (List (List Char × Packet))) : Except SendError (Option (List Char)) :=
  if E.wanted pkg then
    if (pkg :: (fragments.getD []).map Prod.snd).any fun p => L.tooDeep (.pkg p) then
      .error .recursionError
    else
      match PyValue.dumps L.maxDigits E.floatText (sendObj time pkg fragments) with
      | .ok text => if closed then .error .webSocketClosed else .ok (some text)
      | .error exc => .error exc
  else .ok none

end SendEnv

/-- `send_pkts` goes on with the next packet. -/
def GoesOn {α : Type} : Except SendError α → Prop
  | .ok _ => True
  | .error exc => exc.caught

namespace SendEnv

variable (E : SendEnv)

lemma plain_fragments_iff {fragments : Option (List (List Char × Packet))} :
    (∀ e ∈ (fragments.map fun fs => ("fragments".toList, PyValue.list (fs.map fragmentObj))).toList,
      e.2.Plain) ↔ ∀ fs, fragments = some fs → ∀ f ∈ fs, (PyValue.pkgToDict f.2).Plain := by
  cases fragments with
  | none => simp
  | some fs =>
    have hfragment : ∀ f : List Char × Packet,
        (fragmentObj f).Plain ↔ (PyValue.pkgToDict f.2).Plain := by
      intro f
      rw [fragmentObj, PyValue.plain_dict_iff]
      simp [PyValue.Plain.str]
    simp only [Option.map_some, Option.toList_some, List.forall_mem_singleton,
      PyValue.plain_list_iff, List.forall_mem_map, hfragment, Option.some.injEq, forall_eq']

lemma plain_sendObj_iff {time : UInt64} {pkg : Packet}
    {fragments : Option (List (List Char × Packet))} : (sendObj time pkg fragments).Plain ↔
      (PyValue.pkgToDict pkg).Plain ∧
        ∀ fs, fragments = some fs → ∀ f ∈ fs, (PyValue.pkgToDict f.2).Plain := by
  rw [sendObj, PyValue.plain_dict_iff, List.forall_mem_append, plain_fragments_iff]
  simp [PyValue.Plain.float]

variable {E} in
lemma trySend_unlimited {pkg : Packet} (h : E.wanted pkg) (closed : Bool) (time : UInt64)
    (fragments : Option (List (List Char × Packet))) :
    E.trySend .unlimited closed time pkg fragments =
      match PyValue.dumps none E.floatText (sendObj time pkg fragments) with
      | .ok text => if closed then .error .webSocketClosed else .ok (some text)
      | .error exc => .error exc := by
  have hdeep : (pkg :: (fragments.getD []).map Prod.snd).any
      (fun p => Limits.unlimited.tooDeep (.pkg p)) = false := by
    simp [Limits.tooDeep, Limits.unlimited]
  rw [trySend, if_pos h, hdeep]
  rfl

variable {E} in
lemma trySend_ne_ok_none {pkg : Packet} (h : E.wanted pkg) (closed : Bool) (time : UInt64)
    (fragments : Option (List (List Char × Packet))) :
    E.trySend .unlimited closed time pkg fragments ≠ .ok none := by
  rw [trySend_unlimited h]
  cases PyValue.dumps none E.floatText (sendObj time pkg fragments) with
  | error exc => simp
  | ok text => cases closed <;> simp

variable {E} in
/-- A packet that is sent stops `send_pkts` exactly when its object is not plain. -/
lemma goesOn_trySend_iff {pkg : Packet} (h : E.wanted pkg) {closed : Bool} {time : UInt64}
    {fragments : Option (List (List Char × Packet))} :
    GoesOn (E.trySend .unlimited closed time pkg fragments) ↔
      (sendObj time pkg fragments).Plain := by
  rw [trySend_unlimited h, ← @PyValue.isOk_dumps_iff E.floatText]
  cases hdumps : PyValue.dumps none E.floatText (sendObj time pkg fragments) with
  | error exc =>
    obtain rfl := PyValue.typeError_of_dumps hdumps
    exact iff_of_false Bool.false_ne_true Bool.false_ne_true
  | ok text =>
    apply iff_of_true _ rfl
    cases closed <;> trivial

variable {E} in
lemma goesOn_iff_converts {pkg : Packet} (h : E.wanted pkg) {closed : Bool} {time : UInt64}
    {fragments : Option (List (List Char × Packet))} :
    GoesOn (E.trySend .unlimited closed time pkg fragments) ↔ PyValue.Converts (.pkg pkg) ∧
      ∀ fs, fragments = some fs → ∀ f ∈ fs, PyValue.Converts (.pkg f.2) := by
  rw [goesOn_trySend_iff h, plain_sendObj_iff]
  simp only [← PyValue.plain_toJsonParsable_iff, PyValue.toJsonParsable, PyValue.pkgToDict]

/-- A packet of scapy that the interpreter's limits admit. -/
structure Sendable (L : Limits) (pkg : Packet) : Prop where
  ofScapy : PyValue.OfScapy (.pkg pkg)
  admits : L.Admits (.pkg pkg)

/-- The packet is converted completely, and with any fragments of its kind `json.dumps` has a text
and `_try_send` does not stop `send_pkts`. -/
structure Serialised (L : Limits) (pkg : Packet) : Prop where
  plain : (PyValue.pkgToDict pkg).Plain
  dumps : ∀ time fragments, (∀ fs, fragments = some fs → ∀ f ∈ fs, Sendable L f.2) →
    (PyValue.dumps L.maxDigits E.floatText (sendObj time pkg fragments)).isOk
  goesOn : ∀ closed time fragments, (∀ fs, fragments = some fs → ∀ f ∈ fs, Sendable L f.2) →
    GoesOn (E.trySend L closed time pkg fragments)

variable {E} {L : Limits} {pkg : Packet}

lemma Sendable.isOk_dumps (h : Sendable L pkg) :
    (PyValue.dumps L.maxDigits E.floatText (PyValue.pkgToDict pkg)).isOk :=
  h.ofScapy.isOk_dumps h.admits.2

lemma isOk_dumps_sendObj (h : Sendable L pkg) (time : UInt64)
    {fragments : Option (List (List Char × Packet))}
    (hfragments : ∀ fs, fragments = some fs → ∀ f ∈ fs, Sendable L f.2) :
    (PyValue.dumps L.maxDigits E.floatText (sendObj time pkg fragments)).isOk := by
  rw [sendObj, PyValue.isOk_dumps_dict, List.forall_mem_append]
  constructor
  · intro e he
    rcases List.mem_pair.mp he with rfl | rfl
    · rfl
    · exact h.isOk_dumps
  · cases fragments with
    | none => simp
    | some fs =>
      simp only [Option.map_some, Option.toList_some, List.forall_mem_singleton]
      rw [PyValue.isOk_dumps_list, List.forall_mem_map]
      intro f hf
      rw [fragmentObj, PyValue.isOk_dumps_dict]
      intro e he
      rcases List.mem_pair.mp he with rfl | rfl
      · rfl
      · exact (hfragments fs rfl f hf).isOk_dumps

lemma goesOn_trySend (h : Sendable L pkg) (closed : Bool) (time : UInt64)
    {fragments : Option (List (List Char × Packet))}
    (hfragments : ∀ fs, fragments = some fs → ∀ f ∈ fs, Sendable L f.2) :
    GoesOn (E.trySend L closed time pkg fragments) := by
  have hdeep : (pkg :: (fragments.getD []).map Prod.snd).any
      (fun p => L.tooDeep (.pkg p)) = false := by
    rw [List.any_eq_false, List.forall_mem_cons, List.forall_mem_map]
    refine ⟨by simp [h.admits.1], fun f hf => ?_⟩
    cases fragments with
    | none => cases hf
    | some fs => simp [(hfragments fs rfl f hf).admits.1]
  have hok := isOk_dumps_sendObj (E := E) h time hfragments
  unfold trySend
  rw [hdeep]
  cases hdumps : PyValue.dumps L.maxDigits E.floatText (sendObj time pkg fragments) with
  | error exc =>
    rw [hdumps] at hok
    cases hok
  | ok text =>
    by_cases hwanted : E.wanted pkg
    · cases closed <;> simp [hwanted, GoesOn, SendError.caught]
    · simp [hwanted, GoesOn]

variable (E) in
/-- Every packet of scapy within the interpreter's limits is converted, serialised and sent. -/
theorem serialised (h : Sendable L pkg) : E.Serialised L pkg where
  plain := (PyValue.plain_toJsonParsable_iff _).mpr h.ofScapy.converts
  dumps time _ hfragments := isOk_dumps_sendObj h time hfragments
  goesOn closed time _ hfragments := goesOn_trySend h closed time hfragments

/-- A layer as scapy dissects it. -/
def dissected (name : List Char) (fields : List (List Char × PyValue)) : PktLayer PyValue :=
  ⟨name, fields, none⟩

def emptyAck : Packet :=
  [dissected "IPv6".toList
    [("version".toList, .int 6), ("tc".toList, .int 0), ("fl".toList, .int 0),
      ("plen".toList, .int 12), ("nh".toList, .int 17), ("hlim".toList, .int 64),
      ("src".toList, .str "fe80::1".toList), ("dst".toList, .str "fe80::2".toList)],
    dissected "UDP".toList
    [("sport".toList, .int 5683), ("dport".toList, .int 5683), ("len".toList, .int 12),
      ("chksum".toList, .int 54321)],
    dissected "CoAP".toList
    [("ver".toList, .int 1), ("type".toList, .int 2), ("tkl".toList, .int 0),
      ("code".toList, .int 0), ("msg_id".toList, .int 7), ("token".toList, .bytes []),
      ("options".toList, .list [.tuple [.str "Size1".toList, .bytes [64]]]),
      ("paymark".toList, .bytes [])]]

def hasLayer (pkg : Packet) (name : List Char) : Bool := pkg.any fun lay => lay.name = name

def byNames : SendEnv where
  wanted pkg :=
    hasLayer pkg "IPv6".toList && (hasLayer pkg "DNS".toList || hasLayer pkg "CoAP".toList)
  floatText _ := "0.0".toList

theorem serialised_emptyAck : byNames.wanted emptyAck ∧
    byNames.Serialised ⟨some 900, some 4300⟩ emptyAck := by
  refine ⟨by decide, serialised byNames ⟨.pkg (by simp [emptyAck, dissected]) ?_, by decide⟩⟩
  have hoptions : PyValue.OfScapy (.list [.tuple [.str "Size1".toList, .bytes [64]]]) :=
    .list (List.forall_mem_singleton.mpr (.tuple (List.forall_mem_cons.mpr
      ⟨.str _, List.forall_mem_singleton.mpr (.bytes _)⟩)))
  simp only [emptyAck, dissected, List.forall_mem_cons, PyValue.OfScapy.int, PyValue.OfScapy.str,
    PyValue.OfScapy.bytes, hoptions]
  simp

end SendEnv

end RiotPlayground
