import MarkupBinding.Keyed
import MarkupBinding.Number.Numeral
/-!
# Expressions

A markup expression such as `{Binding Path, Mode=TwoWay}` is a keyed list of entries in the order
in which their keys first came in. Its type name has a key of its own, an unnamed argument is
addressed by its index from one upwards, and everything else by name. In text an index is written as
a numeral and the key of the type name as `@Type`, so a name that looks like either can not be told
from it; names that start with `@` or consist of digits are therefore reserved. An entry has a
value, or none where a key was written without one.

`insert` writes an entry in place; `push` adds an unnamed argument behind the highest index in use.
`arguments` are the unnamed ones by index, `assignments` the named ones that are not reserved, and
`print` writes the whole as text.

Results:

* `read_text_positional`, `read_text_typeName`, `read_text_named`: an index, the type-name key and a
  name that looks like neither are read back from their texts.
* `eq_of_read_eq_named`, `eq_of_read_eq_typeName`: what is read as a name is that name, and only its
  own text is read as the type-name key.
* `get?_insert`: an insertion is read back and changes no other key.
* `entries_insert_of_new`, `entries_insert_of_first`: a new key goes behind all others, and an entry
  whose key is in use is replaced where it stands.
* `toNat_nextIndex_lastIndex`: the next unnamed argument goes behind the highest index in use.
* `typeName_ofTypeName`: a new expression has the type name it was given.
* `indexed_insert_positional`, `assignments_insert_named`: arguments and assignments are keyed lists
  of their own, and neither sees the other written.
-/
namespace MarkupBinding

/-! ## Keys -/

/-- The key of an entry of an expression. -/
inductive Key where
  | typeName
  | positional (index : UInt64)
  | named (name : String)
deriving DecidableEq

namespace Key

/-- The text of the type-name key. -/
def typeMarker : String := "@Type"

/-- Reads a key. A numeral is an index as long as an index of 64 bits can hold it. -/
def read (text : String) : Key :=
  if text = typeMarker then .typeName
  else if Decimal.isNumeral text.toList && Decimal.value text.toList < UInt64.size then
    .positional (UInt64.ofNat (Decimal.value text.toList))
  else .named text

/-- The text of a key. -/
def text : Key → String
  | .typeName => typeMarker
  | .positional index => String.ofList (Decimal.write index.toNat)
  | .named name => name

/-- Reserved keys are neither arguments nor assignments: the type name, and names that start with
`@` or consist of digits. -/
def isReserved : Key → Bool
  | .typeName => true
  | .positional _ => false
  | .named name => name.toList.head? == some '@' || Decimal.isNumeral name.toList

theorem text_positional_ne_marker (index : UInt64) : (positional index).text ≠ typeMarker := by
  intro h
  have numeral := Decimal.isNumeral_write index.toNat
  rw [← String.toList_inj, text, String.toList_ofList] at h
  rw [h] at numeral
  exact absurd numeral (by decide)

@[simp] theorem read_text_typeName : read typeName.text = typeName := rfl

@[simp] theorem read_text_positional (index : UInt64) :
    read (positional index).text = positional index := by
  rw [read, if_neg (text_positional_ne_marker index)]
  have small : index.toNat < UInt64.size := index.toNat_lt
  simpa [text] using small

theorem read_text_named {name : String} (marker : name ≠ typeMarker)
    (numeral : Decimal.isNumeral name.toList = false) : read (named name).text = named name := by
  simp [read, text, marker, numeral]

theorem eq_of_read_eq_named {name k : String} (h : read name = named k) : k = name := by
  unfold read at h
  split at h
  · exact Key.noConfusion h
  · split at h
    · exact Key.noConfusion h
    · exact (Key.named.inj h).symm

theorem eq_of_read_eq_typeName {name : String} (h : read name = typeName) : name = typeMarker := by
  unfold read at h
  split at h
  · assumption
  · split at h <;> exact Key.noConfusion h

end Key

/-! ## Entries -/

/-- A key with its value; `none` for a key that was written without one. -/
structure Entry where
  key : Key
  value : Option String
deriving DecidableEq

/-- A markup expression: its entries in source order. -/
structure Expression where
  entries : List Entry
deriving DecidableEq

namespace Expression

/-- The expression without entries. -/
def empty : Expression := ⟨[]⟩

/-- Writes an entry; one with the same key is replaced where it stands. -/
def insert (e : Expression) (key : Key) (value : Option String) : Expression :=
  ⟨Keyed.upsert Entry.key ⟨key, value⟩ e.entries⟩

/-- The expression that has a type name only. -/
def ofTypeName (name : String) : Expression := empty.insert .typeName (some name)

/-- The value under a key: absent, or present with or without a value. -/
def get? (e : Expression) (key : Key) : Option (Option String) :=
  (Keyed.get? Entry.key key e.entries).map Entry.value

/-- The value under a key given as text. -/
def lookup (e : Expression) (text : String) : Option (Option String) := e.get? (Key.read text)

/-- The type name; empty if there is none. -/
def typeName (e : Expression) : String := (e.get? .typeName).join.getD ""

/-- The index and value of an entry that has an index. -/
def indexed? (entry : Entry) : Option (UInt64 × Option String) :=
  match entry.key with
  | .positional index => some (index, entry.value)
  | _ => none

/-- The unnamed arguments with their indices, in source order. -/
def indexed (e : Expression) : List (UInt64 × Option String) := e.entries.filterMap indexed?

/-- The highest index in use; zero if there is none. -/
def lastIndex (e : Expression) : UInt64 := e.indexed.foldl (fun m p => max m p.1) 0

/-- The index after another; the highest index is its own successor. -/
def nextIndex (index : UInt64) : UInt64 :=
  if index.toNat + 1 < UInt64.size then index + 1 else index

/-- Adds an unnamed argument behind the highest index in use. -/
def push (e : Expression) (value : Option String) : Expression :=
  e.insert (.positional (nextIndex e.lastIndex)) value

/-- The values of the unnamed arguments, by index. -/
def arguments (e : Expression) : List (Option String) :=
  (e.indexed.mergeSort fun a b => a.1 ≤ b.1).map Prod.snd

/-- The name and value of an entry that assigns to a property. -/
def assigned? (entry : Entry) : Option (String × Option String) :=
  match entry.key with
  | .named name => if entry.key.isReserved then none else some (name, entry.value)
  | _ => none

/-- The named entries that are not reserved, in source order. -/
def assignments (e : Expression) : List (String × Option String) := e.entries.filterMap assigned?

/-! ## Laws -/

@[ext] theorem ext {a b : Expression} (h : a.entries = b.entries) : a = b := by
  cases a
  cases b
  exact congrArg Expression.mk h

@[simp] theorem indexed?_positional (index : UInt64) (value : Option String) :
    indexed? ⟨.positional index, value⟩ = some (index, value) := rfl

@[simp] theorem indexed?_typeName (value : Option String) :
    indexed? ⟨.typeName, value⟩ = none := rfl

@[simp] theorem indexed?_named (name : String) (value : Option String) :
    indexed? ⟨.named name, value⟩ = none := rfl

@[simp] theorem get?_insert (e : Expression) (key : Key) (value : Option String) (k : Key) :
    (e.insert key value).get? k = if k = key then some value else e.get? k := by
  simp only [get?, insert, Keyed.get?_upsert]
  split <;> rfl

theorem entries_insert_of_new {e : Expression} {key : Key} (new : key ∉ e.entries.map Entry.key)
    (value : Option String) : (e.insert key value).entries = e.entries ++ [⟨key, value⟩] :=
  Keyed.upsert_of_not_mem new

theorem entries_insert_of_first {e : Expression} {key : Key} {before after : List Entry}
    {old : Option String} (used : e.entries = before ++ ⟨key, old⟩ :: after)
    (first : key ∉ before.map Entry.key) (value : Option String) :
    (e.insert key value).entries = before ++ ⟨key, value⟩ :: after := by
  have same : (⟨key, old⟩ : Entry).key = (⟨key, value⟩ : Entry).key := rfl
  have others : ∀ c ∈ before, c.key ≠ (⟨key, value⟩ : Entry).key := by
    rintro c mem rfl
    exact first (List.mem_map_of_mem mem)
  rw [insert, used]
  exact Keyed.upsert_of_first same others after

theorem get?_ofTypeName (name : String) (k : Key) :
    (ofTypeName name).get? k = if k = .typeName then some (some name) else none := by
  rw [ofTypeName, get?_insert]
  rfl

@[simp] theorem typeName_ofTypeName (name : String) : (ofTypeName name).typeName = name := by
  simp [typeName, get?_ofTypeName]

theorem typeName_insert_of_ne {key : Key} (h : key ≠ .typeName) (e : Expression)
    (value : Option String) : (e.insert key value).typeName = e.typeName := by
  simp [typeName, Ne.symm h]

@[simp] theorem typeName_push (e : Expression) (value : Option String) :
    (e.push value).typeName = e.typeName :=
  typeName_insert_of_ne (by simp) e value

theorem length_arguments (e : Expression) : e.arguments.length = e.indexed.length := by
  simp [arguments]

/-! ## The next index -/

theorem toNat_max (a b : UInt64) : (max a b).toNat = max a.toNat b.toNat := by
  have cases : max a b = if a ≤ b then b else a := rfl
  rw [cases]
  split
  · next h => rw [UInt64.le_iff_toNat_le] at h; omega
  · next h => rw [UInt64.le_iff_toNat_le] at h; omega

theorem toNat_foldl_max (l : List (UInt64 × Option String)) (m : UInt64) :
    (l.foldl (fun m p => max m p.1) m).toNat =
      (l.map fun p => p.1.toNat).foldl max m.toNat := by
  induction l generalizing m with
  | nil => rfl
  | cons p l ih => rw [List.foldl_cons, ih, toNat_max, List.map_cons, List.foldl_cons]

/-- The index of the next unnamed argument is one more than the highest in use, or one if there is
none; the highest index of all is used again. -/
theorem toNat_nextIndex_lastIndex (e : Expression) :
    (nextIndex e.lastIndex).toNat =
      min ((e.indexed.map fun p => p.1.toNat).foldl max 0 + 1) (UInt64.size - 1) := by
  have last : e.lastIndex.toNat = (e.indexed.map fun p => p.1.toNat).foldl max 0 :=
    toNat_foldl_max e.indexed 0
  have small : e.lastIndex.toNat < UInt64.size := e.lastIndex.toNat_lt
  rw [← last, nextIndex]
  split
  · next room =>
    have size : e.lastIndex.toNat + 1 < 2 ^ 64 := room
    rw [UInt64.toNat_add, UInt64.toNat_one, Nat.mod_eq_of_lt size]
    omega
  · omega

/-! ## Arguments and assignments are written apart -/

theorem indexed_insert_positional (e : Expression) (index : UInt64) (value : Option String) :
    (e.insert (.positional index) value).indexed =
      Keyed.upsert Prod.fst (index, value) e.indexed := by
  have shown : ∀ entry : Entry, entry.key = .positional index → (indexed? entry).isSome := by
    intro entry key
    simp [indexed?, key]
  have keys : ∀ (entry : Entry) (p : UInt64 × Option String), indexed? entry = some p →
      (p.1 = index ↔ entry.key = .positional index) := by
    rintro ⟨key, v⟩ p h
    cases key with
    | positional i => simp [← Option.some.inj h]
    | typeName => cases h
    | named name => cases h
  exact Keyed.filterMap_upsert_of_some (indexed?_positional index value) shown keys e.entries

theorem indexed_insert_named (e : Expression) (name : String) (value : Option String) :
    (e.insert (.named name) value).indexed = e.indexed := by
  have hidden : ∀ entry : Entry, entry.key = .named name → indexed? entry = none := by
    intro entry key
    simp [indexed?, key]
  exact Keyed.filterMap_upsert_of_none hidden e.entries

theorem assignments_insert_positional (e : Expression) (index : UInt64) (value : Option String) :
    (e.insert (.positional index) value).assignments = e.assignments := by
  have hidden : ∀ entry : Entry, entry.key = .positional index → assigned? entry = none := by
    intro entry key
    simp [assigned?, key]
  exact Keyed.filterMap_upsert_of_none hidden e.entries

theorem assignments_insert_named {name : String} (unreserved : (Key.named name).isReserved = false)
    (e : Expression) (value : Option String) :
    (e.insert (.named name) value).assignments =
      Keyed.upsert Prod.fst (name, value) e.assignments := by
  have here : assigned? ⟨.named name, value⟩ = some (name, value) := by simp [assigned?, unreserved]
  have shown : ∀ entry : Entry, entry.key = .named name → (assigned? entry).isSome := by
    intro entry key
    simp [assigned?, key, unreserved]
  have keys : ∀ (entry : Entry) (p : String × Option String), assigned? entry = some p →
      (p.1 = name ↔ entry.key = .named name) := by
    rintro ⟨key, v⟩ p h
    cases key with
    | named k =>
      cases reserved : (Key.named k).isReserved with
      | true => simp [assigned?, reserved] at h
      | false =>
        have p_eq : (k, v) = p := by simpa [assigned?, reserved] using h
        simp [← p_eq]
    | typeName => cases h
    | positional index => cases h
  exact Keyed.filterMap_upsert_of_some here shown keys e.entries

/-! ## Text -/

/-- An entry as it is written; the type name is written elsewhere. -/
def printed? (entry : Entry) : Option (List Char) :=
  let value := (entry.value.getD "").toList
  match entry.key with
  | .typeName => none
  | .positional _ => some value
  | .named name => some (name.toList ++ '=' :: value)

/-- The entries behind the type name, separated by commas. -/
def printedEntries (e : Expression) : List Char :=
  match e.entries.filterMap printed? with
  | [] => []
  | texts => ' ' :: [',', ' '].intercalate texts

/-- The expression in braces. -/
def print (e : Expression) : String :=
  String.ofList ('{' :: e.typeName.toList ++ e.printedEntries ++ ['}'])

end Expression

end MarkupBinding
