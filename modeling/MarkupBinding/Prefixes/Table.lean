import MarkupBinding.Keyed
import MarkupBinding.Namespace.Identifier
import MarkupBinding.Number.Numeral
/-!
# Prefix tables

A document binds prefixes to namespaces; the empty prefix stands for the default namespace. A
prefix table keeps the bindings in the order in which their prefixes first came in, and remembers
the prefix that was allocated last. No two bindings share a prefix, but a namespace may have
several. `allocate` gives a namespace its first prefix, or a free one if it has none.

A table starts in one of three ways and is then edited step by step. `Edit` has the edits as data,
`run` applies a list of them, and `Reachable` says which tables some history leads to.

Results:

* `namespaceOf?_bind`: a binding is read back and changes no other prefix.
* `allocate_of_bound`, `allocate_of_unbound`: what an allocation does to the table.
* `reachable_run`: what a list of edits makes of a reachable table is reachable.
-/
namespace MarkupBinding

/-! ## Numbered prefixes

When a prefix is taken, a numbered one takes its place: `s` is followed by `s1`, `s1` by `s2` and
`s09` by `s10`. A number that 64 bits cannot hold is not counted on, but gets another digit `1`. -/

/-- The digits at the end of a text. -/
def trailingDigits (s : List Char) : List Char := (s.reverse.takeWhile Char.isDigit).reverse

/-- The text before the digits at its end. -/
def numberStem (s : List Char) : List Char := (s.reverse.dropWhile Char.isDigit).reverse

/-- The characters of the prefix that follows another one. -/
def nextNumberedChars (s : List Char) : List Char :=
  let digits := trailingDigits s
  if digits ≠ [] ∧ Decimal.value digits + 1 < UInt64.size then
    numberStem s ++ Decimal.write (Decimal.value digits + 1)
  else s ++ ['1']

/-- The prefix that follows another one. -/
def nextNumbered (pfx : String) : String := String.ofList (nextNumberedChars pfx.toList)

/-- The first prefix, from a candidate on, that is not taken. What has been passed is struck from
the list, since the order never comes back to it. -/
def firstFree (taken : List String) (candidate : String) : String :=
  if candidate ∈ taken then firstFree (taken.erase candidate) (nextNumbered candidate)
  else candidate
termination_by taken.length
decreasing_by
  rename_i h
  have pos := List.length_pos_of_mem h
  rw [List.length_erase_of_mem h]
  omega

theorem numberStem_append_trailingDigits (s : List Char) :
    numberStem s ++ trailingDigits s = s := by
  rw [numberStem, trailingDigits, ← List.reverse_append, List.takeWhile_append_dropWhile,
    List.reverse_reverse]

/-! ## Tables -/

/-- A prefix bound to a namespace. -/
structure Binding where
  pfx : String
  ns : String
deriving DecidableEq

/-- The bindings of a document, in the order of their prefixes. -/
structure PrefixTable where
  bindings : List Binding
  /-- The prefix that the latest allocation introduced. -/
  lastAllocated : Option String
deriving DecidableEq

/-- The prefix that a namespace was given, and whether it was bound for that. -/
structure Allocation where
  pfx : String
  isNew : Bool
deriving DecidableEq

namespace PrefixTable

/-- The table without bindings. -/
def empty : PrefixTable := ⟨[], none⟩

/-- The namespace that a prefix is bound to. -/
def namespaceOf? (t : PrefixTable) (pfx : String) : Option String :=
  (Keyed.get? Binding.pfx pfx t.bindings).map Binding.ns

/-- The first prefix that is bound to a namespace. -/
def prefixOf? (t : PrefixTable) (ns : String) : Option String :=
  (t.bindings.find? fun b => b.ns = ns).map Binding.pfx

/-- The namespace of names without a prefix. -/
def defaultNamespace? (t : PrefixTable) : Option String := t.namespaceOf? ""

/-- Binds a prefix, in place of what it was bound to. -/
def bind (t : PrefixTable) (pfx ns : String) : PrefixTable :=
  { t with bindings := Keyed.upsert Binding.pfx ⟨pfx, ns⟩ t.bindings }

/-- Takes out the binding of a prefix. -/
def unbind (t : PrefixTable) (pfx : String) : PrefixTable :=
  { t with bindings := Keyed.erase Binding.pfx pfx t.bindings }

/-- Binds pairs of a prefix and a namespace one after another. -/
def bindAll (t : PrefixTable) (pairs : List (String × String)) : PrefixTable :=
  pairs.foldl (fun t p => t.bind p.1 p.2) t

/-- Binds the conventional prefixes. -/
def bindCommon (t : PrefixTable) : PrefixTable := t.bindAll Namespace.common

/-- The table of a new document: the default namespace is that of presentation markup. -/
def presentation : PrefixTable := empty.bind "" Namespace.presentation

/-- Binds a prefix unless it is bound. -/
def declare (t : PrefixTable) (pfx ns : String) : PrefixTable :=
  if (t.namespaceOf? pfx).isSome then t else t.bind pfx ns

/-- The table of nested declaration scopes, the innermost first: inner declarations win. -/
def ofScopes (scopes : List (List (String × String))) : PrefixTable :=
  scopes.flatten.foldl (fun t p => t.declare p.1 p.2) empty

/-- The table of a nested context: the same bindings, and nothing allocated yet. -/
def child (t : PrefixTable) : PrefixTable := { t with lastAllocated := none }

/-- The bound prefixes in order. -/
def boundPrefixes (t : PrefixTable) : List String := t.bindings.map Binding.pfx

/-- The bound prefixes in order, with the empty one or without it. -/
def prefixes (t : PrefixTable) (includeDefault : Bool) : List String :=
  t.boundPrefixes.filter fun pfx => includeDefault || pfx ≠ ""

/-- Gives a namespace a prefix: the first one that it has, or else the suggested one or a numbered
one after it, whichever is free. -/
def allocate (t : PrefixTable) (ns suggested : String) : Allocation × PrefixTable :=
  match t.prefixOf? ns with
  | some pfx => (⟨pfx, false⟩, t)
  | none =>
    let pfx := firstFree t.boundPrefixes suggested
    (⟨pfx, true⟩, { t.bind pfx ns with lastAllocated := some pfx })

/-! ## Laws -/

theorem namespaceOf?_bind (t : PrefixTable) (pfx ns p : String) :
    (t.bind pfx ns).namespaceOf? p = if p = pfx then some ns else t.namespaceOf? p := by
  simp only [namespaceOf?, bind, Keyed.get?_upsert]
  split <;> rfl

theorem namespaceOf?_unbind_of_ne {pfx p : String} (h : p ≠ pfx) (t : PrefixTable) :
    (t.unbind pfx).namespaceOf? p = t.namespaceOf? p := by
  simp only [namespaceOf?, unbind, Keyed.get?_erase_of_ne h]

@[simp] theorem namespaceOf?_child (t : PrefixTable) (p : String) :
    t.child.namespaceOf? p = t.namespaceOf? p := rfl

theorem namespaceOf?_eq_none_iff {t : PrefixTable} {p : String} :
    t.namespaceOf? p = none ↔ p ∉ t.boundPrefixes := by
  simp [namespaceOf?, boundPrefixes, Keyed.get?_eq_none_iff]

theorem allocate_of_bound {t : PrefixTable} {ns pfx : String} (h : t.prefixOf? ns = some pfx)
    (suggested : String) : t.allocate ns suggested = (⟨pfx, false⟩, t) := by
  simp [allocate, h]

theorem allocate_of_unbound {t : PrefixTable} {ns : String} (h : t.prefixOf? ns = none)
    (suggested : String) :
    t.allocate ns suggested =
      (⟨firstFree t.boundPrefixes suggested, true⟩,
        { t.bind (firstFree t.boundPrefixes suggested) ns with
          lastAllocated := some (firstFree t.boundPrefixes suggested) }) := by
  simp [allocate, h]

/-! ## Histories -/

/-- How a table starts. -/
inductive Start where
  | empty
  | presentation
  | scopes (declared : List (List (String × String)))

/-- The table that a start gives. -/
def Start.table : Start → PrefixTable
  | .empty => PrefixTable.empty
  | .presentation => PrefixTable.presentation
  | .scopes declared => ofScopes declared

/-- A change of a table. -/
inductive Edit where
  | bind (pfx ns : String)
  | unbind (pfx : String)
  | common
  | allocate (ns suggested : String)
  | child

/-- The table after a change. -/
def Edit.apply (t : PrefixTable) : Edit → PrefixTable
  | .bind pfx ns => t.bind pfx ns
  | .unbind pfx => t.unbind pfx
  | .common => t.bindCommon
  | .allocate ns suggested => (t.allocate ns suggested).2
  | .child => t.child

/-- The table after a list of changes. -/
def run (t : PrefixTable) (edits : List Edit) : PrefixTable := edits.foldl Edit.apply t

/-- The tables that some start and some changes lead to. -/
inductive Reachable : PrefixTable → Prop where
  | start (s : Start) : Reachable s.table
  | edit {t : PrefixTable} (h : Reachable t) (e : Edit) : Reachable (e.apply t)

theorem reachable_run {t : PrefixTable} (h : Reachable t) (edits : List Edit) :
    Reachable (t.run edits) := by
  induction edits generalizing t with
  | nil => exact h
  | cons e es ih => exact ih (h.edit e)

end PrefixTable

end MarkupBinding
