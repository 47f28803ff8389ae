import MarkupBinding.Proofs.Prefixes.Spelling
/-!
# What a naming leaves behind

A type may be named by a prefix that was bound to its namespace, by one that was bound to another
spelling of it, or by one that is bound on the spot. In each case the text is the name behind the
prefix of some binding of the table that is left behind, and that binding is to a spelling of the
type's namespace (`NamedBy`). Nothing that was bound before is lost.

A class of texts that the document's own prefixes belong to (`MadeUp`) is never left: if all
prefixes that are bound, reserved or preferred are in it (`Spells`), then so are all prefixes that
are bound afterwards.

Results:

* `nameOrBind_cases`: all that naming a type can do.
* `namedBy_nameOf`: every name that is given is that of a binding.
* `forall_bound_nameOf`: naming stays in a class of prefixes.
-/
namespace MarkupBinding

open PrefixTable

/-- The binding that is made for a type whose namespace has no prefix. -/
def newBinding (aliases : Aliases) (head : TypeHead) (t : PrefixTable) : Binding :=
  ⟨firstFree t.boundPrefixes (aliases.suggest head), head.ns⟩

/-- A naming names a type by a binding. -/
structure NamedBy (head : TypeHead) (b : Binding) (n : Naming) : Prop where
  bound : b ∈ n.table.bindings
  sameNamespace : canonicalNamespace b.ns = head.ns
  text : n.text = qualify b.pfx head.name

/-! ## Prefixes of a namespace -/

theorem exists_of_prefixOfAny? {t : PrefixTable} {ns pfx : String}
    (canonical : canonicalNamespace ns = ns) (h : t.prefixOfAny? ns = some pfx) :
    ∃ b ∈ t.bindings, b.pfx = pfx ∧ canonicalNamespace b.ns = ns := by
  rcases Option.or_eq_some_iff.1 h with h | ⟨-, h⟩
  · exact ⟨_, mem_of_prefixOf? h, rfl, canonical⟩
  · obtain ⟨b, hb, rfl⟩ := Option.map_eq_some_iff.1 h
    exact ⟨b, List.mem_of_find?_eq_some hb, rfl, by simpa using List.find?_some hb⟩

theorem ne_of_prefixOfAny? {t : PrefixTable} {ns : String} (h : t.prefixOfAny? ns = none) :
    ∀ b ∈ t.bindings, canonicalNamespace b.ns ≠ ns := by
  have none := (Option.or_eq_none_iff.1 h).2
  simpa using none

/-! ## Naming a type -/

theorem nameIn?_cases (head : TypeHead) (t : PrefixTable) :
    (∃ b ∈ t.bindings, canonicalNamespace b.ns = head.ns ∧
      nameIn? head t = some (qualify b.pfx head.name)) ∨
    ((∀ b ∈ t.bindings, canonicalNamespace b.ns ≠ head.ns) ∧ nameIn? head t = none) := by
  unfold nameIn?
  cases h : t.prefixOfAny? head.ns with
  | some pfx =>
    obtain ⟨b, hb, rfl, hns⟩ := exists_of_prefixOfAny? head.id.canonical h
    exact Or.inl ⟨b, hb, hns, rfl⟩
  | none => exact Or.inr ⟨ne_of_prefixOfAny? h, rfl⟩

theorem nameOrBind_cases (aliases : Aliases) (head : TypeHead) (t : PrefixTable) :
    (∃ b ∈ t.bindings, canonicalNamespace b.ns = head.ns ∧
      nameOrBind aliases head t = ⟨qualify b.pfx head.name, t, []⟩) ∨
    ((∀ b ∈ t.bindings, canonicalNamespace b.ns ≠ head.ns) ∧
      nameOrBind aliases head t =
        ⟨qualify (newBinding aliases head t).pfx head.name,
          t.allocated (newBinding aliases head t),
          [.forType (newBinding aliases head t) head.name]⟩) := by
  obtain ⟨b, hb, hns, e⟩ | ⟨other, e⟩ := nameIn?_cases head t
  · exact Or.inl ⟨b, hb, hns, nameOrBind_of_bound e aliases⟩
  · have unbound : t.prefixOf? head.ns = none := by
      refine prefixOf?_eq_none_iff.2 fun b hb same => other b hb ?_
      rw [same]
      exact head.id.canonical
    obtain ⟨pfx, h, -⟩ | ⟨-, allocated⟩ := allocate_cases t head.ns (aliases.suggest head)
    · rw [unbound] at h
      cases h
    · refine Or.inr ⟨other, ?_⟩
      rw [nameOrBind, e, allocated]
      rfl

theorem namedBy_nameOrBind (aliases : Aliases) (head : TypeHead) (t : PrefixTable) :
    ∃ b, NamedBy head b (nameOrBind aliases head t) := by
  obtain ⟨b, hb, hns, e⟩ | ⟨-, e⟩ := nameOrBind_cases aliases head t
  · rw [e]
    exact ⟨b, hb, hns, rfl⟩
  · rw [e]
    exact ⟨_, List.mem_append_right _ (List.mem_singleton_self _), head.id.canonical, rfl⟩

/-- A name that is given without binding a prefix is the one that is given with it. -/
theorem eq_nameOrBind_of_nameOf {aliases : Aliases} {head : TypeHead} {t : PrefixTable}
    {mayBind : Bool} {n : Naming} (h : nameOf aliases head t mayBind = .ok n) :
    n = nameOrBind aliases head t := by
  cases mayBind with
  | true =>
    rw [nameOf, if_pos rfl] at h
    exact (Except.ok.inj h).symm
  | false =>
    rw [nameOf, if_neg Bool.false_ne_true] at h
    split at h
    · next text e => rw [nameOrBind_of_bound e, Except.ok.inj h]
    · cases h

theorem namedBy_nameOf {aliases : Aliases} {head : TypeHead} {t : PrefixTable} {mayBind : Bool}
    {n : Naming} (h : nameOf aliases head t mayBind = .ok n) : ∃ b, NamedBy head b n := by
  rw [eq_nameOrBind_of_nameOf h]
  exact namedBy_nameOrBind aliases head t

/-! ## Classes of prefixes -/

/-- The prefixes that a document makes up by itself belong to the class. -/
structure MadeUp (P : String → Prop) : Prop where
  next : ∀ pfx, P pfx → P (nextNumbered pfx)
  derived : ∀ ns, P (derivedPrefix ns)
  language : P languagePrefix

/-- The prefixes that may occur in the name of a type belong to the class, and so does the name. -/
structure Spells (P : String → Prop) (aliases : Aliases) (head : TypeHead) (t : PrefixTable) :
    Prop where
  bound : ∀ b ∈ t.bindings, P b.pfx
  reserved : ∀ a ∈ aliases.entries, P a.pfx
  preferred : ∀ pfx ∈ head.preferredPrefix, P pfx
  name : P head.name

theorem Spells.imp {P Q : String → Prop} (le : ∀ s, P s → Q s) {aliases : Aliases}
    {head : TypeHead} {t : PrefixTable} (h : Spells P aliases head t) :
    Spells Q aliases head t where
  bound := fun b hb => le _ (h.bound b hb)
  reserved := fun a ha => le _ (h.reserved a ha)
  preferred := fun pfx hp => le _ (h.preferred pfx hp)
  name := le _ h.name

theorem madeUp_namePart : MadeUp NamePart where
  next := fun _ h => h.next
  derived := fun ns => (plain_derivedPrefix ns).namePart
  language := (by decide : Plain languagePrefix).namePart

theorem madeUp_plain : MadeUp Plain where
  next := fun _ h => h.next
  derived := plain_derivedPrefix
  language := by decide

theorem madeUp_ne_empty : MadeUp (· ≠ "") where
  next := fun pfx _ => nextNumbered_ne_empty pfx
  derived := derivedPrefix_ne_empty
  language := by decide

theorem Aliases.suggest_induct {P : String → Prop} {aliases : Aliases} {head : TypeHead}
    (reserved : ∀ a ∈ aliases.entries, P a.pfx)
    (preferred : ∀ pfx ∈ head.preferredPrefix, pfx ≠ "" → P pfx)
    (derived : P (derivedPrefix head.ns)) : P (aliases.suggest head) := by
  unfold suggest
  split
  · next pfx e =>
    obtain ⟨a, ha, rfl⟩ := Option.map_eq_some_iff.1 e
    exact reserved a (Keyed.mem_of_get?_eq_some ha)
  · split
    · next pfx e =>
      obtain ⟨h, ne⟩ := Option.filter_eq_some_iff.1 e
      exact preferred pfx h (by simpa using ne)
    · exact derived

/-- A preferred prefix counts only if it is not empty, and none is made up. -/
theorem newBinding_pfx_ne_empty {aliases : Aliases} (reserved : ∀ a ∈ aliases.entries, a.pfx ≠ "")
    (head : TypeHead) (t : PrefixTable) : (newBinding aliases head t).pfx ≠ "" := by
  have suggested : aliases.suggest head ≠ "" :=
    Aliases.suggest_induct (P := (· ≠ "")) reserved (fun _ _ ne => ne)
      (madeUp_ne_empty.derived head.ns)
  exact firstFree_induct madeUp_ne_empty.next t.boundPrefixes suggested

section Classes

variable {P : String → Prop} {aliases : Aliases} {head : TypeHead} {t : PrefixTable}

theorem forall_bound_nameOrBind (h : Spells P aliases head t) (made : MadeUp P) :
    ∀ b ∈ (nameOrBind aliases head t).table.bindings, P b.pfx := by
  obtain ⟨_, -, -, e⟩ | ⟨-, e⟩ := nameOrBind_cases aliases head t
  · rw [e]
    exact h.bound
  · rw [e]
    intro b hb
    rcases List.mem_append.1 hb with hb | hb
    · exact h.bound b hb
    · have suggested := Aliases.suggest_induct h.reserved (fun pfx hp _ => h.preferred pfx hp)
        (made.derived head.ns)
      rw [List.mem_singleton.1 hb]
      exact firstFree_induct made.next t.boundPrefixes suggested

theorem forall_bound_nameOf (h : Spells P aliases head t) (made : MadeUp P) {mayBind : Bool}
    {n : Naming} (named : nameOf aliases head t mayBind = .ok n) :
    ∀ b ∈ n.table.bindings, P b.pfx := by
  rw [eq_nameOrBind_of_nameOf named]
  exact forall_bound_nameOrBind h made

end Classes

end MarkupBinding
