import MarkupBinding.Proofs.Resolution.Naming
import MarkupBinding.Resolution.Lookup
/-!
# Names and type keys are read back

What is written to name a type in a document is read as that type again, within a type wrapper as
well as without one.

Results:

* `find?_of_mem`: a registered type is found under every spelling of its namespace.
* `resolve_of_unwrap`: the name of a registered type behind the prefix of a binding resolves.
* `resolve_nameOf`: what naming a type gives resolves to that type.
* `unwrap_wrapped`: a wrapper comes off exactly if its prefix is not empty.
* `resolve_wrap`: what the wrapped name of a type resolves to.
* `resolve_markup_type`: what the key of a type resolves to, whatever the markup language is bound
  to.
-/
/-! ## Names are read back

A name that was given to a type leads back to the type. The prefix is looked up to the namespace of
its binding because prefixes are distinct, and the type is found under that namespace because its
canonical form is that of the type's. Nothing depends on how the prefix was found, so it is enough
that a text is, within its wrapper if it has one, the name behind the prefix of some binding. -/

namespace MarkupBinding

open Text PrefixTable

namespace Catalogue

variable {ι β : Type}

/-- The catalogues that registrations lead to. -/
inductive Reachable : Catalogue ι β → Prop where
  | empty : Reachable Catalogue.empty
  | register {types : Catalogue ι β} (h : Reachable types) (d : TypeDecl ι β) :
    Reachable (types.register d)

/-- No two types share an identity. -/
def Distinct (types : Catalogue ι β) : Prop := (types.decls.map TypeDecl.id).Nodup

theorem distinct_of_reachable {types : Catalogue ι β} (h : Reachable types) : Distinct types := by
  induction h with
  | empty => exact List.nodup_nil
  | register _ d ih => exact Keyed.nodup_upsert ih

theorem find?_of_mem {types : Catalogue ι β} (h : Distinct types) {d : TypeDecl ι β}
    (hd : d ∈ types.decls) {ns : String} (hns : canonicalNamespace ns = d.ns) :
    types.find? ns d.name = some d := by
  have canonical : canonicalNamespace d.id.ns = d.ns := d.id.canonical
  have same : TypeId.of ns d.name = d.id := by
    rw [← TypeId.of_ns_name d.id]
    exact TypeId.of_eq_of_iff.2 ⟨hns.trans canonical.symm, rfl⟩
  rw [find?, same]
  exact Keyed.get?_of_mem h hd

theorem resolve_of_unbound (types : Catalogue ι β) {text pfx : String} {t : PrefixTable}
    (read : (QualifiedName.read (TypeWrapper.unwrap text)).pfx = some pfx)
    (unbound : t.namespaceOf? pfx = none) :
    types.resolve text t = .error (.unknownPrefix pfx) := by
  simp only [resolve, namespaceFor, read, unbound]

end Catalogue

/-! ### From a name to its type -/

/-- A name behind a prefix leads to the namespace of the prefix, the empty one included. -/
theorem namespaceFor_read {t : PrefixTable} {pfx name ns : String}
    (bound : t.namespaceOf? pfx = some ns) (hp : NamePart pfx) (hn : NamePart name) :
    Catalogue.namespaceFor t (.read (qualify pfx name)) = .ok ns ∧
      (QualifiedName.read (qualify pfx name)).name = name := by
  by_cases h : pfx = ""
  -- The empty prefix is not written, so it is the default namespace that is asked for.
  · subst h
    have read : QualifiedName.read (qualify "" name) = ⟨none, name⟩ := by
      rw [qualify, if_pos rfl]
      exact QualifiedName.read_of_no_colon hn.noColon hn.trimmed
    rw [read]
    exact ⟨by simp [Catalogue.namespaceFor, defaultNamespace?, bound], rfl⟩
  · rw [QualifiedName.read_qualify h hp.noColon hp.trimmed hn.trimmed]
    exact ⟨by simp [Catalogue.namespaceFor, bound], rfl⟩

theorem resolve_of_unwrap {ι β : Type} {types : Catalogue ι β} (built : types.Reachable)
    {d : TypeDecl ι β} (registered : d ∈ types.decls) {t : PrefixTable} (reachable : Reachable t)
    {b : Binding} (hb : b ∈ t.bindings) (hns : canonicalNamespace b.ns = d.ns)
    (hp : NamePart b.pfx) (hn : NamePart d.name) {text : String}
    (unwrapped : TypeWrapper.unwrap text = qualify b.pfx d.name) :
    types.resolve text t = .ok d := by
  have bound := namespaceOf?_of_mem (distinct_of_reachable reachable) hb
  obtain ⟨ns, name⟩ := namespaceFor_read bound hp hn
  have found := Catalogue.find?_of_mem (Catalogue.distinct_of_reachable built) registered hns
  simp only [Catalogue.resolve, unwrapped, ns, name]
  exact Catalogue.lookup_eq_ok_iff.2 found

/-! ### There and back -/

theorem trim_qualify {pfx name : String} (hp : NamePart pfx) (hn : NamePart name) :
    trim (qualify pfx name).toList = (qualify pfx name).toList := by
  by_cases h : pfx = ""
  · rw [qualify, if_pos h]
    exact hn.trimmed
  · rw [toList_qualify h]
    exact trim_append_cons hp.trimmed (by decide) hn.trimmed

theorem head?_qualify_ne {pfx name : String} (hp : NamePart pfx) (hn : NamePart name) :
    (qualify pfx name).toList.head? ≠ some '{' := by
  by_cases h : pfx = ""
  · rw [qualify, if_pos h]
    exact hn.noBrace
  · have first := hp.noBrace
    rw [toList_qualify h]
    cases e : pfx.toList with
    | nil => simp
    | cons c s => simpa [e] using first

/-- A readable name is not taken for a type wrapper. -/
theorem unwrap_qualify {pfx name : String} (hp : NamePart pfx) (hn : NamePart name) :
    TypeWrapper.unwrap (qualify pfx name) = qualify pfx name := by
  have trimmed := trim_qualify hp hn
  rw [TypeWrapper.unwrap_of_no_brace (by rw [trimmed]; exact head?_qualify_ne hp hn), Text.trimmed,
    trimmed, String.ofList_toList]

/-- A name by a binding resolves, as long as it is readable. -/
theorem resolve_of_namedBy {ι β : Type} {types : Catalogue ι β} (built : types.Reachable)
    {d : TypeDecl ι β} (registered : d ∈ types.decls) {n : Naming} {b : Binding}
    (named : NamedBy d.head b n) (reachable : Reachable n.table) (hp : NamePart b.pfx)
    (hn : NamePart d.name) : types.resolve n.text n.table = .ok d := by
  refine resolve_of_unwrap built registered reachable named.bound named.sameNamespace hp hn ?_
  rw [named.text]
  exact unwrap_qualify hp hn

theorem resolve_nameOf {ι β : Type} {types : Catalogue ι β} (built : types.Reachable)
    {d : TypeDecl ι β}
    (registered : d ∈ types.decls) {t : PrefixTable} (reachable : Reachable t) {aliases : Aliases}
    (readable : Spells NamePart aliases d.head t) {mayBind : Bool} {n : Naming}
    (named : nameOf aliases d.head t mayBind = .ok n) : types.resolve n.text n.table = .ok d := by
  obtain ⟨b, hb⟩ := namedBy_nameOf named
  have hp := forall_bound_nameOf readable madeUp_namePart named b hb.bound
  have left : Reachable n.table := by
    rw [eq_nameOrBind_of_nameOf named]
    exact reachable_nameOrBind reachable aliases d.head
  exact resolve_of_namedBy built registered hb left hp readable.name

/-- A type of the `System` namespace is named by a prefix bound to another spelling of it. -/
theorem resolve_nameOf_other_spelling :
    let d : TypeDecl Unit Unit := .scalar Namespace.system "Int32" .convertible
    let t := PrefixTable.presentation.bind "s" Namespace.systemLegacy
    nameOf .wellKnown d.head t false = .ok ⟨"s:Int32", t, []⟩ ∧
      (Catalogue.empty.register d).resolve "s:Int32" t = .ok d := by
  intro d t
  have named : nameOf .wellKnown d.head t false = .ok ⟨"s:Int32", t, []⟩ := by rfl
  have plain : Spells Plain .wellKnown d.head t :=
    ⟨by decide, by decide +kernel, by decide, by decide⟩
  have readable := plain.imp fun _ h => h.namePart
  have reachable : Reachable t :=
    (Reachable.start .presentation).edit (.bind "s" Namespace.systemLegacy)
  have registered : d ∈ (Catalogue.empty.register d).decls := List.mem_singleton_self d
  have resolved := resolve_nameOf (.register .empty d) registered reachable readable named
  exact ⟨named, resolved⟩

end MarkupBinding

/-! ## Type keys are read back

The key of a type is its name within a type wrapper, whose prefix is one of the markup language. The
wrapper comes off again whatever that prefix is, except for the empty one: the reader wants
something before the colon, and where there is nothing it takes the brace itself for the prefix of
a name. No prefix holds a brace, so such a key is an unknown name. -/

namespace MarkupBinding

open Text PrefixTable
open ResourceKey (wrapped wrap)

/-! ### The wrapper -/

theorem toList_wrapped (pfx text : String) : (wrapped pfx text).toList =
    '{' :: (pfx.toList ++ TypeWrapper.marker ++ ' ' :: text.toList) ++ ['}'] := by
  simp [wrapped, TypeWrapper.marker]

theorem trim_wrapped (pfx text : String) :
    trim (wrapped pfx text).toList = (wrapped pfx text).toList := by
  rw [toList_wrapped, trim_braced]

theorem inner?_wrapped {pfx text : String} (hp : Plain pfx)
    (trimmed : trim text.toList = text.toList) :
    TypeWrapper.inner? (wrapped pfx text).toList = if pfx = "" then none else some text.toList := by
  have visible : ∀ c ∈ pfx.toList ++ TypeWrapper.marker, isBlank c = false := fun c hc =>
    (List.mem_append.1 hc).elim hp.isBlank_eq_false (TypeWrapper.isBlank_marker c)
  have front : dropEnd? ['}'] (text.toList ++ ['}']) = some text.toList :=
    dropEnd?_eq_some_iff.2 rfl
  have marked := TypeWrapper.isMarked_eq (hp.not_mem (by decide : ':' ∈ marks))
  have opened : (wrapped pfx text).toList =
      '{' :: ((pfx.toList ++ TypeWrapper.marker) ++ ' ' :: (text.toList ++ ['}'])) := by
    simp [toList_wrapped]
  rw [opened, TypeWrapper.inner?_of_head visible (by decide), marked, front, Option.getD_some,
    trimmed]
  by_cases h : pfx = ""
  · simp [h]
  · have filled : pfx.toList.isEmpty = false := by simpa using h
    simp [h, filled]

theorem unwrap_wrapped {pfx text : String} (hp : Plain pfx)
    (trimmed : trim text.toList = text.toList) :
    TypeWrapper.unwrap (wrapped pfx text) = if pfx = "" then wrapped pfx text else text := by
  rw [TypeWrapper.unwrap, trim_wrapped, inner?_wrapped hp trimmed]
  split
  · exact String.ofList_toList
  · exact String.ofList_toList

/-- In a wrapper without a prefix, the brace is read as one. -/
theorem pfx_read_wrapped (text : String) :
    (QualifiedName.read (wrapped "" text)).pfx = some "\x7b" := by
  have cut : cutFirst? (· == ':') (wrapped "" text).toList =
      some (['{'], "Type ".toList ++ text.toList ++ ['}']) := by
    rw [toList_wrapped]
    refine cutFirst?_eq_some_iff.2 ⟨fun c hc => ?_, ':', rfl, by simp [TypeWrapper.marker]⟩
    rw [List.mem_singleton.1 hc]
    decide
  rw [QualifiedName.read, trim_wrapped, cut]
  rfl

/-! ### Wrapped names -/

theorem languageNaming_text (t : PrefixTable) :
    (languageNaming t).table.prefixOf? Namespace.language = some (languageNaming t).text :=
  prefixOf?_allocate t Namespace.language languagePrefix

theorem text_wrap (n : Naming) : (wrap n).text = wrapped (languageNaming n.table).text n.text := rfl

/-- Wrapping the name of a type loses no binding. -/
theorem bindings_isPrefix_wrap (n : Naming) : n.table.bindings <+: (wrap n).table.bindings :=
  bindings_isPrefix_allocate n.table Namespace.language languagePrefix

theorem plain_languageNaming {t : PrefixTable} (bound : ∀ b ∈ t.bindings, Plain b.pfx) :
    Plain (languageNaming t).text ∧ ∀ b ∈ (languageNaming t).table.bindings, Plain b.pfx := by
  have after := forall_bound_allocate madeUp_plain.next bound Namespace.language
    madeUp_plain.language
  exact ⟨after _ (mem_of_prefixOf? (languageNaming_text t)), after⟩

theorem resolve_wrap {ι β : Type} {types : Catalogue ι β} (built : types.Reachable)
    {d : TypeDecl ι β}
    (registered : d ∈ types.decls) {n : Naming} {b : Binding} (named : NamedBy d.head b n)
    (reachable : Reachable n.table) (bound : ∀ b ∈ n.table.bindings, Plain b.pfx)
    (name : Plain d.name) :
    types.resolve (wrap n).text (wrap n).table =
      if (languageNaming n.table).text = "" then .error (.unknownPrefix "\x7b") else .ok d := by
  obtain ⟨language, after⟩ := plain_languageNaming bound
  have hp := bound b named.bound
  have trimmed : trim n.text.toList = n.text.toList := by
    rw [named.text]
    exact trim_qualify hp.namePart name.namePart
  have unwrapped := unwrap_wrapped language trimmed
  by_cases h : (languageNaming n.table).text = ""
  -- The wrapper stays on and the brace is looked up, but no bound prefix holds a brace.
  · have unknown : (wrap n).table.namespaceOf? "\x7b" = none := by
      refine namespaceOf?_eq_none_iff.2 fun mem => ?_
      obtain ⟨b, hb, e⟩ := List.mem_map.1 mem
      exact (e ▸ after b hb : Plain "\x7b").not_mem (by decide : '{' ∈ marks) (by decide)
    have read : (QualifiedName.read (TypeWrapper.unwrap (wrap n).text)).pfx = some "\x7b" := by
      rw [if_pos h, h] at unwrapped
      rw [text_wrap, h, unwrapped]
      exact pfx_read_wrapped n.text
    rw [if_pos h]
    exact Catalogue.resolve_of_unbound types read unknown
  · rw [if_neg h] at unwrapped
    rw [if_neg h, text_wrap]
    exact resolve_of_unwrap built registered (reachable_wrap reachable)
      ((bindings_isPrefix_wrap n).subset named.bound) named.sameNamespace hp.namePart name.namePart
      (unwrapped.trans named.text)

/-! ### Type keys -/

theorem resolve_markup_type {ι β : Type} {types : Catalogue ι β} (built : types.Reachable)
    {d : TypeDecl ι β} (registered : d ∈ types.decls) {t : PrefixTable} (reachable : Reachable t)
    {aliases : Aliases} (plain : Spells Plain aliases d.head t) :
    let n := ResourceKey.markup aliases t (.type d.head)
    types.resolve n.text n.table =
      if n.table.prefixOf? Namespace.language = some "" then .error (.unknownPrefix "\x7b")
      else .ok d := by
  obtain ⟨b, named⟩ := namedBy_nameOrBind aliases d.head t
  have bound := forall_bound_nameOrBind plain madeUp_plain
  have resolved := resolve_wrap built registered named
    (reachable_nameOrBind reachable aliases d.head) bound plain.name
  intro n
  have language : n.table.prefixOf? Namespace.language =
      some (languageNaming (nameOrBind aliases d.head t).table).text :=
    languageNaming_text _
  simp only [language, Option.some.injEq]
  exact resolved

/-- Where `x` is taken, the language gets a numbered prefix, and the wrapper still comes off. -/
theorem resolve_markup_type_numbered :
    let d : TypeDecl Unit Unit := .scalar Namespace.presentation "Button" .object
    let t := PrefixTable.presentation.bind "x" Namespace.designer
    let n := ResourceKey.markup .empty t (.type d.head)
    n.text = "\x7bx1:Type Button\x7d" ∧
      (Catalogue.empty.register d).resolve n.text n.table = .ok d := by
  intro d t n
  have plain : Spells Plain .empty d.head t := ⟨by decide, by decide, by decide, by decide⟩
  have reachable : Reachable t :=
    (Reachable.start .presentation).edit (.bind "x" Namespace.designer)
  have registered : d ∈ (Catalogue.empty.register d).decls := List.mem_singleton_self d
  have resolved := resolve_markup_type (.register .empty d) registered reachable plain
  have language : n.table.prefixOf? Namespace.language ≠ some "" := by decide +kernel
  exact ⟨by decide +kernel, resolved.trans (if_neg language)⟩

/-- Where the language has the default namespace, the key of a type cannot be read back. -/
theorem resolve_markup_type_default :
    let d : TypeDecl Unit Unit := .scalar Namespace.presentation "Button" .object
    let t := PrefixTable.ofScopes [[("", Namespace.language), ("p", Namespace.presentation)]]
    (ResourceKey.markup .empty t (.type d.head)).text = "\x7b:Type p:Button\x7d" ∧
      (ResourceKey.markup .empty t (.type d.head)).table = t ∧
      (Catalogue.empty.register d).resolve "\x7b:Type p:Button\x7d" t =
        .error (.unknownPrefix "\x7b") := by
  refine ⟨by decide +kernel, by decide +kernel, ?_⟩
  rfl

end MarkupBinding
