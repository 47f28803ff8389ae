import MarkupBinding.Document
import MarkupBinding.Proofs.Resolution.Naming
/-!
# Names keep their meaning

Types and resource keys may be named in any order and number: whatever is bound for them, each name
that resolved before resolves to the same type afterwards. Naming only adds bindings behind those
that are there (`GrowsTo`), each under a prefix of its own, so every prefix is looked up as before.

Names without a prefix need more than that. Where nothing has the empty prefix, they stand for types
of the empty namespace, and they would change their meaning if a namespace were given that prefix.
Naming never does: what it suggests is an alias, or a preferred prefix that is not empty, or
derived, or the prefix of the markup language, and numbering makes no prefix empty. It remains to
ask that no alias is empty.

Results:

* `growsTo_apply`, `growsTo_runSteps`: a step of naming, and a run of such steps, adds bindings
  and changes none.
* `namespaceOf?_of_growsTo`, `defaultNamespace?_of_growsTo`: what was bound stays bound, and the
  default namespace stays what it was.
* `resolve_runSteps`: a name that resolved before a run resolves to the same type after it.
-/
namespace MarkupBinding

open PrefixTable
open ResourceKey (wrap)

/-- The step names a type or a resource key. -/
def Step.isNaming : Step → Bool
  | .edit _ => false
  | .type .. => true
  | .key _ => true

/-- What holds between a table and itself, holds from a table to a third one by way of a second, and
holds of the table that naming a type or the markup language leaves, holds of every step of
naming. -/
theorem naming_induct {R : PrefixTable → PrefixTable → Prop} {aliases : Aliases}
    (refl : ∀ t, R t t) (trans : ∀ {t t' t''}, R t t' → R t' t'' → R t t'')
    (type : ∀ head t, R t (nameOrBind aliases head t).table)
    (language : ∀ t, R t (languageNaming t).table) {step : Step} (naming : step.isNaming = true)
    (t : PrefixTable) : R t (step.apply aliases t).1 := by
  cases step with
  | edit e => cases naming
  | type head mayBind =>
    unfold Step.apply
    dsimp only
    split
    · next n named =>
      rw [eq_nameOrBind_of_nameOf named]
      exact type head t
    · exact refl t
  | key key =>
    have wrapped : ∀ head, R t (wrap (nameOrBind aliases head t)).table :=
      fun head => trans (type head t) (language _)
    cases key with
    | name key => exact refl t
    | type head => exact wrapped head
    | component head resource =>
      unfold Step.apply ResourceKey.markup
      dsimp only
      split
      · exact wrapped head
      · exact type head t

/-- The table was added to: all that was bound stands in front, and what stands behind it has
prefixes that are not empty and were not bound. -/
def PrefixTable.GrowsTo (t t' : PrefixTable) : Prop :=
  ∃ added, t'.bindings = t.bindings ++ added ∧ ∀ b ∈ added, b.pfx ≠ "" ∧ b.pfx ∉ t.boundPrefixes

namespace PrefixTable

theorem growsTo_refl (t : PrefixTable) : GrowsTo t t :=
  ⟨[], (List.append_nil _).symm, fun _ hb => absurd hb List.not_mem_nil⟩

theorem GrowsTo.trans {t t' t'' : PrefixTable} (h : GrowsTo t t') (h' : GrowsTo t' t'') :
    GrowsTo t t'' := by
  obtain ⟨xs, hx, freshX⟩ := h
  obtain ⟨ys, hy, freshY⟩ := h'
  refine ⟨xs ++ ys, by rw [hy, hx, List.append_assoc], fun b hb => ?_⟩
  rcases List.mem_append.1 hb with hb | hb
  · exact freshX b hb
  · obtain ⟨ne, free⟩ := freshY b hb
    refine ⟨ne, fun bound => free ?_⟩
    rw [boundPrefixes, hx, List.map_append]
    exact List.mem_append_left _ bound

/-! ## Looking up in a table that has grown -/

theorem namespaceOf?_append {t t' : PrefixTable} {added : List Binding}
    (h : t'.bindings = t.bindings ++ added) (pfx : String) :
    t'.namespaceOf? pfx =
      (t.namespaceOf? pfx).or ((Keyed.get? Binding.pfx pfx added).map Binding.ns) := by
  rw [namespaceOf?, namespaceOf?, h, Keyed.get?_append, Option.map_or]

theorem namespaceOf?_of_growsTo {t t' : PrefixTable} (h : GrowsTo t t') {pfx ns : String}
    (bound : t.namespaceOf? pfx = some ns) : t'.namespaceOf? pfx = some ns := by
  obtain ⟨added, e, -⟩ := h
  rw [namespaceOf?_append e, bound, Option.some_or]

theorem defaultNamespace?_of_growsTo {t t' : PrefixTable} (h : GrowsTo t t') :
    t'.defaultNamespace? = t.defaultNamespace? := by
  obtain ⟨added, e, fresh⟩ := h
  have none : Keyed.get? Binding.pfx "" added = none := by
    refine Keyed.get?_eq_none_iff.2 fun mem => ?_
    obtain ⟨b, hb, empty⟩ := List.mem_map.1 mem
    exact (fresh b hb).1 empty
  rw [defaultNamespace?, namespaceOf?_append e, none, Option.map_none, Option.or_none]
  rfl

/-! ## Naming lets a table grow -/

theorem growsTo_allocated {t : PrefixTable} {b : Binding} (ne : b.pfx ≠ "")
    (free : b.pfx ∉ t.boundPrefixes) : GrowsTo t (t.allocated b) := by
  refine ⟨[b], rfl, fun c hc => ?_⟩
  rw [List.mem_singleton.1 hc]
  exact ⟨ne, free⟩

theorem growsTo_allocate (t : PrefixTable) (ns : String) {suggested : String} (h : suggested ≠ "") :
    GrowsTo t (t.allocate ns suggested).2 := by
  obtain ⟨pfx, -, e⟩ | ⟨-, e⟩ := allocate_cases t ns suggested
  · rw [e]
    exact growsTo_refl t
  · have ne := firstFree_induct madeUp_ne_empty.next t.boundPrefixes h
    rw [e]
    exact growsTo_allocated ne (firstFree_not_mem t.boundPrefixes suggested)

end PrefixTable

section Run

variable {aliases : Aliases} (reserved : ∀ a ∈ aliases.entries, a.pfx ≠ "")
include reserved

theorem growsTo_nameOrBind (head : TypeHead) (t : PrefixTable) :
    GrowsTo t (nameOrBind aliases head t).table := by
  obtain ⟨_, -, -, e⟩ | ⟨-, e⟩ := nameOrBind_cases aliases head t
  · rw [e]
    exact growsTo_refl t
  · have ne := newBinding_pfx_ne_empty reserved head t
    rw [e]
    exact growsTo_allocated ne (firstFree_not_mem t.boundPrefixes (aliases.suggest head))

theorem growsTo_apply {step : Step} (naming : step.isNaming = true) (t : PrefixTable) :
    GrowsTo t (step.apply aliases t).1 :=
  naming_induct growsTo_refl (fun h h' => h.trans h') (growsTo_nameOrBind reserved)
    (fun t => growsTo_allocate t Namespace.language madeUp_ne_empty.language) naming t

theorem growsTo_runSteps {steps : List Step} (naming : ∀ s ∈ steps, s.isNaming = true)
    (t : PrefixTable) : GrowsTo t (runSteps aliases t steps).1 := by
  induction steps generalizing t with
  | nil => exact growsTo_refl t
  | cons s ss ih =>
    have first := growsTo_apply reserved (naming s List.mem_cons_self) t
    exact first.trans (ih (fun x hx => naming x (List.mem_cons_of_mem s hx)) _)

end Run

/-! ## Resolving in a table that has grown -/

namespace Catalogue

variable {ι β : Type} {t t' : PrefixTable}

theorem namespaceFor_of_growsTo (h : GrowsTo t t') {name : QualifiedName} {ns : String}
    (found : namespaceFor t name = .ok ns) : namespaceFor t' name = .ok ns := by
  unfold namespaceFor at found ⊢
  cases hp : name.pfx with
  | none =>
    simp only [hp] at found ⊢
    rw [defaultNamespace?_of_growsTo h, found]
  | some pfx =>
    simp only [hp] at found ⊢
    cases bound : t.namespaceOf? pfx with
    | none => simp [bound] at found
    | some m =>
      rw [bound] at found
      rw [namespaceOf?_of_growsTo h bound]
      exact found

theorem resolve_of_growsTo (h : GrowsTo t t') {types : Catalogue ι β} {text : String}
    {d : TypeDecl ι β} (resolved : types.resolve text t = .ok d) :
    types.resolve text t' = .ok d := by
  obtain ⟨ns, found, -⟩ := resolve_eq_ok resolved
  unfold resolve at resolved ⊢
  simp only [found] at resolved
  simp only [namespaceFor_of_growsTo h found]
  exact resolved

end Catalogue

theorem resolve_runSteps {ι β : Type} (doc : Document ι β)
    (reserved : ∀ a ∈ doc.aliases.entries, a.pfx ≠ "") {steps : List Step}
    (naming : ∀ s ∈ steps, s.isNaming = true) :
    let after := doc.withTable (runSteps doc.aliases doc.table steps).1
    doc.table.GrowsTo after.table ∧
      after.table.defaultNamespace? = doc.table.defaultNamespace? ∧
      ∀ text d, doc.resolve text = .ok d → after.resolve text = .ok d := by
  intro after
  have grows : doc.table.GrowsTo after.table := growsTo_runSteps reserved naming doc.table
  exact ⟨grows, defaultNamespace?_of_growsTo grows,
    fun _ _ resolved => Catalogue.resolve_of_growsTo grows resolved⟩

/-- Nothing has the empty prefix, and a type without a namespace is named without one. A type that
prefers the empty prefix gets another, and so the name keeps its meaning. -/
theorem resolve_runSteps_no_default :
    let plain : TypeDecl Unit Unit := .scalar "" "Button" .object
    let other : TypeDecl Unit Unit :=
      ⟨{ TypeHead.plain "urn:acme/Controls" "Button" .object with preferredPrefix := some "" },
        [], [], []⟩
    let doc : Document Unit Unit :=
      ⟨(Catalogue.empty.register plain).register other, .empty, .empty, true, .empty⟩
    let steps : List Step :=
      [.type other.head false, .type other.head true, .key (.type other.head)]
    let after := doc.withTable (runSteps doc.aliases doc.table steps).1
    after.table.bindings = [⟨"controls", "urn:acme/Controls"⟩, ⟨"x", Namespace.language⟩] ∧
      after.resolve "Button" = .ok plain := by
  intro plain other doc steps after
  have naming : ∀ s ∈ steps, s.isNaming = true := by
    intro s hs
    simp only [steps, List.mem_cons, List.not_mem_nil, or_false] at hs
    rcases hs with rfl | rfl | rfl <;> rfl
  have before : doc.resolve "Button" = .ok plain := by rfl
  obtain ⟨-, -, same⟩ := resolve_runSteps doc (by decide) naming
  exact ⟨by decide +kernel, same "Button" plain before⟩

end MarkupBinding
