import MarkupBinding.Proofs.Resolution.Stability
/-!
# One prefix for each namespace

A prefix is looked for in two rounds: one that is bound to the namespace as it stands, or else one
that is bound to another spelling of it. An allocation makes the first round only. Still the two
never disagree. A type asks for an allocation only after both rounds, and the markup language, which
asks at once, has a single spelling. So what naming binds is bound to namespaces that had no prefix
in any spelling, one prefix for each (`Introduces`), and the first round never comes to find
something where the second one was needed before. This holds of every table, whatever its history,
and whether each call has the same aliases or others.

Results:

* `introduces_apply`, `introduces_of_leadsTo`: what a step of naming binds, and what many steps do.
* `nameIn?_of_introduces`: a name that was given is given again.
* `nameOf_settled`: when a type can be named without binding a prefix, what is bound if it can not,
  and that the name is the same from then on.
-/
namespace MarkupBinding

open PrefixTable

namespace PrefixTable

/-- The table was added to: all that was bound stands in front, and what stands behind it is for
namespaces that had no prefix in any spelling, one prefix for each. -/
def Introduces (t t' : PrefixTable) : Prop :=
  ∃ added, t'.bindings = t.bindings ++ added ∧
    (∀ b ∈ added, ∀ c ∈ t.bindings, canonicalNamespace c.ns ≠ canonicalNamespace b.ns) ∧
    (added.map fun b => canonicalNamespace b.ns).Nodup

/-- The tables that a table may become by naming. Each call may have aliases of its own. -/
inductive LeadsTo (t : PrefixTable) : PrefixTable → Prop where
  | refl : LeadsTo t t
  | step {t' : PrefixTable} (h : LeadsTo t t') (aliases : Aliases) {s : Step}
      (naming : s.isNaming = true) : LeadsTo t (s.apply aliases t').1

theorem introduces_refl (t : PrefixTable) : Introduces t t :=
  ⟨[], (List.append_nil _).symm, fun _ hb => absurd hb List.not_mem_nil, List.nodup_nil⟩

theorem Introduces.trans {t t' t'' : PrefixTable} (h : Introduces t t') (h' : Introduces t' t'') :
    Introduces t t'' := by
  obtain ⟨xs, hx, freshX, nodupX⟩ := h
  obtain ⟨ys, hy, freshY, nodupY⟩ := h'
  rw [hx] at freshY
  refine ⟨xs ++ ys, by rw [hy, hx, List.append_assoc], fun b hb c hc => ?_, ?_⟩
  · rcases List.mem_append.1 hb with hb | hb
    · exact freshX b hb c hc
    · exact freshY b hb c (List.mem_append_left _ hc)
  · rw [List.map_append]
    refine List.nodup_append.2 ⟨nodupX, nodupY, fun n hn m hm => ?_⟩
    obtain ⟨c, hc, rfl⟩ := List.mem_map.1 hn
    obtain ⟨b, hb, rfl⟩ := List.mem_map.1 hm
    exact freshY b hb c (List.mem_append_right _ hc)

theorem introduces_allocated {t : PrefixTable} {b : Binding}
    (unbound : ∀ c ∈ t.bindings, canonicalNamespace c.ns ≠ canonicalNamespace b.ns) :
    Introduces t (t.allocated b) := by
  refine ⟨[b], rfl, fun c hc => ?_, List.pairwise_singleton _ _⟩
  rw [List.mem_singleton.1 hc]
  exact unbound

/-! ## Looking for a prefix in a table that was added to -/

theorem prefixOf?_append {t t' : PrefixTable} {added : List Binding}
    (h : t'.bindings = t.bindings ++ added) (ns : String) :
    t'.prefixOf? ns =
      (t.prefixOf? ns).or ((added.find? fun b => b.ns = ns).map Binding.pfx) := by
  rw [prefixOf?, prefixOf?, h, List.find?_append, Option.map_or]

/-- The prefix that was found for a namespace is still the one that is found. -/
theorem prefixOfAny?_of_introduces {t t' : PrefixTable} (h : Introduces t t') {ns pfx : String}
    (canonical : canonicalNamespace ns = ns) (found : t.prefixOfAny? ns = some pfx) :
    t'.prefixOfAny? ns = some pfx := by
  obtain ⟨added, e, fresh, -⟩ := h
  obtain ⟨b, hb, -, hns⟩ := exists_of_prefixOfAny? canonical found
  -- Nothing that was added is for this namespace, since it had a prefix.
  have other : (added.find? fun c => c.ns = ns) = none := by
    refine List.find?_eq_none.2 fun c hc same => ?_
    rw [decide_eq_true_eq] at same
    exact fresh c hc b hb (by rw [hns, same, canonical])
  unfold prefixOfAny? at found ⊢
  rw [prefixOf?_append e, other, Option.map_none, Option.or_none, e, List.find?_append]
  rcases Option.or_eq_some_iff.1 found with exact | ⟨none, equivalent⟩
  · rw [exact, Option.some_or]
  · obtain ⟨c, hc, rfl⟩ := Option.map_eq_some_iff.1 equivalent
    rw [none, hc, Option.none_or, Option.some_or, Option.map_some]

end PrefixTable

/-! ## What naming binds -/

/-- An identifier that is not one of a library has no other spelling. -/
theorem eq_of_canonicalNamespace_eq {ns other : String}
    (foreign : AssemblyNamespace.read? other = none) (h : canonicalNamespace ns = other) :
    ns = other := by
  cases read : AssemblyNamespace.read? ns with
  | none =>
    rw [canonicalNamespace, read] at h
    exact h
  | some n =>
    have written : n.canonical.text = other := by
      rw [canonicalNamespace, read] at h
      exact h
    have back := AssemblyNamespace.read?_text (AssemblyNamespace.writable_of_read? read).canonical
    rw [written, foreign] at back
    cases back

theorem introduces_nameOrBind (aliases : Aliases) (head : TypeHead) (t : PrefixTable) :
    Introduces t (nameOrBind aliases head t).table := by
  obtain ⟨_, -, -, e⟩ | ⟨other, e⟩ := nameOrBind_cases aliases head t
  · rw [e]
    exact introduces_refl t
  · have unbound : ∀ c ∈ t.bindings,
        canonicalNamespace c.ns ≠ canonicalNamespace (newBinding aliases head t).ns := by
      have canonical : canonicalNamespace (newBinding aliases head t).ns = head.ns :=
        head.id.canonical
      rw [canonical]
      exact other
    rw [e]
    exact introduces_allocated unbound

theorem introduces_languageNaming (t : PrefixTable) : Introduces t (languageNaming t).table := by
  have foreign : AssemblyNamespace.read? Namespace.language = none := by decide +kernel
  unfold languageNaming
  obtain ⟨pfx, -, e⟩ | ⟨unbound, e⟩ := allocate_cases t Namespace.language languagePrefix
  · rw [e]
    exact introduces_refl t
  · rw [e]
    refine introduces_allocated fun c hc same => ?_
    have canonical : canonicalNamespace Namespace.language = Namespace.language := by
      rw [canonicalNamespace, foreign]
    exact prefixOf?_eq_none_iff.1 unbound c hc
      (eq_of_canonicalNamespace_eq foreign (same.trans canonical))

theorem introduces_apply (aliases : Aliases) {s : Step} (naming : s.isNaming = true)
    (t : PrefixTable) : Introduces t (s.apply aliases t).1 :=
  naming_induct introduces_refl (fun h h' => h.trans h') (introduces_nameOrBind aliases)
    introduces_languageNaming naming t

theorem introduces_of_leadsTo {t t' : PrefixTable} (h : LeadsTo t t') : Introduces t t' := by
  induction h with
  | refl => exact introduces_refl t
  | step _ aliases naming ih => exact ih.trans (introduces_apply aliases naming _)

/-! ## Names that were given -/

theorem nameIn?_of_introduces {t t' : PrefixTable} (h : Introduces t t') {head : TypeHead}
    {text : String} (named : nameIn? head t = some text) : nameIn? head t' = some text := by
  obtain ⟨pfx, found, rfl⟩ := Option.map_eq_some_iff.1 named
  have still : t'.prefixOfAny? head.ns = some pfx :=
    prefixOfAny?_of_introduces h head.id.canonical found
  rw [nameIn?, still, Option.map_some]

/-- Whoever asks where a prefix is bound gets the same name and changes nothing. -/
theorem nameOf_of_bound {head : TypeHead} {t : PrefixTable} {text : String}
    (h : nameIn? head t = some text) (aliases : Aliases) (mayBind : Bool) :
    nameOf aliases head t mayBind = .ok ⟨text, t, []⟩ := by
  unfold nameOf
  cases mayBind with
  | true => rw [if_pos rfl, nameOrBind_of_bound h]
  | false => rw [if_neg Bool.false_ne_true, h]

theorem nameIn?_nameOrBind (aliases : Aliases) (head : TypeHead) (t : PrefixTable) :
    nameIn? head (nameOrBind aliases head t).table = some (nameOrBind aliases head t).text := by
  cases named : nameIn? head t with
  | some text =>
    rw [nameOrBind_of_bound named]
    exact named
  | none =>
    have allocated := prefixOf?_allocate t head.ns (aliases.suggest head)
    rw [nameOrBind, named]
    dsimp only
    rw [nameIn?, prefixOfAny?, allocated, Option.some_or, Option.map_some]

theorem nameOf_settled (aliases : Aliases) (head : TypeHead) (t : PrefixTable) :
    (Step.type head false).apply aliases t = (t, []) ∧
    (nameOf aliases head t false = .error ⟨head.ns, head.name⟩ ↔
      ∀ b ∈ t.bindings, canonicalNamespace b.ns ≠ head.ns) ∧
    ((∃ b ∈ t.bindings, canonicalNamespace b.ns = head.ns) →
      ∃ text, ∀ mayBind, nameOf aliases head t mayBind = .ok ⟨text, t, []⟩) ∧
    ((∀ b ∈ t.bindings, canonicalNamespace b.ns ≠ head.ns) →
      ∃ pfx n, nameOf aliases head t true = .ok n ∧ n.text = qualify pfx head.name ∧
        n.table = ⟨t.bindings ++ [⟨pfx, head.ns⟩], some pfx⟩) ∧
    (∀ mayBind n, nameOf aliases head t mayBind = .ok n → ∀ t', LeadsTo n.table t' →
      ∀ aliases' mayBind', nameOf aliases' head t' mayBind' = .ok ⟨n.text, t', []⟩) ∧
    ∀ t', LeadsTo t t' → ∃ added, t'.bindings = t.bindings ++ added ∧
      (∀ b ∈ added, ∀ c ∈ t.bindings, canonicalNamespace c.ns ≠ canonicalNamespace b.ns) ∧
      (added.map fun b => canonicalNamespace b.ns).Nodup := by
  have later : ∀ mayBind n, nameOf aliases head t mayBind = .ok n → ∀ t', LeadsTo n.table t' →
      ∀ aliases' mayBind', nameOf aliases' head t' mayBind' = .ok ⟨n.text, t', []⟩ := by
    intro mayBind n given t' leads
    have again : nameIn? head n.table = some n.text := by
      rw [eq_nameOrBind_of_nameOf given]
      exact nameIn?_nameOrBind aliases head t
    exact nameOf_of_bound (nameIn?_of_introduces (introduces_of_leadsTo leads) again)
  have runs := fun t' (leads : LeadsTo t t') => introduces_of_leadsTo leads
  obtain ⟨b, hb, hns, named⟩ | ⟨other, unnamed⟩ := nameIn?_cases head t
  · have given := nameOf_of_bound named aliases
    refine ⟨by simp only [Step.apply, given], ⟨fun failed => ?_, fun none => ?_⟩,
      fun _ => ⟨_, given⟩, fun none => ?_, later, runs⟩
    · rw [given] at failed
      cases failed
    · exact absurd hns (none b hb)
    · exact absurd hns (none b hb)
  · have refused : nameOf aliases head t false = .error ⟨head.ns, head.name⟩ := by
      rw [nameOf, if_neg Bool.false_ne_true, unnamed]
    refine ⟨by simp only [Step.apply, refused], ⟨fun _ => other, fun _ => refused⟩,
      fun bound => ?_, fun _ => ?_, later, runs⟩
    · obtain ⟨b, hb, hns⟩ := bound
      exact absurd hns (other b hb)
    · obtain ⟨b, hb, hns, -⟩ | ⟨-, e⟩ := nameOrBind_cases aliases head t
      · exact absurd hns (other b hb)
      · exact ⟨_, _, if_pos rfl, by rw [e], by rw [e]; rfl⟩

/-- A type of the `System` namespace is named by a prefix that is bound to another spelling of it,
and still is after a key has bound two more. The type of the key could not be named before. -/
theorem nameOf_settled_other_spelling :
    let int : TypeHead := .plain Namespace.system "Int32" .convertible
    let panel : TypeHead := .plain "urn:acme/Controls" "Panel" .object
    let t := PrefixTable.presentation.bind "sys" Namespace.systemLegacy
    let t' := ((Step.key (.type panel)).apply .empty t).1
    nameOf .wellKnown panel t false = .error ⟨"urn:acme/Controls", "Panel"⟩ ∧
      t'.bindings =
        t.bindings ++ [⟨"controls", "urn:acme/Controls"⟩, ⟨"x", Namespace.language⟩] ∧
      nameOf .wellKnown int t false = .ok ⟨"sys:Int32", t, []⟩ ∧
      nameOf .wellKnown int t' true = .ok ⟨"sys:Int32", t', []⟩ := by
  intro int panel t t'
  have unbound : ∀ b ∈ t.bindings, canonicalNamespace b.ns ≠ panel.ns := by decide +kernel
  have given : nameOf .wellKnown int t false = .ok ⟨"sys:Int32", t, []⟩ := by rfl
  have leads : LeadsTo t t' := .step .refl .empty rfl
  obtain ⟨-, refused, -⟩ := nameOf_settled .wellKnown panel t
  obtain ⟨-, -, -, -, again, -⟩ := nameOf_settled .wellKnown int t
  exact ⟨refused.2 unbound, by decide +kernel, given, again false _ given t' leads .wellKnown true⟩

end MarkupBinding
