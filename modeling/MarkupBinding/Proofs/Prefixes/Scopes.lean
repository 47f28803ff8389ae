import MarkupBinding.Proofs.Prefixes.Invariant
/-!
# Nested scopes

Declarations stand in scopes that lie one within the other, and an inner declaration of a prefix
shadows the outer ones. There are two ways to read them. `ofScopes` goes through the scopes from the
inside out and keeps the first declaration of each prefix. A context that is opened within another
one goes from the outside in, and there each binding takes the place of the one before it. First
wins here and last wins there, so the bindings end up in different orders, and a namespace with
several prefixes may be answered by another one of them; but each prefix stands for the same.

Results:

* `namespaceOf?_declareAll`, `namespaceOf?_bindAll`: the first declaration counts, or the last one.
* `bindings_declareAll`: the bindings stand in the order of the first declarations.
* `reads_child_bindAll`, `reads_nested`: a scope within another one that declares no prefix twice,
  and scopes that were opened one within the other.
* `scopes_read_alike`: both ways read the same, and neither answers with a shadowed prefix.
-/
namespace MarkupBinding.PrefixTable

/-- The first declaration of each prefix, in order. -/
def firstDeclared (declared : List (String × String)) : List (String × String) :=
  declared.eraseDupsBy fun d e => d.1 == e.1

/-- The bindings that declarations make. -/
def declaredBindings (declared : List (String × String)) : List Binding :=
  declared.map fun d => ⟨d.1, d.2⟩

/-- Declares pairs of a prefix and a namespace one after another. -/
def declareAll (t : PrefixTable) (declared : List (String × String)) : PrefixTable :=
  declared.foldl (fun t d => t.declare d.1 d.2) t

/-- The table of scopes that are opened one within the other, the outermost first. -/
def nested : List (List (String × String)) → PrefixTable
  | [] => empty
  | inner :: outer => (nested outer).child.bindAll inner

/-- A table reads declarations of which the first one of each prefix counts: both its look-ups are
told by the declarations, whatever order its bindings have. The prefix that answers for a namespace
is not shadowed by an earlier declaration, and there is an answer unless all its prefixes are. -/
structure Reads (t : PrefixTable) (declared : List (String × String)) : Prop where
  lookup : ∀ pfx, t.namespaceOf? pfx = declared.lookup pfx
  unshadowed : ∀ ns pfx, t.prefixOf? ns = some pfx → declared.lookup pfx = some ns
  answered : ∀ ns, t.prefixOf? ns = none ↔ ∀ pfx, declared.lookup pfx ≠ some ns

theorem reads_of_lookup {t : PrefixTable} (distinct : Distinct t)
    {declared : List (String × String)} (h : ∀ pfx, t.namespaceOf? pfx = declared.lookup pfx) :
    Reads t declared where
  lookup := h
  unshadowed := by
    intro ns pfx found
    rw [← h]
    exact namespaceOf?_of_prefixOf? distinct found
  answered := by
    intro ns
    simp only [← h]
    exact prefixOf?_eq_none_iff_lookup distinct

/-! ## The first declaration counts -/

theorem declare_of_bound {t : PrefixTable} {pfx : String} (bound : pfx ∈ t.boundPrefixes)
    (ns : String) : t.declare pfx ns = t := by
  have found : (t.namespaceOf? pfx).isSome = true := by
    rw [Option.isSome_iff_ne_none]
    intro unbound
    exact namespaceOf?_eq_none_iff.1 unbound bound
  rw [declare, if_pos found]

theorem declare_of_free {t : PrefixTable} {pfx : String} (free : pfx ∉ t.boundPrefixes)
    (ns : String) : t.declare pfx ns = t.bind pfx ns := by
  rw [declare, namespaceOf?_eq_none_iff.2 free, Option.isSome_none, if_neg Bool.false_ne_true]

theorem namespaceOf?_declare (t : PrefixTable) (pfx ns p : String) :
    (t.declare pfx ns).namespaceOf? p = (t.namespaceOf? p).or ([(pfx, ns)].lookup p) := by
  rw [List.lookup_singleton]
  by_cases bound : pfx ∈ t.boundPrefixes
  · rw [declare_of_bound bound]
    cases found : t.namespaceOf? p with
    | some m => rfl
    | none =>
      have other : p ≠ pfx := by
        intro same
        exact namespaceOf?_eq_none_iff.1 found (same ▸ bound)
      simp [other]
  · rw [declare_of_free bound, namespaceOf?_bind]
    by_cases same : p = pfx
    · simp [same, namespaceOf?_eq_none_iff.2 bound]
    · simp [same]

theorem namespaceOf?_declareAll (t : PrefixTable) (declared : List (String × String)) (p : String) :
    (t.declareAll declared).namespaceOf? p = (t.namespaceOf? p).or (declared.lookup p) := by
  induction declared generalizing t with
  | nil => exact Option.or_none.symm
  | cons d ds ih =>
    calc (t.declareAll (d :: ds)).namespaceOf? p
        = ((t.declare d.1 d.2).namespaceOf? p).or (ds.lookup p) := ih _
      _ = (t.namespaceOf? p).or (([d].lookup p).or (ds.lookup p)) := by
          rw [namespaceOf?_declare, Option.or_assoc]
      _ = (t.namespaceOf? p).or ((d :: ds).lookup p) := by
          rw [← List.lookup_append, List.singleton_append]

/-- Behind the bindings of a table stand the first declarations of all other prefixes. -/
theorem bindings_declareAll (t : PrefixTable) (declared : List (String × String)) :
    (t.declareAll declared).bindings = t.bindings ++
      declaredBindings (firstDeclared (declared.filter fun d => d.1 ∉ t.boundPrefixes)) := by
  induction declared generalizing t with
  | nil => exact (List.append_nil _).symm
  | cons d ds ih =>
    have step : t.declareAll (d :: ds) = (t.declare d.1 d.2).declareAll ds := rfl
    by_cases bound : d.1 ∈ t.boundPrefixes
    · rw [step, declare_of_bound bound, ih, List.filter_cons_of_neg (by simpa using bound)]
    · -- The declaration takes its place, and shadows those of its prefix that follow.
      have bindings := bind_of_not_mem bound d.2
      have prefixes : (t.bind d.1 d.2).boundPrefixes = t.boundPrefixes ++ [d.1] := by
        rw [boundPrefixes, bindings, List.map_append]
        rfl
      have behind : ds.filter (fun e => e.1 ∉ t.boundPrefixes ++ [d.1]) =
          (ds.filter fun e => e.1 ∉ t.boundPrefixes).filter fun e => (e.1 == d.1) = false := by
        rw [List.filter_filter]
        refine List.filter_congr fun e _ => ?_
        simp [and_comm]
      rw [step, declare_of_free bound, ih, bindings, prefixes, behind, List.append_assoc,
        List.filter_cons_of_pos (by simpa using bound), firstDeclared, firstDeclared,
        List.eraseDupsBy_cons]
      rfl

/-! ## The last declaration counts -/

theorem namespaceOf?_bindAll (t : PrefixTable) (declared : List (String × String)) (p : String) :
    (t.bindAll declared).namespaceOf? p = (declared.reverse.lookup p).or (t.namespaceOf? p) := by
  induction declared generalizing t with
  | nil => rfl
  | cons d ds ih =>
    have first : (t.bind d.1 d.2).namespaceOf? p = ([d].lookup p).or (t.namespaceOf? p) := by
      rw [namespaceOf?_bind, List.lookup_singleton]
      by_cases same : p = d.1
      · simp [same]
      · simp [same]
    calc (t.bindAll (d :: ds)).namespaceOf? p
        = (ds.reverse.lookup p).or ((t.bind d.1 d.2).namespaceOf? p) := ih _
      _ = ((d :: ds).reverse.lookup p).or (t.namespaceOf? p) := by
          rw [first, ← Option.or_assoc, ← List.lookup_append, List.reverse_cons]

/-- Where no prefix is declared twice, its first declaration is its last one. -/
theorem lookup_reverse_of_nodup {declared : List (String × String)}
    (once : (declared.map Prod.fst).Nodup) (p : String) :
    declared.reverse.lookup p = declared.lookup p := by
  induction declared with
  | nil => rfl
  | cons d ds ih =>
    rw [List.map_cons, List.nodup_cons] at once
    have split : d :: ds = [d] ++ ds := rfl
    rw [List.reverse_cons, split, List.lookup_append, List.lookup_append, ih once.2,
      List.lookup_singleton]
    by_cases same : p = d.1
    · have later : ds.lookup p = none := by
        rw [List.lookup_eq_none_iff]
        intro e he
        rw [bne_iff_ne, same]
        intro again
        exact once.1 (again ▸ List.mem_map_of_mem he)
      rw [later, Option.none_or, Option.or_none]
    · simp [same]

/-! ## Scopes within scopes -/

theorem reads_ofScopes (scopes : List (List (String × String))) :
    Reads (ofScopes scopes) scopes.flatten :=
  reads_of_lookup (distinct_ofScopes scopes) (namespaceOf?_declareAll empty scopes.flatten)

theorem reads_bindAll_reverse (declared : List (String × String)) :
    Reads (empty.bindAll declared.reverse) declared := by
  refine reads_of_lookup (distinct_bindAll distinct_empty _) fun pfx => ?_
  have unbound : empty.namespaceOf? pfx = none := rfl
  rw [namespaceOf?_bindAll, List.reverse_reverse, unbound, Option.or_none]

/-- One scope more, whatever order the bindings of the outer ones have. -/
theorem reads_child_bindAll {t : PrefixTable} (distinct : Distinct t)
    {outer : List (String × String)} (reads : Reads t outer) {inner : List (String × String)}
    (once : (inner.map Prod.fst).Nodup) : Reads (t.child.bindAll inner) (inner ++ outer) := by
  have kept : Distinct t.child := distinct
  refine reads_of_lookup (distinct_bindAll kept inner) fun pfx => ?_
  rw [namespaceOf?_bindAll, namespaceOf?_child, lookup_reverse_of_nodup once, reads.lookup,
    List.lookup_append]

theorem distinct_nested (scopes : List (List (String × String))) : Distinct (nested scopes) := by
  induction scopes with
  | nil => exact distinct_empty
  | cons inner outer ih =>
    have kept : Distinct (nested outer).child := ih
    exact distinct_bindAll kept inner

theorem reads_nested {scopes : List (List (String × String))}
    (once : ∀ scope ∈ scopes, (scope.map Prod.fst).Nodup) :
    Reads (nested scopes) scopes.flatten := by
  induction scopes with
  | nil => exact reads_ofScopes []
  | cons inner outer ih =>
    rw [List.forall_mem_cons] at once
    rw [List.flatten_cons]
    exact reads_child_bindAll (distinct_nested outer) (ih once.2) once.1

theorem scopes_read_alike (scopes : List (List (String × String))) :
    let t : PrefixTable := ofScopes scopes
    let overwritten : PrefixTable := empty.bindAll scopes.flatten.reverse
    t.bindings = declaredBindings (firstDeclared scopes.flatten) ∧
      Reads t scopes.flatten ∧ Reads overwritten scopes.flatten ∧
      (∀ pfx, overwritten.namespaceOf? pfx = t.namespaceOf? pfx) ∧
      (∀ inner : List (String × String), (inner.map Prod.fst).Nodup →
        Reads (t.child.bindAll inner) (inner :: scopes).flatten ∧
        ∀ pfx, (t.child.bindAll inner).namespaceOf? pfx =
          (ofScopes (inner :: scopes)).namespaceOf? pfx) ∧
      ((∀ scope ∈ scopes, (scope.map Prod.fst).Nodup) → Reads (nested scopes) scopes.flatten) := by
  intro t overwritten
  have bindings : t.bindings = declaredBindings (firstDeclared scopes.flatten) := by
    have all := bindings_declareAll empty scopes.flatten
    have unbound : scopes.flatten.filter (fun d => d.1 ∉ empty.boundPrefixes) = scopes.flatten :=
      List.filter_eq_self.2 fun d _ => rfl
    rw [unbound] at all
    exact all
  have reads : Reads t scopes.flatten := reads_ofScopes scopes
  have overwrites : Reads overwritten scopes.flatten := reads_bindAll_reverse scopes.flatten
  refine ⟨bindings, reads, overwrites, fun pfx => ?_, fun inner once => ?_, reads_nested⟩
  · rw [overwrites.lookup, reads.lookup]
  · have within : Reads (t.child.bindAll inner) (inner :: scopes).flatten :=
      reads_child_bindAll (distinct_ofScopes scopes) reads once
    exact ⟨within, fun pfx => by rw [within.lookup, (reads_ofScopes _).lookup]⟩

/-- A namespace has one prefix in the outer scope and one in the inner scope, which shadows a prefix
of the outer one. The two ways answer with different prefixes of the namespace, and what was
shadowed has none. -/
theorem scopes_read_alike_two_prefixes :
    let outer := [[("b", "urn:one"), ("a", "urn:two")]]
    let inner := [("a", "urn:one")]
    let opened := (ofScopes outer).child.bindAll inner
    opened.bindings = [⟨"b", "urn:one"⟩, ⟨"a", "urn:one"⟩] ∧
      (ofScopes (inner :: outer)).bindings = [⟨"a", "urn:one"⟩, ⟨"b", "urn:one"⟩] ∧
      (∀ pfx, opened.namespaceOf? pfx = (ofScopes (inner :: outer)).namespaceOf? pfx) ∧
      opened.prefixOf? "urn:one" = some "b" ∧
      (ofScopes (inner :: outer)).prefixOf? "urn:one" = some "a" ∧
      opened.prefixOf? "urn:two" = none ∧
      Reads (nested (inner :: outer)) (inner :: outer).flatten := by
  intro outer inner opened
  obtain ⟨-, -, -, -, within, -⟩ := scopes_read_alike outer
  obtain ⟨bindings, -, -, -, -, levels⟩ := scopes_read_alike (inner :: outer)
  have same := (within inner (by decide)).2
  have reads := levels (by decide)
  exact ⟨by decide, bindings.trans (by decide +kernel), same, by decide, by decide, by decide,
    reads⟩

end MarkupBinding.PrefixTable
