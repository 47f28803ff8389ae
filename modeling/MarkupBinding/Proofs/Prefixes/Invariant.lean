import MarkupBinding.Prefixes.Table
/-!
# What holds of every prefix table

A prefix table comes about by binding, unbinding and allocating. Here is what each of these leaves
alone, and what they keep whatever the history of the table.

Results:

* `number_lt_nextNumbered`: every step makes the number at the end larger.
* `firstFree_induct`: what holds of a candidate and is kept by every step holds of the outcome.
* `firstFree_not_mem`: the outcome is not taken.
* `distinct_of_reachable`: prefixes are distinct after every history.
* `namespaceOf?_of_mem`: each binding is in force.
* `allocate_cases`: all that an allocation can do.
* `sets_bind`, `sets_unbind`, `sets_allocate`: each change sets one prefix.
* `prefixOf?_eq_none_iff_lookup`: a namespace has no prefix exactly if none is looked up to it.
* `lookups_of_reachable`: all this of every table that some history leads to.
-/
/-! ## The order of numbered prefixes

`nextNumbered` counts on the number at the end of a prefix, or appends a digit where there is none
and where 64 bits cannot hold the next one. Either way the number at the end grows, so the order
never comes back to a prefix, and `firstFree` may strike from its list what it has passed. -/

namespace MarkupBinding

/-- The number at the end of a prefix; zero if it does not end in a digit. -/
def number (pfx : String) : Nat := Decimal.value (trailingDigits pfx.toList)

theorem isDigit_of_mem_write {n : Nat} {c : Char} (h : c ∈ Decimal.write n) : c.isDigit = true :=
  Nat.isDigit_of_mem_toDigits (by decide) (by decide) h

theorem trailingDigits_append {s digits : List Char} (h : ∀ c ∈ digits, c.isDigit = true) :
    trailingDigits (s ++ digits) = trailingDigits s ++ digits := by
  unfold trailingDigits
  rw [List.reverse_append, List.takeWhile_append_of_pos (by simpa using h), List.reverse_append,
    List.reverse_reverse]

theorem trailingDigits_numberStem (s : List Char) : trailingDigits (numberStem s) = [] := by
  unfold trailingDigits numberStem
  rw [List.reverse_reverse]
  cases h : s.reverse.dropWhile Char.isDigit with
  | nil => rfl
  | cons c r =>
    have := List.head?_dropWhile_not Char.isDigit s.reverse
    rw [h] at this
    simp_all

theorem value_append_one (digits : List Char) :
    Decimal.value (digits ++ ['1']) = 10 * Decimal.value digits + 1 := by
  simp [Decimal.value, Nat.ofDigitChars_append, Nat.ofDigitChars_cons]

theorem number_lt_nextNumbered (pfx : String) : number pfx < number (nextNumbered pfx) := by
  unfold number nextNumbered nextNumberedChars
  rw [String.toList_ofList]
  dsimp only
  split
  · rw [trailingDigits_append fun c hc => isDigit_of_mem_write hc, trailingDigits_numberStem,
      List.nil_append, Decimal.value_write]
    omega
  · rw [trailingDigits_append (List.all_eq_true.1 (by decide)), value_append_one]
    omega

theorem firstFree_induct {P : String → Prop} (step : ∀ pfx, P pfx → P (nextNumbered pfx))
    (taken : List String) {candidate : String} (h : P candidate) :
    P (firstFree taken candidate) := by
  fun_induction firstFree taken candidate with
  | case1 taken candidate _ ih => exact ih (step candidate h)
  | case2 => exact h

theorem firstFree_not_mem (taken : List String) (candidate : String) :
    firstFree taken candidate ∉ taken := by
  fun_induction firstFree taken candidate with
  | case2 _ _ free => exact free
  | case1 taken candidate _ ih =>
    -- Of what is taken only the candidate has been struck, and the outcome is behind it.
    have behind : number candidate < number (firstFree (taken.erase candidate)
        (nextNumbered candidate)) :=
      firstFree_induct (P := fun pfx => number candidate < number pfx)
        (fun pfx h => Nat.lt_trans h (number_lt_nextNumbered pfx)) _
        (number_lt_nextNumbered candidate)
    intro mem
    have other : firstFree (taken.erase candidate) (nextNumbered candidate) ≠ candidate := by
      intro same
      rw [same] at behind
      exact Nat.lt_irrefl _ behind
    exact ih ((List.mem_erase_of_ne other).2 mem)

end MarkupBinding

/-! ## What holds of every prefix table

Whatever the history of a prefix table, no two of its bindings share a prefix (`Distinct`). So a
binding that stands anywhere in the table is what its prefix is looked up to, and the prefix that is
found for a namespace leads back to it. An allocation either finds a binding of the namespace and
changes nothing, or puts one new binding behind all others. -/

namespace MarkupBinding.PrefixTable

/-- No two bindings share a prefix. -/
def Distinct (t : PrefixTable) : Prop := t.boundPrefixes.Nodup

/-- The table after a binding was allocated: it stands behind all others. -/
def allocated (t : PrefixTable) (b : Binding) : PrefixTable := ⟨t.bindings ++ [b], some b.pfx⟩

/-! ### Distinct prefixes -/

theorem distinct_empty : Distinct empty := List.nodup_nil

theorem distinct_bind {t : PrefixTable} (h : Distinct t) (pfx ns : String) :
    Distinct (t.bind pfx ns) :=
  Keyed.nodup_upsert h

theorem distinct_bindAll {t : PrefixTable} (h : Distinct t) (pairs : List (String × String)) :
    Distinct (t.bindAll pairs) := by
  induction pairs generalizing t with
  | nil => exact h
  | cons p ps ih => exact ih (distinct_bind h p.1 p.2)

theorem distinct_declare {t : PrefixTable} (h : Distinct t) (pfx ns : String) :
    Distinct (t.declare pfx ns) := by
  unfold declare
  split
  · exact h
  · exact distinct_bind h pfx ns

theorem distinct_ofScopes (scopes : List (List (String × String))) :
    Distinct (ofScopes scopes) := by
  unfold ofScopes
  generalize scopes.flatten = pairs
  suffices h : ∀ t : PrefixTable, Distinct t →
      Distinct (pairs.foldl (fun t p => t.declare p.1 p.2) t) from h _ distinct_empty
  induction pairs with
  | nil => exact fun _ h => h
  | cons p ps ih => exact fun t h => ih _ (distinct_declare h p.1 p.2)

theorem distinct_allocate {t : PrefixTable} (h : Distinct t) (ns suggested : String) :
    Distinct (t.allocate ns suggested).2 := by
  unfold allocate
  split
  · exact h
  · exact distinct_bind h _ ns

theorem distinct_apply {t : PrefixTable} (h : Distinct t) (e : Edit) : Distinct (e.apply t) := by
  cases e with
  | bind pfx ns => exact distinct_bind h pfx ns
  | unbind pfx => exact Keyed.nodup_erase h
  | common => exact distinct_bindAll h Namespace.common
  | allocate ns suggested => exact distinct_allocate h ns suggested
  | child => exact h

theorem distinct_of_reachable {t : PrefixTable} (h : Reachable t) : Distinct t := by
  induction h with
  | start s =>
    cases s with
    | empty => exact distinct_empty
    | presentation => exact distinct_bind distinct_empty "" Namespace.presentation
    | scopes declared => exact distinct_ofScopes declared
  | edit _ e ih => exact distinct_apply ih e

/-! ### Looking up -/

theorem namespaceOf?_of_mem {t : PrefixTable} (h : Distinct t) {b : Binding}
    (hb : b ∈ t.bindings) : t.namespaceOf? b.pfx = some b.ns := by
  rw [namespaceOf?, Keyed.get?_of_mem h hb, Option.map_some]

theorem mem_of_prefixOf? {t : PrefixTable} {ns pfx : String} (h : t.prefixOf? ns = some pfx) :
    ⟨pfx, ns⟩ ∈ t.bindings := by
  obtain ⟨b, hb, rfl⟩ := Option.map_eq_some_iff.1 h
  have hns : b.ns = ns := by simpa using List.find?_some hb
  subst hns
  exact List.mem_of_find?_eq_some hb

theorem prefixOf?_eq_none_iff {t : PrefixTable} {ns : String} :
    t.prefixOf? ns = none ↔ ∀ b ∈ t.bindings, b.ns ≠ ns := by
  simp [prefixOf?]

/-! ### Allocation -/

theorem prefixOf?_allocated (t : PrefixTable) (b : Binding) (ns : String) :
    (t.allocated b).prefixOf? ns =
      (t.prefixOf? ns).or (if b.ns = ns then some b.pfx else none) := by
  rw [prefixOf?, prefixOf?, allocated, List.find?_append, Option.map_or, List.find?_singleton]
  by_cases h : b.ns = ns
  · simp [h]
  · simp [h]

theorem bind_of_not_mem {t : PrefixTable} {pfx : String} (h : pfx ∉ t.boundPrefixes)
    (ns : String) : (t.bind pfx ns).bindings = t.bindings ++ [⟨pfx, ns⟩] :=
  Keyed.upsert_of_not_mem h

theorem allocate_cases (t : PrefixTable) (ns suggested : String) :
    (∃ pfx, t.prefixOf? ns = some pfx ∧ t.allocate ns suggested = (⟨pfx, false⟩, t)) ∨
    (t.prefixOf? ns = none ∧
      t.allocate ns suggested = (⟨firstFree t.boundPrefixes suggested, true⟩,
        t.allocated ⟨firstFree t.boundPrefixes suggested, ns⟩)) := by
  cases h : t.prefixOf? ns with
  | some pfx => exact Or.inl ⟨pfx, rfl, allocate_of_bound h suggested⟩
  | none =>
    have fresh := bind_of_not_mem (firstFree_not_mem t.boundPrefixes suggested) ns
    refine Or.inr ⟨rfl, ?_⟩
    rw [allocate_of_unbound h]
    simp only [fresh, allocated]

/-- The prefix that an allocation gives is the one that the namespace has from then on. -/
theorem prefixOf?_allocate (t : PrefixTable) (ns suggested : String) :
    (t.allocate ns suggested).2.prefixOf? ns = some (t.allocate ns suggested).1.pfx := by
  obtain ⟨pfx, h, e⟩ | ⟨h, e⟩ := allocate_cases t ns suggested
  · rw [e]
    exact h
  · rw [e, prefixOf?_allocated, h, if_pos rfl, Option.none_or]

/-- What was bound before an allocation stands in front afterwards. -/
theorem bindings_isPrefix_allocate (t : PrefixTable) (ns suggested : String) :
    t.bindings <+: (t.allocate ns suggested).2.bindings := by
  obtain ⟨pfx, -, e⟩ | ⟨-, e⟩ := allocate_cases t ns suggested
  · rewrite [e]
    exact List.prefix_refl _
  · rewrite [e]
    exact List.prefix_append _ _

/-- What holds of all bound prefixes and of the suggestion, and is kept by numbering, holds of all
bound prefixes after an allocation. -/
theorem forall_bound_allocate {P : String → Prop} (step : ∀ pfx, P pfx → P (nextNumbered pfx))
    {t : PrefixTable} (bound : ∀ b ∈ t.bindings, P b.pfx) (ns : String) {suggested : String}
    (h : P suggested) : ∀ b ∈ (t.allocate ns suggested).2.bindings, P b.pfx := by
  obtain ⟨pfx, -, e⟩ | ⟨-, e⟩ := allocate_cases t ns suggested
  · rw [e]
    exact bound
  · rw [e]
    intro b hb
    rcases List.mem_append.1 hb with hb | hb
    · exact bound b hb
    · rw [List.mem_singleton.1 hb]
      exact firstFree_induct step t.boundPrefixes h

end MarkupBinding.PrefixTable

/-! ## What a change of a prefix table leaves alone

Binding, unbinding and allocating are about one prefix each: the one they are given, or the one that
the allocation answers with. `Sets` says that a change sets the look-up of this prefix and of no
other, and that the bindings of all others keep their order. A binding that is replaced stays where
it is, one that is taken out leaves no gap, and a new one goes behind all others.

Because prefixes are distinct, looking up a prefix and looking for a prefix of a namespace are two
views of the same bindings, and each can be told from the other. -/

namespace MarkupBinding.PrefixTable

/-- The bindings of the other prefixes, in order. -/
def others (t : PrefixTable) (pfx : String) : List Binding := t.bindings.filter fun b => b.pfx ≠ pfx

/-- A change from `t` to `t'` gives one prefix a new look-up. All others are looked up as before,
and their bindings stand in the same order. -/
structure Sets (pfx : String) (found : Option String) (t t' : PrefixTable) : Prop where
  lookup : ∀ p, t'.namespaceOf? p = if p = pfx then found else t.namespaceOf? p
  order : t'.others pfx = t.others pfx

/-! ### The two look-ups -/

theorem mem_of_namespaceOf? {t : PrefixTable} {pfx ns : String} (h : t.namespaceOf? pfx = some ns) :
    ⟨pfx, ns⟩ ∈ t.bindings := by
  obtain ⟨b, hb, rfl⟩ := Option.map_eq_some_iff.1 h
  have key : b.pfx = pfx := Keyed.key_of_get?_eq_some hb
  subst key
  exact Keyed.mem_of_get?_eq_some hb

theorem namespaceOf?_of_prefixOf? {t : PrefixTable} (h : Distinct t) {ns pfx : String}
    (found : t.prefixOf? ns = some pfx) : t.namespaceOf? pfx = some ns :=
  namespaceOf?_of_mem h (mem_of_prefixOf? found)

theorem prefixOf?_eq_none_iff_lookup {t : PrefixTable} (h : Distinct t) {ns : String} :
    t.prefixOf? ns = none ↔ ∀ pfx, t.namespaceOf? pfx ≠ some ns := by
  rw [prefixOf?_eq_none_iff]
  constructor
  · intro unbound pfx found
    exact unbound _ (mem_of_namespaceOf? found) rfl
  · intro unbound b hb same
    exact unbound b.pfx (same ▸ namespaceOf?_of_mem h hb)

/-! ### The three changes -/

theorem sets_bind (t : PrefixTable) (pfx ns : String) : Sets pfx (some ns) t (t.bind pfx ns) where
  lookup := namespaceOf?_bind t pfx ns
  order := Keyed.filter_upsert Binding.pfx ⟨pfx, ns⟩ t.bindings

theorem sets_unbind {t : PrefixTable} (h : Distinct t) (pfx : String) :
    Sets pfx none t (t.unbind pfx) where
  lookup := by
    intro p
    split
    · next same =>
      rw [same, namespaceOf?, unbind, Keyed.get?_erase_self h, Option.map_none]
    · next other => exact namespaceOf?_unbind_of_ne other t
  order := Keyed.filter_erase Binding.pfx pfx t.bindings

theorem sets_allocate {t : PrefixTable} (h : Distinct t) (ns suggested : String) :
    Sets (t.allocate ns suggested).1.pfx (some ns) t (t.allocate ns suggested).2 := by
  cases found : t.prefixOf? ns with
  | some pfx =>
    -- Nothing changes, and the prefix was looked up to the namespace already.
    have bound := namespaceOf?_of_prefixOf? h found
    rw [allocate_of_bound found]
    refine ⟨fun p => ?_, rfl⟩
    split
    · next same => rw [same, bound]
    · rfl
  | none =>
    have sets := sets_bind t (firstFree t.boundPrefixes suggested) ns
    rw [allocate_of_unbound found]
    exact ⟨sets.lookup, sets.order⟩

/-! ### After every history -/

theorem lookups_of_reachable {t : PrefixTable} (h : Reachable t) :
    t.boundPrefixes.Nodup ∧
      (∀ ns pfx, t.prefixOf? ns = some pfx → t.namespaceOf? pfx = some ns) ∧
      (∀ ns, t.prefixOf? ns = none ↔ ∀ pfx, t.namespaceOf? pfx ≠ some ns) ∧
      (∀ pfx ns, Sets pfx (some ns) t (t.bind pfx ns)) ∧
      (∀ pfx, Sets pfx none t (t.unbind pfx)) ∧
      ∀ ns suggested,
        Sets (t.allocate ns suggested).1.pfx (some ns) t (t.allocate ns suggested).2 := by
  have distinct := distinct_of_reachable h
  exact ⟨distinct, fun _ _ => namespaceOf?_of_prefixOf? distinct,
    fun _ => prefixOf?_eq_none_iff_lookup distinct, sets_bind t, sets_unbind distinct,
    sets_allocate distinct⟩

/-- A prefix in the middle is taken out, which frees it for an allocation. The numbered prefix that
was allocated while it was taken stays in place. -/
theorem lookups_of_reachable_freed :
    let t := (presentation.run [.bind "s" "urn:one", .allocate "urn:two" "s"]).unbind "s"
    t.bindings = [⟨"", Namespace.presentation⟩, ⟨"s1", "urn:two"⟩] ∧
      t.namespaceOf? "s1" = some "urn:two" ∧ (t.allocate "urn:three" "s").1.pfx = "s" ∧
      (t.allocate "urn:three" "s").2.namespaceOf? "s1" = some "urn:two" := by
  intro t
  have reachable : Reachable t :=
    (reachable_run (.start .presentation) [.bind "s" "urn:one", .allocate "urn:two" "s"]).edit
      (.unbind "s")
  have bindings : t.bindings = [⟨"", Namespace.presentation⟩, ⟨"s1", "urn:two"⟩] := by
    decide +kernel
  have freed : (t.allocate "urn:three" "s").1.pfx = "s" := by decide +kernel
  obtain ⟨-, sound, -, -, -, allocates⟩ := lookups_of_reachable reachable
  have bound : t.namespaceOf? "s1" = some "urn:two" := sound "urn:two" "s1" (by decide +kernel)
  have kept := (allocates "urn:three" "s").lookup "s1"
  rw [freed, if_neg (by decide), bound] at kept
  exact ⟨bindings, bound, freed, kept⟩

end MarkupBinding.PrefixTable
