import Mathlib.Logic.Function.Iterate
import Mathlib.Order.Monotone.Basic
import MarkupBinding.Proofs.Prefixes.Invariant
/-!
# The search for a free prefix

A namespace without a prefix is given the first one that is free in the order `suggested`,
`nextNumbered suggested`, `nextNumbered (nextNumbered suggested)`, and so on. `firstFree` finds it
with a list from which it strikes what it has passed. `search` is the plain loop instead: it strikes
nothing and asks the table each time, so nothing in its text says that it ends. It does, because the
number at the end of a prefix grows with every step: no prefix comes twice, and after as many steps
as there are bindings one of the prefixes must have been free.

Results:

* `iterate_nextNumbered_injective`: from whatever prefix, the order never comes back to one.
* `search_of_first`: the loop ends at the first free prefix, with one step for each one before it.
* `firstFree_first`: so does `firstFree`, after at most as many steps as prefixes are taken.
* `allocate_first_free`: what an allocation answers and what it leaves.
-/
namespace MarkupBinding

/-! ## The order of the candidates -/

theorem number_iterate_strictMono (pfx : String) :
    StrictMono fun n => number (nextNumbered^[n] pfx) := by
  refine strictMono_nat_of_lt_succ fun n => ?_
  rw [Function.iterate_succ_apply']
  exact number_lt_nextNumbered _

theorem iterate_nextNumbered_injective (pfx : String) :
    Function.Injective fun n => nextNumbered^[n] pfx :=
  fun _ _ same => (number_iterate_strictMono pfx).injective (congrArg number same)

/-- The order goes through taken prefixes only until it comes to the outcome. -/
theorem firstFree_first (taken : List String) (candidate : String) :
    ∃ n ≤ taken.length, firstFree taken candidate = nextNumbered^[n] candidate ∧
      ∀ m < n, nextNumbered^[m] candidate ∈ taken := by
  fun_induction firstFree taken candidate with
  | case2 taken candidate _ =>
    exact ⟨0, Nat.zero_le _, rfl, fun m h => absurd h (Nat.not_lt_zero m)⟩
  | case1 taken candidate mem ih =>
    -- The candidate was struck, which leaves one step less for the rest.
    obtain ⟨n, few, found, passed⟩ := ih
    have pos := List.length_pos_of_mem mem
    rw [List.length_erase_of_mem mem] at few
    refine ⟨n + 1, by omega, found, fun m h => ?_⟩
    cases m with
    | zero => exact mem
    | succ m => exact List.mem_of_mem_erase (passed m (by omega))

/-! ## The plain loop -/

namespace PrefixTable

/-- Goes from a prefix to the next one until it comes to one that is not bound. After a number of
steps it gives up. -/
def search (t : PrefixTable) : Nat → String → Option String
  | 0, pfx => if t.namespaceOf? pfx = none then some pfx else none
  | steps + 1, pfx =>
    if t.namespaceOf? pfx = none then some pfx else t.search steps (nextNumbered pfx)

theorem search_of_free {t : PrefixTable} {pfx : String} (free : pfx ∉ t.boundPrefixes)
    (steps : Nat) : t.search steps pfx = some pfx := by
  have unbound := namespaceOf?_eq_none_iff.2 free
  cases steps <;> simp [search, unbound]

theorem search_of_first {t : PrefixTable} {pfx : String} {n : Nat}
    (passed : ∀ m < n, nextNumbered^[m] pfx ∈ t.boundPrefixes)
    (free : nextNumbered^[n] pfx ∉ t.boundPrefixes) (steps : Nat) :
    t.search steps pfx = if n ≤ steps then some (nextNumbered^[n] pfx) else none := by
  induction n generalizing pfx steps with
  | zero =>
    rw [if_pos (Nat.zero_le steps)]
    exact search_of_free free steps
  | succ n ih =>
    have bound : t.namespaceOf? pfx ≠ none := fun unbound =>
      namespaceOf?_eq_none_iff.1 unbound (passed 0 (Nat.succ_pos n))
    cases steps with
    | zero => simp [search, bound]
    | succ steps =>
      have rest := ih (fun m h => passed (m + 1) (by omega)) free steps
      simpa [search, bound] using rest

/-! ## Allocation -/

/-- A namespace that is bound keeps its first prefix, and nothing changes. Another one is given the
first free prefix of the order, which the plain loop comes to as well, as soon as it is given enough
steps. -/
theorem allocate_first_free (t : PrefixTable) (ns suggested : String) :
    (Function.Injective fun n => nextNumbered^[n] suggested) ∧
      ((∃ before b after, t.bindings = before ++ b :: after ∧ b.ns = ns ∧
          (∀ c ∈ before, c.ns ≠ ns) ∧ t.allocate ns suggested = (⟨b.pfx, false⟩, t)) ∨
        (∀ b ∈ t.bindings, b.ns ≠ ns) ∧ ∃ n ≤ t.bindings.length, ∃ pfx,
          pfx = nextNumbered^[n] suggested ∧ pfx ∉ t.boundPrefixes ∧
          (∀ m < n, nextNumbered^[m] suggested ∈ t.boundPrefixes) ∧
          (∀ steps, t.search steps suggested = if n ≤ steps then some pfx else none) ∧
          t.allocate ns suggested = (⟨pfx, true⟩, ⟨t.bindings ++ [⟨pfx, ns⟩], some pfx⟩)) := by
  refine ⟨iterate_nextNumbered_injective suggested, ?_⟩
  obtain ⟨pfx, found, e⟩ | ⟨unbound, e⟩ := allocate_cases t ns suggested
  · obtain ⟨b, first, rfl⟩ := Option.map_eq_some_iff.1 found
    obtain ⟨same, before, after, whole, others⟩ := List.find?_eq_some_iff_append.1 first
    refine Or.inl ⟨before, b, after, whole, by simpa using same, fun c hc => ?_, e⟩
    simpa using others c hc
  · obtain ⟨n, few, outcome, passed⟩ := firstFree_first t.boundPrefixes suggested
    have free := firstFree_not_mem t.boundPrefixes suggested
    rw [outcome] at free e
    rw [boundPrefixes, List.length_map] at few
    exact Or.inr ⟨prefixOf?_eq_none_iff.1 unbound, n, few, _, rfl, free, passed,
      search_of_first passed free, e⟩

/-- Zeros in front are dropped, so the next prefix is shorter. Where 64 bits cannot hold the next
number, it is longer by a digit. -/
example : (nextNumbered^[2] "s007" = "s9") ∧
    (nextNumbered^[2] "n18446744073709551614" = "n184467440737095516151") ∧
    nextNumbered^[2] "" = "2" := by
  decide +kernel

end PrefixTable

end MarkupBinding
