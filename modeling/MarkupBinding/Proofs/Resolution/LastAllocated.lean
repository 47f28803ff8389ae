import MarkupBinding.Proofs.Resolution.Stability
/-!
# The slot of the last allocation

A caller who wants to know whether a call bound something can compare the slot before and after it.
This takes more than a look at the one call: an allocation writes the slot, so it must not hold the
prefix that is allocated already. It never does as long as nothing is taken out, because the prefix
in the slot stays bound (`SlotBound`), and an allocation gives out a prefix that is free.

What a call puts behind the bindings, what it leaves in the slot and what it reports are three views
of one list (`Appends`). A key may bind a prefix for its type and one for the markup language, so
this list has up to two members; the slot shows the last of them, the reports show all.

Results:

* `appends_nameOrBind`, `appends_markup`, `appends_apply`: what is reported is what was appended.
* `slotBound_apply`, `slotBound_of_undiminished`: the prefix in the slot stays bound.
* `announcement_append_inj`: a report tells which prefix was bound to which namespace.
* `lastAllocated_apply`: the slot changes exactly if something was appended, and the reports of what
  was appended tell exactly that.
-/
namespace MarkupBinding

open PrefixTable
open ResourceKey (wrap)

namespace Step

/-- The step takes out a binding. -/
def unbinds : Step → Bool
  | .edit (.unbind _) => true
  | _ => false

/-- The step asks for a prefix: it allocates one or names something. -/
def mayAllocate : Step → Bool
  | .edit (.allocate ..) => true
  | .edit _ => false
  | .type .. => true
  | .key _ => true

end Step

namespace Binding

/-- How a report about a binding starts. -/
def announcement (b : Binding) : String :=
  "bound prefix " ++ Text.quoted b.pfx ++ " to " ++ Text.quoted b.ns

/-- The prefix and the namespace can be read off the start of a report, whatever follows. -/
theorem announcement_append_inj {a b : Binding} {s t : List Char}
    (h : a.announcement.toList ++ s = b.announcement.toList ++ t) : a = b ∧ s = t := by
  simp only [announcement, String.toList_append, List.append_assoc] at h
  obtain ⟨pfx, behind⟩ := Text.quoted_append_inj (List.append_cancel_left h)
  obtain ⟨ns, rest⟩ := Text.quoted_append_inj (List.append_cancel_left behind)
  obtain ⟨ap, an⟩ := a
  obtain ⟨bp, bn⟩ := b
  exact ⟨congr (congrArg Binding.mk pfx) ns, rest⟩

theorem eq_of_announcement_isPrefix {a b : Binding} {s : List Char}
    (ha : a.announcement.toList <+: s) (hb : b.announcement.toList <+: s) : a = b := by
  obtain ⟨x, hx⟩ := ha
  obtain ⟨y, hy⟩ := hb
  exact (announcement_append_inj (hx.trans hy.symm)).1

end Binding

namespace PrefixTable

/-- The tables that a document may have if nothing is taken out: they start afresh, or as that of a
nested context, and each call may use aliases of its own. -/
inductive Undiminished : PrefixTable → Prop where
  | start (s : Start) : Undiminished s.table
  | child {t : PrefixTable} (h : Reachable t) : Undiminished t.child
  | step {t : PrefixTable} (h : Undiminished t) (aliases : Aliases) {s : Step}
      (kept : s.unbinds = false) : Undiminished (s.apply aliases t).1

/-- The prefix in the slot is bound. -/
def SlotBound (t : PrefixTable) : Prop := ∀ pfx ∈ t.lastAllocated, pfx ∈ t.boundPrefixes

/-- A change from `t` to `t'` puts bindings behind all others. Their prefixes were free, and that of
the last one is left in the slot. -/
structure Appends (added : List Binding) (t t' : PrefixTable) : Prop where
  bindings : t'.bindings = t.bindings ++ added
  slot : t'.lastAllocated = (added.getLast?.map Binding.pfx).or t.lastAllocated
  free : ∀ b ∈ added, b.pfx ∉ t.boundPrefixes

namespace Appends

variable {added more : List Binding} {t t' t'' : PrefixTable}

theorem refl (t : PrefixTable) : Appends [] t t where
  bindings := (List.append_nil _).symm
  slot := rfl
  free := fun _ hb => absurd hb List.not_mem_nil

theorem boundPrefixes_eq (h : Appends added t t') :
    t'.boundPrefixes = t.boundPrefixes ++ added.map Binding.pfx := by
  rw [boundPrefixes, h.bindings, List.map_append]
  rfl

theorem trans (h : Appends added t t') (h' : Appends more t' t'') :
    Appends (added ++ more) t t'' where
  bindings := by rw [h'.bindings, h.bindings, List.append_assoc]
  slot := by rw [h'.slot, h.slot, List.getLast?_append, Option.map_or, Option.or_assoc]
  free := by
    intro b hb
    rcases List.mem_append.1 hb with hb | hb
    · exact h.free b hb
    · intro bound
      refine h'.free b hb ?_
      rw [h.boundPrefixes_eq]
      exact List.mem_append_left _ bound

theorem allocated {b : Binding} (free : b.pfx ∉ t.boundPrefixes) :
    Appends [b] t (t.allocated b) where
  bindings := rfl
  slot := rfl
  free := fun _ hc => List.mem_singleton.1 hc ▸ free

theorem slot_eq (h : Appends added t t') {b : Binding} (last : b ∈ added.getLast?) :
    t'.lastAllocated = some b.pfx := by
  rw [h.slot, Option.mem_def.1 last]
  rfl

theorem slotBound (h : Appends added t t') (bound : SlotBound t) : SlotBound t' := by
  intro pfx mem
  rw [h.boundPrefixes_eq]
  cases last : added.getLast? with
  | none =>
    rw [h.slot, last] at mem
    exact List.mem_append_left _ (bound pfx mem)
  | some b =>
    rw [h.slot_eq last] at mem
    obtain rfl := Option.some.inj mem
    exact List.mem_append_right _ (List.mem_map_of_mem (List.mem_of_getLast? last))

theorem slot_ne_iff (h : Appends added t t') (bound : SlotBound t) :
    t'.lastAllocated ≠ t.lastAllocated ↔ added ≠ [] := by
  cases last : added.getLast? with
  | none =>
    have nothing := List.getLast?_eq_none_iff.1 last
    have same : t'.lastAllocated = t.lastAllocated := by
      rw [h.slot, last]
      rfl
    simp [nothing, same]
  | some b =>
    -- The new prefix was free, and the one in the slot is bound.
    have mem := List.mem_of_getLast? last
    have changed : t'.lastAllocated ≠ t.lastAllocated := by
      rw [h.slot_eq last]
      exact fun same => h.free b mem (bound b.pfx same.symm)
    exact ⟨fun _ => List.ne_nil_of_mem mem, fun _ => changed⟩

end Appends

theorem exists_appends_allocate (t : PrefixTable) (ns suggested : String) :
    ∃ added, Appends added t (t.allocate ns suggested).2 := by
  obtain ⟨pfx, -, e⟩ | ⟨-, e⟩ := allocate_cases t ns suggested
  · rw [e]
    exact ⟨[], .refl t⟩
  · rw [e]
    exact ⟨_, .allocated (firstFree_not_mem t.boundPrefixes suggested)⟩

end PrefixTable

/-! ## Reports -/

theorem announcement_isPrefix_message (e : NamingEvent) :
    e.binding.announcement.toList <+: e.message.toList := by
  cases e with
  | forType b typeName =>
    have message : (NamingEvent.forType b typeName).message =
        b.announcement ++ " for type " ++ typeName := rfl
    rw [message, String.toList_append, String.toList_append, List.append_assoc]
    exact List.prefix_append _ _
  | forLanguage b => exact List.prefix_refl _

theorem appends_nameOrBind (aliases : Aliases) (head : TypeHead) (t : PrefixTable) :
    Appends ((nameOrBind aliases head t).events.map NamingEvent.binding) t
      (nameOrBind aliases head t).table := by
  obtain ⟨_, -, -, e⟩ | ⟨-, e⟩ := nameOrBind_cases aliases head t
  · rw [e]
    exact .refl t
  · rw [e]
    exact .allocated (firstFree_not_mem t.boundPrefixes (aliases.suggest head))

theorem appends_languageNaming (t : PrefixTable) :
    Appends ((languageNaming t).events.map NamingEvent.binding) t (languageNaming t).table := by
  unfold languageNaming
  obtain ⟨pfx, -, e⟩ | ⟨-, e⟩ := allocate_cases t Namespace.language languagePrefix
  · rw [e]
    exact .refl t
  · rw [e]
    exact .allocated (firstFree_not_mem t.boundPrefixes languagePrefix)

theorem appends_wrap {t : PrefixTable} {n : Naming}
    (h : Appends (n.events.map NamingEvent.binding) t n.table) :
    Appends ((wrap n).events.map NamingEvent.binding) t (wrap n).table := by
  rw [wrap, List.map_append]
  exact h.trans (appends_languageNaming n.table)

theorem appends_markup (aliases : Aliases) (t : PrefixTable) (key : ResourceKey) :
    Appends ((key.markup aliases t).events.map NamingEvent.binding) t
      (key.markup aliases t).table := by
  cases key with
  | name key => exact .refl t
  | type head => exact appends_wrap (appends_nameOrBind aliases head t)
  | component head resource =>
    have named := appends_nameOrBind aliases head t
    unfold ResourceKey.markup
    dsimp only
    split
    · exact appends_wrap named
    · exact named

theorem appends_apply {s : Step} (naming : s.isNaming = true) (aliases : Aliases)
    (t : PrefixTable) :
    Appends ((s.apply aliases t).2.map NamingEvent.binding) t (s.apply aliases t).1 := by
  cases s with
  | edit e => cases naming
  | type head mayBind =>
    unfold Step.apply
    dsimp only
    split
    · next n named =>
      rw [eq_nameOrBind_of_nameOf named]
      exact appends_nameOrBind aliases head t
    · exact .refl t
  | key key => exact appends_markup aliases t key

theorem exists_appends_apply {s : Step} (asks : s.mayAllocate = true) (aliases : Aliases)
    (t : PrefixTable) : ∃ added, Appends added t (s.apply aliases t).1 ∧
      (s.isNaming = true → (s.apply aliases t).2.map NamingEvent.binding = added) := by
  cases s with
  | edit e =>
    cases e with
    | allocate ns suggested =>
      obtain ⟨added, appends⟩ := exists_appends_allocate t ns suggested
      exact ⟨added, appends, fun naming => nomatch naming⟩
    | bind pfx ns => cases asks
    | unbind pfx => cases asks
    | common => cases asks
    | child => cases asks
  | type head mayBind => exact ⟨_, appends_apply rfl aliases t, fun _ => rfl⟩
  | key key => exact ⟨_, appends_apply rfl aliases t, fun _ => rfl⟩

/-! ## The prefix in the slot stays bound -/

namespace PrefixTable

theorem slotBound_of_none {t : PrefixTable} (h : t.lastAllocated = none) : SlotBound t := by
  intro pfx mem
  rw [h] at mem
  cases mem

theorem slotBound_bind {t : PrefixTable} (h : SlotBound t) (pfx ns : String) :
    SlotBound (t.bind pfx ns) :=
  fun p mem => Keyed.mem_keys_upsert.2 (Or.inr (h p mem))

theorem slotBound_bindAll {t : PrefixTable} (h : SlotBound t) (pairs : List (String × String)) :
    SlotBound (t.bindAll pairs) := by
  induction pairs generalizing t with
  | nil => exact h
  | cons p ps ih => exact ih (slotBound_bind h p.1 p.2)

theorem lastAllocated_declare (t : PrefixTable) (pfx ns : String) :
    (t.declare pfx ns).lastAllocated = t.lastAllocated := by
  unfold declare
  split <;> rfl

theorem lastAllocated_ofScopes (scopes : List (List (String × String))) :
    (ofScopes scopes).lastAllocated = none := by
  unfold ofScopes
  refine List.foldlRecOn (motive := fun t : PrefixTable => t.lastAllocated = none) _ _ rfl ?_
  intro t none p _
  rw [lastAllocated_declare, none]

theorem lastAllocated_start (s : Start) : s.table.lastAllocated = none := by
  cases s with
  | empty => rfl
  | presentation => rfl
  | scopes declared => exact lastAllocated_ofScopes declared

end PrefixTable

theorem slotBound_apply {t : PrefixTable} (h : SlotBound t) (aliases : Aliases) {s : Step}
    (kept : s.unbinds = false) : SlotBound (s.apply aliases t).1 := by
  cases s with
  | edit e =>
    cases e with
    | bind pfx ns => exact slotBound_bind h pfx ns
    | unbind pfx => cases kept
    | common => exact slotBound_bindAll h Namespace.common
    | allocate ns suggested =>
      obtain ⟨added, appends⟩ := exists_appends_allocate t ns suggested
      exact appends.slotBound h
    | child => exact slotBound_of_none rfl
  | type head mayBind => exact (appends_apply rfl aliases t).slotBound h
  | key key => exact (appends_apply rfl aliases t).slotBound h

theorem slotBound_of_undiminished {t : PrefixTable} (h : Undiminished t) : SlotBound t := by
  induction h with
  | start s => exact slotBound_of_none (lastAllocated_start s)
  | child _ => exact slotBound_of_none rfl
  | step _ aliases kept ih => exact slotBound_apply ih aliases kept

/-! ## What the slot tells -/

theorem lastAllocated_apply {t : PrefixTable} (h : Undiminished t) (aliases : Aliases) {call : Step}
    (asks : call.mayAllocate = true) :
    let after := (call.apply aliases t).1
    let events := (call.apply aliases t).2
    ∃ added, after.bindings = t.bindings ++ added ∧
      (after.lastAllocated ≠ t.lastAllocated ↔ added ≠ []) ∧
      (∀ b ∈ added.getLast?, after.lastAllocated = some b.pfx) ∧
      (call.isNaming = true → events.map NamingEvent.binding = added ∧
        ∀ e ∈ events, ∀ b : Binding,
          b.announcement.toList <+: e.message.toList ↔ b = e.binding) := by
  intro after events
  obtain ⟨added, appends, reported⟩ := exists_appends_apply asks aliases t
  refine ⟨added, appends.bindings, appends.slot_ne_iff (slotBound_of_undiminished h),
    fun _ last => appends.slot_eq last, fun naming => ⟨reported naming, fun e _ b => ?_⟩⟩
  have named := announcement_isPrefix_message e
  constructor
  · intro announced
    exact Binding.eq_of_announcement_isPrefix announced named
  · rintro rfl
    exact named

/-- In a nested context of a document that has allocated `s`, a key binds two prefixes: the slot
shows the second. Writing the key once more binds nothing. -/
theorem lastAllocated_apply_key :
    let d : TypeHead := .plain "urn:acme/Controls" "Panel" .object
    let outer := (Step.apply .empty .presentation (.edit (.allocate Namespace.system "s"))).1
    let once := (Step.apply .empty outer.child (.key (.type d))).1
    let twice := (Step.apply .wellKnown once (.key (.component d "accent"))).1
    outer.lastAllocated = some "s" ∧ outer.child.lastAllocated = none ∧
      once.bindings =
        outer.bindings ++ [⟨"controls", "urn:acme/Controls"⟩, ⟨"x", Namespace.language⟩] ∧
      once.lastAllocated = some "x" ∧ twice = once := by
  intro d outer once twice
  have nested : Undiminished outer.child :=
    .child ((Reachable.start .presentation).edit (.allocate Namespace.system "s"))
  obtain ⟨added, bindings, -, last, -⟩ :=
    @lastAllocated_apply outer.child nested .empty (.key (.type d)) rfl
  have both : added = [⟨"controls", "urn:acme/Controls"⟩, ⟨"x", Namespace.language⟩] := by
    refine List.append_cancel_left (bindings.symm.trans ?_)
    decide +kernel
  subst both
  exact ⟨by decide +kernel, rfl, bindings, last ⟨"x", Namespace.language⟩ rfl, by decide +kernel⟩

end MarkupBinding
