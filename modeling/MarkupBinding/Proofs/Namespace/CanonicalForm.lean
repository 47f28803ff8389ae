import MarkupBinding.Namespace.Identifier
/-!
# Which identifiers have the same canonical form

The identifier of a library namespace is read as a path and an assembly. Its canonical form is what
is written from the two, after the names of the core library were made one; so identifiers have the
same canonical form exactly if they have the same path, and the same assembly or two names of the
core library. An identifier without an assembly is told from one with an empty assembly.

Identifiers that are written by hand need not look like that. There may be blanks around the whole
and around each part (`Padded`), and further parts that name no assembly (`Loosened`). All this is
skipped when the identifier is read, so it does not show in the canonical form.

Results:

* `canonical_eq_iff`: when two namespaces become the same.
* `read?_of_padded`: what is read from a path and parts with blanks around the whole.
* `canonicalNamespace_normal`: the canonical form decides which identifiers belong together, and
  nothing else does.
-/
namespace MarkupBinding.AssemblyNamespace

open Text

/-- The second text is the first one with blanks around it. -/
def Padded (s t : List Char) : Prop :=
  ∃ front back, (∀ c ∈ front, isBlank c = true) ∧ (∀ c ∈ back, isBlank c = true) ∧
    t = front ++ s ++ back

/-- The second list of parts is the first one with blanks around the parts, and with other parts in
between that name no assembly. -/
inductive Loosened : List (List Char) → List (List Char) → Prop where
  | nil : Loosened [] []
  | padded {part part' : List Char} {parts parts' : List (List Char)} (around : Padded part part')
      (rest : Loosened parts parts') : Loosened (part :: parts) (part' :: parts')
  | extra {part : List Char} {parts parts' : List (List Char)}
      (unnamed : ¬ assemblyKey <+: trim part) (single : ';' ∉ part)
      (rest : Loosened parts parts') : Loosened parts (part :: parts')

/-- The text of an identifier with a path and further parts. -/
def written (path : List Char) (parts : List (List Char)) : List Char :=
  scheme ++ [';'].intercalate (path :: parts)

/-! ## Namespaces that become the same -/

theorem isCore_iff {n : AssemblyNamespace} :
    n.isCore = true ↔ ∃ name ∈ coreAssemblies, n.assembly = some name := by
  unfold isCore
  cases e : n.assembly with
  | none => simp
  | some name => simp

theorem canonical_eq_iff {m n : AssemblyNamespace} : m.canonical = n.canonical ↔
    m.path = n.path ∧ (m.assembly = n.assembly ∨ m.isCore = true ∧ n.isCore = true) := by
  constructor
  · intro same
    have core : m.isCore = n.isCore := by rw [← isCore_canonical, same, isCore_canonical]
    have path {k : AssemblyNamespace} : k.canonical.path = k.path := by
      unfold canonical
      split <;> rfl
    refine ⟨by rw [← path, same, path], ?_⟩
    cases h : n.isCore with
    | true => exact Or.inr ⟨core.trans h, rfl⟩
    | false =>
      have other : ¬ false = true := Bool.false_ne_true
      rw [canonical, canonical, core, h, if_neg other, if_neg other] at same
      exact Or.inl (congrArg assembly same)
  · rintro ⟨path, assembly | ⟨coreM, coreN⟩⟩
    · have same : m = n := by
        obtain ⟨p, a⟩ := m
        cases path
        cases assembly
        rfl
      rw [same]
    · rw [canonical, canonical, if_pos coreM, if_pos coreN, path]

theorem text_inj {m n : AssemblyNamespace} (hm : Writable m) (hn : Writable n) :
    m.text = n.text ↔ m = n := by
  refine ⟨fun same => ?_, fun same => by rw [same]⟩
  have read := read?_text hm
  rw [same, read?_text hn] at read
  exact (Option.some.inj read).symm

theorem canonicalNamespace_text {n : AssemblyNamespace} (h : Writable n) :
    canonicalNamespace n.text = n.canonical.text := by
  rw [canonicalNamespace, read?_text h]

theorem canonicalNamespace_text_eq_iff {m n : AssemblyNamespace} (hm : Writable m)
    (hn : Writable n) : canonicalNamespace m.text = canonicalNamespace n.text ↔
      m.path = n.path ∧ (m.assembly = n.assembly ∨
        (∃ name ∈ coreAssemblies, m.assembly = some name) ∧
          ∃ name ∈ coreAssemblies, n.assembly = some name) := by
  rw [canonicalNamespace_text hm, canonicalNamespace_text hn, text_inj hm.canonical hn.canonical,
    canonical_eq_iff, isCore_iff, isCore_iff]

/-! ## Blanks and other parts -/

theorem padded_refl (s : List Char) : Padded s s :=
  ⟨[], [], fun _ h => absurd h List.not_mem_nil, fun _ h => absurd h List.not_mem_nil, by simp⟩

theorem Padded.trim_eq {s t : List Char} (h : Padded s t) : trim t = trim s := by
  obtain ⟨front, back, hf, hb, rfl⟩ := h
  rw [trim_append_blank hb, trim_blank_append hf]

theorem Padded.not_mem {s t : List Char} (h : Padded s t) (single : ';' ∉ s) : ';' ∉ t := by
  obtain ⟨front, back, hf, hb, rfl⟩ := h
  have visible : isBlank ';' = false := by decide
  simp only [List.mem_append, not_or]
  refine ⟨⟨fun mem => ?_, single⟩, fun mem => ?_⟩
  · exact absurd (hf _ mem) (by rw [visible]; exact Bool.false_ne_true)
  · exact absurd (hb _ mem) (by rw [visible]; exact Bool.false_ne_true)

theorem assembly?_congr {s t : List Char} (h : trim t = trim s) : assembly? t = assembly? s := by
  rw [assembly?, assembly?, h]

theorem assembly?_eq_none {part : List Char} (h : ¬ assemblyKey <+: trim part) :
    assembly? part = none := by
  cases e : dropStart? assemblyKey (trim part) with
  | none => rw [assembly?, e, Option.map_none]
  | some name => exact absurd ⟨name, (dropStart?_eq_some_iff.1 e).symm⟩ h

theorem Loosened.findSome? {parts parts' : List (List Char)} (h : Loosened parts parts') :
    parts'.findSome? assembly? = parts.findSome? assembly? := by
  induction h with
  | nil => rfl
  | padded around _ ih =>
    rw [List.findSome?_cons, List.findSome?_cons, assembly?_congr around.trim_eq, ih]
  | extra unnamed _ _ ih => rw [List.findSome?_cons, assembly?_eq_none unnamed, ih]

theorem Loosened.single {parts parts' : List (List Char)} (h : Loosened parts parts')
    (single : ∀ part ∈ parts, ';' ∉ part) : ∀ part ∈ parts', ';' ∉ part := by
  induction h with
  | nil => exact single
  | padded around _ ih =>
    rw [List.forall_mem_cons] at single ⊢
    exact ⟨around.not_mem single.1, ih single.2⟩
  | extra _ alone _ ih => exact List.forall_mem_cons.2 ⟨alone, ih single⟩

/-- Trimming the whole trims the last part at its end, where it is trimmed anyway. -/
theorem read?_of_padded {path : List Char} {parts : List (List Char)}
    (single : ∀ part ∈ path :: parts, ';' ∉ part) {text : List Char}
    (h : Padded (written path parts) text) :
    read? (String.ofList text) =
      some ⟨String.ofList (trim path), parts.findSome? assembly?⟩ := by
  generalize hs : [';'].intercalate (path :: parts) = s
  have whole : pieces (· == ';') s = path :: parts := hs ▸ pieces_intercalate single
  obtain ⟨back, blank, cut⟩ := exists_trimEnd s
  have skip : ∀ c ∈ back, (c == ';') = false := by
    refine beq_eq_false_of_not_mem fun mem => ?_
    exact absurd (blank _ mem) (by decide)
  obtain ⟨init, last, inner, outer⟩ := exists_append_pieces skip (trimEnd s)
  rw [← cut, whole] at outer
  have same : trim (last ++ back) = trim last := trim_append_blank blank last
  have scheme_eq : trim text = scheme ++ trimEnd s := by
    rw [h.trim_eq, written, hs]
    exact trim_append_eq (by decide) (by decide) s
  rw [read?, String.toList_ofList, scheme_eq, dropStart?_eq_some_iff.2 rfl]
  dsimp only
  rw [inner]
  cases init with
  | nil =>
    obtain ⟨rfl, rfl⟩ := List.cons.inj outer
    rw [List.nil_append]
    dsimp only
    rw [same]
  | cons first init =>
    rw [List.cons_append] at outer ⊢
    obtain ⟨rfl, rfl⟩ := List.cons.inj outer
    dsimp only
    rw [List.findSome?_append, List.findSome?_append, List.findSome?_singleton,
      List.findSome?_singleton, assembly?_congr same]

/-! ## The canonical form -/

theorem canonicalNamespace_normal :
    (∀ id, canonicalNamespace (canonicalNamespace id) = canonicalNamespace id) ∧
    (∀ n, Writable n → read? n.text = some n) ∧
    (∀ m n, Writable m → Writable n →
      (canonicalNamespace m.text = canonicalNamespace n.text ↔
        m.path = n.path ∧ (m.assembly = n.assembly ∨
          (∃ name ∈ coreAssemblies, m.assembly = some name) ∧
            ∃ name ∈ coreAssemblies, n.assembly = some name))) ∧
    (∀ path, Part path →
      canonicalNamespace (text ⟨path, none⟩) ≠ canonicalNamespace (text ⟨path, some ""⟩)) ∧
    ∀ path path' parts parts' id, (∀ part ∈ path :: parts, ';' ∉ part) → Padded path path' →
      Loosened parts parts' → Padded (written path' parts') id →
        canonicalNamespace (String.ofList id) =
          canonicalNamespace (String.ofList (written path parts)) := by
  refine ⟨canonicalNamespace_idem, fun _ => read?_text, fun _ _ => canonicalNamespace_text_eq_iff,
    fun path part same => ?_, ?_⟩
  · have absent : Writable ⟨path, none⟩ := ⟨part, fun _ h => nomatch h⟩
    have empty : Writable ⟨path, some ""⟩ :=
      ⟨part, fun _ h => Option.some.inj h ▸ ⟨rfl, List.not_mem_nil⟩⟩
    have equal := (canonicalNamespace_text_eq_iff absent empty).1 same
    obtain ⟨-, different | ⟨⟨name, -, core⟩, -⟩⟩ := equal
    · cases different
    · cases core
  · intro path path' parts parts' id single around loosened outer
    have single' : ∀ part ∈ path' :: parts', ';' ∉ part := by
      rw [List.forall_mem_cons] at single ⊢
      exact ⟨around.not_mem single.1, loosened.single single.2⟩
    rw [canonicalNamespace, canonicalNamespace, read?_of_padded single' outer,
      read?_of_padded single (padded_refl _), around.trim_eq, loosened.findSome?]

/-- Two names of the core library, a library of another name, and an identifier with blanks of two
kinds and a part that says something else. -/
theorem canonicalNamespace_normal_core :
    let legacy : AssemblyNamespace := ⟨"System", some "mscorlib"⟩
    let current : AssemblyNamespace := ⟨"System", some "System.Private.CoreLib"⟩
    let other : AssemblyNamespace := ⟨"System", some "Acme"⟩
    read? legacy.text = some legacy ∧
      canonicalNamespace legacy.text = canonicalNamespace current.text ∧
      canonicalNamespace legacy.text ≠ canonicalNamespace other.text ∧
      canonicalNamespace "\u3000clr-namespace:System ;Version=4; assembly=mscorlib\t" =
        canonicalNamespace "clr-namespace:System;assembly=mscorlib" := by
  intro legacy current other
  have part {s : String} (h : trim s.toList = s.toList ∧ ';' ∉ s.toList) : Part s := h
  have system : Part "System" := part (by decide)
  have writable {name : String} (h : Part name) : Writable ⟨"System", some name⟩ :=
    ⟨system, fun _ e => Option.some.inj e ▸ h⟩
  have hl : Writable legacy := writable (part (by decide))
  have hc : Writable current := writable (part (by decide))
  have ho : Writable other := writable (part (by decide))
  obtain ⟨-, back, same_iff, -, loose⟩ := canonicalNamespace_normal
  have core : ∃ name ∈ coreAssemblies, legacy.assembly = some name := ⟨"mscorlib", by decide, rfl⟩
  have padded {s t : List Char} (front back : List Char)
      (blank : front.all isBlank = true ∧ back.all isBlank = true)
      (whole : t = front ++ s ++ back) :
      Padded s t :=
    ⟨front, back, List.all_eq_true.1 blank.1, List.all_eq_true.1 blank.2, whole⟩
  have loosened : Loosened ["assembly=mscorlib".toList]
      ["Version=4".toList, " assembly=mscorlib".toList] :=
    .extra (by decide) (by decide) (.padded (padded [' '] [] (by decide) (by decide)) .nil)
  have looser := loose "System".toList "System ".toList _ _
    "\u3000clr-namespace:System ;Version=4; assembly=mscorlib\t".toList (by decide)
    (padded [] [' '] (by decide) (by decide)) loosened
    (padded ['\u3000'] ['\t'] (by decide) (by decide))
  refine ⟨back legacy hl,
    (same_iff legacy current hl hc).2
      ⟨rfl, Or.inr ⟨core, "System.Private.CoreLib", by decide, rfl⟩⟩,
    fun same => ?_, ?_⟩
  · obtain ⟨-, different | ⟨-, name, mem, e⟩⟩ := (same_iff legacy other hl ho).1 same
    · exact absurd different (by decide)
    · exact absurd mem (by rw [← Option.some.inj e]; decide)
  · rw [String.ofList_toList] at looser
    exact looser.trans (congrArg canonicalNamespace (by decide))

end MarkupBinding.AssemblyNamespace
