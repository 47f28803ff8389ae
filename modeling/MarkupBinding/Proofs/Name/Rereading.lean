import MarkupBinding.Name.Qualified
/-!
# Names that are written and read again

A name that was read can be written without the blanks around its parts, and be read again. The
empty prefix is not written, and the colon behind it is not written either. That is right as long as
the local name has no colon of its own; but where it has one, this colon is the first one of what is
written, and what stands in front of it is taken for a prefix. A text is of this kind if nothing but
blanks stands in front of its first colon and another colon follows (`HidesColon`).

Results:

* `read_cases`, `read_of_first_colon`: a text is cut at its first colon, and both parts are
  trimmed.
* `hidesColon_iff`: the texts with a hidden colon are those that give a local name with a colon
  behind the empty prefix.
* `length_name_read_lt`: a text with a colon is longer than its local name.
* `read_text_read_iff`: writing and reading again keeps a name exactly if it has no hidden colon.
-/
namespace MarkupBinding.QualifiedName

open Text

/-- Nothing but blanks stands in front of the first colon, and another colon stands behind it. -/
def HidesColon (text : String) : Prop :=
  ∃ front rest, text.toList = front ++ ':' :: rest ∧ (∀ c ∈ front, isBlank c = true) ∧ ':' ∈ rest

/-- Whether a text is trimmed before it is cut makes no difference. -/
theorem read_cases (text : String) :
    (':' ∉ text.toList ∧ read text = ⟨none, trimmed text⟩) ∨
      ∃ front rest, text.toList = front ++ ':' :: rest ∧ ':' ∉ front ∧
        read text = ⟨some (String.ofList (trim front)), String.ofList (trim rest)⟩ := by
  cases cut : cutFirst? (· == ':') (trim text.toList) with
  | none =>
    have colon : ':' ∉ trim text.toList := by
      intro mem
      exact absurd (cutFirst?_eq_none_iff.1 cut ':' mem) (by decide)
    rw [mem_trim_iff (by decide)] at colon
    exact Or.inl ⟨colon, by simp [read, cut, trimmed]⟩
  | some parts =>
    obtain ⟨pfx, name⟩ := parts
    obtain ⟨first, c, colon, whole⟩ := cutFirst?_eq_some_iff.1 cut
    obtain rfl : c = ':' := by simpa using colon
    obtain ⟨front, back, hf, hb, text_eq⟩ := exists_trim text.toList
    refine Or.inr ⟨front ++ pfx, name ++ back, ?_, ?_, ?_⟩
    · rw [text_eq, whole]
      simp
    · intro mem
      rcases List.mem_append.1 mem with mem | mem
      · exact absurd (hf ':' mem) (by decide)
      · exact absurd (first ':' mem) (by decide)
    · rw [trim_blank_append hf, trim_append_blank hb]
      simp [read, cut]

theorem first_colon_unique {front rest front' rest' : List Char} (first : ':' ∉ front)
    (first' : ':' ∉ front') (h : front ++ ':' :: rest = front' ++ ':' :: rest') :
    front = front' ∧ rest = rest' := by
  have cut : cutFirst? (· == ':') (front ++ ':' :: rest) = some (front, rest) :=
    cutFirst?_eq_some_iff.2 ⟨beq_eq_false_of_not_mem first, ':', rfl, rfl⟩
  have cut' : cutFirst? (· == ':') (front ++ ':' :: rest) = some (front', rest') :=
    cutFirst?_eq_some_iff.2 ⟨beq_eq_false_of_not_mem first', ':', rfl, h⟩
  exact Prod.mk.inj (Option.some.inj (cut.symm.trans cut'))

theorem read_of_first_colon {text : String} {front rest : List Char} (first : ':' ∉ front)
    (h : text.toList = front ++ ':' :: rest) :
    read text = ⟨some (String.ofList (trim front)), String.ofList (trim rest)⟩ := by
  obtain ⟨none, -⟩ | ⟨front', rest', h', first', e⟩ := read_cases text
  · exact absurd (h ▸ by simp) none
  · obtain ⟨rfl, rfl⟩ := first_colon_unique first first' (h.symm.trans h')
    exact e

/-- The first colon of a text decides whether it hides another one. -/
theorem hidesColon_iff_of_first {text : String} {front rest : List Char} (first : ':' ∉ front)
    (h : text.toList = front ++ ':' :: rest) :
    HidesColon text ↔ trim front = [] ∧ ':' ∈ trim rest := by
  rw [trim_eq_nil_iff, mem_trim_iff (by decide)]
  constructor
  · rintro ⟨blanks, behind, whole, blank, colon⟩
    have noColon : ':' ∉ blanks := by
      intro mem
      exact absurd (blank ':' mem) (by decide)
    obtain ⟨rfl, rfl⟩ := first_colon_unique first noColon (h.symm.trans whole)
    exact ⟨blank, colon⟩
  · rintro ⟨blank, colon⟩
    exact ⟨front, rest, h, blank, colon⟩

theorem hidesColon_iff (text : String) :
    HidesColon text ↔ (read text).lookupPrefix = "" ∧ ':' ∈ (read text).name.toList := by
  obtain ⟨colon, e⟩ | ⟨front, rest, h, first, e⟩ := read_cases text
  · rw [e]
    constructor
    · rintro ⟨front, rest, h, -, -⟩
      exact absurd (h ▸ by simp : ':' ∈ text.toList) colon
    · rintro ⟨-, mem⟩
      rw [trimmed, String.toList_ofList, mem_trim_iff (by decide)] at mem
      exact absurd mem colon
  · rw [hidesColon_iff_of_first first h, e, lookupPrefix, Option.getD_some, String.toList_ofList,
      ← String.toList_inj, String.toList_ofList]
    rfl

theorem length_name_read_lt {text : String} (colon : ':' ∈ text.toList) :
    (read text).name.toList.length < text.toList.length := by
  obtain ⟨none, -⟩ | ⟨front, rest, h, -, e⟩ := read_cases text
  · exact absurd colon none
  · have shorter := length_trim_le rest
    rw [e, String.toList_ofList, h, List.length_append, List.length_cons]
    omega

theorem length_name_read_le (text : String) :
    (read text).name.toList.length ≤ text.toList.length := by
  by_cases colon : ':' ∈ text.toList
  · exact Nat.le_of_lt (length_name_read_lt colon)
  · obtain ⟨-, e⟩ | ⟨front, rest, h, -, -⟩ := read_cases text
    · rw [e, trimmed, String.toList_ofList]
      exact length_trim_le text.toList
    · exact absurd (h ▸ by simp) colon

theorem trim_name_read (text : String) :
    trim (read text).name.toList = (read text).name.toList := by
  obtain ⟨-, e⟩ | ⟨front, rest, -, -, e⟩ := read_cases text
  · rw [e, trimmed, String.toList_ofList, trim_trim]
  · rw [e, String.toList_ofList, trim_trim]

theorem read_qualify_read {text : String} (h : (read text).lookupPrefix ≠ "") :
    read (read text).text = read text := by
  obtain ⟨-, e⟩ | ⟨front, rest, -, first, e⟩ := read_cases text
  · rw [e] at h
    exact absurd rfl h
  · have noColon : ':' ∉ (String.ofList (trim front)).toList := by
      rw [String.toList_ofList]
      exact fun mem => first (mem_of_mem_trim mem)
    have trimmed (s : List Char) :
        trim (String.ofList (trim s)).toList = (String.ofList (trim s)).toList := by
      rw [String.toList_ofList, trim_trim]
    rw [e] at h ⊢
    exact read_qualify h noColon (trimmed front) (trimmed rest)

theorem read_text_read_iff (text : String) :
    let name := read text
    let again := read name.text
    (again.lookupPrefix = name.lookupPrefix ∧ again.name = name.name) ↔ ¬ HidesColon text := by
  intro name again
  rw [hidesColon_iff]
  by_cases pfx : name.lookupPrefix = ""
  · have text_eq : name.text = name.name := by rw [QualifiedName.text, pfx, qualify, if_pos rfl]
    have again_eq : again = read name.name := congrArg read text_eq
    by_cases colon : ':' ∈ name.name.toList
    · have shorter := length_name_read_lt colon
      rw [← again_eq] at shorter
      refine ⟨fun same => ?_, fun plain => absurd ⟨pfx, colon⟩ plain⟩
      rw [same.2] at shorter
      exact absurd shorter (Nat.lt_irrefl _)
    · have plain := read_of_no_colon colon (trim_name_read text)
      refine ⟨fun _ hidden => colon hidden.2, fun _ => ?_⟩
      rw [again_eq, plain, pfx]
      exact ⟨rfl, rfl⟩
  · have same : again = name := read_qualify_read pfx
    exact ⟨fun _ hidden => pfx hidden.1, fun _ => by rw [same]; exact ⟨rfl, rfl⟩⟩

/-- The colon of the local name becomes that of a prefix. -/
theorem read_text_read_ne :
    read ":a:b" = ⟨some "", "a:b"⟩ ∧ (read ":a:b").text = "a:b" ∧
      read "a:b" = ⟨some "a", "b"⟩ ∧
      ¬ ∀ text, (read (read text).text).lookupPrefix = (read text).lookupPrefix ∧
        (read (read text).text).name = (read text).name := by
  refine ⟨by decide +kernel, by decide +kernel, by decide +kernel, fun same => ?_⟩
  exact absurd (same ":a:b").2 (by decide +kernel)

end MarkupBinding.QualifiedName
