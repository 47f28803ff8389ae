import MarkupBinding.Proofs.Expression.Pushing
import MarkupBinding.Proofs.Expression.Tidy
/-!
# Entries are addressed by the text of their keys

What is read from a text is a keyed list that starts with the type name. An entry can be asked for
by the text of its key, which is read as a key again. For an index this is the numeral without zeros
in front, however it was written; a numeral that no index can hold is a name, and is read as that
name. There is one exception: an entry that was written under `@Type` is named so, and its text
leads to the type name instead.

A value is missing only where a key ends the text with nothing behind it, so no more than one is.

Results:

* `read_text_of_tidy`: the text of a key that was read leads back to it, but for the exception.
* `countP_none_parse`: no more than one value is missing, since only the last piece says none.
* `lookup_text_parse`: the entries of every text, addressed by the texts of their keys.
-/
namespace MarkupBinding.Expression

open Text
open Mark (mark chars separates written? writtenAll)

/-! ## The text of a key -/

/-- The text of the key of an entry leads back to that key, unless it was written under `@Type`. -/
theorem read_text_of_tidy {e : Expression} {name : String} {rest : List Entry}
    (h : IsTidy e name rest) {entry : Entry} (mem : entry ∈ e.entries)
    (shown : entry.key ≠ .named Key.typeMarker) : Key.read entry.key.text = entry.key := by
  rw [h.entries] at mem
  rcases List.mem_cons.1 mem with rfl | mem
  · exact Key.read_text_typeName
  · obtain ⟨key, value⟩ := entry
    cases key with
    | typeName => exact Key.read_text_typeName
    | positional index => exact Key.read_text_positional index
    | named k =>
      rcases ((h.tidy _ mem).key k rfl).2 with back | marker
      · exact back
      · exact absurd (congrArg Key.named marker) shown

theorem lookup_typeMarker {e : Expression} {name : String} {rest : List Entry}
    (h : IsTidy e name rest) : e.lookup Key.typeMarker = some (some name) := by
  have read : Key.read Key.typeMarker = .typeName := Key.read_text_typeName
  rw [lookup, read, get?, h.entries]
  rfl

section Distinct

variable {e : Expression} (distinct : (e.entries.map Entry.key).Nodup) {entry other : Entry}
include distinct

theorem lookup_text (mem : entry ∈ e.entries) (back : Key.read entry.key.text = entry.key) :
    e.lookup entry.key.text = some entry.value := by
  rw [lookup, back, get?, Keyed.get?_of_mem distinct mem]
  rfl

theorem eq_of_text_eq (mem : entry ∈ e.entries) (mem' : other ∈ e.entries)
    (back : Key.read entry.key.text = entry.key) (back' : Key.read other.key.text = other.key)
    (same : other.key.text = entry.key.text) : other = entry := by
  have key : other.key = entry.key := by rw [← back', same, back]
  have found := Keyed.get?_of_mem distinct mem'
  rw [key, Keyed.get?_of_mem distinct mem] at found
  exact (Option.some.inj found).symm

end Distinct

/-! ## Missing values -/

theorem value_of_written? {piece : List Mark} {w : Written}
    (h : written? false piece = some w) : ∃ value, w.value = some value := by
  unfold written? at h
  cases cut : cutFirst? (separates (· == '=')) piece with
  | none =>
    simp only [cut, Bool.false_and, Bool.false_eq_true, if_false, Option.map_some,
      Option.some.injEq] at h
    exact ⟨_, (congrArg Written.value h).symm⟩
  | some parts =>
    simp only [cut, Bool.false_and, Bool.false_eq_true, if_false, Option.some.injEq] at h
    exact ⟨_, (congrArg Written.value h).symm⟩

/-- A value is missing at most where the last piece ends. -/
theorem countP_none_writtenAll (all : List (List Mark)) :
    (writtenAll all).countP (fun w => w.value = none) ≤ 1 := by
  induction all with
  | nil => exact Nat.zero_le 1
  | cons piece rest ih =>
    cases rest with
    | nil => exact Nat.le_trans List.countP_le_length Option.length_toList_le
    | cons next rest =>
      have filled : (written? false piece).toList.countP (fun w => w.value = none) = 0 :=
        List.countP_eq_zero.2 fun w mem => by
          obtain ⟨value, said⟩ := value_of_written? (Option.mem_toList.1 mem)
          simp [said]
      rw [Mark.writtenAll_cons _ (List.cons_ne_nil _ _), List.countP_append, filled, Nat.zero_add]
      exact ih

theorem countP_none_parse (text : String) :
    (parse text).entries.countP (fun entry => entry.value = none) ≤ 1 := by
  have said : (writtenIn text).countP (fun w => w.value = none) ≤ 1 := by
    unfold writtenIn
    rw [readSegments_eq]
    exact countP_none_writtenAll _
  have entered := countP_foldl_enter (fun value => value = none) (writtenIn text)
    (ofTypeName (String.ofList (splitHead (body text.toList)).1))
  rw [← parse_eq_foldl] at entered
  have start : (ofTypeName (String.ofList (splitHead (body text.toList)).1)).entries.countP
      (fun entry => entry.value = none) = 0 := by rfl
  omega

/-! ## What is read -/

/-- The entries of a text are a list with distinct keys behind the type name, which is what stands
in front of the first blank outside quotes and braces, whatever segments follow. Every entry that
was not written under `@Type` is found under the text of its key, and no other one has that text. -/
theorem lookup_text_parse (text : String) :
    let e := parse text
    (∃ rest, e.entries = ⟨.typeName, some e.typeName⟩ :: rest) ∧
    (e.entries.map Entry.key).Nodup ∧
    (∀ entry ∈ e.entries, ∀ value ∈ entry.value, trim value.toList = value.toList) ∧
    e.entries.countP (fun entry => entry.value = none) ≤ 1 ∧
    e.lookup Key.typeMarker = some (some e.typeName) ∧
    e.typeName = String.ofList
      (trim (chars ((mark .top (body text.toList)).takeWhile fun m => !m.separates isBlank))) ∧
    (∀ segments : List Written, (segments.foldl enter e).typeName = e.typeName) ∧
    ∀ entry ∈ e.entries, entry.key ≠ .named Key.typeMarker →
      e.lookup entry.key.text = some entry.value ∧
      ∀ other ∈ e.entries, other.key ≠ .named Key.typeMarker →
        other.key.text = entry.key.text → other = entry := by
  intro e
  obtain ⟨name, rest, tidy⟩ := tidy_parse text
  have same : e.typeName = name := typeName_of_tidy tidy
  have entries : e.entries = ⟨.typeName, some name⟩ :: rest := tidy.entries
  have marker : e.lookup Key.typeMarker = some (some name) := lookup_typeMarker tidy
  have values : ∀ entry ∈ e.entries, ∀ value ∈ entry.value, trim value.toList = value.toList := by
    rw [entries]
    refine List.forall_mem_cons.2 ⟨fun value said => ?_, fun entry mem value said => ?_⟩
    · exact Option.some.inj said ▸ tidy.word.trimmed
    · exact ((tidy.tidy entry mem).value value said).trimmed
  have read {entry : Entry} := @read_text_of_tidy e name rest tidy entry
  rw [← same] at entries marker
  refine ⟨⟨rest, entries⟩, tidy.distinct, values, countP_none_parse text, marker, ?_,
    fun segments => typeName_foldl_enter segments e, fun entry mem shown => ⟨?_, ?_⟩⟩
  · exact (typeName_parse text).trans (by rw [splitHead_eq])
  · exact lookup_text tidy.distinct mem (read mem shown)
  · intro other mem' shown'
    exact eq_of_text_eq tidy.distinct mem mem' (read mem shown) (read mem' shown')

/-- Keys of every kind: an argument, a name that looks like the key of the type name, an index with
zeros in front, the highest of all indices, the numeral behind it, and a name without a value. -/
theorem lookup_text_parse_every_kind :
    let e := parse "\x7bT A, @Type=Other, 007=B, 18446744073709551615=C, 18446744073709551616=D, K=\x7d"
    e.entries = [⟨.typeName, some "T"⟩, ⟨.positional 1, some "A"⟩, ⟨.named "@Type", some "Other"⟩,
        ⟨.positional 7, some "B"⟩, ⟨.positional topIndex, some "C"⟩,
        ⟨.named "18446744073709551616", some "D"⟩, ⟨.named "K", none⟩] ∧
      e.lookup "@Type" = some (some "T") ∧ e.lookup "7" = some (some "B") ∧
      e.lookup "18446744073709551615" = some (some "C") ∧
      e.lookup "18446744073709551616" = some (some "D") ∧ e.lookup "K" = some none := by
  intro e
  have entries : e.entries = [⟨.typeName, some "T"⟩, ⟨.positional 1, some "A"⟩,
      ⟨.named "@Type", some "Other"⟩, ⟨.positional 7, some "B"⟩, ⟨.positional topIndex, some "C"⟩,
      ⟨.named "18446744073709551616", some "D"⟩, ⟨.named "K", none⟩] := by
    decide +kernel
  obtain ⟨-, -, -, -, -, -, -, addressed⟩ := lookup_text_parse
    "\x7bT A, @Type=Other, 007=B, 18446744073709551615=C, 18446744073709551616=D, K=\x7d"
  have found (key : Key) (value : Option String) (mem : ⟨key, value⟩ ∈ e.entries)
      (shown : key ≠ .named Key.typeMarker) {written : String} (same : key.text = written) :
      e.lookup written = some value :=
    same ▸ (addressed ⟨key, value⟩ mem shown).1
  rw [entries] at found
  refine ⟨entries, found .typeName (some "T") ?_ ?_ ?_, found (.positional 7) (some "B") ?_ ?_ ?_,
    found (.positional topIndex) (some "C") ?_ ?_ ?_,
    found (.named "18446744073709551616") (some "D") ?_ ?_ ?_, found (.named "K") none ?_ ?_ ?_⟩
  all_goals decide +kernel

end MarkupBinding.Expression
