import MarkupBinding.Proofs.Expression.Tidy
/-!
# What is printed, read again

The printer puts commas between the texts of the entries and quotes nothing. So an entry is found
again where the next comma is one of the printer's own: the entry in front of it has to close what
it opens. Of an entry that another one follows, the reader then finds the value, or the empty text
where there is none. Of the last one it finds the same, except that an empty value can not be told
from a missing one: behind a name nothing is left of it, and without a name the entry itself is gone
(`reread`). The indices are not printed; the reader numbers the arguments in the order of the text.

Results:

* `written?_spelled`: what the reader finds of one entry.
* `entries_parse_print`: what it finds of a tidy expression whose arguments have no equals sign.
* `parse_print`: the expressions that are read again as they are.
-/
namespace MarkupBinding.Expression

open Text
open Mark (mark chars separates written? writtenAll)

/-- The text of an entry behind the type name. -/
def spelled (entry : Entry) : List Char :=
  let value := (entry.value.getD "").toList
  match entry.key with
  | .named name => name.toList ++ '=' :: value
  | _ => value

/-- An entry that another one follows, as it is read again. -/
def filled (entry : Entry) : Entry := ⟨entry.key, some (entry.value.getD "")⟩

/-- The last entry as it is read again, if it leaves a trace. -/
def closing? (entry : Entry) : Option Entry :=
  if entry.value.getD "" = "" then
    match entry.key with
    | .named name => some ⟨.named name, none⟩
    | _ => none
  else some (filled entry)

/-- The entries behind the type name as they are read again, but for the indices. -/
def reread : List Entry → List Entry
  | [] => []
  | [entry] => (closing? entry).toList
  | entry :: rest => filled entry :: reread rest

/-- Every entry but the last has a value that closes what it opens, so the printer's commas are
found again. -/
def Separated (entries : List Entry) : Prop :=
  ∀ entry ∈ entries.dropLast, Closes (entry.value.getD "").toList

/-- The entry, if it is an argument, has no equals sign outside quotes and braces. -/
def SignFree (entry : Entry) : Prop :=
  ∀ p ∈ indexed? entry, NoneAt '=' (mark .top (p.2.getD "").toList)

instance : DecidablePred Separated := fun _ => List.decidableBAll _ _

instance : DecidablePred SignFree := fun _ => inferInstanceAs (Decidable (∀ _ ∈ _, _))

theorem Separated.of_cons {entry : Entry} {rest : List Entry} (h : Separated (entry :: rest)) :
    Separated rest := by
  cases rest with
  | nil => exact fun _ mem => absurd mem List.not_mem_nil
  | cons next rest => exact fun x mem => h x (List.mem_cons_of_mem entry mem)

/-! ## One entry -/

theorem reread_cons (entry : Entry) {rest : List Entry} (h : rest ≠ []) :
    reread (entry :: rest) = filled entry :: reread rest := by
  cases rest with
  | nil => exact absurd rfl h
  | cons next rest => rfl

theorem printed?_of_ne {entry : Entry} (h : entry.key ≠ .typeName) :
    printed? entry = some (spelled entry) := by
  obtain ⟨key, value⟩ := entry
  cases key with
  | typeName => exact absurd rfl h
  | positional index => rfl
  | named name => rfl

theorem isValue_getD {entry : Entry} (h : Tidy entry) : IsValue (entry.value.getD "") := by
  cases e : entry.value with
  | none => exact ⟨rfl, fun _ hm => absurd hm List.not_mem_nil⟩
  | some value => exact h.value value e

theorem mark_spelled_named {name : String} (closed : Closes name.toList) (value : Option String) :
    mark .top (spelled ⟨.named name, value⟩) =
      mark .top name.toList ++ ⟨'=', true⟩ :: mark .top (value.getD "").toList := by
  have text : spelled ⟨.named name, value⟩ = name.toList ++ '=' :: (value.getD "").toList := rfl
  rw [text, mark_append_closed closed]
  rfl

theorem noComma_spelled {entry : Entry} (h : Tidy entry) :
    NoneAt ',' (mark .top (spelled entry)) := by
  have comma := (isValue_getD h).noComma
  obtain ⟨key, value⟩ := entry
  cases key with
  | typeName => exact comma
  | positional index => exact comma
  | named name =>
    have isKey := (h.key name rfl).1
    intro m hm
    rw [mark_spelled_named isKey.closed] at hm
    rcases List.mem_append.1 hm with hm | hm
    · exact isKey.noComma m hm
    · rcases List.mem_cons.1 hm with rfl | hm
      · rfl
      · exact comma m hm

theorem closes_spelled {entry : Entry} (h : Tidy entry)
    (closed : Closes (entry.value.getD "").toList) : Closes (spelled entry) := by
  obtain ⟨key, value⟩ := entry
  cases key with
  | typeName => exact closed
  | positional index => exact closed
  | named name =>
    have front := (h.key name rfl).1.closed
    have sign : Level.top.after '=' = Level.top := rfl
    rw [Closes, spelled, Level.afterText_append, front, Level.afterText_cons, sign]
    exact closed

/-- What the reader finds of an entry. -/
theorem written?_spelled {entry : Entry} (notType : entry.key ≠ .typeName) (h : Tidy entry)
    (signFree : SignFree entry) (isLast : Bool) :
    written? isLast (mark .top (spelled entry)) =
      (if isLast then closing? entry else some (filled entry)).map asWritten := by
  have trimmed := (isValue_getD h).trimmed
  obtain ⟨key, value⟩ := entry
  cases key with
  | typeName => exact absurd rfl notType
  | positional index =>
    have uncut : cutFirst? (separates (· == '=')) (mark .top (value.getD "").toList) = none :=
      cutFirst?_eq_none_iff.2 (signFree (index, value) rfl)
    have text : spelled ⟨.positional index, value⟩ = (value.getD "").toList := rfl
    simp only [text, written?, uncut, Mark.chars_mark, trimmed, closing?, filled]
    cases isLast <;> by_cases empty : value.getD "" = "" <;> simp [empty]
  | named name =>
    have isKey := (h.key name rfl).1
    have cut : cutFirst? (separates (· == '=')) (mark .top (spelled ⟨.named name, value⟩)) =
        some (mark .top name.toList, mark .top (value.getD "").toList) :=
      cutFirst?_eq_some_iff.2
        ⟨isKey.noSign, ⟨'=', true⟩, rfl, mark_spelled_named isKey.closed value⟩
    simp only [written?, cut, Mark.chars_mark, trimmed, isKey.trimmed, closing?, filled]
    cases isLast <;> by_cases empty : value.getD "" = "" <;> simp [empty]

/-! ## A list of entries -/

theorem writtenAll_spelled {rest : List Entry} (notType : ∀ entry ∈ rest, entry.key ≠ .typeName)
    (tidy : ∀ entry ∈ rest, Tidy entry) (signFree : ∀ entry ∈ rest, SignFree entry) :
    writtenAll (rest.map fun entry => mark .top (spelled entry)) =
      (reread rest).map asWritten := by
  induction rest with
  | nil => rfl
  | cons entry rest ih =>
    have first := written?_spelled (notType entry List.mem_cons_self)
      (tidy entry List.mem_cons_self) (signFree entry List.mem_cons_self)
    cases rest with
    | nil =>
      rw [List.map_cons, List.map_nil, writtenAll, first true, if_pos rfl, reread]
      cases closing? entry <;> rfl
    | cons next rest =>
      have others := ih (fun x hx => notType x (List.mem_cons_of_mem entry hx))
        (fun x hx => tidy x (List.mem_cons_of_mem entry hx))
        (fun x hx => signFree x (List.mem_cons_of_mem entry hx))
      rw [List.map_cons, Mark.writtenAll_cons _ (by simp), others, first false,
        reread_cons entry (List.cons_ne_nil _ _)]
      rfl

theorem key_closing? {entry last : Entry} (h : closing? entry = some last) :
    last.key = entry.key := by
  unfold closing? at h
  split at h
  · split at h
    · next named =>
      rw [← Option.some.inj h, named]
    · exact nomatch h
  · rw [← Option.some.inj h, filled]

theorem keys_reread (rest : List Entry) :
    ((reread rest).map Entry.key).Sublist (rest.map Entry.key) := by
  induction rest with
  | nil => exact List.Sublist.refl _
  | cons entry rest ih =>
    cases rest with
    | nil =>
      cases h : closing? entry with
      | none => simp [reread, h]
      | some last => simp [reread, h, key_closing? h]
    | cons next rest =>
      rw [reread_cons entry (List.cons_ne_nil _ _)]
      exact ih.cons_cons _

theorem filterMap_printed? {rest : List Entry} (h : ∀ entry ∈ rest, entry.key ≠ .typeName) :
    rest.filterMap printed? = rest.map spelled := by
  induction rest with
  | nil => rfl
  | cons entry rest ih =>
    rw [List.filterMap_cons_some (printed?_of_ne (h entry List.mem_cons_self)), List.map_cons,
      ih fun x hx => h x (List.mem_cons_of_mem entry hx)]

theorem length_indexed_le {a b : List Entry} (h : (a.map Entry.key).Sublist (b.map Entry.key)) :
    (a.filterMap indexed?).length ≤ (b.filterMap indexed?).length := by
  have same (l : List Entry) : (l.filterMap indexed?).map Prod.fst =
      (l.map Entry.key).filterMap fun key => (indexed? ⟨key, none⟩).map Prod.fst := by
    rw [List.map_filterMap, List.filterMap_map]
    congr
    funext entry
    obtain ⟨key, value⟩ := entry
    cases key <;> rfl
  have shorter := (h.filterMap fun key => (indexed? ⟨key, none⟩).map Prod.fst).length_le
  rwa [← same, ← same, List.length_map, List.length_map] at shorter

/-- There are indices for all arguments that are read again. -/
theorem room_reread {rest : List Entry} (few : (rest.filterMap indexed?).length < UInt64.size) :
    (0 : UInt64).toNat + ((reread rest).filterMap indexed?).length < UInt64.size := by
  have le := length_indexed_le (keys_reread rest)
  rw [UInt64.toNat_zero]
  omega

/-! ## The expression -/

section Printed

variable {e : Expression} {name : String} {rest : List Entry}

theorem indexed_of_tidy (h : IsTidy e name rest) : e.indexed = rest.filterMap indexed? := by
  rw [indexed, h.entries, List.filterMap_cons_none (indexed?_typeName _)]

/-- The text within the braces falls into the type name and the texts of the entries. -/
theorem splitHead_print (h : IsTidy e name rest) : splitHead (body e.print.toList) =
    (name.toList, trim ([',', ' '].intercalate (rest.map spelled))) := by
  have texts : e.entries.filterMap printed? = rest.map spelled := by
    rw [h.entries, List.filterMap_cons_none rfl, filterMap_printed? h.notType]
  have inner : body e.print.toList = name.toList ++ e.printedEntries := by
    rw [print, String.toList_ofList, typeName_of_tidy h]
    exact body_braced _
  rw [inner, printedEntries, texts]
  cases rest with
  | nil =>
    rw [List.map_nil, List.append_nil, splitHead_word h.word.noBlank, h.word.trimmed]
    rfl
  | cons entry rest =>
    have closed := h.closed (List.cons_ne_nil _ _)
    exact (splitHead_append closed h.word.noBlank (by decide) _).trans (by rw [h.word.trimmed])

theorem typeName_parse_print (h : IsTidy e name rest) :
    (parse e.print).typeName = e.typeName := by
  rw [typeName_parse, splitHead_print h, typeName_of_tidy h, String.ofList_toList]

/-- What is read is what the texts say, one by one. -/
theorem parse_print_eq (h : IsTidy e name rest) (separated : Separated rest) :
    parse e.print = (writtenAll (rest.map fun entry => mark .top (spelled entry))).foldl enter
      (ofTypeName name) := by
  have commas : ∀ s ∈ rest.map spelled, NoneAt ',' (mark .top s) := by
    intro s hs
    obtain ⟨entry, hentry, rfl⟩ := List.mem_map.1 hs
    exact noComma_spelled (h.tidy entry hentry)
  have earlier : ∀ s ∈ (rest.map spelled).dropLast, Closes s := by
    intro s hs
    rw [← List.map_dropLast] at hs
    obtain ⟨entry, hentry, rfl⟩ := List.mem_map.1 hs
    exact closes_spelled (h.tidy entry (List.dropLast_subset _ hentry)) (separated entry hentry)
  rw [parse, splitHead_print h]
  dsimp only
  rw [readSegments_eq, Mark.writtenAll_trim, writtenAll_joined isBlank_space commas earlier,
    List.map_map, String.ofList_toList]
  rfl

/-- What the reader finds of a tidy expression whose arguments have no equals sign. -/
theorem entries_parse_print (h : IsTidy e name rest) (separated : Separated rest)
    (signFree : ∀ entry ∈ rest, SignFree entry)
    (few : (rest.filterMap indexed?).length < UInt64.size) :
    (parse e.print).entries = ⟨.typeName, some name⟩ :: numbered 0 (reread rest) := by
  have keys := keys_reread rest
  have distinct : ((⟨.typeName, some name⟩ :: reread rest).map Entry.key).Nodup := by
    have before := h.distinct
    rw [h.entries] at before
    exact before.sublist (keys.cons_cons _)
  have writable : ∀ entry ∈ reread rest, Writable entry := by
    intro entry hentry
    obtain ⟨x, hx, same⟩ := List.mem_map.1 (keys.subset (List.mem_map_of_mem hentry))
    exact ((h.tidy x hx).writable (h.notType x hx)).of_key same
  rw [parse_print_eq h separated, writtenAll_spelled h.notType h.tidy signFree]
  exact entries_foldl_enter writable (names_of_keys distinct) (room_reread few)

end Printed

/-! ## Printing is undone by reading -/

/-- A tidy expression of which nothing is lost in print: its arguments are numbered in order and
have no equals sign, every entry but the last has a value that closes what it opens, and the last
one has a value that is not empty, or a name and no value. -/
structure Printable (e : Expression) (name : String) (rest : List Entry) : Prop
    extends IsTidy e name rest where
  counted : e.indexed.map (fun p => p.1.toNat) = List.range' 1 e.indexed.length
  signFree : ∀ entry ∈ rest, SignFree entry
  earlier : ∀ entry ∈ rest.dropLast, ∃ value ∈ entry.value, Closes value.toList
  last : ∀ entry ∈ rest.getLast?, (∃ value ∈ entry.value, value ≠ "") ∨
    entry.value = none ∧ name? entry ≠ none

theorem closing?_eq_self {entry : Entry}
    (h : (∃ value ∈ entry.value, value ≠ "") ∨ entry.value = none ∧ name? entry ≠ none) :
    closing? entry = some entry := by
  obtain ⟨key, value⟩ := entry
  rcases h with ⟨text, rfl, text_ne⟩ | ⟨rfl, named⟩
  · exact if_neg text_ne
  · cases key with
    | named name => rfl
    | typeName => exact absurd rfl named
    | positional index => exact absurd rfl named

theorem reread_eq_self {rest : List Entry}
    (earlier : ∀ entry ∈ rest.dropLast, ∃ value ∈ entry.value, Closes value.toList)
    (last : ∀ entry ∈ rest.getLast?, (∃ value ∈ entry.value, value ≠ "") ∨
      entry.value = none ∧ name? entry ≠ none) : reread rest = rest := by
  induction rest with
  | nil => rfl
  | cons entry rest ih =>
    cases rest with
    | nil =>
      rw [reread, closing?_eq_self (last entry rfl)]
      rfl
    | cons next rest =>
      have others := ih (fun x hx => earlier x (List.mem_cons_of_mem entry hx)) last
      obtain ⟨key, value⟩ := entry
      obtain ⟨text, rfl, -⟩ := earlier _ List.mem_cons_self
      rw [reread_cons _ (List.cons_ne_nil _ _), others]
      rfl

/-- Indices that count from one are fewer than there are indices. -/
theorem length_lt_of_counted {l : List (UInt64 × Option String)}
    (h : l.map (fun p => p.1.toNat) = List.range' 1 l.length) : l.length < UInt64.size := by
  by_cases empty : l.length = 0
  · rw [empty]
    decide
  · have highest : l.length ∈ l.map fun p => p.1.toNat := by
      rw [h, List.mem_range'_1]
      omega
    obtain ⟨p, -, index⟩ := List.mem_map.1 highest
    rw [← index]
    exact p.1.toNat_lt

theorem parse_print {e : Expression} {name : String} {rest : List Entry}
    (h : Printable e name rest) : parse e.print = e := by
  have indexed := indexed_of_tidy h.toIsTidy
  have counted := h.counted
  have few := length_lt_of_counted counted
  rw [indexed] at counted few
  have separated : Separated rest := by
    intro entry hentry
    obtain ⟨value, some, closed⟩ := h.earlier entry hentry
    rwa [Option.mem_def.1 some]
  have entries := entries_parse_print h.toIsTidy separated h.signFree few
  rw [reread_eq_self h.earlier h.last, numbered_eq_self counted, ← h.entries] at entries
  exact Expression.ext entries

/-- A value that ends with a brace, one with a comma in quotes, a missing one that is written as the
empty text, and a last one that opens a quotation. -/
theorem parse_print_open_quote :
    let rest : List Entry := [⟨.positional 1, some "\x7bA b, c=d\x7d\x7d"⟩,
      ⟨.named "@Type", some "\"x, y\""⟩, ⟨.named "Key", some ""⟩, ⟨.positional 2, some "\"z\x7d"⟩]
    let e : Expression := ⟨⟨.typeName, some "T"⟩ :: rest⟩
    e.print = "\x7bT \x7bA b, c=d\x7d\x7d, @Type=\"x, y\", Key=, \"z\x7d\x7d" ∧
      parse e.print = e := by
  intro rest e
  have tidy : IsTidy e "T" rest :=
    ⟨rfl, by decide, by decide, fun _ => by decide, by decide⟩
  have printable : Printable e "T" rest := {
    tidy with
    counted := by decide
    signFree := by decide
    earlier := by decide
    last := by decide }
  exact ⟨by decide +kernel, parse_print printable⟩

end MarkupBinding.Expression
