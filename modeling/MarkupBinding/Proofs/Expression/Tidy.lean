import MarkupBinding.Proofs.Expression.Composed
import MarkupBinding.Proofs.Expression.Entering
/-!
# What reading leaves

The names and values of an expression that was read were cut out of its text between separators, and
trimmed. So no separator is left in them at which they would be cut again, a name closes what it
opens, and so does a type name that arguments follow. The expressions that are made up in this way
are the tidy ones. A value need not close what it opens: in the text it may have been the last one.
Then the text leaves the same open.

Results:

* `says_of_written?`: what a piece says, by the text of its key and that of its value.
* `tidy_written`, `tidy_enter`: what is written between commas is tidy, and entering it keeps an
  expression tidy.
* `tidy_parse`: what is read from a text is tidy, for every text.
* `closes_parse`: a text that closes what it opens has no value that leaves anything open.
-/
namespace MarkupBinding.Expression

open Text
open Mark (mark chars separates written? writtenAll)

/-- The text can be read as a type name. -/
structure IsWord (name : String) : Prop where
  trimmed : trim name.toList = name.toList
  noBlank : ∀ m ∈ mark .top name.toList, m.separates isBlank = false

/-- The text can be read as what stands between commas. -/
structure IsValue (value : String) : Prop where
  trimmed : trim value.toList = value.toList
  noComma : NoneAt ',' (mark .top value.toList)

/-- The text can be read as what stands in front of an equals sign. -/
structure IsKey (name : String) : Prop extends IsValue name where
  closed : Closes name.toList
  noSign : NoneAt '=' (mark .top name.toList)

/-- The text is read as a name; that of the type-name key is one where it is written as a key. -/
def IsName (name : String) : Prop := Key.read name = .named name ∨ name = Key.typeMarker

/-- An entry behind the type name, made up of what can be read. -/
structure Tidy (entry : Entry) : Prop where
  key : ∀ name ∈ name? entry, IsKey name ∧ IsName name
  value : ∀ value ∈ entry.value, IsValue value

instance : DecidablePred IsWord := fun _ =>
  decidable_of_iff (_ ∧ _) ⟨fun h => ⟨h.1, h.2⟩, fun h => ⟨h.trimmed, h.noBlank⟩⟩

instance : DecidablePred IsValue := fun _ =>
  decidable_of_iff (_ ∧ _) ⟨fun h => ⟨h.1, h.2⟩, fun h => ⟨h.trimmed, h.noComma⟩⟩

instance : DecidablePred IsKey := fun _ =>
  decidable_of_iff (_ ∧ _ ∧ _) ⟨fun h => ⟨h.1, h.2.1, h.2.2⟩,
    fun h => ⟨h.toIsValue, h.closed, h.noSign⟩⟩

instance : DecidablePred IsName := fun _ => inferInstanceAs (Decidable (_ ∨ _))

instance : DecidablePred Tidy := fun _ =>
  decidable_of_iff (_ ∧ _) ⟨fun h => ⟨h.1, h.2⟩, fun h => ⟨h.key, h.value⟩⟩

/-- An expression that is made up of what can be read, with distinct keys. -/
structure IsTidy (e : Expression) (name : String) (rest : List Entry) : Prop where
  entries : e.entries = ⟨.typeName, some name⟩ :: rest
  distinct : (e.entries.map Entry.key).Nodup
  word : IsWord name
  closed : rest ≠ [] → Closes name.toList
  tidy : ∀ entry ∈ rest, Tidy entry

/-! ## Names -/

theorem sourceKey_eq_named_iff {name k : String} :
    sourceKey name = .named k ↔ k = name ∧ IsName name := by
  unfold sourceKey IsName
  cases h : Key.read name with
  | typeName => simp [Key.eq_of_read_eq_typeName h, eq_comm]
  | positional index =>
    have marker : name ≠ Key.typeMarker := by
      rintro rfl
      exact Key.noConfusion h
    simp [marker]
  | named k' =>
    obtain rfl := Key.eq_of_read_eq_named h
    simp [eq_comm]

theorem IsTidy.notType {e : Expression} {name : String} {rest : List Entry}
    (h : IsTidy e name rest) : ∀ entry ∈ rest, entry.key ≠ .typeName := by
  have distinct := h.distinct
  rw [h.entries, List.map_cons, List.nodup_cons] at distinct
  intro entry hentry e
  have used := List.mem_map_of_mem (f := Entry.key) hentry
  rw [e] at used
  exact distinct.1 used

theorem typeName_of_tidy {e : Expression} {name : String} {rest : List Entry}
    (h : IsTidy e name rest) : e.typeName = name := by
  rw [typeName, get?, h.entries]
  rfl

theorem Tidy.writable {entry : Entry} (h : Tidy entry) (notType : entry.key ≠ .typeName) :
    Writable entry :=
  ⟨notType, fun name named =>
    sourceKey_eq_named_iff.2 ⟨rfl, (h.key name (mem_name?.2 named)).2⟩⟩

/-! ## What is cut out -/

theorem mem_of_mem_trim_mark {level : Level} {s : List Char} {m : Mark}
    (h : m ∈ mark level (trim s)) : m ∈ mark level s := by
  rw [← Mark.trim_mark] at h
  unfold Mark.trim at h
  exact (List.dropWhile_suffix _).subset (List.mem_reverse.1
    ((List.dropWhile_suffix _).subset (List.mem_reverse.1 h)))

theorem closes_trim {s : List Char} (h : Closes s) : Closes (trim s) := by
  rw [Closes, Level.afterText_trim, h]

theorem isValue_trim {s : List Char} (h : NoneAt ',' (mark .top s)) :
    IsValue (String.ofList (trim s)) where
  trimmed := by rw [String.toList_ofList, trim_trim]
  noComma := by
    rw [String.toList_ofList]
    exact fun m hm => h m (mem_of_mem_trim_mark hm)

theorem isKey_trim {s : List Char} (comma : NoneAt ',' (mark .top s)) (closed : Closes s)
    (sign : NoneAt '=' (mark .top s)) : IsKey (String.ofList (trim s)) where
  toIsValue := isValue_trim comma
  closed := by
    rw [String.toList_ofList]
    exact closes_trim closed
  noSign := by
    rw [String.toList_ofList]
    exact fun m hm => sign m (mem_of_mem_trim_mark hm)

/-- What is written consists of what can be read. -/
structure Written.Tidy (w : Written) : Prop where
  key : ∀ name ∈ w.key, IsKey name
  value : ∀ value ∈ w.value, IsValue value

theorem mem_writtenAll {all : List (List Mark)} {w : Written} (h : w ∈ writtenAll all) :
    ∃ piece ∈ all, ∃ isLast, written? isLast piece = some w := by
  induction all with
  | nil => exact absurd h List.not_mem_nil
  | cons piece rest ih =>
    cases rest with
    | nil => exact ⟨piece, List.mem_cons_self, true, Option.mem_toList.1 h⟩
    | cons next rest =>
      rw [Mark.writtenAll_cons _ (List.cons_ne_nil _ _)] at h
      rcases List.mem_append.1 h with h | h
      · exact ⟨piece, List.mem_cons_self, false, Option.mem_toList.1 h⟩
      · obtain ⟨other, mem, said⟩ := ih h
        exact ⟨other, List.mem_cons_of_mem _ mem, said⟩

/-- What a piece that was cut out as a text says. Behind a key it may say nothing. -/
inductive Says (s : List Char) : Written → Prop
  | unnamed (noSign : NoneAt '=' (mark .top s)) : Says s ⟨none, some (String.ofList (trim s))⟩
  | named (key value : List Char) (whole : s = key ++ '=' :: value) (closed : Closes key)
      (noSign : NoneAt '=' (mark .top key)) (said : Option String)
      (cut : said = none ∨ said = some (String.ofList (trim value))) :
    Says s ⟨some (String.ofList (trim key)), said⟩

theorem says_of_written? {s : List Char} {isLast : Bool} {w : Written}
    (h : written? isLast (mark .top s) = some w) : Says s w := by
  have value {t : List Char} : (if isLast && (trim t).isEmpty then none
      else some (String.ofList (trim t))) = none ∨ (if isLast && (trim t).isEmpty then none
      else some (String.ofList (trim t))) = some (String.ofList (trim t)) := by
    split
    · exact Or.inl rfl
    · exact Or.inr rfl
  unfold written? at h
  cases cut : cutFirst? (separates (· == '=')) (mark .top s) with
  | none =>
    rw [cut] at h
    obtain ⟨v, said, rfl⟩ := Option.map_eq_some_iff.1 h
    dsimp only at said
    rw [Mark.chars_mark] at said
    rcases @value s with blank | whole
    · exact absurd (said.symm.trans blank) (by simp)
    · obtain rfl := Option.some.inj (said.symm.trans whole)
      exact .unnamed (cutFirst?_eq_none_iff.1 cut)
  | some parts =>
    obtain ⟨key, rest⟩ := parts
    rw [cut] at h
    obtain ⟨front, closed, -, -⟩ := Mark.mark_of_cut (by decide) cut
    obtain ⟨noSign, m, isSign, marks⟩ := cutFirst?_eq_some_iff.1 cut
    have sign : m.char = '=' := by
      simp only [separates, Bool.and_eq_true, beq_iff_eq] at isSign
      exact isSign.2
    have whole : s = chars key ++ '=' :: chars rest := by
      have text := congrArg chars marks
      rwa [Mark.chars_mark, Mark.chars_append, Mark.chars_cons, sign] at text
    rw [← front] at noSign
    obtain rfl := Option.some.inj h
    exact .named (chars key) (chars rest) whole closed noSign _ value

theorem tidy_of_says {s : List Char} {w : Written} (h : Says s w)
    (comma : NoneAt ',' (mark .top s)) : w.Tidy := by
  cases h with
  | unnamed noSign =>
    exact ⟨fun _ named => (nomatch named), fun _ said => Option.some.inj said ▸ isValue_trim comma⟩
  | named key value whole closed noSign said cut =>
    rw [whole, mark_append_closed closed] at comma
    have inKey : NoneAt ',' (mark .top key) := fun m hm => comma m (List.mem_append_left _ hm)
    have inValue : NoneAt ',' (mark .top value) := fun m hm =>
      comma m (List.mem_append_right _ (List.mem_cons_of_mem _ hm))
    refine ⟨fun _ named => Option.some.inj named ▸ isKey_trim inKey closed noSign, fun v hv => ?_⟩
    rcases cut with rfl | rfl
    · exact nomatch hv
    · exact Option.some.inj hv ▸ isValue_trim inValue

theorem closes_of_says {s : List Char} {w : Written} (h : Says s w) (closed : Closes s) :
    Closes (w.value.getD "").toList := by
  cases h with
  | unnamed noSign =>
    rw [Option.getD_some, String.toList_ofList]
    exact closes_trim closed
  | named key value whole front noSign said cut =>
    rcases cut with rfl | rfl
    · rfl
    · rw [Option.getD_some, String.toList_ofList]
      refine closes_trim ?_
      rwa [whole, Closes, Level.afterText_append, front] at closed

theorem tidy_written {s : List Char} {w : Written}
    (h : w ∈ writtenAll (pieces (separates (· == ',')) (mark .top s))) : w.Tidy := by
  obtain ⟨piece, mem, isLast, said⟩ := mem_writtenAll h
  obtain ⟨t, rfl, -⟩ := Mark.exists_mark_of_mem_pieces mem
  exact tidy_of_says (says_of_written? said) (of_mem_pieces mem)

theorem closes_written {s : List Char} (closed : Closes s) {w : Written}
    (h : w ∈ writtenAll (pieces (separates (· == ',')) (mark .top s))) :
    Closes (w.value.getD "").toList := by
  obtain ⟨piece, mem, isLast, said⟩ := mem_writtenAll h
  obtain ⟨t, rfl, outside⟩ := Mark.exists_mark_of_mem_pieces mem
  exact closes_of_says (says_of_written? said) (outside.elim id fun same => same.trans closed)

/-! ## What is entered -/

theorem tidy_insert {e : Expression} {name : String} {rest : List Entry} (h : IsTidy e name rest)
    (closed : Closes name.toList) {key : Key} {value : Option String} (notType : key ≠ .typeName)
    (tidy : Tidy ⟨key, value⟩) : ∃ rest', IsTidy (e.insert key value) name rest' := by
  have entries : (e.insert key value).entries =
      ⟨.typeName, some name⟩ :: Keyed.upsert Entry.key ⟨key, value⟩ rest := by
    rw [insert, h.entries, Keyed.upsert, if_neg (Ne.symm notType)]
  refine ⟨_, entries, Keyed.nodup_upsert h.distinct, h.word, fun _ => closed, fun entry mem => ?_⟩
  rcases Keyed.mem_upsert mem with rfl | mem
  · exact tidy
  · exact h.tidy entry mem

theorem tidy_enter {e : Expression} {name : String} {rest : List Entry} (h : IsTidy e name rest)
    (closed : Closes name.toList) {w : Written} (tidy : w.Tidy) :
    ∃ rest', IsTidy (e.enter w) name rest' := by
  obtain ⟨key, value⟩ := w
  cases key with
  | none => exact tidy_insert h closed (by simp) ⟨fun _ named => (nomatch named), tidy.value⟩
  | some k =>
    refine tidy_insert h closed (sourceKey_ne_typeName k) ⟨fun k' named => ?_, tidy.value⟩
    obtain ⟨rfl, isName⟩ := sourceKey_eq_named_iff.1 (mem_name?.1 named)
    exact ⟨tidy.key _ rfl, isName⟩

theorem tidy_foldl_enter {ws : List Written} (tidy : ∀ w ∈ ws, w.Tidy) {name : String}
    (closed : Closes name.toList) {e : Expression} {rest : List Entry} (h : IsTidy e name rest) :
    ∃ rest', IsTidy (ws.foldl enter e) name rest' := by
  induction ws generalizing e rest with
  | nil => exact ⟨rest, h⟩
  | cons w ws ih =>
    obtain ⟨next, h'⟩ := tidy_enter h closed (tidy w List.mem_cons_self)
    exact ih (fun x hx => tidy x (List.mem_cons_of_mem w hx)) h'

theorem tidy_ofTypeName {name : String} (word : IsWord name) :
    IsTidy (ofTypeName name) name [] where
  entries := rfl
  distinct := List.pairwise_singleton _ _
  word := word
  closed := fun h => absurd rfl h
  tidy := fun _ h => absurd h List.not_mem_nil

/-! ## What is read -/

theorem isWord_splitHead (inner : List Char) : IsWord (String.ofList (splitHead inner).1) := by
  have whole := List.takeWhile_append_dropWhile (p := fun m => !m.separates isBlank)
    (l := mark .top inner)
  have front := (Mark.mark_eq_append whole.symm).2.1
  rw [splitHead_eq]
  refine ⟨by rw [String.toList_ofList, trim_trim], fun m hm => ?_⟩
  rw [String.toList_ofList] at hm
  have taken := mem_of_mem_trim_mark hm
  rw [front] at taken
  simpa using List.all_eq_true.1 List.all_takeWhile m taken

/-- There is nothing but a type name, or a blank outside of everything ends it. -/
theorem splitHead_cases (inner : List Char) : splitHead inner = (trim inner, []) ∨
    ∃ head rest, inner = head ++ rest ∧ Closes head ∧
      splitHead inner = (trim head, trim rest) := by
  have whole := List.takeWhile_append_dropWhile (p := fun m => !m.separates isBlank)
    (l := mark .top inner)
  rw [splitHead_eq]
  cases rest : (mark .top inner).dropWhile (fun m => !m.separates isBlank) with
  | nil =>
    rw [rest, List.append_nil] at whole
    rw [whole, Mark.chars_mark]
    exact Or.inl rfl
  | cons m y =>
    rw [rest] at whole
    have blank : m.separates isBlank = true := by
      have first := List.head?_dropWhile_not (fun m => !m.separates isBlank) (mark .top inner)
      rw [rest] at first
      simpa using first
    have outside := (Mark.mark_of_separates (fun _ hc => Mark.after_blank hc) whole.symm blank).2.1
    exact Or.inr ⟨_, _, (Mark.mark_eq_append whole.symm).1, outside, rfl⟩

theorem closes_head {inner : List Char} (h : (splitHead inner).2 ≠ []) :
    Closes (splitHead inner).1 := by
  rcases splitHead_cases inner with e | ⟨head, rest, -, closed, e⟩
  · exact absurd (congrArg Prod.snd e) h
  · rw [e]
    exact closes_trim closed

theorem closes_splitHead {inner : List Char} (h : Closes inner) :
    Closes (splitHead inner).1 ∧ Closes (splitHead inner).2 := by
  rcases splitHead_cases inner with e | ⟨head, rest, whole, closed, e⟩
  · rw [e]
    exact ⟨closes_trim h, rfl⟩
  · rw [whole, Closes, Level.afterText_append, closed] at h
    rw [e]
    exact ⟨closes_trim closed, closes_trim h⟩

theorem tidy_parse (text : String) : ∃ name rest, IsTidy (parse text) name rest := by
  have word := isWord_splitHead (body text.toList)
  have closed := @closes_head (body text.toList)
  unfold parse
  generalize splitHead (body text.toList) = parts at word closed ⊢
  obtain ⟨head, arguments⟩ := parts
  have start := tidy_ofTypeName word
  dsimp only at closed ⊢
  rw [readSegments_eq]
  by_cases filled : arguments = []
  · subst filled
    exact ⟨_, [], start⟩
  · refine ⟨_, tidy_foldl_enter (fun _ => tidy_written) ?_ start⟩
    rw [String.toList_ofList]
    exact closed filled

/-! ## What is left open -/

/-- A text that closes what it opens has no value that leaves anything open. -/
theorem closes_parse {text : String} (h : Closes (body text.toList)) :
    ∀ entry ∈ (parse text).entries, Closes (entry.value.getD "").toList := by
  obtain ⟨head, arguments⟩ := closes_splitHead h
  unfold parse
  dsimp only
  rw [readSegments_eq]
  refine @forall_values_foldl_enter (fun value => Closes (value.getD "").toList) _ _
    (fun w said => closes_written arguments said) _ fun entry mem => ?_
  have only : entry = ⟨.typeName, some (String.ofList (splitHead (body text.toList)).1)⟩ :=
    List.mem_singleton.1 mem
  rw [only, Option.getD_some, String.toList_ofList]
  exact head

end MarkupBinding.Expression
