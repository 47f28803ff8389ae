import MarkupBinding.Proofs.Expression.OnePass
/-!
# Texts that are put together

An expression that is put together from a head and arguments is read as these, whatever the padding
between them, if nothing within the parts counts as a separator.

Results:

* `afterText_trim`: a text leaves a reader at the same level before and after it is trimmed.
* `written?_padded`: nor do blanks around a piece matter.
* `writtenAll_padded`, `writtenAll_trim`: a list of arguments says the same with blanks around it.
* `argument_of_flat`, `argument_braced`: texts without quotes and braces, and such texts within one
  pair of braces, can be arguments.
* `parse_braced`: what is read from a head and a text of arguments within braces.
* `parse_joined`: texts that are put together with commas are read one by one.
* `parse_two_arguments`: a head and two arguments are read as they were written.
-/
/-! ## Blanks between the parts say nothing

A blank never opens or closes anything and separates no arguments, and what a piece says is trimmed.
So blanks in front of a list of arguments, behind it, and behind its commas make no difference to
what it says. A list can therefore be read from the text that was trimmed or from the one that was
not, whichever is easier to take apart. -/

namespace MarkupBinding

open Text

/-- All characters of a marked text are blank. -/
def Mark.Blank (s : List Mark) : Prop := ∀ m ∈ s, isBlank m.char = true

theorem Level.afterText_blank {w : List Char} (h : ∀ c ∈ w, isBlank c = true) (level : Level) :
    level.afterText w = level := by
  induction w with
  | nil => rfl
  | cons c w ih =>
    rw [afterText_cons, Mark.after_blank (h c List.mem_cons_self)]
    exact ih fun d hd => h d (List.mem_cons_of_mem c hd)

theorem Level.afterText_trim (level : Level) (s : List Char) :
    level.afterText (trim s) = level.afterText s := by
  obtain ⟨front, back, hf, hb, e⟩ := exists_trim s
  have whole := congrArg level.afterText e
  rw [afterText_append, afterText_append, afterText_blank hf, afterText_blank hb] at whole
  exact whole.symm

namespace Mark

theorem blank_nil : Blank [] := fun _ hm => absurd hm List.not_mem_nil

theorem separates_blank {m : Mark} (h : isBlank m.char = true) {c : Char} (hc : isBlank c = false) :
    m.separates (· == c) = false := by
  have other : m.char ≠ c := by
    intro e
    rw [e, hc] at h
    exact Bool.false_ne_true h
  simp [separates, other]

theorem blank_mark {w : List Char} (h : ∀ c ∈ w, isBlank c = true) (level : Level) :
    Blank (mark level w) := by
  intro m hm
  have char : m.char ∈ chars (mark level w) := List.mem_map_of_mem hm
  rw [chars_mark] at char
  exact h m.char char

/-! ### Around a piece -/

theorem trim_chars_padded {front back : List Mark} (hf : Blank front) (hb : Blank back)
    (s : List Mark) : Text.trim (chars (front ++ s ++ back)) = Text.trim (chars s) := by
  have blank {w : List Mark} (h : Blank w) : ∀ c ∈ chars w, isBlank c = true := by
    intro c hc
    obtain ⟨m, hm, rfl⟩ := List.mem_map.1 hc
    exact h m hm
  rw [chars_append, chars_append, trim_append_blank (blank hb), trim_blank_append (blank hf)]

theorem written?_padded {front back : List Mark} (hf : Blank front) (hb : Blank back)
    (isLast : Bool) (s : List Mark) :
    written? isLast (front ++ s ++ back) = written? isLast s := by
  have skip {w : List Mark} (h : Blank w) : ∀ m ∈ w, m.separates (· == '=') = false :=
    fun m hm => separates_blank (h m hm) (by decide)
  unfold written?
  cases e : cutFirst? (separates (· == '=')) s with
  | none =>
    have none := cutFirst?_eq_none_iff.1 e
    have uncut : cutFirst? (separates (· == '=')) (front ++ s ++ back) = .none := by
      refine cutFirst?_eq_none_iff.2 fun m hm => ?_
      rcases List.mem_append.1 hm with hm | hm
      · exact (List.mem_append.1 hm).elim (skip hf m) (none m)
      · exact skip hb m hm
    simp only [uncut, trim_chars_padded hf hb]
  | some cut =>
    obtain ⟨key, value⟩ := cut
    obtain ⟨none, sign, isSign, rfl⟩ := cutFirst?_eq_some_iff.1 e
    have cut : cutFirst? (separates (· == '=')) (front ++ (key ++ sign :: value) ++ back) =
        some (front ++ key, value ++ back) :=
      cutFirst?_eq_some_iff.2
        ⟨fun m hm => (List.mem_append.1 hm).elim (skip hf m) (none m), sign, isSign, by simp⟩
    have left := trim_chars_padded hf blank_nil key
    have right := trim_chars_padded blank_nil hb value
    rw [List.append_nil] at left
    rw [List.nil_append] at right
    simp only [cut, left, right]

/-! ### Around a list of arguments -/

theorem writtenAll_blank_append {front : List Mark} (hf : Blank front) (s : List Mark) :
    writtenAll (pieces (separates (· == ',')) (front ++ s)) =
      writtenAll (pieces (separates (· == ',')) s) := by
  have same (isLast : Bool) (piece : List Mark) :
      written? isLast (front ++ piece) = written? isLast piece := by
    have padded := written?_padded hf blank_nil isLast piece
    rwa [List.append_nil] at padded
  have skip : ∀ m ∈ front, m.separates (· == ',') = false :=
    fun m hm => separates_blank (hf m hm) (by decide)
  obtain ⟨piece, rest, e, e'⟩ := exists_pieces_append skip s
  rw [e, e']
  cases rest with
  | nil => rw [writtenAll, writtenAll, same]
  | cons next rest =>
    rw [writtenAll_cons _ (List.cons_ne_nil _ _), writtenAll_cons _ (List.cons_ne_nil _ _), same]

/-- The blanks behind a list belong to its last piece. The induction keeps the piece that has been
started in front of what is left of the list. -/
theorem writtenAll_append_blank {back : List Mark} (hb : Blank back) (s : List Mark) :
    ∀ {piece : List Mark}, (∀ m ∈ piece, m.separates (· == ',') = false) →
      writtenAll (pieces (separates (· == ',')) (piece ++ s ++ back)) =
        writtenAll (pieces (separates (· == ',')) (piece ++ s)) := by
  have skip : ∀ m ∈ back, m.separates (· == ',') = false :=
    fun m hm => separates_blank (hb m hm) (by decide)
  induction s with
  | nil =>
    intro piece none
    have whole : ∀ m ∈ piece ++ back, m.separates (· == ',') = false :=
      fun m hm => (List.mem_append.1 hm).elim (none m) (skip m)
    have same := written?_padded blank_nil hb true piece
    rw [List.nil_append] at same
    rw [List.append_nil, pieces_of_none whole, pieces_of_none none, writtenAll, writtenAll, same]
  | cons m s ih =>
    intro piece none
    cases comma : m.separates (· == ',') with
    | true =>
      have rest := @ih [] fun _ hm => absurd hm List.not_mem_nil
      rw [List.append_assoc, List.cons_append, pieces_append_cons none comma,
        pieces_append_cons none comma, writtenAll_cons _ (pieces_ne_nil _ _),
        writtenAll_cons _ (pieces_ne_nil _ _)]
      exact congrArg ((written? false piece).toList ++ ·) rest
    | false =>
      rw [List.append_cons]
      refine ih fun x hx => ?_
      rcases List.mem_append.1 hx with hx | hx
      · exact none x hx
      · rw [List.mem_singleton.1 hx]
        exact comma

theorem writtenAll_padded {front back : List Mark} (hf : Blank front) (hb : Blank back)
    (s : List Mark) :
    writtenAll (pieces (separates (· == ',')) (front ++ s ++ back)) =
      writtenAll (pieces (separates (· == ',')) s) := by
  rw [List.append_assoc, writtenAll_blank_append hf]
  exact @writtenAll_append_blank back hb s [] fun _ hm => absurd hm List.not_mem_nil

theorem writtenAll_trim (s : List Char) :
    writtenAll (pieces (separates (· == ',')) (mark .top (Text.trim s))) =
      writtenAll (pieces (separates (· == ',')) (mark .top s)) := by
  obtain ⟨front, back, hf, hb, e⟩ := exists_trim s
  have whole := congrArg (mark Level.top) e
  rw [mark_append, mark_append, Level.afterText_blank hf] at whole
  rw [whole, writtenAll_padded (blank_mark hf _) (blank_mark hb _)]

end Mark

end MarkupBinding

/-! ## Texts that are put together

An expression that is written as `{Head a, b}` is read as a head and two unnamed arguments, if
nothing within the parts counts as a separator. What counts is decided by the marks of each part on
its own: a part in front of another has to leave the reader outside of quotes and braces
(`Closes`), and so the next part is marked as if it stood alone. The last part may leave whatever
it likes open. -/

namespace MarkupBinding

open Text

/-- Nothing in the text opens or closes anything. -/
def Flat (s : List Char) : Prop := ∀ c ∈ s, c ≠ '"' ∧ c ≠ '{' ∧ c ≠ '}'

instance : DecidablePred Flat := fun s => List.decidableBAll _ s

/-- A reader who starts outside of everything is there again after the text. -/
def Closes (s : List Char) : Prop := Level.top.afterText s = Level.top

instance : DecidablePred Closes := fun _ => inferInstanceAs (Decidable (_ = _))

theorem Level.afterText_of_flat {s : List Char} (h : Flat s) (level : Level) :
    level.afterText s = level := by
  induction s with
  | nil => rfl
  | cons c s ih =>
    have first := Level.after_eq_self (h c (List.mem_cons_self ..)) level
    rw [afterText_cons, first]
    exact ih fun d hd => h d (List.mem_cons_of_mem c hd)

theorem Flat.closes {s : List Char} (h : Flat s) : Closes s := Level.afterText_of_flat h .top

namespace Mark

theorem isTop_of_flat {s : List Char} (h : Flat s) (level : Level) :
    ∀ m ∈ mark level s, m.isTop = level.isTop := by
  induction s with
  | nil => exact fun _ hm => absurd hm List.not_mem_nil
  | cons c s ih =>
    have first := Level.after_eq_self (h c (List.mem_cons_self ..)) level
    intro m hm
    rw [mark, first] at hm
    rcases List.mem_cons.1 hm with rfl | hm
    · rfl
    · exact ih (fun d hd => h d (List.mem_cons_of_mem c hd)) m hm

end Mark

namespace Expression

open Mark (mark chars separates written? writtenAll)

/-- What follows a text that leaves the reader outside is marked as if it stood alone. -/
theorem mark_append_closed {s : List Char} (closed : Closes s) (t : List Char) :
    mark .top (s ++ t) = mark .top s ++ mark .top t := by
  rw [Mark.mark_append, closed]

/-! ### Arguments -/

/-- The text can stand as an unnamed argument. -/
structure IsArgument (s : List Char) : Prop where
  trimmed : trim s = s
  noComma : NoneAt ',' (mark .top s)
  noSign : NoneAt '=' (mark .top s)

theorem noneAt_of_not_mem {c : Char} {s : List Char} (h : c ∉ s) (level : Level) :
    NoneAt c (mark level s) := by
  intro m hm
  have char : m.char ∈ s := by
    rw [← Mark.chars_mark level s]
    exact List.mem_map_of_mem hm
  have ne : m.char ≠ c := fun e => h (e ▸ char)
  simp [separates, ne]

theorem argument_of_flat {s : List Char} (trimmed : trim s = s) (comma : ',' ∉ s) (sign : '=' ∉ s) :
    IsArgument s :=
  ⟨trimmed, noneAt_of_not_mem comma .top, noneAt_of_not_mem sign .top⟩

theorem noneAt_braced {c : Char} (hc : c ≠ '}') {s : List Char} (flat : Flat s) :
    NoneAt c (mark .top ('{' :: s ++ ['}'])) := by
  have marks : mark .top ('{' :: s ++ ['}']) =
      ⟨'{', false⟩ :: (mark ⟨false, true⟩ s ++ [⟨'}', true⟩]) := by
    have inside : Level.top.after '{' = ⟨false, true⟩ := by decide
    rw [List.cons_append, mark, inside, Mark.mark_append, Level.afterText_of_flat flat]
    rfl
  intro m hm
  rw [marks] at hm
  rcases List.mem_cons.1 hm with rfl | hm
  · rfl
  · rcases List.mem_append.1 hm with hm | hm
    · have hidden : m.isTop = false := Mark.isTop_of_flat flat _ m hm
      simp [separates, hidden]
    · rw [List.mem_singleton.1 hm]
      simp [separates, Ne.symm hc]

theorem argument_braced {s : List Char} (flat : Flat s) : IsArgument ('{' :: s ++ ['}']) :=
  ⟨trim_braced s, noneAt_braced (by decide) flat, noneAt_braced (by decide) flat⟩

theorem closes_braced {s : List Char} (flat : Flat s) : Closes ('{' :: s ++ ['}']) := by
  have inside : Level.top.after '{' = ⟨false, true⟩ := by decide
  rw [Closes, List.cons_append, Level.afterText_cons, inside, Level.afterText_append,
    Level.afterText_of_flat flat]
  rfl

/-! ### Reading composed texts -/

theorem body_braced (inner : List Char) : body ('{' :: inner ++ ['}']) = inner := by
  have ends : Text.trim ('{' :: inner ++ ['}']) = ['{'] ++ inner ++ ['}'] := trim_braced inner
  exact body_eq_iff.2 ⟨['{'], ['}'], ends, .inl rfl, .inl rfl⟩

theorem splitHead_word {head : List Char}
    (noBlank : ∀ m ∈ mark .top head, m.separates isBlank = false) :
    splitHead head = (trim head, []) := by
  have inHead : ∀ m ∈ mark .top head, (!m.separates isBlank) = true := fun m hm => by
    rw [noBlank m hm]
    rfl
  have whole : mark .top head = mark .top head ++ [] := (List.append_nil _).symm
  rw [splitHead_eq, whole, List.takeWhile_append_of_pos inHead, List.dropWhile_append_of_pos inHead,
    List.takeWhile_nil, List.append_nil, Mark.chars_mark]
  rfl

/-- The head ends at the first blank behind it. -/
theorem splitHead_append {head : List Char} (closed : Closes head)
    (noBlank : ∀ m ∈ mark .top head, m.separates isBlank = false) {c : Char}
    (blank : isBlank c = true) (arguments : List Char) :
    splitHead (head ++ c :: arguments) = (trim head, trim arguments) := by
  have marks : mark .top (head ++ c :: arguments) =
      mark .top head ++ ⟨c, true⟩ :: mark .top arguments := by
    rw [mark_append_closed closed, mark, Mark.after_blank blank]
    rfl
  have inHead : ∀ m ∈ mark .top head, (!m.separates isBlank) = true := fun m hm => by
    rw [noBlank m hm]
    rfl
  have ends : separates isBlank ⟨c, true⟩ = true := by
    rw [separates, blank, Bool.and_true]
  rw [splitHead_eq, marks, List.takeWhile_append_of_pos inHead, List.dropWhile_append_of_pos inHead,
    List.takeWhile_cons, List.dropWhile_cons, ends]
  simp [trim_blank_cons blank]

/-- What is read from the parts into which the text within braces is split. -/
theorem parse_of_splitHead {inner head arguments : List Char}
    (h : splitHead inner = (head, trim arguments)) :
    parse (String.ofList ('{' :: inner ++ ['}'])) =
      (writtenAll (pieces (separates (· == ',')) (mark .top arguments))).foldl enter
        (ofTypeName (String.ofList head)) := by
  rw [parse, String.toList_ofList, body_braced, h]
  dsimp only
  rw [readSegments_eq, Mark.writtenAll_trim]

theorem parse_braced {head : List Char} (closed : Closes head)
    (noBlank : ∀ m ∈ mark .top head, m.separates isBlank = false) (arguments : List Char) :
    parse (String.ofList ('{' :: (head ++ ' ' :: arguments) ++ ['}'])) =
      (writtenAll (pieces (separates (· == ',')) (mark .top arguments))).foldl enter
        (ofTypeName (String.ofList (trim head))) :=
  parse_of_splitHead (splitHead_append closed noBlank (by decide) arguments)

/-- An argument that leaves the reader outside ends at the comma behind it. -/
theorem pieces_mark_cons {s : List Char} (noComma : NoneAt ',' (mark .top s)) (closed : Closes s)
    (rest : List Char) : pieces (separates (· == ',')) (mark .top (s ++ ',' :: rest)) =
      mark .top s :: pieces (separates (· == ',')) (mark .top rest) := by
  rw [mark_append_closed closed]
  exact pieces_append_cons noComma rfl _

/-- What is written between commas, with blanks behind them: what each text says, if all but the
last one leave the reader outside. -/
theorem writtenAll_joined {gap : List Char} (blank : ∀ c ∈ gap, isBlank c = true)
    {texts : List (List Char)} (noComma : ∀ s ∈ texts, NoneAt ',' (mark .top s))
    (closed : ∀ s ∈ texts.dropLast, Closes s) :
    writtenAll (pieces (separates (· == ',')) (mark .top ((',' :: gap).intercalate texts))) =
      writtenAll (texts.map (mark .top)) := by
  induction texts with
  | nil => rfl
  | cons s texts ih =>
    cases texts with
    | nil =>
      rw [List.intercalate_singleton, pieces_of_none (noComma s List.mem_cons_self)]
      rfl
    | cons t texts =>
      have rest := ih (fun x hx => noComma x (List.mem_cons_of_mem s hx))
        fun x hx => closed x (List.mem_cons_of_mem s hx)
      have padded := Mark.writtenAll_blank_append (Mark.blank_mark blank .top)
        (mark .top ((',' :: gap).intercalate (t :: texts)))
      have text : (',' :: gap).intercalate (s :: t :: texts) =
          s ++ ',' :: (gap ++ (',' :: gap).intercalate (t :: texts)) := by
        rw [List.intercalate_cons_cons, List.append_assoc]
        rfl
      have behind : mark .top (gap ++ (',' :: gap).intercalate (t :: texts)) =
          mark .top gap ++ mark .top ((',' :: gap).intercalate (t :: texts)) :=
        mark_append_closed (Level.afterText_blank blank .top) _
      have others : (t :: texts).map (mark .top) ≠ [] := List.cons_ne_nil _ _
      rw [text, pieces_mark_cons (noComma s List.mem_cons_self) (closed s List.mem_cons_self),
        Mark.writtenAll_cons _ (pieces_ne_nil _ _), behind, padded, rest]
      exact (Mark.writtenAll_cons _ others).symm

theorem parse_joined {head : List Char} (closed : Closes head)
    (noBlank : ∀ m ∈ mark .top head, m.separates isBlank = false) {gap : List Char}
    (blank : ∀ c ∈ gap, isBlank c = true) {texts : List (List Char)}
    (noComma : ∀ s ∈ texts, NoneAt ',' (mark .top s))
    (earlier : ∀ s ∈ texts.dropLast, Closes s) :
    parse (String.ofList ('{' :: (head ++ ' ' :: (',' :: gap).intercalate texts) ++ ['}'])) =
      (writtenAll (texts.map (mark .top))).foldl enter
        (ofTypeName (String.ofList (trim head))) := by
  rw [parse_braced closed noBlank, writtenAll_joined blank noComma earlier]

theorem written?_mark {s : List Char} (noSign : NoneAt '=' (mark .top s)) (isLast : Bool)
    (said : isLast = true → trim s ≠ []) :
    written? isLast (mark .top s) = some ⟨none, some (String.ofList (trim s))⟩ := by
  have uncut : cutFirst? (separates (· == '=')) (mark .top s) = none :=
    cutFirst?_eq_none_iff.2 noSign
  have kept : (isLast && (trim s).isEmpty) = false := by
    cases isLast with
    | false => rfl
    | true => simpa using said rfl
  simp [written?, uncut, kept]

theorem parse_two_arguments {head a b : List Char} (closed : Closes head)
    (noBlank : ∀ m ∈ mark .top head, m.separates isBlank = false) (ha : IsArgument a)
    (closes : Closes a) (hb : IsArgument b) (filled : b ≠ []) :
    parse (String.ofList ('{' :: (head ++ ' ' :: (a ++ ',' :: ' ' :: b)) ++ ['}'])) =
      ((ofTypeName (String.ofList (trim head))).push (some (String.ofList a))).push
        (some (String.ofList b)) := by
  have comma : ∀ s ∈ [a, b], NoneAt ',' (mark .top s) := by
    simpa using ⟨ha.noComma, hb.noComma⟩
  have joined := parse_joined closed noBlank isBlank_space comma (by simpa using closes)
  have first : written? false (mark .top a) = some ⟨none, some (String.ofList a)⟩ := by
    rw [written?_mark ha.noSign false (fun h => absurd h Bool.false_ne_true), ha.trimmed]
  have last : written? true (mark .top b) = some ⟨none, some (String.ofList b)⟩ := by
    rw [written?_mark hb.noSign true (fun _ => hb.trimmed.symm ▸ filled), hb.trimmed]
  have text : [',', ' '].intercalate [a, b] = a ++ ',' :: ' ' :: b := by
    rw [List.intercalate_cons_cons, List.intercalate_singleton, List.append_assoc]
    rfl
  rw [text] at joined
  rw [joined]
  simp only [List.map_cons, List.map_nil, writtenAll, first, last]
  rfl

/-! ### Two arguments -/

theorem entries_two_arguments (name : String) (a b : Option String) :
    (((ofTypeName name).push a).push b).entries =
      [⟨.typeName, some name⟩, ⟨.positional 1, a⟩, ⟨.positional 2, b⟩] := by
  rfl

theorem arguments_two_arguments (name : String) (a b : Option String) :
    (((ofTypeName name).push a).push b).arguments = [a, b] := by
  have sorted : ([(1, a), (2, b)] : List (UInt64 × Option String)).mergeSort
      (fun x y => x.1 ≤ y.1) = [(1, a), (2, b)] :=
    List.mergeSort_of_pairwise (by simp)
  rw [arguments, indexed, entries_two_arguments]
  exact congrArg (List.map Prod.snd) sorted

theorem assignments_two_arguments (name : String) (a b : Option String) :
    (((ofTypeName name).push a).push b).assignments = [] := by
  rw [assignments, entries_two_arguments]
  rfl

end Expression

end MarkupBinding
