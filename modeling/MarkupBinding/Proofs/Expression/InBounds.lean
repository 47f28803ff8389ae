import MarkupBinding.Expression.Parser
/-!
# No slice is out of bounds

A reader of expressions cuts its text at byte offsets, and a cut inside a character, behind the end
or in the wrong order would be fatal. All offsets are sums of the sizes of characters that were
read, but for one: behind a separator the next stretch starts one byte further on. That is right
because both separators take one byte.

A `Scanner` is what the scan of the arguments remembers between two characters. `Behind` relates it
to the text it has read: each character keeps it (`behind_read`), so it holds at every moment of a
scan (`behind_readAll`). A reader that gives up where a slice is out of bounds (`parse?`) therefore
never does.

Results:

* `inBounds_of_mem_headSlices`: the type name and the arguments are cut out in bounds.
* `scan_cons`, `scan_append`: the scan is what the scanner does step by step.
* `inBounds_of_mem_closedAlong`: what the scanner slices is in bounds.
* `slices_inBounds`: all slices of an expression are in bounds, and the reader never gives up.
-/
namespace MarkupBinding

open Text

/-! ## The type name -/

theorem exists_of_blankOffset? {level : Level} {pos n : Nat} {s : List Char}
    (h : blankOffset? level pos s = some n) : ∃ a b, s = a ++ b ∧ pos + byteLength a = n := by
  induction s generalizing level pos with
  | nil => cases h
  | cons c s ih =>
    unfold blankOffset? at h
    dsimp only at h
    split at h
    · exact ⟨[], c :: s, rfl, Option.some.inj h⟩
    · obtain ⟨a, b, rfl, length⟩ := ih h
      exact ⟨c :: a, b, rfl, by rw [byteLength_cons, ← Nat.add_assoc, length]⟩

theorem isBoundary_blankOffset? {s : List Char} {n : Nat} (h : blankOffset? .top 0 s = some n) :
    IsBoundary s n := by
  obtain ⟨a, b, whole, length⟩ := exists_of_blankOffset? h
  exact ⟨a, b, whole, by rw [← length, Nat.zero_add]⟩

/-- The slices that cut the type name and the arguments out of a text. -/
def headSlices (inner : List Char) : List Span :=
  (Expression.headSpans inner).1 :: (Expression.headSpans inner).2.toList

theorem inBounds_of_mem_headSlices {inner : List Char} {span : Span}
    (h : span ∈ headSlices inner) : span.InBounds inner := by
  have whole := isBoundary_byteLength inner
  have first := isBoundary_zero inner
  unfold headSlices Expression.headSpans at h
  split at h
  · next n offset =>
    have here := isBoundary_blankOffset? offset
    rcases List.mem_cons.1 h with rfl | h
    · exact ⟨Nat.zero_le _, here.le, first, here⟩
    · obtain rfl := List.mem_singleton.1 h
      exact ⟨here.le, Nat.le_refl _, here, whole⟩
  · obtain rfl := List.mem_singleton.1 h
    exact ⟨Nat.zero_le _, Nat.le_refl _, first, whole⟩

/-! ## The scanner -/

/-- What a scan of the arguments remembers between two characters. -/
structure Scanner where
  level : Level
  /-- Where the key or the value starts that is being read. -/
  start : Nat
  /-- Where the next character starts. -/
  pos : Nat
  /-- The key of the segment, if its equals sign has been read. -/
  key : Option Span
deriving DecidableEq

namespace Scanner

/-- In front of the first character. -/
def initial : Scanner := ⟨.top, 0, 0, none⟩

/-- The stretch up to the next character. -/
def current (r : Scanner) : Span := ⟨r.start, r.pos⟩

/-- The character ends the key of the segment. -/
def endsKey (r : Scanner) (c : Char) : Bool :=
  (r.level.after c).isTop && c == '=' && r.key.isNone

/-- The character closes the segment. -/
def closes (r : Scanner) (c : Char) : Bool := (r.level.after c).isTop && c == ','

/-- Reads a character. What follows a separator starts one byte behind it. -/
def read (r : Scanner) (c : Char) : Scanner :=
  let behind := { r with level := r.level.after c, pos := r.pos + c.utf8Size }
  if r.endsKey c then { behind with start := r.pos + 1, key := some r.current }
  else if r.closes c then { behind with start := r.pos + 1, key := none }
  else behind

/-- Reads a text. -/
def readAll (r : Scanner) (s : List Char) : Scanner := s.foldl read r

/-- The segment up to the next character, as a comma closes it or as the text ends. -/
def segment (r : Scanner) (closed : Bool) : Segment := ⟨r.key, r.current, closed⟩

/-- The scan from here on. -/
def scan (r : Scanner) (s : List Char) : List Segment :=
  Segment.scan r.level r.start r.pos r.key s

/-- The segments that are closed while a text is read. -/
def closedAlong (r : Scanner) : List Char → List Segment
  | [] => []
  | c :: s => (if r.closes c then [r.segment true] else []) ++ (r.read c).closedAlong s

@[simp] theorem readAll_nil (r : Scanner) : r.readAll [] = r := rfl

@[simp] theorem readAll_cons (r : Scanner) (c : Char) (s : List Char) :
    r.readAll (c :: s) = (r.read c).readAll s := rfl

theorem closes_eq_false {r : Scanner} {c : Char} (h : r.endsKey c = true) : r.closes c = false := by
  simp only [endsKey, Bool.and_eq_true, beq_iff_eq] at h
  rw [closes, h.1.2]
  exact Bool.and_false _

theorem utf8Size_of_endsKey {r : Scanner} {c : Char} (h : r.endsKey c = true) :
    c.utf8Size = 1 := by
  simp only [endsKey, Bool.and_eq_true, beq_iff_eq] at h
  rw [h.1.2]
  rfl

theorem utf8Size_of_closes {r : Scanner} {c : Char} (h : r.closes c = true) : c.utf8Size = 1 := by
  simp only [closes, Bool.and_eq_true, beq_iff_eq] at h
  rw [h.2]
  rfl

/-- One step of the scan: the character is read, and a segment comes out if it closes one. -/
theorem scan_cons (r : Scanner) (c : Char) (s : List Char) :
    r.scan (c :: s) = (if r.closes c then [r.segment true] else []) ++ (r.read c).scan s := by
  rw [scan, Segment.scan]
  -- What the scan tests unfolds to the same as the two tests here. It goes on behind the separator,
  -- and the scanner one byte further on.
  by_cases sign : r.endsKey c = true
  · have here : r.read c = ⟨r.level.after c, r.pos + 1, r.pos + c.utf8Size, some r.current⟩ := by
      rw [read, if_pos sign]
    rw [closes_eq_false sign, if_neg Bool.false_ne_true, List.nil_append, here,
      utf8Size_of_endsKey sign]
    exact if_pos sign
  · by_cases comma : r.closes c = true
    · have here : r.read c = ⟨r.level.after c, r.pos + 1, r.pos + c.utf8Size, none⟩ := by
        rw [read, if_neg sign, if_pos comma]
      rw [if_pos comma, here, utf8Size_of_closes comma]
      exact (if_neg sign).trans (if_pos comma)
    · have here : r.read c = ⟨r.level.after c, r.start, r.pos + c.utf8Size, r.key⟩ := by
        rw [read, if_neg sign, if_neg comma]
      rw [if_neg comma, List.nil_append, here]
      exact (if_neg sign).trans (if_neg comma)

theorem scan_append (r : Scanner) (s t : List Char) :
    r.scan (s ++ t) = r.closedAlong s ++ (r.readAll s).scan t := by
  induction s generalizing r with
  | nil => rfl
  | cons c s ih =>
    rw [List.cons_append, scan_cons, ih, closedAlong, List.append_assoc, readAll_cons]

/-! ## What it has read -/

/-- The scanner has read the text: it stands behind it, and what it remembers are places in it. -/
structure Behind (text : List Char) (r : Scanner) : Prop where
  pos : r.pos = byteLength text
  start : IsBoundary text r.start
  key : ∀ span, r.key = some span → span.InBounds text

theorem behind_initial : Behind [] initial where
  pos := rfl
  start := isBoundary_zero []
  key := fun _ h => nomatch h

/-- It starts nothing in front of where it stands. -/
theorem Behind.start_le {text : List Char} {r : Scanner} (h : Behind text r) : r.start ≤ r.pos := by
  rw [h.pos]
  exact h.start.le

theorem Behind.current {text : List Char} {r : Scanner} (h : Behind text r) :
    r.current.InBounds text where
  ordered := h.start_le
  within := Nat.le_of_eq h.pos
  lo := h.start
  hi := by
    rw [Scanner.current, h.pos]
    exact isBoundary_byteLength text

theorem Behind.segment {text : List Char} {r : Scanner} (h : Behind text r) (closed : Bool) :
    ∀ span ∈ (r.segment closed).spans, span.InBounds text := by
  intro span mem
  rcases List.mem_append.1 mem with mem | mem
  · exact h.key span (Option.mem_toList.1 mem)
  · rw [List.mem_singleton.1 mem]
    exact h.current

theorem byteLength_concat (text : List Char) (c : Char) :
    byteLength (text ++ [c]) = byteLength text + c.utf8Size := by
  rw [byteLength_append, byteLength_cons, byteLength_nil, Nat.add_zero]

/-- A separator takes one byte, so the next stretch starts where the next character does. -/
theorem Behind.isBoundary_succ {text : List Char} {r : Scanner} (h : Behind text r) {c : Char}
    (narrow : c.utf8Size = 1) : IsBoundary (text ++ [c]) (r.pos + 1) := by
  have next := isBoundary_byteLength (text ++ [c])
  rwa [byteLength_concat, narrow, ← h.pos] at next

theorem behind_read {text : List Char} {r : Scanner} (h : Behind text r) (c : Char) :
    Behind (text ++ [c]) (r.read c) := by
  have pos : r.pos + c.utf8Size = byteLength (text ++ [c]) := by rw [byteLength_concat, h.pos]
  unfold read
  dsimp only
  split
  · next sign =>
    exact ⟨pos, h.isBoundary_succ (utf8Size_of_endsKey sign), fun span e =>
      Option.some.inj e ▸ h.current.append [c]⟩
  · split
    · next comma =>
      exact ⟨pos, h.isBoundary_succ (utf8Size_of_closes comma), fun _ e => nomatch e⟩
    · exact ⟨pos, h.start.append [c], fun span e => (h.key span e).append [c]⟩

theorem behind_readAll {text : List Char} {r : Scanner} (h : Behind text r) (s : List Char) :
    Behind (text ++ s) (r.readAll s) := by
  induction s generalizing text r with
  | nil => rwa [List.append_nil, readAll_nil]
  | cons c s ih =>
    rw [readAll_cons, List.append_cons]
    exact ih (behind_read h c)

theorem inBounds_of_mem_closedAlong {text : List Char} {r : Scanner} (h : Behind text r)
    (s : List Char) {segment : Segment} (mem : segment ∈ r.closedAlong s) :
    ∀ span ∈ segment.spans, span.InBounds (text ++ s) := by
  induction s generalizing text r with
  | nil => cases mem
  | cons c s ih =>
    rcases List.mem_append.1 mem with mem | mem
    · split at mem
      · rw [List.mem_singleton.1 mem]
        exact fun span hs => (h.segment true span hs).append (c :: s)
      · cases mem
    · rw [List.append_cons]
      exact ih (behind_read h c) mem

end Scanner

theorem inBounds_of_mem_ofText {s : List Char} {segment : Segment}
    (mem : segment ∈ Segment.ofText s) : ∀ span ∈ segment.spans, span.InBounds s := by
  have scanned := Scanner.scan_append .initial s []
  rw [List.append_nil] at scanned
  rw [show Segment.ofText s = _ from scanned] at mem
  rcases List.mem_append.1 mem with mem | mem
  · exact Scanner.inBounds_of_mem_closedAlong Scanner.behind_initial s mem
  · rw [List.mem_singleton.1 mem]
    exact (Scanner.behind_readAll Scanner.behind_initial s).segment false

/-! ## A reader that may give up -/

namespace Expression

/-- The stretch that a span marks, without blanks around it; none if it marks none. -/
def textAt? (s : List Char) (span : Span) : Option (List Char) := (slice? s span).map trim

/-- The type name and the text of the arguments, if they can be cut out. -/
def splitHead? (inner : List Char) : Option (List Char × List Char) :=
  (textAt? inner (headSpans inner).1).bind fun head =>
    match (headSpans inner).2 with
    | some rest => (textAt? inner rest).map fun arguments => (head, arguments)
    | none => some (head, [])

/-- What a segment says with a key or without one. -/
def writtenOf? (closed : Bool) (key : Option (List Char)) (value : List Char) : Option Written :=
  if closed || !value.isEmpty then some ⟨key.map String.ofList, some (String.ofList value)⟩
  else key.map fun name => ⟨some (String.ofList name), none⟩

/-- What a segment says, if it can be cut out. -/
def sliceSegment? (arguments : List Char) (segment : Segment) : Option (Option Written) :=
  match segment.key with
  | some span =>
    (textAt? arguments span).bind fun key =>
      (textAt? arguments segment.value).map (writtenOf? segment.closed (some key))
  | none => (textAt? arguments segment.value).map (writtenOf? segment.closed none)

/-- What segments say, if all of them can be cut out. -/
def sliceAll? (arguments : List Char) : List Segment → Option (List Written)
  | [] => some []
  | segment :: rest =>
    (sliceSegment? arguments segment).bind fun said =>
      (sliceAll? arguments rest).map fun others => said.toList ++ others

/-- Reads an expression, if all its parts can be cut out. -/
def parse? (text : String) : Option Expression :=
  (splitHead? (body text.toList)).bind fun (head, arguments) =>
    (sliceAll? arguments (Segment.ofText arguments)).map fun written =>
      written.foldl enter (ofTypeName (String.ofList head))

theorem textAt?_of_inBounds {s : List Char} {span : Span} (h : span.InBounds s) :
    textAt? s span = some (textAt s span) := by
  obtain ⟨stretch, found⟩ := Option.isSome_iff_exists.1 (isSome_slice?_iff.2 h)
  rw [textAt?, textAt, found]
  rfl

theorem splitHead?_eq (inner : List Char) : splitHead? inner = some (splitHead inner) := by
  have cut {span : Span} (mem : span ∈ headSlices inner) :=
    textAt?_of_inBounds (inBounds_of_mem_headSlices mem)
  rw [splitHead?, cut List.mem_cons_self, Option.bind_some]
  unfold splitHead
  split
  · next rest e =>
    rw [cut (List.mem_cons_of_mem _ (e ▸ List.mem_singleton_self rest))]
    simp only [e]
    rfl
  · next e =>
    simp only [e]
    rfl

theorem sliceSegment?_eq {arguments : List Char} {segment : Segment}
    (h : ∀ span ∈ segment.spans, span.InBounds arguments) :
    sliceSegment? arguments segment = some (readSegment? arguments segment) := by
  have value := textAt?_of_inBounds
    (h segment.value (List.mem_append_right _ (List.mem_singleton_self _)))
  unfold sliceSegment? readSegment?
  split
  · next span e =>
    have key := textAt?_of_inBounds
      (h span (List.mem_append_left _ (e ▸ List.mem_singleton_self _)))
    rw [key, value, e]
    rfl
  · next e =>
    rw [value, e]
    rfl

theorem sliceAll?_eq {arguments : List Char} {segments : List Segment}
    (h : ∀ segment ∈ segments, ∀ span ∈ segment.spans, span.InBounds arguments) :
    sliceAll? arguments segments = some (segments.filterMap (readSegment? arguments)) := by
  induction segments with
  | nil => rfl
  | cons segment rest ih =>
    rw [sliceAll?, sliceSegment?_eq (h segment List.mem_cons_self),
      ih fun other mem => h other (List.mem_cons_of_mem _ mem), List.filterMap_cons]
    cases readSegment? arguments segment <;> rfl

theorem parse?_eq (text : String) : parse? text = some (parse text) := by
  rw [parse?, splitHead?_eq, Option.bind_some, parse]
  obtain ⟨head, arguments⟩ := splitHead (body text.toList)
  dsimp only
  rw [sliceAll?_eq fun _ => inBounds_of_mem_ofText, Option.map_some]

/-- All slices of an expression are in bounds. The scan of its arguments starts no stretch within a
character or behind the place where it stands. -/
theorem slices_inBounds (text : String) :
    let inner := body text.toList
    let arguments := (splitHead inner).2
    (∀ span ∈ headSlices inner, span.InBounds inner) ∧
      (∀ n, let r := Scanner.initial.readAll (arguments.take n)
        Segment.ofText arguments =
            Scanner.initial.closedAlong (arguments.take n) ++
              Segment.scan r.level r.start r.pos r.key (arguments.drop n) ∧
          r.pos = byteLength (arguments.take n) ∧ r.start ≤ r.pos ∧
          IsBoundary arguments r.start) ∧
      (∀ segment ∈ Segment.ofText arguments, ∀ span ∈ segment.spans, span.InBounds arguments) ∧
      parse? text = some (parse text) := by
  intro inner arguments
  refine ⟨fun _ => inBounds_of_mem_headSlices, fun n => ?_, fun _ => inBounds_of_mem_ofText,
    parse?_eq text⟩
  have whole := List.take_append_drop n arguments
  have behind := Scanner.behind_readAll Scanner.behind_initial (arguments.take n)
  have scanned := Scanner.scan_append .initial (arguments.take n) (arguments.drop n)
  have start := behind.start.append (arguments.drop n)
  rw [List.nil_append, whole] at start
  rw [whole] at scanned
  exact ⟨scanned, behind.pos, behind.start_le, start⟩

/-- Wide characters stand on both sides of each separator; one byte further on, a value would start
within a blank. -/
theorem slices_inBounds_wide :
    let text := "\x7bé\u3000ключ\u2003=\u00a0я,\u3000\"🜁,\"\x7d"
    let inner := body text.toList
    let arguments := (splitHead inner).2
    headSlices inner = [⟨0, 2⟩, ⟨2, 32⟩] ∧
      Segment.ofText arguments = [⟨some ⟨0, 11⟩, ⟨12, 16⟩, true⟩, ⟨none, ⟨17, 27⟩, false⟩] ∧
      Span.InBounds inner ⟨2, 32⟩ ∧ Span.InBounds arguments ⟨12, 16⟩ ∧
      ¬ Span.InBounds arguments ⟨13, 16⟩ ∧
      parse? text = some ⟨[⟨.typeName, some "é"⟩, ⟨.named "ключ", some "я"⟩,
        ⟨.positional 1, some "\"🜁,\""⟩]⟩ := by
  intro text inner arguments
  have head : headSlices inner = [⟨0, 2⟩, ⟨2, 32⟩] := by decide +kernel
  have segments : Segment.ofText arguments =
      [⟨some ⟨0, 11⟩, ⟨12, 16⟩, true⟩, ⟨none, ⟨17, 27⟩, false⟩] := by decide +kernel
  have within : ¬ (slice? arguments ⟨13, 16⟩).isSome = true := by decide +kernel
  have said : parse text = ⟨[⟨.typeName, some "é"⟩, ⟨.named "ключ", some "я"⟩,
      ⟨.positional 1, some "\"🜁,\""⟩]⟩ := by decide +kernel
  obtain ⟨inHead, -, inArguments, parsed⟩ := slices_inBounds text
  refine ⟨head, segments, inHead ⟨2, 32⟩ (head ▸ by decide), ?_,
    fun h => within (isSome_slice?_iff.2 h), said ▸ parsed⟩
  exact inArguments ⟨some ⟨0, 11⟩, ⟨12, 16⟩, true⟩ (segments ▸ by decide) ⟨12, 16⟩ (by decide)

end Expression

end MarkupBinding
