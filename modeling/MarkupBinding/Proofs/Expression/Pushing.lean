import MarkupBinding.Proofs.Expression.Entering
/-!
# Arguments behind the last index

An unnamed argument goes behind the highest index in use, so it gets an index that no entry has, and
all entries stay what they are. An index has 64 bits, however, and there is none behind the highest
of all. Once that one is in use, each further argument gets it again: it takes the place of the
entry that has it, whether this is an earlier argument or was written with its index.

Results:

* `lastIndex_eq_topIndex_iff`: the highest index in use is the highest of all exactly if that one is
  in use.
* `entries_push_of_free`, `push_of_used`: what an argument does in either case.
* `get?_push_of_used`: one more argument, and what it leaves of an entry with an index.
* `get?_foldl_enter_of_used`: all that is written behind such an entry, and what it leaves.
* `push_appends_iff`: an argument is added exactly if the highest index of all is free; and whatever
  was written with another index keeps its value.
-/
namespace MarkupBinding.Expression

/-- The highest of all indices. -/
def topIndex : UInt64 := 18446744073709551615

/-- The entries that a text asks for behind its type name, in order. -/
def writtenIn (text : String) : List Written :=
  let arguments := (splitHead (body text.toList)).2
  (Segment.ofText arguments).filterMap (readSegment? arguments)

theorem parse_eq_foldl (text : String) :
    parse text =
      (writtenIn text).foldl enter
        (ofTypeName (String.ofList (splitHead (body text.toList)).1)) := by
  unfold parse writtenIn
  rcases splitHead (body text.toList) with ⟨head, arguments⟩
  rfl

/-! ## The highest index -/

theorem toNat_topIndex : topIndex.toNat + 1 = UInt64.size := rfl

theorem le_topIndex (index : UInt64) : index.toNat ≤ topIndex.toNat := by
  have bound : index.toNat < UInt64.size := index.toNat_lt
  have top := toNat_topIndex
  omega

theorem uses_of_get? {e : Expression} {index : UInt64} {value : Option String}
    (h : e.get? (.positional index) = some value) : e.Uses index := by
  refine Decidable.of_not_not fun unused => ?_
  rw [get?, Keyed.get?_eq_none_iff.2 unused] at h
  cases h

/-- The highest of some indices is the one that was started with, or one of them. -/
theorem foldl_max_eq (l : List (UInt64 × Option String)) (m : UInt64) :
    l.foldl (fun m p => max m p.1) m = m ∨ ∃ p ∈ l, l.foldl (fun m p => max m p.1) m = p.1 := by
  induction l generalizing m with
  | nil => exact .inl rfl
  | cons q l ih =>
    rw [List.foldl_cons]
    rcases ih (max m q.1) with start | ⟨p, mem, same⟩
    · rw [start]
      have either : max m q.1 = if m ≤ q.1 then q.1 else m := rfl
      rw [either]
      split
      · exact .inr ⟨q, List.mem_cons_self, rfl⟩
      · exact .inl rfl
    · exact .inr ⟨p, List.mem_cons_of_mem q mem, same⟩

theorem lastIndex_eq_topIndex_iff {e : Expression} :
    e.lastIndex = topIndex ↔ e.Uses topIndex := by
  constructor
  · intro last
    rcases foldl_max_eq e.indexed 0 with start | ⟨p, mem, same⟩
    · exact absurd (start.symm.trans last) (by decide)
    · have index : p.1 = topIndex := same.symm.trans last
      exact uses_iff.2 ⟨p.2, index ▸ mem⟩
  · intro used
    have above := le_lastIndex_of_uses used
    have below := le_topIndex e.lastIndex
    exact UInt64.toNat_inj.1 (by omega)

/-- There is an index behind the highest one in use, unless it is the highest of all. -/
theorem room_iff {e : Expression} :
    e.lastIndex.toNat + 1 < UInt64.size ↔ ¬ e.Uses topIndex := by
  rw [← lastIndex_eq_topIndex_iff, ← UInt64.toNat_inj]
  have below := le_topIndex e.lastIndex
  have top := toNat_topIndex
  omega

/-! ## One more argument -/

theorem entries_push_of_free {e : Expression} (free : ¬ e.Uses topIndex) (value : Option String) :
    (e.push value).entries = e.entries ++ [⟨.positional (e.lastIndex + 1), value⟩] ∧
      ∀ p ∈ e.indexed, p.1 < e.lastIndex + 1 := by
  have room := room_iff.2 free
  refine ⟨entries_push room value, fun p hp => ?_⟩
  have below := le_lastIndex hp
  have succ := (nextIndex_free room).2.1
  rw [UInt64.lt_iff_toNat_lt]
  omega

theorem push_of_used {e : Expression} (used : e.Uses topIndex) (value : Option String) :
    e.push value = e.insert (.positional topIndex) value := by
  rw [push, lastIndex_eq_topIndex_iff.2 used]
  rfl

theorem get?_push_of_used {e : Expression} {index : UInt64} {given : Option String}
    (h : e.get? (.positional index) = some given) (value : Option String) :
    (e.push value).get? (.positional index) =
      some (if index = topIndex then value else given) := by
  by_cases used : e.Uses topIndex
  · rw [push_of_used used, get?_insert]
    by_cases top : index = topIndex
    · simp [top]
    · simp [top, h]
  · have other : index ≠ topIndex := fun top => used (top ▸ uses_of_get? h)
    have kept : Key.positional index ≠ .positional (nextIndex e.lastIndex) := by
      obtain ⟨next, -, free⟩ := nextIndex_free (room_iff.2 used)
      rw [next]
      exact fun same => free (Key.positional.inj same ▸ uses_of_get? h)
    rw [push, get?_insert, if_neg kept, if_neg other, h]

/-! ## All that is written behind an entry -/

/-- The value that the last of some unnamed arguments has; another value if there is none. -/
def lastUnnamed (written : List Written) (otherwise : Option String) : Option String :=
  ((written.filter fun w => w.key = none).getLast?.map Written.value).getD otherwise

theorem lastUnnamed_cons (w : Written) (written : List Written) (otherwise : Option String) :
    lastUnnamed (w :: written) otherwise =
      lastUnnamed written (if w.key = none then w.value else otherwise) := by
  unfold lastUnnamed
  rw [List.filter_cons]
  by_cases unnamed : w.key = none
  · cases last : (written.filter fun w => w.key = none).getLast? <;>
      simp [unnamed, List.getLast?_cons, last]
  · simp [unnamed]

theorem get?_foldl_enter_of_used {e : Expression} {index : UInt64} {given : Option String}
    {written : List Written} (h : e.get? (.positional index) = some given)
    (last : ∀ w ∈ written, ∀ name, w.key = some name → sourceKey name ≠ .positional index) :
    (written.foldl enter e).get? (.positional index) =
      some (if index = topIndex then lastUnnamed written given else given) := by
  induction written generalizing e given with
  | nil => simp [lastUnnamed, h]
  | cons w written ih =>
    have later := fun x hx => last x (List.mem_cons_of_mem w hx)
    obtain ⟨key, value⟩ := w
    rw [List.foldl_cons, lastUnnamed_cons]
    cases key with
    | none =>
      have pushed : (enter e ⟨none, value⟩).get? (.positional index) =
          some (if index = topIndex then value else given) := get?_push_of_used h value
      rw [ih pushed later]
      by_cases top : index = topIndex <;> simp [top]
    | some name =>
      have other := last ⟨some name, value⟩ List.mem_cons_self name rfl
      have kept : (enter e ⟨some name, value⟩).get? (.positional index) = some given := by
        rw [enter, get?_insert, if_neg (Ne.symm other), h]
      rw [ih kept later]
      rfl

/-! ## What an argument leaves as it is -/

/-- An argument is appended with an index of its own exactly if the highest index of all is free; if
it is not, the argument replaces the value there. So of all entries that a text writes with an
index, only one with the highest index of all can be lost to the unnamed arguments behind it. -/
theorem push_appends_iff (e : Expression) (value : Option String) (text : String) :
    ((∃ index, (e.push value).entries = e.entries ++ [⟨.positional index, value⟩] ∧
      ∀ p ∈ e.indexed, p.1 < index) ↔ ¬ e.Uses topIndex) ∧
    (∀ (before after : List Entry) (old : Option String),
      e.entries = before ++ ⟨.positional topIndex, old⟩ :: after →
      (∀ entry ∈ before, entry.key ≠ .positional topIndex) →
        (e.push value).entries = before ++ ⟨.positional topIndex, value⟩ :: after) ∧
    ∀ (before after : List Written) (key : String) (given : Option String) (index : UInt64),
      writtenIn text = before ++ ⟨some key, given⟩ :: after →
      sourceKey key = .positional index →
      (∀ w ∈ after, ∀ name, w.key = some name → sourceKey name ≠ .positional index) →
        (parse text).get? (.positional index) =
          some (if index = topIndex then lastUnnamed after given else given) := by
  refine ⟨⟨?_, fun free => ⟨_, entries_push_of_free free value⟩⟩, ?_, ?_⟩
  · rintro ⟨index, -, above⟩ used
    obtain ⟨old, mem⟩ := uses_iff.1 used
    have high : topIndex.toNat < index.toNat := UInt64.lt_iff_toNat_lt.1 (above _ mem)
    have low := le_topIndex index
    omega
  · intro before after old whole others
    have used : e.Uses topIndex := by simp [Uses, whole]
    rw [push_of_used used, insert, whole]
    refine Keyed.upsert_of_first ?_ others after
    rfl
  · intro before after key given index written explicit last
    rw [parse_eq_foldl, written, List.foldl_append, List.foldl_cons]
    refine get?_foldl_enter_of_used ?_ last
    simp [enter, explicit]

/-- There is one index behind that of the entry, which is why the second argument takes the place of
the first one; but not that of the entry. -/
theorem push_appends_iff_next_to_top :
    let near : Expression :=
      ⟨[⟨.typeName, some "T"⟩, ⟨.positional 18446744073709551614, some "X"⟩]⟩
    (∃ index, (near.push (some "A")).entries = near.entries ++ [⟨.positional index, some "A"⟩] ∧
      ∀ p ∈ near.indexed, p.1 < index) ∧
    near.push (some "A") = ⟨near.entries ++ [⟨.positional topIndex, some "A"⟩]⟩ ∧
    (push ⟨near.entries ++ [⟨.positional topIndex, some "A"⟩]⟩ (some "B")).entries =
      near.entries ++ [⟨.positional topIndex, some "B"⟩] ∧
    (parse "\x7bT 18446744073709551614=X, A, B\x7d").get? (.positional 18446744073709551614) =
      some (some "X") := by
  intro near
  obtain ⟨appended, -, kept⟩ := push_appends_iff near (some "A")
    "\x7bT 18446744073709551614=X, A, B\x7d"
  obtain ⟨-, replaced, -⟩ := push_appends_iff
    ⟨near.entries ++ [⟨.positional topIndex, some "A"⟩]⟩ (some "B") ""
  refine ⟨appended.2 (by decide), by decide +kernel,
    replaced near.entries [] (some "A") rfl (by decide), ?_⟩
  exact (kept [] [⟨none, some "A"⟩, ⟨none, some "B"⟩] "18446744073709551614" (some "X")
    18446744073709551614 (by decide +kernel) (by decide +kernel) (by simp)).trans (by decide)

/-- The highest index of all was written with a value, which is lost: nothing is appended. -/
theorem push_overwrites_top :
    let full : Expression := ⟨[⟨.typeName, some "T"⟩, ⟨.positional topIndex, some "X"⟩]⟩
    parse "\x7bT 18446744073709551615=X\x7d" = full ∧
    parse "\x7bT 18446744073709551615=X, A\x7d" = full.push (some "A") ∧
    full.push (some "A") = ⟨[⟨.typeName, some "T"⟩, ⟨.positional topIndex, some "A"⟩]⟩ ∧
    ¬ ∃ index,
      (full.push (some "A")).entries = full.entries ++ [⟨.positional index, some "A"⟩] := by
  intro full
  have pushed : full.push (some "A") =
      ⟨[⟨.typeName, some "T"⟩, ⟨.positional topIndex, some "A"⟩]⟩ := by
    decide
  refine ⟨by decide +kernel, by decide +kernel, pushed, ?_⟩
  rintro ⟨index, appended⟩
  rw [pushed] at appended
  cases congrArg List.length appended

end MarkupBinding.Expression
