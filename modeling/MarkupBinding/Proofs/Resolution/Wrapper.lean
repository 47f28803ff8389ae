import MarkupBinding.Proofs.Expression.LeadingBlank
import MarkupBinding.Proofs.Name.Rereading
import MarkupBinding.Resolution.Lookup
/-!
# Two readers of a type wrapper

A wrapper such as `{x:Type Name}` is read in two places. Where a type is looked up, the wrapper is
recognised by its text: a brace, a word that ends in the marker, and a blank; quotes and braces mean
nothing there. Where an expression is read, the same text is one like any other, with a type name
and an argument, and quotes and braces hide what stands in them. Both find the same name in it. The
last brace is the one that closes the wrapper for both of them, so the name may leave open what it
likes and may end in braces of its own.

A wrapper is taken off once. So a wrapped name stands for the same type as the name itself exactly
if the name is not a wrapper again, with a closing brace or without one; what is within two wrappers
is read as a name with a brace in its prefix.

Results:

* `unwrap_around`: the name comes out of the wrapper trimmed.
* `parse_around`: it is the only argument of the expression that the wrapper is.
* `resolve_around`, `exists_resolve_around_ne`: when the wrapped name stands for the type of the
  name.
* `readers_agree`: all this of every prefix, gap and name.
-/
namespace MarkupBinding

open Text
open Expression (NoneAt braced)
open Mark (mark)
open TypeWrapper (IsPrefix IsWrapper marker unwrap)

namespace TypeWrapper

/-- A name in a wrapper, with a gap in front of it. -/
def around (pfx gap name : List Char) : String := braced (pfx ++ marker ++ (gap ++ name))

theorem exists_gap {gap : List Char} (blank : ∀ c ∈ gap, isBlank c = true) (spaced : gap ≠ []) :
    ∃ c more, gap = c :: more ∧ isBlank c = true ∧ ∀ d ∈ more, isBlank d = true := by
  obtain ⟨c, more, rfl⟩ := List.exists_cons_of_ne_nil spaced
  exact ⟨c, more, rfl, blank c List.mem_cons_self, fun d hd => blank d (List.mem_cons_of_mem c hd)⟩

theorem unwrap_around {pfx gap : List Char} (h : IsPrefix pfx)
    (blank : ∀ c ∈ gap, isBlank c = true) (spaced : gap ≠ []) (name : List Char) :
    unwrap (around pfx gap name) = String.ofList (trim name) := by
  obtain ⟨c, more, rfl, hc, rest⟩ := exists_gap blank spaced
  have inside := inner?_marked h hc (more ++ name ++ ['}'])
  have closing : dropEnd? ['}'] (more ++ name ++ ['}']) = some (more ++ name) :=
    dropEnd?_eq_some_iff.2 rfl
  have text : '{' :: (pfx ++ marker ++ (c :: more ++ name)) ++ ['}'] =
      '{' :: (pfx ++ marker ++ c :: (more ++ name ++ ['}'])) := by simp
  rw [closing, Option.getD_some, trim_blank_append rest] at inside
  rw [unwrap, around, braced, String.toList_ofList, trim_braced, text, inside, Option.getD_some]

/-- What is no wrapper itself is only trimmed. -/
theorem unwrap_of_not_wrapper {text : String} (plain : ¬ IsWrapper (trim text.toList)) :
    unwrap text = trimmed text := by
  rw [unwrap, inner?_eq_none_iff.2 plain, Option.getD_none, trimmed]

/-! ## As an expression -/

theorem noBlank_mark {s : List Char} (visible : ∀ c ∈ s, isBlank c = false) :
    ∀ m ∈ mark .top s, m.separates isBlank = false := by
  intro m hm
  have char : m.char ∈ Mark.chars (mark .top s) := List.mem_map_of_mem hm
  rw [Mark.chars_mark] at char
  rw [Mark.separates, visible m.char char, Bool.and_false]

theorem parse_around {pfx gap name : List Char} (h : IsPrefix pfx) (flat : Flat pfx)
    (blank : ∀ c ∈ gap, isBlank c = true) (spaced : gap ≠ []) (said : trim name ≠ [])
    (comma : NoneAt ',' (mark .top name)) (sign : NoneAt '=' (mark .top name)) :
    (Expression.parse (around pfx gap name)).entries =
      [⟨.typeName, some (String.ofList (pfx ++ marker))⟩,
        ⟨.positional 1, some (String.ofList (trim name))⟩] := by
  obtain ⟨c, more, rfl, hc, rest⟩ := exists_gap blank spaced
  have head : Flat (pfx ++ marker) := by
    intro d hd
    exact (List.mem_append.1 hd).elim (flat d) ((by decide : Flat marker) d)
  have visible : ∀ d ∈ pfx ++ marker, isBlank d = false := fun d hd =>
    (List.mem_append.1 hd).elim (h.visible d) (isBlank_marker d)
  have split := Expression.splitHead_append head.closes (noBlank_mark visible) hc (more ++ name)
  -- The gap says nothing, and the name is a single piece without a key.
  have marks : mark .top (more ++ name) = mark .top more ++ mark .top name :=
    Expression.mark_append_closed (Level.afterText_blank rest .top) name
  have written : Mark.writtenAll (pieces (Mark.separates (· == ',')) (mark .top (more ++ name))) =
      [⟨none, some (String.ofList (trim name))⟩] := by
    rw [marks, Mark.writtenAll_blank_append (Mark.blank_mark rest .top), pieces_of_none comma,
      Mark.writtenAll, Expression.written?_mark sign true fun _ => said]
    rfl
  have parsed := Expression.parse_of_splitHead split
  rw [trim_of_visible visible, written] at parsed
  exact congrArg Expression.entries parsed

end TypeWrapper

/-! ## As a name of a type -/

/-- Where a wrapper stays on, its brace and its prefix are read as a prefix. -/
theorem QualifiedName.read_wrapper {pfx rest : List Char} {c : Char} (h : IsPrefix pfx)
    (trimmed : trim ('{' :: (pfx ++ marker ++ c :: rest)) = '{' :: (pfx ++ marker ++ c :: rest)) :
    read (String.ofList ('{' :: (pfx ++ marker ++ c :: rest))) =
      ⟨some (String.ofList ('{' :: pfx)),
        String.ofList ('T' :: 'y' :: 'p' :: 'e' :: c :: rest)⟩ := by
  have first : ':' ∉ '{' :: pfx := by
    intro mem
    exact (List.mem_cons.1 mem).elim (fun e => absurd e (by decide)) h.noColon
  have front : trim ('{' :: pfx) = '{' :: pfx :=
    trim_of_visible (List.forall_mem_cons.2 ⟨by decide, h.visible⟩)
  have back : trim ('T' :: 'y' :: 'p' :: 'e' :: c :: rest) =
      'T' :: 'y' :: 'p' :: 'e' :: c :: rest := by
    have last (s : List Char) : (s ++ c :: rest).getLast? = (c :: rest).getLast? := by
      rw [List.getLast?_append, List.getLast?_cons, Option.some_or]
    refine trim_eq_self (fun d hd => ?_) (fun d hd => (trim_eq_self_iff.1 trimmed).2 d ?_)
    · rw [← Option.some.inj hd]
      decide
    · exact (last ('{' :: (pfx ++ marker))).trans ((last ['T', 'y', 'p', 'e']).symm.trans hd)
  have cut : (String.ofList ('{' :: (pfx ++ marker ++ c :: rest))).toList =
      '{' :: pfx ++ ':' :: ('T' :: 'y' :: 'p' :: 'e' :: c :: rest) := by
    simp [marker]
  rw [read_of_first_colon first cut, front, back]

namespace Catalogue

variable {ι β : Type}

theorem resolve_congr (types : Catalogue ι β) {s s' : String} (h : unwrap s = unwrap s')
    (t : PrefixTable) : types.resolve s t = types.resolve s' t := by
  rw [resolve, resolve, h]

/-- Where there are no types, a name is unknown in the namespace of its prefix. -/
theorem resolve_empty {text ns : String} {t : PrefixTable}
    (h : namespaceFor t (.read (unwrap text)) = .ok ns) :
    (empty : Catalogue ι β).resolve text t =
      .error (.unknownType (QualifiedName.read (unwrap text)).name ns) := by
  simp only [resolve, h]
  rfl

/-- An error that names a type names it as it was read. -/
theorem name_of_resolve {types : Catalogue ι β} {text name ns : String} {t : PrefixTable}
    (h : types.resolve text t = .error (.unknownType name ns)) :
    (QualifiedName.read (unwrap text)).name = name := by
  unfold resolve at h
  dsimp only at h
  split at h
  · unfold lookup at h
    split at h
    · cases h
    · exact (LookupError.unknownType.inj (Except.error.inj h)).1
  · next e noNamespace =>
    rw [Except.error.inj h] at noNamespace
    unfold namespaceFor at noNamespace
    split at noNamespace
    · split at noNamespace <;> cases noNamespace
    · cases noNamespace

end Catalogue

namespace TypeWrapper

variable {ι β : Type} {pfx gap name : List Char}

theorem resolve_around (h : IsPrefix pfx) (blank : ∀ c ∈ gap, isBlank c = true) (spaced : gap ≠ [])
    (plain : ¬ IsWrapper (trim name)) (types : Catalogue ι β) (t : PrefixTable) :
    types.resolve (around pfx gap name) t = types.resolve (String.ofList name) t := by
  refine types.resolve_congr ?_ t
  have whole := String.toList_ofList (l := name)
  rw [unwrap_around h blank spaced, unwrap_of_not_wrapper (whole.symm ▸ plain), trimmed, whole]

/-- What is in a wrapper is shorter than what follows the wrapper's name. -/
theorem length_unwrap_le {text : String} {c : Char} {rest : List Char} (h : IsPrefix pfx)
    (blank : isBlank c = true) (whole : trim text.toList = '{' :: (pfx ++ marker ++ c :: rest)) :
    (unwrap text).toList.length ≤ rest.length := by
  have inside := inner?_marked h blank rest
  rw [unwrap, whole, inside, Option.getD_some, String.toList_ofList]
  refine Nat.le_trans (length_trim_le _) ?_
  cases closing : dropEnd? ['}'] rest with
  | none => exact Nat.le_refl _
  | some front =>
    rw [Option.getD_some, dropEnd?_eq_some_iff.1 closing, List.length_append]
    omega

theorem exists_resolve_around_ne (h : IsPrefix pfx) (blank : ∀ c ∈ gap, isBlank c = true)
    (spaced : gap ≠ []) (again : IsWrapper (trim name)) : ∃ t,
    (Catalogue.empty : Catalogue ι β).resolve (around pfx gap name) t ≠
      Catalogue.empty.resolve (String.ofList name) t := by
  obtain ⟨p, c, rest, hp, hc, whole⟩ := again
  have read := QualifiedName.read_wrapper hp (whole ▸ trim_trim name)
  have bound : Catalogue.namespaceFor (PrefixTable.empty.bind (String.ofList ('{' :: p)) "")
      (.read (unwrap (around pfx gap name))) = .ok "" := by
    rw [unwrap_around h blank spaced, whole, read]
    simp [Catalogue.namespaceFor, PrefixTable.namespaceOf?_bind]
  refine ⟨PrefixTable.empty.bind (String.ofList ('{' :: p)) "", fun same => ?_⟩
  -- The name in the inner wrapper is shorter than the one that its marker becomes a part of.
  rw [Catalogue.resolve_empty bound] at same
  have shorter := QualifiedName.length_name_read_le (unwrap (String.ofList name))
  have inner := length_unwrap_le hp hc ((congrArg trim String.toList_ofList).trans whole)
  rw [Catalogue.name_of_resolve same.symm, unwrap_around h blank spaced, whole, read,
    String.toList_ofList, List.length_cons] at shorter
  simp only [List.length_cons] at shorter
  omega

/-- The wrapper is recognised by its text and the expression is read by its quotes and braces, but
both find the same name. -/
theorem readers_agree (h : IsPrefix pfx) (flat : Flat pfx) (blank : ∀ c ∈ gap, isBlank c = true)
    (spaced : gap ≠ []) (said : trim name ≠ []) (comma : NoneAt ',' (mark .top name))
    (sign : NoneAt '=' (mark .top name)) :
    unwrap (around pfx gap name) = String.ofList (trim name) ∧
      (Expression.parse (around pfx gap name)).entries =
        [⟨.typeName, some (String.ofList (pfx ++ marker))⟩,
          ⟨.positional 1, some (unwrap (around pfx gap name))⟩] ∧
      ((∀ (types : Catalogue ι β) (t : PrefixTable),
        types.resolve (around pfx gap name) t = types.resolve (String.ofList name) t) ↔
          ¬ IsWrapper (trim name)) := by
  have found := unwrap_around h blank spaced name
  refine ⟨found, ?_, fun alike again => ?_, fun plain => resolve_around h blank spaced plain⟩
  · rw [found]
    exact parse_around h flat blank spaced said comma sign
  · obtain ⟨t, differ⟩ := exists_resolve_around_ne h blank spaced again
    exact differ (alike Catalogue.empty t)

/-- The name may leave a quote open, and the braces behind it are its own but for the last one. -/
theorem readers_agree_open_quote :
    let text := "\x7bx1:Type\u3000\ts:A \"B\x7d\x7d\x7d"
    unwrap text = "s:A \"B\x7d\x7d" ∧
      (Expression.parse text).entries = [⟨.typeName, some "x1:Type"⟩,
        ⟨.positional 1, some "s:A \"B\x7d\x7d"⟩] ∧
      ∀ (types : Catalogue Unit Unit) (t : PrefixTable),
        types.resolve text t = types.resolve "s:A \"B\x7d\x7d" t := by
  have h : IsPrefix ['x', '1'] := ⟨by decide, by decide, by
    simpa using (by decide : isBlank 'x' = false ∧ isBlank '1' = false)⟩
  obtain ⟨found, parsed, alike⟩ := readers_agree (ι := Unit) h (by decide)
    (List.all_eq_true.1 (by decide) : ∀ c ∈ ['\u3000', '\t'], isBlank c = true) (by decide)
    (by decide : trim "s:A \"B\x7d\x7d".toList ≠ []) (by decide) (by decide)
  refine ⟨found, ?_, alike.2 ?_⟩
  · rw [found] at parsed
    exact parsed
  · rintro ⟨pfx, c, rest, -, -, wrapper⟩
    cases (congrArg List.head? wrapper : some 's' = some '{')

/-- A wrapper that lacks its closing brace is taken off as well, though not from within another. -/
theorem resolve_around_unclosed_ne :
    let named (text : String) : Except LookupError String :=
      ((Catalogue.system : Catalogue Unit Unit).resolve text
        (PrefixTable.empty.bind "" Namespace.system)).map TypeDecl.name
    named "\x7bx:Type \x7bx:Type Int32\x7d" = .error (.unknownPrefix "\x7bx") ∧
      named "\x7bx:Type Int32" = .ok "Int32" ∧
      ¬ ∀ pfx gap name, IsPrefix pfx → Flat pfx → (∀ c ∈ gap, isBlank c = true) → gap ≠ [] →
        trim name ≠ [] → NoneAt ',' (mark .top name) → NoneAt '=' (mark .top name) →
        (∀ pfx' gap' name', String.ofList name ≠ around pfx' gap' name') →
        ∀ (types : Catalogue Unit Unit) (t : PrefixTable),
          types.resolve (around pfx gap name) t = types.resolve (String.ofList name) t := by
  intro named
  have twice : named "\x7bx:Type \x7bx:Type Int32\x7d" = .error (.unknownPrefix "\x7bx") :=
    rfl
  have once : named "\x7bx:Type Int32" = .ok "Int32" := rfl
  refine ⟨twice, once, fun alike => ?_⟩
  have unclosed : ∀ pfx gap name,
      String.ofList "\x7bx:Type Int32".toList ≠ around pfx gap name := by
    intro pfx gap name e
    have last := congrArg (fun s => s.toList.getLast?) e
    simp only [around, braced, String.toList_ofList, List.getLast?_concat] at last
    exact absurd last (by decide)
  have h : IsPrefix ['x'] :=
    ⟨by decide, by decide, by simpa using (by decide : isBlank 'x' = false)⟩
  have same := alike ['x'] [' '] "\x7bx:Type Int32".toList h
    (by decide) isBlank_space (by decide) (by decide) (by decide) (by decide) unclosed
    Catalogue.system (PrefixTable.empty.bind "" Namespace.system)
  have clash : named "\x7bx:Type \x7bx:Type Int32\x7d" = named "\x7bx:Type Int32" :=
    congrArg (Except.map TypeDecl.name) same
  rw [twice, once] at clash
  cases clash

end TypeWrapper

end MarkupBinding
