import MarkupBinding.Binding
import MarkupBinding.Proofs.Expression.Composed
import MarkupBinding.Proofs.Resolution.RoundTrip
/-!
# Library keys are bound back

The key of a resource within a library is written as an expression with two arguments: the type that
stands for the library, in a wrapper if its name has a prefix, and the name of the resource. The
expression is taken apart into just these two again, whatever the name of the resource leaves open,
and the first of them resolves to the type. So a constructor that takes a type and a text is called
with what the key was made of.

As with type keys, the markup language must not have the empty prefix. Naming does not give it that
prefix as long as no alias is empty.

Results:

* `languageNaming_ne_empty`: where the empty prefix comes from, if the language has it.
* `exists_argument_markup`: the type within the key is one argument, and it resolves.
* `bindAs_markup_component`: the key is read as two arguments, and the constructor is called with
  the type and the name of the resource.
-/
namespace MarkupBinding

open Text PrefixTable
open ResourceKey (wrapped wrap componentText)
open Expression (IsArgument)

/-! ## Prefixes that are not empty -/

/-- Naming a type gives no namespace the empty prefix. -/
theorem prefixOf?_nameOrBind_ne_empty {aliases : Aliases}
    (reserved : ∀ a ∈ aliases.entries, a.pfx ≠ "") (head : TypeHead) {t : PrefixTable} {ns : String}
    (h : t.prefixOf? ns ≠ some "") : (nameOrBind aliases head t).table.prefixOf? ns ≠ some "" := by
  obtain ⟨_, -, -, e⟩ | ⟨-, e⟩ := nameOrBind_cases aliases head t
  · rw [e]
    exact h
  · have ne := newBinding_pfx_ne_empty reserved head t
    rw [e, prefixOf?_allocated]
    intro empty
    rcases Option.or_eq_some_iff.1 empty with old | ⟨-, new⟩
    · exact h old
    · split at new
      · exact ne (Option.some.inj new)
      · cases new

theorem languageNaming_ne_empty {t : PrefixTable} (h : t.prefixOf? Namespace.language ≠ some "") :
    (languageNaming t).text ≠ "" := by
  obtain ⟨pfx, bound, e⟩ | ⟨-, e⟩ := allocate_cases t Namespace.language languagePrefix
  · have text : (languageNaming t).text = pfx := by rw [languageNaming, e]
    rw [text]
    intro empty
    exact h (empty ▸ bound)
  · have text : (languageNaming t).text = firstFree t.boundPrefixes languagePrefix := by
      rw [languageNaming, e]
    rw [text]
    exact firstFree_induct madeUp_ne_empty.next t.boundPrefixes madeUp_ne_empty.language

/-! ## The type as an argument -/

theorem Plain.flat {s : String} (h : Plain s) : Flat s.toList := fun c hc =>
  ⟨fun e => h.not_mem (by decide : '"' ∈ marks) (e ▸ hc),
    fun e => h.not_mem (by decide : '{' ∈ marks) (e ▸ hc),
    fun e => h.not_mem (by decide : '}' ∈ marks) (e ▸ hc)⟩

theorem Flat.append {s t : List Char} (hs : Flat s) (ht : Flat t) : Flat (s ++ t) := fun c hc =>
  (List.mem_append.1 hc).elim (hs c) (ht c)

theorem flat_qualify {pfx name : String} (hp : Plain pfx) (hn : Plain name) :
    Flat (qualify pfx name).toList := by
  by_cases h : pfx = ""
  · rw [qualify, if_pos h]
    exact hn.flat
  · have colon : Flat [':'] := by decide
    rw [toList_qualify h]
    exact hp.flat.append (colon.append hn.flat)

theorem not_mem_qualify {c : Char} (hc : c ∈ marks) (ne : c ≠ ':') {pfx name : String}
    (hp : Plain pfx) (hn : Plain name) : c ∉ (qualify pfx name).toList := by
  by_cases h : pfx = ""
  · rw [qualify, if_pos h]
    exact hn.not_mem hc
  · rw [toList_qualify h]
    simp [hp.not_mem hc, hn.not_mem hc, ne]

theorem argument_qualify {pfx name : String} (hp : Plain pfx) (hn : Plain name) :
    IsArgument (qualify pfx name).toList :=
  Expression.argument_of_flat (trim_qualify hp.namePart hn.namePart)
    (not_mem_qualify (by decide) (by decide) hp hn) (not_mem_qualify (by decide) (by decide) hp hn)

theorem argument_wrapped {pfx text : String} (hp : Plain pfx) (ht : Flat text.toList) :
    IsArgument (wrapped pfx text).toList ∧ Closes (wrapped pfx text).toList := by
  have marker : Flat TypeWrapper.marker := by decide
  have blank : Flat [' '] := by decide
  have inside : Flat (pfx.toList ++ TypeWrapper.marker ++ ' ' :: text.toList) :=
    (hp.flat.append marker).append (blank.append ht)
  rw [toList_wrapped]
  exact ⟨Expression.argument_braced inside, Expression.closes_braced inside⟩

section Component

variable {ι β : Type} {types : Catalogue ι β} {d : TypeDecl ι β} {t : PrefixTable}
  {aliases : Aliases}

theorem exists_argument_markup (built : types.Reachable) (registered : d ∈ types.decls)
    (reachable : Reachable t) (plain : Spells Plain aliases d.head t)
    (reserved : ∀ a ∈ aliases.entries, a.pfx ≠ "")
    (language : t.prefixOf? Namespace.language ≠ some "") (resource : String) :
    ∃ a, (ResourceKey.markup aliases t (.component d.head resource)).text =
        componentText a resource ∧
      IsArgument a.toList ∧ Closes a.toList ∧
      types.resolve a (ResourceKey.markup aliases t (.component d.head resource)).table =
        .ok d := by
  obtain ⟨b, named⟩ := namedBy_nameOrBind aliases d.head t
  have bound := forall_bound_nameOrBind plain madeUp_plain
  have left := reachable_nameOrBind reachable aliases d.head
  have hp := bound b named.bound
  have flat : Flat (nameOrBind aliases d.head t).text.toList := by
    rw [named.text]
    exact flat_qualify hp plain.name
  unfold ResourceKey.markup
  dsimp only
  -- A name with a colon is wrapped, and the braces hide it; one without stands as it is.
  split
  · have ne := languageNaming_ne_empty (prefixOf?_nameOrBind_ne_empty reserved d.head language)
    have resolved := resolve_wrap built registered named left bound plain.name
    rw [if_neg ne] at resolved
    obtain ⟨argument, closes⟩ := argument_wrapped (plain_languageNaming bound).1 flat
    exact ⟨_, rfl, argument, closes, resolved⟩
  · have resolved := resolve_of_namedBy built registered named left hp.namePart
      plain.name.namePart
    have argument := argument_qualify hp plain.name
    rw [← named.text] at argument
    exact ⟨_, rfl, argument, flat.closes, resolved⟩

/-! ## Binding the key -/

/-- The word that a library key starts with. -/
def componentHead : String := "ComponentResourceKey"

theorem toList_componentText (type resource : String) :
    (componentText type resource).toList = '{' :: (componentHead.toList ++
      ' ' :: (type.toList ++ ',' :: ' ' :: resource.toList)) ++ ['}'] := by
  have opening : "\x7bComponentResourceKey ".toList = '{' :: componentHead.toList ++ [' '] := by
    decide
  have comma : ", ".toList = [',', ' '] := by decide
  have closing : "\x7d".toList = ['}'] := by decide
  unfold componentText
  simp only [String.toList_append, opening, comma, closing, List.append_assoc,
    List.cons_append, List.nil_append]

theorem parse_componentText {type resource : String} (ht : IsArgument type.toList)
    (closes : Closes type.toList) (hr : IsArgument resource.toList) (filled : resource ≠ "") :
    Expression.parse (componentText type resource) =
      ((Expression.ofTypeName componentHead).push (some type)).push (some resource) := by
  have head : Plain componentHead := by decide
  have text := toList_componentText type resource
  rw [← String.ofList_toList (s := componentText type resource), text]
  have noBlank : ∀ m ∈ Mark.mark .top componentHead.toList, m.separates isBlank = false := by
    decide
  have some_resource : resource.toList ≠ [] := by simpa using filled
  rw [Expression.parse_two_arguments head.flat.closes noBlank ht closes hr some_resource,
    head.trim_eq]
  simp only [String.ofList_toList]

/-- Where one constructor takes as many arguments as there are, and these can be converted, all
depends on the code of that constructor. -/
theorem bindAs_of_only_candidate {α : Type} (view : ι → Option α) {env : Environment ι β}
    {e : Expression} {k : TypeDecl ι β} {c : Constructor ι β}
    (only : Environment.candidates k e.arguments = [c]) {values : List (Value β)}
    (converted : env.convertAll c.params e.arguments = .ok values) (bare : e.assignments = []) :
    env.bindAs view e k =
      match c.make values with
      | .ok i =>
        (match view i with
          | some a => .ok a
          | none => .error (.wrongInstance k.name), [.bound e k.name])
      | .error err =>
        (.error (.noConstructor k.name e.arguments.length),
          [.rejected k.name 0 c.signature (.host err)]) := by
  unfold Environment.bindAs Environment.bind
  rw [only, bare]
  cases made : c.make values with
  | ok i =>
    have attempt : env.attempt c e.arguments = .ok i := by
      rw [Environment.attempt, converted]
      dsimp only
      rw [made]
      rfl
    simp only [Environment.construct, attempt, Environment.assignAll]
    cases view i <;> rfl
  | error err =>
    have attempt : env.attempt c e.arguments = .error (.host err) := by
      rw [Environment.attempt, converted]
      dsimp only
      rw [made]
      rfl
    simp only [Environment.construct, attempt]

theorem convertAll_type_object (env : Environment ι β) {type : String}
    (resolved : env.types.resolve type env.prefixes = .ok d) {p q : TypeHead} (hp : p.kind = .type)
    (hq : q.kind = .object) (resource : String) :
    env.convertAll [p, q] [some type, some resource] = .ok [.type d.head, .text resource] := by
  have first : env.convert p (some type) = .ok (.type d.head) := by
    unfold Environment.convert
    rw [hp]
    dsimp only
    rw [resolved]
  have second : env.convert q (some resource) = .ok (.text resource) := by
    unfold Environment.convert ConversionTable.convert
    rw [hq]
  simp only [Environment.convertAll, first, second, Except.map]

theorem bindAs_markup_component (built : types.Reachable) (registered : d ∈ types.decls)
    (reachable : Reachable t) (plain : Spells Plain aliases d.head t)
    (reserved : ∀ a ∈ aliases.entries, a.pfx ≠ "")
    (language : t.prefixOf? Namespace.language ≠ some "") {resource : String}
    (filled : resource ≠ "") (whole : IsArgument resource.toList) :
    let n := ResourceKey.markup aliases t (.component d.head resource)
    let e := Expression.parse n.text
    ∃ type, e.typeName = "ComponentResourceKey" ∧ e.arguments = [some type, some resource] ∧
      (∀ name value, ⟨.named name, value⟩ ∉ e.entries) ∧ types.resolve type n.table = .ok d ∧
      ∀ {α : Type} (view : ι → Option α) (conversions : ConversionTable β) (k : TypeDecl ι β)
        (c : Constructor ι β) (p q : TypeHead),
        (k.constructors.filter fun c => c.arity = 2) = [c] → c.params = [p, q] →
        p.kind = .type → q.kind = .object →
        Environment.bindAs view ⟨types, conversions, n.table⟩ e k =
          match c.make [.type d.head, .text resource] with
          | .ok i =>
            (match view i with
              | some a => .ok a
              | none => .error (.wrongInstance k.name), [.bound e k.name])
          | .error err =>
            (.error (.noConstructor k.name 2), [.rejected k.name 0 c.signature (.host err)]) := by
  intro n e
  obtain ⟨type, text, argument, closes, resolved⟩ :=
    exists_argument_markup built registered reachable plain reserved language resource
  have parsed : e = ((Expression.ofTypeName componentHead).push (some type)).push (some resource) :=
    (congrArg Expression.parse text).trans (parse_componentText argument closes whole filled)
  have arguments : e.arguments = [some type, some resource] := by
    rw [parsed]
    exact Expression.arguments_two_arguments ..
  have assignments : e.assignments = [] := by
    rw [parsed]
    exact Expression.assignments_two_arguments ..
  refine ⟨type, ?_, arguments, ?_, resolved, ?_⟩
  · rw [parsed, Expression.typeName_push, Expression.typeName_push, Expression.typeName_ofTypeName]
    rfl
  · intro name value mem
    rw [parsed, Expression.entries_two_arguments] at mem
    simp at mem
  · intro α view conversions k c p q only params hp hq
    have candidate : Environment.candidates k e.arguments = [c] := by
      rw [arguments]
      exact only
    have converted : Environment.convertAll ⟨types, conversions, n.table⟩ c.params e.arguments =
        .ok [.type d.head, .text resource] := by
      rw [params, arguments]
      exact convertAll_type_object ⟨types, conversions, n.table⟩ resolved hp hq resource
    have bound := bindAs_of_only_candidate view candidate converted assignments
    rw [arguments] at bound
    exact bound

end Component

/-- The name of the resource opens a quotation that hides its comma, and does not close it. -/
theorem bindAs_markup_component_open_quote :
    let d : TypeDecl (List (Value Unit)) Unit :=
      .scalar "clr-namespace:Acme.Themes;assembly=Acme" "Theme" .object
    let c : Constructor (List (Value Unit)) Unit :=
      ⟨[.plain Namespace.system "Type" .type, .plain Namespace.system "Object" .object], .ok⟩
    let k : TypeDecl (List (Value Unit)) Unit := ⟨.plain "" componentHead .convertible, [c], [], []⟩
    let n := ResourceKey.markup .empty .presentation (.component d.head "Accent\"a, b")
    n.text = "\x7bComponentResourceKey \x7bx:Type themes:Theme\x7d, Accent\"a, b\x7d" ∧
      (Environment.bindAs some ⟨Catalogue.empty.register d, .empty, n.table⟩ (.parse n.text) k).1 =
        .ok [.type d.head, .text "Accent\"a, b"] := by
  intro d c k n
  have plain : Spells Plain .empty d.head .presentation :=
    ⟨by decide, by decide, by decide, by decide⟩
  have registered : d ∈ (Catalogue.empty.register d).decls := List.mem_singleton_self d
  have whole : IsArgument "Accent\"a, b".toList :=
    ⟨by decide, by unfold Expression.NoneAt; decide, by unfold Expression.NoneAt; decide⟩
  obtain ⟨-, -, -, -, -, bound⟩ := bindAs_markup_component (.register .empty d) registered
    (.start .presentation) plain (by decide) (by decide) (by decide) whole
  have called := bound some .empty k c _ _ rfl rfl rfl rfl
  exact ⟨by decide +kernel, congrArg Prod.fst called⟩

end MarkupBinding
