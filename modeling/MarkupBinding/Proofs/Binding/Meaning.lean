import MarkupBinding.Proofs.Binding.Course
import MarkupBinding.Proofs.Prefixes.Invariant
/-!
# What a document means by its prefixes

Two documents may have come by their prefixes in different ways: in another order, by another
history, with other spellings of the core library. As long as both bind the same prefixes, each to a
spelling of the same namespace (`SameMeaning`), nothing that is read in them tells them apart. Every
name resolves to the same type, and binding an expression takes the same course.

The one place where a difference can be seen is the text of an error that quotes a namespace as it
is spelled. So errors are compared in a form in which that namespace is canonical. It matters that
nothing else is lost: a type that is not found makes a constructor fail, and then it must fail in
both documents.

Everything below resolution goes by way of `convert`. If two environments convert alike, whatever
the target and the text (`Alike`), then so do all steps of a binding.

Results:

* `mapError_resolve`: a name resolves to the same type, or fails alike.
* `alike_of_sameMeaning`: arguments and properties are converted alike.
* `construct_alike`, `assignAll_alike`: the same steps are taken, and reported alike.
* `bind_of_sameMeaning`: types, courses and outcomes are the same.
-/
namespace MarkupBinding

variable {ι β : Type}

/-- Both tables bind the same prefixes, each to spellings of one namespace. -/
structure PrefixTable.SameMeaning (t t' : PrefixTable) : Prop where
  bound : ∀ pfx, pfx ∈ t'.boundPrefixes ↔ pfx ∈ t.boundPrefixes
  namespaces : ∀ b ∈ t.bindings, ∀ b' ∈ t'.bindings, b'.pfx = b.pfx →
    canonicalNamespace b'.ns = canonicalNamespace b.ns

/-! ## Errors without spellings -/

/-- The error with the namespace that it quotes in canonical form. -/
def LookupError.canonical : LookupError → LookupError
  | .unknownType name ns => .unknownType name (canonicalNamespace ns)
  | e => e

/-- The error with the namespace that it quotes in canonical form. -/
def ConversionError.canonical : ConversionError → ConversionError
  | .lookup e => .lookup e.canonical
  | e => e

/-- The obstacle with the namespace that it quotes in canonical form. -/
def Obstacle.canonical : Obstacle → Obstacle
  | .conversion e => .conversion e.canonical
  | e => e

/-- The report with the namespace that it quotes in canonical form. -/
def BindingEvent.canonical : BindingEvent → BindingEvent
  | .rejected type attempt signature obstacle =>
    .rejected type attempt signature obstacle.canonical
  | .notAssigned type property obstacle => .notAssigned type property obstacle.canonical
  | e => e

/-- The error with the namespace that it quotes in canonical form. -/
def BindingError.canonical : BindingError → BindingError
  | .lookup e => .lookup e.canonical
  | e => e

section Outcomes

variable {α ε δ : Type} {f : ε → δ} {r r' : Except ε α}

/-- Outcomes that are the same up to a view of the errors. -/
theorem cases_of_mapError_eq (h : r'.mapError f = r.mapError f) :
    (∃ a, r' = .ok a ∧ r = .ok a) ∨ ∃ e' e, r' = .error e' ∧ r = .error e ∧ f e' = f e := by
  cases r' with
  | ok a =>
    cases r with
    | ok b => exact Or.inl ⟨b, congrArg _ (Except.ok.inj h), rfl⟩
    | error e => cases h
  | error e' =>
    cases r with
    | ok b => cases h
    | error e => exact Or.inr ⟨e', e, rfl, rfl, Except.error.inj h⟩

theorem toOption_eq_of_mapError_eq (h : r'.mapError f = r.mapError f) :
    r'.toOption = r.toOption := by
  obtain ⟨a, rfl, rfl⟩ | ⟨e', e, rfl, rfl, -⟩ := cases_of_mapError_eq h <;> rfl

end Outcomes

/-! ## Resolution -/

section Resolution

variable {t t' : PrefixTable} (same : t.SameMeaning t')
include same

open PrefixTable in
theorem namespaceOf?_cases (pfx : String) :
    (t'.namespaceOf? pfx = none ∧ t.namespaceOf? pfx = none) ∨
    ∃ ns' ns, t'.namespaceOf? pfx = some ns' ∧ t.namespaceOf? pfx = some ns ∧
      canonicalNamespace ns' = canonicalNamespace ns := by
  cases found : t.namespaceOf? pfx with
  | none =>
    have free := mt (same.bound pfx).1 (namespaceOf?_eq_none_iff.1 found)
    exact Or.inl ⟨namespaceOf?_eq_none_iff.2 free, rfl⟩
  | some ns =>
    cases found' : t'.namespaceOf? pfx with
    | none =>
      have free := mt (same.bound pfx).2 (namespaceOf?_eq_none_iff.1 found')
      rw [namespaceOf?_eq_none_iff.2 free] at found
      cases found
    | some ns' =>
      have spelled := same.namespaces _ (mem_of_namespaceOf? found) _
        (mem_of_namespaceOf? found') rfl
      exact Or.inr ⟨ns', ns, rfl, rfl, spelled⟩

namespace Catalogue

theorem namespaceFor_cases (name : QualifiedName) :
    (∃ e, namespaceFor t' name = .error e ∧ namespaceFor t name = .error e) ∨
    ∃ ns' ns, namespaceFor t' name = .ok ns' ∧ namespaceFor t name = .ok ns ∧
      canonicalNamespace ns' = canonicalNamespace ns := by
  unfold namespaceFor PrefixTable.defaultNamespace?
  cases name.pfx with
  | none =>
    -- Where there is no default namespace, both tables take the empty one.
    refine Or.inr ⟨_, _, rfl, rfl, ?_⟩
    obtain ⟨e', e⟩ | ⟨ns', ns, e', e, spelled⟩ := namespaceOf?_cases same ""
    · rw [e', e]
    · rw [e', e]
      exact spelled
  | some pfx =>
    dsimp only
    obtain ⟨e', e⟩ | ⟨ns', ns, e', e, spelled⟩ := namespaceOf?_cases same pfx
    · rw [e', e]
      exact Or.inl ⟨_, rfl, rfl⟩
    · rw [e', e]
      exact Or.inr ⟨ns', ns, rfl, rfl, spelled⟩

omit same in
theorem mapError_lookup (types : Catalogue ι β) {ns ns' : String}
    (h : canonicalNamespace ns' = canonicalNamespace ns) (name : String) :
    (types.lookup ns' name).mapError LookupError.canonical =
      (types.lookup ns name).mapError LookupError.canonical := by
  rw [lookup, lookup, types.find?_congr h]
  cases types.find? ns name with
  | some d => rfl
  | none => exact congrArg (Except.error ∘ LookupError.unknownType name) h

theorem mapError_resolve (types : Catalogue ι β) (text : String) :
    (types.resolve text t').mapError LookupError.canonical =
      (types.resolve text t).mapError LookupError.canonical := by
  unfold resolve
  dsimp only
  obtain ⟨err, e', e⟩ | ⟨ns', ns, e', e, spelled⟩ :=
    namespaceFor_cases same (.read (TypeWrapper.unwrap text))
  · rw [e', e]
  · rw [e', e]
    exact mapError_lookup types spelled _

end Catalogue

theorem mapError_extensionType (doc : Document ι β) (name : String) :
    ((doc.withTable t').extensionType name).mapError LookupError.canonical =
      ((doc.withTable t).extensionType name).mapError LookupError.canonical := by
  have resolved (text : String) :
      ((doc.withTable t').resolve text).mapError LookupError.canonical =
        ((doc.withTable t).resolve text).mapError LookupError.canonical :=
    Catalogue.mapError_resolve same doc.types text
  have suffixOptional (t : PrefixTable) : (doc.withTable t).suffixOptional = doc.suffixOptional :=
    rfl
  unfold Document.extensionType
  rw [suffixOptional, suffixOptional]
  obtain ⟨d, e', e⟩ | ⟨err', err, e', e, alike⟩ := cases_of_mapError_eq (resolved name)
  · rw [e', e]
  · rw [e', e]
    dsimp only
    split
    · obtain ⟨d, e', e⟩ | ⟨_, _, e', e, -⟩ :=
        cases_of_mapError_eq (resolved (name ++ extensionSuffix))
      · rw [e', e]
        rfl
      · rw [e', e]
        exact congrArg Except.error alike
    · exact congrArg Except.error alike

end Resolution

/-! ## Binding -/

namespace Environment

/-- Both environments turn the same texts into the same values, for whatever target. -/
def Alike (env env' : Environment ι β) : Prop :=
  ∀ target input, (env'.convert target input).mapError ConversionError.canonical =
    (env.convert target input).mapError ConversionError.canonical

/-- Only where the text names a type are the prefixes asked. -/
theorem alike_of_sameMeaning {t t' : PrefixTable} (same : t.SameMeaning t') (types : Catalogue ι β)
    (conversions : ConversionTable β) :
    Alike ⟨types, conversions, t⟩ ⟨types, conversions, t'⟩ := by
  intro target input
  unfold convert
  split
  · next _ text _ =>
    obtain ⟨d, e', e⟩ | ⟨err', err, e', e, quoted⟩ :=
      cases_of_mapError_eq (Catalogue.mapError_resolve same types text)
    · rw [e', e]
    · rw [e', e]
      exact congrArg (Except.error ∘ ConversionError.lookup) quoted
  · rfl
  · rfl

section Alike

variable {env env' : Environment ι β} (alike : env.Alike env')
include alike

theorem mapError_convertAll (targets : List TypeHead) (inputs : List (Option String)) :
    (env'.convertAll targets inputs).mapError ConversionError.canonical =
      (env.convertAll targets inputs).mapError ConversionError.canonical := by
  induction targets generalizing inputs with
  | nil => rfl
  | cons target targets ih =>
    cases inputs with
    | nil => rfl
    | cons input inputs =>
      unfold convertAll
      obtain ⟨v, e', e⟩ | ⟨err', err, e', e, same⟩ := cases_of_mapError_eq (alike target input)
      · rw [e', e]
        obtain ⟨vs, e', e⟩ | ⟨err', err, e', e, same⟩ := cases_of_mapError_eq (ih inputs)
        · simp only [e', e]
        · simp only [e', e]
          exact congrArg Except.error same
      · rw [e', e]
        exact congrArg Except.error same

theorem mapError_attempt (c : Constructor ι β) (arguments : List (Option String)) :
    (env'.attempt c arguments).mapError Obstacle.canonical =
      (env.attempt c arguments).mapError Obstacle.canonical := by
  unfold attempt
  obtain ⟨vs, e', e⟩ | ⟨err', err, e', e, same⟩ :=
    cases_of_mapError_eq (mapError_convertAll alike c.params arguments)
  · rw [e', e]
  · rw [e', e]
    exact congrArg (Except.error ∘ Obstacle.conversion) same

theorem construct_alike (type : String) (arguments : List (Option String)) (place : Nat)
    (cs : List (Constructor ι β)) :
    (env'.construct type arguments place cs).1 = (env.construct type arguments place cs).1 ∧
      (env'.construct type arguments place cs).2.map BindingEvent.canonical =
        (env.construct type arguments place cs).2.map BindingEvent.canonical := by
  induction cs generalizing place with
  | nil => exact ⟨rfl, rfl⟩
  | cons c cs ih =>
    unfold construct
    obtain ⟨i, e', e⟩ | ⟨o', o, e', e, same⟩ :=
      cases_of_mapError_eq (mapError_attempt alike c arguments)
    · rw [e', e]
      exact ⟨rfl, rfl⟩
    -- It is rejected in both, if for reasons that are spelled in two ways, and both go on.
    · obtain ⟨made, events⟩ := ih (place + 1)
      rw [e', e]
      refine ⟨made, ?_⟩
      rw [List.map_cons, List.map_cons, events, BindingEvent.canonical, BindingEvent.canonical,
        same]

theorem mapError_assignTo (p : Property ι β) (target : ι) (input : Option String) :
    (env'.assignTo p target input).mapError Obstacle.canonical =
      (env.assignTo p target input).mapError Obstacle.canonical := by
  unfold assignTo
  obtain ⟨v, e', e⟩ | ⟨err', err, e', e, same⟩ := cases_of_mapError_eq (alike p.type input)
  · rw [e', e]
  · rw [e', e]
    exact congrArg (Except.error ∘ Obstacle.conversion) same

theorem assign_alike (d : TypeDecl ι β) (target : ι) (name : String) (input : Option String) :
    (env'.assign d target name input).1 = (env.assign d target name input).1 ∧
      (env'.assign d target name input).2.map BindingEvent.canonical =
        (env.assign d target name input).2.map BindingEvent.canonical := by
  unfold assign
  split
  · exact ⟨rfl, rfl⟩
  · next p _ =>
    obtain ⟨i, e', e⟩ | ⟨o', o, e', e, same⟩ :=
      cases_of_mapError_eq (mapError_assignTo alike p target input)
    · rw [e', e]
      exact ⟨rfl, rfl⟩
    · rw [e', e]
      exact ⟨rfl, congrArg (fun o => [BindingEvent.notAssigned d.name name o]) same⟩

theorem assignAll_alike (d : TypeDecl ι β) (target : ι) (pairs : List (String × Option String)) :
    (env'.assignAll d target pairs).1 = (env.assignAll d target pairs).1 ∧
      (env'.assignAll d target pairs).2.map BindingEvent.canonical =
        (env.assignAll d target pairs).2.map BindingEvent.canonical := by
  induction pairs generalizing target with
  | nil => exact ⟨rfl, rfl⟩
  | cons pair pairs ih =>
    obtain ⟨name, input⟩ := pair
    obtain ⟨assigned, events⟩ := assign_alike alike d target name input
    obtain ⟨left, later⟩ := ih (env.assign d target name input).1
    simp only [assignAll, List.map_append]
    rw [assigned, events, later]
    exact ⟨left, rfl⟩

theorem bind_alike (e : Expression) (d : TypeDecl ι β) :
    (env'.bind e d).1 = (env.bind e d).1 ∧
      (env'.bind e d).2.map BindingEvent.canonical =
        (env.bind e d).2.map BindingEvent.canonical := by
  obtain ⟨made, events⟩ := construct_alike alike d.name e.arguments 0 (candidates d e.arguments)
  unfold bind
  revert made events
  rcases env'.construct d.name e.arguments 0 (candidates d e.arguments) with ⟨i', rejected'⟩
  rcases env.construct d.name e.arguments 0 (candidates d e.arguments) with ⟨i, rejected⟩
  intro made events
  obtain rfl : i' = i := made
  cases i' with
  | none => exact ⟨rfl, events⟩
  | some i =>
    obtain ⟨left, later⟩ := assignAll_alike alike d i e.assignments
    refine ⟨congrArg Except.ok left, ?_⟩
    dsimp only at events ⊢
    rw [List.map_append, List.map_append, List.map_append, List.map_append, events, later]

/-! ## The course of a binding -/

theorem construct?_alike (arguments : List (Option String)) (place : Nat)
    (cs : List (Constructor ι β)) :
    env'.construct? arguments place cs = env.construct? arguments place cs := by
  induction cs generalizing place with
  | nil => rfl
  | cons c cs ih =>
    have values := toOption_eq_of_mapError_eq (mapError_convertAll alike c.params arguments)
    rw [construct?, construct?, construction?, construction?, values, ih]

theorem assignments_alike (d : TypeDecl ι β) (target : ι) (pairs : List (String × Option String)) :
    env'.assignments d target pairs = env.assignments d target pairs := by
  induction pairs generalizing target with
  | nil => rfl
  | cons pair pairs ih =>
    obtain ⟨name, input⟩ := pair
    have value (p : Property ι β) := toOption_eq_of_mapError_eq (alike p.type input)
    simp only [assignments, assign?, value, ih]

theorem course_alike (e : Expression) (d : TypeDecl ι β) : env'.course e d = env.course e d := by
  simp only [course, construct?_alike alike, assignments_alike alike]

end Alike

end Environment

/-! ## In two documents -/

theorem bind_of_sameMeaning {t t' : PrefixTable} (same : t.SameMeaning t') (doc : Document ι β) :
    let a := doc.withTable t
    let b := doc.withTable t'
    (∀ text, (b.resolve text).mapError LookupError.canonical =
      (a.resolve text).mapError LookupError.canonical) ∧
    (∀ name, (b.extensionType name).mapError LookupError.canonical =
      (a.extensionType name).mapError LookupError.canonical) ∧
    ∀ text, b.course text = a.course text ∧
      (a.course text).map Course.run = (a.bind text).1.toOption.map Except.ok ∧
      (b.bind text).1.mapError BindingError.canonical =
        (a.bind text).1.mapError BindingError.canonical ∧
      (b.bind text).2.map BindingEvent.canonical = (a.bind text).2.map BindingEvent.canonical := by
  intro a b
  have alike : a.environment.Alike b.environment :=
    Environment.alike_of_sameMeaning same doc.types doc.conversions
  refine ⟨Catalogue.mapError_resolve same doc.types, mapError_extensionType same doc, ?_⟩
  intro text
  have type : (b.extensionType (Expression.parse text).typeName).mapError LookupError.canonical =
      (a.extensionType (Expression.parse text).typeName).mapError LookupError.canonical :=
    mapError_extensionType same doc _
  refine ⟨?_, a.run_course text, ?_⟩
  · rw [Document.course, Document.course, toOption_eq_of_mapError_eq type]
    exact congrArg _ (funext (Environment.course_alike alike (.parse text)))
  · unfold Document.bind
    dsimp only
    obtain ⟨d, e', e⟩ | ⟨err', err, e', e, quoted⟩ := cases_of_mapError_eq type
    · obtain ⟨outcome, events⟩ := Environment.bind_alike alike (.parse text) d
      rw [e', e]
      exact ⟨congrArg _ outcome, events⟩
    · rw [e', e]
      exact ⟨congrArg (Except.error ∘ BindingError.lookup) quoted, rfl⟩

/-- The prefixes are bound in another order, and the core library goes by another name. In neither
document is there a type `Missing`, which is reported with another namespace in each; so both go on
to the second constructor, which takes the text as it is. -/
theorem bind_of_sameMeaning_missing :
    let shown : TypeDecl String Unit :=
      ⟨.plain Namespace.language "Show" .object,
        [⟨[.plain Namespace.system "Type" .type], fun _ => .ok "type"⟩,
          ⟨[.plain Namespace.system "Object" .object], fun _ => .ok "object"⟩], [], []⟩
    let doc : Document String Unit :=
      ⟨Catalogue.empty.register shown, .empty, .empty, true, .empty⟩
    let a := doc.withTable (.ofScopes [[("x", Namespace.language), ("s", Namespace.system)]])
    let b := doc.withTable (PrefixTable.empty.run
      [.bind "s" Namespace.systemLegacy, .bind "x" Namespace.language])
    let text := "\x7bx:Show s:Missing\x7d"
    a.resolve "s:Missing" = .error (.unknownType "Missing" Namespace.system) ∧
      b.resolve "s:Missing" = .error (.unknownType "Missing" Namespace.systemLegacy) ∧
      (b.course text).map (fun c => (c.construction.place, c.construction.values)) =
        some (1, [.text "s:Missing"]) := by
  intro shown doc a b text
  have same : a.table.SameMeaning b.table := by
    refine ⟨fun pfx => ?_, by decide +kernel⟩
    have bound : b.table.boundPrefixes = ["s", "x"] ∧ a.table.boundPrefixes = ["x", "s"] := by
      decide +kernel
    rw [bound.1, bound.2]
    simp [or_comm]
  obtain ⟨-, -, alike⟩ := bind_of_sameMeaning same doc
  have course : b.course text = a.course text := (alike text).1
  refine ⟨?_, ?_, ?_⟩
  · rfl
  · rfl
  · rw [course]
    decide +kernel

end MarkupBinding
