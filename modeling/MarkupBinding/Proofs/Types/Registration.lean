import Mathlib.Data.List.Forall2
import MarkupBinding.Conversion
import MarkupBinding.Resolution.Naming
/-!
# What was registered last

A host registers types, converters and aliases, each under a namespace that it may spell as it
likes. The three tables bring spellings to their canonical form at different moments: a type has it
from the time it is described, a converter is kept under the identity of its target, and the table
of aliases rewrites what it is given and what it is asked for. All three come to the same: of all
that was listed under a namespace with the same canonical form, and under the same name, the last
counts (`Listing.latest`). The rows that a table starts with are its first listings.

A `Ledger` is one of the tables, with the row that a listing becomes and what a registration lists.
What is found in a table after a run is shown once for all ledgers.

Results:

* `Ledger.rows_run`: what a run of registrations makes of a table.
* `Ledger.get?_run`: what is found in it is made from the last listing that concerns the question.
* `Stores.run_respelled`: registrations that are spelled in another way lead to the same tables.
* `Stores.answers_run`: what all three tables answer after a run of registrations.
-/
namespace MarkupBinding

variable {ι β : Type}

/-- Something that is listed under a namespace, as it is spelled, and for types and converters
under a name in it. -/
structure Listing (κ α : Type) where
  ns : String
  name : κ
  what : α

namespace Listing

variable {κ α ρ K : Type} [DecidableEq κ] [DecidableEq K]

/-- The listing is under the same name and under a spelling of the same namespace. -/
def Concerns (ns : String) (name : κ) (e : Listing κ α) : Prop :=
  canonicalNamespace e.ns = canonicalNamespace ns ∧ e.name = name

instance (ns : String) (name : κ) : DecidablePred (Concerns (α := α) ns name) :=
  fun _ => inferInstanceAs (Decidable (_ ∧ _))

/-- What was listed last under a name and a namespace, if anything was. -/
def latest (ns : String) (name : κ) (log : List (Listing κ α)) : Option α :=
  (log.filter fun e => e.Concerns ns name).getLast?.map what

/-- A table whose rows are made from listings finds the row of the last one that concerns the
question, if this is told from the key of its row. -/
theorem get?_upsertAll_rows {key : ρ → K} {row : Listing κ α → ρ} {log : List (Listing κ α)} {k : K}
    {ns : String} {name : κ} (told : ∀ e ∈ log, key (row e) = k ↔ e.Concerns ns name) :
    Keyed.get? key k (Keyed.upsertAll key (log.map row) []) =
      (log.filter fun e => e.Concerns ns name).getLast?.map row := by
  have concerned : log.filter (fun e => key (row e) = k) = log.filter fun e => e.Concerns ns name :=
    List.filter_congr fun e he => decide_eq_decide.2 (told e he)
  rw [Keyed.get?_upsertAll, Keyed.get?_nil, Option.or_none, List.filter_map, List.getLast?_map,
    ← concerned]
  rfl

end Listing

/-! ## The tables that a host starts with -/

theorem Catalogue.nodup_system : ((system : Catalogue ι β).decls.map TypeDecl.id).Nodup :=
  List.foldlRecOn (motive := fun types : Catalogue ι β => (types.decls.map TypeDecl.id).Nodup) _ _
    List.nodup_nil fun _ h _ _ => Keyed.nodup_upsert h

theorem ConversionTable.nodup_standard (boxing : Boxing β) (known : Catalogue ι β) :
    ((standard boxing known).converters.map Converter.target).Nodup := by
  refine List.foldlRecOn
    (motive := fun t : ConversionTable β => (t.converters.map Converter.target).Nodup) _ _
    List.nodup_nil fun t h c _ => ?_
  split
  · exact Keyed.nodup_upsert h
  · exact h

namespace Aliases

/-- No two aliases are for the same namespace, and namespaces are canonical. -/
structure Distinct (t : Aliases) : Prop where
  nodup : (t.entries.map Alias.ns).Nodup
  canonical : ∀ a ∈ t.entries, canonicalNamespace a.ns = a.ns

theorem distinct_empty : Distinct empty :=
  ⟨List.nodup_nil, fun _ ha => absurd ha List.not_mem_nil⟩

theorem Distinct.add {t : Aliases} (h : t.Distinct) (ns pfx : String) :
    (t.add ns pfx).Distinct where
  nodup := Keyed.nodup_upsert h.nodup
  canonical := by
    intro a ha
    rcases Keyed.mem_upsert ha with rfl | ha
    · exact canonicalNamespace_idem ns
    · exact h.canonical a ha

theorem distinct_wellKnown : Distinct wellKnown :=
  List.foldlRecOn (motive := Distinct) _ _ distinct_empty fun _ h p _ => h.add p.1 p.2

end Aliases

/-! ## Registrations -/

/-- The declaration under a name and a namespace as they are spelled. -/
def TypeDecl.under (ns name : String) (d : TypeDecl ι β) : TypeDecl ι β :=
  { d with head := { d.head with id := .of ns name } }

/-- The tables of a host. -/
structure Stores (ι β : Type) where
  types : Catalogue ι β
  conversions : ConversionTable β
  aliases : Aliases

/-- A registration in one of the tables. -/
inductive Registration (ι β : Type) where
  /-- A type as it is declared, but for the name and the namespace. -/
  | type (ns name : String) (d : TypeDecl ι β)
  | converter (ns name : String) (convert : Convert β)
  | reserve (ns pfx : String)

namespace Registration

/-- The tables after a registration. -/
def apply (s : Stores ι β) : Registration ι β → Stores ι β
  | .type ns name d => { s with types := s.types.register (d.under ns name) }
  | .converter ns name convert =>
    { s with conversions := s.conversions.register (.of ns name) convert }
  | .reserve ns pfx => { s with aliases := s.aliases.add ns pfx }

/-- The type that is listed. -/
def type? : Registration ι β → Option (Listing String (TypeDecl ι β))
  | .type ns name d => some ⟨ns, name, d.under ns name⟩
  | _ => none

/-- The converter that is listed. -/
def converter? : Registration ι β → Option (Listing String (Convert β))
  | .converter ns name convert => some ⟨ns, name, convert⟩
  | _ => none

/-- The alias that is listed; it stands for the whole namespace. -/
def alias? : Registration ι β → Option (Listing Unit String)
  | .reserve ns pfx => some ⟨ns, (), pfx⟩
  | _ => none

/-- The same registration, with its namespace spelled in another way. -/
inductive Respelled : Registration ι β → Registration ι β → Prop where
  | type {ns ns' : String} (same : canonicalNamespace ns' = canonicalNamespace ns) (name : String)
    (d : TypeDecl ι β) : Respelled (.type ns name d) (.type ns' name d)
  | converter {ns ns' : String} (same : canonicalNamespace ns' = canonicalNamespace ns)
    (name : String) (convert : Convert β) :
    Respelled (.converter ns name convert) (.converter ns' name convert)
  | reserve {ns ns' : String} (same : canonicalNamespace ns' = canonicalNamespace ns)
    (pfx : String) : Respelled (.reserve ns pfx) (.reserve ns' pfx)

end Registration

namespace Stores

/-- The tables after a run of registrations. -/
def run (s : Stores ι β) (registrations : List (Registration ι β)) : Stores ι β :=
  registrations.foldl Registration.apply s

/-- The types that a host has, as listings. -/
def typeLog (s : Stores ι β) : List (Listing String (TypeDecl ι β)) :=
  s.types.decls.map fun d => ⟨d.ns, d.name, d⟩

/-- The converters that a host has, as listings. -/
def converterLog (s : Stores ι β) : List (Listing String (Convert β)) :=
  s.conversions.converters.map fun c => ⟨c.target.ns, c.target.name, c.convert⟩

/-- The aliases that a host has, as listings. -/
def aliasLog (s : Stores ι β) : List (Listing Unit String) :=
  s.aliases.entries.map fun a => ⟨a.ns, (), a.pfx⟩

/-- The tables that a host starts with: each is empty or has the usual rows. -/
structure Initial (s : Stores ι β) : Prop where
  types : s.types = .empty ∨ s.types = .system
  conversions : s.conversions = .empty ∨
    ∃ (boxing : Boxing β) (known : Catalogue ι β), s.conversions = .standard boxing known
  aliases : s.aliases = .empty ∨ s.aliases = .wellKnown

/-- Each table has at most one row for each identity, and namespaces are canonical. -/
structure Distinct (s : Stores ι β) : Prop where
  types : (s.types.decls.map TypeDecl.id).Nodup
  conversions : (s.conversions.converters.map Converter.target).Nodup
  aliases : s.aliases.Distinct

/-! ## Distinct rows -/

theorem distinct_apply {s : Stores ι β} (h : s.Distinct) (r : Registration ι β) :
    (r.apply s).Distinct := by
  cases r with
  | type ns name d => exact { h with types := Keyed.nodup_upsert h.types }
  | converter ns name convert =>
    exact { h with conversions := Keyed.nodup_upsert h.conversions }
  | reserve ns pfx => exact { h with aliases := h.aliases.add ns pfx }

theorem distinct_run {s : Stores ι β} (h : s.Distinct) (rs : List (Registration ι β)) :
    (s.run rs).Distinct :=
  List.foldlRecOn (motive := Distinct) rs Registration.apply h fun _ h r _ => distinct_apply h r

theorem distinct_of_initial {s : Stores ι β} (h : s.Initial) : s.Distinct where
  types := by
    rcases h.types with e | e <;> rw [e]
    · exact List.nodup_nil
    · exact Catalogue.nodup_system
  conversions := by
    rcases h.conversions with e | ⟨boxing, known, e⟩ <;> rw [e]
    · exact List.nodup_nil
    · exact ConversionTable.nodup_standard boxing known
  aliases := by
    rcases h.aliases with e | e <;> rw [e]
    · exact Aliases.distinct_empty
    · exact Aliases.distinct_wellKnown

end Stores

/-! ## The rows of a table -/

/-- A table of a host, as it is made from listings. -/
structure Ledger (ι β κ α ρ K : Type) [DecidableEq K] where
  rows : Stores ι β → List ρ
  key : ρ → K
  /-- The key under which a question is looked up. -/
  asked : String → κ → K
  /-- The row that a listing becomes. -/
  row : Listing κ α → ρ
  listed? : Registration ι β → Option (Listing κ α)
  apply : ∀ s r, rows (r.apply s) = Keyed.upsertAll key ((listed? r).toList.map row) (rows s)

namespace Ledger

variable {κ α ρ K : Type} [DecidableEq K] (l : Ledger ι β κ α ρ K)

theorem rows_run (s : Stores ι β) (rs : List (Registration ι β)) :
    l.rows (s.run rs) = Keyed.upsertAll l.key ((rs.filterMap l.listed?).map l.row) (l.rows s) := by
  induction rs generalizing s with
  | nil => rfl
  | cons r rs ih =>
    have first : s.run (r :: rs) = (r.apply s).run rs := rfl
    rw [first, ih, l.apply]
    cases e : l.listed? r with
    | none => rw [List.filterMap_cons_none e]; rfl
    | some listing => rw [List.filterMap_cons_some e]; rfl

/-- What a table finds after a run is made from the last listing that concerns the question, of
those that were there and those that were registered. -/
theorem get?_run [DecidableEq κ] {s : Stores ι β} {log : List (Listing κ α)}
    (start : log.map l.row = l.rows s) (nodup : ((l.rows s).map l.key).Nodup)
    (rs : List (Registration ι β)) (ns : String) (name : κ)
    (told : ∀ e ∈ log ++ rs.filterMap l.listed?,
      l.key (l.row e) = l.asked ns name ↔ e.Concerns ns name) :
    Keyed.get? l.key (l.asked ns name) (l.rows (s.run rs)) =
      ((log ++ rs.filterMap l.listed?).filter fun e => e.Concerns ns name).getLast?.map l.row := by
  -- Distinct rows are what they would write in an empty table, so the log starts with them.
  rw [l.rows_run, ← Listing.get?_upsertAll_rows told, List.map_append, start,
    Keyed.upsertAll_append, Keyed.upsertAll_eq_self nodup]

/-- A type becomes a row as it was described. -/
def types : Ledger ι β String (TypeDecl ι β) (TypeDecl ι β) TypeId where
  rows s := s.types.decls
  key := TypeDecl.id
  asked := .of
  row := Listing.what
  listed? := Registration.type?
  apply _ r := by cases r <;> rfl

/-- A converter becomes a row under the identity of its target. -/
def converters : Ledger ι β String (Convert β) (Converter β) TypeId where
  rows s := s.conversions.converters
  key := Converter.target
  asked := .of
  row e := ⟨.of e.ns e.name, e.what⟩
  listed? := Registration.converter?
  apply _ r := by cases r <;> rfl

/-- An alias becomes a row under the canonical namespace. -/
def aliases : Ledger ι β Unit String Alias String where
  rows s := s.aliases.entries
  key := Alias.ns
  asked ns _ := canonicalNamespace ns
  row e := ⟨canonicalNamespace e.ns, e.what⟩
  listed? := Registration.alias?
  apply _ r := by cases r <;> rfl

end Ledger

/-! ## The three tables -/

namespace Stores

theorem id_of_mem_typeLog {s : Stores ι β} {rs : List (Registration ι β)}
    {e : Listing String (TypeDecl ι β)} (h : e ∈ s.typeLog ++ rs.filterMap Registration.type?) :
    e.what.id = .of e.ns e.name := by
  rcases List.mem_append.1 h with h | h
  · obtain ⟨d, -, rfl⟩ := List.mem_map.1 h
    exact (TypeId.of_ns_name d.id).symm
  · obtain ⟨r, -, listed⟩ := List.mem_filterMap.1 h
    cases r with
    | type ns name d =>
      obtain rfl := Option.some.inj listed
      rfl
    | converter => cases listed
    | reserve => cases listed

theorem find?_run {s : Stores ι β} (h : s.Distinct) (rs : List (Registration ι β))
    (ns name : String) :
    (s.run rs).types.find? ns name =
      Listing.latest ns name (s.typeLog ++ rs.filterMap Registration.type?) := by
  have start : s.typeLog.map Listing.what = s.types.decls := by
    simp [typeLog, Function.comp_def]
  refine Ledger.types.get?_run start h.types rs ns name fun e he => ?_
  have id : Ledger.types.key (Ledger.types.row e) = .of e.ns e.name := id_of_mem_typeLog he
  rw [id]
  exact TypeId.of_eq_of_iff

theorem converter?_run {s : Stores ι β} (h : s.Distinct) (rs : List (Registration ι β))
    (ns name : String) :
    (s.run rs).conversions.converter? (.of ns name) =
      Listing.latest ns name (s.converterLog ++ rs.filterMap Registration.converter?) := by
  have start : s.converterLog.map (fun e => (⟨.of e.ns e.name, e.what⟩ : Converter β)) =
      s.conversions.converters := by
    simp [converterLog, Function.comp_def]
  have found := Ledger.converters.get?_run start h.conversions rs ns name
    fun e _ => TypeId.of_eq_of_iff
  exact (congrArg (Option.map Converter.convert) found).trans (Option.map_map ..)

theorem prefixFor?_run {s : Stores ι β} (h : s.Distinct) (rs : List (Registration ι β))
    (ns : String) :
    (s.run rs).aliases.prefixFor? ns =
      Listing.latest ns () (s.aliasLog ++ rs.filterMap Registration.alias?) := by
  have start : s.aliasLog.map (fun e => (⟨canonicalNamespace e.ns, e.what⟩ : Alias)) =
      s.aliases.entries := by
    rw [aliasLog, List.map_map]
    refine (List.map_congr_left fun a ha => ?_).trans (List.map_id _)
    exact congrArg (Alias.mk · a.pfx) (h.aliases.canonical a ha)
  have found := Ledger.aliases.get?_run start h.aliases.nodup rs ns ()
    fun e _ => (and_iff_left rfl).symm
  exact (congrArg (Option.map Alias.pfx) found).trans (Option.map_map ..)

end Stores

/-! ## Other spellings -/

theorem Registration.Respelled.apply_eq {r r' : Registration ι β} (h : r.Respelled r')
    (s : Stores ι β) : r'.apply s = r.apply s := by
  cases h with
  | type same name d =>
    rw [Registration.apply, Registration.apply, TypeDecl.under, TypeDecl.under,
      TypeId.of_congr same]
  | converter same name convert =>
    rw [Registration.apply, Registration.apply, TypeId.of_congr same]
  | reserve same pfx => rw [Registration.apply, Registration.apply, Aliases.add, Aliases.add, same]

namespace Stores

theorem run_respelled {rs rs' : List (Registration ι β)}
    (h : List.Forall₂ Registration.Respelled rs rs') (s : Stores ι β) : s.run rs' = s.run rs := by
  induction h generalizing s with
  | nil => rfl
  | cons first _ ih => exact (congrArg (run · _) (first.apply_eq s)).trans (ih _)

/-! ## What the tables answer -/

theorem answers_run {s : Stores ι β} (h : s.Initial) (rs : List (Registration ι β)) :
    let after := s.run rs
    after.Distinct ∧
      (∀ ns name, after.types.find? ns name =
        Listing.latest ns name (s.typeLog ++ rs.filterMap Registration.type?)) ∧
      (∀ ns name preferred,
        let target : TypeHead := ⟨.of ns name, .convertible, preferred⟩
        let used := Listing.latest ns name (s.converterLog ++ rs.filterMap Registration.converter?)
        after.conversions.contains target.id = used.isSome ∧
          ∀ text, after.conversions.convert target (some text) =
            match used with
            | some convert => (convert text).mapError (.refused name text)
            | none => .error (.unsupported name)) ∧
      (∀ ns, after.aliases.prefixFor? ns =
        Listing.latest ns () (s.aliasLog ++ rs.filterMap Registration.alias?)) ∧
      ∀ rs', List.Forall₂ Registration.Respelled rs rs' → s.run rs' = after ∧
        ∀ ns ns', canonicalNamespace ns' = canonicalNamespace ns →
          (∀ name, after.types.find? ns' name = after.types.find? ns name) ∧
          (∀ name kind preferred input,
            after.conversions.contains (.of ns' name) = after.conversions.contains (.of ns name) ∧
            after.conversions.convert ⟨.of ns' name, kind, preferred⟩ input =
              after.conversions.convert ⟨.of ns name, kind, preferred⟩ input) ∧
          after.aliases.prefixFor? ns' = after.aliases.prefixFor? ns := by
  have distinct := distinct_of_initial h
  intro after
  refine ⟨distinct_run distinct rs, find?_run distinct rs, fun ns name preferred => ?_,
    prefixFor?_run distinct rs, fun rs' respelled => ⟨run_respelled respelled s, ?_⟩⟩
  · intro target used
    have found : after.conversions.converter? target.id = used := converter?_run distinct rs ns name
    refine ⟨congrArg Option.isSome found, fun text => ?_⟩
    rw [ConversionTable.convert_eq _ rfl]
    dsimp only
    rw [ConversionTable.ask, found]
    cases used <;> rfl
  · intro ns ns' same
    refine ⟨after.types.find?_congr same, fun name kind preferred input => ?_, ?_⟩
    · rw [TypeId.of_congr same]
      exact ⟨rfl, rfl⟩
    · rw [Aliases.prefixFor?, Aliases.prefixFor?, same]

/-- The core library under three of its names: of two types and two converters the last is found,
and an alias takes the place of the one that was there from the start. -/
theorem answers_run_core :
    let s : Stores Unit Int32 := ⟨.empty, .empty, .wellKnown⟩
    let gauge (pfx : String) : TypeDecl Unit Int32 :=
      ⟨{ TypeHead.plain "" "" .object with preferredPrefix := some pfx }, [], [], []⟩
    let always (n : Int32) : Convert Int32 := fun _ => .ok (.boxed n)
    let rs : List (Registration Unit Int32) :=
      [.type "clr-namespace:Acme;assembly=mscorlib" "Gauge" (gauge "first"),
        .converter Namespace.systemLegacy "Int32" (always 1),
        .type "clr-namespace: Acme ; assembly=System.Private.CoreLib" "Gauge" (gauge "second"),
        .reserve Namespace.systemImplementation "sys",
        .converter Namespace.system "Int32" (always 2)]
    let after := s.run rs
    (after.types.find? "clr-namespace:Acme;assembly=System.Runtime" "Gauge").map
        (fun d => d.head.preferredPrefix) = some (some "second") ∧
      after.conversions.convert (.plain Namespace.systemImplementation "Int32" .convertible)
        (some "7") = .ok (.boxed 2) ∧
      after.aliases.prefixFor? Namespace.systemLegacy = some "sys" := by
  intro s gauge always rs after
  have initial : s.Initial := ⟨Or.inl rfl, Or.inl rfl, Or.inr rfl⟩
  obtain ⟨-, types, converters, aliases, -⟩ := answers_run initial rs
  refine ⟨?_, ?_, ?_⟩
  · rw [types]
    decide +kernel
  · refine ((converters Namespace.systemImplementation "Int32" none).2 "7").trans ?_
    decide +kernel
  · rw [aliases]
    decide +kernel

end Stores

end MarkupBinding
