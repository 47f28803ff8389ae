import MarkupBinding.Name.Qualified
import MarkupBinding.Prefixes.Table
import MarkupBinding.Types.Value
/-!
# Naming types and resources in a document

An alias is a prefix that is reserved for a namespace: it is what a document uses for the namespace
unless it has bound another prefix. Namespaces are kept in their canonical form, so that all
spellings of a namespace share its alias. Where no prefix is reserved, one is made from the
identifier of the namespace.

A type is named by a prefix of its namespace. `nameIn?` uses a prefix that is bound already, to the
namespace as it stands or to another spelling of it. Where there is none, `nameOrBind` binds one:
the alias of the namespace, or the prefix that the type prefers, or one derived from the namespace,
numbered if it is taken. What was bound is reported.

A resource is kept under a plain name, under a type, or under a name within the library that a type
belongs to. `markup` writes a key so that a document can refer to it, and binds the prefixes that
this takes: first that of the type, then that of the markup language.

While a document is written its prefix table changes by edits, and by naming types and resource
keys. `Step` has these as data; a step leads to a table and to reports of what was bound, and a run
of steps to the table and the reports of all of them.

Results:

* `derivedPrefix_ne_empty`: a prefix made from an identifier is never empty.
* `nameOrBind_of_bound`: where a prefix is bound, nothing changes and nothing is reported.
* `reachable_nameOrBind`, `reachable_wrap`: naming leads to no table that edits could not lead to.
-/
namespace MarkupBinding

open Text

/-! ## Aliases -/

/-- A namespace, in its canonical form, with the prefix reserved for it. -/
structure Alias where
  ns : String
  pfx : String
deriving DecidableEq

/-- The aliases in the order in which their namespaces first came in. -/
structure Aliases where
  entries : List Alias
deriving DecidableEq

namespace Aliases

/-- The table without aliases. -/
def empty : Aliases := ⟨[]⟩

/-- Reserves a prefix for a namespace, in place of the one it had. -/
def add (t : Aliases) (ns pfx : String) : Aliases :=
  ⟨Keyed.upsert Alias.ns ⟨canonicalNamespace ns, pfx⟩ t.entries⟩

/-- Reserves prefixes one after another. -/
def addAll (t : Aliases) (pairs : List (String × String)) : Aliases :=
  pairs.foldl (fun t p => t.add p.1 p.2) t

/-- The conventional prefixes of the well-known namespaces. -/
def wellKnown : Aliases := empty.addAll (Namespace.common.map Prod.swap)

/-- The prefix reserved for a namespace. -/
def prefixFor? (t : Aliases) (ns : String) : Option String :=
  (Keyed.get? Alias.ns (canonicalNamespace ns) t.entries).map Alias.pfx

/-- The table shown for diagnosis. -/
def dump (t : Aliases) : String :=
  Text.Dump.record "AliasTable"
    [("entries", Text.Dump.list (t.entries.map fun a =>
      Text.Dump.tuple [Text.quoted a.ns, Text.quoted a.pfx]))]

end Aliases

/-! ## Derived prefixes

The letters and digits of the last name in an identifier, in lower case. Names are separated by dots
in the path of a library namespace, and by dots and slashes elsewhere; a library namespace without a
path is named after its assembly. -/

/-- The prefix used where an identifier has no letter or digit to offer. -/
def fallbackPrefix : String := "ns"

/-- The last name in a namespace identifier. -/
def lastNameOf (ns : String) : List Char :=
  match AssemblyNamespace.read? ns with
  | some n =>
    if n.path = "" then lastPiece (· == '.') (n.assembly.getD "").toList else n.lastName.toList
  | none =>
    let withoutSlashes := (ns.toList.reverse.dropWhile (· == '/')).reverse
    lastPiece (fun c => c == '.' || c == '/') withoutSlashes

/-- The letters and digits of a name in lower case. -/
def shortened (name : List Char) : List Char := (name.filter isAlphanumeric).flatMap lowercase

/-- The prefix made from a namespace identifier. -/
def derivedPrefix (ns : String) : String :=
  match shortened (lastNameOf ns) with
  | [] => fallbackPrefix
  | s => String.ofList s

theorem derivedPrefix_ne_empty (ns : String) : derivedPrefix ns ≠ "" := by
  unfold derivedPrefix
  split
  · decide
  · next h =>
    intro e
    rw [← String.toList_inj, String.toList_ofList] at e
    exact h e

/-! ## Types -/

/-- Why a type cannot be named: its namespace has no prefix, and none may be bound. -/
structure NamingError where
  ns : String
  typeName : String
deriving DecidableEq

/-- The wording of a naming error. -/
def NamingError.message (e : NamingError) : String :=
  "namespace " ++ Text.quoted e.ns ++ " of type " ++ Text.quoted e.typeName ++
    " has no bound prefix"

/-- A report that a prefix was bound in order to name something. -/
inductive NamingEvent where
  | forType (binding : Binding) (typeName : String)
  | forLanguage (binding : Binding)
deriving DecidableEq

namespace NamingEvent

/-- The binding that is reported. -/
def binding : NamingEvent → Binding
  | .forType b _ => b
  | .forLanguage b => b

/-- The wording of a report. -/
def message : NamingEvent → String
  | .forType b typeName =>
    "bound prefix " ++ Text.quoted b.pfx ++ " to " ++ Text.quoted b.ns ++ " for type " ++ typeName
  | .forLanguage b => "bound prefix " ++ Text.quoted b.pfx ++ " to " ++ Text.quoted b.ns

end NamingEvent

/-- A text that names something, the table in which it does, and what was bound for it. -/
structure Naming where
  text : String
  table : PrefixTable
  events : List NamingEvent

/-- A prefix bound to a namespace as it stands, or else to a spelling with that canonical form. -/
def PrefixTable.prefixOfAny? (t : PrefixTable) (ns : String) : Option String :=
  (t.prefixOf? ns).or
    ((t.bindings.find? fun b => canonicalNamespace b.ns = ns).map Binding.pfx)

/-- The prefix to ask for where a type's namespace has none. -/
def Aliases.suggest (aliases : Aliases) (head : TypeHead) : String :=
  match aliases.prefixFor? head.ns with
  | some pfx => pfx
  | none =>
    match head.preferredPrefix.filter (· ≠ "") with
    | some pfx => pfx
    | none => derivedPrefix head.ns

/-- The name of a type by a prefix that is bound. -/
def nameIn? (head : TypeHead) (t : PrefixTable) : Option String :=
  (t.prefixOfAny? head.ns).map fun pfx => qualify pfx head.name

/-- The name of a type, with a prefix bound for it if there is none. -/
def nameOrBind (aliases : Aliases) (head : TypeHead) (t : PrefixTable) : Naming :=
  match nameIn? head t with
  | some text => ⟨text, t, []⟩
  | none =>
    let (allocation, table) := t.allocate head.ns (aliases.suggest head)
    ⟨qualify allocation.pfx head.name, table,
      if allocation.isNew then [.forType ⟨allocation.pfx, head.ns⟩ head.name] else []⟩

/-- The name of a type; a prefix is bound for it only if that is allowed. -/
def nameOf (aliases : Aliases) (head : TypeHead) (t : PrefixTable) (mayBind : Bool) :
    Except NamingError Naming :=
  if mayBind then .ok (nameOrBind aliases head t)
  else
    match nameIn? head t with
    | some text => .ok ⟨text, t, []⟩
    | none => .error ⟨head.ns, head.name⟩

theorem nameOrBind_of_bound {head : TypeHead} {t : PrefixTable} {text : String}
    (h : nameIn? head t = some text) (aliases : Aliases) :
    nameOrBind aliases head t = ⟨text, t, []⟩ := by
  simp [nameOrBind, h]

/-! ## Resource keys -/

/-- The key of a resource. -/
inductive ResourceKey where
  | name (key : String)
  | type (head : TypeHead)
  | component (head : TypeHead) (resource : String)
deriving DecidableEq

/-- The prefix to ask for where the markup language has none. -/
def languagePrefix : String := "x"

/-- A prefix of the markup language itself, bound if there is none; here the text is the prefix. -/
def languageNaming (t : PrefixTable) : Naming :=
  let (allocation, table) := t.allocate Namespace.language languagePrefix
  ⟨allocation.pfx, table,
    if allocation.isNew then [.forLanguage ⟨allocation.pfx, Namespace.language⟩] else []⟩

namespace ResourceKey

/-- A type name within its wrapper. -/
def wrapped (pfx typeName : String) : String := "\x7b" ++ pfx ++ ":Type " ++ typeName ++ "\x7d"

/-- A key within a library, as it is written. -/
def componentText (type resource : String) : String :=
  "\x7bComponentResourceKey " ++ type ++ ", " ++ resource ++ "\x7d"

/-- Wraps the name of a type, binding a prefix for the markup language if it has none. -/
def wrap (naming : Naming) : Naming :=
  let language := languageNaming naming.table
  ⟨wrapped language.text naming.text, language.table, naming.events ++ language.events⟩

/-- The key as it is written in a document. A type within a library key is wrapped only if its name
has a prefix. -/
def markup (aliases : Aliases) (t : PrefixTable) : ResourceKey → Naming
  | .name key => ⟨key, t, []⟩
  | .type head => wrap (nameOrBind aliases head t)
  | .component head resource =>
    let naming := nameOrBind aliases head t
    let type := if naming.text.toList.contains ':' then wrap naming else naming
    { type with text := componentText type.text resource }

/-- The key shown for diagnosis. -/
def dump : ResourceKey → String
  | .name key => Text.Dump.tagged "Name" (Text.quoted key)
  | .type head => Text.Dump.tagged "Type" (Text.quoted head.name)
  | .component head resource =>
    Text.Dump.record "Component"
      [("type_in_target_assembly", Text.quoted head.name), ("resource_id", Text.quoted resource)]

end ResourceKey

/-! ## Steps of a document -/

open PrefixTable

/-- What may change the prefix table of a document. -/
inductive Step where
  | edit (e : Edit)
  /-- Names a type, binding a prefix for it only if that is allowed. -/
  | type (head : TypeHead) (mayBind : Bool)
  | key (k : ResourceKey)

namespace Step

/-- The table after a step, and what was reported. -/
def apply (aliases : Aliases) (t : PrefixTable) : Step → PrefixTable × List NamingEvent
  | .edit e => (e.apply t, [])
  | .type head mayBind =>
    match nameOf aliases head t mayBind with
    | .ok naming => (naming.table, naming.events)
    | .error _ => (t, [])
  | .key k => ((k.markup aliases t).table, (k.markup aliases t).events)

end Step

/-- The table after a run of steps, and what was reported. -/
def runSteps (aliases : Aliases) (t : PrefixTable) : List Step → PrefixTable × List NamingEvent
  | [] => (t, [])
  | step :: steps =>
    let (t, events) := step.apply aliases t
    let (t, later) := runSteps aliases t steps
    (t, events ++ later)

/-! ## Laws -/

theorem reachable_nameOrBind {t : PrefixTable} (h : Reachable t) (aliases : Aliases)
    (head : TypeHead) : Reachable (nameOrBind aliases head t).table := by
  unfold nameOrBind
  split
  · exact h
  · exact h.edit (.allocate head.ns (aliases.suggest head))

theorem reachable_wrap {n : Naming} (h : Reachable n.table) :
    Reachable (ResourceKey.wrap n).table :=
  h.edit (.allocate Namespace.language languagePrefix)

end MarkupBinding
