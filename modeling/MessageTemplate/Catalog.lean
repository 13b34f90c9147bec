import MessageTemplate.Entries
import MessageTemplate.Failure

/-! # Catalogs of translations

A catalog holds translated templates by key in tables, and tables by name in scopes. Who names no
table or no scope means the default one. Tables are loaded from YAML mappings of texts to texts; a
load that fails leaves the catalog as it is. -/

namespace MessageTemplate

/-- The texts of a table by key. -/
abbrev Table := List (String × String)

/-- A reader of documents: the texts of a mapping by key, in order, or nothing where a document is
no mapping of texts to texts. -/
abbrev TableReader := String → Option (List (String × String))

/-- The scope and the name of a table. -/
structure TablePlace where
  scope : String
  table : String
deriving DecidableEq, Repr

namespace TablePlace

/-- The table that is meant where none is named. -/
def defaultTable : String := "Localizable"

/-- The scope that is meant where none is named. -/
def defaultScope : String := "main"

/-- The place that optional names denote. -/
def ofNames (table scope : Option String) : TablePlace :=
  ⟨scope.getD defaultScope, table.getD defaultTable⟩

end TablePlace

/-- Tables by place. -/
structure Catalog where
  tables : List (TablePlace × Table) := []
deriving DecidableEq, Repr

namespace Catalog

/-- The catalog without tables. -/
def empty : Catalog := {}

instance : Inhabited Catalog := ⟨empty⟩

/-- The table in a place. A place without a table has an empty one. -/
def tableAt (catalog : Catalog) (place : TablePlace) : Table :=
  (catalog.tables.lookup place).getD []

/-- Adds texts to the table in a place, which comes into being if need be. -/
def addAll (catalog : Catalog) (place : TablePlace) (texts : Table) : Catalog :=
  ⟨Entries.put place (Entries.putAll texts (catalog.tableAt place)) catalog.tables⟩

/-- Adds one text. -/
def insert (catalog : Catalog) (table scope : Option String) (key text : String) : Catalog :=
  catalog.addAll (.ofNames table scope) [(key, text)]

/-- The text of a key. -/
def lookup (catalog : Catalog) (key : String) (table scope : Option String) : Option String :=
  (catalog.tableAt (.ofNames table scope)).lookup key

/-- The names of the tables in a scope, in order. -/
def tableNames (catalog : Catalog) (scope : Option String) : List String :=
  let inScope := catalog.tables.filterMap fun (place, _) =>
    if place.scope = scope.getD TablePlace.defaultScope then some place.table else none
  inScope.mergeSort

/-- The number of texts in all tables. -/
def size (catalog : Catalog) : Nat :=
  catalog.tables.foldl (fun count (_, table) => count + table.length) 0

/-- Whether no table has a text. -/
def isEmpty (catalog : Catalog) : Bool :=
  catalog.size == 0

/-- The table that a document describes. -/
def readTable? (reader : TableReader) (document : String) : Option Table :=
  (reader document).map Entries.ofPairs

/-- Adds the texts of a YAML mapping, and tells how many they are. -/
def loadYaml (reader : TableReader) (catalog : Catalog) (document : String)
    (table scope : Option String) : Except Failure (Catalog × Nat) :=
  match readTable? reader document with
  | some texts => .ok (catalog.addAll (.ofNames table scope) texts, texts.length)
  | none => .error .malformedYaml

/-- Adds the texts of a YAML file, given by its path and what reading it gave. -/
def loadFile (reader : TableReader) (catalog : Catalog) (path : String)
    (content : Except FileProblem String) (table scope : Option String) :
    Except Failure (Catalog × Nat) :=
  match content with
  | .error problem => .error (.unreadableTable path problem)
  | .ok document =>
      match readTable? reader document with
      | some texts => .ok (catalog.addAll (.ofNames table scope) texts, texts.length)
      | none => .error (.malformedTable path)

/-- The catalog of one YAML mapping. -/
def ofYaml (reader : TableReader) (document : String) (table scope : Option String) :
    Except Failure Catalog :=
  (empty.loadYaml reader document table scope).map Prod.fst

end Catalog

end MessageTemplate
