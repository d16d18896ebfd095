import Readiness.Data.Datum

/-!
# The tables of a document

A document builds a tree of tables, statement by statement. What a later statement may still add to
a table depends on what made it (`Origin`).

* A header makes its own table and implies those above it. A table that was only implied may get its
  own header later, once; its place among the fields is then that of the header.
* A dotted key makes the tables above its last part. Other dotted keys may add to them; headers may
  lead through them, but not define them again.
* A header in double brackets adds a table to an array, and later headers lead into the last one.
* A value is complete: nothing can be added to an array or table written as a value.

No field may be defined twice.
-/

namespace Readiness.Toml

/-- What made a table. -/
inductive Origin
  /-- A header of its own, or the document. -/
  | header
  /-- The header of a table below it. -/
  | implied
  /-- A dotted key. -/
  | dotted
  deriving DecidableEq, Repr

inductive Node
  /-- A complete value. -/
  | value (datum : Datum)
  | table (origin : Origin) (fields : List (String × Node))
  /-- An array of tables made by headers. -/
  | tables (items : List (List (String × Node)))

/-- Fields in the order in which they were made. -/
abbrev Fields := List (String × Node)

namespace Fields

def get? (fields : Fields) (name : String) : Option Node := fields.lookup name

/-- The fields with one replaced where it stands, or added at the end. -/
def put (fields : Fields) (name : String) (node : Node) : Fields :=
  match fields with
  | [] => [(name, node)]
  | (n, x) :: rest => if n = name then (n, node) :: rest else (n, x) :: put rest name node

def erase (fields : Fields) (name : String) : Fields := fields.filter (·.1 != name)

/-- Changes the table that a path leads to. Tables that are missing on the way are made, by the given
    origin; a dotted key does not lead through a table that has a header. -/
def updateAt (origin : Origin) (change : Origin → Fields → Option Fields) (own : Origin) :
    List String → Fields → Option Fields
  | [], fields => change own fields
  | name :: path, fields =>
    match fields.get? name with
    | none => (updateAt origin change origin path []).map fun t => fields.put name (.table origin t)
    | some (.value _) => none
    | some (.tables items) =>
      match items.getLast? with
      | none => none
      | some last => (updateAt origin change .header path last).map fun t =>
        fields.put name (.tables (items.dropLast ++ [t]))
    | some (.table o t) =>
      if origin = .dotted ∧ o = .header then none
      else (updateAt origin change o path t).map fun t => fields.put name (.table o t)

/-- Adds a field to a table. A dotted key adds to a table that dotted keys made, any other key to a
    table they did not make. -/
def insert (isDotted : Bool) (name : String) (datum : Datum) (origin : Origin) (fields : Fields) :
    Option Fields :=
  if (origin == .dotted) != isDotted then none
  else match fields.get? name with
    | some _ => none
    | none => some (fields.put name (.value datum))

/-- A key and its value. -/
def define (own : Origin) (key : List String) (datum : Datum) (fields : Fields) : Option Fields :=
  match key.getLast? with
  | none => none
  | some name =>
    let path := key.dropLast
    updateAt .dotted (insert (!path.isEmpty) name datum) own path fields

/-- A table header. -/
def openTable (name : String) (_ : Origin) (fields : Fields) : Option Fields :=
  match fields.get? name with
  | none => some (fields.put name (.table .header []))
  | some (.table .implied t) => some ((fields.erase name).put name (.table .header t))
  | some _ => none

/-- A header in double brackets. -/
def appendTable (name : String) (_ : Origin) (fields : Fields) : Option Fields :=
  match fields.get? name with
  | none => some (fields.put name (.tables [[]]))
  | some (.tables items) => some (fields.put name (.tables (items ++ [[]])))
  | some _ => none

end Fields

/-! ## Reading the tree -/

mutual

/-- What a node holds. -/
def Node.datum : Node → Datum
  | .value d => d
  | .table _ fields => .table (Node.fieldData fields)
  | .tables items => .list (Node.tableData items)

def Node.fieldData : List (String × Node) → List (String × Datum)
  | [] => []
  | (name, node) :: rest => (name, node.datum) :: Node.fieldData rest

def Node.tableData : List (List (String × Node)) → List Datum
  | [] => []
  | fields :: rest => .table (Node.fieldData fields) :: Node.tableData rest

end

end Readiness.Toml
