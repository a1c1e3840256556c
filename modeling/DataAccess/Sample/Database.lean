/-
This file holds the sample database. It has room for one table of keys and values, whose rows stay
in the order in which they were inserted.
-/

import DataAccess.Execution.MethodCall
import DataAccess.Sample.Query

namespace DataAccess.Sample

structure Entry where
  key : Value
  value : Value

/-- The entries of the table, once it has been created. -/
structure Database where
  entries? : Option (List Entry)

/-- A statement with what executing it makes of the database. -/
structure PreparedQuery where
  statement : Statement
  effect : List Value → Database

namespace Entry

def column (entry : Entry) : Column → Value
  | .key => entry.key
  | .value => entry.value

/-- A missing value equals no key. -/
def hasKey (key : Value) (entry : Entry) : Bool :=
  key != .null && entry.key == key

end Entry

namespace Database

def tableName : String := "kv"

def empty : Database := ⟨none⟩

/-- The value of a placeholder. -/
def slot (position : Nat) (slots : List Value) : Value :=
  slots[position - 1]?.getD .null

def isTrue : Value → Bool
  | .integer value => value != 0
  | .real value => value != 0
  | _ => false

def selected (entries : List Entry) (slots : List Value) : Selection → List Entry
  | .all => entries
  | .ofKey => entries.filter (Entry.hasKey (slot 1 slots))
  | .ofKeyNewestFirst => (entries.filter (Entry.hasKey (slot 1 slots))).reverse

/-- A query that changes nothing. -/
def reading (database : Database) (parameterCount : Nat) (outcome : List Value → List Step) :
    PreparedQuery :=
  ⟨.unbound parameterCount outcome, fun _ => database⟩

/-- A query that answers no rows and replaces the entries. -/
def writing (parameterCount : Nat) (replaced : List Value → List Entry) : PreparedQuery :=
  ⟨.unbound parameterCount fun _ => [], fun slots => ⟨some (replaced slots)⟩⟩

/-- Prepares a query on the table that has such entries. -/
def prepareOn (database : Database) (entries : List Entry) :
    TableQuery → Except DatabaseError PreparedQuery
  | .create text => .error (.duplicateTable tableName text 13)
  | .append => .ok (writing 2 fun slots => entries ++ [⟨slot 1 slots, slot 2 slots⟩])
  | .select columns selection =>
      .ok (database.reading (if selection = .all then 0 else 1) fun slots =>
        (selected entries slots selection).map fun entry => .row (columns.map entry.column))
  | .count => .ok (database.reading 0 fun _ => [.row [.integer (Int64.ofNat entries.length)]])
  | .rename =>
      .ok (writing 2 fun slots => entries.map fun entry =>
        if entry.hasKey (slot 1 slots) then { entry with key := slot 2 slots } else entry)
  | .delete =>
      .ok (writing 1 fun slots => entries.filter fun entry => !entry.hasKey (slot 1 slots))
  | .selectUnknown column text => .error (.missingColumn column text 7)

/-- Prepares a query while there is no table. -/
def prepareWithout : TableQuery → Except DatabaseError PreparedQuery
  | .create _ => .ok (writing 0 fun _ => [])
  | _ => .error (.missingTable tableName)

/-- A query that answers given rows. -/
def readingRows (database : Database) (parameterCount : Nat) (rows : List (List Expression)) :
    PreparedQuery :=
  database.reading parameterCount fun slots => rows.map (Expression.stepOf slots)

def prepare (database : Database) : Query → Except DatabaseError PreparedQuery
  | .rows parameterCount rows => .ok (database.readingRows parameterCount rows)
  | .rowIf condition row =>
      .ok (database.reading 1 fun slots =>
        match condition.evaluate slots with
        | .ok value => if isTrue value then [Expression.stepOf slots row] else []
        | .error step => [step])
  | .selectFrom table =>
      match Query.nested.lookup table with
      | some (parameterCount, rows) => .ok (database.readingRows parameterCount rows)
      | none => .error (.missingTable table)
  | .onTable query =>
      match database.entries? with
      | some entries => database.prepareOn entries query
      | none => prepareWithout query

def prepareText (database : Database) (text : String) : Except DatabaseError PreparedQuery :=
  match Query.ofText? text with
  | some query => database.prepare query
  | none => .error (.unsupported text)

/-- Calls a method; the database changes when the statement of the method is stepped. -/
def call (database : Database) (method : CompiledMethod) (arguments : List Bindable) :
    Answer × Database :=
  match database.prepareText method.query.value with
  | .error error => (method.call arguments (.error error), database)
  | .ok prepared =>
      let after :=
        match (method.execute arguments prepared.statement).stepped? with
        | some (statement, _) => prepared.effect statement.slots
        | none => database
      (method.call arguments (.ok prepared.statement), after)

end Database

end DataAccess.Sample
