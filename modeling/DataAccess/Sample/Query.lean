/-
This file holds the queries that the sample database understands, with the texts that name them.
-/

import DataAccess.Execution.Statement

namespace DataAccess.Sample

/-- An expression over the values of the placeholders, whose positions count from one. -/
inductive Expression where
  | literal (value : Value)
  | placeholder (position : Nat)
  | absolute (operand : Expression)
  | malformedText (validBytes faultyBytes : Nat)

namespace Expression

/-- The least integer has no absolute value. -/
def absoluteOf : Value → Except Step Value
  | .integer value =>
      if value = Int64.minValue then .error (.failure (.database .integerOverflow))
      else .ok (.integer (Int64.abs value))
  | .real value => .ok (.real value.abs)
  | other => .ok other

/-- The value of an expression, or the step that its row becomes instead. -/
def evaluate (slots : List Value) : Expression → Except Step Value
  | .literal value => .ok value
  | .placeholder position => .ok (slots[position - 1]?.getD .null)
  | .absolute operand =>
      match operand.evaluate slots with
      | .ok value => absoluteOf value
      | .error step => .error step
  | .malformedText validBytes faultyBytes =>
      .error (.unreadable (.malformedText validBytes faultyBytes))

def stepOf (slots : List Value) (row : List Expression) : Step :=
  match row.mapM (evaluate slots) with
  | .ok values => .row values
  | .error step => step

end Expression

/-- The columns of the table of keys and values. -/
inductive Column where
  | key
  | value
deriving DecidableEq

/-- Which rows of the table are looked at, and in which order. -/
inductive Selection where
  | all
  | ofKey
  | ofKeyNewestFirst
deriving DecidableEq

/-- The queries on the table of keys and values. -/
inductive TableQuery where
  | create (text : String)
  | append
  | select (columns : List Column) (selection : Selection)
  | count
  | rename
  | delete
  | selectUnknown (column text : String)

inductive Query where
  | rows (parameterCount : Nat) (rows : List (List Expression))
  | rowIf (condition : Expression) (row : List Expression)
  | selectFrom (table : String)
  | onTable (query : TableQuery)

namespace Query

/-- A query that answers its own parameters in rows of a given width; without any row it still has
the parameters of one. -/
def grid (rowCount width : Nat) : Query :=
  .rows (if rowCount = 0 then width else rowCount * width)
    ((List.range rowCount).map fun row =>
      (List.range width).map fun column => .placeholder (row * width + column + 1))

def echo : Query :=
  .rows 1 [[.placeholder 1]]

def text (value : String) : Query :=
  .rows 0 [[.literal (.text value)]]

def absoluteRows (first : List Int64) : List (List Expression) :=
  first.map (fun value => [.literal (.integer value)]) ++ [[.absolute (.placeholder 1)]]

def absoluteAfter (first : List Int64) : Query :=
  .rows 1 (absoluteRows first)

def creation : String := "CREATE TABLE kv (k TEXT, v)"

def known : List (String × Query) :=
  [("SELECT ?", echo),
    ("VALUES (?2), (?1)", .rows 2 [[.placeholder 2], [.placeholder 1]]),
    ("SELECT abs(?)", absoluteAfter []),
    ("VALUES (1), (abs(?))", absoluteAfter [1]),
    ("VALUES (7), (abs(?))", absoluteAfter [7]),
    ("SELECT x'00ff' WHERE ?", .rowIf (.placeholder 1) [.literal (.blob [0x00, 0xff])]),
    ("SELECT CAST(x'61ff' AS TEXT)", .rows 0 [[.malformedText 1 1]]),
    ("SELECT 'hello'", text "hello"),
    ("SELECT 'salut'", text "salut"),
    ("SELECT 'au revoir'", text "au revoir"),
    (creation, .onTable (.create creation)),
    ("INSERT INTO kv VALUES (?, ?)", .onTable .append),
    ("SELECT v FROM kv WHERE k = ?", .onTable (.select [.value] .ofKey)),
    ("SELECT v FROM kv", .onTable (.select [.value] .all)),
    ("SELECT k FROM kv", .onTable (.select [.key] .all)),
    ("SELECT k, v FROM kv", .onTable (.select [.key, .value] .all)),
    ("SELECT v, k FROM kv WHERE k = ? ORDER BY rowid DESC",
      .onTable (.select [.value, .key] .ofKeyNewestFirst)),
    ("UPDATE kv SET k = ?2 WHERE k = ?1", .onTable .rename),
    ("DELETE FROM kv WHERE k = ?", .onTable .delete),
    ("SELECT count(*) FROM kv", .onTable .count),
    ("SELECT nope FROM kv", .onTable (.selectUnknown "nope" "SELECT nope FROM kv"))]

/-- The query that a text names. -/
def ofText? (text : String) : Option Query :=
  known.lookup text

/-- The queries in parentheses that can be selected from as if they were tables, with the number of
their parameters and their rows. -/
def nested : List (String × Nat × List (List Expression)) :=
  [("(SELECT 7 AS x UNION ALL SELECT abs(?))", 1, absoluteRows [7])]

end Query

end DataAccess.Sample
