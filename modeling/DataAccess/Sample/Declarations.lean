/-
This file declares the sample batches as a user of the library would, by source text.
-/

import DataAccess.Compile.Batch
import DataAccess.Source.Lexer

namespace DataAccess.Sample

/-- A method that runs a query. -/
def queried (query signature : String) : String :=
  "#[query(\"" ++ query ++ "\")] fn " ++ signature ++ "; "

/-- A marked trait with its items. -/
def marked (name : String) (items : List String) : String :=
  "#[dao] pub trait " ++ name ++ " \x7b " ++ String.join items ++ "\x7d "

def source (batch : String) (interfaces : List String) : String :=
  "impl " ++ batch ++ "; " ++ String.join interfaces

/-- Every method answers the one value that it is given. -/
def echoInterface : String :=
  marked "EchoDao"
    ([("byte", "i8", "i8"), ("short", "i16", "i16"), ("int", "i32", "i32"),
      ("long", "i64", "i64"), ("float", "f32", "f32"), ("double", "f64", "f64"),
      ("boolean", "bool", "bool"), ("text", "&str", "String"), ("owned", "String", "String"),
      ("date", "NaiveDate", "NaiveDate"), ("time", "NaiveTime", "NaiveTime"),
      ("datetime", "NaiveDateTime", "NaiveDateTime"),
      ("instant", "DateTime<Utc>", "DateTime<Utc>"),
      ("offset", "DateTime<FixedOffset>", "DateTime<FixedOffset>")].map
        (fun (name, given, answered) =>
          queried "SELECT ?" (name ++ "(&self, v: " ++ given ++ ") -> " ++ answered)) ++
      [queried "VALUES (?2), (?1)" "swapped(&self, a: i64, b: i64) -> Vec<i64>"])

/-- Every method binds one type and answers another. -/
def castInterface : String :=
  marked "CastDao"
    ([("long_value", "i64", "Value"), ("long_byte", "i64", "Result<i8>"),
      ("long_short", "i64", "Result<i16>"), ("long_int", "i64", "Result<i32>"),
      ("long_boolean", "i64", "Result<bool>"), ("long_double", "i64", "Result<f64>"),
      ("long_text", "i64", "String"), ("double_value", "f64", "Value"),
      ("double_float", "f64", "Result<f32>"), ("double_long", "f64", "Result<i64>"),
      ("text_value", "&str", "Value"), ("text_long", "&str", "i64"),
      ("text_date", "&str", "NaiveDate"), ("text_blob", "&str", "Result<Vec<u8>>"),
      ("text_time", "&str", "Result<NaiveTime>"),
      ("text_datetime", "&str", "Result<NaiveDateTime>"),
      ("text_instant", "&str", "Result<DateTime<Utc>>"),
      ("text_offset", "&str", "Result<DateTime<FixedOffset>>")].map
        (fun (name, given, answered) =>
          queried "SELECT ?" (name ++ "(&self, v: " ++ given ++ ") -> " ++ answered)) ++
      [queried "SELECT ?" "unbound(&self) -> Value",
        queried "SELECT ?" "excess(&self, a: i64, b: i64) -> Result<i64>",
        queried "SELECT x'00ff' WHERE ?" "blob_if(&self, v: bool) -> Vec<u8>",
        queried "SELECT abs(?)" "absolute(&self, v: i64) -> Result<i64>",
        queried "SELECT abs(?)" "absolute_void(&self, v: i64)",
        queried "VALUES (1), (abs(?))" "absolute_list(&self, v: i64) -> Result<Vec<i64>>",
        queried "VALUES (1), (abs(?))" "absolute_rows(&self, v: i64) -> Result<ResultSet>",
        queried "VALUES (7), (abs(?))" "absolute_first(&self, v: i64) -> i64",
        queried "SELECT CAST(x'61ff' AS TEXT)" "bad_text(&self) -> Result<String>"])

/-- Methods on the table of keys and values. -/
def keyValueInterface : String :=
  marked "KvDao"
    [queried "CREATE TABLE kv (k TEXT, v)" "create(&self) -> Result<()>",
      queried "INSERT INTO kv VALUES (?, ?)" "put(&self, k: &str, v: i64)",
      queried "INSERT INTO kv VALUES (?, ?)" "put_text(&self, k: &str, v: &str)",
      queried "INSERT INTO kv VALUES (?, ?)" "put_double(&self, k: &str, v: f64) -> Result<()>",
      queried "SELECT v FROM kv WHERE k = ?" "get(&self, k: &str) -> i64",
      queried "SELECT v FROM kv WHERE k = ?" "try_get(&self, k: &str) -> Result<i64, KvError>",
      queried "SELECT v FROM kv" "values(&self) -> Result<Vec<Value>>",
      queried "SELECT v FROM kv" "numbers(&self) -> BTreeSet<i64>",
      queried "SELECT v FROM kv" "doubles(&self) -> Result<VecDeque<f64>>",
      queried "SELECT k FROM kv" "keys(&self) -> HashSet<String>",
      queried "SELECT k, v FROM kv" "rows(&self) -> ResultSet",
      queried "SELECT v, k FROM kv WHERE k = ? ORDER BY rowid DESC"
        "rows_of(&self, k: &str) -> Result<ResultSet>",
      queried "UPDATE kv SET k = ?2 WHERE k = ?1" "rename(&self, from: &str, to: &str)",
      queried "DELETE FROM kv WHERE k = ?" "delete(&self, k: &str) -> Result<()>",
      queried "SELECT count(*) FROM kv" "count(&self) -> i64",
      queried "SELECT nope FROM kv" "broken(&self) -> Result<i32>",
      "fn put_twice(&self, k: &str, v: i64) -> i64 " ++
        "\x7b self.put(k, v); self.put(k, v); self.count() \x7d "]

/-- The one method of a greeting interface answers a fixed text. -/
def greetingInterface (name greeting : String) : String :=
  marked name [queried ("SELECT '" ++ greeting ++ "'") "greeting(&self) -> String"]

def sources : List String :=
  [source "echo_db" [echoInterface, castInterface], source "kv_db" [keyValueInterface],
    source "english_db" [greetingInterface "Hello" "hello"],
    source "french_db" [greetingInterface "Hello" "salut", greetingInterface "Bye" "au revoir"],
    source "empty_db" []]

/-- The batch that a source text declares. -/
def batch? (source : String) : Option Batch :=
  (Lexer.tokens? source).bind fun tokens => (Parse.batch? tokens).toOption

def batches : List Batch :=
  sources.filterMap batch?

end DataAccess.Sample
