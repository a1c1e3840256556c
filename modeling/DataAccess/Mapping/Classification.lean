/-
This file decides which declared types can be bound as parameters and which can be returned. The
decision looks at the last segment of a path, so that a name and a qualified name are one type.
-/

import DataAccess.Declaration.Signature
import DataAccess.Mapping.ValueType

namespace DataAccess

/-- Why a declared type is not supported where it stands. -/
inductive Rejection where
  | unknown
  | nestedContainer
  | containerElement
  | setElement (element : ValueType)
  | parameterOnly
  | returnOnly
  | nestedResult
deriving DecidableEq, Repr

namespace Mapping

def scalarNames : List (String × ValueType) :=
  [("i8", .byte), ("i16", .short), ("i32", .int), ("i64", .long), ("f32", .float),
    ("f64", .double), ("bool", .bool), ("String", .string), ("NaiveDate", .date),
    ("NaiveTime", .time), ("NaiveDateTime", .dateTime), ("Value", .anyValue)]

def timezoneNames : List (String × ValueType) :=
  [("Utc", .instant), ("FixedOffset", .offsetDateTime)]

def containerNames : List (String × ContainerKind) :=
  [("Vec", .list), ("VecDeque", .list), ("HashSet", .set), ("BTreeSet", .set)]

/-- Parentheses and invisible groups do not change a type. -/
def strip : DeclaredType → DeclaredType
  | .grouped _ _ inner => strip inner
  | .parenthesized _ _ inner => strip inner
  | .unit opening closing => .unit opening closing
  | .reference ampersand lifetime mutability referent =>
      .reference ampersand lifetime mutability referent
  | .path qualifier last arguments => .path qualifier last arguments
  | .other code => .other code

/-- The last segment of a path. -/
structure Segment where
  name : String
  arguments : Arguments

def segment? (declared : DeclaredType) : Option Segment :=
  match strip declared with
  | .path _ last arguments => some ⟨last.text, arguments⟩
  | _ => none

namespace Segment

def isBare (segment : Segment) : Bool :=
  match segment.arguments with
  | .none => true
  | .angled _ _ _ _ => false
  | .called _ => false

/-- The type arguments; lifetimes, constants and named arguments do not count. -/
def types (segment : Segment) : List DeclaredType :=
  match segment.arguments with
  | .angled _ _ list _ => list.filterMap Argument.type?
  | .none => []
  | .called _ => []

/-- The segment is the bare name. -/
def isPlain (segment : Segment) (name : String) : Bool :=
  segment.name == name && segment.isBare

end Segment

/-- The declared type is the bare name, however it is qualified. -/
def isPlain (declared : DeclaredType) (name : String) : Bool :=
  match segment? declared with
  | some segment => segment.isPlain name
  | none => false

/-- A container with a single type argument. -/
def container? (declared : DeclaredType) : Option (ContainerKind × DeclaredType) := do
  let segment ← segment? declared
  let kind ← containerNames.lookup segment.name
  match segment.types with
  | [element] => some (kind, element)
  | _ => none

/-- A list of unsigned bytes is a blob. -/
def isBlob (declared : DeclaredType) : Bool :=
  match segment? declared with
  | some segment =>
      segment.name == "Vec" &&
        (match segment.types with
          | [element] => isPlain element "u8"
          | _ => false)
  | none => false

/-- The time zone that a date and time is declared with. -/
def timezone? (declared : DeclaredType) : Option ValueType := do
  let segment ← segment? declared
  if segment.isBare then timezoneNames.lookup segment.name else none

/-- The value type of a path, blobs apart. -/
def pathValue? (segment : Segment) : Option ValueType :=
  if segment.isBare then scalarNames.lookup segment.name
  else if segment.name == "DateTime" then
    match segment.types with
    | [timezone] => timezone? timezone
    | _ => none
  else none

/-- Classifies a type as a single value; containers, cursors and anything unknown are none. -/
def classify (declared : DeclaredType) : Option ValueType :=
  match strip declared with
  | .reference _ _ mutability referent =>
      if mutability.isNone && isPlain referent "str" then some .borrowed else none
  | _ =>
      if isBlob declared then some .blob else (segment? declared).bind pathValue?

def isCursor (declared : DeclaredType) : Bool :=
  isPlain declared "ResultSet"

def isUnit (declared : DeclaredType) : Bool :=
  match strip declared with
  | .unit _ _ => true
  | _ => false

/-- The value type and the wire tag of a parameter. -/
def resolveParameter (declared : DeclaredType) : Except Rejection (ValueType × WireTag) :=
  match classify declared with
  | some value =>
      match value.binding? with
      | some tag => .ok (value, tag)
      | none => .error .returnOnly
  | none =>
      if (container? declared).isSome || isCursor declared then .error .returnOnly
      else .error .unknown

/-- The element of a container is a single value that can be extracted. -/
def resolveCollection (kind : ContainerKind) (element : DeclaredType) :
    Except Rejection ReturnShape :=
  if (container? element).isSome && !isBlob element then .error .nestedContainer
  else
    match (classify element).filter fun value => value.accessor?.isSome with
    | none => .error .containerElement
    | some value =>
        if kind = .set && !value.hasTotalEquality then .error (.setElement value)
        else .ok (.collection kind value)

def resolveShape (declared : DeclaredType) : Except Rejection ReturnShape :=
  if isUnit declared then .ok .void
  else if isCursor declared then .ok .cursor
  else
    match classify declared with
    | some value =>
        if value.accessor?.isSome then .ok (.scalar value) else .error .parameterOnly
    | none =>
        match container? declared with
        | some (kind, element) => resolveCollection kind element
        | none => .error .unknown

/-- The answer type of a declared result, with or without an error type. -/
def resultInner? (declared : DeclaredType) : Option DeclaredType := do
  let segment ← segment? declared
  if segment.name == "Result" then
    match segment.types with
    | [answer] => some answer
    | [answer, _] => some answer
    | _ => none
  else none

/-- The shape and the failure mode of a declared return type. -/
def resolveReturn (output : Option DeclaredType) : Except Rejection ReturnDescriptor :=
  match output with
  | none => .ok ⟨.void, .unchecked⟩
  | some declared =>
      match resultInner? declared with
      | some inner =>
          if (resultInner? inner).isSome then .error .nestedResult
          else (resolveShape inner).map fun shape => ⟨shape, .propagate⟩
      | none => (resolveShape declared).map fun shape => ⟨shape, .unchecked⟩

end Mapping

namespace Rejection

/-- The rejection as messages name it. -/
def name : Rejection → String
  | .unknown => "Unknown"
  | .nestedContainer => "NestedContainer"
  | .containerElement => "ContainerElement"
  | .setElement element => s!"SetElement({element.name})"
  | .parameterOnly => "ParameterOnly"
  | .returnOnly => "ReturnOnly"
  | .nestedResult => "NestedResult"

/-- What to declare instead. -/
def help : Rejection → String
  | .unknown =>
      "Supported value types are " ++ ", ".intercalate (Mapping.scalarNames.map Prod.fst ++
        ["DateTime<Utc>", "DateTime<FixedOffset>", "Vec<u8>"])
  | .nestedContainer =>
      "Only a single level of `Vec`, `VecDeque`, `HashSet` or `BTreeSet` is supported"
  | .containerElement =>
      "Container elements must be a supported scalar, date/time or SQL value type"
  | .setElement element =>
      s!"Set elements need total equality, `{element.name}` values cannot be collected into a set"
  | .parameterOnly => "Borrowed strings can only be parameters, return a `String` instead"
  | .returnOnly => "Parameters must be a scalar, `&str` or date/time type"
  | .nestedResult => "Only one level of `Result` is supported"

end Rejection

end DataAccess
