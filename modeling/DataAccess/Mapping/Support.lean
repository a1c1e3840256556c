/-
This file says which declared types are supported, apart from how they are recognised. Of a declared
type only its form counts: parentheses, invisible groups, what qualifies a path, and arguments that
are no types are left out of it.
-/

import DataAccess.Mapping.Classification

namespace DataAccess

/-- What counts of a declared type. A name with an argument list is never bare, even when no type
stands in the list. -/
inductive TypeForm where
  | unit
  | reference (mutable : Bool) (referent : TypeForm)
  | bare (name : String)
  | applied (name : String) (arguments : List TypeForm)
  | other
deriving Repr

mutual

def DeclaredType.form : DeclaredType → TypeForm
  | .unit _ _ => .unit
  | .parenthesized _ _ inner => inner.form
  | .grouped _ _ inner => inner.form
  | .reference _ _ mutability referent => .reference mutability.isSome referent.form
  | .path _ last arguments => arguments.form last.text
  | .other _ => .other

/-- The form of a path that ends in a name with the arguments. -/
def Arguments.form (arguments : Arguments) (name : String) : TypeForm :=
  match arguments with
  | .none => .bare name
  | .angled _ _ list _ => .applied name (argumentForms list)
  | .called _ => .other

def argumentForms : List Argument → List TypeForm
  | [] => []
  | .type declared _ :: rest => declared.form :: argumentForms rest
  | .lifetime _ _ :: rest => argumentForms rest
  | .other _ _ :: rest => argumentForms rest

end

namespace TypeForm

/-- A container with its single element. -/
inductive IsContainer : TypeForm → ContainerKind → TypeForm → Prop
  | vector (element : TypeForm) : IsContainer (.applied "Vec" [element]) .list element
  | queue (element : TypeForm) : IsContainer (.applied "VecDeque" [element]) .list element
  | hashSet (element : TypeForm) : IsContainer (.applied "HashSet" [element]) .set element
  | treeSet (element : TypeForm) : IsContainer (.applied "BTreeSet" [element]) .set element

/-- A result with its answer. The error type, if one is named, does not count. -/
inductive Answers : TypeForm → TypeForm → Prop
  | alone (answer : TypeForm) : Answers (.applied "Result" [answer]) answer
  | orError (answer error : TypeForm) : Answers (.applied "Result" [answer, error]) answer

/-- The cursor over raw rows. -/
def cursor : TypeForm := .bare "ResultSet"

/-- A list of unsigned bytes is a value of its own. -/
def blob : TypeForm := .applied "Vec" [.bare "u8"]

end TypeForm

/-- A supported type of single values. It has a tag if it can be bound as a parameter, and an
accessor if it can be extracted from a result. -/
structure SupportedType where
  form : TypeForm
  value : ValueType
  tag? : Option WireTag
  accessor? : Option Accessor

/-- The table of supported types. Borrowed texts can only be parameters; blobs and values of any
type can only be returned. -/
def supportedTypes : List SupportedType :=
  [⟨.bare "i8", .byte, some .tinyInt, some .i8⟩,
    ⟨.bare "i16", .short, some .smallInt, some .i16⟩,
    ⟨.bare "i32", .int, some .integer, some .i32⟩,
    ⟨.bare "i64", .long, some .bigInt, some .i64⟩,
    ⟨.bare "f32", .float, some .float, some .f32⟩,
    ⟨.bare "f64", .double, some .double, some .f64⟩,
    ⟨.bare "bool", .bool, some .boolean, some .bool⟩,
    ⟨.bare "String", .string, some .varchar, some .string⟩,
    ⟨.reference false (.bare "str"), .borrowed, some .varchar, none⟩,
    ⟨.bare "NaiveDate", .date, some .date, some .date⟩,
    ⟨.bare "NaiveTime", .time, some .time, some .time⟩,
    ⟨.bare "NaiveDateTime", .dateTime, some .timestamp, some .dateTime⟩,
    ⟨.applied "DateTime" [.bare "Utc"], .instant, some .timestamp, some .instant⟩,
    ⟨.applied "DateTime" [.bare "FixedOffset"], .offsetDateTime, some .timestampWithTimezone,
      some .offsetDateTime⟩,
    ⟨.blob, .blob, none, some .blob⟩,
    ⟨.bare "Value", .anyValue, none, some .anyValue⟩]

namespace TypeForm

/-- Supported types of this form are bound under the tag. -/
def Binds (form : TypeForm) (value : ValueType) (tag : WireTag) : Prop :=
  ∃ supported ∈ supportedTypes, supported.form = form ∧ supported.value = value ∧
    supported.tag? = some tag

/-- Values of the form can be extracted from a result. -/
def Extracts (form : TypeForm) (value : ValueType) : Prop :=
  ∃ supported ∈ supportedTypes, supported.form = form ∧ supported.value = value ∧
    supported.accessor?.isSome = true

/-- Types that are supported as return types and not as parameters. -/
def IsReturnOnly (form : TypeForm) : Prop :=
  (∃ supported ∈ supportedTypes, supported.form = form ∧ supported.tag? = none) ∨
    form = cursor ∨ ∃ kind element, IsContainer form kind element

/-- Why a type cannot be that of a parameter. -/
inductive RefusesParameter (form : TypeForm) : Rejection → Prop
  | returnOnly : IsReturnOnly form → RefusesParameter form .returnOnly
  | unknown : ¬ IsReturnOnly form → (∀ value tag, ¬ Binds form value tag) →
      RefusesParameter form .unknown

/-- Two values of the type need not be equal or different. -/
def LacksTotalEquality (value : ValueType) : Prop :=
  value = .float ∨ value = .double ∨ value = .anyValue

/-- The shape of what is returned, results apart. -/
inductive Returns : TypeForm → ReturnShape → Prop
  | void : Returns .unit .void
  | cursor : Returns cursor .cursor
  | scalar {form : TypeForm} {value : ValueType} : Extracts form value →
      Returns form (.scalar value)
  | list {form element : TypeForm} {value : ValueType} : IsContainer form .list element →
      Extracts element value → Returns form (.collection .list value)
  | set {form element : TypeForm} {value : ValueType} : IsContainer form .set element →
      Extracts element value → ¬ LacksTotalEquality value → Returns form (.collection .set value)

/-- Why a type cannot be returned, results apart. -/
inductive RefusesReturn : TypeForm → Rejection → Prop
  | parameterOnly : RefusesReturn (.reference false (.bare "str")) .parameterOnly
  | nestedContainer {form element innermost : TypeForm} {outer inner : ContainerKind} :
      IsContainer form outer element → IsContainer element inner innermost → element ≠ blob →
      RefusesReturn form .nestedContainer
  | containerElement {form element : TypeForm} {kind : ContainerKind} : form ≠ blob →
      IsContainer form kind element → (∀ inner innermost, ¬ IsContainer element inner innermost) →
      (∀ value, ¬ Extracts element value) → RefusesReturn form .containerElement
  | setElement {form element : TypeForm} {value : ValueType} : IsContainer form .set element →
      Extracts element value → LacksTotalEquality value →
      RefusesReturn form (.setElement value)
  | unknown {form : TypeForm} : (∀ supported ∈ supportedTypes, supported.form ≠ form) →
      form ≠ .unit → form ≠ cursor → (∀ kind element, ¬ IsContainer form kind element) →
      RefusesReturn form .unknown

/-- What is returned, and what becomes of a failure: it is passed on where a result is declared. -/
inductive ReturnsWith (form : TypeForm) : ReturnDescriptor → Prop
  | propagate {answer : TypeForm} {shape : ReturnShape} : Answers form answer →
      (∀ inner, ¬ Answers answer inner) → Returns answer shape →
      ReturnsWith form ⟨shape, .propagate⟩
  | unchecked {shape : ReturnShape} : (∀ answer, ¬ Answers form answer) → Returns form shape →
      ReturnsWith form ⟨shape, .unchecked⟩

/-- Why a declared return type is refused. -/
inductive RefusesDeclared (form : TypeForm) : Rejection → Prop
  | nestedResult {answer inner : TypeForm} : Answers form answer → Answers answer inner →
      RefusesDeclared form .nestedResult
  | answer {answer : TypeForm} {reason : Rejection} : Answers form answer →
      (∀ inner, ¬ Answers answer inner) → RefusesReturn answer reason →
      RefusesDeclared form reason
  | plain {reason : Rejection} : (∀ answer, ¬ Answers form answer) → RefusesReturn form reason →
      RefusesDeclared form reason

end TypeForm

end DataAccess
