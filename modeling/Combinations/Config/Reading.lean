import Combinations.Config.Field

/-!
# Reading a configuration

A configuration is read from an object, whose keys are field names, or from a list, whose elements
are the fields in order.  What is not given keeps its default.  The fields are filled into a draft one
at a time, an object's in ascending order of its keys, and the first that does not fit is reported;
only then is the draft built, so a configuration that is read passes the same check as one that is
put together.
-/

set_option autoImplicit false

namespace Combinations

/-- What a value was expected to be. -/
inductive Shape where
  | word32
  | word64
  | flag
  | text
  | config
  deriving DecidableEq, Repr

/-- A shape as it is named in a message. -/
def Shape.describe : Shape → String
  | word32 => "u32"
  | word64 => "u64"
  | flag => "a boolean"
  | text => "a string"
  | config => "struct RawConfig"

/-- Why a document is not a configuration. -/
inductive ReadError where
  /-- A key that names no field. -/
  | unknownField (key : String)
  /-- A value of another kind than expected. -/
  | wrongType (found : Value) (expected : Shape)
  /-- A whole number that does not fit. -/
  | outOfRange (found : Int) (expected : Shape)
  /-- A list with more elements than there are fields. -/
  | tooManyElements (length : Nat)
  /-- All fields are well formed, and the draft they make cannot be built. -/
  | rejected (reason : Error)

/-- The text shown for a document that is not a configuration. -/
def ReadError.message : ReadError → String
  | unknownField key =>
    let names := Config.Field.all.map fun field => "`" ++ field.name ++ "`"
    "unknown field `" ++ key ++ "`, expected one of " ++ ", ".intercalate names
  | wrongType found expected =>
    "invalid type: " ++ found.describe ++ ", expected " ++ expected.describe
  | outOfRange found expected =>
    "invalid value: " ++ (Value.integer found).describe ++ ", expected " ++ expected.describe
  | tooManyElements length =>
    "invalid length " ++ toString length ++ ", expected fewer elements in array"
  | rejected reason => (Error.invalidConfig reason.message).message

namespace Value

/-- A whole number below `bound`. -/
def asNat (bound : Nat) (shape : Shape) : Value → Except ReadError Nat
  | integer i => if 0 ≤ i ∧ i < bound then .ok i.toNat else .error (.outOfRange i shape)
  | other => .error (.wrongType other shape)

def asWord32 (value : Value) : Except ReadError UInt32 :=
  (value.asNat 4294967296 .word32).map UInt32.ofNat

def asWord64 (value : Value) : Except ReadError UInt64 :=
  (value.asNat 18446744073709551616 .word64).map UInt64.ofNat

def asFlag : Value → Except ReadError Bool
  | bool b => .ok b
  | other => .error (.wrongType other .flag)

def asText : Value → Except ReadError String
  | string s => .ok s
  | other => .error (.wrongType other .text)

/-- A value that may be left unset by null. -/
def asOption {α : Type} (read : Value → Except ReadError α) : Value → Except ReadError (Option α)
  | null => .ok none
  | value => (read value).map some

end Value

/-- The draft with one field set to a value. -/
def Draft.put (draft : Draft) (value : Value) : Config.Field → Except ReadError Draft
  | .sizeMin => value.asWord32.map fun x => { draft with sizeMin := x }
  | .sizeMax => (value.asOption Value.asWord32).map fun x => { draft with sizeMax := x }
  | .start => value.asWord64.map fun x => { draft with window.start := x }
  | .limit => value.asWord64.map fun x => { draft with window.limit := x }
  | .showNumbers => value.asFlag.map fun b => { draft with showNumbers := b }
  | .showEmpty => value.asFlag.map fun b => { draft with showEmpty := b }
  | .nulTerminate => value.asFlag.map fun b => { draft with style.nulTerminate := b }
  | .delimiter => value.asText.map fun s => { draft with style.delimiter := s }
  | .opening => (value.asOption Value.asText).map fun s => { draft with style.opening := s }
  | .closing => (value.asOption Value.asText).map fun s => { draft with style.closing := s }
  | .debug => value.asFlag.map fun b => { draft with debug := b }

/-- The draft with one named field set to a value. -/
def Draft.putEntry (draft : Draft) (entry : String × Value) : Except ReadError Draft :=
  match Config.Field.ofName? entry.1 with
  | some field => draft.put entry.2 field
  | none => .error (.unknownField entry.1)

/-- The draft with the entries of an object set, in the order given. -/
def Draft.putEntries (draft : Draft) : List (String × Value) → Except ReadError Draft
  | [] => .ok draft
  | entry :: rest => (draft.putEntry entry).bind fun draft => draft.putEntries rest

/-- The draft with the elements of a list set as the fields `fields`, as far as both go. -/
def Draft.putElements (draft : Draft) : List Config.Field → List Value → Except ReadError Draft
  | field :: fields, value :: values =>
    (draft.put value field).bind fun draft => draft.putElements fields values
  | _, _ => .ok draft

/-- The draft described by a document. -/
def Draft.ofValue : Value → Except ReadError Draft
  | .object entries => Draft.default.putEntries (Value.byKey entries)
  | .list elements =>
    (Draft.default.putElements Config.Field.all elements).bind fun draft =>
      if Config.Field.all.length < elements.length then .error (.tooManyElements elements.length)
      else .ok draft
  | other => .error (.wrongType other .config)

/-- The configuration described by a document. -/
def Config.ofValue (value : Value) : Except ReadError Config :=
  (Draft.ofValue value).bind fun draft => draft.build.mapError .rejected

end Combinations
