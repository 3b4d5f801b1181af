import Escrow.Text.Printable

/-!
Faults met while reading a JSON document into a typed value.

A syntax fault is found at a byte and carries the line and column of that place. A fault about
the value read (a wrong kind of value, a missing or repeated field, a text the value's own reader
refuses) is raised without a place; the innermost object or array around it gives it the place
reached when that container closes. A fault that reaches the top without a place is shown bare.
-/

set_option autoImplicit false

namespace Escrow.Json

/-- A value met where another kind was expected, as a type fault names it. -/
inductive Found where
  | null
  | bool (b : Bool)
  | unsigned (n : Nat)
  | signed (i : Int)
  /-- A number that is not an integer in range, with the text it is shown by. -/
  | float (text : String)
  | str (s : String)
  | seq
  | map
  deriving Repr, DecidableEq

def Found.describe : Found → String
  | .null => "null"
  | .bool b => "boolean `" ++ toString b ++ "`"
  | .unsigned n => "integer `" ++ toString n ++ "`"
  | .signed i => "integer `" ++ toString i ++ "`"
  | .float text => "floating point `" ++ text ++ "`"
  | .str s => "string " ++ Text.quoteText s
  | .seq => "sequence"
  | .map => "map"

/-- Why a document could not be read. -/
inductive JsonFault where
  | eofList
  | eofObject
  | eofString
  | eofValue
  | expectedColon
  | expectedListCommaOrEnd
  | expectedObjectCommaOrEnd
  | expectedIdent
  | expectedValue
  | invalidEscape
  | invalidNumber
  | numberOutOfRange
  | controlCharacter
  | keyMustBeString
  | loneSurrogate
  | trailingComma
  | trailingCharacters
  | unexpectedEndOfHexEscape
  | invalidType (found : Found) (expected : String)
  | invalidValue (found : Found) (expected : String)
  | invalidLength (count : Nat) (expected : String)
  | missingField (name : String)
  | duplicateField (name : String)
  /-- A value's own reader refused its text. -/
  | custom (text : String)
  deriving Repr, DecidableEq

def JsonFault.message : JsonFault → String
  | .eofList => "EOF while parsing a list"
  | .eofObject => "EOF while parsing an object"
  | .eofString => "EOF while parsing a string"
  | .eofValue => "EOF while parsing a value"
  | .expectedColon => "expected `:`"
  | .expectedListCommaOrEnd => "expected `,` or `]`"
  | .expectedObjectCommaOrEnd => "expected `,` or `\x7d`"
  | .expectedIdent => "expected ident"
  | .expectedValue => "expected value"
  | .invalidEscape => "invalid escape"
  | .invalidNumber => "invalid number"
  | .numberOutOfRange => "number out of range"
  | .controlCharacter => "control character (\\u0000-\\u001F) found while parsing a string"
  | .keyMustBeString => "key must be a string"
  | .loneSurrogate => "lone leading surrogate in hex escape"
  | .trailingComma => "trailing comma"
  | .trailingCharacters => "trailing characters"
  | .unexpectedEndOfHexEscape => "unexpected end of hex escape"
  | .invalidType found expected => "invalid type: " ++ found.describe ++ ", expected " ++ expected
  | .invalidValue found expected => "invalid value: " ++ found.describe ++ ", expected " ++ expected
  | .invalidLength count expected =>
    "invalid length " ++ toString count ++ ", expected " ++ expected
  | .missingField name => "missing field `" ++ name ++ "`"
  | .duplicateField name => "duplicate field `" ++ name ++ "`"
  | .custom text => text

/-- A fault with the line and column where it was found, if it has a place yet. -/
structure JsonError where
  fault : JsonFault
  place : Option (Nat × Nat) := none
  deriving Repr, DecidableEq

namespace JsonError

def placeAt (p : Nat × Nat) (e : JsonError) : JsonError :=
  match e.place with
  | some _ => e
  | none => { e with place := some p }

def message (e : JsonError) : String :=
  match e.place with
  | some (line, column) =>
    e.fault.message ++ " at line " ++ toString line ++ " column " ++ toString column
  | none => e.fault.message

end JsonError

end Escrow.Json
