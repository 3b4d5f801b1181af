import Escrow.Json.Reader
import Escrow.Json.Value

/-!
Reading a JSON document into a `Value`. Numbers are integers written with digits, with a leading
minus sign for negative ones, and may be as large as an amount; this is enough for the documents
the program writes itself.
-/

set_option autoImplicit false

namespace Escrow.Json

namespace Reading

mutual

def value : Nat → Reading Value
  | 0 => failHere .eofValue
  | bound + 1 => do
    match ← peekAfterBlank with
    | none => failAhead .eofValue
    | some b =>
      match ch b with
      | 'n' => do bump; ident "ull"; pure .null
      | 't' => do bump; ident "rue"; pure (.bool true)
      | 'f' => do bump; ident "alse"; pure (.bool false)
      | '"' => do bump; pure (.str (← strBody))
      | '-' => do bump; let n ← amount; pure (.number (-(n : Int)))
      | '[' => do bump; closing (do pure (.arr (← items bound true []))) closeSeq
      | '{' => do bump; closing (do pure (.obj (← fields bound true []))) closeMap
      | _ => if isDigitByte b then do pure (.number (← amount)) else failAhead .expectedValue

def items : Nat → Bool → List Value → Reading (List Value)
  | 0, _, acc => pure acc.reverse
  | bound + 1, first, acc => do
    if ← nextElement first then items bound false ((← value bound) :: acc)
    else pure acc.reverse

def fields : Nat → Bool → List (String × Value) → Reading (List (String × Value))
  | 0, _, acc => pure acc.reverse
  | bound + 1, first, acc => do
    match ← nextKey first with
    | none => pure acc.reverse
    | some key => do
      colon
      let v ← value bound
      fields bound false ((key, v) :: acc)

end

end Reading

def Value.parse (text : String) : Except JsonError Value := Reading.document Reading.value text

namespace Value

def field (v : Value) (key : String) : Option Value :=
  match v with
  | .obj members => (members.find? (·.1 == key)).map (·.2)
  | _ => none

def asNat : Value → Option Nat
  | .number n => if 0 ≤ n then some n.toNat else none
  | _ => none

def asInt : Value → Option Int
  | .number n => some n
  | _ => none

def asStr : Value → Option String
  | .str s => some s
  | _ => none

def asBool : Value → Option Bool
  | .bool b => some b
  | _ => none

def asList : Value → Option (List Value)
  | .arr items => some items
  | _ => none

end Value

end Escrow.Json
