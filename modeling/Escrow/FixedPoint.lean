import Escrow.Error

/-!
Fixed-point arithmetic on token amounts. Amounts are unsigned 128-bit quantities; ratios,
prices and market caps share that width and are scaled by 10^18. Every multiply-then-divide
takes the product 256 bits wide and floors the quotient; a product past 256 bits or a quotient
past 128 bits is an overflow.
-/

set_option autoImplicit false

namespace Escrow

def amountBound : Nat := Nat.pow 2 128

def fixedOne : Nat := Nat.pow 10 18

def wideBound : Nat := Nat.pow 2 256

def wideMul? (a b : Nat) : Option Nat :=
  if a * b < wideBound then some (a * b) else none

/-- `⌊a · b / d⌋` through a 256-bit product, refused when `d` is zero, when the product does not
fit 256 bits, or when the quotient does not fit 128 bits. -/
def mulDiv (a b d : Nat) : Except LockError Nat :=
  if d = 0 then .error .divisionByZero
  else match wideMul? a b with
    | none => .error .arithmeticOverflow
    | some product =>
      if product / d < amountBound then .ok (product / d) else .error .arithmeticOverflow

def ratio (part whole : Nat) : Option Nat :=
  if whole = 0 then none
  else match mulDiv part fixedOne whole with
    | .ok r => some r
    | .error _ => none

def tokenUnit (decimals : Nat) : Except LockError Nat :=
  if Nat.pow 10 decimals < amountBound then .ok (Nat.pow 10 decimals) else .error .arithmeticOverflow

def marketCap (supply price decimals : Nat) : Except LockError Nat := do
  let unit ← tokenUnit decimals
  mulDiv supply price unit

end Escrow

/-! ## Diagnostics

Diagnostics of the command line: a message and the chain of causes beneath it, outermost
first. The chain reads as one line joined by `": "`, or as a report with a "Caused by"
section.
-/

namespace Escrow

/-- A message with the causes beneath it, outermost first. -/
structure Diagnostic where
  message : String
  causes : List String := []
  deriving Repr, Inhabited

namespace Diagnostic

def within (context : String) (d : Diagnostic) : Diagnostic :=
  { message := context, causes := d.message :: d.causes }

def chainText (d : Diagnostic) : String :=
  ": ".intercalate (d.message :: d.causes)

def report (d : Diagnostic) : String :=
  let head := "Error: " ++ d.message ++ "\n"
  match d.causes with
  | [] => head
  | [cause] => head ++ "\nCaused by:\n    " ++ cause ++ "\n"
  | causes =>
    head ++ "\nCaused by:\n" ++ String.join ((List.range causes.length).zip causes |>.map
      fun (i, c) => "    " ++ toString i ++ ": " ++ c ++ "\n")

end Diagnostic

end Escrow

/-! ## Integer text

Reading integers from text. A text is an optional sign followed by ASCII digits, read from the
left; the first fault met wins, so a digit that makes the value too large is reported before a
later stray character. Unsigned readings accept only `+` as a sign.
-/

namespace Escrow.Text

/-- Why a text is not an integer of the expected range. -/
inductive IntFault where
  | empty
  | invalidDigit
  | tooLarge
  | tooSmall
  deriving DecidableEq, Repr

def IntFault.message : IntFault → String
  | .empty => "cannot parse integer from empty string"
  | .invalidDigit => "invalid digit found in string"
  | .tooLarge => "number too large to fit in target type"
  | .tooSmall => "number too small to fit in target type"

def readDigits (bound : Nat) (excess : IntFault) : List Char → Nat → Except IntFault Nat
  | [], acc => .ok acc
  | c :: rest, acc =>
    if c.isDigit then
      let next := 10 * acc + (c.toNat - '0'.toNat)
      if next < bound then readDigits bound excess rest next else .error excess
    else .error .invalidDigit

def parseNat (bound : Nat) (s : String) : Except IntFault Nat :=
  match s.toList with
  | [] => .error .empty
  | ['+'] => .error .invalidDigit
  | '+' :: digits => readDigits bound .tooLarge digits 0
  | digits => readDigits bound .tooLarge digits 0

def parseInt (bound : Nat) (s : String) : Except IntFault Int :=
  match s.toList with
  | [] => .error .empty
  | ['+'] | ['-'] => .error .invalidDigit
  | '-' :: digits => (readDigits (bound + 1) .tooSmall digits 0).map fun n => -(n : Int)
  | '+' :: digits => (readDigits bound .tooLarge digits 0).map fun n => (n : Int)
  | digits => (readDigits bound .tooLarge digits 0).map fun n => (n : Int)

end Escrow.Text

/-! ## Decimal text

Reading fixed-point decimals such as `1.25` into the 10^18 scale. The text is a whole part and
an optional fraction after the first `.`; either part may be empty but not both, the fraction has
at most 18 places, and the value must fit 128 bits.
-/

namespace Escrow.Text

def fixedPlaces : Nat := 18

def fixedPart (whole part : String) : Except Diagnostic Nat :=
  if part.isEmpty then .ok 0
  else match parseNat amountBound part with
    | .ok n => .ok n
    | .error fault => .error (Diagnostic.within ("invalid decimal " ++ whole) ⟨fault.message, []⟩)

/-- Reads a decimal into the 10^18 fixed-point scale: the whole part is the text before the first
`.` and the fraction the text after it. -/
def parseFixed (s : String) : Except Diagnostic Nat := do
  let whole := String.ofList (s.toList.takeWhile (· != '.'))
  let frac := String.ofList ((s.toList.dropWhile (· != '.')).drop 1)
  if whole.isEmpty && frac.isEmpty then throw ⟨"empty decimal", []⟩
  if frac.utf8ByteSize > fixedPlaces then
    throw ⟨s ++ ": more than 18 decimal places", []⟩
  let w ← fixedPart s whole
  let padded := frac ++ String.ofList (List.replicate (fixedPlaces - frac.length) '0')
  let f ← fixedPart s (if frac.isEmpty then "" else padded)
  if w * fixedOne + f < amountBound then pure (w * fixedOne + f)
  else throw ⟨s ++ " is out of range", []⟩

end Escrow.Text
