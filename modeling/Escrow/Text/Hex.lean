import Escrow.Text.Printable

/-!
Hexadecimal text and byte strings. Reading checks the length first, then each pair of digits
from the left, the first digit of a pair before the second; a faulty byte is reported with its
position in the digit text. Writing uses lowercase digits.
-/

set_option autoImplicit false

namespace Escrow.Text

/-- Why a hexadecimal text is not a byte string of the expected size. -/
inductive HexError where
  /-- The byte at this position of the digit text is no hexadecimal digit. -/
  | invalidChar (byte : UInt8) (position : Nat)
  /-- The digit text has an odd number of bytes. -/
  | oddLength
  /-- The digits decode to a byte string of the wrong size. -/
  | invalidLength
  deriving DecidableEq, Repr

/-- The text a hexadecimal fault is reported with; a faulty byte is shown as the character with
that code. -/
def HexError.message : HexError → String
  | .invalidChar byte position =>
    let shown := quoteChar (Char.ofNat byte.toNat)
    s!"Invalid character {shown} at position {position}"
  | .oddLength => "Odd number of digits"
  | .invalidLength => "Invalid string length"

def digitValue (b : UInt8) : Option Nat :=
  if 0x30 ≤ b && b ≤ 0x39 then some (b.toNat - 0x30)
  else if 0x61 ≤ b && b ≤ 0x66 then some (b.toNat - 0x61 + 10)
  else if 0x41 ≤ b && b ≤ 0x46 then some (b.toNat - 0x41 + 10)
  else none

def digitAt (b : UInt8) (position : Nat) : Except HexError Nat :=
  match digitValue b with
  | some v => .ok v
  | none => .error (.invalidChar b position)

def decodePairs : List UInt8 → Nat → Except HexError (List UInt8)
  | high :: low :: rest, position => do
    let h ← digitAt high position
    let l ← digitAt low (position + 1)
    let tail ← decodePairs rest (position + 2)
    pure (UInt8.ofNat (16 * h + l) :: tail)
  | _, _ => .ok []

def decodeHex (digits : List UInt8) : Except HexError (List UInt8) :=
  if digits.length % 2 = 0 then decodePairs digits 0 else .error .oddLength

def hexBody (s : String) : List UInt8 :=
  match s.toUTF8.toList with
  | 0x30 :: 0x78 :: rest => rest
  | bytes => bytes

def readHex (s : String) : Except HexError (List UInt8) :=
  decodeHex (hexBody s)

def hexDigitChar (v : Nat) : Char :=
  if v < 10 then Char.ofNat (0x30 + v) else Char.ofNat (0x61 + v - 10)

def byteDigits (b : UInt8) : List Char :=
  [hexDigitChar (b.toNat / 16), hexDigitChar (b.toNat % 16)]

def encodeHex (bytes : List UInt8) : String :=
  String.ofList (bytes.flatMap byteDigits)

def bigEndian (width n : Nat) : List UInt8 :=
  (List.range width).reverse.map fun i => UInt8.ofNat (n / Nat.pow 256 i % 256)

def ofBigEndian (bytes : List UInt8) : Nat :=
  bytes.foldl (fun acc b => 256 * acc + b.toNat) 0

end Escrow.Text
