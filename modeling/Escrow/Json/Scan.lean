import Escrow.Text.Hex
import Escrow.Binary64
import Escrow.Json.Fault

/-!
Scanners over the bytes ahead of a JSON reader: literals, strings, numbers. A scanner answers how
many bytes it took and either what it read or a fault. A fault is reported at the place after the
bytes taken, or, for a fault about the next byte (`ahead`), at the place after that byte.

Strings may hold `\uXXXX` escapes; a code point above the basic plane is written as a pair of
surrogate escapes, and a lone surrogate is refused. Numbers follow the JSON grammar: one leading
zero at most, a fraction needs a digit, an exponent needs a digit.
-/

set_option autoImplicit false

/-! ## Numbers as read

Numbers as the JSON reader meets them. An integer without sign below 2^64 and a negative integer
down to -2^63 are kept exactly; every other number becomes a double, named by its shortest
decimal text when a type fault mentions it.
-/

namespace Escrow.Json

/-- A number read from a document. -/
inductive Number where
  /-- A non-negative integer below 2^64. -/
  | unsigned (n : Nat)
  /-- The integer `-n`, for `0 < n ≤ 2^63`. -/
  | negative (n : Nat)
  /-- A number with a fraction or an exponent, or an integer out of range, as a double. -/
  | float (value : Binary64)
  deriving Repr, DecidableEq

def Number.found : Number → Found
  | .unsigned n => .unsigned n
  | .negative n => .signed (-(n : Int))
  | .float value => .float value.text

/-! ## Scanners -/

/-- The result of a scan: the bytes taken and a value, or the bytes taken and a fault. -/
inductive Scan (α : Type) where
  | done (taken : Nat) (value : α)
  | fault (taken : Nat) (f : JsonFault) (ahead : Bool)

def ch (b : UInt8) : Char := Char.ofNat b.toNat

def isDigitByte (b : UInt8) : Bool := 0x30 ≤ b && b ≤ 0x39

def digitOf (b : UInt8) : Nat := b.toNat - 0x30

def wordMax : Nat := Nat.pow 2 64 - 1

def exponentMax : Nat := Nat.pow 2 31 - 1

def hexQuad (a b c d : UInt8) : Option Nat := do
  let a ← Text.digitValue a
  let b ← Text.digitValue b
  let c ← Text.digitValue c
  let d ← Text.digitValue d
  pure (((a * 16 + b) * 16 + c) * 16 + d)

def utf8Reversed (code : Nat) : List UInt8 :=
  (String.singleton (Char.ofNat code)).toUTF8.toList.reverse

def scanIdent : List Char → List UInt8 → Nat → Scan Unit
  | [], _, taken => .done taken ()
  | _ :: _, [], taken => .fault taken .eofValue false
  | e :: es, b :: bs, taken =>
    if ch b = e then scanIdent es bs (taken + 1) else .fault (taken + 1) .expectedIdent false

def scanStr : List UInt8 → Nat → List UInt8 → Scan (List UInt8)
  | [], taken, _ => .fault taken .eofString false
  | b :: bs, taken, acc =>
    if ch b = '"' then .done (taken + 1) acc.reverse
    else if ch b = '\\' then
      match bs with
      | [] => .fault (taken + 1) .eofString false
      | e :: es =>
        match ch e with
        | '"' => scanStr es (taken + 2) (0x22 :: acc)
        | '\\' => scanStr es (taken + 2) (0x5C :: acc)
        | '/' => scanStr es (taken + 2) (0x2F :: acc)
        | 'b' => scanStr es (taken + 2) (0x08 :: acc)
        | 'f' => scanStr es (taken + 2) (0x0C :: acc)
        | 'n' => scanStr es (taken + 2) (0x0A :: acc)
        | 'r' => scanStr es (taken + 2) (0x0D :: acc)
        | 't' => scanStr es (taken + 2) (0x09 :: acc)
        | 'u' =>
          match es with
          | h1 :: h2 :: h3 :: h4 :: rest =>
            match hexQuad h1 h2 h3 h4 with
            | none => .fault (taken + 6) .invalidEscape false
            | some v =>
              if 0xDC00 ≤ v ∧ v ≤ 0xDFFF then .fault (taken + 6) .loneSurrogate false
              else if v < 0xD800 ∨ 0xDBFF < v then scanStr rest (taken + 6) (utf8Reversed v ++ acc)
              else
                match rest with
                | [] => .fault (taken + 6) .eofString false
                | x :: rest =>
                  if ch x ≠ '\\' then .fault (taken + 7) .unexpectedEndOfHexEscape false
                  else
                    match rest with
                    | [] => .fault (taken + 7) .eofString false
                    | y :: rest =>
                      if ch y ≠ 'u' then .fault (taken + 8) .unexpectedEndOfHexEscape false
                      else
                        match rest with
                        | l1 :: l2 :: l3 :: l4 :: rest =>
                          match hexQuad l1 l2 l3 l4 with
                          | none => .fault (taken + 12) .invalidEscape false
                          | some w =>
                            if w < 0xDC00 ∨ 0xDFFF < w then .fault (taken + 12) .loneSurrogate false
                            else
                              let code := 0x10000 + (v - 0xD800) * 0x400 + (w - 0xDC00)
                              scanStr rest (taken + 12) (utf8Reversed code ++ acc)
                        | short => .fault (taken + 8 + short.length) .eofString false
          | short => .fault (taken + 2 + short.length) .eofString false
        | _ => .fault (taken + 2) .invalidEscape false
    else if b < 0x20 then .fault (taken + 1) .controlCharacter false
    else scanStr bs (taken + 1) (b :: acc)

def skipStr : List UInt8 → Nat → Scan Unit
  | [], taken => .fault taken .eofString false
  | b :: bs, taken =>
    if ch b = '"' then .done (taken + 1) ()
    else if ch b = '\\' then
      match bs with
      | [] => .fault (taken + 1) .eofString false
      | e :: es =>
        if "\"\\/bfnrt".toList.contains (ch e) then skipStr es (taken + 2)
        else if ch e = 'u' then
          match es with
          | h1 :: h2 :: h3 :: h4 :: rest =>
            match hexQuad h1 h2 h3 h4 with
            | none => .fault (taken + 6) .invalidEscape false
            | some _ => skipStr rest (taken + 6)
          | short => .fault (taken + 2 + short.length) .eofString false
        else .fault (taken + 2) .invalidEscape false
    else if b < 0x20 then .fault taken .controlCharacter false
    else skipStr bs (taken + 1)

/-! ## Numbers -/

def floatAt (positive : Bool) (significand : Nat) (exponent : Int) (taken : Nat) : Scan Number :=
  match Binary64.fromParts (!positive) significand exponent with
  | some value => .done taken (.float value)
  | none => .fault taken .numberOutOfRange false

def clampExponent (e : Int) : Int :=
  if e < -Int.ofNat (Nat.pow 2 31) then -Int.ofNat (Nat.pow 2 31)
  else if Int.ofNat exponentMax < e then Int.ofNat exponentMax
  else e

def scanExponentDigits (positive : Bool) (significand : Nat) (start : Int) (up : Bool) :
    Nat → List UInt8 → Nat → Scan Number
  | exp, b :: rest, taken =>
    if isDigitByte b then
      let e := exp * 10 + digitOf b
      if exponentMax < e then
        if significand ≠ 0 ∧ up then .fault (taken + 1) .numberOutOfRange false
        else
          .done (taken + 1 + (rest.takeWhile isDigitByte).length) (.float (Binary64.zero (!positive)))
      else scanExponentDigits positive significand start up e rest (taken + 1)
    else floatAt positive significand (clampExponent (if up then start + exp else start - exp)) taken
  | exp, [], taken =>
    floatAt positive significand (clampExponent (if up then start + exp else start - exp)) taken

def scanExponent (positive : Bool) (significand : Nat) (start : Int) (bs : List UInt8)
    (taken : Nat) : Scan Number :=
  let (up, bs, taken) :=
    match bs with
    | b :: rest =>
      if ch b = '+' then (true, rest, taken + 1)
      else if ch b = '-' then (false, rest, taken + 1)
      else (true, bs, taken)
    | [] => (true, [], taken)
  match bs with
  | [] => .fault taken .eofValue false
  | b :: rest =>
    if isDigitByte b then scanExponentDigits positive significand start up (digitOf b) rest (taken + 1)
    else .fault (taken + 1) .invalidNumber false

def afterFraction (positive : Bool) (significand : Nat) (exponent : Int) (bs : List UInt8)
    (taken : Nat) : Scan Number :=
  match bs with
  | b :: rest =>
    if ch b = 'e' ∨ ch b = 'E' then scanExponent positive significand exponent rest (taken + 1)
    else floatAt positive significand exponent taken
  | [] => floatAt positive significand exponent taken

/-- Reads the digits of a fraction after its point; `count` digits are read so far. Digits that
would take the significand past 2^64 are read and dropped. -/
def scanFraction (positive : Bool) (start : Int) : Nat → Nat → List UInt8 → Nat → Scan Number
  | significand, count, b :: rest, taken =>
    if isDigitByte b then
      if wordMax < significand * 10 + digitOf b then
        let skipped := ((b :: rest).takeWhile isDigitByte).length
        afterFraction positive significand (start - count) ((b :: rest).drop skipped) (taken + skipped)
      else scanFraction positive start (significand * 10 + digitOf b) (count + 1) rest (taken + 1)
    else if count = 0 then .fault taken .invalidNumber true
    else afterFraction positive significand (start - count) (b :: rest) taken
  | significand, count, [], taken =>
    if count = 0 then .fault taken .eofValue true
    else afterFraction positive significand (start - count) [] taken

def scanLongInteger (positive : Bool) (significand : Nat) : Nat → List UInt8 → Nat → Scan Number
  | extra, b :: rest, taken =>
    if isDigitByte b then scanLongInteger positive significand (extra + 1) rest (taken + 1)
    else if ch b = '.' then scanFraction positive extra significand 0 rest (taken + 1)
    else if ch b = 'e' ∨ ch b = 'E' then scanExponent positive significand extra rest (taken + 1)
    else floatAt positive significand extra taken
  | extra, [], taken => floatAt positive significand extra taken

def integerOf (positive : Bool) (significand : Nat) (taken : Nat) : Scan Number :=
  if positive then .done taken (.unsigned significand)
  else if significand = 0 ∨ Nat.pow 2 63 < significand then
    .done taken (.float (Binary64.ofNat true significand))
  else .done taken (.negative significand)

def afterInteger (positive : Bool) (significand : Nat) (bs : List UInt8) (taken : Nat) :
    Scan Number :=
  match bs with
  | b :: rest =>
    if ch b = '.' then scanFraction positive 0 significand 0 rest (taken + 1)
    else if ch b = 'e' ∨ ch b = 'E' then scanExponent positive significand 0 rest (taken + 1)
    else integerOf positive significand taken
  | [] => integerOf positive significand taken

def scanSignificand (positive : Bool) : Nat → List UInt8 → Nat → Scan Number
  | significand, b :: rest, taken =>
    if isDigitByte b then
      if wordMax < significand * 10 + digitOf b then
        scanLongInteger positive significand 0 (b :: rest) taken
      else scanSignificand positive (significand * 10 + digitOf b) rest (taken + 1)
    else afterInteger positive significand (b :: rest) taken
  | significand, [], taken => afterInteger positive significand [] taken

def scanNumber (positive : Bool) (bs : List UInt8) : Scan Number :=
  match bs with
  | [] => .fault 0 .eofValue false
  | b :: rest =>
    if ch b = '0' then
      match rest with
      | d :: _ =>
        if isDigitByte d then .fault 1 .invalidNumber true else afterInteger positive 0 rest 1
      | [] => afterInteger positive 0 [] 1
    else if isDigitByte b then scanSignificand positive (digitOf b) rest 1
    else .fault 1 .invalidNumber false

def scanWide (bs : List UInt8) : Scan Nat :=
  match bs with
  | [] => .fault 0 .invalidNumber false
  | b :: rest =>
    if ch b = '0' then
      match rest with
      | d :: _ => if isDigitByte d then .fault 1 .invalidNumber true else .done 1 0
      | [] => .done 1 0
    else if isDigitByte b then
      let ds := b :: rest.takeWhile isDigitByte
      .done ds.length (ds.foldl (fun acc d => acc * 10 + digitOf d) 0)
    else .fault 1 .invalidNumber false

def skipExponent (bs : List UInt8) (taken : Nat) : Scan Unit :=
  let (bs, taken) :=
    match bs with
    | b :: rest => if ch b = '+' ∨ ch b = '-' then (rest, taken + 1) else (bs, taken)
    | [] => ([], taken)
  match bs with
  | b :: rest =>
    if isDigitByte b then .done (taken + 1 + (rest.takeWhile isDigitByte).length) ()
    else .fault (taken + 1) .invalidNumber false
  | [] => .fault taken .invalidNumber false

def skipFraction (bs : List UInt8) (taken : Nat) : Scan Unit :=
  let count := (bs.takeWhile isDigitByte).length
  if count = 0 then .fault taken .invalidNumber true
  else
    match bs.drop count with
    | b :: rest =>
      if ch b = 'e' ∨ ch b = 'E' then skipExponent rest (taken + count + 1)
      else .done (taken + count) ()
    | [] => .done (taken + count) ()

def skipNumber (bs : List UInt8) : Scan Unit :=
  let afterDigits (rest : List UInt8) (taken : Nat) : Scan Unit :=
    match rest with
    | b :: more =>
      if ch b = '.' then skipFraction more (taken + 1)
      else if ch b = 'e' ∨ ch b = 'E' then skipExponent more (taken + 1)
      else .done taken ()
    | [] => .done taken ()
  match bs with
  | b :: rest =>
    if ch b = '0' then
      match rest with
      | d :: _ => if isDigitByte d then .fault 1 .invalidNumber true else afterDigits rest 1
      | [] => afterDigits [] 1
    else if isDigitByte b then
      let count := (rest.takeWhile isDigitByte).length
      afterDigits (rest.drop count) (count + 1)
    else .fault 1 .invalidNumber false
  | [] => .fault 0 .invalidNumber false

end Escrow.Json
