/-!
IEEE 754 binary64 numbers, as the JSON reader computes them, as type faults show them, and as
name suggestions score similarity.

A number with a fraction or an exponent is read the way a fast reader does it, not with correct
rounding: its significand (at most 2^64 - 1, later digits being dropped) is rounded to a double,
which is then multiplied or divided by the double nearest to the power of ten. Each step
rounds to nearest, ties to even, so `9007199254740993.0` reads as `9007199254740994`.

A double is shown by the shortest decimal that reads back as the same double, the one nearest
to it when several are that short. The text is positional while the decimal point falls within
sixteen digits of the first digit and not more than five places after the point, and in
scientific notation (`1e+16`, `1.5e-7`) otherwise. Arithmetic is exact, on natural numbers.
-/

set_option autoImplicit false

namespace Escrow

/-- A finite binary64 number: its sign, its biased exponent field (0 for zero and the subnormal
numbers, at most 2046) and its 52-bit fraction field. -/
structure Binary64 where
  negative : Bool
  exponentField : Nat
  fraction : Nat
  deriving Repr, DecidableEq, Inhabited

namespace Binary64

def hiddenBit : Nat := Nat.pow 2 52

def zero (negative : Bool) : Binary64 := ⟨negative, 0, 0⟩

def isZero (x : Binary64) : Bool := x.exponentField == 0 && x.fraction == 0

def significand (x : Binary64) : Nat :=
  if x.exponentField = 0 then x.fraction else hiddenBit + x.fraction

def scale (x : Binary64) : Int :=
  if x.exponentField = 0 then -1074 else (x.exponentField : Int) - 1075

def roundHalfEven (n d : Nat) : Nat :=
  let q := n / d
  let r := n % d
  if 2 * r < d then q else if d < 2 * r then q + 1 else if q % 2 = 0 then q else q + 1

def scaled (n d : Nat) (s : Int) : Nat × Nat :=
  if 0 ≤ s then (n * Nat.pow 2 s.toNat, d) else (n, d * Nat.pow 2 (-s).toNat)

/-- The largest `t` with `2^t ≤ n / d`, for positive `n` and `d`. The bit lengths of `n` and
`d` place it at `t₀` or `t₀ - 1`, where `t₀` is their difference. -/
def floorLog2 (n d : Nat) : Int :=
  let t : Int := (Nat.log2 n : Int) - (Nat.log2 d : Int)
  let (a, b) := scaled 1 1 t
  if a * d ≤ n * b then t else t - 1

/-- The double nearest to `n / d · 2^s`, ties to an even significand; `none` when that rounds
past the largest finite double. -/
def nearest (negative : Bool) (n d : Nat) (s : Int) : Option Binary64 :=
  if n = 0 then some (zero negative)
  else
    let (n', d') := scaled n d s
    let e := max (floorLog2 n' d' - 52) (-1074)
    let (a, b) := scaled n' d' (-e)
    let m := roundHalfEven a b
    let (m, e) := if m = Nat.pow 2 53 then (hiddenBit, e + 1) else (m, e)
    if 971 < e then none
    else if m < hiddenBit then some ⟨negative, 0, m⟩
    else some ⟨negative, (e + 1075).toNat, m - hiddenBit⟩

def ofNat (negative : Bool) (n : Nat) : Binary64 :=
  (nearest negative n 1 0).getD (zero negative)

def ofRatio (n d : Nat) : Binary64 :=
  (nearest false n d 0).getD (zero false)

def addMagnitudes (x y : Binary64) : Option Binary64 :=
  let s := min x.scale y.scale
  let n := x.significand * Nat.pow 2 (x.scale - s).toNat +
    y.significand * Nat.pow 2 (y.scale - s).toNat
  nearest false n 1 s

def magnitudeLt (x y : Binary64) : Bool :=
  x.exponentField < y.exponentField ||
    (x.exponentField == y.exponentField && x.fraction < y.fraction)

def powerOfTen (i : Nat) : Binary64 :=
  ofNat false (Nat.pow 10 i)

def mul (x y : Binary64) : Option Binary64 :=
  nearest (x.negative != y.negative) (x.significand * y.significand) 1 (x.scale + y.scale)

def div (x y : Binary64) : Option Binary64 :=
  nearest (x.negative != y.negative) x.significand y.significand (x.scale - y.scale)

/-- Scales `f` by `10^exponent`. While the power is beyond the table of powers up to `10^308`,
a zero stays zero, a positive power overflows, and a negative power divides by `10^308` and
tries again. Three such divisions take any double to zero, so `fuel` of 4 always suffices. -/
def scaleByTen : Nat → Binary64 → Int → Option Binary64
  | 0, f, _ => some f
  | fuel + 1, f, exponent =>
    if exponent.natAbs ≤ 308 then
      let pow := powerOfTen exponent.natAbs
      if 0 ≤ exponent then mul f pow else div f pow
    else if f.isZero then some f
    else if 0 ≤ exponent then none
    else
      match div f (powerOfTen 308) with
      | some g => scaleByTen fuel g (exponent + 308)
      | none => none

/-- The double the reader makes of `±significand · 10^exponent`; `none` when it is out of
range. -/
def fromParts (negative : Bool) (significand : Nat) (exponent : Int) : Option Binary64 :=
  (scaleByTen 8 (ofNat false significand) exponent).map fun f => { f with negative }

/-! ## The shortest decimal -/

def ratio (X : Nat) (e p : Int) : Nat × Nat :=
  let (n, d) := scaled X 1 e
  if 0 ≤ p then (n, d * Nat.pow 10 p.toNat) else (n * Nat.pow 10 (-p).toNat, d)

def ceilDiv (n d : Nat) : Nat := (n + d - 1) / d

/-- The decimals that read back as a double are those between the midpoints to its neighbours,
`mm · 2^e` and `mp · 2^e`, including the midpoints when its significand is even. At the scale
`10^p` they are the multiples `n · 10^p` for `n` from the first to the second number given. -/
def candidates (mm mp : Nat) (e : Int) (inclusive : Bool) (p : Int) : Int × Int :=
  let (a, b) := ratio mm e p
  let (c, d) := ratio mp e p
  let low : Int := if inclusive then ceilDiv a b else a / b + 1
  let high : Int := if inclusive then (c / d : Nat) else (ceilDiv c d : Int) - 1
  (low, high)

/-- The coarsest scale, at most `p`, at which some decimal reads back; `fuel` bounds the steps
down. -/
def coarsest (mm mp : Nat) (e : Int) (inclusive : Bool) : Nat → Int → Int × Int × Int
  | 0, p => (p, candidates mm mp e inclusive p)
  | fuel + 1, p =>
    let (low, high) := candidates mm mp e inclusive p
    if low ≤ high then (p, low, high) else coarsest mm mp e inclusive fuel (p - 1)

/-- The shortest decimal `digits · 10^power` that reads back as a non-zero double, nearest to it
among the shortest and even on a tie. The search starts a few powers of ten above the double's
magnitude, estimated from its bit length by `log₁₀ 2 ≈ 78913 / 2^18`, and seventeen digits
always suffice, so it ends within a few dozen steps. -/
def shortest (x : Binary64) : Nat × Int :=
  let m2 := x.significand
  let e := x.scale - 2
  let mv := 4 * m2
  let shift := if x.fraction ≠ 0 ∨ x.exponentField ≤ 1 then 1 else 0
  let mm := mv - 1 - shift
  let mp := mv + 2
  let inclusive := m2 % 2 = 0
  let bits : Int := (Nat.log2 m2 : Int) + x.scale
  let start := bits * 78913 / 262144 + 4
  let (p, low, high) := coarsest mm mp e inclusive 80 start
  let (a, b) := ratio mv e p
  let n : Int := roundHalfEven a b
  let n := if n < low then low else if high < n then high else n
  (n.toNat, p)

def exponentText (k : Int) : String :=
  if k < 0 then "-" ++ toString k.natAbs else "+" ++ toString k

def text (x : Binary64) : String :=
  let sign := if x.negative then "-" else ""
  if x.isZero then sign ++ "0.0"
  else
    let (n, p) := x.shortest
    let ds := (toString n).toList
    let len : Int := ds.length
    let kk := len + p
    let body :=
      if 0 ≤ p ∧ kk ≤ 16 then String.ofList (ds ++ List.replicate p.toNat '0') ++ ".0"
      else if 0 < kk ∧ kk ≤ 16 then
        String.ofList (ds.take kk.toNat ++ '.' :: ds.drop kk.toNat)
      else if -5 < kk ∧ kk ≤ 0 then
        String.ofList ('0' :: '.' :: List.replicate (-kk).toNat '0' ++ ds)
      else
        match ds with
        | [d] => String.ofList [d] ++ "e" ++ exponentText (kk - 1)
        | d :: rest => String.ofList (d :: '.' :: rest) ++ "e" ++ exponentText (kk - 1)
        | [] => "0.0"
    sign ++ body

end Binary64

end Escrow
