import Escrow.Binary64

/-!
Suggestions for mistyped names. Two names are compared by their Jaro similarity: characters
match when they are equal and stand at most half the longer length (less one) apart, and the
similarity averages the share of matched characters in each name with the share of matches that
are not transposed. A name is suggested when its similarity is above 0.7; suggestions come in
increasing similarity, names that score alike in the order they were offered. Similarities are
computed in binary64, each share and each sum rounded, as a double-precision score would be:
rounding decides the names that score close to 0.7 (`unlhck` against `check` scores just above
it).
-/

set_option autoImplicit false

namespace Escrow.Cli

def firstFree (c : Char) (b : Array Char) (taken : Array Bool) (lo : Nat) :
    Nat → Nat → Option Nat
  | 0, _ => none
  | fuel + 1, j =>
    if b[j]? = some c && taken[j]? = some false && lo ≤ j then some j
    else firstFree c b taken lo fuel (j + 1)

def jaroFlags (a b : Array Char) : Array Bool × Array Bool :=
  let window := max a.size b.size / 2 - 1
  (List.range a.size).foldl
    (fun (fa, fb) i =>
      let lo := i - window
      let hi := min b.size (i + window + 1)
      match a[i]? with
      | some c =>
        match firstFree c b fb lo hi 0 with
        | some j => (fa.set! i true, fb.set! j true)
        | none => (fa, fb)
      | none => (fa, fb))
    (Array.replicate a.size false, Array.replicate b.size false)

def matchedChars (s : Array Char) (flags : Array Bool) : List Char :=
  (s.toList.zip flags.toList).filterMap fun (c, f) => if f then some c else none

def jaroCounts (a b : String) : Nat × Nat :=
  let a := a.toList.toArray
  let b := b.toList.toArray
  let (fa, fb) := jaroFlags a b
  let ma := matchedChars a fa
  let mb := matchedChars b fb
  let swapped := ((ma.zip mb).filter fun (x, y) => x ≠ y).length
  (ma.length, swapped / 2)

/-- The Jaro similarity, rounded as binary64 arithmetic rounds it: the two shares of matched
characters are added, then the share of untransposed matches, and the sum is divided by three. -/
def similarity (a b : String) : Binary64 :=
  let la := a.length
  let lb := b.length
  if la = 0 && lb = 0 then Binary64.ofRatio 1 1
  else if la = 0 || lb = 0 then Binary64.zero false
  else
    let (m, t) := jaroCounts a b
    if m = 0 then Binary64.zero false
    else
      let shares := Binary64.addMagnitudes (Binary64.ofRatio m la) (Binary64.ofRatio m lb)
      let sum := (shares.bind fun x => Binary64.addMagnitudes x (Binary64.ofRatio (m - t) m))
        |>.getD (Binary64.zero false)
      (Binary64.div sum (Binary64.ofNat false 3)).getD (Binary64.zero false)

def similarEnough : Binary64 := Binary64.ofRatio 7 10

def similarNames (name : String) (candidates : List String) : List String :=
  let scored := candidates.filterMap fun c =>
    let s := similarity name c
    if Binary64.magnitudeLt similarEnough s then some (s, c) else none
  (scored.mergeSort fun x y => !Binary64.magnitudeLt y.1 x.1).map (·.2)

end Escrow.Cli
