/-!
Keccak-256 as Ethereum uses it: the Keccak-f[1600] permutation, a rate of 136 bytes, and the
padding `0x01 … 0x80`. The state is 25 lanes of 64 bits, lane `x + 5y` holding row `y`,
column `x`; bytes enter and leave each lane least significant first.
-/

set_option autoImplicit false

namespace Escrow.Crypto

def keccakRate : Nat := 136

def roundConstants : List UInt64 :=
  [0x0000000000000001, 0x0000000000008082, 0x800000000000808A, 0x8000000080008000,
   0x000000000000808B, 0x0000000080000001, 0x8000000080008081, 0x8000000000008009,
   0x000000000000008A, 0x0000000000000088, 0x0000000080008009, 0x000000008000000A,
   0x000000008000808B, 0x800000000000008B, 0x8000000000008089, 0x8000000000008003,
   0x8000000000008002, 0x8000000000000080, 0x000000000000800A, 0x800000008000000A,
   0x8000000080008081, 0x8000000000008080, 0x0000000080000001, 0x8000000080008008]

def rotations : Array UInt64 :=
  #[0, 1, 62, 28, 27, 36, 44, 6, 55, 20, 3, 10, 43, 25, 39, 41, 45, 15, 21, 8, 18, 2, 61, 56, 14]

def rotl (v n : UInt64) : UInt64 :=
  if n = 0 then v else (v <<< n) ||| (v >>> (64 - n))

def lane (a : Array UInt64) (i : Nat) : UInt64 := a.getD i 0

def round (a : Array UInt64) (rc : UInt64) : Array UInt64 :=
  let c := Array.ofFn (n := 5) fun x =>
    lane a x ^^^ lane a (x + 5) ^^^ lane a (x + 10) ^^^ lane a (x + 15) ^^^ lane a (x + 20)
  let d := Array.ofFn (n := 5) fun x =>
    lane c ((x.val + 4) % 5) ^^^ rotl (lane c ((x.val + 1) % 5)) 1
  let theta := Array.ofFn (n := 25) fun i => lane a i ^^^ lane d (i.val % 5)
  -- B[y, 2x + 3y] = rot(A[x, y], r[x, y])
  let b := (List.range 25).foldl (fun (acc : Array UInt64) i =>
    let x := i % 5
    let y := i / 5
    acc.setIfInBounds (y + 5 * ((2 * x + 3 * y) % 5)) (rotl (lane theta i) (lane rotations i)))
    (Array.replicate 25 0)
  let chi := Array.ofFn (n := 25) fun i =>
    let x := i.val % 5
    let y := i.val / 5
    lane b i ^^^ ((~~~ lane b ((x + 1) % 5 + 5 * y)) &&& lane b ((x + 2) % 5 + 5 * y))
  chi.setIfInBounds 0 (lane chi 0 ^^^ rc)

def permute (a : Array UInt64) : Array UInt64 :=
  roundConstants.foldl round a

def laneOfBytes (block : Array UInt8) (offset : Nat) : UInt64 :=
  (List.range 8).foldl (fun acc k => acc ||| ((block.getD (offset + k) 0).toUInt64 <<< (8 * k).toUInt64)) 0

def absorb (padded : Array UInt8) (state : Array UInt64) (offset : Nat) : Array UInt64 :=
  let mixed := (List.range (keccakRate / 8)).foldl
    (fun (acc : Array UInt64) i => acc.setIfInBounds i (lane acc i ^^^ laneOfBytes padded (offset + 8 * i))) state
  permute mixed

def pad (message : List UInt8) : Array UInt8 :=
  let fill := keccakRate - message.length % keccakRate
  let tail := if fill = 1 then [0x81] else 0x01 :: List.replicate (fill - 2) 0 ++ [0x80]
  (message ++ tail).toArray

def keccak256 (message : List UInt8) : List UInt8 :=
  let padded := pad message
  let blocks := padded.size / keccakRate
  let state := (List.range blocks).foldl (fun st k => absorb padded st (keccakRate * k))
    (Array.replicate 25 0)
  (List.range 32).map fun i => ((lane state (i / 8)) >>> (8 * (i % 8)).toUInt64).toUInt8

end Escrow.Crypto
