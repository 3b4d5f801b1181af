import Escrow.Text.Hex

/-!
Addresses (20 bytes) and digests (32 bytes). Each is held as the number its bytes spell,
most significant byte first, so the numeric order is the bytewise order. Both are written as
`0x` and lowercase hexadecimal digits, two per byte, and read back from that text with or
without the `0x`.
-/

set_option autoImplicit false

namespace Escrow

open Escrow.Text

def paddedHex (width n : Nat) : String :=
  let digits := Nat.toDigits 16 n
  String.ofList (List.replicate (width - digits.length) '0' ++ digits)

/-- A 20-byte account or token address. -/
structure Address where
  val : Nat
  isLt : val < Nat.pow 2 160

/-- A 32-byte digest: Merkle roots, proof siblings and leaves. -/
structure Digest where
  val : Nat
  isLt : val < Nat.pow 2 256

namespace Address

instance : DecidableEq Address := fun a b =>
  if h : a.val = b.val then isTrue (by cases a; cases b; simp_all)
  else isFalse (fun e => h (by rw [e]))

instance : Ord Address := ⟨fun a b => compare a.val b.val⟩
instance : LT Address := ⟨fun a b => a.val < b.val⟩
instance : LE Address := ⟨fun a b => a.val ≤ b.val⟩
instance (a b : Address) : Decidable (a < b) := inferInstanceAs (Decidable (a.val < b.val))
instance (a b : Address) : Decidable (a ≤ b) := inferInstanceAs (Decidable (a.val ≤ b.val))

def ofNat (n : Nat) : Address := ⟨n % Nat.pow 2 160, Nat.mod_lt _ (by decide)⟩

def zero : Address := ofNat 0

instance : Inhabited Address := ⟨zero⟩

def isZero (a : Address) : Bool := a.val == 0

def toBytes (a : Address) : List UInt8 := bigEndian 20 a.val

def toHex (a : Address) : String := "0x" ++ paddedHex 40 a.val

def debug (a : Address) : String := "Address(" ++ String.ofList ((a.toHex.toList.take 10)) ++ "…)"

def ofHex (s : String) : Except HexError Address := do
  let bytes ← readHex s
  if bytes.length = 20 then pure (ofNat (ofBigEndian bytes)) else throw .invalidLength

end Address

namespace Digest

instance : DecidableEq Digest := fun a b =>
  if h : a.val = b.val then isTrue (by cases a; cases b; simp_all)
  else isFalse (fun e => h (by rw [e]))

instance : Ord Digest := ⟨fun a b => compare a.val b.val⟩

def ofNat (n : Nat) : Digest := ⟨n % Nat.pow 2 256, Nat.mod_lt _ (by decide)⟩

def zero : Digest := ofNat 0

instance : Inhabited Digest := ⟨zero⟩

def isZero (d : Digest) : Bool := d.val == 0

def toBytes (d : Digest) : List UInt8 := bigEndian 32 d.val

def toHex (d : Digest) : String := "0x" ++ paddedHex 64 d.val

def debug (d : Digest) : String := "Hash32(" ++ String.ofList ((d.toHex.toList.take 18)) ++ "…)"

def ofHex (s : String) : Except HexError Digest := do
  let bytes ← readHex s
  if bytes.length = 32 then pure (ofNat (ofBigEndian bytes)) else throw .invalidLength

end Digest

end Escrow

/-! ## Address sets

Finite sets of addresses, kept as a strictly increasing list, so that they list in bytewise
order: signers of a multisig criterion, burn sinks, tokens charged a percentage fee.
-/

namespace Escrow

def insertSorted (a : Address) : List Address → List Address
  | [] => [a]
  | b :: rest =>
    if a.val < b.val then a :: b :: rest
    else if a.val = b.val then b :: rest
    else b :: insertSorted a rest

/-- A finite set of addresses, listed in increasing order. -/
structure AddressSet where
  toList : List Address := []
  deriving Inhabited

namespace AddressSet

def ofList (xs : List Address) : AddressSet := ⟨xs.foldl (fun acc a => insertSorted a acc) []⟩

def contains (s : AddressSet) (a : Address) : Bool := s.toList.any (·.val == a.val)

def insert (s : AddressSet) (a : Address) : AddressSet := ⟨insertSorted a s.toList⟩

def erase (s : AddressSet) (a : Address) : AddressSet := ⟨s.toList.filter (·.val != a.val)⟩

def size (s : AddressSet) : Nat := s.toList.length

end AddressSet

end Escrow
