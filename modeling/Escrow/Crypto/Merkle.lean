import Escrow.Crypto.Keccak
import Escrow.Address

/-!
Sorted-pair Merkle trees over whitelist leaves. A leaf is the Keccak-256 digest of an address's
20 bytes; a parent is the digest of its two children, the smaller first, so a proof needs no
left/right flags. An unpaired node at the end of a level is carried up unchanged. A proof is the
list of siblings from the leaf up, and it verifies when folding it onto the leaf gives the root.
-/

set_option autoImplicit false

namespace Escrow.Crypto

open Escrow.Text

def digestOf (bytes : List UInt8) : Digest :=
  Digest.ofNat (ofBigEndian (keccak256 bytes))

def leafHash (a : Address) : Digest :=
  digestOf a.toBytes

def hashPair (a b : Digest) : Digest :=
  if a.val ≤ b.val then digestOf (a.toBytes ++ b.toBytes) else digestOf (b.toBytes ++ a.toBytes)

def pairUp : List Digest → List Digest
  | a :: b :: rest => hashPair a b :: pairUp rest
  | [a] => [a]
  | [] => []

theorem length_pairUp : ∀ level : List Digest, (pairUp level).length = (level.length + 1) / 2
  | _ :: _ :: rest => by simp only [pairUp, List.length_cons, length_pairUp rest]; omega
  | [_] => by simp [pairUp]
  | [] => by simp [pairUp]

def levelsFrom (level : List Digest) : List (List Digest) :=
  if _short : level.length ≤ 1 then [level]
  else level :: levelsFrom (pairUp level)
termination_by level.length
decreasing_by rw [length_pairUp]; omega

/-- A fully built tree: level 0 holds the leaves, the last level the root. -/
structure MerkleTree where
  levels : List (List Digest)

namespace MerkleTree

def ofLeaves (leaves : List Digest) : MerkleTree := ⟨levelsFrom leaves⟩

def ofAddresses (addresses : List Address) : MerkleTree := ofLeaves (addresses.map leafHash)

def root (t : MerkleTree) : Digest :=
  match t.levels.getLast? with
  | some (r :: _) => r
  | _ => Digest.zero

def leafCount (t : MerkleTree) : Nat := (t.levels.headD []).length

def siblings : List (List Digest) → Nat → List Digest
  | [], _ => []
  | [_], _ => []
  | level :: rest, index =>
    match level[index ^^^ 1]? with
    | some s => s :: siblings rest (index / 2)
    | none => siblings rest (index / 2)

def proof (t : MerkleTree) (leaf : Digest) : Option (List Digest) :=
  match t.levels with
  | [] => none
  | leaves :: _ => (leaves.findIdx? (· == leaf)).map (siblings t.levels)

def proofFor (t : MerkleTree) (a : Address) : Option (List Digest) := t.proof (leafHash a)

end MerkleTree

def verifyProof (root leaf : Digest) (proof : List Digest) : Bool :=
  proof.foldl hashPair leaf == root

end Escrow.Crypto
