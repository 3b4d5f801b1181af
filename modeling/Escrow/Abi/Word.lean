import Escrow.Address
import Escrow.Error

/-!
The word codec of criterion and unlock payloads. Every static value takes one 32-byte word of
the head, right-aligned; a list of addresses takes one head word holding the byte offset of its
tail, where a length word is followed by one word per address. Tails follow the head in the
order of their head words. Reading is random access by word index; offsets are machine offsets
below 2^64. A word index and a word count become bytes by an unchecked machine product, which
panics past 2^64: the reader stops there with `multiplyOverflow`.
-/

set_option autoImplicit false

namespace Escrow.Abi

open Escrow.Text

def wordBytes : Nat := 32

def offsetBound : Nat := Nat.pow 2 64

/-- A value a payload can carry. -/
inductive AbiValue where
  | uint (v : Nat)
  | address (a : Address)
  | bytes32 (d : Digest)
  | addressArray (items : List Address)
  deriving Inhabited

def word (n : Nat) : List UInt8 := bigEndian wordBytes n

def encodeFrom (headLen : Nat) : List AbiValue → List UInt8 → List UInt8 × List UInt8
  | [], tail => ([], tail)
  | .uint v :: rest, tail =>
    let (head, tail') := encodeFrom headLen rest tail
    (word v ++ head, tail')
  | .address a :: rest, tail =>
    let (head, tail') := encodeFrom headLen rest tail
    (word a.val ++ head, tail')
  | .bytes32 d :: rest, tail =>
    let (head, tail') := encodeFrom headLen rest tail
    (word d.val ++ head, tail')
  | .addressArray items :: rest, tail =>
    let own := word items.length ++ items.flatMap (fun a => word a.val)
    let (head, tail') := encodeFrom headLen rest (tail ++ own)
    (word (headLen + tail.length) ++ head, tail')

def encode (values : List AbiValue) : List UInt8 :=
  let (head, tail) := encodeFrom (wordBytes * values.length) values []
  head ++ tail

/-- The bytes of `n` words as a machine product: `32 · n`, which panics past the largest
machine offset. -/
def wordOffset (n : Nat) : Except AbiFault Nat :=
  if wordBytes * n < offsetBound then .ok (wordBytes * n) else .error .multiplyOverflow

/-- A payload read by word index. -/
structure Reader where
  data : List UInt8

namespace Reader

def expectWords (r : Reader) (count : Nat) : Except AbiFault Unit := do
  let bytes ← wordOffset count
  if r.data.length < bytes then .error (.tooShort count r.data.length) else .ok ()

def wordAt (r : Reader) (offset : Nat) : Except AbiFault (List UInt8) :=
  if offset + wordBytes ≥ offsetBound then .error .offsetOverflow
  else if offset + wordBytes ≤ r.data.length then .ok ((r.data.drop offset).take wordBytes)
  else .error (.outOfRange offset)

def decodeUint (w : List UInt8) : Except AbiFault Nat :=
  if ofBigEndian w < Nat.pow 2 128 then .ok (ofBigEndian w) else .error .wideInteger

def decodeAddress (w : List UInt8) : Except AbiFault Address :=
  if h : ofBigEndian w < Nat.pow 2 160 then .ok ⟨ofBigEndian w, h⟩ else .error .dirtyPadding

def uint (r : Reader) (index : Nat) : Except AbiFault Nat := do
  decodeUint (← r.wordAt (← wordOffset index))

def address (r : Reader) (index : Nat) : Except AbiFault Address := do
  decodeAddress (← r.wordAt (← wordOffset index))

def bytes32 (r : Reader) (index : Nat) : Except AbiFault Digest := do
  let w ← r.wordAt (← wordOffset index)
  pure (Digest.ofNat (ofBigEndian w))

def addressArray (r : Reader) (index : Nat) : Except AbiFault (List Address) := do
  let offset ← r.uint index
  if offset ≥ offsetBound then throw .offsetTooLarge
  let len ← decodeUint (← r.wordAt offset)
  if len ≥ offsetBound then throw .lengthTooLarge
  let available := (r.data.length - (offset + wordBytes)) / wordBytes
  if len > available then throw (.shortArray len available)
  (List.range len).mapM fun i => do
    decodeAddress (← r.wordAt (offset + wordBytes * (i + 1)))

end Reader

end Escrow.Abi
