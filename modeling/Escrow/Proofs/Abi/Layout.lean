import Mathlib.Algebra.BigOperators.Group.List.Basic
import Escrow.Abi.Word
import Escrow.Proofs.Text.BigEndian
import Escrow.Proofs.Ledger

/-! The layout of word-coded payloads, and reading them back.

`encode` writes one head word per value and then the tails of the address lists in the order of
their head words (`encode_eq`); an address list's head word holds the byte offset of its tail,
the head's length plus the tails written before it. Reading a payload at a value's index with
the accessor of that value's variant gives the value back (`encode_readBack`), as long as the
integers fit in 128 bits and the payload is short enough for machine offsets.

The other way round, a word that decodes is the word of what it decodes to, so an accessor that
succeeds pins down the bytes it read (`chunk_of_uint_eq_ok` and the lemmas after it).
-/

set_option autoImplicit false

namespace Escrow.Abi

open Escrow.Text

/-! ### Words -/

@[simp]
theorem length_word (n : Nat) : (word n).length = wordBytes := by
  simp [word]

theorem ofBigEndian_word {n : Nat} (small : n < Nat.pow 2 256) : ofBigEndian (word n) = n := by
  rw [word, ofBigEndian_bigEndian, Nat.mod_eq_of_lt]
  simpa [wordBytes] using small

theorem decodeUint_word {v : Nat} (fits : v < Nat.pow 2 128) : Reader.decodeUint (word v) = .ok v := by
  have small : v < Nat.pow 2 256 := lt_trans fits (by decide)
  simp [Reader.decodeUint, ofBigEndian_word small, fits]

theorem decodeAddress_word (a : Address) : Reader.decodeAddress (word a.val) = .ok a := by
  have small : a.val < Nat.pow 2 256 := lt_trans a.isLt (by decide)
  unfold Reader.decodeAddress
  split
  · rename_i fits
    congr 1
    cases a
    simp only [Address.mk.injEq]
    exact ofBigEndian_word small
  · rename_i wide
    exact absurd (by rw [ofBigEndian_word small]; exact a.isLt) wide

theorem ofNat_word (d : Digest) : Digest.ofNat (ofBigEndian (word d.val)) = d := by
  rw [ofBigEndian_word d.isLt]
  cases d
  simp only [Digest.ofNat, Digest.mk.injEq]
  exact Nat.mod_eq_of_lt ‹_›

theorem word_inj {m n : Nat} (hm : m < Nat.pow 2 256) (hn : n < Nat.pow 2 256)
    (same : word m = word n) : m = n := by
  rw [← ofBigEndian_word hm, ← ofBigEndian_word hn, same]

theorem word_ofBigEndian {w : List UInt8} (whole : w.length = wordBytes) :
    word (ofBigEndian w) = w := by
  rw [word, ← whole, bigEndian_ofBigEndian]

theorem eq_word_of_decodeUint {w : List UInt8} {v : Nat} (whole : w.length = wordBytes)
    (decoded : Reader.decodeUint w = .ok v) : w = word v := by
  unfold Reader.decodeUint at decoded
  split at decoded
  · cases decoded
    exact (word_ofBigEndian whole).symm
  · cases decoded

theorem eq_word_of_decodeAddress {w : List UInt8} {a : Address} (whole : w.length = wordBytes)
    (decoded : Reader.decodeAddress w = .ok a) : w = word a.val := by
  unfold Reader.decodeAddress at decoded
  split at decoded
  · cases decoded
    exact (word_ofBigEndian whole).symm
  · cases decoded

theorem eq_word_ofNat {w : List UInt8} (whole : w.length = wordBytes) :
    w = word (Digest.ofNat (ofBigEndian w)).val := by
  have small : ofBigEndian w < Nat.pow 2 256 := by
    have := ofBigEndian_lt w
    rw [whole] at this
    simpa [wordBytes] using this
  simp only [Digest.ofNat, Nat.mod_eq_of_lt small]
  exact (word_ofBigEndian whole).symm

/-! ### Traversals of an index range -/

theorem mapM_range'_eq_ok {β ε : Type} {f : Nat → Except ε β} :
    ∀ {xs : List β} {start : Nat}, (∀ j (h : j < xs.length), f (start + j) = .ok xs[j]) →
      (List.range' start xs.length).mapM f = .ok xs
  | [], _, _ => rfl
  | x :: rest, start, each => by
    have first : f start = .ok x := each 0 (by simp)
    have others : (List.range' (start + 1) rest.length).mapM f = .ok rest :=
      mapM_range'_eq_ok fun j h => by
        have later := each (j + 1) (by simpa using h)
        rwa [show start + (j + 1) = start + 1 + j by omega] at later
    simp [List.range'_succ, first, others, bind, Except.bind, pure, Except.pure]

theorem of_mapM_range'_eq_ok {β ε : Type} {f : Nat → Except ε β} :
    ∀ {n start : Nat} {xs : List β}, (List.range' start n).mapM f = .ok xs →
      xs.length = n ∧ ∀ j (h : j < xs.length), f (start + j) = .ok xs[j]
  | 0, _, xs, mapped => by
    cases mapped
    exact ⟨rfl, fun j h => absurd h (Nat.not_lt_zero j)⟩
  | n + 1, start, xs, mapped => by
    rw [List.range'_succ, List.mapM_cons] at mapped
    obtain ⟨x, first, mapped⟩ := bind_eq_ok.mp mapped
    obtain ⟨rest, others, finished⟩ := bind_eq_ok.mp mapped
    cases finished
    obtain ⟨same, each⟩ := of_mapM_range'_eq_ok others
    refine ⟨by simp [same], fun j h => ?_⟩
    cases j with
    | zero => simpa using first
    | succ j => simpa [Nat.add_assoc, Nat.add_comm 1 j] using each j (by simpa using h)

/-! ### Reading words -/

theorem wordOffset_of_lt {n : Nat} (small : wordBytes * n < offsetBound) :
    wordOffset n = .ok (wordBytes * n) := by
  rw [wordOffset, if_pos small]

theorem wordOffset_of_le {n : Nat} (large : offsetBound ≤ wordBytes * n) :
    wordOffset n = .error .multiplyOverflow := by
  rw [wordOffset, if_neg (Nat.not_lt.mpr large)]

theorem of_wordOffset_eq_ok {n offset : Nat} (fits : wordOffset n = .ok offset) :
    wordBytes * n < offsetBound ∧ offset = wordBytes * n := by
  unfold wordOffset at fits
  split at fits
  · cases fits
    exact ⟨‹_›, rfl⟩
  · cases fits

namespace Reader

variable {r : Reader}

theorem wordAt_eq_ok {data : List UInt8} {offset : Nat} (inside : offset + wordBytes ≤ data.length)
    (machine : offset + wordBytes < offsetBound) :
    (Reader.mk data).wordAt offset = .ok ((data.drop offset).take wordBytes) := by
  unfold wordAt
  rw [if_neg (by omega), if_pos inside]

theorem of_wordAt_eq_ok {offset : Nat} {w : List UInt8} (read : r.wordAt offset = .ok w) :
    offset + wordBytes ≤ r.data.length ∧ w = (r.data.drop offset).take wordBytes := by
  unfold wordAt at read
  split at read
  · cases read
  split at read
  · cases read
    exact ⟨‹_›, rfl⟩
  · cases read

theorem length_of_wordAt_eq_ok {offset : Nat} {w : List UInt8} (read : r.wordAt offset = .ok w) :
    w.length = wordBytes := by
  obtain ⟨inside, rfl⟩ := of_wordAt_eq_ok read
  simp only [List.length_take, List.length_drop]
  omega

theorem of_readWord_eq_ok {α : Type} {index : Nat} {decode : List UInt8 → Except AbiFault α} {x : α}
    (read : (do decode (← r.wordAt (← wordOffset index))) = Except.ok x) :
    ∃ w, r.wordAt (wordBytes * index) = .ok w ∧ decode w = .ok x := by
  obtain ⟨offset, fits, read⟩ := bind_eq_ok.mp read
  obtain ⟨-, rfl⟩ := of_wordOffset_eq_ok fits
  exact bind_eq_ok.mp read

theorem chunk_of_uint_eq_ok {index v : Nat} (read : r.uint index = .ok v) :
    wordBytes * index + wordBytes ≤ r.data.length ∧
      (r.data.drop (wordBytes * index)).take wordBytes = word v := by
  obtain ⟨w, found, decoded⟩ := of_readWord_eq_ok read
  obtain ⟨inside, rfl⟩ := of_wordAt_eq_ok found
  exact ⟨inside, eq_word_of_decodeUint (length_of_wordAt_eq_ok found) decoded⟩

theorem lt_of_uint_eq_ok {index v : Nat} (read : r.uint index = .ok v) : v < Nat.pow 2 128 := by
  obtain ⟨w, -, decoded⟩ := of_readWord_eq_ok read
  unfold decodeUint at decoded
  split at decoded
  · cases decoded
    assumption
  · cases decoded

theorem chunk_of_address_eq_ok {index : Nat} {a : Address} (read : r.address index = .ok a) :
    wordBytes * index + wordBytes ≤ r.data.length ∧
      (r.data.drop (wordBytes * index)).take wordBytes = word a.val := by
  obtain ⟨w, found, decoded⟩ := of_readWord_eq_ok read
  obtain ⟨inside, rfl⟩ := of_wordAt_eq_ok found
  exact ⟨inside, eq_word_of_decodeAddress (length_of_wordAt_eq_ok found) decoded⟩

theorem of_addressArray_eq_ok {index : Nat} {items : List Address}
    (read : r.addressArray index = .ok items) :
    ∃ offset, r.uint index = .ok offset ∧ items.length < offsetBound ∧
      r.wordAt offset = .ok (word items.length) ∧
      ∀ j (h : j < items.length), r.wordAt (offset + wordBytes * (j + 1)) = .ok (word items[j].val) := by
  unfold addressArray at read
  obtain ⟨offset, located, read⟩ := bind_eq_ok.mp read
  refine ⟨offset, located, ?_⟩
  split at read
  · simp [throw, throwThe, MonadExceptOf.throw, bind, Except.bind] at read
  simp only at read
  obtain ⟨w, found, read⟩ := bind_eq_ok.mp read
  obtain ⟨len, decoded, read⟩ := bind_eq_ok.mp read
  split at read
  · simp [throw, throwThe, MonadExceptOf.throw, bind, Except.bind] at read
  rename_i machineLength
  split at read
  · simp [throw, throwThe, MonadExceptOf.throw, bind, Except.bind] at read
  rw [List.range_eq_range'] at read
  obtain ⟨counted, each⟩ := of_mapM_range'_eq_ok read
  rw [eq_word_of_decodeUint (length_of_wordAt_eq_ok found) decoded, ← counted] at found
  refine ⟨by omega, found, fun j h => ?_⟩
  obtain ⟨w', found', decoded'⟩ := bind_eq_ok.mp (each j h)
  rw [Nat.zero_add] at found'
  rwa [eq_word_of_decodeAddress (length_of_wordAt_eq_ok found') decoded'] at found'

theorem chunk_of_bytes32_eq_ok {index : Nat} {d : Digest} (read : r.bytes32 index = .ok d) :
    wordBytes * index + wordBytes ≤ r.data.length ∧
      (r.data.drop (wordBytes * index)).take wordBytes = word d.val := by
  obtain ⟨w, found, decoded⟩ := of_readWord_eq_ok read
  cases decoded
  obtain ⟨inside, rfl⟩ := of_wordAt_eq_ok found
  exact ⟨inside, eq_word_ofNat (length_of_wordAt_eq_ok found)⟩

end Reader

/-! ### Slicing whole words out of byte strings -/

theorem chunk_append_left {l₁ l₂ : List UInt8} {offset : Nat}
    (inside : offset + wordBytes ≤ l₁.length) :
    ((l₁ ++ l₂).drop offset).take wordBytes = (l₁.drop offset).take wordBytes := by
  rw [List.drop_append_of_le_length (by omega), List.take_append_of_le_length (by simp; omega)]

theorem chunk_append_right (l₁ l₂ : List UInt8) (offset : Nat) :
    ((l₁ ++ l₂).drop (l₁.length + offset)).take wordBytes = (l₂.drop offset).take wordBytes := by
  rw [List.drop_append, List.drop_eq_nil_of_le (by omega), List.nil_append, Nat.add_sub_cancel_left]

theorem chunk_flatMap {α : Type} (f : α → List UInt8) (sized : ∀ x, (f x).length = wordBytes) :
    ∀ (xs : List α) (rest : List UInt8) (j : Nat) (h : j < xs.length),
      ((xs.flatMap f ++ rest).drop (wordBytes * j)).take wordBytes = f xs[j]
  | [], _, _, h => absurd h (Nat.not_lt_zero _)
  | x :: others, rest, 0, _ => by
    simp [List.take_append_of_le_length (le_of_eq (sized x).symm), List.take_of_length_le,
      le_of_eq (sized x)]
  | x :: others, rest, j + 1, h => by
    have skip := chunk_append_right (f x) (others.flatMap f ++ rest) (wordBytes * j)
    rw [sized x] at skip
    rw [List.flatMap_cons, List.append_assoc, show wordBytes * (j + 1) = wordBytes + wordBytes * j by ring,
      skip]
    exact chunk_flatMap f sized others rest j (by simpa using h)

theorem eq_of_chunks_eq : ∀ (m : Nat) {l₁ l₂ : List UInt8}, l₁.length = wordBytes * m →
    l₂.length = wordBytes * m →
    (∀ j < m, (l₁.drop (wordBytes * j)).take wordBytes = (l₂.drop (wordBytes * j)).take wordBytes) →
    l₁ = l₂
  | 0, l₁, l₂, length₁, length₂, _ => by
    rw [List.eq_nil_of_length_eq_zero length₁, List.eq_nil_of_length_eq_zero length₂]
  | m + 1, l₁, l₂, length₁, length₂, same => by
    have first : l₁.take wordBytes = l₂.take wordBytes := by simpa using same 0 (by omega)
    have rest : l₁.drop wordBytes = l₂.drop wordBytes := by
      refine eq_of_chunks_eq m (by simp [length₁]; ring_nf; omega) (by simp [length₂]; ring_nf; omega)
        fun j hj => ?_
      have later := same (j + 1) (by omega)
      rw [List.drop_drop, List.drop_drop]
      rwa [show wordBytes * (j + 1) = wordBytes + wordBytes * j by ring] at later
    rw [← List.take_append_drop wordBytes l₁, ← List.take_append_drop wordBytes l₂, first, rest]

@[simp]
theorem length_flatMap_word (ns : List Nat) : (ns.flatMap word).length = wordBytes * ns.length := by
  simp [List.length_flatMap, Nat.mul_comm]

theorem eq_flatMap_word_of_chunks (ns : List Nat) {l : List UInt8}
    (whole : l.length = wordBytes * ns.length)
    (chunks : ∀ j (h : j < ns.length), (l.drop (wordBytes * j)).take wordBytes = word ns[j]) :
    l = ns.flatMap word := by
  refine eq_of_chunks_eq ns.length whole (length_flatMap_word ns) fun j hj => ?_
  rw [chunks j hj, ← List.append_nil (ns.flatMap word), chunk_flatMap word length_word ns [] j hj]

/-! ### The layout of a tuple -/

namespace AbiValue

/-- The bytes a value adds after the head: an address list's length word and one word per
address; nothing for a static value. -/
def tail : AbiValue → List UInt8
  | .addressArray items => word items.length ++ items.flatMap fun a => word a.val
  | _ => []

/-- The length of a value's tail: for an address list, a word for its length and one per
address. -/
def tailLength : AbiValue → Nat
  | .addressArray items => wordBytes * (1 + items.length)
  | _ => 0

def headWord (offset : Nat) : AbiValue → List UInt8
  | .uint v => word v
  | .address a => word a.val
  | .bytes32 d => word d.val
  | .addressArray _ => word offset

@[simp]
theorem length_tail (v : AbiValue) : v.tail.length = v.tailLength := by
  cases v <;> simp [tail, tailLength, List.length_flatMap, wordBytes]; ring

@[simp]
theorem length_headWord (offset : Nat) (v : AbiValue) : (v.headWord offset).length = wordBytes := by
  cases v <;> simp [headWord]

end AbiValue

/-- The head words of values whose first tail starts `before` bytes after a head of `headLen`
bytes. -/
def heads (headLen : Nat) (before : Nat) : List AbiValue → List UInt8
  | [] => []
  | v :: rest => v.headWord (headLen + before) ++ heads headLen (before + v.tailLength) rest

@[simp]
theorem length_heads (headLen : Nat) : ∀ (before : Nat) (vs : List AbiValue),
    (heads headLen before vs).length = wordBytes * vs.length
  | _, [] => rfl
  | before, v :: rest => by
    simp [heads, length_heads headLen (before + v.tailLength) rest]
    ring

theorem encodeFrom_eq (headLen : Nat) : ∀ (vs : List AbiValue) (tail : List UInt8),
    encodeFrom headLen vs tail = (heads headLen tail.length vs, tail ++ vs.flatMap AbiValue.tail)
  | [], tail => by simp [encodeFrom, heads]
  | v :: rest, tail => by
    cases v with
    | uint n => simp [encodeFrom, heads, encodeFrom_eq headLen rest tail, AbiValue.headWord,
        AbiValue.tail, AbiValue.tailLength]
    | address a => simp [encodeFrom, heads, encodeFrom_eq headLen rest tail, AbiValue.headWord,
        AbiValue.tail, AbiValue.tailLength]
    | bytes32 d => simp [encodeFrom, heads, encodeFrom_eq headLen rest tail, AbiValue.headWord,
        AbiValue.tail, AbiValue.tailLength]
    | addressArray items =>
      have tailLength := AbiValue.length_tail (.addressArray items)
      simp only [AbiValue.tail] at tailLength
      simp [encodeFrom, heads, encodeFrom_eq headLen rest, AbiValue.headWord, AbiValue.tail,
        tailLength]

theorem length_flatMap_tail (vs : List AbiValue) :
    (vs.flatMap AbiValue.tail).length = (vs.map AbiValue.tailLength).sum := by
  simp [List.length_flatMap]

theorem encode_eq (vs : List AbiValue) :
    encode vs = heads (wordBytes * vs.length) 0 vs ++ vs.flatMap AbiValue.tail := by
  simp [encode, encodeFrom_eq]

theorem length_encode (vs : List AbiValue) :
    (encode vs).length = wordBytes * vs.length + (vs.map AbiValue.tailLength).sum := by
  simp [encode_eq]

theorem chunk_heads (headLen : Nat) : ∀ (before : Nat) (vs : List AbiValue) (i : Nat)
    (h : i < vs.length),
    ((heads headLen before vs).drop (wordBytes * i)).take wordBytes =
      vs[i].headWord (headLen + before + ((vs.take i).map AbiValue.tailLength).sum)
  | _, [], _, h => absurd h (Nat.not_lt_zero _)
  | before, v :: rest, 0, _ => by
    simp [heads]
  | before, v :: rest, i + 1, h => by
    have skip := chunk_append_right (v.headWord (headLen + before))
      (heads headLen (before + v.tailLength) rest) (wordBytes * i)
    rw [AbiValue.length_headWord] at skip
    rw [heads, show wordBytes * (i + 1) = wordBytes + wordBytes * i by ring, skip,
      chunk_heads headLen (before + v.tailLength) rest i (by simpa using h)]
    simp [Nat.add_assoc]

theorem flatMap_tail_split (vs : List AbiValue) (i : Nat) (h : i < vs.length) :
    vs.flatMap AbiValue.tail =
      (vs.take i).flatMap AbiValue.tail ++ (vs[i].tail ++ (vs.drop (i + 1)).flatMap AbiValue.tail) := by
  nth_rewrite 1 [← List.take_append_drop i vs]
  rw [List.drop_eq_getElem_cons h, List.flatMap_append, List.flatMap_cons]

/-! ### Reading a payload back -/

section ReadBack

variable {vs : List AbiValue}

def tailOffset (vs : List AbiValue) (i : Nat) : Nat :=
  wordBytes * vs.length + ((vs.take i).map AbiValue.tailLength).sum

theorem drop_encode_tailOffset {i : Nat} (h : i < vs.length) :
    (encode vs).drop (tailOffset vs i) =
      vs[i].tail ++ (vs.drop (i + 1)).flatMap AbiValue.tail := by
  have before : (heads (wordBytes * vs.length) 0 vs ++ (vs.take i).flatMap AbiValue.tail).length =
      tailOffset vs i := by
    simp [tailOffset]
  rw [encode_eq, flatMap_tail_split vs i h, ← List.append_assoc, ← before, List.drop_left]

theorem tailOffset_add_le_length {i : Nat} (h : i < vs.length) :
    tailOffset vs i + vs[i].tailLength ≤ (encode vs).length := by
  have whole := congrArg List.length (encode_eq vs)
  rw [flatMap_tail_split vs i h] at whole
  simp only [List.length_append, length_heads, AbiValue.length_tail, length_flatMap_tail] at whole
  simp only [tailOffset]
  omega

theorem length_le_length_encode : wordBytes * vs.length ≤ (encode vs).length := by
  rw [length_encode]
  omega

theorem chunk_encode_head {i : Nat} (h : i < vs.length) :
    ((encode vs).drop (wordBytes * i)).take wordBytes = vs[i].headWord (tailOffset vs i) := by
  have inside : wordBytes * i + wordBytes ≤ (heads (wordBytes * vs.length) 0 vs).length := by
    simp only [length_heads, wordBytes]
    omega
  rw [encode_eq, chunk_append_left inside, chunk_heads _ _ _ _ h, Nat.add_zero, tailOffset]

theorem wordAt_encode_head (machine : (encode vs).length < offsetBound) {i : Nat}
    (h : i < vs.length) :
    wordOffset i = .ok (wordBytes * i) ∧
      (Reader.mk (encode vs)).wordAt (wordBytes * i) = .ok (vs[i].headWord (tailOffset vs i)) := by
  have inside : wordBytes * i + wordBytes ≤ (encode vs).length := by
    have : wordBytes * vs.length ≤ (encode vs).length := length_le_length_encode
    simp only [wordBytes] at this ⊢
    omega
  rw [wordOffset_of_lt (by omega), Reader.wordAt_eq_ok inside (by omega), chunk_encode_head h]
  exact ⟨rfl, rfl⟩

theorem uint_encode (machine : (encode vs).length < offsetBound) {i v : Nat}
    (fits : v < Nat.pow 2 128) (found : vs[i]? = some (.uint v)) :
    (Reader.mk (encode vs)).uint i = .ok v := by
  obtain ⟨h, stored⟩ := List.getElem?_eq_some_iff.mp found
  obtain ⟨offset, head⟩ := wordAt_encode_head machine h
  simp [Reader.uint, offset, head, stored, AbiValue.headWord, decodeUint_word fits, bind, Except.bind]

theorem address_encode (machine : (encode vs).length < offsetBound) {i : Nat} {a : Address}
    (found : vs[i]? = some (.address a)) : (Reader.mk (encode vs)).address i = .ok a := by
  obtain ⟨h, stored⟩ := List.getElem?_eq_some_iff.mp found
  obtain ⟨offset, head⟩ := wordAt_encode_head machine h
  simp [Reader.address, offset, head, stored, AbiValue.headWord, decodeAddress_word, bind,
    Except.bind]

theorem bytes32_encode (machine : (encode vs).length < offsetBound) {i : Nat} {d : Digest}
    (found : vs[i]? = some (.bytes32 d)) : (Reader.mk (encode vs)).bytes32 i = .ok d := by
  obtain ⟨h, stored⟩ := List.getElem?_eq_some_iff.mp found
  obtain ⟨offset, head⟩ := wordAt_encode_head machine h
  simp [Reader.bytes32, offset, head, stored, AbiValue.headWord, ofNat_word, bind, Except.bind, pure,
    Except.pure]

theorem uint_encode_of_addressArray (machine : (encode vs).length < offsetBound) {i : Nat}
    {items : List Address} (found : vs[i]? = some (.addressArray items)) :
    (Reader.mk (encode vs)).uint i = .ok (tailOffset vs i) := by
  obtain ⟨h, stored⟩ := List.getElem?_eq_some_iff.mp found
  have small : tailOffset vs i < Nat.pow 2 128 := by
    have := tailOffset_add_le_length h
    simp only [offsetBound] at machine
    have : Nat.pow 2 64 < Nat.pow 2 128 := by decide
    omega
  obtain ⟨offset, head⟩ := wordAt_encode_head machine h
  simp [Reader.uint, offset, head, stored, AbiValue.headWord, decodeUint_word small, bind, Except.bind]

section AddressList

variable {i : Nat} {items : List Address} (found : vs[i]? = some (.addressArray items))
include found

theorem tailOffset_add_le_of_addressArray :
    tailOffset vs i + wordBytes * (1 + items.length) ≤ (encode vs).length := by
  obtain ⟨h, stored⟩ := List.getElem?_eq_some_iff.mp found
  have total := tailOffset_add_le_length h
  rwa [stored] at total

theorem drop_encode_of_addressArray :
    (encode vs).drop (tailOffset vs i) =
      word items.length ++ (items.flatMap (fun a => word a.val) ++
        (vs.drop (i + 1)).flatMap AbiValue.tail) := by
  obtain ⟨h, stored⟩ := List.getElem?_eq_some_iff.mp found
  have tail := drop_encode_tailOffset h
  rw [stored] at tail
  simpa only [AbiValue.tail, List.append_assoc] using tail

variable (machine : (encode vs).length < offsetBound)
include machine

theorem wordAt_encode_lengthWord :
    (Reader.mk (encode vs)).wordAt (tailOffset vs i) = .ok (word items.length) := by
  have total := tailOffset_add_le_of_addressArray found
  rw [Reader.wordAt_eq_ok (by simp only [wordBytes] at total ⊢; omega)
      (by simp only [wordBytes] at total ⊢; omega),
    drop_encode_of_addressArray found, List.take_append_of_le_length (by simp),
    List.take_of_length_le (by simp)]

theorem wordAt_encode_item (j : Nat) (hj : j < items.length) :
    (Reader.mk (encode vs)).wordAt (tailOffset vs i + wordBytes * (j + 1)) =
      .ok (word items[j].val) := by
  have total := tailOffset_add_le_of_addressArray found
  have inside : tailOffset vs i + wordBytes * (j + 1) + wordBytes ≤ (encode vs).length := by
    simp only [wordBytes] at total ⊢
    omega
  have shift : wordBytes * (j + 1) = (word items.length).length + wordBytes * j := by
    rw [length_word]
    ring
  have machineItem : tailOffset vs i + wordBytes * (j + 1) + wordBytes < offsetBound := by omega
  rw [Reader.wordAt_eq_ok inside machineItem, ← List.drop_drop, drop_encode_of_addressArray found,
    shift, chunk_append_right,
    chunk_flatMap (fun a : Address => word a.val) (fun a : Address => length_word a.val) items _ j hj]

theorem addressArray_encode : (Reader.mk (encode vs)).addressArray i = .ok items := by
  have total := tailOffset_add_le_of_addressArray found
  have short : items.length ≤ ((encode vs).length - (tailOffset vs i + wordBytes)) / wordBytes := by
    simp only [wordBytes] at total ⊢
    omega
  have machineOffset : ¬ tailOffset vs i ≥ offsetBound := by omega
  have machineLength : ¬ items.length ≥ offsetBound := by simp only [wordBytes] at total; omega
  have lengthSmall : items.length < Nat.pow 2 128 := by
    have : offsetBound < Nat.pow 2 128 := by decide
    omega
  unfold Reader.addressArray
  simp only [uint_encode_of_addressArray machine found, wordAt_encode_lengthWord found machine,
    decodeUint_word lengthSmall, bind, Except.bind, machineOffset, machineLength, if_false,
    not_lt.mpr short]
  rw [List.range_eq_range']
  exact mapM_range'_eq_ok fun j hj => by
    simp [wordAt_encode_item found machine j hj, decodeAddress_word]

end AddressList

theorem expectWords_encode (machine : (encode vs).length < offsetBound) :
    (Reader.mk (encode vs)).expectWords vs.length = .ok () := by
  have fits : wordBytes * vs.length ≤ (encode vs).length := length_le_length_encode
  simp [Reader.expectWords, wordOffset_of_lt (Nat.lt_of_le_of_lt fits machine), fits, bind,
    Except.bind]

end ReadBack

/-- Every tuple reads back. The payload has one word per value plus, for each address list, a
length word and a word per address; its head is complete; and at each index the accessor of the
value's variant gives the value. Integers are below 2^128 and the payload is shorter than the
largest machine offset, as for every tuple a payload can carry. -/
theorem encode_readBack (vs : List AbiValue) (fits : ∀ v, AbiValue.uint v ∈ vs → v < Nat.pow 2 128)
    (machine : (encode vs).length < offsetBound) :
    (encode vs).length = wordBytes * vs.length + (vs.map AbiValue.tailLength).sum ∧
      (Reader.mk (encode vs)).expectWords vs.length = .ok () ∧
      ∀ i, (∀ v, vs[i]? = some (.uint v) → (Reader.mk (encode vs)).uint i = .ok v) ∧
        (∀ a, vs[i]? = some (.address a) → (Reader.mk (encode vs)).address i = .ok a) ∧
        (∀ d, vs[i]? = some (.bytes32 d) → (Reader.mk (encode vs)).bytes32 i = .ok d) ∧
        (∀ items, vs[i]? = some (.addressArray items) →
          (Reader.mk (encode vs)).addressArray i = .ok items) := by
  refine ⟨length_encode vs, expectWords_encode machine, fun i => ⟨fun v found => ?_,
    fun a found => address_encode machine found, fun d found => bytes32_encode machine found,
    fun items found => addressArray_encode found machine⟩⟩
  exact uint_encode machine (fits v (List.mem_of_getElem? found)) found

/-- The tuple of a two-signer multisig criterion reads back. -/
theorem encode_readBack_multisigTuple :
    let vs := [AbiValue.uint 2, .addressArray [Address.ofNat 1, Address.ofNat 2],
      .bytes32 (Digest.ofNat 9), .uint 1]
    (∀ v, AbiValue.uint v ∈ vs → v < Nat.pow 2 128) ∧ (encode vs).length < offsetBound ∧
      ((encode vs).length = wordBytes * vs.length + (vs.map AbiValue.tailLength).sum ∧
      (Reader.mk (encode vs)).expectWords vs.length = .ok () ∧
      ∀ i, (∀ v, vs[i]? = some (.uint v) → (Reader.mk (encode vs)).uint i = .ok v) ∧
        (∀ a, vs[i]? = some (.address a) → (Reader.mk (encode vs)).address i = .ok a) ∧
        (∀ d, vs[i]? = some (.bytes32 d) → (Reader.mk (encode vs)).bytes32 i = .ok d) ∧
        (∀ items, vs[i]? = some (.addressArray items) →
          (Reader.mk (encode vs)).addressArray i = .ok items)) := by
  intro vs
  have fits : ∀ v, AbiValue.uint v ∈ vs → v < Nat.pow 2 128 := by
    intro v member
    simp only [vs, List.mem_cons, AbiValue.uint.injEq, reduceCtorEq, List.not_mem_nil, or_false,
      false_or] at member
    rcases member with rfl | rfl <;> decide
  have machine : (encode vs).length < offsetBound := by
    rw [length_encode]
    decide
  exact ⟨fits, machine, encode_readBack vs fits machine⟩

end Escrow.Abi
