import Escrow.Proofs.Abi.Layout

/-! Where a payload reader reads, and where it panics.

Every word a read takes is the 32 bytes at its offset, inside the payload, and the offset's end
is a machine offset: `wordAt` checks both, so no decoder is ever handed a short slice. An
accessor reads word `index` at the byte offset `32 · index` and `expectWords` compares the
payload with `32 · count` bytes. Both products are unchecked machine products, which panic from
2^64 on; only the addition after them is checked. So the reader keeps to its words at every
index: an accessor succeeds only on the whole word it names, and `expectWords` compares with the
true byte count. But it does panic, exactly where the product overflows and nowhere else
(`reader_stays_in_words`), first at index and count 2^59 (`reader_panics_at_two_pow_59`). An
address list is bounded by the words after its offset, whatever index its head word was read at.
-/

set_option autoImplicit false

namespace Escrow.Abi

open Escrow.Text

namespace Reader

variable {r : Reader}

theorem wordAt_eq_ok_iff {offset : Nat} {w : List UInt8} :
    r.wordAt offset = .ok w ↔
      offset + wordBytes < offsetBound ∧ offset + wordBytes ≤ r.data.length ∧
        w = (r.data.drop offset).take wordBytes := by
  unfold wordAt
  constructor
  · intro read
    split at read
    · cases read
    split at read
    · cases read
      exact ⟨by omega, ‹_›, rfl⟩
    · cases read
  · rintro ⟨machine, inside, rfl⟩
    rw [if_neg (Nat.not_le.mpr machine), if_pos inside]

theorem expectWords_eq_ok_iff (count : Nat) :
    r.expectWords count = .ok () ↔
      wordBytes * count < offsetBound ∧ wordBytes * count ≤ r.data.length := by
  unfold expectWords
  by_cases small : wordBytes * count < offsetBound
  · rw [wordOffset_of_lt small]
    simp only [bind, Except.bind]
    split
    · simp only [reduceCtorEq, false_iff, not_and, Nat.not_le]
      exact fun _ => ‹_›
    · simp only [true_iff]
      omega
  · rw [wordOffset_of_le (Nat.le_of_not_lt small)]
    simp only [bind, Except.bind, reduceCtorEq, false_iff]
    exact fun fits => small fits.1

/-! ### Panics

The reader's own faults are never the panic; it comes from the products alone. -/

theorem wordAt_ne_multiplyOverflow (offset : Nat) : r.wordAt offset ≠ .error .multiplyOverflow := by
  unfold wordAt
  split
  · simp
  split <;> simp

theorem decodeUint_ne_multiplyOverflow (w : List UInt8) : decodeUint w ≠ .error .multiplyOverflow := by
  unfold decodeUint
  split <;> simp

theorem decodeAddress_ne_multiplyOverflow (w : List UInt8) :
    decodeAddress w ≠ .error .multiplyOverflow := by
  unfold decodeAddress
  split <;> simp

theorem bind_ne_multiplyOverflow {α β : Type} {x : Except AbiFault α} {f : α → Except AbiFault β}
    (first : x ≠ .error .multiplyOverflow) (next : ∀ a, f a ≠ .error .multiplyOverflow) :
    (x >>= f) ≠ .error .multiplyOverflow := by
  cases x with
  | error e => simpa [bind, Except.bind] using first
  | ok a => exact next a

theorem mapM_ne_multiplyOverflow {α β : Type} {f : α → Except AbiFault β}
    (each : ∀ a, f a ≠ .error .multiplyOverflow) :
    ∀ xs : List α, xs.mapM f ≠ .error .multiplyOverflow
  | [] => by simp [List.mapM_nil, pure, Except.pure]
  | x :: rest => by
    rw [List.mapM_cons]
    exact bind_ne_multiplyOverflow (each x) fun _ =>
      bind_ne_multiplyOverflow (mapM_ne_multiplyOverflow each rest) fun _ => by
        simp [pure, Except.pure]

theorem throw_bind_ne_multiplyOverflow {α β : Type} {e : AbiFault} (f : α → Except AbiFault β)
    (differ : e ≠ .multiplyOverflow) : (throw e >>= f) ≠ .error .multiplyOverflow :=
  fun same => differ (Except.error.inj same)

theorem bind_eq_multiplyOverflow_iff {α β : Type} {x : Except AbiFault α} {f : α → Except AbiFault β}
    (calm : ∀ a, f a ≠ .error .multiplyOverflow) :
    (x >>= f) = .error .multiplyOverflow ↔ x = .error .multiplyOverflow := by
  cases x with
  | error e => simp [bind, Except.bind]
  | ok a => simpa [bind, Except.bind] using calm a

theorem wordOffset_eq_multiplyOverflow_iff (n : Nat) :
    wordOffset n = .error .multiplyOverflow ↔ offsetBound ≤ wordBytes * n := by
  by_cases small : wordBytes * n < offsetBound
  · simp [wordOffset_of_lt small, small]
  · simp [wordOffset_of_le (Nat.le_of_not_lt small), Nat.le_of_not_lt small]

theorem readWord_eq_multiplyOverflow_iff {α : Type} (index : Nat) {decode : List UInt8 → Except AbiFault α}
    (decodes : ∀ w, decode w ≠ .error .multiplyOverflow) :
    (do decode (← r.wordAt (← wordOffset index))) = Except.error .multiplyOverflow ↔
      offsetBound ≤ wordBytes * index := by
  rw [bind_eq_multiplyOverflow_iff fun offset =>
    bind_ne_multiplyOverflow (wordAt_ne_multiplyOverflow offset) decodes]
  exact wordOffset_eq_multiplyOverflow_iff index

theorem expectWords_eq_multiplyOverflow_iff (count : Nat) :
    r.expectWords count = .error .multiplyOverflow ↔ offsetBound ≤ wordBytes * count := by
  unfold expectWords
  rw [bind_eq_multiplyOverflow_iff fun bytes => by split <;> simp]
  exact wordOffset_eq_multiplyOverflow_iff count

theorem addressArray_eq_multiplyOverflow_iff (index : Nat) :
    r.addressArray index = .error .multiplyOverflow ↔ offsetBound ≤ wordBytes * index := by
  unfold addressArray
  rw [bind_eq_multiplyOverflow_iff fun offset => ?_]
  · exact readWord_eq_multiplyOverflow_iff index decodeUint_ne_multiplyOverflow
  -- past the head word, each step throws a checked fault or reads a word
  dsimp only
  split
  · exact throw_bind_ne_multiplyOverflow _ AbiFault.noConfusion
  refine bind_ne_multiplyOverflow (wordAt_ne_multiplyOverflow offset) fun w => ?_
  refine bind_ne_multiplyOverflow (decodeUint_ne_multiplyOverflow w) fun len => ?_
  split
  · exact throw_bind_ne_multiplyOverflow _ AbiFault.noConfusion
  split
  · exact throw_bind_ne_multiplyOverflow _ AbiFault.noConfusion
  exact mapM_ne_multiplyOverflow (fun i => bind_ne_multiplyOverflow
    (wordAt_ne_multiplyOverflow _) decodeAddress_ne_multiplyOverflow) _

theorem length_le_of_addressArray_eq_ok {index : Nat} {items : List Address}
    (read : r.addressArray index = .ok items) :
    ∃ offset, r.uint index = .ok offset ∧
      items.length ≤ (r.data.length - (offset + wordBytes)) / wordBytes := by
  obtain ⟨offset, located, -, counted, each⟩ := of_addressArray_eq_ok read
  refine ⟨offset, located, ?_⟩
  have lengthWord := (wordAt_eq_ok_iff.mp counted).2.1
  -- the last address word is inside the payload, and so are all before it
  rcases Nat.eq_zero_or_pos items.length with empty | nonempty
  · rw [empty]
    exact Nat.zero_le _
  have last := (wordAt_eq_ok_iff.mp (each (items.length - 1) (by omega))).2.1
  have through : offset + wordBytes * items.length + wordBytes ≤ r.data.length := by
    rwa [Nat.sub_add_cancel nonempty] at last
  rw [Nat.le_div_iff_mul_le (by decide)]
  simp only [wordBytes] at through ⊢
  omega

end Reader

/-- What a payload reader reads, and where it panics. The head check passes exactly when the
byte count `32 · count` is a machine offset the payload holds. An integer, address or raw word read
at `index` succeeds only when word `index` lies wholly inside the payload, and then gives what
bytes `[32 · index, 32 · index + 32)` encode. An address list has at most as many addresses as
whole words follow its length word. Every word handed to a decoder is the 32 bytes at its offset
inside the payload. The head check and every accessor panic exactly when their product `32 · n`
reaches 2^64, and at no other input. -/
theorem reader_stays_in_words (data : List UInt8) :
    (∀ count, (Reader.mk data).expectWords count = .ok () ↔
      wordBytes * count < offsetBound ∧ wordBytes * count ≤ data.length) ∧
    (∀ index,
      (∀ v, (Reader.mk data).uint index = .ok v →
        wordBytes * (index + 1) ≤ data.length ∧
          (data.drop (wordBytes * index)).take wordBytes = word v) ∧
      (∀ a, (Reader.mk data).address index = .ok a →
        wordBytes * (index + 1) ≤ data.length ∧
          (data.drop (wordBytes * index)).take wordBytes = word a.val) ∧
      (∀ d, (Reader.mk data).bytes32 index = .ok d →
        wordBytes * (index + 1) ≤ data.length ∧
          (data.drop (wordBytes * index)).take wordBytes = word d.val)) ∧
    (∀ index items, (Reader.mk data).addressArray index = .ok items →
      ∃ offset, (Reader.mk data).uint index = .ok offset ∧
        items.length ≤ (data.length - (offset + wordBytes)) / wordBytes) ∧
    (∀ offset w, (Reader.mk data).wordAt offset = .ok w →
      offset + wordBytes < offsetBound ∧ offset + wordBytes ≤ data.length ∧
        w = (data.drop offset).take wordBytes ∧ w.length = wordBytes) ∧
    (∀ count, (Reader.mk data).expectWords count = .error .multiplyOverflow ↔
      offsetBound ≤ wordBytes * count) ∧
    (∀ index,
      ((Reader.mk data).uint index = .error .multiplyOverflow ↔ offsetBound ≤ wordBytes * index) ∧
      ((Reader.mk data).address index = .error .multiplyOverflow ↔
        offsetBound ≤ wordBytes * index) ∧
      ((Reader.mk data).bytes32 index = .error .multiplyOverflow ↔
        offsetBound ≤ wordBytes * index) ∧
      ((Reader.mk data).addressArray index = .error .multiplyOverflow ↔
        offsetBound ≤ wordBytes * index)) := by
  refine ⟨Reader.expectWords_eq_ok_iff,
    fun index => ⟨fun v read => ?_, fun a read => ?_, fun d read => ?_⟩,
    fun index items read => Reader.length_le_of_addressArray_eq_ok read,
    fun offset w read => ?_, Reader.expectWords_eq_multiplyOverflow_iff,
    fun index => ⟨?_, ?_, ?_, Reader.addressArray_eq_multiplyOverflow_iff index⟩⟩
  · obtain ⟨inside, chunk⟩ := Reader.chunk_of_uint_eq_ok read
    exact ⟨by rw [Nat.mul_succ]; exact inside, chunk⟩
  · obtain ⟨inside, chunk⟩ := Reader.chunk_of_address_eq_ok read
    exact ⟨by rw [Nat.mul_succ]; exact inside, chunk⟩
  · obtain ⟨inside, chunk⟩ := Reader.chunk_of_bytes32_eq_ok read
    exact ⟨by rw [Nat.mul_succ]; exact inside, chunk⟩
  · obtain ⟨machine, inside, rfl⟩ := Reader.wordAt_eq_ok_iff.mp read
    exact ⟨machine, inside, rfl, Reader.length_of_wordAt_eq_ok read⟩
  · exact Reader.readWord_eq_multiplyOverflow_iff index Reader.decodeUint_ne_multiplyOverflow
  · exact Reader.readWord_eq_multiplyOverflow_iff index Reader.decodeAddress_ne_multiplyOverflow
  · exact Reader.readWord_eq_multiplyOverflow_iff index fun w => by simp [pure, Except.pure]

/-- At word index and count 2^59 the byte offset `32 · n` is 2^64: on a payload of two words the
head check for 2^59 words and an integer read at index 2^59 both panic, where the words are
merely missing. -/
theorem reader_panics_at_two_pow_59 :
    (Reader.mk (word 5 ++ word 7)).expectWords (Nat.pow 2 59) = .error .multiplyOverflow ∧
      (Reader.mk (word 5 ++ word 7)).uint (Nat.pow 2 59) = .error .multiplyOverflow :=
  ⟨rfl, rfl⟩

end Escrow.Abi
