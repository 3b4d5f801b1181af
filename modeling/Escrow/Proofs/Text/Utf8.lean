import Mathlib.Data.List.Basic

/-! The bytes of a text, and the texts whose characters are ASCII.

Readers of hexadecimal and JSON text work on a text's UTF-8 bytes. The bytes of a text are the
encodings of its characters one after another (`toList_toUTF8`), and decoding a text's bytes gives
the text back (`fromUTF8?_toUTF8`). An ASCII character is the single byte of its code; every byte
of a wider character has its high bit set, and the first one too. So a text whose bytes are all
below 128 is ASCII, and its bytes are its characters' codes (`ascii_of_flatMap_utf8EncodeChar`,
`flatMap_utf8EncodeChar_of_ascii`).
-/

set_option autoImplicit false

namespace Escrow.Text

theorem byteArray_toList (bytes : ByteArray) : bytes.toList = bytes.data.toList := by
  have size : bytes.size = bytes.data.toList.length := by rw [Array.length_toList]; rfl
  -- the loop has reversed the bytes before `index` onto `taken`
  have loop : ∀ index taken, index ≤ bytes.size →
      ByteArray.toList.loop bytes index taken = taken.reverse ++ bytes.data.toList.drop index := by
    intro index taken
    induction index, taken using ByteArray.toList.loop.induct bytes with
    | case1 index taken inside ih =>
      intro _
      rw [ByteArray.toList.loop.eq_1, if_pos inside, ih inside]
      rw [size] at inside
      have get : bytes.get! index = bytes.data.toList[index] := by
        cases bytes with
        | mk data =>
          simp only [ByteArray.get!, Array.getElem_toList]
          exact getElem!_pos data index (by simpa using inside)
      rw [List.drop_eq_getElem_cons inside, get]
      simp
    | case2 index taken outside =>
      intro _
      rw [ByteArray.toList.loop.eq_1, if_neg outside, List.drop_eq_nil_of_le (by omega)]
      simp
  exact (loop 0 [] (Nat.zero_le _)).trans (by simp)

theorem toList_toUTF8 (s : String) : s.toUTF8.toList = s.toList.flatMap String.utf8EncodeChar := by
  rw [byteArray_toList, String.toUTF8_eq_toByteArray, ← String.utf8Encode_toList,
    List.utf8Encode, List.toList_data_toByteArray]

theorem fromUTF8?_toUTF8 (s : String) :
    String.fromUTF8? (ByteArray.mk s.toUTF8.toList.toArray) = some s := by
  have bytes : ByteArray.mk s.toUTF8.toList.toArray = s.toByteArray := by
    apply ByteArray.ext
    rw [byteArray_toList, String.toUTF8_eq_toByteArray, Array.toArray_toList]
  rw [bytes, String.fromUTF8?, dif_pos s.isValidUTF8]
  rfl

theorem utf8EncodeChar_of_ascii {c : Char} (ascii : c.toNat < 128) :
    String.utf8EncodeChar c = [c.val.toUInt8] := by
  refine String.utf8EncodeChar_eq_singleton (Char.utf8Size_eq_one_iff.mpr ?_)
  rw [UInt32.le_iff_toNat_le]
  exact Nat.le_of_lt_succ ascii

theorem high_of_utf8EncodeChar {c : Char} (wide : 128 ≤ c.toNat) :
    ∀ b ∈ (String.utf8EncodeChar c).head?, 128 ≤ b.toNat := by
  have notOne : c.utf8Size ≠ 1 := fun one => by
    have narrow := Char.utf8Size_eq_one_iff.mp one
    rw [UInt32.le_iff_toNat_le] at narrow
    have same : c.toNat = c.val.toNat := rfl
    have bound : (127 : UInt32).toNat = 127 := rfl
    omega
  have pos := Char.utf8Size_pos c
  have le := Char.utf8Size_le_four c
  -- the first byte of a two-, three- or four-byte encoding is or-ed with a marker above 127
  have marked : ∀ x m : UInt8, 128 ≤ m.toNat → 128 ≤ (x ||| m).toNat := fun x m high => by
    rw [UInt8.toNat_or]
    exact Nat.le_trans high Nat.right_le_or
  intro b first
  rcases (by omega : c.utf8Size = 2 ∨ c.utf8Size = 3 ∨ c.utf8Size = 4) with two | three | four
  · rw [String.utf8EncodeChar_eq_cons_cons two] at first
    cases first
    exact marked _ _ (by decide)
  · rw [String.utf8EncodeChar_eq_cons_cons_cons three] at first
    cases first
    exact marked _ _ (by decide)
  · rw [String.utf8EncodeChar_eq_cons_cons_cons_cons four] at first
    cases first
    exact marked _ _ (by decide)

theorem toNat_toUInt8_of_ascii {c : Char} (ascii : c.toNat < 128) : c.val.toUInt8.toNat = c.toNat := by
  rw [UInt32.toNat_toUInt8]
  exact Nat.mod_eq_of_lt (Nat.lt_trans ascii (by decide))

theorem eq_of_toUInt8_eq {c d : Char} (asciiC : c.toNat < 128) (asciiD : d.toNat < 128)
    (same : c.val.toUInt8 = d.val.toUInt8) : c = d := by
  have codes := congrArg UInt8.toNat same
  rw [toNat_toUInt8_of_ascii asciiC, toNat_toUInt8_of_ascii asciiD] at codes
  exact Char.ext (UInt32.toNat_inj.mp codes)

theorem flatMap_utf8EncodeChar_of_ascii {cs : List Char} (ascii : ∀ c ∈ cs, c.toNat < 128) :
    cs.flatMap String.utf8EncodeChar = cs.map (·.val.toUInt8) := by
  induction cs with
  | nil => rfl
  | cons c rest ih =>
    rw [List.flatMap_cons, utf8EncodeChar_of_ascii (ascii c List.mem_cons_self),
      ih fun d member => ascii d (List.mem_cons_of_mem c member)]
    rfl

theorem ascii_of_flatMap_utf8EncodeChar {cs : List Char}
    (small : ∀ b ∈ cs.flatMap String.utf8EncodeChar, b.toNat < 128) : ∀ c ∈ cs, c.toNat < 128 := by
  intro c member
  refine Nat.lt_of_not_le fun wide => ?_
  obtain ⟨b, first⟩ : ∃ b, (String.utf8EncodeChar c).head? = some b :=
    Option.isSome_iff_exists.mp (by simp)
  have within : b ∈ cs.flatMap String.utf8EncodeChar :=
    List.mem_flatMap.mpr ⟨c, member, List.mem_of_mem_head? first⟩
  exact absurd (small b within) (Nat.not_lt.mpr (high_of_utf8EncodeChar wide b first))

theorem eq_cons_of_flatMap_utf8EncodeChar {cs : List Char} {b : UInt8} {rest : List UInt8}
    (bytes : cs.flatMap String.utf8EncodeChar = b :: rest) (small : b.toNat < 128) :
    ∃ c more, cs = c :: more ∧ c.toNat < 128 ∧ c.val.toUInt8 = b ∧
      more.flatMap String.utf8EncodeChar = rest := by
  cases cs with
  | nil => cases bytes
  | cons c more =>
    rw [List.flatMap_cons] at bytes
    by_cases ascii : c.toNat < 128
    · rw [utf8EncodeChar_of_ascii ascii, List.singleton_append] at bytes
      obtain ⟨first, others⟩ := List.cons.inj bytes
      exact ⟨c, more, rfl, ascii, first, others⟩
    · -- a wider character would start the bytes with a byte of 128 or more
      obtain ⟨b', first⟩ : ∃ b', (String.utf8EncodeChar c).head? = some b' :=
        Option.isSome_iff_exists.mp (by simp)
      have high := high_of_utf8EncodeChar (Nat.le_of_not_lt ascii) b' first
      have leading : (String.utf8EncodeChar c ++ more.flatMap String.utf8EncodeChar).head? = some b' := by
        rw [List.head?_append, first]
        rfl
      rw [bytes, List.head?_cons, Option.some.injEq] at leading
      subst leading
      exact absurd small (Nat.not_lt.mpr high)

end Escrow.Text
