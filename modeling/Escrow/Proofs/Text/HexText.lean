import Mathlib.Data.List.Basic
import Escrow.Address
import Escrow.Proofs.Text.BigEndian
import Escrow.Proofs.Text.Utf8

/-! Hexadecimal texts: what the reader accepts and what the writer produces.

A hexadecimal text is read by removing one leading `0x`, if there is one, and then reading digit
pairs, in either case, from the text's UTF-8 bytes. `readHex_eq_ok_iff` says exactly when that
succeeds and with which bytes: the text's digits (`hexDigitsOf`) are all hexadecimal digits, and
written in lowercase they are the bytes' own two digits each. The bytes of a character beyond
ASCII all have their high bit set, so no such character ever passes for a digit.

A number is written with the shortest digits padded with zeros; for a number of `width` bytes, and
`2 * width` digits, that is each of its big-endian bytes in two digits (`paddedHex_eq_encodeHex`).
So an address or a digest is written as `0x` and the lowercase digits of its bytes, and both
`Address.ofHex_eq_ok_iff` and `Digest.ofHex_eq_ok_iff` follow: a text is read as the address or
digest whose written form is `0x` and the text's digits in lowercase, exactly when it has 40 or 64
digits.
-/

set_option autoImplicit false

namespace Escrow.Text

/-- The digits of a hexadecimal text: the text after its leading `0x`, or all of it when there is
none. -/
def hexDigitsOf (s : String) : List Char :=
  if ['0', 'x'] <+: s.toList then s.toList.drop 2 else s.toList

def IsHexText (count : Nat) (s : String) : Prop :=
  (hexDigitsOf s).length = count ∧ ∀ c ∈ hexDigitsOf s, c.isHexDigit = true

instance (count : Nat) (s : String) : Decidable (IsHexText count s) :=
  inferInstanceAs (Decidable (_ ∧ _))

/-! ## Digits -/

theorem isHexDigit_ascii {c : Char} (digit : c.isHexDigit = true) : c.toNat < 128 := by
  simp only [Char.isHexDigit, Char.isDigit, Bool.or_eq_true, Bool.and_eq_true, decide_eq_true_eq,
    UInt32.le_iff_toNat_le, ge_iff_le] at digit
  have same : c.toNat = c.val.toNat := rfl
  have nine : '9'.val.toNat = 57 := rfl
  have smallF : 'f'.val.toNat = 102 := rfl
  have capitalF : 'F'.val.toNat = 70 := rfl
  omega

theorem digitValue_lt {b : UInt8} {v : Nat} (valued : digitValue b = some v) :
    v < 16 ∧ b.toNat < 128 := by
  unfold digitValue at valued
  have bound := b.toNat_lt
  split_ifs at valued <;> simp_all [UInt8.le_iff_toNat_le] <;> omega

theorem digitValue_ascii_isSome : ∀ n < 128,
    (digitValue (Char.ofNat n).val.toUInt8).isSome = (Char.ofNat n).isHexDigit := by decide

theorem digitValue_ascii_all : ∀ n < 128,
    (digitValue (Char.ofNat n).val.toUInt8).all
      (fun v => decide (v < 16) && hexDigitChar v == (Char.ofNat n).toLower) = true := by decide

theorem hexDigitChar_facts : ∀ v < 16,
    digitValue (hexDigitChar v).val.toUInt8 = some v ∧ (hexDigitChar v).isHexDigit = true ∧
      (hexDigitChar v).toLower = hexDigitChar v ∧ (hexDigitChar v).toNat < 128 ∧
      hexDigitChar v = Nat.digitChar v := by decide

theorem hexDigitChar_inj {v w : Nat} (smallV : v < 16) (smallW : w < 16)
    (same : hexDigitChar v = hexDigitChar w) : v = w := by
  have back := (hexDigitChar_facts v smallV).1
  rw [same, (hexDigitChar_facts w smallW).1] at back
  exact (Option.some.inj back).symm

theorem digitValue_eq_some_iff {c : Char} (ascii : c.toNat < 128) {v : Nat} (small : v < 16) :
    digitValue c.val.toUInt8 = some v ↔ c.isHexDigit = true ∧ c.toLower = hexDigitChar v := by
  have isSome := digitValue_ascii_isSome c.toNat ascii
  have all := digitValue_ascii_all c.toNat ascii
  rw [Char.ofNat_toNat] at isSome all
  constructor
  · intro valued
    rw [valued] at isSome all
    simp only [Option.all_some, Bool.and_eq_true, decide_eq_true_eq, beq_iff_eq] at all
    exact ⟨isSome.symm.trans rfl, all.2.symm⟩
  · rintro ⟨digit, lower⟩
    obtain ⟨w, valued⟩ := Option.isSome_iff_exists.mp (isSome.trans digit)
    rw [valued] at all
    simp only [Option.all_some, Bool.and_eq_true, decide_eq_true_eq, beq_iff_eq] at all
    rw [valued, hexDigitChar_inj all.1 small (all.2.trans lower)]

theorem byteDigits_ofNat {h l : Nat} (smallH : h < 16) (smallL : l < 16) :
    byteDigits (UInt8.ofNat (16 * h + l)) = [hexDigitChar h, hexDigitChar l] := by
  have value : (UInt8.ofNat (16 * h + l)).toNat = 16 * h + l :=
    UInt8.toNat_ofNat_of_lt' (by rw [UInt8.size]; omega)
  have high : (16 * h + l) / 16 = h := by omega
  have low : (16 * h + l) % 16 = l := by omega
  rw [byteDigits, value, high, low]

theorem length_flatMap_byteDigits (bytes : List UInt8) :
    (bytes.flatMap byteDigits).length = 2 * bytes.length := by
  induction bytes with
  | nil => rfl
  | cons b rest ih =>
    rw [List.flatMap_cons, List.length_append, ih, List.length_cons]
    simp only [byteDigits, List.length_cons, List.length_nil]
    omega

theorem length_of_map_toLower {cs : List Char} {bytes : List UInt8}
    (lower : cs.map Char.toLower = bytes.flatMap byteDigits) : cs.length = 2 * bytes.length := by
  rw [← length_flatMap_byteDigits, ← lower, List.length_map]

theorem written_of_mem_flatMap_byteDigits {bytes : List UInt8} {c : Char}
    (member : c ∈ bytes.flatMap byteDigits) :
    c.isHexDigit = true ∧ c.toLower = c ∧ c.toNat < 128 := by
  obtain ⟨b, -, digit⟩ := List.mem_flatMap.mp member
  -- both digits of a byte are the writer's digits of values below sixteen
  obtain ⟨v, small, rfl⟩ : ∃ v < 16, c = hexDigitChar v := by
    simp only [byteDigits, List.mem_cons, List.not_mem_nil, or_false] at digit
    have bound := b.toNat_lt
    rcases digit with rfl | rfl <;> exact ⟨_, by omega, rfl⟩
  obtain ⟨-, digit, lower, ascii, -⟩ := hexDigitChar_facts v small
  exact ⟨digit, lower, ascii⟩

/-! ## Reading -/

theorem decodePairs_cons_cons {high low : UInt8} {rest : List UInt8} {position : Nat}
    {bytes : List UInt8} :
    decodePairs (high :: low :: rest) position = .ok bytes ↔
      ∃ h l tail, digitValue high = some h ∧ digitValue low = some l ∧
        decodePairs rest (position + 2) = .ok tail ∧ bytes = UInt8.ofNat (16 * h + l) :: tail := by
  simp only [decodePairs, digitAt]
  cases hh : digitValue high <;> cases hl : digitValue low <;>
    cases ht : decodePairs rest (position + 2) <;> simp [bind, Except.bind, pure, Except.pure, eq_comm]

theorem digits_of_decodePairs {digits : List UInt8} {position : Nat} {bytes : List UInt8}
    (even : digits.length % 2 = 0) (decoded : decodePairs digits position = .ok bytes) :
    ∀ d ∈ digits, ∃ v, digitValue d = some v := by
  induction digits, position using decodePairs.induct generalizing bytes with
  | case1 high low rest position ih =>
    obtain ⟨h, l, tail, valued₁, valued₂, decodedRest, -⟩ := decodePairs_cons_cons.mp decoded
    intro d member
    simp only [List.mem_cons] at member
    rcases member with rfl | rfl | member
    · exact ⟨h, valued₁⟩
    · exact ⟨l, valued₂⟩
    · exact ih (by simp at even; omega) decodedRest d member
  | case2 digits position short =>
    intro d member
    rcases digits with _ | ⟨x, _ | ⟨y, rest⟩⟩
    · cases member
    · simp at even
    · exact absurd rfl (short x y rest)

theorem exists_decodePairs {digits : List UInt8} (position : Nat)
    (valid : ∀ d ∈ digits, ∃ v, digitValue d = some v) :
    ∃ bytes, decodePairs digits position = .ok bytes := by
  induction digits, position using decodePairs.induct with
  | case1 high low rest position ih =>
    obtain ⟨h, valued₁⟩ := valid high List.mem_cons_self
    obtain ⟨l, valued₂⟩ := valid low (List.mem_cons_of_mem _ List.mem_cons_self)
    obtain ⟨tail, decodedRest⟩ := ih fun d member =>
      valid d (List.mem_cons_of_mem _ (List.mem_cons_of_mem _ member))
    exact ⟨_, decodePairs_cons_cons.mpr ⟨h, l, tail, valued₁, valued₂, decodedRest, rfl⟩⟩
  | case2 digits position short =>
    exact ⟨[], by rw [decodePairs.eq_2 _ _ short]⟩

theorem pair_eq_iff {c₁ c₂ : Char} (ascii₁ : c₁.toNat < 128) (ascii₂ : c₂.toNat < 128) (b : UInt8) :
    (∃ h l, digitValue c₁.val.toUInt8 = some h ∧ digitValue c₂.val.toUInt8 = some l ∧
        b = UInt8.ofNat (16 * h + l)) ↔
      c₁.isHexDigit = true ∧ c₂.isHexDigit = true ∧
        c₁.toLower = hexDigitChar (b.toNat / 16) ∧ c₂.toLower = hexDigitChar (b.toNat % 16) := by
  constructor
  · rintro ⟨h, l, valued₁, valued₂, rfl⟩
    obtain ⟨small₁, -⟩ := digitValue_lt valued₁
    obtain ⟨small₂, -⟩ := digitValue_lt valued₂
    obtain ⟨digit₁, lower₁⟩ := (digitValue_eq_some_iff ascii₁ small₁).mp valued₁
    obtain ⟨digit₂, lower₂⟩ := (digitValue_eq_some_iff ascii₂ small₂).mp valued₂
    have written := byteDigits_ofNat small₁ small₂
    rw [byteDigits, List.cons.injEq, List.cons.injEq] at written
    rw [written.1, written.2.1]
    exact ⟨digit₁, digit₂, lower₁, lower₂⟩
  · rintro ⟨digit₁, digit₂, lower₁, lower₂⟩
    have high : b.toNat / 16 < 16 := by have := b.toNat_lt; omega
    have low : b.toNat % 16 < 16 := Nat.mod_lt _ (by decide)
    refine ⟨b.toNat / 16, b.toNat % 16, (digitValue_eq_some_iff ascii₁ high).mpr ⟨digit₁, lower₁⟩,
      (digitValue_eq_some_iff ascii₂ low).mpr ⟨digit₂, lower₂⟩, ?_⟩
    rw [Nat.div_add_mod, UInt8.ofNat_toNat]

theorem decodePairs_ascii_eq_ok_iff : ∀ (bytes : List UInt8) (cs : List Char) (position : Nat),
    (∀ c ∈ cs, c.toNat < 128) → cs.length % 2 = 0 →
    (decodePairs (cs.map (·.val.toUInt8)) position = .ok bytes ↔
      (∀ c ∈ cs, c.isHexDigit = true) ∧ cs.map Char.toLower = bytes.flatMap byteDigits) := by
  intro bytes
  induction bytes with
  | nil =>
    intro cs position ascii even
    rcases cs with _ | ⟨c₁, _ | ⟨c₂, rest⟩⟩
    · simp [decodePairs]
    · simp at even
    · simp [decodePairs_cons_cons]
  | cons b rest ih =>
    intro cs position ascii even
    rcases cs with _ | ⟨c₁, _ | ⟨c₂, more⟩⟩
    · simp [decodePairs, byteDigits]
    · simp at even
    · have pair := pair_eq_iff (ascii c₁ List.mem_cons_self)
        (ascii c₂ (List.mem_cons_of_mem _ List.mem_cons_self)) b
      have tail := ih more (position + 2)
        (fun c member => ascii c (List.mem_cons_of_mem _ (List.mem_cons_of_mem _ member)))
        (by simp at even; omega)
      rw [List.map_cons, List.map_cons, decodePairs_cons_cons]
      simp only [List.mem_cons, forall_eq_or_imp, List.map_cons, List.flatMap_cons, byteDigits,
        List.cons_append, List.nil_append, List.cons.injEq]
      constructor
      · rintro ⟨h, l, tail', valued₁, valued₂, decoded, same, rfl⟩
        obtain ⟨digit₁, digit₂, lower₁, lower₂⟩ := pair.mp ⟨h, l, valued₁, valued₂, same⟩
        obtain ⟨digits, lower⟩ := tail.mp decoded
        exact ⟨⟨digit₁, digit₂, digits⟩, lower₁, lower₂, lower⟩
      · rintro ⟨⟨digit₁, digit₂, digits⟩, lower₁, lower₂, lower⟩
        obtain ⟨h, l, valued₁, valued₂, same⟩ := pair.mpr ⟨digit₁, digit₂, lower₁, lower₂⟩
        exact ⟨h, l, rest, valued₁, valued₂, tail.mpr ⟨digits, lower⟩, same, rfl⟩

theorem hexBody_eq (s : String) : hexBody s = (hexDigitsOf s).flatMap String.utf8EncodeChar := by
  rw [hexBody, toList_toUTF8, hexDigitsOf]
  by_cases marked : ['0', 'x'] <+: s.toList
  · rw [if_pos marked]
    obtain ⟨rest, whole⟩ := marked
    rw [← whole]
    rfl
  · rw [if_neg marked]
    split
    · rename_i rest bytes
      exfalso
      obtain ⟨c₀, more, whole, ascii₀, zero, afterZero⟩ :=
        eq_cons_of_flatMap_utf8EncodeChar bytes (by decide)
      obtain ⟨c₁, rest', more', ascii₁, ex, -⟩ :=
        eq_cons_of_flatMap_utf8EncodeChar afterZero (by decide)
      have isZero : c₀ = '0' := eq_of_toUInt8_eq ascii₀ (by decide) zero
      have isEx : c₁ = 'x' := eq_of_toUInt8_eq ascii₁ (by decide) ex
      exact marked ⟨rest', by rw [whole, more', isZero, isEx]; rfl⟩
    · rfl

/-- When reading a hexadecimal text gives bytes: its digits are hexadecimal digits, and in
lowercase they are the bytes' digits. -/
theorem readHex_eq_ok_iff (s : String) (bytes : List UInt8) :
    readHex s = .ok bytes ↔
      (∀ c ∈ hexDigitsOf s, c.isHexDigit = true) ∧
        (hexDigitsOf s).map Char.toLower = bytes.flatMap byteDigits := by
  rw [readHex, decodeHex, hexBody_eq]
  constructor
  · intro read
    split at read
    · rename_i even
      -- the decoded bytes are all digits, hence ASCII, and so are the characters they encode
      have ascii := ascii_of_flatMap_utf8EncodeChar fun d member =>
        (digitValue_lt (digits_of_decodePairs even read d member).choose_spec).2
      rw [flatMap_utf8EncodeChar_of_ascii ascii] at read even
      rw [List.length_map] at even
      exact (decodePairs_ascii_eq_ok_iff bytes _ 0 ascii even).mp read
    · cases read
  · rintro ⟨digits, lower⟩
    have ascii : ∀ c ∈ hexDigitsOf s, c.toNat < 128 := fun c member => isHexDigit_ascii (digits c member)
    have even : (hexDigitsOf s).length % 2 = 0 := by
      rw [length_of_map_toLower lower]
      omega
    rw [flatMap_utf8EncodeChar_of_ascii ascii, List.length_map, if_pos even]
    exact (decodePairs_ascii_eq_ok_iff bytes _ 0 ascii even).mpr ⟨digits, lower⟩

theorem exists_readHex {s : String} (n : Nat) (text : IsHexText (2 * n) s) :
    ∃ bytes, readHex s = .ok bytes ∧ bytes.length = n := by
  have ascii : ∀ c ∈ hexDigitsOf s, c.toNat < 128 := fun c member => isHexDigit_ascii (text.2 c member)
  have valid : ∀ d ∈ (hexDigitsOf s).map (·.val.toUInt8), ∃ v, digitValue d = some v := by
    intro d member
    obtain ⟨c, digit, rfl⟩ := List.mem_map.mp member
    have isSome := digitValue_ascii_isSome c.toNat (ascii c digit)
    rw [Char.ofNat_toNat, text.2 c digit] at isSome
    exact Option.isSome_iff_exists.mp isSome
  obtain ⟨bytes, decoded⟩ := exists_decodePairs 0 valid
  have read : readHex s = .ok bytes := by
    rw [readHex, decodeHex, hexBody_eq, flatMap_utf8EncodeChar_of_ascii ascii, List.length_map,
      text.1, if_pos (by omega)]
    exact decoded
  refine ⟨bytes, read, ?_⟩
  have lengths := length_of_map_toLower ((readHex_eq_ok_iff s bytes).mp read).2
  rw [text.1] at lengths
  omega

/-! ## Writing -/

def lowHexDigits : Nat → Nat → List Char
  | 0, _ => []
  | width + 1, n => lowHexDigits width (n / 16) ++ [hexDigitChar (n % 16)]

theorem lowHexDigits_zero (width : Nat) : lowHexDigits width 0 = List.replicate width '0' := by
  induction width with
  | zero => rfl
  | succ width ih => rw [lowHexDigits, Nat.zero_div, ih, List.replicate_succ']; rfl

theorem replicate_append_toDigits {width n : Nat} (wide : 0 < width) (fits : n < 16 ^ width) :
    List.replicate (width - (Nat.toDigits 16 n).length) '0' ++ Nat.toDigits 16 n =
      lowHexDigits width n := by
  induction width generalizing n with
  | zero => omega
  | succ width ih =>
    by_cases small : n < 16
    · have digit := (hexDigitChar_facts n small).2.2.2.2
      rw [Nat.toDigits_of_lt_base small, lowHexDigits, Nat.div_eq_of_lt small, Nat.mod_eq_of_lt small,
        lowHexDigits_zero, digit]
      simp
    · have below : n / 16 < 16 ^ width := by rw [Nat.pow_succ] at fits; omega
      have widthPos : 0 < width := by
        rcases Nat.eq_zero_or_pos width with rfl | pos
        · simp at fits; omega
        · exact pos
      have digit := (hexDigitChar_facts (n % 16) (Nat.mod_lt _ (by decide))).2.2.2.2
      rw [Nat.toDigits_of_base_le (by decide) (Nat.le_of_not_lt small), lowHexDigits,
        ← ih widthPos below, List.length_append, List.length_singleton, ← digit, List.append_assoc]
      congr 2
      omega

theorem bigEndian_succ_low (width n : Nat) :
    bigEndian (width + 1) n = bigEndian width (n / 256) ++ [UInt8.ofNat (n % 256)] := by
  simp only [bigEndian, List.range_succ_eq_map, List.reverse_cons, List.map_append, List.map_reverse,
    List.map_map, List.map_cons, List.map_nil]
  congr 3
  · funext i
    simp [Function.comp, Nat.pow_succ, Nat.div_div_eq_div_mul, Nat.mul_comm]
  · simp

theorem lowHexDigits_two_mul (width n : Nat) :
    lowHexDigits (2 * width) n = (bigEndian width n).flatMap byteDigits := by
  induction width generalizing n with
  | zero => rfl
  | succ width ih =>
    have value : (UInt8.ofNat (n % 256)).toNat = n % 256 :=
      UInt8.toNat_ofNat_of_lt' (by rw [UInt8.size]; omega)
    rw [show 2 * (width + 1) = 2 * width + 1 + 1 by omega, lowHexDigits, lowHexDigits,
      bigEndian_succ_low, List.flatMap_append, ← ih, List.flatMap_singleton, byteDigits, value,
      List.append_assoc]
    have whole : n / 16 / 16 = n / 256 := by omega
    have high : n % 256 / 16 = n / 16 % 16 := by omega
    have low : n % 256 % 16 = n % 16 := by omega
    rw [whole, high, low]
    rfl

theorem paddedHex_eq_encodeHex {width n : Nat} (wide : 0 < width) (fits : n < 256 ^ width) :
    paddedHex (2 * width) n = encodeHex (bigEndian width n) := by
  have fitsDigits : n < 16 ^ (2 * width) := by
    rw [Nat.pow_mul]
    exact fits
  rw [paddedHex, encodeHex, replicate_append_toDigits (by omega) fitsDigits, lowHexDigits_two_mul]

theorem hexDigitsOf_marked (cs : List Char) : hexDigitsOf ("0x" ++ String.ofList cs) = cs := by
  have whole : ("0x" ++ String.ofList cs).toList = ['0', 'x'] ++ cs := by
    rw [String.toList_append, @String.toList_ofList cs]
    rfl
  rw [hexDigitsOf, whole, if_pos (List.prefix_append _ _)]
  rfl

theorem hexDigitsOf_of_digits {s : String} (digits : ∀ c ∈ s.toList, c.isHexDigit = true) :
    hexDigitsOf s = s.toList := by
  rw [hexDigitsOf, if_neg]
  rintro ⟨rest, whole⟩
  have ex := digits 'x' (by rw [← whole]; simp)
  exact absurd ex (by decide)

theorem readHex_encodeHex (bytes : List UInt8) :
    readHex ("0x" ++ encodeHex bytes) = .ok bytes ∧ readHex (encodeHex bytes) = .ok bytes := by
  have written := fun c (member : c ∈ bytes.flatMap byteDigits) => written_of_mem_flatMap_byteDigits member
  have lower : (bytes.flatMap byteDigits).map Char.toLower = bytes.flatMap byteDigits :=
    (List.map_congr_left fun c member => (written c member).2.1).trans (List.map_id _)
  have plain : hexDigitsOf (encodeHex bytes) = bytes.flatMap byteDigits := by
    rw [hexDigitsOf_of_digits, encodeHex, String.toList_ofList]
    intro c member
    rw [encodeHex, String.toList_ofList] at member
    exact (written c member).1
  refine ⟨(readHex_eq_ok_iff _ _).mpr ?_, (readHex_eq_ok_iff _ _).mpr ?_⟩
  · rw [encodeHex, hexDigitsOf_marked]
    exact ⟨fun c member => (written c member).1, lower⟩
  · rw [plain]
    exact ⟨fun c member => (written c member).1, lower⟩

/-- Reading gives `bytes` exactly when the text is twice as many digits, which in lowercase are
the written form of `bytes`. -/
theorem readHex_eq_ok_iff_isHexText (s : String) (bytes : List UInt8) :
    readHex s = .ok bytes ↔
      IsHexText (2 * bytes.length) s ∧ String.ofList ((hexDigitsOf s).map Char.toLower) = encodeHex bytes := by
  rw [readHex_eq_ok_iff, encodeHex]
  constructor
  · rintro ⟨digits, lower⟩
    exact ⟨⟨length_of_map_toLower lower, digits⟩, by rw [lower]⟩
  · rintro ⟨⟨-, digits⟩, lower⟩
    exact ⟨digits, String.ofList_injective lower⟩

end Escrow.Text

namespace Escrow

open Escrow.Text

/-- A kind of value held as the number its `width` bytes spell, most significant first, as
addresses and digests are: every value is below `256 ^ width`, and the value of a number below
that bound is the one it holds. -/
structure FixedWidth (α : Type) where
  width : Nat
  val : α → Nat
  ofNat : Nat → α
  wide : 0 < width
  val_lt : ∀ x, val x < 256 ^ width
  ofNat_val : ∀ x, ofNat (val x) = x
  val_ofNat : ∀ n < 256 ^ width, val (ofNat n) = n

namespace FixedWidth

variable {α : Type} (F : FixedWidth α)

def read (s : String) : Except HexError α := do
  let bytes ← readHex s
  if bytes.length = F.width then pure (F.ofNat (ofBigEndian bytes)) else throw .invalidLength

def write (x : α) : String := "0x" ++ paddedHex (2 * F.width) (F.val x)

theorem read_eq_ok_iff_readHex (s : String) (x : α) :
    F.read s = .ok x ↔ readHex s = .ok (bigEndian F.width (F.val x)) := by
  unfold read
  cases read : readHex s with
  | error e => simp [bind, Except.bind]
  | ok bytes =>
    simp only [bind, Except.bind, Except.ok.injEq]
    constructor
    · intro built
      split at built
      · rename_i sized
        cases built
        rw [F.val_ofNat _ (sized ▸ ofBigEndian_lt bytes), ← sized, bigEndian_ofBigEndian]
      · cases built
    · rintro rfl
      rw [if_pos (length_bigEndian _ _), ofBigEndian_bigEndian, Nat.mod_eq_of_lt (F.val_lt x),
        F.ofNat_val]
      rfl

theorem write_eq (x : α) : F.write x = "0x" ++ encodeHex (bigEndian F.width (F.val x)) := by
  rw [write, paddedHex_eq_encodeHex F.wide (F.val_lt x)]

theorem read_write (x : α) :
    F.read (F.write x) = .ok x ∧ F.read (String.ofList (hexDigitsOf (F.write x))) = .ok x := by
  have digits : String.ofList (hexDigitsOf (F.write x)) = encodeHex (bigEndian F.width (F.val x)) := by
    rw [write_eq, encodeHex, hexDigitsOf_marked]
  rw [read_eq_ok_iff_readHex, read_eq_ok_iff_readHex, digits, write_eq]
  exact readHex_encodeHex _

theorem read_eq_ok_iff (s : String) (x : α) :
    F.read s = .ok x ↔
      IsHexText (2 * F.width) s ∧ F.write x = "0x" ++ String.ofList ((hexDigitsOf s).map Char.toLower) := by
  rw [read_eq_ok_iff_readHex, readHex_eq_ok_iff_isHexText, length_bigEndian, write_eq]
  constructor
  · rintro ⟨text, lower⟩
    exact ⟨text, by rw [lower]⟩
  · rintro ⟨text, written⟩
    exact ⟨text, (String.append_right_inj "0x").mp written.symm⟩

theorem exists_read_eq_ok_iff (s : String) : (∃ x, F.read s = .ok x) ↔ IsHexText (2 * F.width) s := by
  constructor
  · rintro ⟨x, read⟩
    exact ((F.read_eq_ok_iff s x).mp read).1
  · intro text
    obtain ⟨bytes, read, sized⟩ := exists_readHex F.width text
    refine ⟨F.ofNat (ofBigEndian bytes), (F.read_eq_ok_iff_readHex s _).mpr ?_⟩
    rw [F.val_ofNat _ (sized ▸ ofBigEndian_lt bytes), ← sized, bigEndian_ofBigEndian]
    exact read

end FixedWidth

def Address.fixedWidth : FixedWidth Address where
  width := 20
  val := Address.val
  ofNat := Address.ofNat
  wide := by decide
  val_lt a := lt_of_lt_of_eq a.isLt (by decide)
  ofNat_val a := by
    cases a with
    | mk val isLt => simp [Address.ofNat, Nat.mod_eq_of_lt isLt]
  val_ofNat n small := Nat.mod_eq_of_lt (lt_of_lt_of_eq small (by decide))

def Digest.fixedWidth : FixedWidth Digest where
  width := 32
  val := Digest.val
  ofNat := Digest.ofNat
  wide := by decide
  val_lt d := lt_of_lt_of_eq d.isLt (by decide)
  ofNat_val d := by
    cases d with
    | mk val isLt => simp [Digest.ofNat, Nat.mod_eq_of_lt isLt]
  val_ofNat n small := Nat.mod_eq_of_lt (lt_of_lt_of_eq small (by decide))

theorem Address.ofHex_eq_read : Address.ofHex = Address.fixedWidth.read := rfl

theorem Address.toHex_eq_write : Address.toHex = Address.fixedWidth.write := rfl

theorem Digest.ofHex_eq_read : Digest.ofHex = Digest.fixedWidth.read := rfl

theorem Digest.toHex_eq_write : Digest.toHex = Digest.fixedWidth.write := rfl

end Escrow
