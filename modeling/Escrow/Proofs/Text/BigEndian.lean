import Mathlib.Tactic.Ring
import Mathlib.Tactic.Linarith
import Escrow.Text.Hex

/-! Big-endian byte strings.

Writing a number in `width` bytes keeps it modulo `256 ^ width` (`ofBigEndian_bigEndian`), and
reading a byte string then writing the number back in as many bytes gives the same bytes
(`bigEndian_ofBigEndian`). So writing is injective below `256 ^ width`, and a byte string is
the writing of the number it spells. Byte strings of one length compare lexicographically as the
numbers they spell (`lt_iff_ofBigEndian_lt`), so writing below `256 ^ width` keeps the order.
-/

set_option autoImplicit false

namespace Escrow.Text

@[simp]
theorem length_bigEndian (width n : Nat) : (bigEndian width n).length = width := by
  simp [bigEndian]

theorem bigEndian_succ (width n : Nat) :
    bigEndian (width + 1) n = UInt8.ofNat (n / 256 ^ width % 256) :: bigEndian width n := by
  simp [bigEndian, List.range_succ]

theorem foldl_bytes (bytes : List UInt8) (acc : Nat) :
    bytes.foldl (fun acc b => 256 * acc + b.toNat) acc = acc * 256 ^ bytes.length + ofBigEndian bytes := by
  induction bytes generalizing acc with
  | nil => simp [ofBigEndian]
  | cons b rest ih =>
    simp only [List.foldl_cons, List.length_cons, ofBigEndian]
    rw [ih (256 * acc + b.toNat), ih (256 * 0 + b.toNat), pow_succ]
    ring

theorem ofBigEndian_cons (b : UInt8) (bytes : List UInt8) :
    ofBigEndian (b :: bytes) = b.toNat * 256 ^ bytes.length + ofBigEndian bytes := by
  rw [ofBigEndian, List.foldl_cons, foldl_bytes]
  simp

theorem ofBigEndian_lt (bytes : List UInt8) : ofBigEndian bytes < 256 ^ bytes.length := by
  induction bytes with
  | nil => simp [ofBigEndian]
  | cons b rest ih =>
    rw [ofBigEndian_cons, List.length_cons, Nat.pow_succ]
    have byte : b.toNat < 256 := b.toNat_lt
    nlinarith

theorem ofBigEndian_bigEndian (width n : Nat) :
    ofBigEndian (bigEndian width n) = n % 256 ^ width := by
  induction width with
  | zero => simp [bigEndian, ofBigEndian, Nat.mod_one]
  | succ width ih =>
    rw [bigEndian_succ, ofBigEndian_cons, ih, length_bigEndian, Nat.mod_pow_succ]
    have byte : (UInt8.ofNat (n / 256 ^ width % 256)).toNat = n / 256 ^ width % 256 := by
      simp
    rw [byte]
    ring

theorem ofBigEndian_inj {xs ys : List UInt8} (sameLength : xs.length = ys.length)
    (same : ofBigEndian xs = ofBigEndian ys) : xs = ys := by
  induction xs generalizing ys with
  | nil => cases ys <;> simp_all
  | cons x xs ih =>
    cases ys with
    | nil => simp at sameLength
    | cons y ys =>
      simp only [List.length_cons, Nat.add_right_cancel_iff] at sameLength
      rw [ofBigEndian_cons, ofBigEndian_cons, ← sameLength] at same
      have low := ofBigEndian_lt xs
      have low' := ofBigEndian_lt ys
      rw [← sameLength] at low'
      have positive : 0 < 256 ^ xs.length := Nat.pow_pos (by decide)
      -- the leading byte is the quotient by `256 ^ length`, the rest the remainder
      have lead : ∀ (b : UInt8) (rest : Nat), rest < 256 ^ xs.length →
          (b.toNat * 256 ^ xs.length + rest) / 256 ^ xs.length = b.toNat := by
        intro b rest small
        rw [Nat.add_comm, Nat.add_mul_div_right _ _ positive, Nat.div_eq_of_lt small, Nat.zero_add]
      have heads : x.toNat = y.toNat := by
        rw [← lead x _ low, ← lead y _ low', same]
      have tails : ofBigEndian xs = ofBigEndian ys := by
        rw [heads] at same
        omega
      rw [UInt8.toNat_inj.mp heads, ih sameLength tails]

theorem bigEndian_ofBigEndian (bytes : List UInt8) :
    bigEndian bytes.length (ofBigEndian bytes) = bytes := by
  apply ofBigEndian_inj (by simp)
  rw [ofBigEndian_bigEndian, Nat.mod_eq_of_lt (ofBigEndian_lt bytes)]

theorem bigEndian_inj {width m n : Nat} (hm : m < 256 ^ width) (hn : n < 256 ^ width)
    (same : bigEndian width m = bigEndian width n) : m = n := by
  have := congrArg ofBigEndian same
  rwa [ofBigEndian_bigEndian, ofBigEndian_bigEndian, Nat.mod_eq_of_lt hm,
    Nat.mod_eq_of_lt hn] at this

theorem ofBigEndian_append (xs ys : List UInt8) :
    ofBigEndian (xs ++ ys) = ofBigEndian xs * 256 ^ ys.length + ofBigEndian ys := by
  rw [ofBigEndian, List.foldl_append, foldl_bytes]
  rfl

theorem mul_add_lt_mul_add_iff {x y a b base : Nat} (ha : a < base) (hb : b < base) :
    x * base + a < y * base + b ↔ x < y ∨ x = y ∧ a < b := by
  constructor
  · intro lt
    rcases Nat.lt_trichotomy x y with smaller | same | larger
    · exact .inl smaller
    · exact .inr ⟨same, by subst same; omega⟩
    · have past : y * base + base ≤ x * base := by
        rw [← Nat.succ_mul]
        exact Nat.mul_le_mul_right _ larger
      omega
  · rintro (smaller | ⟨rfl, lt⟩)
    · have past : x * base + base ≤ y * base := by
        rw [← Nat.succ_mul]
        exact Nat.mul_le_mul_right _ smaller
      omega
    · omega

theorem lt_iff_ofBigEndian_lt {xs ys : List UInt8} (sameLength : xs.length = ys.length) :
    xs < ys ↔ ofBigEndian xs < ofBigEndian ys := by
  induction xs generalizing ys with
  | nil =>
    cases ys with
    | nil => simp [ofBigEndian, List.lt_irrefl]
    | cons => simp at sameLength
  | cons x xs ih =>
    cases ys with
    | nil => simp at sameLength
    | cons y ys =>
      simp only [List.length_cons, Nat.add_right_cancel_iff] at sameLength
      have low' : ofBigEndian ys < 256 ^ xs.length := sameLength ▸ ofBigEndian_lt ys
      rw [List.cons_lt_cons_iff, ofBigEndian_cons, ofBigEndian_cons, ← sameLength,
        mul_add_lt_mul_add_iff (ofBigEndian_lt xs) low', ← ih sameLength, UInt8.lt_iff_toNat_lt,
        UInt8.toNat_inj]

theorem bigEndian_lt_bigEndian_iff {width m n : Nat} (hm : m < 256 ^ width) (hn : n < 256 ^ width) :
    bigEndian width m < bigEndian width n ↔ m < n := by
  rw [lt_iff_ofBigEndian_lt (by simp), ofBigEndian_bigEndian, ofBigEndian_bigEndian,
    Nat.mod_eq_of_lt hm, Nat.mod_eq_of_lt hn]

end Escrow.Text
