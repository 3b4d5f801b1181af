import Escrow.FixedPoint

/-! Fixed-point arithmetic is exact on 128-bit amounts.

Two amounts below 2^128 multiply to less than 2^256, so the checked 256-bit product never fails
(`wideMul?_of_lt`), and `mulDiv` is the floored quotient, refused only for a zero divisor or for
a quotient past 128 bits (`mulDiv_eq`). The ratio and the market capitalisation inherit that
exactness; one whole token fits 128 bits for up to 38 decimals and no more (`tokenUnit_eq`).
-/

set_option autoImplicit false

namespace Escrow

theorem mul_lt_wideBound {a b : Nat} (ha : a < amountBound) (hb : b < amountBound) :
    a * b < wideBound :=
  calc a * b < amountBound * amountBound := Nat.mul_lt_mul_of_lt_of_lt ha hb
    _ = wideBound := by decide

theorem wideMul?_of_lt {a b : Nat} (ha : a < amountBound) (hb : b < amountBound) :
    wideMul? a b = some (a * b) := by
  simp only [wideMul?, if_pos (mul_lt_wideBound ha hb)]

/-- Once the product fits 256 bits, `mulDiv` is the floored quotient, refused for a zero divisor
or for a quotient past 128 bits. -/
theorem mulDiv_of_wideMul? {a b : Nat} (d : Nat) (fits : wideMul? a b = some (a * b)) :
    mulDiv a b d =
      if d = 0 then .error .divisionByZero
      else if a * b / d < amountBound then .ok (a * b / d) else .error .arithmeticOverflow := by
  simp only [mulDiv, fits]

theorem mulDiv_eq {a b : Nat} (d : Nat) (ha : a < amountBound) (hb : b < amountBound) :
    mulDiv a b d =
      if d = 0 then .error .divisionByZero
      else if a * b / d < amountBound then .ok (a * b / d) else .error .arithmeticOverflow :=
  mulDiv_of_wideMul? d (wideMul?_of_lt ha hb)

theorem wideMul?_eq_some {a b product : Nat} (multiplied : wideMul? a b = some product) :
    product = a * b := by
  unfold wideMul? at multiplied
  split at multiplied
  · cases multiplied
    rfl
  · cases multiplied

theorem mulDiv_eq_ok {a b d r : Nat} (computed : mulDiv a b d = .ok r) : r = a * b / d := by
  unfold mulDiv at computed
  split at computed
  · cases computed
  · split at computed
    · cases computed
    · rename_i product multiplied
      rw [wideMul?_eq_some multiplied] at computed
      split at computed
      · cases computed
        rfl
      · cases computed

theorem mulDiv_error_cases {a b d : Nat} {fault : LockError} (failed : mulDiv a b d = .error fault) :
    fault = .divisionByZero ∨ fault = .arithmeticOverflow := by
  unfold mulDiv at failed
  split at failed
  · cases failed
    exact .inl rfl
  · split at failed
    · cases failed
      exact .inr rfl
    · split at failed
      · cases failed
      · cases failed
        exact .inr rfl

theorem ratio_eq {part : Nat} (whole : Nat) (hp : part < amountBound) :
    ratio part whole =
      if whole = 0 then none
      else if part * fixedOne / whole < amountBound then some (part * fixedOne / whole) else none := by
  have oneFits : fixedOne < amountBound := by decide
  unfold ratio
  rw [mulDiv_eq whole hp oneFits]
  by_cases empty : whole = 0
  · simp [empty]
  · by_cases fits : part * fixedOne / whole < amountBound
    · simp [empty, fits]
    · simp [empty, fits]

theorem pow_ten_lt_amountBound_iff (k : Nat) : Nat.pow 10 k < amountBound ↔ k ≤ 38 := by
  constructor
  · intro fits
    refine Nat.le_of_not_lt fun large => ?_
    have grown : Nat.pow 10 39 ≤ Nat.pow 10 k := Nat.pow_le_pow_right (by decide) large
    have past : amountBound ≤ Nat.pow 10 39 := by decide
    omega
  · intro small
    calc Nat.pow 10 k ≤ Nat.pow 10 38 := Nat.pow_le_pow_right (by decide) small
      _ < amountBound := by decide

theorem tokenUnit_eq (decimals : Nat) :
    tokenUnit decimals =
      if decimals ≤ 38 then .ok (Nat.pow 10 decimals) else .error .arithmeticOverflow := by
  simp only [tokenUnit, pow_ten_lt_amountBound_iff]

theorem marketCap_eq {supply price : Nat} (decimals : Nat) (hs : supply < amountBound)
    (hp : price < amountBound) :
    marketCap supply price decimals =
      if decimals ≤ 38 ∧ supply * price / Nat.pow 10 decimals < amountBound then
        .ok (supply * price / Nat.pow 10 decimals)
      else .error .arithmeticOverflow := by
  unfold marketCap
  rw [tokenUnit_eq]
  by_cases small : decimals ≤ 38
  · -- one whole token is a positive divisor, so only the quotient can overflow
    have unitPositive : Nat.pow 10 decimals ≠ 0 := Nat.ne_of_gt (Nat.pow_pos (by decide))
    simp only [small, if_true, true_and, bind, Except.bind, mulDiv_eq _ hs hp, unitPositive, if_false]
  · simp [small, bind, Except.bind]

/-- Fixed-point arithmetic on 128-bit amounts is exact. For amounts `a` and `b`, the checked
256-bit product never fails, and `mulDiv a b d` is a division by zero exactly when `d = 0`,
otherwise `⌊a · b / d⌋` when that fits 128 bits and an overflow when it does not. The ratio of
two amounts is missing for a zero whole and past 128 bits, and is `⌊part · 10^18 / whole⌋`
otherwise; one whole token is `10^k` for up to 38 decimals and an overflow beyond; the market
capitalisation is `⌊supply · price / 10^k⌋` when there are at most 38 decimals and it fits 128
bits, and an overflow otherwise. -/
theorem fixedPoint_exact :
    (∀ a b d : Nat, a < amountBound → b < amountBound →
      wideMul? a b = some (a * b) ∧
      mulDiv a b d =
        if d = 0 then .error .divisionByZero
        else if a * b / d < amountBound then .ok (a * b / d) else .error .arithmeticOverflow) ∧
    (∀ part whole : Nat, part < amountBound →
      ratio part whole =
        if whole = 0 then none
        else if part * fixedOne / whole < amountBound then some (part * fixedOne / whole)
        else none) ∧
    (∀ decimals : Nat, tokenUnit decimals =
      if decimals ≤ 38 then .ok (Nat.pow 10 decimals) else .error .arithmeticOverflow) ∧
    (∀ supply price decimals : Nat, supply < amountBound → price < amountBound →
      marketCap supply price decimals =
        if decimals ≤ 38 ∧ supply * price / Nat.pow 10 decimals < amountBound then
          .ok (supply * price / Nat.pow 10 decimals)
        else .error .arithmeticOverflow) :=
  ⟨fun _ _ d ha hb => ⟨wideMul?_of_lt ha hb, mulDiv_eq d ha hb⟩,
    fun _ whole hp => ratio_eq whole hp,
    tokenUnit_eq,
    fun _ _ decimals hs hp => marketCap_eq decimals hs hp⟩

/-- At the widest amounts the product is `2^256 − 2^129 + 1`, still within 256 bits, and dividing
it by the widest amount gives that amount back. -/
theorem fixedPoint_exact_widest :
    wideMul? (amountBound - 1) (amountBound - 1) = some ((amountBound - 1) * (amountBound - 1)) ∧
      mulDiv (amountBound - 1) (amountBound - 1) (amountBound - 1) = .ok (amountBound - 1) := by
  obtain ⟨product, quotient⟩ :=
    fixedPoint_exact.1 (amountBound - 1) (amountBound - 1) (amountBound - 1) (by decide) (by decide)
  refine ⟨product, ?_⟩
  rw [quotient, if_neg (by decide), Nat.mul_div_cancel _ (by decide), if_pos (by decide)]

end Escrow
