import Escrow.FixedPoint

/-! Which texts read as fixed-point decimals.

A decimal is written as whole digits and an optional `.` followed by at most eighteen fraction
digits; the whole digits may be left out when fraction digits follow (`Decimal`). The whole part
is read by the unsigned integer reading, which takes one leading `+`, so `+1` reads as `1`.
`parseFixed_eq_ok_iff` says that a text with no `+` after its point is read exactly when it
spells such a decimal whose value is below 2^128, and that the reading is that value. A `+` after
the point is read as well, but it then takes one of the eighteen places of the padded fraction
(`0.+5` reads as `0.05`); those texts are left aside.
-/

set_option autoImplicit false

namespace Escrow.Text

def digitsFrom (acc : Nat) (digits : List Char) : Nat :=
  digits.foldl (fun acc c => 10 * acc + (c.toNat - '0'.toNat)) acc

def digitsValue (digits : List Char) : Nat := digitsFrom 0 digits

theorem digitsFrom_cons (acc : Nat) (c : Char) (rest : List Char) :
    digitsFrom acc (c :: rest) = digitsFrom (10 * acc + (c.toNat - '0'.toNat)) rest :=
  List.foldl_cons

theorem digitsFrom_append (acc : Nat) (first second : List Char) :
    digitsFrom acc (first ++ second) = digitsFrom (digitsFrom acc first) second :=
  List.foldl_append

theorem le_digitsFrom (acc : Nat) (digits : List Char) : acc ≤ digitsFrom acc digits := by
  induction digits generalizing acc with
  | nil => exact Nat.le_refl acc
  | cons c rest ih =>
    rw [digitsFrom_cons]
    exact Nat.le_trans (by omega) (ih _)

theorem digitsFrom_zeros (acc k : Nat) :
    digitsFrom acc (List.replicate k '0') = acc * Nat.pow 10 k := by
  induction k generalizing acc with
  | zero => simp [digitsFrom]
  | succ k ih =>
    rw [List.replicate_succ, digitsFrom_cons, ih, Nat.sub_self, Nat.add_zero]
    show 10 * acc * Nat.pow 10 k = acc * (Nat.pow 10 k * 10)
    rw [Nat.mul_comm 10 acc, Nat.mul_assoc, Nat.mul_comm 10]

theorem digitsValue_append_zeros (digits : List Char) (k : Nat) :
    digitsValue (digits ++ List.replicate k '0') = digitsValue digits * Nat.pow 10 k := by
  rw [digitsValue, digitsFrom_append, digitsFrom_zeros, digitsValue]

/-! ### Reading unsigned integers -/

theorem readDigits_eq_ok {bound : Nat} {excess : IntFault} {digits : List Char} {acc n : Nat}
    (start : acc < bound) :
    readDigits bound excess digits acc = .ok n ↔
      (∀ c ∈ digits, c.isDigit) ∧ digitsFrom acc digits < bound ∧ n = digitsFrom acc digits := by
  induction digits generalizing acc with
  | nil =>
    simp only [readDigits, Except.ok.injEq, List.not_mem_nil, false_implies, implies_true,
      true_and]
    exact ⟨fun same => ⟨start, same.symm⟩, fun read => read.2.symm⟩
  | cons c rest ih =>
    rw [digitsFrom_cons]
    by_cases digit : c.isDigit
    · by_cases below : 10 * acc + (c.toNat - '0'.toNat) < bound
      · simp only [readDigits, digit, if_true, below, ih below, List.mem_cons, forall_eq_or_imp,
          true_and]
      · -- the next value already reaches the bound, and every later one is larger
        have past := le_digitsFrom (10 * acc + (c.toNat - '0'.toNat)) rest
        simp only [readDigits, digit, if_true, below, if_false, reduceCtorEq, false_iff]
        exact fun read => below (Nat.lt_of_le_of_lt past read.2.1)
    · simp only [readDigits, digit, Bool.false_eq_true, if_false, reduceCtorEq, false_iff]
      exact fun read => digit (read.1 c List.mem_cons_self)

theorem parseNat_eq_ok {bound : Nat} {s : String} {n : Nat} (positive : 0 < bound) :
    parseNat bound s = .ok n ↔
      ∃ digits, (s.toList = digits ∨ s.toList = '+' :: digits) ∧ digits ≠ [] ∧
        (∀ c ∈ digits, c.isDigit) ∧ digitsValue digits < bound ∧ n = digitsValue digits := by
  have plusNotDigit : ('+').isDigit = false := by decide
  unfold parseNat
  split
  · rename_i empty
    simp only [reduceCtorEq, false_iff, empty]
    rintro ⟨digits, (same | same), nonempty, -⟩
    · exact nonempty same.symm
    · cases same
  · rename_i plusOnly
    simp only [reduceCtorEq, false_iff, plusOnly]
    rintro ⟨digits, (same | same), nonempty, digit, -⟩
    · cases same
      exact absurd (digit '+' List.mem_cons_self) (by simp [plusNotDigit])
    · cases same
      exact nonempty rfl
  · rename_i digits nonempty signed
    rw [readDigits_eq_ok positive, signed]
    constructor
    · rintro ⟨digit, fits, rfl⟩
      exact ⟨digits, .inr rfl, nonempty, digit, fits, rfl⟩
    · rintro ⟨other, (same | same), -, digit, fits, rfl⟩
      · cases same
        exact absurd (digit '+' List.mem_cons_self) (by simp [plusNotDigit])
      · cases same
        exact ⟨digit, fits, rfl⟩
  · rename_i notEmpty notPlusOnly unsigned
    rw [readDigits_eq_ok positive]
    constructor
    · rintro ⟨digit, fits, rfl⟩
      exact ⟨s.toList, .inl rfl, notEmpty, digit, fits, rfl⟩
    · rintro ⟨other, (same | same), -, digit, fits, rfl⟩
      · cases same
        exact ⟨digit, fits, rfl⟩
      · exact absurd same (unsigned other)

/-! ### Decimals -/

def signPrefix (plus : Bool) : List Char := if plus then ['+'] else []

/-- A decimal as written: an optional `+`, whole digits, and an optional point followed by
fraction digits. -/
structure Decimal where
  plus : Bool
  whole : List Char
  point : Bool
  fraction : List Char

namespace Decimal

def text (d : Decimal) : List Char :=
  signPrefix d.plus ++ d.whole ++ (if d.point then '.' :: d.fraction else [])

/-- Digits only, at most eighteen of them after the point, and at least one in all; a sign only
before whole digits, and fraction digits only after a point. -/
structure Valid (d : Decimal) : Prop where
  wholeDigits : ∀ c ∈ d.whole, c.isDigit
  fractionDigits : ∀ c ∈ d.fraction, c.isDigit
  places : d.fraction.length ≤ fixedPlaces
  written : d.whole ≠ [] ∨ d.fraction ≠ []
  signed : d.plus = true → d.whole ≠ []
  pointed : d.fraction ≠ [] → d.point = true

def value (d : Decimal) : Nat :=
  digitsValue d.whole * fixedOne + digitsValue d.fraction * Nat.pow 10 (fixedPlaces - d.fraction.length)

end Decimal

/-! ### Reading a decimal -/

def beforePoint (cs : List Char) : List Char := cs.takeWhile (· != '.')

def afterPoint (cs : List Char) : List Char := (cs.dropWhile (· != '.')).drop 1

def padFraction (fraction : List Char) : List Char :=
  if fraction = [] then [] else fraction ++ List.replicate (fixedPlaces - fraction.length) '0'

theorem dropWhile_point (cs : List Char) :
    cs.dropWhile (· != '.') = [] ∨ cs.dropWhile (· != '.') = '.' :: afterPoint cs := by
  induction cs with
  | nil => exact .inl rfl
  | cons c rest ih =>
    by_cases point : c = '.'
    · subst point
      exact .inr rfl
    · have skipped : (c :: rest).dropWhile (· != '.') = rest.dropWhile (· != '.') :=
        List.dropWhile_cons_of_pos (by simpa using point)
      rw [afterPoint, skipped]
      exact ih

theorem utf8ByteSize_ofList_digits {cs : List Char} (digits : ∀ c ∈ cs, c.isDigit) :
    (String.ofList cs).utf8ByteSize = cs.length := by
  induction cs with
  | nil => rfl
  | cons c rest ih =>
    have ascii : c.utf8Size = 1 := by
      have bounds := Char.isDigit_iff_toNat.mp (digits c List.mem_cons_self)
      refine Char.utf8Size_eq_one_iff.mpr (UInt32.le_iff_toNat_le.mpr ?_)
      show c.toNat ≤ 127
      exact Nat.le_trans bounds.2 (by decide)
    rw [String.ofList_cons, String.utf8ByteSize_append, String.utf8ByteSize_singleton, ascii,
      ih fun d member => digits d (List.mem_cons_of_mem c member), List.length_cons, Nat.add_comm]

theorem fixedPart_eq_ok_of_isEmpty {whole part : String} {n : Nat} (written : part.isEmpty = false) :
    fixedPart whole part = .ok n ↔ parseNat amountBound part = .ok n := by
  simp only [fixedPart, written, Bool.false_eq_true, if_false]
  split <;> simp_all

theorem fixedPart_ofList_eq_ok {whole : String} {cs : List Char} {n : Nat} :
    fixedPart whole (String.ofList cs) = .ok n ↔
      ∃ plus digits, cs = signPrefix plus ++ digits ∧ (plus = true → digits ≠ []) ∧
        (∀ c ∈ digits, c.isDigit) ∧ digitsValue digits < amountBound ∧ n = digitsValue digits := by
  by_cases empty : cs = []
  · subst empty
    have blank : ("" : String).isEmpty = true := rfl
    simp only [fixedPart, String.ofList_nil, blank, if_true, Except.ok.injEq]
    constructor
    · rintro rfl
      exact ⟨false, [], rfl, by simp, by simp, by decide, rfl⟩
    · rintro ⟨plus, digits, same, signed, -, -, rfl⟩
      cases plus
      · cases same
        rfl
      · cases same
  · have written : (String.ofList cs).isEmpty = false := by
      simpa [String.isEmpty_iff, String.ofList_eq_empty_iff] using empty
    rw [fixedPart_eq_ok_of_isEmpty written, parseNat_eq_ok (by decide), String.toList_ofList]
    constructor
    · rintro ⟨digits, (same | same), nonzero, digit, fits, rfl⟩
      · exact ⟨false, digits, by simpa [signPrefix] using same, by simp, digit, fits, rfl⟩
      · exact ⟨true, digits, by simpa [signPrefix] using same, fun _ => nonzero, digit, fits, rfl⟩
    · rintro ⟨plus, digits, rfl, signed, digit, fits, rfl⟩
      cases plus
      · exact ⟨digits, .inl rfl, by simpa [signPrefix] using empty, digit, fits, rfl⟩
      · exact ⟨digits, .inr rfl, signed rfl, digit, fits, rfl⟩

theorem isEmpty_ofList (cs : List Char) : (String.ofList cs).isEmpty = cs.isEmpty := by
  cases cs with
  | nil => rfl
  | cons c rest =>
    simp

theorem parseFixed_eq_ok_stages {s : String} {v : Nat} :
    parseFixed s = .ok v ↔
      (beforePoint s.toList ≠ [] ∨ afterPoint s.toList ≠ []) ∧
      (String.ofList (afterPoint s.toList)).utf8ByteSize ≤ fixedPlaces ∧
      ∃ w f, fixedPart s (String.ofList (beforePoint s.toList)) = .ok w ∧
        fixedPart s (String.ofList (padFraction (afterPoint s.toList))) = .ok f ∧
        w * fixedOne + f < amountBound ∧ v = w * fixedOne + f := by
  unfold parseFixed beforePoint afterPoint
  generalize List.takeWhile (· != '.') s.toList = whole
  generalize List.drop 1 (List.dropWhile (· != '.') s.toList) = fraction
  have padded : (if fraction = [] then "" else String.ofList fraction ++
      String.ofList (List.replicate (fixedPlaces - fraction.length) '0')) =
      String.ofList (padFraction fraction) := by
    unfold padFraction
    split <;> simp [String.ofList_append]
  simp only [bind, Except.bind, throw, throwThe, MonadExceptOf.throw, pure, Except.pure,
    isEmpty_ofList, Bool.and_eq_true, List.isEmpty_iff, String.length_ofList, padded]
  by_cases blank : whole = [] ∧ fraction = []
  · simp [blank]
  rw [if_neg blank]
  have written : whole ≠ [] ∨ fraction ≠ [] :=
    if empty : whole = [] then .inr fun none => blank ⟨empty, none⟩ else .inl empty
  by_cases long : (String.ofList fraction).utf8ByteSize > fixedPlaces
  · simp only [if_pos long, reduceCtorEq, false_iff]
    exact fun read => Nat.not_le.mpr long read.2.1
  rw [if_neg long]
  cases readWhole : fixedPart s (String.ofList whole) with
  | error fault => simp
  | ok w =>
    cases readFraction : fixedPart s (String.ofList (padFraction fraction)) with
    | error fault => simp
    | ok f =>
      by_cases fits : w * fixedOne + f < amountBound
      · have short : (String.ofList fraction).utf8ByteSize ≤ fixedPlaces := Nat.le_of_not_lt long
        simp only [fits, if_true, Except.ok.injEq]
        constructor
        · intro same
          exact ⟨written, short, w, f, rfl, rfl, fits, same.symm⟩
        · rintro ⟨-, -, w', f', sameWhole, sameFraction, -, rfl⟩
          cases sameWhole
          cases sameFraction
          rfl
      · simp [fits]

theorem ne_point_of_isDigit {c : Char} (digit : c.isDigit) : (c != '.') = true := by
  by_cases point : c = '.'
  · subst point
    cases digit
  · simpa using point

theorem isDigit_of_mem_padFraction {fraction : List Char} (digits : ∀ c ∈ fraction, c.isDigit) :
    ∀ c ∈ padFraction fraction, c.isDigit := by
  unfold padFraction
  split
  · simp
  · intro c member
    rcases List.mem_append.mp member with inFraction | padding
    · exact digits c inFraction
    · rw [List.eq_of_mem_replicate padding]
      rfl

theorem digitsValue_padFraction (fraction : List Char) :
    digitsValue (padFraction fraction) =
      digitsValue fraction * Nat.pow 10 (fixedPlaces - fraction.length) := by
  unfold padFraction
  split
  · rename_i empty
    subst empty
    simp [digitsValue, digitsFrom]
  · exact digitsValue_append_zeros _ _

theorem mem_padFraction {fraction : List Char} {c : Char} (member : c ∈ fraction) :
    c ∈ padFraction fraction := by
  unfold padFraction
  split
  · rename_i empty
    subst empty
    cases member
  · exact List.mem_append_left _ member

theorem padFraction_ne_signed {fraction digits : List Char} (unsigned : '+' ∉ fraction) :
    padFraction fraction ≠ signPrefix true ++ digits := by
  intro signed
  cases fraction with
  | nil => simp [padFraction, signPrefix] at signed
  | cons c rest =>
    simp only [padFraction, reduceCtorEq, if_false, signPrefix, if_true, List.cons_append,
      List.cons.injEq] at signed
    rw [signed.1] at unsigned
    exact unsigned List.mem_cons_self

theorem ne_point_of_mem_whole {d : Decimal} (valid : d.Valid) :
    ∀ c ∈ signPrefix d.plus ++ d.whole, (c != '.') = true := by
  intro c member
  rcases List.mem_append.mp member with signed | inWhole
  · cases plus : d.plus <;> simp [plus, signPrefix] at signed
    subst signed
    rfl
  · exact ne_point_of_isDigit (valid.wholeDigits c inWhole)

theorem beforePoint_text {d : Decimal} (valid : d.Valid) :
    beforePoint d.text = signPrefix d.plus ++ d.whole := by
  unfold beforePoint Decimal.text
  rw [List.takeWhile_append_of_pos (ne_point_of_mem_whole valid)]
  cases d.point <;> simp

theorem afterPoint_text {d : Decimal} (valid : d.Valid) : afterPoint d.text = d.fraction := by
  unfold afterPoint Decimal.text
  rw [List.dropWhile_append_of_pos (ne_point_of_mem_whole valid)]
  cases point : d.point
  · -- without a point there are no fraction digits
    have none : d.fraction = [] := Classical.byContradiction fun written => by
      rw [valid.pointed written] at point
      cases point
    simp [none]
  · simp

theorem exists_point_split (cs : List Char) :
    ∃ point : Bool, cs = beforePoint cs ++ (if point then '.' :: afterPoint cs else []) ∧
      (point = false → afterPoint cs = []) := by
  have whole := List.takeWhile_append_dropWhile (p := (· != '.')) (l := cs)
  rcases dropWhile_point cs with none | pointed
  · refine ⟨false, ?_, fun _ => by simp [afterPoint, none]⟩
    rw [none] at whole
    simpa [beforePoint] using whole.symm
  · refine ⟨true, ?_, nofun⟩
    rw [pointed] at whole
    simpa [beforePoint] using whole.symm

theorem parseFixed_text {d : Decimal} (valid : d.Valid) (fits : d.value < amountBound) :
    parseFixed (String.ofList d.text) = .ok d.value := by
  have wholeFits : digitsValue d.whole < amountBound := by
    have scaled : digitsValue d.whole ≤ digitsValue d.whole * fixedOne :=
      Nat.le_mul_of_pos_right _ (by decide)
    exact Nat.lt_of_le_of_lt (Nat.le_trans scaled (Nat.le_add_right _ _)) fits
  have fractionFits : digitsValue (padFraction d.fraction) < amountBound := by
    rw [digitsValue_padFraction]
    exact Nat.lt_of_le_of_lt (Nat.le_add_left _ _) fits
  have written : signPrefix d.plus ++ d.whole ≠ [] ∨ d.fraction ≠ [] := by
    rcases valid.written with inWhole | inFraction
    · exact .inl fun empty => inWhole (List.append_eq_nil_iff.mp empty).2
    · exact .inr inFraction
  rw [parseFixed_eq_ok_stages, String.toList_ofList, beforePoint_text valid, afterPoint_text valid]
  refine ⟨written, ?_, digitsValue d.whole, digitsValue (padFraction d.fraction),
    fixedPart_ofList_eq_ok.mpr ⟨d.plus, d.whole, rfl, valid.signed, valid.wholeDigits, wholeFits, rfl⟩,
    fixedPart_ofList_eq_ok.mpr ⟨false, padFraction d.fraction, rfl, nofun,
      isDigit_of_mem_padFraction valid.fractionDigits, fractionFits, rfl⟩, ?_, ?_⟩
  · rw [utf8ByteSize_ofList_digits valid.fractionDigits]
    exact valid.places
  · rw [digitsValue_padFraction]
    exact fits
  · rw [digitsValue_padFraction]
    rfl

/-- A text read with no `+` after its point spells a decimal of the grammar, read as its
value. -/
theorem exists_decimal_of_parseFixed {s : String} {v : Nat} (unsignedFraction : '+' ∉ afterPoint s.toList)
    (parsed : parseFixed s = .ok v) :
    ∃ d : Decimal, d.Valid ∧ d.text = s.toList ∧ d.value < amountBound ∧ v = d.value := by
  obtain ⟨written, short, w, f, readWhole, readFraction, fits, rfl⟩ := parseFixed_eq_ok_stages.mp parsed
  obtain ⟨plus, digits, wholeSplit, signed, wholeDigits, -, rfl⟩ := fixedPart_ofList_eq_ok.mp readWhole
  obtain ⟨fractionSigned, padded, fractionSplit, -, paddedDigits, -, rfl⟩ :=
    fixedPart_ofList_eq_ok.mp readFraction
  have unsigned : fractionSigned = false := by
    cases fractionSigned
    · rfl
    · exact absurd fractionSplit (padFraction_ne_signed unsignedFraction)
  subst unsigned
  have samePadding : padFraction (afterPoint s.toList) = padded := by
    simpa [signPrefix] using fractionSplit
  have fractionDigits : ∀ c ∈ afterPoint s.toList, c.isDigit := fun c member =>
    paddedDigits c (samePadding ▸ mem_padFraction member)
  obtain ⟨point, spelled, unpointed⟩ := exists_point_split s.toList
  refine ⟨⟨plus, digits, point, afterPoint s.toList⟩, ⟨wholeDigits, fractionDigits, ?_, ?_, signed, ?_⟩,
    ?_, ?_, ?_⟩
  · rw [← utf8ByteSize_ofList_digits fractionDigits]
    exact short
  · rcases written with inWhole | inFraction
    · refine .inl fun empty => inWhole ?_
      cases plus
      · simpa [wholeSplit, signPrefix] using empty
      · exact absurd empty (signed rfl)
    · exact .inr inFraction
  · intro inFraction
    cases point
    · exact absurd (unpointed rfl) inFraction
    · rfl
  · rw [Decimal.text, ← wholeSplit, ← spelled]
  · rwa [← samePadding, digitsValue_padFraction] at fits
  · rw [← samePadding, digitsValue_padFraction]
    rfl

/-- For texts with no `+` after their point, the fixed-point reading accepts exactly the
decimals of the grammar whose value is below 2^128, a `+` before whole digits included, and
gives that value. -/
theorem parseFixed_eq_ok_iff (s : String) (v : Nat) (unsignedFraction : '+' ∉ afterPoint s.toList) :
    parseFixed s = .ok v ↔
      ∃ d : Decimal, d.Valid ∧ d.text = s.toList ∧ d.value < amountBound ∧ v = d.value := by
  constructor
  · exact exists_decimal_of_parseFixed unsignedFraction
  · rintro ⟨d, valid, spelled, fits, rfl⟩
    have read := parseFixed_text valid fits
    rwa [spelled, String.ofList_toList] at read

theorem parseFixed_eq_ok_iff_signedHalf :
    '+' ∉ afterPoint "+0.5".toList ∧
      (parseFixed "+0.5" = .ok 500000000000000000 ↔
        ∃ d : Decimal, d.Valid ∧ d.text = "+0.5".toList ∧ d.value < amountBound ∧
          500000000000000000 = d.value) :=
  ⟨by decide, parseFixed_eq_ok_iff "+0.5" 500000000000000000 (by decide)⟩

/-- A `+` before the whole digits is read as a sign: `+1` reads as one, though no unsigned
decimal spells it. -/
theorem parseFixed_reads_plus :
    parseFixed "+1" = .ok fixedOne ∧
      ¬ ∃ d : Decimal, d.Valid ∧ d.plus = false ∧ d.text = "+1".toList := by
  constructor
  · let one : Decimal := ⟨true, ['1'], false, []⟩
    have valid : one.Valid :=
      ⟨fun c member => by rw [List.mem_singleton.mp member]; rfl, (fun _ member => nomatch member), by decide,
        .inl (List.cons_ne_nil _ _), fun _ => List.cons_ne_nil _ _, nofun⟩
    have spelled : String.ofList one.text = "+1" := by decide
    have worth : one.value = fixedOne := by
      show digitsValue ['1'] * fixedOne + digitsValue [] * Nat.pow 10 (fixedPlaces - 0) = fixedOne
      rw [show digitsValue ['1'] = 1 from rfl, show digitsValue [] = 0 from rfl, Nat.one_mul,
        Nat.zero_mul, Nat.add_zero]
    have read := parseFixed_text valid (by rw [worth]; decide)
    rwa [spelled, worth] at read
  · rintro ⟨⟨plus, whole, point, fraction⟩, valid, unsigned, spelled⟩
    subst unsigned
    -- the first character, `+`, would be a whole digit or the point
    cases whole with
    | nil => cases point <;> simp [Decimal.text, signPrefix] at spelled
    | cons c rest =>
      simp only [Decimal.text, signPrefix] at spelled
      have first : c = '+' := by
        have := congrArg List.head? spelled
        simpa using this
      have digit := valid.wholeDigits c List.mem_cons_self
      rw [first] at digit
      cases digit

end Escrow.Text
