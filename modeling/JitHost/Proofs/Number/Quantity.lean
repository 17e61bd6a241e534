import JitHost.Number.Literal
import JitHost.Proofs.Number.Rounding

/-!
# What a number is worth

`Double.quantity?` is the rational number or the infinity that a bit pattern stands for; it is all
that counts when numbers are compared (`Double.same_iff_quantity`). Two patterns have one quantity
only if they are the two zeros (`Double.eq_or_isZero_of_quantity`).
-/

namespace JitHost.Number

/-- A rational number or one of the two infinities. -/
inductive Quantity where
  | finite (value : ℚ)
  | infinite (negative : Bool)
  deriving DecidableEq

/-- The quantity of a datum, none if it is not a number. -/
def Datum.quantity? : Datum → Option Quantity
  | .nan => none
  | .infinite negative => some (.infinite negative)
  | .finite negative significand exponent =>
      some (.finite ((if negative then -1 else 1) * (significand * 2 ^ exponent)))

namespace Double

/-- What a number is worth, none if it is not a number. -/
def quantity? (x : Double) : Option Quantity := (Format.double.datum x.pattern).quantity?

/-! ## Sign and magnitude -/

variable {x y : Double}

/-- A number is put together again from its sign and its magnitude. -/
theorem ofMagnitude_self (x : Double) :
    ofMagnitude (Format.double.negative x.pattern) (Format.double.magnitude x.pattern) = x := by
  have hlt : x.pattern < 2 ^ 64 := x.bits.toNat_lt
  have hsign : Format.double.signBit = 2 ^ 63 := rfl
  have hpattern : Format.double.withSign (Format.double.negative x.pattern)
      (Format.double.magnitude x.pattern) = x.pattern := by
    unfold Format.withSign Format.negative Format.magnitude
    rw [hsign]
    by_cases hnegative : x.pattern / 2 ^ 63 % 2 = 1
    · rw [if_pos (decide_eq_true hnegative)]
      omega
    · rw [if_neg (by simpa using hnegative)]
      omega
  rw [ofMagnitude, hpattern, ofPattern, pattern, UInt64.ofNat_toNat]

theorem eq_of_parts
    (hnegative : Format.double.negative x.pattern = Format.double.negative y.pattern)
    (hmagnitude : Format.double.magnitude x.pattern = Format.double.magnitude y.pattern) :
    x = y := by
  rw [← ofMagnitude_self x, hnegative, hmagnitude, ofMagnitude_self]

theorem datum_of_finite (hfinite : Format.double.magnitude x.pattern < Format.double.infinity) :
    Format.double.datum x.pattern = .finite (Format.double.negative x.pattern)
      (Format.double.finiteParts (Format.double.magnitude x.pattern)).1
      (Format.double.finiteParts (Format.double.magnitude x.pattern)).2 := by
  unfold Format.datum
  simp only [if_neg (Nat.not_lt_of_lt hfinite), if_neg (Nat.ne_of_lt hfinite)]

theorem datum_of_infinite
    (hinfinite : Format.double.magnitude x.pattern = Format.double.infinity) :
    Format.double.datum x.pattern = .infinite (Format.double.negative x.pattern) := by
  unfold Format.datum
  simp only [hinfinite, if_neg (Nat.lt_irrefl _), if_true]

theorem datum_of_isNaN (hnan : x.isNaN = true) : Format.double.datum x.pattern = .nan := by
  unfold Format.datum
  simp only [if_pos (of_decide_eq_true hnan)]

/-- A number is finite or infinite, or it is none. -/
theorem finite_or_infinite (hnan : x.isNaN = false) :
    Format.double.magnitude x.pattern < Format.double.infinity ∨
      Format.double.magnitude x.pattern = Format.double.infinity :=
  Nat.lt_or_eq_of_le (Nat.le_of_not_lt (of_decide_eq_false hnan))

/-! ## Quantities -/

theorem quantity?_of_finite
    (hfinite : Format.double.magnitude x.pattern < Format.double.infinity) :
    x.quantity? = some (.finite ((if Format.double.negative x.pattern then -1 else 1) *
      Format.double.finiteValue (Format.double.magnitude x.pattern))) := by
  rw [quantity?, datum_of_finite hfinite]
  rfl

theorem quantity?_of_infinite
    (hinfinite : Format.double.magnitude x.pattern = Format.double.infinity) :
    x.quantity? = some (.infinite (Format.double.negative x.pattern)) := by
  rw [quantity?, datum_of_infinite hinfinite]
  rfl

theorem quantity?_eq_none_iff : x.quantity? = none ↔ x.isNaN = true := by
  constructor
  · intro hnone
    cases hnan : x.isNaN with
    | true => rfl
    | false =>
      rcases finite_or_infinite hnan with hfinite | hinfinite
      · rw [quantity?_of_finite hfinite] at hnone
        cases hnone
      · rw [quantity?_of_infinite hinfinite] at hnone
        cases hnone
  · intro hnan
    rw [quantity?, datum_of_isNaN hnan]
    rfl

theorem isNaN_of_quantity? {quantity : Quantity} (h : x.quantity? = some quantity) :
    x.isNaN = false := by
  rw [Bool.eq_false_iff, ne_eq, ← quantity?_eq_none_iff, h]
  exact Option.some_ne_none quantity

/-- Whether there is a number shows in what it is worth. -/
theorem isNaN_congr (h : x.quantity? = y.quantity?) : x.isNaN = y.isNaN := by
  rw [Bool.eq_iff_iff, ← quantity?_eq_none_iff, h, quantity?_eq_none_iff]

theorem exists_quantity? (hnan : x.isNaN = false) : ∃ quantity, x.quantity? = some quantity :=
  Option.ne_none_iff_exists'.1 (mt quantity?_eq_none_iff.1 (ne_true_of_eq_false hnan))

theorem quantity?_of_isZero (hzero : x.isZero = true) : x.quantity? = some (.finite 0) := by
  have hmagnitude : Format.double.magnitude x.pattern = 0 := of_decide_eq_true hzero
  have hfinite : Format.double.magnitude x.pattern < Format.double.infinity := by
    rw [hmagnitude]
    decide
  rw [quantity?_of_finite hfinite, hmagnitude, Format.finiteValue_zero, mul_zero]

/-- A sign and a value not below zero are determined by their product, but for the sign of zero. -/
theorem sign_value_inj {negative negative' : Bool} {value value' : ℚ} (hvalue : 0 ≤ value)
    (hvalue' : 0 ≤ value')
    (h : (if negative then -1 else 1) * value = (if negative' then -1 else 1) * value') :
    value = value' ∧ (negative = negative' ∨ value = 0) := by
  cases negative with
  | false =>
    cases negative' with
    | false => exact ⟨by simpa using h, .inl rfl⟩
    | true =>
      simp only [Bool.false_eq_true, if_false, if_true, one_mul, neg_mul] at h
      exact ⟨by linarith, .inr (by linarith)⟩
  | true =>
    cases negative' with
    | false =>
      simp only [Bool.false_eq_true, if_false, if_true, one_mul, neg_mul] at h
      exact ⟨by linarith, .inr (by linarith)⟩
    | true => exact ⟨by simpa using h, .inl rfl⟩

/-- Only the two zeros are different numbers of one quantity. -/
theorem eq_or_isZero_of_quantity {quantity : Quantity} (hx : x.quantity? = some quantity)
    (hy : y.quantity? = some quantity) : x = y ∨ x.isZero = true ∧ y.isZero = true := by
  rcases finite_or_infinite (isNaN_of_quantity? hx) with hfinite | hinfinite
  · rw [quantity?_of_finite hfinite, Option.some.injEq] at hx
    rcases finite_or_infinite (isNaN_of_quantity? hy) with hfinite' | hinfinite'
    · rw [quantity?_of_finite hfinite', ← hx, Option.some.injEq, Quantity.finite.injEq] at hy
      obtain ⟨hvalue, hsign⟩ := sign_value_inj (Format.finiteValue_nonneg _ _)
        (Format.finiteValue_nonneg _ _) hy
      have hmagnitude := Format.double.strictMono_finiteValue.injective hvalue
      rcases hsign with hnegative | hzero
      · exact .inl (eq_of_parts hnegative.symm hmagnitude.symm)
      · have hzero' := Format.finiteValue_eq_zero hzero
        exact .inr ⟨decide_eq_true (hmagnitude.symm.trans hzero'), decide_eq_true hzero'⟩
    · rw [quantity?_of_infinite hinfinite', ← hx] at hy
      cases hy
  · rw [quantity?_of_infinite hinfinite, Option.some.injEq] at hx
    rcases finite_or_infinite (isNaN_of_quantity? hy) with hfinite' | hinfinite'
    · rw [quantity?_of_finite hfinite', ← hx] at hy
      cases hy
    · rw [quantity?_of_infinite hinfinite', ← hx, Option.some.injEq, Quantity.infinite.injEq] at hy
      exact .inl (eq_of_parts hy.symm (hinfinite.trans hinfinite'.symm))

/-- Numbers compare equal when they are worth the same. -/
theorem same_iff_quantity : x.same y = true ↔
    ∃ quantity, x.quantity? = some quantity ∧ y.quantity? = some quantity := by
  have hsame : x.same y = true ↔ x.isNaN = false ∧ y.isNaN = false ∧
      (x.bits = y.bits ∨ x.isZero = true ∧ y.isZero = true) := by
    simp only [same, Bool.and_eq_true, Bool.not_eq_true', Bool.or_eq_true, beq_iff_eq, and_assoc]
  rw [hsame]
  constructor
  · rintro ⟨hnan, -, hbits | ⟨hzero, hzero'⟩⟩
    · have hxy : x = y := by
        cases x
        cases y
        exact congrArg _ hbits
      obtain ⟨quantity, hquantity⟩ := exists_quantity? hnan
      exact ⟨quantity, hquantity, hxy ▸ hquantity⟩
    · exact ⟨.finite 0, quantity?_of_isZero hzero, quantity?_of_isZero hzero'⟩
  · rintro ⟨quantity, hx, hy⟩
    exact ⟨isNaN_of_quantity? hx, isNaN_of_quantity? hy,
      (eq_or_isZero_of_quantity hx hy).imp_left (congrArg bits)⟩

end Double

end JitHost.Number
