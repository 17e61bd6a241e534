import JitHost.Number.Decimal
import JitHost.Proofs.Number.Rounding

/-!
# Decimals and the numbers they are read as

`Decimal.value` is what a decimal is worth. A decimal is read as the number that is nearest to its
exact value (`Decimal.magnitude_eq_min`); the shortcuts for very large and very small decimals do
not show. So the shortest digits of a number are read as the number (`Decimal.magnitude_shortest`).
-/

namespace JitHost.Number

namespace Decimal

/-- The exact value of a decimal. -/
def value (d : Decimal) : ℚ := d.digits * 10 ^ d.exponent

variable {d c : Decimal}

theorem two_pow_le_ten_pow : (2 : ℚ) ^ (1200 : Int) ≤ 10 ^ (400 : Int) := by
  have height : (2 : ℚ) ^ (1200 : Nat) = (2 ^ 3) ^ 400 := by rw [← pow_mul]
  have hle : ((2 : ℚ) ^ 3) ^ 400 ≤ 10 ^ 400 := pow_le_pow_left₀ (by norm_num) (by norm_num) 400
  rw [← height] at hle
  exact_mod_cast hle

/-- Above the shortcut for great exponents everything is infinite. -/
theorem finiteValue_infinity_le (hdigits : d.digits ≠ 0) (hexponent : 400 < d.exponent) :
    Format.double.finiteValue Format.double.infinity ≤ d.value := by
  have hone : (1 : ℚ) ≤ d.digits := by exact_mod_cast Nat.pos_of_ne_zero hdigits
  have hparts : Format.double.finiteParts Format.double.infinity = (2 ^ 52, 972) := by decide
  calc Format.double.finiteValue Format.double.infinity
      = (2 ^ 52 : Nat) * 2 ^ (972 : Int) := by rw [Format.finiteValue, hparts]
    _ = 2 ^ (1024 : Int) := by
      rw [Nat.cast_pow, Nat.cast_ofNat, ← zpow_natCast, ← zpow_add₀ two_ne_zero]
      norm_num
    _ ≤ 2 ^ (1200 : Int) := zpow_le_zpow_right₀ (by norm_num) (by norm_num)
    _ ≤ 10 ^ (400 : Int) := two_pow_le_ten_pow
    _ ≤ 10 ^ d.exponent := zpow_le_zpow_right₀ (by norm_num) (by omega)
    _ ≤ d.value := le_mul_of_one_le_left (by positivity) hone

/-- Below the shortcut for small decimals everything is zero. -/
theorem two_mul_value_lt (hexponent : d.exponent + d.digits.log2 < -400) :
    2 * d.value < 2 ^ (-1074 : Int) := by
  have hdigits : (d.digits : ℚ) ≤ 2 ^ (d.digits.log2 + 1 : Int) := by
    have hlt := Nat.lt_log2_self (n := d.digits)
    exact_mod_cast Nat.le_of_lt hlt
  have hpower : (10 : ℚ) ^ d.exponent ≤ 10 ^ (-400 : Int) * 2 ^ (-(d.digits.log2 + 1 : Int)) := by
    calc (10 : ℚ) ^ d.exponent ≤ 10 ^ (-400 + -(d.digits.log2 + 1 : Int)) :=
          zpow_le_zpow_right₀ (by norm_num) (by omega)
      _ = 10 ^ (-400 : Int) * 10 ^ (-(d.digits.log2 + 1 : Int)) := zpow_add₀ (by norm_num) _ _
      _ ≤ 10 ^ (-400 : Int) * 2 ^ (-(d.digits.log2 + 1 : Int)) := by
        rw [zpow_neg _ (d.digits.log2 + 1 : Int), zpow_neg _ (d.digits.log2 + 1 : Int)]
        gcongr
        exact zpow_le_zpow_left₀ (by omega) (by norm_num) (by norm_num)
  calc 2 * d.value
      ≤ 2 * (2 ^ (d.digits.log2 + 1 : Int) *
          (10 ^ (-400 : Int) * 2 ^ (-(d.digits.log2 + 1 : Int)))) := by
        unfold value
        gcongr
    _ = 2 * 10 ^ (-400 : Int) := by
        rw [mul_left_comm (2 ^ _), ← zpow_add₀ two_ne_zero, add_neg_cancel, zpow_zero, mul_one]
    _ ≤ 2 * 2 ^ (-1200 : Int) := by
        rw [zpow_neg, zpow_neg]
        gcongr
        exact two_pow_le_ten_pow
    _ = 2 ^ (-1199 : Int) := by
        rw [← zpow_one_add₀ two_ne_zero]
        norm_num
    _ < 2 ^ (-1074 : Int) := zpow_lt_zpow_right₀ (by norm_num) (by norm_num)

theorem value_nonneg (d : Decimal) : 0 ≤ d.value := by
  unfold value
  positivity

/-- A decimal is read as what is nearest to its value, as far as there are finite numbers. -/
theorem magnitude_eq_min {magnitude : Nat}
    (h : IsNearest Format.double.finiteValue d.value magnitude) :
    d.magnitude = min magnitude Format.double.infinity := by
  have hround : ∀ {num den : Nat}, den ≠ 0 → d.value = num / den →
      Format.double.roundMagnitude num den = min magnitude Format.double.infinity :=
    fun hden hvalue => Format.roundMagnitude_eq_min (by decide) hden (hvalue ▸ h)
  -- All branches but the two shortcuts round a quotient that is the value of the decimal.
  unfold Decimal.magnitude
  by_cases hzero : d.digits = 0
  · have hvalue : d.value = (0 : Nat) / (1 : Nat) := by
      rw [value, hzero, Nat.cast_zero, zero_mul, zero_div]
    rw [if_pos hzero, ← hround Nat.one_ne_zero hvalue]
    rfl
  rw [if_neg hzero]
  by_cases hlarge : 400 < d.exponent
  · have hle := h.le_of_value_le (Format.strictMono_finiteValue _)
      (finiteValue_infinity_le hzero hlarge)
    rw [if_pos hlarge, Nat.min_eq_right hle]
  rw [if_neg hlarge]
  by_cases hsmall : d.exponent + d.digits.log2 < -400
  · have hnone := Format.eq_zero_of_isNearest h d.value_nonneg (two_mul_value_lt hsmall)
    rw [if_pos hsmall, hnone, Nat.zero_min]
  rw [if_neg hsmall]
  by_cases hwhole : 0 ≤ d.exponent
  · obtain ⟨n, hn⟩ := Int.eq_ofNat_of_zero_le hwhole
    rw [if_pos hwhole]
    refine hround Nat.one_ne_zero ?_
    rw [value, hn, Int.toNat_natCast, zpow_natCast]
    push_cast
    rw [div_one]
  · obtain ⟨n, hn⟩ := Int.eq_ofNat_of_zero_le (a := -d.exponent) (by omega)
    rw [if_neg hwhole]
    refine hround (Nat.pow_pos (by decide)).ne' ?_
    rw [value, ← neg_neg d.exponent, hn, neg_neg, Int.toNat_natCast, zpow_neg, zpow_natCast]
    push_cast
    rw [div_eq_mul_inv]

/-- Decimals of one value are read alike. -/
theorem magnitude_congr (h : d.value = c.value) : d.magnitude = c.magnitude := by
  obtain ⟨num, den, hden, hvalue⟩ := exists_ratio_of_nonneg c.value_nonneg
  obtain ⟨magnitude, hnearest, -⟩ :=
    Format.exists_isNearest (f := Format.double) (by decide) num hden
  rw [hvalue] at hnearest
  rw [magnitude_eq_min hnearest, magnitude_eq_min (h ▸ hnearest)]

/-- A decimal whose value is that of a finite number is read as this number. -/
theorem magnitude_of_finiteValue {magnitude : Nat}
    (hfinite : magnitude < Format.double.infinity)
    (h : d.value = Format.double.finiteValue magnitude) : d.magnitude = magnitude := by
  have hself := IsNearest.self Format.double.strictMono_finiteValue magnitude
  rw [magnitude_eq_min (h ▸ hself), Nat.min_eq_left hfinite.le]

/-! ## The shortest digits -/

/-- Zeros at the end of the digits count as much as the exponent that replaces them. -/
theorem value_trimZeros (digits : Nat) (exponent : Int) :
    (trimZeros digits exponent).value = (⟨digits, exponent⟩ : Decimal).value := by
  fun_induction trimZeros digits exponent with
  | case1 digits exponent hlast => rfl
  | case2 digits exponent hlast ih =>
    have hdigits : digits = digits / 10 * 10 := by omega
    have hcast : (digits : ℚ) = (digits / 10 : Nat) * 10 := by exact_mod_cast hdigits
    rw [ih, value, value, hcast, zpow_add_one₀ (by norm_num), mul_comm (10 ^ exponent : ℚ),
      ← mul_assoc]

/-- All digits of a magnitude are worth what it is. -/
theorem value_exact (magnitude : Nat) :
    (exact magnitude).value = Format.double.finiteValue magnitude := by
  unfold exact Format.finiteValue
  obtain ⟨significand, exponent⟩ := Format.double.finiteParts magnitude
  dsimp only
  by_cases hexponent : 0 ≤ exponent
  · obtain ⟨n, rfl⟩ := Int.eq_ofNat_of_zero_le hexponent
    rw [if_pos hexponent, value, Int.toNat_natCast, zpow_zero, mul_one, zpow_natCast]
    push_cast
    rfl
  · obtain ⟨n, hn⟩ := Int.eq_ofNat_of_zero_le (a := -exponent) (by omega)
    have hten : (10 : ℚ) ^ exponent = (5 ^ n)⁻¹ * 2 ^ exponent := by
      rw [← neg_neg exponent, hn, zpow_neg, zpow_neg, zpow_natCast, zpow_natCast, ← mul_inv,
        ← mul_pow]
      norm_num
    rw [if_neg hexponent, value, hn, Int.toNat_natCast, hten]
    push_cast
    rw [mul_assoc, mul_inv_cancel_left₀ (by positivity)]

/-- Whatever is found on a grid reads back. -/
theorem magnitude_of_onGrid? {magnitude num den : Nat} {exponent : Int}
    (h : onGrid? magnitude num den exponent = some d) : d.magnitude = magnitude := by
  unfold onGrid? at h
  dsimp only at h
  generalize (if 0 ≤ exponent then (num, den * 10 ^ exponent.toNat)
    else (num * 10 ^ (-exponent).toNat, den)) = scaled at h
  split at h
  · rename_i hbelow habove
    cases h
    split
    · exact of_decide_eq_true hbelow
    · exact of_decide_eq_true habove
  · rename_i hbelow habove
    cases h
    exact of_decide_eq_true hbelow
  · rename_i hbelow habove
    cases h
    exact of_decide_eq_true habove
  · cases h

/-- The shortest digits of a number are read as the number. -/
theorem magnitude_shortest {magnitude : Nat} (hfinite : magnitude < Format.double.infinity) :
    (shortest magnitude).magnitude = magnitude := by
  unfold shortest
  dsimp only
  rw [magnitude_congr (value_trimZeros _ _)]
  cases hfound : (List.range 17).findSome? fun n =>
      onGrid? magnitude (ratio magnitude).1 (ratio magnitude).2
        (pointPosition (ratio magnitude).1 (ratio magnitude).2 - (n + 1 : Nat)) with
  -- Whether seventeen digits always suffice does not matter here.
  | none => exact magnitude_of_finiteValue hfinite (value_exact magnitude)
  | some d =>
    obtain ⟨n, -, hn⟩ := List.exists_of_findSome?_eq_some hfound
    exact magnitude_of_onGrid? hn

end Decimal

end JitHost.Number
