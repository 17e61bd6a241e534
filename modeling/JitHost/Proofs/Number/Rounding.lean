import JitHost.Number.Binary
import Mathlib.Algebra.Order.Field.Power
import Mathlib.Order.Monotone.Basic
import Mathlib.Tactic.FieldSimp
import Mathlib.Tactic.Linarith
import Mathlib.Tactic.NormNum
import Mathlib.Tactic.Positivity
import Mathlib.Tactic.Ring

/-!
# Rounding a quotient

Among the values that a function numbers 0, 1, 2, …, `IsNearest` says which one a quotient is
rounded to: none is nearer, and of two that are equally near it is the one with the even number.
`roundHalfEven` rounds to natural numbers (`isNearest_roundHalfEven`), and `Format.roundMagnitude`
to the magnitudes of a format (`Format.exists_isNearest`), as if there were no greatest one; what is
too large becomes infinite.

A quotient is rounded to one number only (`IsNearest.unique`), so the rounded magnitude depends on
the quotient and not on how it is written, and a magnitude is rounded to itself.
-/

namespace JitHost.Number

/-! ## The nearest of a sequence of values -/

/-- A quotient is rounded to the value with the number `n`. -/
structure IsNearest (value : Nat → ℚ) (quotient : ℚ) (n : Nat) : Prop where
  le : ∀ other, |value n - quotient| ≤ |value other - quotient|
  even : ∀ other, other ≠ n → |value other - quotient| = |value n - quotient| → n % 2 = 0

namespace IsNearest

variable {value : Nat → ℚ} {quotient : ℚ} {n m : Nat}

theorem le_of_value_le (h : IsNearest value quotient n) (hvalue : StrictMono value)
    (hm : value m ≤ quotient) : m ≤ n := by
  by_contra hlt
  have hless := hvalue (not_le.1 hlt)
  have hle := h.le m
  rw [abs_of_nonpos (by linarith), abs_of_nonpos (by linarith)] at hle
  linarith

theorem le_of_le_value (h : IsNearest value quotient n) (hvalue : StrictMono value)
    (hm : quotient ≤ value m) : n ≤ m := by
  by_contra hlt
  have hless := hvalue (not_le.1 hlt)
  have hle := h.le m
  rw [abs_of_nonneg (by linarith), abs_of_nonneg (by linarith)] at hle
  linarith

/-- A value is rounded to itself. -/
theorem self (hvalue : StrictMono value) (n : Nat) : IsNearest value (value n) n where
  le := by
    intro other
    rw [sub_self, abs_zero]
    exact abs_nonneg _
  even := by
    intro other hne htie
    rw [sub_self, abs_zero, abs_eq_zero, sub_eq_zero] at htie
    exact absurd (hvalue.injective htie) hne

/-- No quotient is rounded to two values. -/
theorem unique (h : IsNearest value quotient n) (h' : IsNearest value quotient m)
    (hvalue : StrictMono value) : n = m := by
  by_contra hne
  wlog hlt : n < m generalizing n m
  · exact this h' h (Ne.symm hne) (lt_of_le_of_ne (not_lt.1 hlt) (Ne.symm hne))
  have hbelow : value n < quotient :=
    not_le.1 fun hle => absurd (h'.le_of_le_value hvalue hle) (not_le.2 hlt)
  have habove : quotient < value m :=
    not_le.1 fun hle => absurd (h.le_of_value_le hvalue hle) (not_le.2 hlt)
  have htie := le_antisymm (h.le m) (h'.le n)
  have heven := h.even m (Ne.symm hne) htie.symm
  have heven' := h'.even n hne htie
  -- Between two even numbers there is a third, and its value is nearer than theirs.
  have hnext : value n < value (n + 1) := hvalue (Nat.lt_succ_self n)
  have hnext' : value (n + 1) < value m := hvalue (by omega)
  have hle := h.le (n + 1)
  rw [abs_of_neg (by linarith), abs_of_pos (by linarith)] at htie
  rw [abs_of_neg (by linarith : value n - quotient < 0)] at hle
  have hnearer : |value (n + 1) - quotient| < -(value n - quotient) :=
    abs_lt.2 ⟨by linarith, by linarith⟩
  exact absurd hle (not_le.2 hnearer)

end IsNearest

/-! ## The nearest natural number -/

section

variable {den : Nat}

/-- The nearest natural number is less than a half away, or a half and even. -/
theorem roundHalfEven_spec (num : Nat) (hden : 0 < den) :
    2 * |(roundHalfEven num den : ℚ) - num / den| < 1 ∨
      2 * |(roundHalfEven num den : ℚ) - num / den| = 1 ∧ roundHalfEven num den % 2 = 0 := by
  have hpos : (0 : ℚ) < den := by exact_mod_cast hden
  have hsum : den * (num / den) + num % den = num := Nat.div_add_mod num den
  have hless : num % den < den := Nat.mod_lt num hden
  unfold roundHalfEven
  extract_lets quotient rest
  -- Both candidates are judged by how far the rest, in parts of the denominator, is from them.
  have hquotient : (num : ℚ) / den = quotient + rest / den := by
    rw [div_eq_iff hpos.ne', add_mul, div_mul_cancel₀ _ hpos.ne', mul_comm]
    exact_mod_cast hsum.symm
  have hrest : (rest : ℚ) / den < 1 := (div_lt_one hpos).2 (by exact_mod_cast hless)
  have hbelow : |(quotient : ℚ) - num / den| = rest / den := by
    rw [hquotient, sub_add_cancel_left, abs_neg, abs_of_nonneg (by positivity)]
  have habove : |((quotient + 1 : Nat) : ℚ) - num / den| = 1 - rest / den := by
    rw [hquotient, Nat.cast_add, Nat.cast_one, add_sub_add_left_eq_sub, abs_of_pos (by linarith)]
  by_cases hlow : 2 * rest < den
  · rw [if_pos hlow, hbelow, ← mul_div_assoc, div_lt_one hpos]
    exact .inl (by exact_mod_cast hlow)
  rw [if_neg hlow]
  by_cases hhigh : den < 2 * rest
  · have hhalf : 1 < 2 * ((rest : ℚ) / den) := by
      rw [← mul_div_assoc, one_lt_div hpos]
      exact_mod_cast hhigh
    rw [if_pos hhigh, habove]
    exact .inl (by linarith)
  rw [if_neg hhigh]
  have hhalf : 2 * ((rest : ℚ) / den) = 1 := by
    have heq : 2 * rest = den := by omega
    rw [← mul_div_assoc, div_eq_one_iff_eq hpos.ne']
    exact_mod_cast heq
  split
  · rename_i heven
    rw [hbelow]
    exact .inr ⟨hhalf, heven⟩
  · rw [habove]
    exact .inr ⟨by linarith, by omega⟩

/-- Two natural numbers are not both nearer than a half. -/
theorem one_le_abs_add_abs {n m : Nat} (h : n ≠ m) (quotient : ℚ) :
    1 ≤ |(n : ℚ) - quotient| + |(m : ℚ) - quotient| := by
  have hone : (1 : ℤ) ≤ |(n : ℤ) - m| := Int.one_le_abs (by omega)
  calc (1 : ℚ) ≤ |(n : ℚ) - m| := by exact_mod_cast hone
    _ = |(n - quotient) - (m - quotient)| := by rw [sub_sub_sub_cancel_right]
    _ ≤ _ := abs_sub _ _

theorem isNearest_roundHalfEven (num : Nat) (hden : 0 < den) :
    IsNearest Nat.cast ((num : ℚ) / den) (roundHalfEven num den) where
  le := by
    intro other
    by_cases hne : other = roundHalfEven num den
    · rw [hne]
    · have hapart := one_le_abs_add_abs hne ((num : ℚ) / den)
      rcases roundHalfEven_spec num hden with hnear | ⟨hhalf, -⟩ <;> linarith
  even := by
    intro other hne htie
    have hapart := one_le_abs_add_abs hne ((num : ℚ) / den)
    rcases roundHalfEven_spec num hden with hnear | ⟨-, heven⟩
    · exact absurd hapart (by linarith)
    · exact heven

end

/-! ## Quotients -/

theorem exists_ratio_of_nonneg {q : ℚ} (hq : 0 ≤ q) :
    ∃ num den : Nat, den ≠ 0 ∧ (num : ℚ) / den = q := by
  obtain ⟨num, hnum⟩ := Int.eq_ofNat_of_zero_le (Rat.num_nonneg.2 hq)
  refine ⟨num, q.den, q.den_nz, ?_⟩
  have hcast : (q.num : ℚ) = num := by
    rw [hnum]
    rfl
  rw [← hcast, Rat.num_div_den]

theorem scaleDown_pos (num : Nat) {den : Nat} (exponent : Int) (hden : 0 < den) :
    0 < (scaleDown num den exponent).2 := by
  unfold scaleDown
  split
  · exact Nat.mul_pos hden (Nat.two_pow_pos _)
  · exact hden

/-- To scale is to multiply by a power of two. -/
theorem scaleDown_value (num den : Nat) (exponent : Int) :
    ((scaleDown num den exponent).1 : ℚ) / (scaleDown num den exponent).2 =
      num / den * 2 ^ (-exponent) := by
  unfold scaleDown
  by_cases h : 0 ≤ exponent
  · obtain ⟨n, rfl⟩ := Int.eq_ofNat_of_zero_le h
    simp only [if_pos h, Int.toNat_natCast, Nat.cast_mul, Nat.cast_pow, Nat.cast_ofNat, zpow_neg,
      zpow_natCast]
    rw [div_mul_eq_div_div, div_eq_mul_inv (_ / _)]
  · obtain ⟨n, hn⟩ := Int.eq_ofNat_of_zero_le (a := -exponent) (by omega)
    simp only [if_neg h, hn, Int.toNat_natCast, Nat.cast_mul, Nat.cast_pow, Nat.cast_ofNat,
      zpow_natCast]
    rw [mul_div_right_comm]

namespace Format

/-! ## The last place -/

variable (f : Format)

/-- The last place of the numbers near a quotient: the least place of the format at which the
quotient is below a significand of full length. -/
structure IsLastPlace (quotient : ℚ) (place : Int) : Prop where
  least_le : f.leastExponent ≤ place
  lt : quotient < 2 ^ (f.precision + place)
  le : f.leastExponent < place → 2 ^ (f.precision + place - 1) ≤ quotient

variable {f} {quotient : ℚ}

theorem bounds_log2 {n : Nat} (hn : n ≠ 0) :
    (2 : ℚ) ^ (n.log2 : Int) ≤ n ∧ (n : ℚ) < 2 ^ (n.log2 + 1 : Int) := by
  have hlow := Nat.log2_self_le hn
  have hhigh := Nat.lt_log2_self (n := n)
  constructor
  · exact_mod_cast hlow
  · exact_mod_cast hhigh

/-- The place that is computed is the last one: the logarithms are off by one at most, and the
comparison with a full significand is exact. -/
theorem isLastPlace_lastPlace {num den : Nat} (hnum : num ≠ 0) (hden : den ≠ 0) :
    f.IsLastPlace (num / den) (f.lastPlace num den) := by
  have hpos : (0 : ℚ) < den := by positivity
  have hpos' : 0 < den := Nat.pos_of_ne_zero hden
  obtain ⟨hnumle, hnumlt⟩ := bounds_log2 hnum
  obtain ⟨hdenle, hdenlt⟩ := bounds_log2 hden
  have hlow : (2 : ℚ) ^ ((num.log2 : Int) - den.log2 - 1) ≤ num / den := by
    rw [le_div_iff₀ hpos]
    calc (2 : ℚ) ^ ((num.log2 : Int) - den.log2 - 1) * den
        ≤ 2 ^ ((num.log2 : Int) - den.log2 - 1) * 2 ^ (den.log2 + 1 : Int) := by gcongr
      _ = 2 ^ (num.log2 : Int) := by
        rw [← zpow_add₀ two_ne_zero]
        congr 1
        omega
      _ ≤ num := hnumle
  have hhigh : (num : ℚ) / den < 2 ^ ((num.log2 : Int) - den.log2 + 1) := by
    rw [div_lt_iff₀ hpos]
    calc (num : ℚ) < 2 ^ (num.log2 + 1 : Int) := hnumlt
      _ = 2 ^ ((num.log2 : Int) - den.log2 + 1) * 2 ^ (den.log2 : Int) := by
        rw [← zpow_add₀ two_ne_zero]
        congr 1
        omega
      _ ≤ 2 ^ ((num.log2 : Int) - den.log2 + 1) * den := by gcongr
  have hfits : ∀ place,
      (scaleDown num den place).1 / (scaleDown num den place).2 < 2 ^ f.precision ↔
        (num : ℚ) / den < 2 ^ (f.precision + place) := by
    intro place
    have hscaled := scaleDown_pos num place hpos'
    have hscaled' : (0 : ℚ) < (scaleDown num den place).2 := by exact_mod_cast hscaled
    rw [Nat.div_lt_iff_lt_mul hscaled, zpow_add₀ two_ne_zero, ← div_lt_iff₀ (by positivity),
      div_eq_mul_inv, ← zpow_neg, ← scaleDown_value, div_lt_iff₀ hscaled', zpow_natCast]
    exact_mod_cast Iff.rfl
  unfold lastPlace
  simp only [hfits]
  split
  · rename_i hlt
    refine ⟨le_max_left .., hlt, fun hleast => le_trans ?_ hlow⟩
    exact zpow_le_zpow_right₀ (by norm_num) (by omega)
  · -- One place further the quotient fits, since it is below the next power of two.
    rename_i hnot
    refine ⟨by omega, lt_of_lt_of_le hhigh ?_, fun _ => ?_⟩
    · exact zpow_le_zpow_right₀ (by norm_num) (by omega)
    · rw [← add_assoc, add_sub_cancel_right]
      exact not_lt.1 hnot

/-! ## The values of magnitudes -/

variable (f) in
/-- The value of a finite magnitude. Those beyond the greatest go on in the same way. -/
def finiteValue (magnitude : Nat) : ℚ :=
  (f.finiteParts magnitude).1 * 2 ^ (f.finiteParts magnitude).2

variable (f) in
/-- The unit at a place, counted from the least one. -/
def unit (count : Nat) : ℚ := 2 ^ (f.leastExponent + count)

variable {count significand magnitude : Nat}

theorem hiddenBit_pos : 0 < f.hiddenBit := Nat.two_pow_pos _

theorem unit_pos (f : Format) (count : Nat) : 0 < f.unit count := zpow_pos two_pos _

theorem unit_add (count more : Nat) : f.unit (count + more) = 2 ^ more * f.unit count := by
  rw [unit, unit, Nat.cast_add, ← add_assoc, zpow_add₀ two_ne_zero, zpow_natCast, mul_comm]

/-- A significand of full length, at any place. -/
theorem two_pow_precision (hprec : 0 < f.precision) (count : Nat) :
    (2 : ℚ) ^ (f.precision + (f.leastExponent + count)) = 2 * f.hiddenBit * f.unit count := by
  have hsucc : f.precision = f.precision - 1 + 1 := by omega
  have hlength : 2 * f.hiddenBit = 2 ^ f.precision := by
    rw [hiddenBit, hsucc, Nat.pow_succ, Nat.add_sub_cancel, Nat.mul_comm]
  have hcast : (2 : ℚ) * f.hiddenBit = 2 ^ f.precision := by exact_mod_cast hlength
  rw [zpow_add₀ two_ne_zero, zpow_natCast, hcast, unit]

theorem finiteParts_of_lt (h : magnitude < f.hiddenBit) :
    f.finiteParts magnitude = (magnitude, f.leastExponent) := by
  simp only [finiteParts, Nat.div_eq_of_lt h, if_true, Nat.mod_eq_of_lt h]

theorem finiteParts_of_normal (field : Nat) {fraction : Nat} (h : fraction < f.hiddenBit) :
    f.finiteParts ((field + 1) * f.hiddenBit + fraction) =
      (fraction + f.hiddenBit, f.leastExponent + field) := by
  have hfield : ((field + 1) * f.hiddenBit + fraction) / f.hiddenBit = field + 1 := by
    rw [Nat.add_comm, Nat.add_mul_div_right _ _ hiddenBit_pos, Nat.div_eq_of_lt h, Nat.zero_add]
  have hplace : f.leastExponent + ((field + 1 : Nat) : Int) - 1 = f.leastExponent + field := by
    omega
  simp only [finiteParts, hfield, if_neg (Nat.succ_ne_zero field), Nat.mul_add_mod_self_right,
    Nat.mod_eq_of_lt h, hplace]

/-- What a magnitude is worth that counts a significand on from the beginning of a place. One that
has reached the next power of two begins the next place, with the same value. -/
theorem finiteValue_packed (hle : significand ≤ 2 * f.hiddenBit)
    (hnormal : count = 0 ∨ f.hiddenBit ≤ significand) :
    f.finiteValue (count * f.hiddenBit + significand) = significand * f.unit count := by
  rcases Nat.lt_or_ge significand f.hiddenBit with hlt | hge
  · have hcount : count = 0 := hnormal.resolve_right (not_le.2 hlt)
    rw [hcount, Nat.zero_mul, Nat.zero_add, finiteValue, finiteParts_of_lt hlt, unit, Nat.cast_zero,
      add_zero]
  · obtain ⟨fraction, rfl⟩ := Nat.exists_eq_add_of_le' hge
    have hmagnitude : count * f.hiddenBit + (fraction + f.hiddenBit) =
        (count + 1) * f.hiddenBit + fraction := by
      rw [Nat.succ_mul, Nat.add_assoc, Nat.add_comm fraction]
    rw [hmagnitude]
    rcases Nat.lt_or_ge fraction f.hiddenBit with hlt | hfull
    · rw [finiteValue, finiteParts_of_normal count hlt, unit]
    · -- The next power of two: twice the hidden bit here is the hidden bit one place further.
      have hfraction : fraction = f.hiddenBit := by omega
      have hnext := finiteParts_of_normal (f := f) (count + 1) hiddenBit_pos
      rw [Nat.add_zero, Nat.zero_add] at hnext
      rw [hfraction, ← Nat.succ_mul, finiteValue, hnext]
      show (f.hiddenBit : ℚ) * f.unit (count + 1) = _
      rw [unit_add, pow_one, ← mul_assoc, mul_comm _ (2 : ℚ), two_mul, Nat.cast_add]

/-- Every magnitude counts its significand on from the beginning of its place. -/
theorem exists_packed (f : Format) (magnitude : Nat) :
    ∃ count significand, magnitude = count * f.hiddenBit + significand ∧
      significand < 2 * f.hiddenBit ∧ (count = 0 ∨ f.hiddenBit ≤ significand) := by
  by_cases hlt : magnitude < f.hiddenBit
  · exact ⟨0, magnitude, by omega, by omega, .inl rfl⟩
  · have hfield : 0 < magnitude / f.hiddenBit := Nat.div_pos (not_lt.1 hlt) hiddenBit_pos
    obtain ⟨count, hcount⟩ := Nat.exists_eq_add_of_lt hfield
    have hfraction : magnitude % f.hiddenBit < f.hiddenBit := Nat.mod_lt _ hiddenBit_pos
    refine ⟨count, f.hiddenBit + magnitude % f.hiddenBit, ?_, by omega, .inr (by omega)⟩
    have hsum := Nat.div_add_mod magnitude f.hiddenBit
    rw [hcount, Nat.zero_add, Nat.mul_comm, Nat.succ_mul, Nat.add_assoc] at hsum
    exact hsum.symm

theorem strictMono_finiteValue (f : Format) : StrictMono f.finiteValue := by
  apply strictMono_nat_of_lt_succ
  intro magnitude
  obtain ⟨count, significand, hmagnitude, hlt, hnormal⟩ := f.exists_packed magnitude
  have hnext := finiteValue_packed (Nat.succ_le_of_lt hlt) (hnormal.imp_right Nat.le_succ_of_le)
  rw [Nat.add_succ, ← hmagnitude] at hnext
  rw [hnext, hmagnitude, finiteValue_packed hlt.le hnormal]
  exact mul_lt_mul_of_pos_right (Nat.cast_lt.2 (Nat.lt_succ_self _)) (f.unit_pos _)

theorem finiteValue_zero (f : Format) : f.finiteValue 0 = 0 := by
  rw [finiteValue, finiteParts_of_lt hiddenBit_pos, Nat.cast_zero, zero_mul]

theorem finiteValue_nonneg (f : Format) (magnitude : Nat) : 0 ≤ f.finiteValue magnitude := by
  unfold finiteValue
  positivity

/-- Only zero has the value zero. -/
theorem finiteValue_eq_zero (h : f.finiteValue magnitude = 0) : magnitude = 0 :=
  f.strictMono_finiteValue.injective (h.trans f.finiteValue_zero.symm)

/-! ## The nearest magnitude -/

/-- Magnitudes are on the grid of a place, or below all significands with a hidden bit there. -/
theorem onGrid_or_lt (f : Format) (count magnitude : Nat) :
    (∃ n : Nat, f.finiteValue magnitude = n * f.unit count) ∨
      count ≠ 0 ∧ f.finiteValue magnitude < f.hiddenBit * f.unit count := by
  obtain ⟨count', significand, rfl, hlt, hnormal⟩ := f.exists_packed magnitude
  rw [finiteValue_packed hlt.le hnormal]
  rcases Nat.lt_or_ge count' count with hless | hge
  · obtain ⟨more, rfl⟩ := Nat.exists_eq_add_of_lt hless
    refine .inr ⟨by omega, ?_⟩
    have hlength : (significand : ℚ) < 2 * f.hiddenBit := by exact_mod_cast hlt
    calc (significand : ℚ) * f.unit count' < 2 * f.hiddenBit * f.unit count' :=
          mul_lt_mul_of_pos_right hlength (f.unit_pos _)
      _ = f.hiddenBit * f.unit (count' + 1) := by
          rw [unit_add, pow_one]
          ring
      _ ≤ f.hiddenBit * f.unit (count' + more + 1) := by
          rw [Nat.add_right_comm, unit_add (count' + 1) more]
          exact mul_le_mul_of_nonneg_left
            (le_mul_of_one_le_left (f.unit_pos _).le (one_le_pow₀ one_le_two)) (Nat.cast_nonneg _)
  · obtain ⟨more, rfl⟩ := Nat.exists_eq_add_of_le hge
    refine .inl ⟨significand * 2 ^ more, ?_⟩
    rw [unit_add, Nat.cast_mul, Nat.cast_pow, Nat.cast_ofNat, mul_assoc]

namespace IsLastPlace

theorem le_full (h : f.IsLastPlace quotient (f.leastExponent + count)) (hprec : 0 < f.precision) :
    quotient / f.unit count ≤ (2 * f.hiddenBit : Nat) := by
  rw [div_le_iff₀ (f.unit_pos _), Nat.cast_mul, Nat.cast_ofNat, ← two_pow_precision hprec]
  exact h.lt.le

theorem hiddenBit_le (h : f.IsLastPlace quotient (f.leastExponent + count))
    (hprec : 0 < f.precision) (hcount : count ≠ 0) : f.hiddenBit * f.unit count ≤ quotient := by
  have hle := h.le (by omega)
  rw [zpow_sub_one₀ two_ne_zero, two_pow_precision hprec] at hle
  linarith

end IsLastPlace

/-- Distances on the grid of a place are distances of natural numbers, in units of the place. -/
theorem abs_grid_sub (f : Format) (count n : Nat) (quotient : ℚ) :
    |(n : ℚ) * f.unit count - quotient| =
      |(n : ℚ) - quotient / f.unit count| * f.unit count := by
  rw [← abs_of_pos (f.unit_pos count), ← abs_mul, abs_of_pos (f.unit_pos count), sub_mul,
    div_mul_cancel₀ _ (f.unit_pos _).ne']

/-- What is nearest on the grid of the last place is the nearest of all magnitudes: those that are
not on it lie below the grid and the quotient above. -/
theorem isNearest_packed (hprec : 1 < f.precision)
    (hlast : f.IsLastPlace quotient (f.leastExponent + count))
    (hnearest : IsNearest Nat.cast (quotient / f.unit count) significand) :
    IsNearest f.finiteValue quotient (count * f.hiddenBit + significand) := by
  have hprec' : 0 < f.precision := Nat.zero_lt_of_lt hprec
  -- The nearest number on the grid is a significand of this place, or the first of the next.
  have hle := hnearest.le_of_le_value Nat.strictMono_cast (hlast.le_full hprec')
  have hnormal : count = 0 ∨ f.hiddenBit ≤ significand := by
    by_cases hcount : count = 0
    · exact .inl hcount
    · refine .inr (hnearest.le_of_value_le Nat.strictMono_cast ?_)
      exact (le_div_iff₀ (f.unit_pos _)).2 (hlast.hiddenBit_le hprec' hcount)
  have hvalue := finiteValue_packed hle hnormal
  have hgrid : ∀ n : Nat, |(significand : ℚ) * f.unit count - quotient| ≤
      |(n : ℚ) * f.unit count - quotient| := by
    intro n
    rw [abs_grid_sub, abs_grid_sub]
    exact mul_le_mul_of_nonneg_right (hnearest.le n) (f.unit_pos _).le
  have hbelow : ∀ value : ℚ, count ≠ 0 → value < f.hiddenBit * f.unit count →
      |(significand : ℚ) * f.unit count - quotient| < |value - quotient| := by
    intro value hcount hlt
    have hquotient := hlast.hiddenBit_le hprec' hcount
    calc |(significand : ℚ) * f.unit count - quotient|
        ≤ |f.hiddenBit * f.unit count - quotient| := hgrid f.hiddenBit
      _ < |value - quotient| := by
        rw [abs_of_nonpos (by linarith), abs_of_nonpos (by linarith)]
        linarith
  rw [← hvalue] at hgrid hbelow
  constructor
  · intro other
    rcases f.onGrid_or_lt count other with ⟨n, hn⟩ | ⟨hcount, hlt⟩
    · rw [hn]
      exact hgrid n
    · exact (hbelow _ hcount hlt).le
  · intro other hne htie
    rcases f.onGrid_or_lt count other with ⟨n, hn⟩ | ⟨hcount, hlt⟩
    · have hsignificand : n ≠ significand := by
        rintro rfl
        exact hne (f.strictMono_finiteValue.injective (hn.trans hvalue.symm))
      rw [hn, hvalue, abs_grid_sub, abs_grid_sub] at htie
      have heven := hnearest.even n hsignificand (mul_right_cancel₀ (f.unit_pos _).ne' htie)
      -- The hidden bit does not decide whether a magnitude is even.
      have hhidden : f.hiddenBit % 2 = 0 := by
        have hsucc : f.precision - 1 = f.precision - 2 + 1 := by omega
        rw [hiddenBit, hsucc, Nat.pow_succ, Nat.mul_mod_left]
      rw [Nat.add_mod, Nat.mul_mod, hhidden, heven, Nat.mul_zero]
    · exact absurd htie (hbelow _ hcount hlt).ne'

/-- A quotient is rounded as if there were no greatest magnitude, and what is too large is
infinite. -/
theorem exists_isNearest (hprec : 1 < f.precision) (num : Nat) {den : Nat} (hden : den ≠ 0) :
    ∃ magnitude, IsNearest f.finiteValue (num / den) magnitude ∧
      f.roundMagnitude num den = Min.min magnitude f.infinity := by
  unfold roundMagnitude
  by_cases hnum : num = 0
  · refine ⟨0, ?_, ?_⟩
    · have hself := IsNearest.self f.strictMono_finiteValue 0
      rw [finiteValue_zero] at hself
      rw [hnum, Nat.cast_zero, zero_div]
      exact hself
    · rw [if_pos hnum, Nat.zero_min]
  · have hlast := f.isLastPlace_lastPlace hnum hden
    obtain ⟨count, hcount⟩ := Int.eq_ofNat_of_zero_le (Int.sub_nonneg_of_le hlast.least_le)
    have hplace : f.lastPlace num den = f.leastExponent + count := by omega
    rw [if_neg hnum]
    simp only [hplace, pack]
    rw [hplace] at hlast
    have hnearest := isNearest_roundHalfEven (scaleDown num den (f.leastExponent + count)).1
      (scaleDown_pos num (f.leastExponent + count) (Nat.pos_of_ne_zero hden))
    rw [scaleDown_value, zpow_neg, ← div_eq_mul_inv] at hnearest
    refine ⟨_, isNearest_packed hprec hlast hnearest, ?_⟩
    rw [add_sub_cancel_left, Int.toNat_natCast]

/-- What a quotient is rounded to is decided by what is nearest to it. -/
theorem roundMagnitude_eq_min (hprec : 1 < f.precision) {num den : Nat} (hden : den ≠ 0)
    (h : IsNearest f.finiteValue (num / den) magnitude) :
    f.roundMagnitude num den = Min.min magnitude f.infinity := by
  obtain ⟨nearest, hnearest, hround⟩ := exists_isNearest hprec num hden
  rw [hround, hnearest.unique h f.strictMono_finiteValue]

/-- A quotient below half of the least place is rounded to zero. -/
theorem eq_zero_of_isNearest (h : IsNearest f.finiteValue quotient magnitude)
    (hquotient : 0 ≤ quotient) (hsmall : 2 * quotient < 2 ^ f.leastExponent) : magnitude = 0 := by
  by_contra hne
  have hle := h.le 0
  have hone : f.finiteValue 1 = 2 ^ f.leastExponent := by
    have hsignificand : 1 ≤ 2 * f.hiddenBit := Nat.mul_pos two_pos hiddenBit_pos
    have hpacked := finiteValue_packed hsignificand (.inl (rfl : 0 = 0))
    rw [Nat.zero_mul, Nat.zero_add, Nat.cast_one, one_mul, unit, Nat.cast_zero, add_zero] at hpacked
    exact hpacked
  have hleast := f.strictMono_finiteValue.monotone (Nat.one_le_iff_ne_zero.2 hne)
  rw [finiteValue_zero, zero_sub, abs_neg, abs_of_nonneg hquotient,
    abs_of_nonneg (by linarith)] at hle
  linarith

end Format

end JitHost.Number
