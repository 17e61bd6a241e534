import JitHost.Value.Table

/-!
# Values as keys

`Value.isKey` says which values are usable as keys: all but nil and what is not a number. Two usable
values are equal as values exactly when they denote one key (`Key.same_iff_eq`), and the value that
a key stands for denotes that key again (`Key.ofValue_value`), so nothing is lost when a table keeps
keys in place of values.
-/

namespace JitHost

open Number

/-! ## Both zeros are one number -/

namespace Number.Double

/-- The pattern of a number, both zeros taken for the positive one. -/
def foldedBits (n : Double) : UInt64 := if n.isZero then 0 else n.bits

theorem eq_of_bits_eq : ∀ {n m : Double}, n.bits = m.bits → n = m
  | ⟨_⟩, ⟨_⟩, rfl => rfl

theorem foldedBits_of_isZero {n : Double} (h : n.isZero = true) : n.foldedBits = 0 := if_pos h

theorem foldedBits_of_not_isZero {n : Double} (h : n.isZero = false) : n.foldedBits = n.bits := by
  rw [foldedBits, h]
  rfl

/-- No number but a zero is folded into zero. -/
theorem foldedBits_eq_zero_iff {n : Double} : n.foldedBits = 0 ↔ n.isZero = true := by
  constructor
  · intro h
    cases hzero : n.isZero with
    | true => rfl
    | false =>
      rw [foldedBits_of_not_isZero hzero] at h
      have hn : n = .zero := eq_of_bits_eq h
      rw [← hzero, hn]
      decide
  · exact foldedBits_of_isZero

theorem foldedBits_folded (n : Double) : (⟨n.foldedBits⟩ : Double).foldedBits = n.foldedBits := by
  cases hzero : n.isZero with
  | true =>
    rw [foldedBits_of_isZero hzero]
    decide
  | false => rw [foldedBits_of_not_isZero hzero, foldedBits_of_not_isZero hzero]

theorem isNaN_folded {n : Double} (h : n.isNaN = false) :
    (⟨n.foldedBits⟩ : Double).isNaN = false := by
  cases hzero : n.isZero with
  | true =>
    rw [foldedBits_of_isZero hzero]
    decide
  | false =>
    rw [foldedBits_of_not_isZero hzero]
    exact h

/-- Numbers compare equal when their folded patterns are the same. -/
theorem same_iff_foldedBits_eq {n m : Double} (hn : n.isNaN = false) (hm : m.isNaN = false) :
    n.same m = true ↔ n.foldedBits = m.foldedBits := by
  have hsame : n.same m = true ↔ n = m ∨ n.isZero = true ∧ m.isZero = true := by
    rw [same, hn, hm]
    simp only [Bool.not_false, Bool.and_self, Bool.true_and, Bool.or_eq_true, beq_iff_eq,
      Bool.and_eq_true]
    exact or_congr_left ⟨eq_of_bits_eq, congrArg bits⟩
  rw [hsame]
  constructor
  · rintro (rfl | ⟨hnzero, hmzero⟩)
    · rfl
    · rw [foldedBits_of_isZero hnzero, foldedBits_of_isZero hmzero]
  · intro h
    cases hzero : n.isZero with
    | true => exact .inr ⟨rfl, foldedBits_eq_zero_iff.1 (h ▸ foldedBits_of_isZero hzero)⟩
    | false =>
      have hmzero : m.isZero = false := by
        rw [Bool.eq_false_iff, ne_eq, ← foldedBits_eq_zero_iff, ← h, foldedBits_eq_zero_iff, hzero]
        exact Bool.false_ne_true
      rw [foldedBits_of_not_isZero hzero, foldedBits_of_not_isZero hmzero] at h
      exact .inl (eq_of_bits_eq h)

end Number.Double

/-! ## The key that a value denotes -/

/-- Whether a value is usable as a key. -/
def Value.isKey : Value → Bool
  | .nil => false
  | .number n => !n.isNaN
  | _ => true

namespace Key

theorem ofValue_number {n : Double} (h : n.isNaN = false) :
    ofValue (.number n) = .ok (.number n.foldedBits) := by
  rw [ofValue, h]
  rfl

theorem ofValue_notANumber {n : Double} (h : n.isNaN = true) :
    ofValue (.number n) = .error .notANumber := by
  rw [ofValue, h]
  rfl

theorem number_of_ofValue {n : Double} {key : Key} (h : ofValue (.number n) = .ok key) :
    n.isNaN = false ∧ key = .number n.foldedBits := by
  cases hn : n.isNaN with
  | true =>
    rw [ofValue_notANumber hn] at h
    cases h
  | false =>
    rw [ofValue_number hn] at h
    cases h
    exact ⟨rfl, rfl⟩

/-- A value is refused as a key if it is nil or not a number, and the fault says which. -/
theorem ofValue_eq_error_iff {value : Value} {fault : KeyFault} :
    ofValue value = .error fault ↔
      value = .nil ∧ fault = .nil ∨
        ∃ n : Double, value = .number n ∧ n.isNaN = true ∧ fault = .notANumber := by
  constructor
  · intro h
    cases value with
    | nil =>
      cases h
      exact .inl ⟨rfl, rfl⟩
    | number n =>
      cases hn : n.isNaN with
      | true =>
        rw [ofValue_notANumber hn] at h
        cases h
        exact .inr ⟨n, rfl, hn, rfl⟩
      | false =>
        rw [ofValue_number hn] at h
        cases h
    | _ => cases h
  · rintro (⟨rfl, rfl⟩ | ⟨n, rfl, hn, rfl⟩)
    · rfl
    · exact ofValue_notANumber hn

/-- The values refused are those that are not usable. -/
theorem isKey_eq_false_of_ofValue {value : Value} {fault : KeyFault}
    (h : ofValue value = .error fault) : value.isKey = false := by
  rcases ofValue_eq_error_iff.1 h with ⟨rfl, -⟩ | ⟨n, rfl, hn, -⟩
  · rfl
  · rw [Value.isKey, hn]
    rfl

theorem isKey_of_ofValue {value : Value} {key : Key} (h : ofValue value = .ok key) :
    value.isKey = true := by
  cases value with
  | nil => cases h
  | number n =>
    rw [Value.isKey, (number_of_ofValue h).1]
    rfl
  | _ => rfl

theorem exists_ofValue {value : Value} (h : value.isKey = true) :
    ∃ key, ofValue value = .ok key := by
  cases hkey : ofValue value with
  | ok key => exact ⟨key, rfl⟩
  | error fault =>
    rw [isKey_eq_false_of_ofValue hkey] at h
    cases h

/-- The value that a key stands for denotes the key. -/
theorem ofValue_value {value : Value} {key : Key} (h : ofValue value = .ok key) :
    ofValue key.value = .ok key := by
  cases value with
  | nil => cases h
  | number n =>
    obtain ⟨hn, rfl⟩ := number_of_ofValue h
    rw [value, ofValue_number (Double.isNaN_folded hn), Double.foldedBits_folded]
  | _ =>
    cases h
    rfl

/-- Usable values are equal exactly when they denote one key. -/
theorem same_iff_eq {a b : Value} {key other : Key} (ha : ofValue a = .ok key)
    (hb : ofValue b = .ok other) : a.same b = true ↔ key = other := by
  cases a with
  | nil => cases ha
  | number n =>
    obtain ⟨hn, rfl⟩ := number_of_ofValue ha
    cases b with
    | nil => cases hb
    | number m =>
      obtain ⟨hm, rfl⟩ := number_of_ofValue hb
      rw [Value.same, Double.same_iff_foldedBits_eq hn hm, number.injEq]
    | _ =>
      cases hb
      simp only [Value.same, Bool.false_eq_true, reduceCtorEq]
  | _ =>
    cases ha
    cases b with
    | nil => cases hb
    | number m =>
      obtain ⟨-, rfl⟩ := number_of_ofValue hb
      simp only [Value.same, Bool.false_eq_true, reduceCtorEq]
    | _ =>
      cases hb
      simp [Value.same]

/-- A usable value equals no other kind of value. -/
theorem same_eq_false_of_error {a b : Value} {key : Key} {fault : KeyFault}
    (ha : ofValue a = .ok key) (hb : ofValue b = .error fault) : a.same b = false := by
  rcases ofValue_eq_error_iff.1 hb with ⟨rfl, -⟩ | ⟨n, rfl, hn, -⟩
  · cases a <;> first | rfl | cases ha
  · cases a with
    | number m =>
      rw [Value.same, Double.same, hn, Bool.not_true, Bool.and_false, Bool.false_and]
    | _ => rfl

end Key

end JitHost
