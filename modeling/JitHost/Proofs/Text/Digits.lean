import JitHost.Text.Blank
import JitHost.Text.Bytes
import JitHost.Text.Digits
import Mathlib.Data.List.TakeWhile

/-!
# Digits and blanks

What digits are worth when they are put together, and texts without blanks. Those that have none at
their ends lose nothing when they are trimmed (`trimBlanks_of_unpadded`).
-/

namespace JitHost.Text

/-! ## Digits -/

theorem digitsValue_append (front back : List Char) :
    digitsValue (front ++ back) = 10 ^ back.length * digitsValue front + digitsValue back :=
  (Nat.ofDigitChars_append 0).trans Nat.ofDigitChars_eq_ofDigitChars_zero

theorem digitsValue_zeros (count : Nat) : digitsValue (List.replicate count '0') = 0 :=
  Nat.ofDigitChars_replicate_zero

theorem digitsValue_toDigits (n : Nat) : digitsValue (Nat.toDigits 10 n) = n :=
  Nat.ofDigitChars_ten_toDigits

theorem isDigit_toDigits {n : Nat} {c : Char} (h : c ∈ Nat.toDigits 10 n) : c.isDigit = true :=
  Nat.isDigit_of_mem_toDigits (by decide) (by decide) h

/-- A number that a machine word holds is read back from its digits. -/
theorem readCount?_toDigits {n : Nat} (hn : n < 2 ^ 64) :
    readCount? (Nat.toDigits 10 n) = some n := by
  unfold readCount?
  extract_lets digits value
  have hdigits : digits = Nat.toDigits 10 n := by
    unfold digits
    split
    · -- A plus sign is no digit.
      rename_i rest hplus
      have hmem : '+' ∈ Nat.toDigits 10 n := hplus ▸ List.mem_cons_self
      cases isDigit_toDigits hmem
    · rfl
  have hall : digits.all Char.isDigit = true :=
    List.all_eq_true.2 fun _ hc => isDigit_toDigits (hdigits ▸ hc)
  have hdigit : ¬ (digits = [] ∨ (!digits.all Char.isDigit) = true) := by
    rw [hall, hdigits]
    exact not_or.2 ⟨Nat.toDigits_ne_nil, Bool.false_ne_true⟩
  have hvalue : value = n := by
    unfold value
    rw [hdigits, digitsValue_toDigits]
  rw [if_neg hdigit, hvalue, if_pos hn]

/-- Text is read back from its bytes. -/
theorem Bytes.text?_ofText (text : String) : Bytes.text? (Bytes.ofText text) = some text := by
  have hbytes : (⟨(Bytes.ofText text).toArray⟩ : ByteArray) = text.toByteArray := rfl
  rw [Bytes.text?, hbytes, String.fromUTF8?, dif_pos text.isValidUTF8]
  rfl

/-! ## Blanks -/

theorem isBlank_of_isDigit {c : Char} (h : c.isDigit = true) : isBlank c = false := by
  have hbounds : 48 ≤ c.toNat ∧ c.toNat ≤ 57 := by
    simpa [Char.isDigit, UInt32.le_iff_toNat_le] using h
  simp only [isBlank, Bool.or_eq_false_iff, Bool.and_eq_false_iff, decide_eq_false_iff_not,
    beq_eq_false_iff_ne]
  omega

/-- Whether there is no blank among some characters. -/
def NoBlank (text : List Char) : Prop := ∀ c ∈ text, isBlank c = false

instance (text : List Char) : Decidable (NoBlank text) :=
  decidable_of_iff (text.all fun c => !isBlank c) (by simp [NoBlank])

theorem noBlank_of_digits {digits : List Char} (h : digits.all Char.isDigit = true) :
    NoBlank digits := fun c hc => isBlank_of_isDigit (List.all_eq_true.1 h c hc)

theorem noBlank_takeWhile (text : List Char) : NoBlank (text.takeWhile Char.isDigit) :=
  fun _ hc => isBlank_of_isDigit (List.mem_takeWhile_imp hc)

theorem NoBlank.cons {c : Char} {text : List Char} (hc : isBlank c = false) (h : NoBlank text) :
    NoBlank (c :: text) := List.forall_mem_cons.2 ⟨hc, h⟩

theorem NoBlank.append {front back : List Char} (hfront : NoBlank front) (hback : NoBlank back) :
    NoBlank (front ++ back) := List.forall_mem_append.2 ⟨hfront, hback⟩

/-- No blank is a letter in upper case. -/
theorem toLower_of_isBlank {c : Char} (h : isBlank c = true) : c.toLower = c := by
  unfold Char.toLower
  split
  · rename_i hupper
    exfalso
    have hbounds : 65 ≤ c.toNat ∧ c.toNat ≤ 90 := by
      simpa [UInt32.le_iff_toNat_le] using hupper
    simp only [isBlank, Bool.or_eq_true, Bool.and_eq_true, decide_eq_true_eq, beq_iff_eq] at h
    omega
  · rfl

theorem noBlank_of_toLower {text : List Char} (h : NoBlank (text.map Char.toLower)) :
    NoBlank text := by
  intro c hc
  rw [Bool.eq_false_iff]
  intro hblank
  have hlower := h c.toLower (List.mem_map_of_mem hc)
  rw [toLower_of_isBlank hblank, hblank] at hlower
  cases hlower

/-- Whether no blank stands at either end of a text. -/
structure Unpadded (text : String) : Prop where
  head : ∀ c, text.toList.head? = some c → isBlank c = false
  last : ∀ c, text.toList.getLast? = some c → isBlank c = false

theorem NoBlank.unpadded {text : String} (h : NoBlank text.toList) : Unpadded text where
  head := fun c hc => h c (List.mem_of_head? hc)
  last := fun c hc => h c (List.mem_of_getLast? hc)

/-- To trim removes only blanks, and those at the ends. -/
theorem trimBlanks_of_unpadded {text : String} (h : Unpadded text) : trimBlanks text = text := by
  have hdrop : ∀ chars : List Char, (∀ c, chars.head? = some c → isBlank c = false) →
      chars.dropWhile isBlank = chars := by
    intro chars hhead
    cases chars with
    | nil => rfl
    | cons c rest => exact List.dropWhile_cons_of_neg (by simp [hhead c rfl])
  have hreverse : ∀ c, text.toList.reverse.head? = some c → isBlank c = false := by
    intro c hc
    exact h.last c (by rwa [List.head?_reverse] at hc)
  rw [trimBlanks, hdrop _ h.head, dropLastWhile, hdrop _ hreverse, List.reverse_reverse,
    String.ofList_toList]

end JitHost.Text
