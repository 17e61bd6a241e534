import JitHost.Value.Basic
import JitHost.Proofs.Number.Decimals
import JitHost.Proofs.Number.Quantity
import JitHost.Proofs.Text.Digits
import JitHost.Proofs.Value.Keys

/-!
# Numbers read back from their text

A decimal may be written in several ways, and any of them is read as the number nearest to it
(`Double.read?_pointed`). A number is converted to its integer or else to its shortest digits; both
are read as the number, but for the sign of zero, which an integer does not have
(`Double.read?_text`). What is not a number is read as what is not a number.
-/

namespace JitHost

open Text

namespace Number

/-! ## Written decimals -/

namespace Decimal

/-- Digits with a point between them, which is left out where no digit follows. -/
def pointed (front back : List Char) : List Char :=
  if back = [] then front else front ++ '.' :: back

/-- A decimal is written by the digits before and after a point. -/
structure WrittenBy (d : Decimal) (front back : List Char) : Prop where
  front_ne_nil : front ≠ []
  front_digits : ∀ c ∈ front, c.isDigit = true
  back_digits : ∀ c ∈ back, c.isDigit = true
  value_eq : (⟨digitsValue (front ++ back), -back.length⟩ : Decimal).value = d.value

section

variable {d : Decimal}

theorem isDigit_digitText {c : Char} (h : c ∈ d.digitText) : c.isDigit = true := isDigit_toDigits h

theorem isDigit_zeros {count : Nat} {c : Char} (h : c ∈ List.replicate count '0') :
    c.isDigit = true := by
  rw [List.eq_of_mem_replicate h]
  rfl

theorem digitText_ne_nil : d.digitText ≠ [] := Nat.toDigits_ne_nil

theorem digitsValue_digitText : digitsValue d.digitText = d.digits := digitsValue_toDigits d.digits

/-- Zeros at the end stand for a positive exponent. -/
theorem writtenBy_of_whole (hwhole : 0 ≤ d.exponent) :
    d.WrittenBy (d.digitText ++ List.replicate d.exponent.toNat '0') [] where
  front_ne_nil := List.append_ne_nil_of_left_ne_nil digitText_ne_nil _
  front_digits := fun _ hc => (List.mem_append.1 hc).elim isDigit_digitText isDigit_zeros
  back_digits := nofun
  value_eq := by
    obtain ⟨n, hn⟩ := Int.eq_ofNat_of_zero_le hwhole
    rw [List.append_nil, digitsValue_append, digitsValue_zeros, digitsValue_digitText, Nat.add_zero,
      List.length_replicate, value, value, hn, Int.toNat_natCast, zpow_natCast]
    push_cast
    rw [List.length_nil, Nat.cast_zero, neg_zero, zpow_zero, mul_one, mul_comm]

/-- The point stands between two digits. -/
theorem writtenBy_of_inside {count : Nat} (hcount : (count : Int) = d.digitText.length + d.exponent)
    (hpos : 0 < count) (hneg : d.exponent < 0) :
    d.WrittenBy (d.digitText.take count) (d.digitText.drop count) where
  front_ne_nil := by
    rw [ne_eq, List.take_eq_nil_iff]
    exact not_or.2 ⟨Nat.pos_iff_ne_zero.1 hpos, digitText_ne_nil⟩
  front_digits := fun _ hc => isDigit_digitText (List.mem_of_mem_take hc)
  back_digits := fun _ hc => isDigit_digitText (List.mem_of_mem_drop hc)
  value_eq := by
    have hexponent : -((d.digitText.drop count).length : Int) = d.exponent := by
      rw [List.length_drop]
      omega
    rw [List.take_append_drop, digitsValue_digitText, hexponent]

/-- All digits stand after the point, with zeros before them. -/
theorem writtenBy_of_below {count : Nat}
    (hcount : (count : Int) = -(d.digitText.length + d.exponent)) :
    d.WrittenBy ['0'] (List.replicate count '0' ++ d.digitText) where
  front_ne_nil := List.cons_ne_nil _ _
  front_digits := fun _ hc => List.mem_singleton.1 hc ▸ rfl
  back_digits := fun _ hc => (List.mem_append.1 hc).elim isDigit_zeros isDigit_digitText
  value_eq := by
    have hexponent : -((List.replicate count '0' ++ d.digitText).length : Int) = d.exponent := by
      rw [List.length_append, List.length_replicate]
      omega
    have hzero : digitsValue ['0'] = 0 := rfl
    rw [digitsValue_append, hzero, digitsValue_append, digitsValue_zeros, digitsValue_digitText,
      hexponent, Nat.mul_zero, Nat.mul_zero, Nat.zero_add, Nat.zero_add]

end

/-- The positional form of a decimal writes it. -/
theorem exists_writtenBy (d : Decimal) : ∃ front back,
    d.positional 0 = String.ofList (pointed front back) ∧ d.WrittenBy front back := by
  have hpad : ∀ back : List Char, back ++ List.replicate (0 - back.length) '0' = back := by
    intro back
    rw [Nat.zero_sub, List.replicate_zero, List.append_nil]
  unfold positional
  dsimp only
  by_cases hwhole : 0 ≤ d.exponent
  · rw [if_pos hwhole, hpad]
    exact ⟨_, _, rfl, writtenBy_of_whole hwhole⟩
  · rw [if_neg hwhole]
    by_cases hpoint : 0 < (d.digitText.length : Int) + d.exponent
    · rw [if_pos hpoint, hpad]
      exact ⟨_, _, rfl, writtenBy_of_inside (by omega) (by omega) (by omega)⟩
    · rw [if_neg hpoint, hpad]
      exact ⟨_, _, rfl, writtenBy_of_below (by omega)⟩

end Decimal

/-! ## Reading digits -/

namespace Double

open Decimal

/-- What is written with a point is read as the decimal of its digits. -/
theorem readNumeral?_pointed {front back : List Char} (hne : front ≠ [])
    (hfront : ∀ c ∈ front, c.isDigit = true) (hback : ∀ c ∈ back, c.isDigit = true) :
    readNumeral? (pointed front back) =
      some (Decimal.magnitude ⟨digitsValue (front ++ back), -back.length⟩) := by
  have hpoint : ('.').isDigit = false := by decide
  have htake : back.takeWhile Char.isDigit = back := List.takeWhile_eq_self_iff.2 hback
  have hdrop : back.dropWhile Char.isDigit = [] := List.dropWhile_eq_nil_iff.2 hback
  unfold readNumeral? pointed
  by_cases hnil : back = []
  · rw [if_pos hnil, hnil, List.takeWhile_eq_self_iff.2 hfront, List.dropWhile_eq_nil_iff.2 hfront]
    simp [hne]
  · rw [if_neg hnil, List.takeWhile_append_of_pos hfront, List.dropWhile_append_of_pos hfront,
      List.takeWhile_cons_of_neg (by simp [hpoint]), List.dropWhile_cons_of_neg (by simp [hpoint])]
    simp [hne, htake, hdrop]

/-- A sign and digits are read as the number with this sign. -/
theorem read?_signed (negative : Bool) {rest : List Char} {magnitude : Nat}
    (hread : readMagnitude? rest = some magnitude) (hminus : rest.head? ≠ some '-')
    (hplus : rest.head? ≠ some '+') :
    read? ((if negative then "-" else "") ++ String.ofList rest) =
      some (ofMagnitude negative magnitude) := by
  cases negative with
  | true =>
    have hlist : ("-" ++ String.ofList rest).toList = '-' :: rest := by simp
    unfold read?
    rw [if_pos rfl, hlist]
    simp [hread]
  | false =>
    have hlist : ("" ++ String.ofList rest).toList = rest := by simp
    unfold read?
    rw [if_neg Bool.false_ne_true, hlist]
    split
    · simp at hminus
    · simp at hplus
    · simp [hread]

theorem head?_ne_of_digits {digits : List Char} (h : ∀ c ∈ digits, c.isDigit = true) {c : Char}
    (hc : c.isDigit = false) : digits.head? ≠ some c := by
  intro hhead
  rw [h c (List.mem_of_mem_head? hhead)] at hc
  cases hc

theorem head?_pointed {front back : List Char} (hne : front ≠ []) :
    (pointed front back).head? = front.head? := by
  obtain ⟨c, rest, rfl⟩ := List.exists_cons_of_ne_nil hne
  unfold pointed
  split <;> rfl

/-- Any written form of a decimal, with a sign, is read as the number nearest to it. -/
theorem read?_pointed (negative : Bool) {d : Decimal} {front back : List Char}
    (h : d.WrittenBy front back) :
    read? ((if negative then "-" else "") ++ String.ofList (pointed front back)) =
      some (ofMagnitude negative d.magnitude) := by
  have hread : readMagnitude? (pointed front back) = some d.magnitude := by
    rw [readMagnitude?, readNumeral?_pointed h.front_ne_nil h.front_digits h.back_digits,
      magnitude_congr h.value_eq]
  apply read?_signed negative hread
  · rw [head?_pointed h.front_ne_nil]
    exact head?_ne_of_digits h.front_digits rfl
  · rw [head?_pointed h.front_ne_nil]
    exact head?_ne_of_digits h.front_digits rfl

/-- An integer is read as the number nearest to it. -/
theorem read?_toString (value : Int) :
    read? (toString value) =
      some (ofMagnitude (decide (value < 0)) (Decimal.magnitude ⟨value.natAbs, 0⟩)) := by
  have hwritten : ∀ n : Nat, (⟨n, 0⟩ : Decimal).WrittenBy (Nat.toDigits 10 n) [] := by
    intro n
    have h := writtenBy_of_whole (d := ⟨n, 0⟩) (le_refl 0)
    rw [Int.toNat_zero, List.replicate_zero, List.append_nil] at h
    exact h
  cases value with
  | ofNat n =>
    -- Nothing is written after a point, so there is no point.
    have htext : toString (Int.ofNat n) =
        (if false then "-" else "") ++ String.ofList (pointed (Nat.toDigits 10 n) []) := by
      rw [pointed, if_pos rfl, if_neg Bool.false_ne_true, String.empty_append]
      rfl
    have hsign : decide (Int.ofNat n < 0) = false :=
      decide_eq_false (Int.not_lt.2 (Int.natCast_nonneg n))
    rw [htext, hsign, read?_pointed false (hwritten n), Int.natAbs_ofNat']
  | negSucc n =>
    have htext : toString (Int.negSucc n) =
        (if true then "-" else "") ++ String.ofList (pointed (Nat.toDigits 10 (n + 1)) []) := by
      rw [pointed, if_pos rfl, if_pos rfl]
      rfl
    have hsign : decide (Int.negSucc n < 0) = true := decide_eq_true (Int.negSucc_lt_zero n)
    rw [htext, hsign, read?_pointed true (hwritten (n + 1)), Int.natAbs_negSucc]

/-! ## Integral numbers -/

variable {x : Double}

theorem toInt?_of_not_finite
    (hfinite : ¬ Format.double.magnitude x.pattern < Format.double.infinity) : x.toInt? = none := by
  unfold toInt? Format.datum
  by_cases hnan : Format.double.infinity < Format.double.magnitude x.pattern
  · simp only [if_pos hnan]
  · have heq : Format.double.magnitude x.pattern = Format.double.infinity := by omega
    simp only [if_neg hnan, if_pos heq]

theorem natAbs_signed (negative : Bool) (significand shift : Nat) :
    (Format.signed negative significand shift).natAbs = significand * 2 ^ shift := by
  cases negative with
  | true => exact Int.natAbs_neg _
  | false => exact Int.natAbs_natCast _

theorem signed_lt_zero_iff {negative : Bool} {significand shift : Nat}
    (hne : Format.signed negative significand shift ≠ 0) :
    decide (Format.signed negative significand shift < 0) = negative := by
  cases negative with
  | true =>
    have hneg : Format.signed true significand shift = -(significand * 2 ^ shift : Nat) := rfl
    rw [hneg] at hne ⊢
    exact decide_eq_true (by omega)
  | false => exact decide_eq_false (Int.not_lt.2 (Int.natCast_nonneg _))

/-- An integral number has the value of its integer, and its sign unless it is zero. -/
theorem facts_of_toInt? {value : Int} (h : x.toInt? = some value) :
    Format.double.magnitude x.pattern < Format.double.infinity ∧
      (⟨value.natAbs, 0⟩ : Decimal).value =
        Format.double.finiteValue (Format.double.magnitude x.pattern) ∧
      (value ≠ 0 → decide (value < 0) = Format.double.negative x.pattern) := by
  have hfinite : Format.double.magnitude x.pattern < Format.double.infinity := by
    by_contra hnot
    rw [toInt?_of_not_finite hnot] at h
    cases h
  unfold toInt? at h
  rw [datum_of_finite hfinite] at h
  refine ⟨hfinite, ?_⟩
  unfold Format.finiteValue
  generalize Format.double.finiteParts (Format.double.magnitude x.pattern) = parts at h ⊢
  obtain ⟨significand, exponent⟩ := parts
  dsimp only at h ⊢
  by_cases hexponent : 0 ≤ exponent
  · obtain ⟨n, rfl⟩ := Int.eq_ofNat_of_zero_le hexponent
    rw [if_pos hexponent, Int.toNat_natCast, Option.some.injEq] at h
    subst h
    refine ⟨?_, signed_lt_zero_iff⟩
    rw [Decimal.value, natAbs_signed, zpow_zero, mul_one, zpow_natCast]
    push_cast
    rfl
  · obtain ⟨n, hn⟩ := Int.eq_ofNat_of_zero_le (a := -exponent) (by omega)
    rw [if_neg hexponent, hn, Int.toNat_natCast] at h
    -- A number with binary places is integral if its significand ends in as many zeros.
    by_cases hdvd : significand % 2 ^ n = 0
    · rw [if_pos hdvd, Option.some.injEq] at h
      subst h
      refine ⟨?_, signed_lt_zero_iff⟩
      obtain ⟨k, rfl⟩ := Nat.dvd_of_mod_eq_zero hdvd
      rw [Decimal.value, natAbs_signed, zpow_zero, mul_one, ← neg_neg exponent, hn, zpow_neg,
        zpow_natCast, Nat.mul_div_cancel_left k (Nat.two_pow_pos n)]
      push_cast
      rw [mul_one, mul_comm (2 ^ n : ℚ), mul_inv_cancel_right₀ (by positivity)]
    · rw [if_neg hdvd] at h
      cases h

/-! ## The text of a number -/

theorem toInt?_of_isZero (hzero : x.isZero = true) : x.toInt? = some 0 := by
  have hmagnitude : Format.double.magnitude x.pattern = 0 := of_decide_eq_true hzero
  have hparts : Format.double.finiteParts 0 = (0, -1074) := by decide
  unfold toInt?
  rw [datum_of_finite (by rw [hmagnitude]; decide), hmagnitude, hparts]
  dsimp only
  rw [if_neg (by decide), if_pos (Nat.zero_mod _), Nat.zero_div]
  cases Format.double.negative x.pattern <;> rfl

/-- An integer is written without the sign of a zero. -/
theorem read?_toString_of_toInt? {value : Int} (h : x.toInt? = some value) :
    read? (toString value) = some ⟨x.foldedBits⟩ := by
  obtain ⟨hfinite, hvalue, hsign⟩ := facts_of_toInt? h
  rw [read?_toString, magnitude_of_finiteValue hfinite hvalue]
  by_cases hzero : value = 0
  · subst hzero
    have hmagnitude : Format.double.magnitude x.pattern = 0 := by
      apply Format.finiteValue_eq_zero
      rw [← hvalue, Decimal.value, Int.natAbs_zero, Nat.cast_zero, zero_mul]
    rw [foldedBits_of_isZero (decide_eq_true hmagnitude), hmagnitude]
    rfl
  · have hnot : x.isZero = false := by
      rw [Bool.eq_false_iff]
      intro hiszero
      rw [toInt?_of_isZero hiszero] at h
      cases h
      exact hzero rfl
    rw [foldedBits_of_not_isZero hnot, hsign hzero, ofMagnitude_self]

theorem read?_positional (hfinite : Format.double.magnitude x.pattern < Format.double.infinity)
    (hzero : x.isZero = false) : read? x.positional = some x := by
  have hmagnitude : Format.double.magnitude x.pattern ≠ 0 := of_decide_eq_false hzero
  have hnan : x.isNaN = false := decide_eq_false (Nat.not_lt_of_lt hfinite)
  obtain ⟨front, back, htext, hwritten⟩ :=
    (Decimal.shortest (Format.double.magnitude x.pattern)).exists_writtenBy
  have hpositional : x.positional =
      (if Format.double.negative x.pattern then "-" else "") ++
        String.ofList (pointed front back) := by
    unfold positional textWith
    simp only [hnan, Bool.false_eq_true, if_false, if_neg (Nat.ne_of_lt hfinite), if_neg hmagnitude]
    rw [htext, signText]
  rw [hpositional, read?_pointed _ hwritten, magnitude_shortest hfinite, ofMagnitude_self]

/-- What cannot be written with digits is written with a word. -/
theorem read?_positional_infinite
    (hinfinite : Format.double.magnitude x.pattern = Format.double.infinity) :
    read? x.positional = some x := by
  have hnan : x.isNaN = false := decide_eq_false (by omega)
  have hword : readMagnitude? "inf".toList = some Format.double.infinity := rfl
  have hpositional : x.positional =
      (if Format.double.negative x.pattern then "-" else "") ++ String.ofList "inf".toList := by
    unfold positional textWith
    simp only [hnan, Bool.false_eq_true, if_false, if_pos hinfinite]
    rw [String.ofList_toList, signText]
  rw [hpositional, read?_signed _ hword (by decide) (by decide), ← hinfinite, ofMagnitude_self]

/-- The text of a number is read as the number, up to the sign of zero. -/
theorem read?_text (hnan : x.isNaN = false) : read? x.text = some ⟨x.foldedBits⟩ := by
  have hpositional : x.isZero = false → read? x.positional = some ⟨x.foldedBits⟩ := by
    intro hzero
    rw [foldedBits_of_not_isZero hzero]
    rcases finite_or_infinite hnan with hfinite | hinfinite
    · exact read?_positional hfinite hzero
    · exact read?_positional_infinite hinfinite
  unfold text
  cases hzero : x.isZero with
  | true =>
    -- Both zeros are written as the integer, which has no sign.
    have hint := toInt?_of_isZero hzero
    simp only [hint, Int.natAbs_zero]
    rw [if_pos (by decide)]
    exact read?_toString_of_toInt? hint
  | false =>
    cases hint : x.toInt? with
    | none => exact hpositional hzero
    | some value =>
      by_cases hsmall : value.natAbs < 10 ^ 15
      · simp only [if_pos hsmall]
        exact read?_toString_of_toInt? hint
      · simp only [if_neg hsmall]
        exact hpositional hzero

theorem text_of_isNaN (hnan : x.isNaN = true) : x.text = "NaN" := by
  have hnot : ¬ Format.double.magnitude x.pattern < Format.double.infinity :=
    Nat.not_lt_of_lt (of_decide_eq_true hnan)
  unfold text
  rw [toInt?_of_not_finite hnot]
  unfold positional textWith
  simp only [hnan, if_true]

/-- The text of what is not a number is read as what is not a number. -/
theorem read?_text_notANumber (hnan : x.isNaN = true) :
    ∃ y : Double, y.isNaN = true ∧ read? x.text = some y := by
  rw [text_of_isNaN hnan]
  exact ⟨ofMagnitude false (Format.double.infinity + Format.double.quietBit), by decide, rfl⟩

theorem quantity?_folded (x : Double) : (⟨x.foldedBits⟩ : Double).quantity? = x.quantity? := by
  cases hzero : x.isZero with
  | true =>
    rw [foldedBits_of_isZero hzero, quantity?_of_isZero hzero]
    exact quantity?_of_isZero (by decide)
  | false => rw [foldedBits_of_not_isZero hzero]

/-- The text of a number is read as one that is worth the same, and other than a zero as the number
itself. -/
theorem exists_read?_text (x : Double) : ∃ y, read? x.text = some y ∧ y.quantity? = x.quantity? ∧
    (x.isNaN = false → x.isZero = false → y = x) := by
  cases hnan : x.isNaN with
  | true =>
    obtain ⟨y, hy, hread⟩ := read?_text_notANumber hnan
    refine ⟨y, hread, ?_, nofun⟩
    rw [quantity?_eq_none_iff.2 hy, quantity?_eq_none_iff.2 hnan]
  | false =>
    refine ⟨_, read?_text hnan, x.quantity?_folded, fun _ hzero => ?_⟩
    rw [foldedBits_of_not_isZero hzero]

/-- Numbers have one text exactly if they are worth the same. -/
theorem text_eq_iff {x y : Double} : x.text = y.text ↔ x.quantity? = y.quantity? := by
  constructor
  · intro htext
    obtain ⟨z, hread, hquantity, -⟩ := exists_read?_text x
    obtain ⟨z', hread', hquantity', -⟩ := exists_read?_text y
    rw [htext, hread'] at hread
    cases hread
    exact hquantity.symm.trans hquantity'
  · intro hquantity
    cases hy : y.quantity? with
    | none =>
      rw [hy] at hquantity
      rw [text_of_isNaN (quantity?_eq_none_iff.1 hquantity),
        text_of_isNaN (quantity?_eq_none_iff.1 hy)]
    | some quantity =>
      rcases eq_or_isZero_of_quantity (hquantity.trans hy) hy with rfl | ⟨hzero, hzero'⟩
      · rfl
      · rw [text, text, toInt?_of_isZero hzero, toInt?_of_isZero hzero']
        rfl

/-! ## No blanks in a number -/

theorem noBlank_of_readExponent? {text : List Char} {exponent : Int}
    (h : readExponent? text = some exponent) : NoBlank text := by
  unfold readExponent? at h
  split at h
  rename_i _ negative digits hsplit
  split at h
  · cases h
  · rename_i hdigits
    have hall : digits.all Char.isDigit = true := by
      simpa using (not_or.1 hdigits).2
    split at hsplit
    · cases hsplit
      exact (noBlank_of_digits hall).cons rfl
    · cases hsplit
      exact (noBlank_of_digits hall).cons rfl
    · cases hsplit
      exact noBlank_of_digits hall

/-- What may follow the digits of a numeral: nothing, or an exponent. -/
theorem noBlank_of_tail {tail : List Char} {whole : Nat} {value : Int → Nat} {magnitude : Nat}
    (h : (match tail with
      | [] => some whole
      | c :: rest => if c = 'e' ∨ c = 'E' then (readExponent? rest).map value else none) =
        some magnitude) : NoBlank tail := by
  split at h
  · exact List.forall_mem_nil _
  · rename_i c rest
    split at h
    · rename_i hmark
      obtain ⟨exponent, hexponent, -⟩ := Option.map_eq_some_iff.1 h
      apply (noBlank_of_readExponent? hexponent).cons
      rcases hmark with rfl | rfl <;> rfl
    · cases h

theorem noBlank_of_readNumeral? {text : List Char} {magnitude : Nat}
    (h : readNumeral? text = some magnitude) : NoBlank text := by
  -- There are digits, perhaps a point and more digits, and then what `noBlank_of_tail` allows.
  rw [← List.takeWhile_append_dropWhile (p := Char.isDigit) (l := text)]
  apply (noBlank_takeWhile text).append
  unfold readNumeral? at h
  dsimp only at h
  split at h
  · rename_i rest hpoint
    dsimp only at h
    rw [hpoint, ← List.takeWhile_append_dropWhile (p := Char.isDigit) (l := rest)]
    split at h
    · cases h
    · exact ((noBlank_takeWhile rest).append (noBlank_of_tail h)).cons rfl
  · dsimp only at h
    split at h
    · cases h
    · exact noBlank_of_tail h

theorem noBlank_of_readMagnitude? {text : List Char} {magnitude : Nat}
    (h : readMagnitude? text = some magnitude) : NoBlank text := by
  have hword : ∀ word : String, NoBlank word.toList → String.ofList (text.map Char.toLower) = word →
      NoBlank text := by
    rintro word hblank rfl
    rw [String.toList_ofList] at hblank
    exact noBlank_of_toLower hblank
  unfold readMagnitude? at h
  split at h
  · rename_i hnumeral
    exact noBlank_of_readNumeral? hnumeral
  · dsimp only at h
    split at h
    · rename_i heq
      rcases heq with heq | heq
      · exact hword _ (by decide) heq
      · exact hword _ (by decide) heq
    · split at h
      · rename_i heq
        exact hword _ (by decide) heq
      · cases h

/-- A number's written form has no blanks. -/
theorem noBlank_of_read? {text : String} {x : Double} (h : read? text = some x) :
    NoBlank text.toList := by
  unfold read? at h
  split at h
  · obtain ⟨magnitude, hmagnitude, -⟩ := Option.map_eq_some_iff.1 h
    rename_i heq
    rw [heq]
    exact (noBlank_of_readMagnitude? hmagnitude).cons rfl
  · obtain ⟨magnitude, hmagnitude, -⟩ := Option.map_eq_some_iff.1 h
    rename_i heq
    rw [heq]
    exact (noBlank_of_readMagnitude? hmagnitude).cons rfl
  · obtain ⟨magnitude, hmagnitude, -⟩ := Option.map_eq_some_iff.1 h
    exact noBlank_of_readMagnitude? hmagnitude

end Double

end Number

/-- A string that is a number's written form stands for the number. -/
theorem Value.toNumber?_ofText {text : String} {n : Number.Double}
    (h : Number.Double.read? text = some n) : (Value.ofText text).toNumber? = some n := by
  rw [ofText, toNumber?, Bytes.text?_ofText, Option.bind_some,
    trimBlanks_of_unpadded (Number.Double.noBlank_of_read? h).unpadded, h]

end JitHost
