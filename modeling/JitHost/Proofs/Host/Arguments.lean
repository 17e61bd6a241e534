import JitHost.Host.Api
import JitHost.Host.Call
import JitHost.Proofs.Number.Reading

/-!
# Arguments that are numbers

An argument of a command line becomes a number if it reads as one, and else a string. A string that
is asked for its number is trimmed first and an argument is not, but no number's written form begins
or ends with a blank, so an argument is worth the same number whether it is converted at once or
left a string (`Value.toNumber?_ofArgument`). Compiled code that only asks for numbers cannot tell
which it was given (`Host.DifferInArguments.toNumber_eq`).
-/

namespace JitHost

open Number Text

namespace Value

variable {text : String} {n : Double}

theorem ofArgument_of_read (h : Double.read? text = some n) : ofArgument text = number n := by
  rw [ofArgument, h]

theorem ofArgument_of_unread (h : Double.read? text = none) : ofArgument text = ofText text := by
  rw [ofArgument, h]

/-- An argument is worth the same number early and late. -/
theorem toNumber?_ofArgument (text : String) :
    (ofArgument text).toNumber? = (ofText text).toNumber? := by
  cases hread : Double.read? text with
  | none => rw [ofArgument_of_unread hread]
  | some n =>
    rw [ofArgument_of_read hread, toNumber?_ofText hread]
    rfl

/-- A text without blanks at its ends is read as it is. -/
theorem toNumber?_of_unpadded (h : Unpadded text) :
    (ofText text).toNumber? = Double.read? text := by
  rw [ofText, toNumber?, Bytes.text?_ofText, Option.bind_some, trimBlanks_of_unpadded h]

/-- The arguments that become numbers. -/
theorem ofArgument_eq_number_iff :
    ofArgument text = number n ↔ Unpadded text ∧ (ofText text).toNumber? = some n := by
  constructor
  · intro h
    cases hread : Double.read? text with
    | none =>
      rw [ofArgument_of_unread hread] at h
      cases h
    | some m =>
      rw [ofArgument_of_read hread, number.injEq] at h
      subst h
      exact ⟨(Double.noBlank_of_read? hread).unpadded, toNumber?_ofText hread⟩
  · rintro ⟨hends, hnumber⟩
    rw [toNumber?_of_unpadded hends] at hnumber
    exact ofArgument_of_read hnumber

end Value

/-! ## On the stack -/

namespace Host

/-- Two hosts with the same stack, but for arguments that were converted on the one and are strings
on the other. -/
structure DifferInArguments (h other : Host) : Prop where
  base_eq : other.base = h.base
  size_eq : other.stack.size = h.stack.size
  stack : ∀ (place : Nat) (a b : Value), h.stack[place]? = some a → other.stack[place]? = some b →
    b = a ∨ ∃ text, a = Value.ofArgument text ∧ b = Value.ofText text

variable {h other : Host}

/-- What an index refers to is the same on both, or one argument on both. -/
theorem DifferInArguments.value_eq_or (hdiffer : h.DifferInArguments other) (index : Int) :
    other.value index = h.value index ∨
      ∃ text, h.value index = Value.ofArgument text ∧ other.value index = Value.ofText text := by
  have hslot : other.slot? index = h.slot? index := by
    rw [slot?, slot?, hdiffer.base_eq, hdiffer.size_eq]
  rw [value, value, get?, get?, hslot]
  cases h.slot? index with
  | none => exact .inl rfl
  | some place =>
    rw [Option.bind_some, Option.bind_some]
    by_cases hplace : place < h.stack.size
    · have hplace' : place < other.stack.size := hdiffer.size_eq ▸ hplace
      have ha := Array.getElem?_eq_getElem hplace
      have hb := Array.getElem?_eq_getElem hplace'
      rw [ha, hb]
      exact hdiffer.stack place _ _ ha hb
    · have hplace' : ¬ place < other.stack.size := hdiffer.size_eq ▸ hplace
      rw [Array.getElem?_eq_none (Nat.le_of_not_lt hplace),
        Array.getElem?_eq_none (Nat.le_of_not_lt hplace')]
      exact .inl rfl

/-- At every index there is the same number, or none. -/
theorem DifferInArguments.toNumber_eq (hdiffer : h.DifferInArguments other) (index : Int) :
    other.toNumber index = h.toNumber index := by
  rw [toNumber, toNumber]
  rcases hdiffer.value_eq_or index with heq | ⟨text, ha, hb⟩
  · rw [heq]
  · rw [ha, hb, Value.toNumber?_ofArgument]

/-- How a call begins that is given converted arguments, and one that is given strings. -/
inductive EntersAlike : Except HostError Host → Except HostError Host → Prop where
  | refused (cause : HostError) : EntersAlike (.error cause) (.error cause)
  | entered {converted left : Host} (h : converted.DifferInArguments left) :
      EntersAlike (.ok converted) (.ok left)

/-- A call finds its arguments on the stack as they were converted. -/
theorem entersAlike (h : Host) (texts : List String) :
    EntersAlike (h.enter (texts.map Value.ofArgument)) (h.enter (texts.map Value.ofText)) := by
  unfold enter
  simp only [List.length_map]
  by_cases hfits : h.fits texts.length = true
  · rw [if_pos hfits, if_pos hfits]
    refine .entered ⟨rfl, by simp, ?_⟩
    intro place a b ha hb
    by_cases hplace : place < h.stack.size
    · -- What lay on the stack before is the same on both.
      rw [Array.getElem?_append_left hplace] at ha hb
      exact .inl (Option.some.inj (hb.symm.trans ha))
    · rw [Array.getElem?_append_right (Nat.le_of_not_lt hplace)] at ha hb
      simp only [List.getElem?_toArray, List.getElem?_map, Option.map_eq_some_iff] at ha hb
      obtain ⟨text, htext, rfl⟩ := ha
      obtain ⟨text', htext', rfl⟩ := hb
      obtain rfl : text = text' := Option.some.inj (htext.symm.trans htext')
      exact .inr ⟨text, rfl, rfl⟩
  · rw [if_neg hfits, if_neg hfits]
    exact .refused _

end Host

/-- What it does to convert an argument at once. -/
structure Value.ConvertedEarly (text : String) : Prop where
  /-- The argument is worth the same number as the string, or none as well. -/
  toNumber?_eq : (ofArgument text).toNumber? = (ofText text).toNumber?
  /-- It becomes the number that the string is worth, if no blank stands at either end, -/
  number_iff : ∀ n, ofArgument text = number n ↔
    Unpadded text ∧ (ofText text).toNumber? = some n
  /-- and stays the string with its bytes otherwise. -/
  string_iff : ofArgument text = string (Bytes.ofText text) ↔
    ¬ (Unpadded text ∧ (ofText text).toNumber?.isSome = true)

theorem Value.convertedEarly (text : String) : ConvertedEarly text where
  toNumber?_eq := toNumber?_ofArgument text
  number_iff := fun n => ofArgument_eq_number_iff
  string_iff := by
    cases hread : Double.read? text with
    | some n =>
      have hnumber := ofArgument_of_read hread
      obtain ⟨hends, hworth⟩ := ofArgument_eq_number_iff.1 hnumber
      rw [hnumber, hworth]
      simp [hends]
    | none =>
      rw [ofArgument_of_unread hread]
      refine iff_of_true rfl ?_
      rintro ⟨hends, hworth⟩
      rw [toNumber?_of_unpadded hends, hread] at hworth
      cases hworth

/-- Every argument may be converted at once or left a string: it is worth the same number, and
compiled code that asks for a number is answered the same, wherever such arguments lie on the stack,
as they do when a call begins. -/
theorem arguments_worth_same :
    (∀ text, Value.ConvertedEarly text) ∧
    (∀ (h : Host) (texts : List String), Host.EntersAlike (h.enter (texts.map Value.ofArgument))
      (h.enter (texts.map Value.ofText))) ∧
    ∀ h other : Host, h.DifferInArguments other →
      ∀ index, other.toNumber index = h.toNumber index := by
  refine ⟨Value.convertedEarly, Host.entersAlike, ?_⟩
  intro h other hdiffer index
  exact hdiffer.toNumber_eq index

-- An argument between blanks stays a string, and is worth the number without them.
example : Value.ofArgument " 42" = .ofText " 42" ∧ (Value.ofText " 42").toNumber? =
    (Value.ofArgument "42").toNumber? := by decide +kernel

end JitHost
