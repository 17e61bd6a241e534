import JitHost.Proofs.Host.StackEffects
import JitHost.Proofs.Number.Reading

/-!
# Numbers converted on the stack

To ask for the text of a number on the stack puts the text in its place. `Host.ConvertsAt` says what
that keeps: all that is not in this place, and in it the number, which is read back from its text.
Whoever asks again is answered the same, and nothing changes any more.
-/

namespace JitHost

open Number Text

namespace Host

/-- The host with another value at a place of the frame. -/
def writeAt (h : Host) (place : Nat) (value : Value) : Host :=
  { h with stack := h.stack.setIfInBounds (h.base + place) value }

section

variable {h : Host} {index other : Int} {place : Nat} {value : Value}

theorem getElem?_frame (h : Host) (place : Nat) : h.frame[place]? = h.stack[h.base + place]? := by
  rw [frame, List.getElem?_drop, Array.getElem?_toList]

theorem value_of_designates (hplace : h.Designates index place)
    (hvalue : h.frame[place]? = some value) : h.value index = value := by
  rw [getElem?_frame] at hvalue
  rw [Host.value, get?, slot?_eq_some_iff.2 ⟨place, hplace, rfl⟩, Option.bind_some, hvalue]
  rfl

theorem top_writeAt : (h.writeAt place value).top = h.top := by
  rw [top, writeAt, Array.size_setIfInBounds, top]

theorem designates_writeAt_iff {slot : Nat} :
    (h.writeAt place value).Designates index slot ↔ h.Designates index slot := by
  constructor
  · rintro ⟨hwithin, hindex⟩
    rw [top_writeAt] at hwithin hindex
    exact ⟨hwithin, hindex⟩
  · rintro ⟨hwithin, hindex⟩
    rw [← top_writeAt (h := h)] at hwithin hindex
    exact ⟨hwithin, hindex⟩

theorem getElem?_writeAt (hwithin : place < h.top) (slot : Nat) :
    (h.writeAt place value).stack[slot]? =
      if slot = h.base + place then some value else h.stack[slot]? := by
  have hsize : h.base + place < h.stack.size := by
    have htop : h.top = h.stack.size - h.base := rfl
    omega
  rw [writeAt, Array.getElem?_setIfInBounds]
  by_cases hslot : slot = h.base + place
  · subst hslot
    rw [if_pos rfl, if_pos rfl, if_pos hsize]
  · rw [if_neg (Ne.symm hslot), if_neg hslot]

theorem value_writeAt (hplace : h.Designates index place) :
    (h.writeAt place value).value index = value := by
  apply value_of_designates (designates_writeAt_iff.2 hplace)
  rw [getElem?_frame]
  exact (getElem?_writeAt hplace.within _).trans (if_pos rfl)

/-- Text is answered as it is. -/
theorem toText_of_string {bytes : Bytes} (hplace : h.Designates index place)
    (hstring : h.frame[place]? = some (.string bytes)) : h.toText index = (some bytes, h) := by
  rw [getElem?_frame] at hstring
  unfold toText
  rw [slot?_eq_some_iff.2 ⟨place, hplace, rfl⟩]
  simp only [hstring]

/-- A number is answered by its text, which takes its place. -/
theorem toText_of_number {n : Double} (hplace : h.Designates index place)
    (hnumber : h.frame[place]? = some (.number n)) :
    h.toText index = (some (Bytes.ofText n.text), h.writeAt place (.ofText n.text)) := by
  rw [getElem?_frame] at hnumber
  unfold toText
  rw [slot?_eq_some_iff.2 ⟨place, hplace, rfl⟩]
  simp only [hnumber]
  rfl

end

/-- What it does to ask for the text of a number that lies at a place of the frame. -/
structure ConvertsAt (h : Host) (index : Int) (place : Nat) (n : Double) : Prop where
  /-- The answer is the text of the number. -/
  answer : (h.toText index).1 = some (Bytes.ofText n.text)
  /-- The text takes the place of the number, and nothing else on the stack -/
  stack_eq : ∀ slot, (h.toText index).2.stack[slot]? =
    if slot = h.base + place then some (.string (Bytes.ofText n.text)) else h.stack[slot]?
  /-- or outside of it changes. -/
  rest_eq : (h.toText index).2 = { h with stack := (h.toText index).2.stack }
  /-- What is at the place reads as a number of the same worth and, but for the sign of a zero, as
  the number that was there. -/
  number : ∀ other, (h.toText index).2.Designates other place →
    ∃ m, (h.toText index).2.toNumber other = (m, true) ∧ m.quantity? = n.quantity? ∧
      m.isNaN = n.isNaN ∧ (n.isNaN = false → m.same n = true ∧ (n.isZero = false → m = n))
  /-- To ask again gives the same answer and changes nothing. -/
  again : ∀ other, (h.toText index).2.Designates other place →
    (h.toText index).2.toText other = h.toText index
  /-- No number that is worth anything else has this text. -/
  unambiguous : ∀ m : Double, m.text = n.text ↔ m.quantity? = n.quantity?

/-- Wherever a number lies on the stack, to ask for its text keeps it. -/
theorem number_converted {h : Host} {index : Int} {place : Nat} {n : Double}
    (hplace : h.Designates index place) (hnumber : h.frame[place]? = some (.number n)) :
    h.ConvertsAt index place n := by
  have hconverted := toText_of_number hplace hnumber
  refine ⟨?_, ?_, ?_, ?_, ?_, fun m => Double.text_eq_iff⟩
  · rw [hconverted]
  · intro slot
    rw [hconverted]
    exact getElem?_writeAt hplace.within slot
  · rw [hconverted]
    rfl
  · -- The text is read from the slot as it would be anywhere else.
    intro other hother
    rw [hconverted] at hother ⊢
    obtain ⟨m, hread, hquantity, hsame⟩ := n.exists_read?_text
    have hvalue : (h.writeAt place (.ofText n.text)).value other = .ofText n.text :=
      value_writeAt (designates_writeAt_iff.1 hother)
    refine ⟨m, ?_, hquantity, Double.isNaN_congr hquantity, fun hnan => ⟨?_, hsame hnan⟩⟩
    · rw [toNumber, hvalue, Value.toNumber?_ofText hread]
    · obtain ⟨quantity, hn⟩ := Double.exists_quantity? hnan
      exact Double.same_iff_quantity.2 ⟨quantity, hquantity.trans hn, hn⟩
  · intro other hother
    rw [hconverted] at hother ⊢
    apply toText_of_string hother
    rw [getElem?_frame]
    exact (getElem?_writeAt hplace.within _).trans (if_pos rfl)

/-- A negative zero loses its sign and stays a zero. -/
theorem number_converted_negative_zero :
    (⟨#[.number ⟨0x8000000000000000⟩], 0, 8, none, .empty⟩ : Host).ConvertsAt (-1) 0
      ⟨0x8000000000000000⟩ :=
  number_converted ⟨by decide, .inr (by decide)⟩ rfl

end Host

end JitHost
