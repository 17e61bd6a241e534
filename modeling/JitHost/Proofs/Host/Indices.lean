import JitHost.Host.Api

/-!
# Indices from both ends

An index counts the values of the frame, from 1 up at its beginning and from -1 down at its top.
`Host.Designates` says which value an index designates, and `Host.slot?_eq_some_iff` that this is
where the host looks.

`IndexedOperation` is all that can be done with an index other than to resize the frame. Such an
operation depends on a valid index only through the slot that it designates
(`Host.performAt_congr`), so both indices of a value do the same (`Host.indices_interchangeable`).
-/

namespace JitHost

open Number Text

/-- The operations that take an index: those of the stack, and those by which compiled code reaches
it. -/
inductive IndexedOperation where
  | get
  | value
  | kind
  | replace
  | toText
  | getField (key : Value)
  | setField (key : Value)
  | toNumber
  | toBoolean
  | identity
  | getTextField (key : Option Bytes)
  | setTextField (key : Option Bytes)
  | getPointerField (key : Address)
  | setPointerField (key : Address)
  | pushValue

/-- What such an operation answers. -/
inductive IndexedReply where
  | done
  | entry (value? : Option Value)
  | value (value : Value)
  | kind (kind : Kind)
  | text (bytes? : Option Bytes)
  | number (n : Double) (found : Bool)
  | truth (b : Bool)
  | identity (identity : Identity)

namespace Host

/-- An operation at an index. -/
def performAt (h : Host) (index : Int) : IndexedOperation → IndexedReply × Host
  | .get => (.entry (h.get? index), h)
  | .value => (.value (h.value index), h)
  | .kind => (.kind (h.kind index), h)
  | .replace => (.done, h.replace index)
  | .toText => (.text (h.toText index).1, (h.toText index).2)
  | .getField key => (.kind (h.getField index key).1, (h.getField index key).2)
  | .setField key => (.done, h.setField index key)
  | .toNumber => (.number (h.toNumber index).1 (h.toNumber index).2, h)
  | .toBoolean => (.truth (h.toBoolean index), h)
  | .identity => (.identity (h.identityAt index), h)
  | .getTextField key => (.kind (h.getTextField index key).1, (h.getTextField index key).2)
  | .setTextField key => (.done, h.setTextField index key)
  | .getPointerField key =>
      (.kind (h.getPointerField index key).1, (h.getPointerField index key).2)
  | .setPointerField key => (.done, h.setPointerField index key)
  | .pushValue => (.done, h.pushValue index)

/-! ## The designated value -/

/-- An index designates the value at a place of the frame: it counts from the beginning or from the
top. -/
structure Designates (h : Host) (index : Int) (place : Nat) : Prop where
  within : place < h.top
  index_eq : index = (place : Int) + 1 ∨ index = (place : Int) - h.top

/-- An index of size at most that of the frame designates one of its values, any other none. -/
theorem exists_designates_iff {h : Host} {index : Int} :
    (∃ place, h.Designates index place) ↔ 1 ≤ index.natAbs ∧ index.natAbs ≤ h.top := by
  constructor
  · rintro ⟨place, hwithin, hindex⟩
    omega
  · rintro ⟨hpos, hle⟩
    by_cases hup : 0 < index
    · exact ⟨index.toNat - 1, by omega, .inl (by omega)⟩
    · exact ⟨h.top - index.natAbs, by omega, .inr (by omega)⟩

theorem Designates.unique {h : Host} {index : Int} {place other : Nat}
    (hplace : h.Designates index place) (hother : h.Designates index other) : other = place := by
  have hwithin := hplace.within
  have hwithin' := hother.within
  rcases hplace.index_eq with hindex | hindex
  · rcases hother.index_eq with hindex' | hindex' <;> omega
  · rcases hother.index_eq with hindex' | hindex' <;> omega

/-- The host looks where an index designates, counted from the beginning of the frame. -/
theorem slot?_eq_some_iff {h : Host} {index : Int} {slot : Nat} :
    h.slot? index = some slot ↔ ∃ place, h.Designates index place ∧ slot = h.base + place := by
  have htop : h.top = h.stack.size - h.base := rfl
  unfold slot?
  constructor
  · intro hslot
    by_cases hup : 0 < index
    · rw [if_pos hup] at hslot
      by_cases hlt : h.base + (index.toNat - 1) < h.stack.size
      · simp only [if_pos hlt, Option.some.injEq] at hslot
        exact ⟨index.toNat - 1, ⟨by omega, .inl (by omega)⟩, hslot.symm⟩
      · simp only [if_neg hlt] at hslot
        cases hslot
    · rw [if_neg hup] at hslot
      by_cases hdown : index < 0
      · rw [if_pos hdown] at hslot
        by_cases hle : index.natAbs ≤ h.stack.size - h.base
        · simp only [if_pos hle, Option.some.injEq] at hslot
          exact ⟨h.top - index.natAbs, ⟨by omega, .inr (by omega)⟩, by omega⟩
        · simp only [if_neg hle] at hslot
          cases hslot
      · rw [if_neg hdown] at hslot
        cases hslot
  · rintro ⟨place, ⟨hwithin, hindex⟩, rfl⟩
    rcases hindex with hup | hdown
    · have hpos : 0 < index := by omega
      have hplace : h.base + (index.toNat - 1) = h.base + place := by omega
      have hlt : h.base + place < h.stack.size := by omega
      simp only [if_pos hpos, hplace, if_pos hlt]
    · have hneg : index < 0 := by omega
      have hnot : ¬ 0 < index := by omega
      have hle : index.natAbs ≤ h.stack.size - h.base := by omega
      have hplace : h.stack.size - index.natAbs = h.base + place := by omega
      simp only [if_neg hnot, if_pos hneg, if_pos hle, hplace]

theorem slot?_eq_none_iff {h : Host} {index : Int} :
    h.slot? index = none ↔ ∀ place, ¬ h.Designates index place := by
  constructor
  · intro hnone place hplace
    have hslot := slot?_eq_some_iff.2 ⟨place, hplace, rfl⟩
    rw [hnone] at hslot
    cases hslot
  · intro hinvalid
    cases hslot : h.slot? index with
    | none => rfl
    | some slot =>
      obtain ⟨place, hplace, -⟩ := slot?_eq_some_iff.1 hslot
      exact absurd hplace (hinvalid place)

/-! ## Two indices of one value -/

/-- The index from the top of a value designates what its index from the beginning does. -/
theorem slot?_from_top {h : Host} {i : Int} (hpos : 1 ≤ i) (hle : i ≤ h.top) :
    h.slot? (i - h.top - 1) = h.slot? i := by
  have hplace : h.Designates i (i.toNat - 1) := ⟨by omega, .inl (by omega)⟩
  have hfromTop : h.Designates (i - h.top - 1) (i.toNat - 1) := ⟨by omega, .inr (by omega)⟩
  rw [slot?_eq_some_iff.2 ⟨_, hplace, rfl⟩, slot?_eq_some_iff.2 ⟨_, hfromTop, rfl⟩]

section

variable {h : Host} {i j : Int} {slot : Nat}

theorem value_congr (hi : h.slot? i = some slot) (hj : h.slot? j = some slot) :
    h.value i = h.value j := by
  rw [value, value, get?, get?, hi, hj]

/-- The index shows in an operation only where it is not valid. -/
theorem performAt_congr (hi : h.slot? i = some slot) (hj : h.slot? j = some slot)
    (operation : IndexedOperation) : h.performAt i operation = h.performAt j operation := by
  have hvalue := value_congr hi hj
  have hget : ∀ key, h.getField i key = h.getField j key := fun key => by
    rw [getField, getField, hvalue]
  have hset : ∀ key, h.setField i key = h.setField j key := fun key => by
    rw [setField, setField, hvalue]
  cases operation with
  | get => simp only [performAt, get?, hi, hj]
  | value => simp only [performAt, hvalue]
  | kind => simp only [performAt, kind, hvalue]
  | replace => simp only [performAt, replace, hi, hj]
  | toText => simp only [performAt, toText, hi, hj]
  | getField key => simp only [performAt, hget]
  | setField key => simp only [performAt, hset]
  | toNumber => simp only [performAt, toNumber, hvalue]
  | toBoolean => simp only [performAt, toBoolean, hvalue]
  | identity => simp only [performAt, identityAt, hvalue]
  | getTextField key => simp only [performAt, getTextField, hget]
  | setTextField key => simp only [performAt, setTextField, hset]
  | getPointerField key => simp only [performAt, getPointerField, hget]
  | setPointerField key => simp only [performAt, setPointerField, hset]
  | pushValue => simp only [performAt, pushValue, hvalue]

end

/-- How a host counts the values of its frame. -/
structure CountsFromBothEnds (h : Host) : Prop where
  /-- An index is valid if its size is at least one and at most that of the frame. -/
  valid_iff : ∀ index, (∃ slot, h.slot? index = some slot) ↔
    1 ≤ index.natAbs ∧ index.natAbs ≤ h.top
  /-- What it designates lies in the frame. -/
  within : ∀ index slot, h.slot? index = some slot → h.base ≤ slot ∧ slot < h.stack.size
  /-- The `i`-th value has two indices, -/
  slot_eq : ∀ i : Int, 1 ≤ i → i ≤ h.top → h.slot? (i - h.top - 1) = h.slot? i
  /-- and with both of them every operation answers the same and leaves the same host. -/
  perform_eq : ∀ i : Int, 1 ≤ i → i ≤ h.top → ∀ operation,
    h.performAt (i - h.top - 1) operation = h.performAt i operation

/-- Every host counts from both ends of its frame. -/
theorem indices_interchangeable (h : Host) : h.CountsFromBothEnds where
  valid_iff := by
    intro index
    rw [← exists_designates_iff]
    constructor
    · rintro ⟨slot, hslot⟩
      obtain ⟨place, hplace, -⟩ := slot?_eq_some_iff.1 hslot
      exact ⟨place, hplace⟩
    · rintro ⟨place, hplace⟩
      exact ⟨h.base + place, slot?_eq_some_iff.2 ⟨place, hplace, rfl⟩⟩
  within := by
    intro index slot hslot
    obtain ⟨place, hplace, rfl⟩ := slot?_eq_some_iff.1 hslot
    have hwithin : place < h.stack.size - h.base := hplace.within
    exact ⟨Nat.le_add_right _ _, by omega⟩
  slot_eq := fun i hpos hle => slot?_from_top hpos hle
  perform_eq := by
    intro i hpos hle operation
    have hplace : h.Designates i (i.toNat - 1) := ⟨by omega, .inl (by omega)⟩
    have hslot := slot?_eq_some_iff.2 ⟨_, hplace, rfl⟩
    exact performAt_congr ((slot?_from_top hpos hle).trans hslot) hslot operation

end Host

end JitHost
