import JitHost.Host.Call

/-!
# A list of values for each activation

`SplitHost` is a host on which every activation of a native function keeps its values in a list of
its own, so that no operation can reach the values of another one. `SplitHost.join` lays the lists
one after another on one stack, as a `Host` has them. Every operation of a host answers there what
it answers on the list of the running activation, and leaves what it leaves of that list
(`perform_join`); a host whose frame begins on the stack is such a join (`join_split`).
-/

namespace JitHost

open Text

/-- What a native function can do with the stack while it runs. -/
inductive StackOperation where
  | push (value : Value)
  | pop
  | get (index : Int)
  | value (index : Int)
  | kind (index : Int)
  | top
  | fits (extra : Nat)
  | setTop (index : Int)
  | replace (index : Int)
  | toText (index : Int)
  | getField (index : Int) (key : Value)
  | setField (index : Int) (key : Value)
  | createTable
  | raise (message : String)

/-- What an operation answers. -/
inductive Reply where
  | done
  | entry (value? : Option Value)
  | value (value : Value)
  | kind (kind : Kind)
  | count (n : Nat)
  | truth (b : Bool)
  | text (bytes? : Option Bytes)

/-- An operation on the shared stack. -/
def Host.perform (h : Host) : StackOperation → Reply × Host
  | .push value => (.done, h.push value)
  | .pop => (.value h.pop.1, h.pop.2)
  | .get index => (.entry (h.get? index), h)
  | .value index => (.value (h.value index), h)
  | .kind index => (.kind (h.kind index), h)
  | .top => (.count h.top, h)
  | .fits extra => (.truth (h.fits extra), h)
  | .setTop index => (.done, h.setTop index)
  | .replace index => (.done, h.replace index)
  | .toText index => (.text (h.toText index).1, (h.toText index).2)
  | .getField index key => (.kind (h.getField index key).1, (h.getField index key).2)
  | .setField index key => (.done, h.setField index key)
  | .createTable => (.done, h.createTable)
  | .raise message => (.done, h.raise message)

/-- A host on which every activation has a list of values of its own: the list of the running
activation, and those of the activations that wait for a call to return, the latest first. -/
structure SplitHost where
  own : List Value
  waiting : List (List Value)
  limit : Nat
  pending : Option String
  heap : Heap

namespace SplitHost

variable (s : SplitHost)

/-- The host with another list for the running activation. -/
def withOwn (values : List Value) : SplitHost := { s with own := values }

/-- The place in the running activation's list of a valid index. -/
def place? (index : Int) : Option Nat :=
  if 0 < index ∧ index ≤ s.own.length then some (index.toNat - 1)
  else if index < 0 ∧ -index ≤ s.own.length then some (s.own.length - index.natAbs)
  else none

/-- The value at a valid index. -/
def get? (index : Int) : Option Value := (s.place? index).bind fun place => s.own[place]?

/-- The value at an index, nil if the index is not valid. -/
def value (index : Int) : Value := (s.get? index).getD .nil

/-- A value at the end of the list. -/
def push (value : Value) : SplitHost := s.withOwn (s.own ++ [value])

/-- The last value and the list without it; nil if the list is empty. -/
def pop : Value × SplitHost := (s.own.getLast?.getD .nil, s.withOwn s.own.dropLast)

/-- The number of values that all activations hold. -/
def count : Nat := s.waiting.flatten.length + s.own.length

/-- Whether `extra` more values fit. -/
def fits (extra : Nat) : Bool := s.count + extra ≤ s.limit

/-- Records a message unless one is recorded already. -/
def raise (message : String) : SplitHost := { s with pending := s.pending <|> some message }

/-- The list cut or filled with nil to a length, or with `-index - 1` values dropped. -/
def setTop (index : Int) : SplitHost :=
  if 0 ≤ index then
    s.withOwn (s.own.take index.toNat ++ .replicate (index.toNat - s.own.length) .nil)
  else s.withOwn (s.own.take (s.own.length - (index.natAbs - 1)))

/-- Moves the last value to an index. -/
def replace (index : Int) : SplitHost :=
  match s.place? index with
  | none => s.raise ("invalid stack index " ++ toString index)
  | some place => s.withOwn (s.own.dropLast.set place (s.own.getLast?.getD .nil))

/-- The string at an index; a number there is first replaced by its text. -/
def toText (index : Int) : Option Bytes × SplitHost :=
  match s.get? index, s.place? index with
  | some (.string bytes), _ => (some bytes, s)
  | some (.number n), some place =>
      (some (Bytes.ofText n.text), s.withOwn (s.own.set place (.ofText n.text)))
  | _, _ => (none, s)

/-- Pushes the value under a key of the table at an index; also gives its kind. -/
def getField (index : Int) (key : Value) : Kind × SplitHost :=
  match s.value index with
  | .table id => ((s.heap.get id key).kind, s.push (s.heap.get id key))
  | other => (.nil, (s.raise (Host.indexFault other.kind)).push .nil)

/-- Pops a value and assigns it to a key of the table that was at an index. -/
def setField (index : Int) (key : Value) : SplitHost :=
  match s.value index with
  | .table id =>
      match s.heap.set id key s.pop.1 with
      | .ok heap => { s.pop.2 with heap }
      | .error fault => s.pop.2.raise fault.message
  | other => s.pop.2.raise (Host.indexFault other.kind)

/-- Pushes a new table. -/
def createTable : SplitHost :=
  { s.push (.table (s.heap.create .empty).1) with heap := (s.heap.create .empty).2 }

/-- An operation on the list of the running activation. -/
def perform : StackOperation → Reply × SplitHost
  | .push value => (.done, s.push value)
  | .pop => (.value s.pop.1, s.pop.2)
  | .get index => (.entry (s.get? index), s)
  | .value index => (.value (s.value index), s)
  | .kind index => (.kind (s.value index).kind, s)
  | .top => (.count s.own.length, s)
  | .fits extra => (.truth (s.fits extra), s)
  | .setTop index => (.done, s.setTop index)
  | .replace index => (.done, s.replace index)
  | .toText index => (.text (s.toText index).1, (s.toText index).2)
  | .getField index key => (.kind (s.getField index key).1, (s.getField index key).2)
  | .setField index key => (.done, s.setField index key)
  | .createTable => (.done, s.createTable)
  | .raise message => (.done, s.raise message)

/-! ## The lists one after another -/

/-- The values of the waiting activations, those of the oldest one first. -/
def below : List Value := s.waiting.reverse.flatten

/-- The host with all lists on one stack. -/
def join : Host where
  stack := (s.below ++ s.own).toArray
  base := s.below.length
  limit := s.limit
  pending := s.pending
  heap := s.heap

/-- A change of the running activation's list changes nothing else on the stack. -/
theorem join_withOwn (values : List Value) :
    (s.withOwn values).join = { s.join with stack := (s.below ++ values).toArray } :=
  rfl

theorem toList_stack_join : s.join.stack.toList = s.below ++ s.own := by simp [join]

theorem size_stack_join : s.join.stack.size = s.below.length + s.own.length := by simp [join]

theorem count_eq : s.count = s.below.length + s.own.length := by
  simp [count, below, List.length_flatten]

/-- The frame of the join is the list of the running activation. -/
@[simp] theorem frame_join : s.join.frame = s.own := by
  simp [Host.frame, join]

@[simp] theorem top_join : s.join.top = s.own.length := by
  simp [Host.top, join]

@[simp] theorem fits_join (extra : Nat) : s.join.fits extra = s.fits extra := by
  simp [Host.fits, fits, count_eq, join]

/-- A valid index of the frame is a valid index of the list, at the same distance from the base. -/
theorem slot?_join (index : Int) :
    s.join.slot? index = (s.place? index).map (s.below.length + ·) := by
  have hbase : s.join.base = s.below.length := rfl
  simp only [Host.slot?, place?, size_stack_join, hbase]
  -- Positive indices count from the begin of the list, negative ones from its end.
  rcases Int.lt_trichotomy index 0 with hneg | rfl | hpos
  · have hnot : ¬ 0 < index := by omega
    by_cases hle : -index ≤ s.own.length
    · have hback : index.natAbs ≤ s.own.length := by omega
      have hplace : s.below.length + s.own.length - index.natAbs =
          s.below.length + (s.own.length - index.natAbs) := by omega
      simp [hneg, hnot, hle, hback, hplace]
    · have hback : ¬ index.natAbs ≤ s.own.length := by omega
      simp [hneg, hnot, hle, hback]
  · simp
  · have hnot : ¬ index < 0 := by omega
    by_cases hle : index ≤ s.own.length
    · have hlt : index.toNat - 1 < s.own.length := by omega
      simp [hpos, hle, hlt]
    · have hlt : ¬ index.toNat - 1 < s.own.length := by omega
      simp [hpos, hnot, hle, hlt]

theorem getElem?_stack_join (place : Nat) :
    s.join.stack[s.below.length + place]? = s.own[place]? := by
  rw [← Array.getElem?_toList, toList_stack_join, List.getElem?_append_right (by omega),
    Nat.add_sub_cancel_left]

@[simp] theorem get?_join (index : Int) : s.join.get? index = s.get? index := by
  rw [Host.get?, get?, slot?_join]
  cases s.place? index with
  | none => rfl
  | some place => exact getElem?_stack_join s place

@[simp] theorem value_join (index : Int) : s.join.value index = s.value index := by
  rw [Host.value, value, get?_join]

@[simp] theorem kind_join (index : Int) : s.join.kind index = (s.value index).kind := by
  rw [Host.kind, value_join]

@[simp] theorem push_join (v : Value) : s.join.push v = (s.push v).join := by
  rw [Host.push, push, join_withOwn]
  simp [join]

@[simp] theorem raise_join (message : String) : s.join.raise message = (s.raise message).join := rfl

@[simp] theorem pop_join : s.join.pop = (s.pop.1, s.pop.2.join) := by
  unfold Host.pop pop
  by_cases hnil : s.own = []
  · have hsize : ¬ s.join.base < s.join.stack.size := by simp [join, hnil]
    rw [if_neg hsize, join_withOwn]
    simp [join, hnil]
  · have hsize : s.join.base < s.join.stack.size := by
      simp [join, List.length_pos_iff.2 hnil]
    rw [if_pos hsize, join_withOwn]
    simp [join, List.getLast?_eq_some_getLast hnil, hnil]

/-- A size of the stack that is not below the frame cuts or fills the list. -/
theorem resize_join (size : Nat) :
    s.join.resize (s.below.length + size) =
      (s.withOwn (s.own.take size ++ .replicate (size - s.own.length) .nil)).join := by
  have hfill : s.below.length + size - (s.below.length + s.own.length) = size - s.own.length := by
    omega
  have hkept : s.below.take (s.below.length + size) = s.below :=
    List.take_of_length_le (Nat.le_add_right _ _)
  rw [join_withOwn, Host.resize, size_stack_join, hfill]
  simp [join, List.take_append, hkept]

@[simp] theorem setTop_join (index : Int) : s.join.setTop index = (s.setTop index).join := by
  unfold Host.setTop setTop
  by_cases hindex : 0 ≤ index
  · rw [if_pos hindex, if_pos hindex]
    exact resize_join s index.toNat
  · rw [if_neg hindex, if_neg hindex, size_stack_join]
    -- However many values are to go, the stack is not cut below the frame.
    have hsize : max (s.below.length + s.own.length - (index.natAbs - 1)) s.join.base =
        s.below.length + (s.own.length - (index.natAbs - 1)) := by
      show max _ s.below.length = _
      omega
    have hfill : s.own.length - (index.natAbs - 1) - s.own.length = 0 := by omega
    rw [hsize, resize_join, hfill]
    simp

/-- A value written to a place of the frame is written to that place of the list. -/
theorem set_stack_join (place : Nat) (v : Value) :
    { s.join with stack := s.join.stack.setIfInBounds (s.below.length + place) v } =
      (s.withOwn (s.own.set place v)).join := by
  rw [join_withOwn]
  simp [join]

@[simp] theorem replace_join (index : Int) : s.join.replace index = (s.replace index).join := by
  unfold Host.replace replace
  rw [slot?_join]
  cases s.place? index with
  | none => rfl
  | some place =>
    -- The value is taken off first, so the place may be just behind the list that is left.
    rw [Option.map_some, pop_join]
    exact set_stack_join s.pop.2 place s.pop.1

@[simp] theorem toText_join (index : Int) :
    s.join.toText index = ((s.toText index).1, (s.toText index).2.join) := by
  unfold Host.toText toText get?
  rw [slot?_join]
  cases s.place? index with
  | none => rfl
  | some place =>
    simp only [Option.map_some, Option.bind_some, getElem?_stack_join]
    cases s.own[place]? with
    | none => rfl
    | some v =>
      cases v with
      | number n =>
        simp only [set_stack_join]
        rfl
      | _ => rfl

@[simp] theorem getField_join (index : Int) (key : Value) :
    s.join.getField index key = ((s.getField index key).1, (s.getField index key).2.join) := by
  unfold Host.getField getField
  rw [value_join]
  cases s.value index with
  | table id =>
    simp only [push_join]
    rfl
  | _ => simp only [raise_join, push_join]

@[simp] theorem setField_join (index : Int) (key : Value) :
    s.join.setField index key = (s.setField index key).join := by
  unfold Host.setField setField
  rw [value_join, pop_join]
  cases s.value index with
  | table id =>
    have hheap : s.pop.2.join.heap = s.heap := rfl
    simp only [hheap]
    cases s.heap.set id key s.pop.1 <;> rfl
  | _ => rfl

@[simp] theorem createTable_join : s.join.createTable = s.createTable.join := by
  have hpush := push_join s (.table (s.heap.create .empty).1)
  show { s.join.push (.table (s.heap.create .empty).1) with heap := (s.heap.create .empty).2 } = _
  rw [hpush]
  rfl

/-- Every operation answers on the shared stack what it answers on the running activation's list,
and leaves the same values. -/
theorem perform_join (operation : StackOperation) :
    s.join.perform operation = ((s.perform operation).1, (s.perform operation).2.join) := by
  cases operation <;> simp [Host.perform, perform]

end SplitHost

namespace Host

/-- A host whose frame lies on its stack as the activation of that frame and one that waits. -/
def split (h : Host) : SplitHost where
  own := h.frame
  waiting := [h.stack.toList.take h.base]
  limit := h.limit
  pending := h.pending
  heap := h.heap

theorem join_split (h : Host) (hbase : h.base ≤ h.stack.size) : h.split.join = h := by
  have hbelow : h.split.below = h.stack.toList.take h.base := by simp [split, SplitHost.below]
  unfold SplitHost.join
  rw [hbelow]
  simp [split, frame, hbase]

end Host

end JitHost
