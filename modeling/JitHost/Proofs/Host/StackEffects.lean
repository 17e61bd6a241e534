import JitHost.Proofs.Host.Indices
import JitHost.Proofs.Host.Attribution
import JitHost.Proofs.Value.InsertionOrder

/-!
# What the operations at an index do

Compiled code counts on what each operation at an index does to the size of the frame, so it must do
the same where it fails. `Host.FrameBecomes` says which values the frame holds afterwards and that
nothing else on the stack has changed. `Host.FieldRead` and `Host.FieldWrite` list the paths of
reading and writing a field, and all that is said of these operations comes from them.

`Host.Faulty` says when an operation records which message, and `Heap.Assigned` what a write to a
field changes of the tables. `Host.effects_on_every_path` puts all effects together.
-/

namespace JitHost

open Number Text

/-! ## Assignments to a table -/

namespace Table

theorem filter_assign {key : Key} {value : Value} {entries : List (Key × Value)} :
    ((assign key value entries).filter fun entry => entry.1 ≠ key) =
      entries.filter fun entry => entry.1 ≠ key := by
  induction entries with
  | nil => simp [assign]
  | cons entry rest ih =>
    by_cases h : entry.1 = key
    · simp [assign, h]
    · rw [assign, if_neg h, List.filter_cons, List.filter_cons, ih]

/-- An assignment leaves the entries of the other keys as they are, in their order. -/
theorem filter_insert (t : Table) (key : Key) (value : Value) :
    ((t.insert key value).entries.filter fun entry => entry.1 ≠ key) =
      t.entries.filter fun entry => entry.1 ≠ key := by
  by_cases hvalue : value = .nil
  · subst hvalue
    rw [insert, List.filter_filter]
    simp only [Bool.and_self]
  · rw [insert_of_ne_nil hvalue]
    exact filter_assign

end Table

namespace Heap

/-- A heap after an assignment: one table has another value at one key. -/
structure Assigned (heap : Heap) (id : TableId) (key value : Value) (after : Heap) : Prop where
  size_eq : after.tables.size = heap.tables.size
  table_eq : ∀ other, other ≠ id → after.table other = heap.table other
  /-- A name that no table goes by stands for an empty one, whatever is assigned. -/
  get_eq : heap.Holds id → ∀ other, after.get id other =
    if key.same other then value else heap.get id other
  /-- The entries of the other keys stay in their order. -/
  entries_eq : ∀ denoted, Key.ofValue key = .ok denoted →
    ((after.table id).entries.filter fun entry => entry.1 ≠ denoted) =
      (heap.table id).entries.filter fun entry => entry.1 ≠ denoted

variable {heap : Heap} {id : TableId} {key value : Value}

theorem set_of_error {fault : KeyFault} (h : Key.ofValue key = .error fault) :
    heap.set id key value = .error fault := by
  rw [set, Table.set, h]
  rfl

theorem set_of_ok {denoted : Key} (h : Key.ofValue key = .ok denoted) :
    heap.set id key value = .ok (heap.update id ((heap.table id).insert denoted value)) := by
  rw [set, Table.set, h]
  rfl

theorem assigned_update {denoted : Key} (h : Key.ofValue key = .ok denoted) :
    heap.Assigned id key value (heap.update id ((heap.table id).insert denoted value)) where
  size_eq := Array.size_setIfInBounds
  table_eq := by
    intro other hother
    rw [table_update, if_neg fun hboth => hother hboth.1.symm]
  get_eq := by
    intro hholds other
    have hinsert : (heap.table id).assignOrSkip (key, value) =
        (heap.table id).insert denoted value := Table.assignOrSkip_of_ok h
    rw [get, table_update, if_pos ⟨rfl, hholds⟩, ← hinsert, Table.get_assignOrSkip, assignsTo,
      Key.isKey_of_ofValue h, Bool.true_and]
    rfl
  entries_eq := by
    intro other hother
    cases h.symm.trans hother
    -- No table may go by the name, and then there are no entries before or after.
    rw [table_update]
    split
    · exact Table.filter_insert _ _ _
    · rfl

end Heap

namespace Host

/-! ## The values of the frame -/

/-- On the stack nothing has changed but the frame, which holds these values
(`FrameBecomes.frame_eq`): they lie on what was below it. -/
structure FrameBecomes (h : Host) (values : List Value) (after : Host) : Prop where
  stack_eq : after.stack.toList = h.stack.toList.take h.base ++ values
  base_eq : after.base = h.base
  limit_eq : after.limit = h.limit

/-- The last value of the frame, which a write or a replacement moves; nil if there is none. -/
def last (h : Host) : Value := h.frame.getLast?.getD .nil

section Frame

variable {h after : Host} {values : List Value}

theorem length_take_base (hframed : h.WellFramed) :
    (h.stack.toList.take h.base).length = h.base := by
  rw [List.length_take, Array.length_toList]
  exact Nat.min_eq_left hframed

theorem FrameBecomes.frame_eq (hbecomes : h.FrameBecomes values after) (hframed : h.WellFramed) :
    after.frame = values := by
  rw [frame, hbecomes.stack_eq, hbecomes.base_eq, List.drop_left' (length_take_base hframed)]

/-- A message that is recorded does not show on the stack. -/
theorem FrameBecomes.raise (hbecomes : h.FrameBecomes values after) (message : String) :
    h.FrameBecomes values (after.raise message) where
  stack_eq := hbecomes.stack_eq
  base_eq := hbecomes.base_eq
  limit_eq := hbecomes.limit_eq

theorem FrameBecomes.set (hbecomes : h.FrameBecomes values after) (hframed : h.WellFramed)
    (place : Nat) (value : Value) :
    h.FrameBecomes (values.set place value)
      { after with stack := after.stack.setIfInBounds (h.base + place) value } where
  stack_eq := by
    have hlength := length_take_base hframed
    rw [Array.toList_setIfInBounds, hbecomes.stack_eq, List.set_append_right _ _ (by omega),
      hlength, Nat.add_sub_cancel_left]
  base_eq := hbecomes.base_eq
  limit_eq := hbecomes.limit_eq

theorem frameBecomes_self (h : Host) : h.FrameBecomes h.frame h where
  stack_eq := (List.take_append_drop _ _).symm
  base_eq := rfl
  limit_eq := rfl

theorem frameBecomes_push (h : Host) (value : Value) :
    h.FrameBecomes (h.frame ++ [value]) (h.push value) where
  stack_eq := by
    rw [← List.append_assoc, ← h.frameBecomes_self.stack_eq]
    exact Array.toList_push
  base_eq := rfl
  limit_eq := rfl

theorem frame_eq_nil_iff (h : Host) : h.frame = [] ↔ h.stack.size ≤ h.base := by
  rw [frame, List.drop_eq_nil_iff, Array.length_toList]

theorem frameBecomes_pop (h : Host) : h.FrameBecomes h.frame.dropLast h.pop.2 := by
  unfold pop
  by_cases hlt : h.base < h.stack.size
  · have hne : h.frame ≠ [] := mt h.frame_eq_nil_iff.1 (Nat.not_le_of_lt hlt)
    rw [if_pos hlt]
    refine ⟨?_, rfl, rfl⟩
    rw [← List.dropLast_append_of_ne_nil hne, ← h.frameBecomes_self.stack_eq]
    exact Array.toList_pop
  · -- From an empty frame nothing is removed, so what lies below stays.
    have hnil : h.frame = [] := h.frame_eq_nil_iff.2 (Nat.le_of_not_lt hlt)
    rw [if_neg hlt, hnil, List.dropLast_nil, ← hnil]
    exact h.frameBecomes_self

theorem pop_fst (h : Host) : h.pop.1 = h.last := by
  unfold pop last
  by_cases hlt : h.base < h.stack.size
  · rw [if_pos hlt, frame, List.getLast?_drop, Array.length_toList,
      if_neg (Nat.not_le_of_lt hlt), Array.getLast?_toList]
  · have hnil : h.frame = [] := h.frame_eq_nil_iff.2 (Nat.le_of_not_lt hlt)
    rw [if_neg hlt, hnil]
    rfl

theorem heap_pop (h : Host) : h.pop.2.heap = h.heap := by
  unfold pop
  split <;> rfl

theorem Designates.wellFramed {index : Int} {place : Nat} (hplace : h.Designates index place) :
    h.WellFramed := by
  have hwithin : place < h.stack.size - h.base := hplace.within
  show h.base ≤ h.stack.size
  omega

end Frame

end Host

/-! ## Reading and writing fields -/

/-- The key of an operation that reads a field. -/
def IndexedOperation.readKey? : IndexedOperation → Option Value
  | getField key => some key
  | getTextField key => some (Host.textKey key)
  | getPointerField key => some (.pointer key)
  | _ => none

/-- The key of an operation that writes a field. -/
def IndexedOperation.writeKey? : IndexedOperation → Option Value
  | setField key => some key
  | setTextField key => some (Host.textKey key)
  | setPointerField key => some (.pointer key)
  | _ => none

/-- Whether an operation only looks at a value. -/
def IndexedOperation.looks : IndexedOperation → Bool
  | get | value | kind | toNumber | toBoolean | identity => true
  | _ => false

namespace Host

/-- What there is to read under a key at an index: nil where there is no table. -/
def fieldAt (h : Host) (index : Int) (key : Value) : Value :=
  match h.value index with
  | .table id => h.heap.get id key
  | _ => .nil

section Paths

variable (h : Host) {index : Int} {key : Value} {operation : IndexedOperation} {id : TableId}

theorem performAt_of_read (hread : operation.readKey? = some key) :
    h.performAt index operation = (.kind (h.getField index key).1, (h.getField index key).2) := by
  cases operation with
  | getField | getTextField | getPointerField =>
    cases hread
    rfl
  | _ => cases hread

theorem performAt_of_write (hwrite : operation.writeKey? = some key) :
    h.performAt index operation = (.done, h.setField index key) := by
  cases operation with
  | setField | setTextField | setPointerField =>
    cases hwrite
    rfl
  | _ => cases hwrite

theorem performAt_of_looks (hlooks : operation.looks = true) :
    (h.performAt index operation).2 = h := by
  cases operation with
  | get | value | kind | toNumber | toBoolean | identity => rfl
  | _ => cases hlooks

theorem fieldAt_of_table (htable : h.value index = .table id) (key : Value) :
    h.fieldAt index key = h.heap.get id key := by
  rw [fieldAt, htable]

theorem fieldAt_of_not_table {value : Value} (hvalue : h.value index = value)
    (hkind : value.kind ≠ .table) (key : Value) : h.fieldAt index key = .nil := by
  rw [fieldAt, hvalue]
  cases value with
  | table id => exact absurd rfl hkind
  | _ => rfl

end Paths

/-- The paths of reading a field: what is answered, and the host after it. -/
inductive FieldRead (h : Host) (index : Int) (key : Value) : Kind × Host → Prop where
  | noTable {value : Value} (hvalue : h.value index = value) (hkind : value.kind ≠ .table) :
      FieldRead h index key (.nil, (h.push .nil).raise (indexFault value.kind))
  | table {id : TableId} (htable : h.value index = .table id) :
      FieldRead h index key ((h.heap.get id key).kind, h.push (h.heap.get id key))

/-- The paths of writing a field: the host after it. The last value is gone on each of them, and
what is at the index was looked up before. -/
inductive FieldWrite (h : Host) (index : Int) (key : Value) : Host → Prop where
  | noTable {value : Value} (hvalue : h.value index = value) (hkind : value.kind ≠ .table) :
      FieldWrite h index key (h.pop.2.raise (indexFault value.kind))
  | refused {id : TableId} {fault : KeyFault} (htable : h.value index = .table id)
      (hkey : Key.ofValue key = .error fault) :
      FieldWrite h index key (h.pop.2.raise fault.message)
  | table {id : TableId} {denoted : Key} (htable : h.value index = .table id)
      (hkey : Key.ofValue key = .ok denoted) :
      FieldWrite h index key
        { h.pop.2 with heap := h.heap.update id ((h.heap.table id).insert denoted h.last) }

theorem fieldRead_getField (h : Host) (index : Int) (key : Value) :
    h.FieldRead index key (h.getField index key) := by
  unfold getField
  cases hvalue : h.value index with
  | table id => exact .table hvalue
  | _ => exact .noTable hvalue nofun

theorem fieldWrite_setField (h : Host) (index : Int) (key : Value) :
    h.FieldWrite index key (h.setField index key) := by
  unfold setField
  cases hvalue : h.value index with
  | table id =>
    simp only [heap_pop, pop_fst]
    cases hkey : Key.ofValue key with
    | error fault =>
      rw [Heap.set_of_error hkey]
      exact .refused hvalue hkey
    | ok denoted =>
      rw [Heap.set_of_ok hkey]
      exact .table hvalue hkey
  | _ => exact .noTable hvalue nofun

/-! ## The stack after an operation -/

section Stack

variable {h after : Host} {index : Int} {key : Value}

/-- To read a field pushes one value and answers with its kind. -/
theorem FieldRead.effect {answered : Kind × Host} (hread : h.FieldRead index key answered) :
    h.FrameBecomes (h.frame ++ [h.fieldAt index key]) answered.2 ∧
      answered.1 = (h.fieldAt index key).kind := by
  cases hread with
  | noTable hvalue hkind =>
    rw [h.fieldAt_of_not_table hvalue hkind]
    exact ⟨(h.frameBecomes_push .nil).raise _, rfl⟩
  | table htable =>
    rw [h.fieldAt_of_table htable]
    exact ⟨h.frameBecomes_push _, rfl⟩

/-- To write a field removes the last value, also where the write is refused. -/
theorem FieldWrite.effect (hwrite : h.FieldWrite index key after) :
    h.FrameBecomes h.frame.dropLast after := by
  have hpop := h.frameBecomes_pop
  cases hwrite with
  | noTable hvalue hkind => exact hpop.raise _
  | refused htable hkey => exact hpop.raise _
  | table htable hkey => exact ⟨hpop.stack_eq, hpop.base_eq, hpop.limit_eq⟩

theorem replace_of_designates {place : Nat} (hplace : h.Designates index place) :
    h.replace index =
      { h.pop.2 with stack := h.pop.2.stack.setIfInBounds (h.base + place) h.last } := by
  unfold replace
  rw [slot?_eq_some_iff.2 ⟨place, hplace, rfl⟩, ← h.pop_fst]

theorem replace_of_invalid (hinvalid : ∀ place, ¬ h.Designates index place) :
    h.replace index = h.raise ("invalid stack index " ++ toString index) := by
  unfold replace
  rw [slot?_eq_none_iff.2 hinvalid]

theorem replace_effect {place : Nat} (hplace : h.Designates index place) :
    h.FrameBecomes (h.frame.dropLast.set place h.last) (h.replace index) := by
  rw [replace_of_designates hplace]
  exact h.frameBecomes_pop.set hplace.wellFramed place h.last

/-- To move the last value to its own place just removes it. -/
theorem replace_top {place : Nat} (hplace : h.Designates index place) (htop : place + 1 = h.top) :
    h.replace index = h.pop.2 := by
  -- With its last value the stack has lost the place itself, so writing there does nothing.
  have hlength : h.pop.2.stack.size ≤ h.base + place := by
    have hstack := congrArg List.length h.frameBecomes_pop.stack_eq
    have hsize : h.top = h.stack.size - h.base := rfl
    rw [Array.length_toList, List.length_append, List.length_take, List.length_dropLast, frame,
      List.length_drop, Array.length_toList] at hstack
    omega
  rw [replace_of_designates hplace, Array.setIfInBounds_eq_of_size_le hlength]

/-- To ask for a text writes to the place that is asked for, or not at all. -/
theorem toText_cases (h : Host) (index : Int) :
    (h.toText index).2 = h ∨ ∃ place value, h.Designates index place ∧
      (h.toText index).2 =
        { h with stack := h.stack.setIfInBounds (h.base + place) value } := by
  unfold toText
  cases hslot : h.slot? index with
  | none => exact .inl rfl
  | some slot =>
    obtain ⟨place, hplace, rfl⟩ := slot?_eq_some_iff.1 hslot
    simp only
    split
    · exact .inl rfl
    · exact .inr ⟨place, _, hplace, rfl⟩
    · exact .inl rfl

theorem toText_effect (h : Host) (index : Int) :
    ∃ values, h.FrameBecomes values (h.toText index).2 ∧ values.length = h.frame.length ∧
      ∀ place, ¬ h.Designates index place → values[place]? = h.frame[place]? := by
  rcases h.toText_cases index with hsame | ⟨place, value, hplace, hwritten⟩
  · rw [hsame]
    exact ⟨h.frame, h.frameBecomes_self, rfl, fun _ _ => rfl⟩
  · rw [hwritten]
    refine ⟨h.frame.set place value, h.frameBecomes_self.set hplace.wellFramed place value,
      List.length_set, fun other hother => List.getElem?_set_ne ?_⟩
    rintro rfl
    exact hother hplace

end Stack

/-! ## The messages that are recorded -/

/-- When an operation at an index records which message. -/
inductive Faulty (h : Host) (index : Int) : IndexedOperation → String → Prop where
  | invalidIndex (hinvalid : ∀ place, ¬ h.Designates index place) :
      Faulty h index .replace ("invalid stack index " ++ toString index)
  | readNoTable {operation : IndexedOperation} {key : Value}
      (hread : operation.readKey? = some key) (hkind : h.kind index ≠ .table) :
      Faulty h index operation (indexFault (h.kind index))
  | writeNoTable {operation : IndexedOperation} {key : Value}
      (hwrite : operation.writeKey? = some key) (hkind : h.kind index ≠ .table) :
      Faulty h index operation (indexFault (h.kind index))
  | nilKey {operation : IndexedOperation}
      (hwrite : operation.writeKey? = some .nil) (hkind : h.kind index = .table) :
      Faulty h index operation "table index is nil"
  | notANumberKey {operation : IndexedOperation} {n : Double}
      (hwrite : operation.writeKey? = some (.number n)) (hnan : n.isNaN = true)
      (hkind : h.kind index = .table) :
      Faulty h index operation "table index is NaN"

section Faults

variable {h : Host} {index : Int} {operation : IndexedOperation} {key : Value} {message : String}

theorem faulty_replace_iff : h.Faulty index .replace message ↔
    (∀ place, ¬ h.Designates index place) ∧
      message = "invalid stack index " ++ toString index := by
  constructor
  · intro hfaulty
    cases hfaulty with
    | invalidIndex hinvalid => exact ⟨hinvalid, rfl⟩
    | readNoTable hread => cases hread
    | writeNoTable hwrite | nilKey hwrite | notANumberKey hwrite => cases hwrite
  · rintro ⟨hinvalid, rfl⟩
    exact .invalidIndex hinvalid

/-- No operation both reads and writes a field. -/
theorem writeKey?_of_read (hread : operation.readKey? = some key) : operation.writeKey? = none := by
  cases operation with
  | getField | getTextField | getPointerField => rfl
  | _ => cases hread

theorem faulty_read_iff (hread : operation.readKey? = some key) :
    h.Faulty index operation message ↔
      h.kind index ≠ .table ∧ message = indexFault (h.kind index) := by
  have hwriteKey := writeKey?_of_read hread
  constructor
  · intro hfaulty
    cases hfaulty with
    | invalidIndex => cases hread
    | readNoTable _ hkind => exact ⟨hkind, rfl⟩
    | writeNoTable hwrite | nilKey hwrite | notANumberKey hwrite =>
      cases hwriteKey.symm.trans hwrite
  · rintro ⟨hkind, rfl⟩
    exact .readNoTable hread hkind

theorem faulty_write_iff (hwrite : operation.writeKey? = some key) :
    h.Faulty index operation message ↔
      h.kind index ≠ .table ∧ message = indexFault (h.kind index) ∨
        h.kind index = .table ∧ ∃ fault, Key.ofValue key = .error fault ∧
          message = fault.message := by
  constructor
  · intro hfaulty
    cases hfaulty with
    | invalidIndex => cases hwrite
    | readNoTable hread => cases (writeKey?_of_read hread).symm.trans hwrite
    | writeNoTable _ hkind => exact .inl ⟨hkind, rfl⟩
    | nilKey hnil hkind =>
      cases hwrite.symm.trans hnil
      exact .inr ⟨hkind, .nil, rfl, by decide⟩
    | notANumberKey hnumber hnan hkind =>
      cases hwrite.symm.trans hnumber
      exact .inr ⟨hkind, .notANumber, Key.ofValue_notANumber hnan, by decide⟩
  · rintro (⟨hkind, rfl⟩ | ⟨hkind, fault, hkey, rfl⟩)
    · exact .writeNoTable hwrite hkind
    · rcases Key.ofValue_eq_error_iff.1 hkey with ⟨rfl, rfl⟩ | ⟨n, rfl, hnan, rfl⟩
      · exact .nilKey hwrite hkind
      · exact .notANumberKey hwrite hnan hkind

theorem not_faulty (hread : operation.readKey? = none) (hwrite : operation.writeKey? = none)
    (hreplace : operation ≠ .replace) : ¬ h.Faulty index operation message := by
  intro hfaulty
  cases hfaulty with
  | invalidIndex => exact hreplace rfl
  | readNoTable hsome => cases hread.symm.trans hsome
  | writeNoTable hsome | nilKey hsome | notANumberKey hsome => cases hwrite.symm.trans hsome

/-- What an operation does to the message that waits to be reported: it records one of its own if
there is a fault, and none waits yet. -/
def Records (h : Host) (index : Int) (operation : IndexedOperation) (after : Host) : Prop :=
  ∀ message, after.pending = some message ↔
    h.pending = some message ∨ h.pending = none ∧ h.Faulty index operation message

variable {after : Host} {fault : String}

theorem records_of_same (hpending : after.pending = h.pending)
    (hnone : ∀ message, ¬ h.Faulty index operation message) :
    h.Records index operation after := by
  intro message
  rw [hpending]
  exact ⟨.inl, fun hor => hor.resolve_right fun hboth => hnone message hboth.2⟩

theorem records_of_raised (hpending : after.pending = (h.pending <|> some fault))
    (hfault : ∀ message, h.Faulty index operation message ↔ message = fault) :
    h.Records index operation after := by
  intro message
  rw [hpending, hfault]
  cases h.pending with
  | none => simp [eq_comm]
  | some first => simp

theorem records_replace (h : Host) (index : Int) :
    h.Records index .replace (h.replace index) := by
  by_cases hvalid : ∃ place, h.Designates index place
  · obtain ⟨place, hplace⟩ := hvalid
    rw [replace_of_designates hplace]
    exact records_of_same h.pending_pop fun message hfaulty =>
      (faulty_replace_iff.1 hfaulty).1 place hplace
  · have hinvalid := not_exists.1 hvalid
    rw [replace_of_invalid hinvalid]
    exact records_of_raised rfl fun message => faulty_replace_iff.trans (and_iff_right hinvalid)

theorem FieldRead.records {answered : Kind × Host} (hpath : h.FieldRead index key answered)
    (hread : operation.readKey? = some key) : h.Records index operation answered.2 := by
  cases hpath with
  | noTable hvalue hkind =>
    subst hvalue
    exact records_of_raised rfl fun message => (faulty_read_iff hread).trans (and_iff_right hkind)
  | table htable =>
    have hkind : h.kind index = .table := congrArg Value.kind htable
    exact records_of_same rfl fun message hfaulty => ((faulty_read_iff hread).1 hfaulty).1 hkind

theorem FieldWrite.records (hpath : h.FieldWrite index key after)
    (hwrite : operation.writeKey? = some key) : h.Records index operation after := by
  cases hpath with
  | noTable hvalue hkind =>
    subst hvalue
    refine records_of_raised (congrArg (· <|> _) h.pending_pop) fun message => ?_
    rw [faulty_write_iff hwrite]
    simp [kind, hkind]
  | refused htable hkey =>
    have hkind : h.kind index = .table := congrArg Value.kind htable
    refine records_of_raised (congrArg (· <|> _) h.pending_pop) fun message => ?_
    rw [faulty_write_iff hwrite, hkey]
    simp [hkind]
  | table htable hkey =>
    have hkind : h.kind index = .table := congrArg Value.kind htable
    refine records_of_same h.pending_pop fun message => ?_
    rw [faulty_write_iff hwrite, hkey]
    simp [hkind]

theorem records_toText (h : Host) (index : Int) :
    h.Records index .toText (h.toText index).2 := by
  have hnone : ∀ message, ¬ h.Faulty index .toText message := fun _ =>
    not_faulty rfl rfl IndexedOperation.noConfusion
  rcases h.toText_cases index with hsame | ⟨place, value, -, hwritten⟩
  · rw [hsame]
    exact records_of_same rfl hnone
  · rw [hwritten]
    exact records_of_same rfl hnone

/-- Every operation records what its faults say. -/
theorem records_performAt (h : Host) (index : Int) (operation : IndexedOperation) :
    h.Records index operation (h.performAt index operation).2 := by
  -- The operations left over only look at a value or copy it.
  cases operation with
  | getField | getTextField | getPointerField => exact (h.fieldRead_getField index _).records rfl
  | setField | setTextField | setPointerField => exact (h.fieldWrite_setField index _).records rfl
  | replace => exact h.records_replace index
  | toText => exact h.records_toText index
  | _ => exact records_of_same rfl fun _ => not_faulty rfl rfl IndexedOperation.noConfusion

end Faults

/-! ## The tables -/

section Tables

variable {h after : Host} {index : Int} {operation : IndexedOperation} {key : Value} {id : TableId}

/-- A write with a usable key assigns the last value to the table that was at the index before. -/
theorem FieldWrite.assigned (hwrite : h.FieldWrite index key after)
    (htable : h.value index = .table id) (hkey : key.isKey = true) :
    h.heap.Assigned id key h.last after.heap := by
  cases hwrite with
  | noTable hvalue hkind =>
    cases hvalue.symm.trans htable
    exact absurd rfl hkind
  | refused _ hrefused =>
    rw [Key.isKey_eq_false_of_ofValue hrefused] at hkey
    cases hkey
  | table hother hdenoted =>
    cases htable.symm.trans hother
    exact Heap.assigned_update hdenoted

-- A table on top is assigned to itself, and is gone from the frame only then.
example :
    ((⟨#[.table ⟨0⟩], 0, 8, none, ⟨#[.empty]⟩⟩ : Host).setField (-1) (.ofText "self")).heap.get ⟨0⟩
      (.ofText "self") = .table ⟨0⟩ := by decide

/-- Any other write changes no table. -/
theorem FieldWrite.heap_eq (hwrite : h.FieldWrite index key after)
    (hother : ∀ id, h.value index = .table id → key.isKey = false) : after.heap = h.heap := by
  cases hwrite with
  | noTable hvalue hkind => exact h.heap_pop
  | refused htable hrefused => exact h.heap_pop
  | @table id denoted htable hdenoted =>
    rw [Key.isKey_of_ofValue hdenoted] at hother
    cases hother id htable

theorem FieldRead.heap_eq {answered : Kind × Host} (hread : h.FieldRead index key answered) :
    answered.2.heap = h.heap := by
  cases hread <;> rfl

theorem heap_replace (h : Host) (index : Int) : (h.replace index).heap = h.heap := by
  unfold replace
  split
  · rfl
  · exact h.heap_pop

theorem heap_toText (h : Host) (index : Int) : (h.toText index).2.heap = h.heap := by
  rcases h.toText_cases index with hsame | ⟨place, value, -, hwritten⟩
  · rw [hsame]
  · rw [hwritten]

/-- Only a write to a table with a usable key changes a table. -/
theorem heap_performAt
    (hother : ∀ key id, operation.writeKey? = some key → h.value index = .table id →
      key.isKey = false) :
    (h.performAt index operation).2.heap = h.heap := by
  cases operation with
  | setField | setTextField | setPointerField =>
    exact (h.fieldWrite_setField index _).heap_eq fun id => hother _ id rfl
  | getField | getTextField | getPointerField => exact (h.fieldRead_getField index _).heap_eq
  | replace => exact h.heap_replace index
  | toText => exact h.heap_toText index
  | _ => rfl

end Tables

/-! ## All effects -/

/-- What the operations at an index do to a host. -/
structure EffectsAt (h : Host) (index : Int) : Prop where
  /-- To read a field pushes what there is to read and answers with its kind. -/
  read : ∀ operation key, operation.readKey? = some key →
    h.FrameBecomes (h.frame ++ [h.fieldAt index key]) (h.performAt index operation).2 ∧
      (h.performAt index operation).1 = .kind (h.fieldAt index key).kind
  /-- To write a field removes the last value, whether it is written or not. -/
  write : ∀ operation key, operation.writeKey? = some key →
    h.FrameBecomes h.frame.dropLast (h.performAt index operation).2
  /-- At a valid index the last value is moved; from its own place it just goes. -/
  replace : ∀ place, h.Designates index place →
    h.FrameBecomes (h.frame.dropLast.set place h.last) (h.replace index) ∧
      (place + 1 = h.top → h.replace index = h.pop.2)
  replace_invalid : (∀ place, ¬ h.Designates index place) →
    h.FrameBecomes h.frame (h.replace index)
  /-- To ask for a text keeps the size of the frame and all values but the one at the index. -/
  toText : ∃ values, h.FrameBecomes values (h.toText index).2 ∧
    values.length = h.frame.length ∧
    ∀ place, ¬ h.Designates index place → values[place]? = h.frame[place]?
  copy : h.FrameBecomes (h.frame ++ [h.value index]) (h.pushValue index)
  look : ∀ operation, operation.looks = true → (h.performAt index operation).2 = h
  /-- A message is recorded exactly where there is a fault, unless another one waits. -/
  recorded : ∀ operation, h.Records index operation (h.performAt index operation).2
  /-- A write with a usable key changes one table, at that key only; nothing else changes any. -/
  assigned : ∀ operation key id, operation.writeKey? = some key → h.value index = .table id →
    key.isKey = true → h.heap.Assigned id key h.last (h.performAt index operation).2.heap
  kept : ∀ operation, (∀ key id, operation.writeKey? = some key → h.value index = .table id →
    key.isKey = false) → (h.performAt index operation).2.heap = h.heap

/-- On every host and at every index, valid or not, the operations have these effects. -/
theorem effects_on_every_path (h : Host) (index : Int) : h.EffectsAt index where
  read := by
    intro operation key hread
    obtain ⟨hframe, hkind⟩ := (h.fieldRead_getField index key).effect
    rw [h.performAt_of_read hread, hkind]
    exact ⟨hframe, rfl⟩
  write := by
    intro operation key hwrite
    rw [h.performAt_of_write hwrite]
    exact (h.fieldWrite_setField index key).effect
  replace := fun place hplace => ⟨replace_effect hplace, replace_top hplace⟩
  replace_invalid := by
    intro hinvalid
    rw [replace_of_invalid hinvalid]
    exact h.frameBecomes_self.raise _
  toText := h.toText_effect index
  copy := h.frameBecomes_push _
  look := fun operation hlooks => h.performAt_of_looks hlooks
  recorded := h.records_performAt index
  assigned := by
    intro operation key id hwrite htable hkey
    rw [h.performAt_of_write hwrite]
    exact (h.fieldWrite_setField index key).assigned htable hkey
  kept := fun operation hother => heap_performAt hother

end Host

end JitHost
