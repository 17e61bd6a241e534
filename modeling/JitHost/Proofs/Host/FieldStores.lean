import JitHost.Proofs.Host.Observation

/-!
# Stores into fields and loads from them

A value is stored into a field by pushing it and writing it (`Host.store`), and this changes nothing
but one table at one key. `Host.StoresField` says what is loaded afterwards, under whatever index or
alias: the value, wherever the same table is asked for an equal key, and what was there before
everywhere else. It does not matter how tables are shared; a table may be stored in itself.

To store a value once more changes nothing, and stores into different fields may be exchanged: no
native function can tell in which order they were made (`Host.RunsAlike`).
-/

namespace JitHost

open Number Text

namespace Table

theorem assign_assign (key : Key) (value : Value) (entries : List (Key × Value)) :
    assign key value (assign key value entries) = assign key value entries := by
  induction entries with
  | nil =>
    rw [assign, assign]
    exact if_pos rfl
  | cons entry rest ih =>
    rw [assign]
    by_cases h : entry.1 = key
    · rw [if_pos h, assign]
      exact if_pos rfl
    · rw [if_neg h, assign, if_neg h, ih]

/-- To assign a value once more changes nothing, not even the order of the entries. -/
theorem insert_insert (t : Table) (key : Key) (value : Value) :
    (t.insert key value).insert key value = t.insert key value := by
  by_cases hvalue : value = .nil
  · subst hvalue
    rw [insert, insert, List.filter_filter]
    simp only [Bool.and_self]
  · rw [insert_of_ne_nil hvalue, insert_of_ne_nil hvalue, assign_assign]

end Table

/-- What is equal to a usable value denotes the same key. -/
theorem Key.ofValue_of_same {value other : Value} {key : Key} (hkey : ofValue value = .ok key)
    (hsame : value.same other = true) : ofValue other = .ok key := by
  cases hother : ofValue other with
  | error fault =>
    rw [same_eq_false_of_error hkey hother] at hsame
    cases hsame
  | ok denoted => rw [(same_iff_eq hkey hother).1 hsame]

namespace Heap

variable {heap : Heap} {id other : TableId} {key key' value value' : Value} {denoted denoted' : Key}

theorem assign_again (hholds : heap.Holds id) (denoted : Key) (value : Value) :
    let assigned := heap.update id ((heap.table id).insert denoted value)
    assigned.update id ((assigned.table id).insert denoted value) = assigned := by
  intro assigned
  have htable : assigned.table id = (heap.table id).insert denoted value := by
    rw [table_update, if_pos ⟨rfl, hholds⟩]
  rw [htable, Table.insert_insert, update_update]

/-- Assignments to different fields may be exchanged, but for the order of entries. -/
theorem assign_comm (heap : Heap) (hkey : Key.ofValue key = .ok denoted)
    (hkey' : Key.ofValue key' = .ok denoted') (hdistinct : other = id → key.same key' = false)
    (value value' : Value) :
    let first := heap.update id ((heap.table id).insert denoted value)
    let second := heap.update other ((heap.table other).insert denoted' value')
    (first.update other ((first.table other).insert denoted' value')).ReadsAlike
      (second.update id ((second.table id).insert denoted value)) := by
  intro first second
  constructor
  · -- No assignment creates a table.
    rw [(assigned_update hkey).size_eq, (assigned_update hkey').size_eq,
      (assigned_update hkey').size_eq, (assigned_update hkey).size_eq]
  · intro name asked
    rw [get_assign hkey, get_assign hkey', get_assign hkey', get_assign hkey]
    simp only [first, second, holds_update]
    by_cases hfirst : (name = id ∧ heap.Holds id) ∧ key.same asked = true
    · by_cases hsecond : (name = other ∧ heap.Holds other) ∧ key'.same asked = true
      · -- Both assignments would be to one key of one table.
        have hname : other = id := hsecond.1.1.symm.trans hfirst.1.1
        have hasked := Key.ofValue_of_same hkey hfirst.2
        have hasked' := Key.ofValue_of_same hkey' hsecond.2
        have hsame : key.same key' = true :=
          (Key.same_iff_eq hkey hkey').2 (Except.ok.inj (hasked.symm.trans hasked'))
        rw [hdistinct hname] at hsame
        cases hsame
      · rw [if_pos hfirst, if_neg hsecond, if_pos hfirst]
    · rw [if_neg hfirst, if_neg hfirst]

end Heap

namespace Host

/-- The host after a value is pushed and written to a field. -/
def store (h : Host) (index : Int) (key value : Value) : Host := (h.push value).setField index key

/-- No native function can tell two hosts apart: it ends with the same status after the same
history of answers. -/
def RunsAlike (h other : Host) : Prop := ∀ (tree : CallTree) (log : List Event),
  (tree.run other log).1.1 = (tree.run h log).1.1 ∧ (tree.run other log).2 = (tree.run h log).2

section

variable {h : Host} {index : Int} {id : TableId} {key value : Value} {denoted : Key} {heap : Heap}

theorem runsAlike_withHeap (halike : h.heap.ReadsAlike heap) : h.RunsAlike (h.withHeap heap) := by
  intro tree log
  obtain ⟨after, -, hrun⟩ := tree.run_withHeap log halike
  rw [hrun]
  exact ⟨rfl, rfl⟩

theorem exists_designates_of_table (htable : h.value index = .table id) :
    ∃ place, h.Designates index place := by
  cases hslot : h.slot? index with
  | none =>
    rw [Host.value, get?, hslot] at htable
    cases htable
  | some slot =>
    obtain ⟨place, hplace, -⟩ := slot?_eq_some_iff.1 hslot
    exact ⟨place, hplace⟩

/-- What was pushed on a frame is popped, and the frame is as it was. -/
theorem pop_push (hframed : h.WellFramed) (value : Value) : (h.push value).pop = (value, h) := by
  have hlt : (h.push value).base < (h.push value).stack.size := by
    have hsize : (h.push value).stack.size = h.stack.size + 1 := Array.size_push _
    rw [hsize]
    exact Nat.lt_succ_of_le hframed
  rw [pop, if_pos hlt, push, Array.back?_push, Array.pop_push]
  rfl

/-- An index that designates a table once a value is pushed shows that there is a frame. -/
theorem wellFramed_of_push (htable : (h.push value).value index = .table id) : h.WellFramed := by
  obtain ⟨place, hplace⟩ := exists_designates_of_table htable
  have hwithin : place < (h.push value).stack.size - h.base := hplace.within
  have hsize : (h.push value).stack.size = h.stack.size + 1 := Array.size_push _
  show h.base ≤ h.stack.size
  omega

/-- A store changes one table at one key. -/
theorem store_eq (htable : (h.push value).value index = .table id)
    (hkey : Key.ofValue key = .ok denoted) :
    h.store index key value =
      h.withHeap (h.heap.update id ((h.heap.table id).insert denoted value)) := by
  unfold store setField
  -- What was pushed to be stored is popped again.
  rw [htable, pop_push (wellFramed_of_push htable)]
  simp only [Heap.set_of_ok hkey]
  rfl

theorem store_withHeap (htable : (h.push value).value index = .table id)
    (hkey : Key.ofValue key = .ok denoted) (heap : Heap) :
    (h.withHeap heap).store index key value =
      h.withHeap (heap.update id ((heap.table id).insert denoted value)) := by
  have htable' : ((h.withHeap heap).push value).value index = .table id := htable
  exact store_eq htable' hkey

/-- To load what is stored under an equal key gives the value that was stored. -/
theorem getField_assigned (hkey : Key.ofValue key = .ok denoted) (hholds : heap.Holds id)
    (hheap : h.heap = heap.update id ((heap.table id).insert denoted value)) {other : Value}
    (htable : h.value index = .table id) (hsame : key.same other = true) :
    h.getField index other = (value.kind, h.push value) := by
  have hget : h.heap.get id other = value := by
    rw [hheap, Heap.get_assign hkey, if_pos ⟨⟨rfl, hholds⟩, hsame⟩]
  unfold getField
  rw [htable]
  simp only [hget]

/-- To load anything else gives what it did before the store. -/
theorem getField_unassigned (hkey : Key.ofValue key = .ok denoted)
    (hheap : h.heap = heap.update id ((heap.table id).insert denoted value)) {other : Value}
    (hother : h.value index = .table id → key.same other = false) :
    h.getField index other = (((h.withHeap heap).getField index other).1,
      ((h.withHeap heap).getField index other).2.withHeap h.heap) := by
  have hvalue : (h.withHeap heap).value index = h.value index := rfl
  unfold getField
  rw [hvalue]
  cases htable : h.value index with
  | table name =>
    have hget : h.heap.get name other = heap.get name other := by
      rw [hheap, Heap.get_assign hkey]
      refine if_neg fun hboth => ?_
      rw [hother (hboth.1.1 ▸ htable)] at hboth
      exact Bool.false_ne_true hboth.2
    simp only [hget]
    rfl
  | _ => rfl

end

/-- What it does to store a value under a key of the table at an index. -/
structure StoresField (h : Host) (index : Int) (id : TableId) (key value : Value) : Prop where
  /-- Only the tables change. -/
  rest_eq : h.store index key value = h.withHeap (h.store index key value).heap
  /-- Whoever has the table, under any index, loads the value with an equal key. -/
  load_stored : ∀ (later : Host) (reference : Int) (other : Value),
    later.heap = (h.store index key value).heap → later.value reference = .table id →
    key.same other = true → later.getField reference other = (value.kind, later.push value)
  /-- With another table or key the same is loaded as with the tables before the store. -/
  load_other : ∀ (later : Host) (reference : Int) (other : Value),
    later.heap = (h.store index key value).heap →
    (later.value reference = .table id → key.same other = false) →
    later.getField reference other = (((later.withHeap h.heap).getField reference other).1,
      ((later.withHeap h.heap).getField reference other).2.withHeap later.heap)
  /-- To store the value once more, under any index of the table and any equal key, changes
  nothing. -/
  again : ∀ reference other, (h.push value).value reference = .table id → key.same other = true →
    (h.store index key value).store reference other value = h.store index key value
  /-- Stores into different tables, or under different keys, may be exchanged: only the tables
  differ, in which every key reads alike. -/
  comm : ∀ index' id' key' value', (h.push value').value index' = .table id' →
    key'.isKey = true → (id' = id → key.same key' = false) →
    ∃ heap, ((h.store index key value).store index' key' value').heap.ReadsAlike heap ∧
      (h.store index' key' value').store index key value =
        ((h.store index key value).store index' key' value').withHeap heap ∧
      ((h.store index key value).store index' key' value').RunsAlike
        ((h.store index' key' value').store index key value)

/-- Wherever an index designates a table, a usable key of it can be stored under. -/
theorem field_stored {h : Host} {index : Int} {id : TableId} {key value : Value}
    (htable : (h.push value).value index = .table id) (hholds : h.heap.Holds id)
    (hkey : key.isKey = true) : h.StoresField index id key value := by
  obtain ⟨denoted, hdenoted⟩ := Key.exists_ofValue hkey
  have hstore := store_eq htable hdenoted
  refine ⟨?_, ?_, ?_, ?_, ?_⟩
  · rw [hstore]
    rfl
  · intro later reference other hheap hreference hsame
    rw [hstore] at hheap
    exact getField_assigned hdenoted hholds hheap hreference hsame
  · intro later reference other hheap hother
    rw [hstore] at hheap
    exact getField_unassigned hdenoted hheap hother
  · intro reference other hreference hsame
    have hother := Key.ofValue_of_same hdenoted hsame
    rw [hstore, store_withHeap hreference hother, Heap.assign_again hholds]
  · intro index' id' key' value' htable' hkey' hdistinct
    obtain ⟨denoted', hdenoted'⟩ := Key.exists_ofValue hkey'
    have hcomm := h.heap.assign_comm hdenoted hdenoted' hdistinct value value'
    rw [hstore, store_eq htable' hdenoted', store_withHeap htable' hdenoted',
      store_withHeap htable hdenoted]
    exact ⟨_, hcomm, rfl, runsAlike_withHeap hcomm⟩

/-- A table may be stored in itself, under a number that is folded. -/
theorem field_stored_in_itself :
    (⟨#[.table ⟨0⟩], 0, 8, none, ⟨#[.empty]⟩⟩ : Host).StoresField (-1) ⟨0⟩
      (.number ⟨0x8000000000000000⟩) (.table ⟨0⟩) :=
  field_stored (by decide) (by decide) (by decide)

end Host

end JitHost
