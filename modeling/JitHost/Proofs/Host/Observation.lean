import JitHost.Proofs.Host.Attribution
import JitHost.Proofs.Host.StackEffects

/-!
# Heaps that read alike

Native functions look at tables one key at a time, so they cannot tell in which order a table lists
its entries. Two heaps read alike if every key of every table reads as the same value in both
(`Heap.ReadsAlike`). Every operation answers alike on them and leaves heaps that read alike
(`Host.perform_withHeap`), and so does whatever native functions do, the functions that they call
included (`CallTree.run_withHeap`).
-/

namespace JitHost

open Number Text

namespace Heap

/-- The same names go by tables, and every key reads as the same value. -/
structure ReadsAlike (heap other : Heap) : Prop where
  size_eq : other.tables.size = heap.tables.size
  get_eq : ∀ id key, other.get id key = heap.get id key

variable {heap other : Heap} {id : TableId} {key value : Value} {denoted : Key}

/-- What a key reads as after an assignment. Under a name without a table there is nothing to be
assigned to. -/
theorem get_assign (hkey : Key.ofValue key = .ok denoted) (heap : Heap) (id : TableId)
    (value : Value) (name : TableId) (asked : Value) :
    (heap.update id ((heap.table id).insert denoted value)).get name asked =
      if (name = id ∧ heap.Holds id) ∧ key.same asked = true then value
      else heap.get name asked := by
  have hassigned : heap.Assigned id key value
      (heap.update id ((heap.table id).insert denoted value)) := assigned_update hkey
  by_cases hname : name = id
  · subst hname
    by_cases hholds : heap.Holds name
    · -- The table is there, and only the key decides.
      rw [hassigned.get_eq hholds]
      simp only [hholds, and_self, true_and]
    · rw [if_neg fun h => hholds h.1.2, get, table_update, if_neg fun h => hholds h.2]
      rfl
  · rw [if_neg fun h => hname h.1.1, get, hassigned.table_eq name hname]
    rfl

theorem ReadsAlike.holds_iff (h : heap.ReadsAlike other) : other.Holds id ↔ heap.Holds id := by
  rw [Holds, Holds, h.size_eq]

theorem ReadsAlike.assign (h : heap.ReadsAlike other) (hkey : Key.ofValue key = .ok denoted)
    (id : TableId) (value : Value) :
    (heap.update id ((heap.table id).insert denoted value)).ReadsAlike
      (other.update id ((other.table id).insert denoted value)) where
  size_eq := by
    rw [(assigned_update hkey).size_eq, (assigned_update hkey).size_eq, h.size_eq]
  get_eq := by
    intro name asked
    rw [get_assign hkey, get_assign hkey]
    simp only [h.holds_iff, h.get_eq]

theorem ReadsAlike.create (h : heap.ReadsAlike other) (t : Table) :
    (heap.create t).2.ReadsAlike (other.create t).2 where
  size_eq := by
    rw [Heap.create, Heap.create, Array.size_push, Array.size_push, h.size_eq]
  get_eq := by
    intro name asked
    have hname : (other.create t).1 = (heap.create t).1 := congrArg TableId.mk h.size_eq
    have hget := h.get_eq name asked
    rw [get, get] at hget ⊢
    rw [table_create, table_create, hname]
    by_cases hnew : (heap.create t).1 = name
    · rw [if_pos hnew, if_pos hnew]
    · rw [if_neg hnew, if_neg hnew, hget]

end Heap

namespace Host

/-- The host with other tables. -/
def withHeap (h : Host) (heap : Heap) : Host := { h with heap }

section Operations

variable {h : Host} {heap : Heap}

theorem pop_withHeap (h : Host) (heap : Heap) :
    (h.withHeap heap).pop = (h.pop.1, h.pop.2.withHeap heap) := by
  show (if h.base < h.stack.size then _ else _) = _
  unfold pop
  split <;> rfl

theorem setTop_withHeap (h : Host) (heap : Heap) (index : Int) :
    (h.withHeap heap).setTop index = (h.setTop index).withHeap heap := by
  unfold setTop
  split <;> rfl

theorem replace_withHeap (h : Host) (heap : Heap) (index : Int) :
    (h.withHeap heap).replace index = (h.replace index).withHeap heap := by
  have hslot : (h.withHeap heap).slot? index = h.slot? index := rfl
  unfold replace
  rw [hslot, pop_withHeap]
  split <;> rfl

theorem toText_withHeap (h : Host) (heap : Heap) (index : Int) :
    (h.withHeap heap).toText index = ((h.toText index).1, (h.toText index).2.withHeap heap) := by
  have hslot : (h.withHeap heap).slot? index = h.slot? index := rfl
  have hstack : (h.withHeap heap).stack = h.stack := rfl
  unfold toText
  rw [hslot, hstack]
  cases h.slot? index with
  | none => rfl
  | some place =>
    simp only
    split <;> rfl

/-- To read a field depends on the tables only through the value that is read. -/
theorem getField_withHeap (halike : h.heap.ReadsAlike heap) (index : Int) (key : Value) :
    (h.withHeap heap).getField index key =
      ((h.getField index key).1, (h.getField index key).2.withHeap heap) := by
  have hvalue : (h.withHeap heap).value index = h.value index := rfl
  unfold getField
  rw [hvalue]
  cases h.value index with
  | table id =>
    have hget : (h.withHeap heap).heap.get id key = h.heap.get id key := halike.get_eq id key
    simp only [hget]
    rfl
  | _ => rfl

theorem setField_withHeap (halike : h.heap.ReadsAlike heap) (index : Int) (key : Value) :
    ∃ after, (h.setField index key).heap.ReadsAlike after ∧
      (h.withHeap heap).setField index key = (h.setField index key).withHeap after := by
  have hvalue : (h.withHeap heap).value index = h.value index := rfl
  have hpopped : h.pop.2.heap.ReadsAlike heap := by
    rw [heap_pop]
    exact halike
  unfold setField
  rw [hvalue, pop_withHeap]
  cases h.value index with
  | table id =>
    have hheap : (h.pop.2.withHeap heap).heap = heap := rfl
    simp only [hheap]
    cases hkey : Key.ofValue key with
    | error fault =>
      rw [Heap.set_of_error hkey, Heap.set_of_error hkey]
      exact ⟨heap, hpopped, rfl⟩
    | ok denoted =>
      rw [Heap.set_of_ok hkey, Heap.set_of_ok hkey]
      exact ⟨_, hpopped.assign hkey id _, rfl⟩
  | _ => exact ⟨heap, hpopped, rfl⟩

theorem createTable_withHeap (halike : h.heap.ReadsAlike heap) :
    ∃ after, h.createTable.heap.ReadsAlike after ∧
      (h.withHeap heap).createTable = h.createTable.withHeap after := by
  have hname : (heap.create .empty).1 = (h.heap.create .empty).1 :=
    congrArg TableId.mk halike.size_eq
  refine ⟨(heap.create .empty).2, halike.create .empty, ?_⟩
  show (⟨h.stack.push (.table (heap.create .empty).1), _, _, _, _⟩ : Host) = _
  rw [hname]
  rfl

/-- Every operation answers alike on heaps that read alike and leaves such heaps. -/
theorem perform_withHeap (halike : h.heap.ReadsAlike heap) (operation : StackOperation) :
    ∃ after, (h.perform operation).2.heap.ReadsAlike after ∧
      (h.withHeap heap).perform operation =
        ((h.perform operation).1, (h.perform operation).2.withHeap after) := by
  -- Only `setField` and `createTable` change the tables, and only `getField` looks at them.
  cases operation with
  | pop =>
    refine ⟨heap, ?_, ?_⟩
    · show h.pop.2.heap.ReadsAlike heap
      rw [heap_pop]
      exact halike
    · show (Reply.value (h.withHeap heap).pop.1, (h.withHeap heap).pop.2) = _
      rw [pop_withHeap]
      rfl
  | setTop index =>
    refine ⟨heap, ?_, ?_⟩
    · show (h.setTop index).heap.ReadsAlike heap
      unfold setTop
      split <;> exact halike
    · show (Reply.done, (h.withHeap heap).setTop index) = _
      rw [setTop_withHeap]
      rfl
  | replace index =>
    refine ⟨heap, ?_, ?_⟩
    · show (h.replace index).heap.ReadsAlike heap
      rw [heap_replace]
      exact halike
    · show (Reply.done, (h.withHeap heap).replace index) = _
      rw [replace_withHeap]
      rfl
  | toText index =>
    refine ⟨heap, ?_, ?_⟩
    · show (h.toText index).2.heap.ReadsAlike heap
      rw [heap_toText]
      exact halike
    · show (Reply.text ((h.withHeap heap).toText index).1, ((h.withHeap heap).toText index).2) = _
      rw [toText_withHeap]
      rfl
  | getField index key =>
    refine ⟨heap, ?_, ?_⟩
    · show (h.getField index key).2.heap.ReadsAlike heap
      rw [(h.fieldRead_getField index key).heap_eq]
      exact halike
    · show (Reply.kind ((h.withHeap heap).getField index key).1,
        ((h.withHeap heap).getField index key).2) = _
      rw [getField_withHeap halike]
      rfl
  | setField index key =>
    obtain ⟨after, hafter, hset⟩ := setField_withHeap halike index key
    exact ⟨after, hafter, congrArg (Prod.mk Reply.done) hset⟩
  | createTable =>
    obtain ⟨after, hafter, hcreate⟩ := createTable_withHeap halike
    exact ⟨after, hafter, congrArg (Prod.mk Reply.done) hcreate⟩
  | push | get | value | kind | top | fits | raise => exact ⟨heap, halike, rfl⟩

/-- A frame is opened whatever the tables are. -/
theorem enter_withHeap (h : Host) (heap : Heap) (args : List Value) :
    (h.withHeap heap).enter args = (h.enter args).map (·.withHeap heap) := by
  have hfits : (h.withHeap heap).fits args.length = h.fits args.length := rfl
  unfold enter
  rw [hfits]
  split <;> rfl

end Operations

end Host

namespace CallTree

/-- Native functions do the same on heaps that read alike: the history of answers is the same, and
so is the host that is left, but for tables that read alike again. -/
theorem run_withHeap (tree : CallTree) {h : Host} {heap : Heap} (log : List Event)
    (halike : h.heap.ReadsAlike heap) :
    ∃ after, (tree.run h log).1.2.heap.ReadsAlike after ∧
      tree.run (h.withHeap heap) log =
        (((tree.run h log).1.1, (tree.run h log).1.2.withHeap after), (tree.run h log).2) := by
  induction tree generalizing h heap log with
  | finish status => exact ⟨heap, halike, rfl⟩
  | operate operation next ih =>
    obtain ⟨middle, hmiddle, hperform⟩ := Host.perform_withHeap halike operation
    rw [run_operate, run_operate, hperform]
    exact ih _ _ hmiddle
  | call function args callee next ihCallee ihNext =>
    cases function with
    | function entry =>
      rw [run_call, run_call]
      cases henter : h.enter args with
      | error fault =>
        have henter' : (h.withHeap heap).enter args = .error fault := by
          rw [Host.enter_withHeap, henter]
          rfl
        rw [Host.call_of_no_enter henter, Host.call_of_no_enter henter']
        exact ihNext _ _ halike
      | ok inner =>
        have henter' : (h.withHeap heap).enter args = .ok (inner.withHeap heap) := by
          rw [Host.enter_withHeap, henter]
          rfl
        have hinner : inner.heap.ReadsAlike heap := by
          unfold Host.enter at henter
          split at henter
          · cases henter
            exact halike
          · cases henter
        obtain ⟨middle, hmiddle, hcallee⟩ :=
          ihCallee entry (log ++ [.entered inner.frame]) hinner
        -- The callee finds the same frame, and the caller only takes the tables from it.
        have hrun : calleeRun callee entry (inner.withHeap heap) log =
            (((calleeRun callee entry inner log).1.1,
              (calleeRun callee entry inner log).1.2.withHeap middle),
              (calleeRun callee entry inner log).2) := hcallee
        rw [Host.call_of_enter henter, Host.call_of_enter henter', hrun]
        exact ihNext _ _ hmiddle
    | _ => exact ihNext _ _ halike

end CallTree

end JitHost
