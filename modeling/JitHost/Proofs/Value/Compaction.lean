import JitHost.Proofs.Value.InsertionOrder

/-!
# Compacted histories

What a table lists is a history itself: to assign it to an empty table, pair by pair, gives the
table again (`Table.Sound.ofPairs_pairs`). So a history may be cut short to what it has left, before
any assignments that follow it, and those with unusable keys may be left out (`Table.Compacts`). A
table built from what another one lists goes by a name of its own, so what is assigned to one of the
two later does not show in the other (`Heap.CopiesApart`).
-/

namespace JitHost

namespace Table

/-! ## Assignments that follow a history -/

section

variable {t : Table}

/-- A new key goes last. -/
theorem assign_of_new {key : Key} {value : Value} {entries : List (Key × Value)}
    (hnew : key ∉ entries.map Prod.fst) : assign key value entries = entries ++ [(key, value)] := by
  induction entries with
  | nil => rfl
  | cons entry rest ih =>
    rw [List.map_cons, List.mem_cons, not_or] at hnew
    rw [assign, if_neg (Ne.symm hnew.1), ih hnew.2]
    rfl

/-- An entry that is not there yet is put last by an assignment to its key. -/
theorem assignOrSkip_of_new {key : Key} {value : Value} (hnew : key ∉ t.entries.map Prod.fst)
    (hfolded : Key.ofValue key.value = .ok key) (hpresent : value ≠ .nil) :
    t.assignOrSkip (key.value, value) = ⟨t.entries ++ [(key, value)]⟩ := by
  have hassigned : t.assignOrSkip (key.value, value) = t.insert key value :=
    assignOrSkip_of_ok hfolded
  rw [hassigned, insert_of_ne_nil hpresent, assign_of_new hnew]

/-- Entries that are assigned come back one by one, behind those that are back already. -/
theorem foldl_entries {done todo : List (Key × Value)} (h : Sound ⟨done ++ todo⟩) :
    (todo.map fun entry => (entry.1.value, entry.2)).foldl Table.assignOrSkip ⟨done⟩ =
      ⟨done ++ todo⟩ := by
  -- Each step moves one entry over to those that are back, so these vary.
  induction todo generalizing done with
  | nil =>
    rw [List.append_nil]
    rfl
  | cons entry rest ih =>
    have hmem : entry ∈ done ++ entry :: rest := List.mem_append_right done List.mem_cons_self
    have hnew : entry.1 ∉ done.map Prod.fst := by
      intro hdone
      have hnodup := h.nodup
      rw [List.map_append, List.map_cons] at hnodup
      exact (List.nodup_append.1 hnodup).2.2 _ hdone _ List.mem_cons_self rfl
    have hassign := assignOrSkip_of_new (t := ⟨done⟩) hnew (h.folded entry hmem)
      (h.present entry hmem)
    rw [List.append_cons] at h ⊢
    rw [List.map_cons, List.foldl_cons, hassign]
    exact ih h

/-- To assign what a table lists gives the table. -/
theorem Sound.ofPairs_pairs (h : t.Sound) : ofPairs t.pairs = t := by
  have hwhole : Sound ⟨[] ++ t.entries⟩ := h
  exact foldl_entries hwhole

theorem sound_ofPairs (history : List (Value × Value)) : (ofPairs history).Sound :=
  (leftBy_empty.foldl history).sound

theorem ofPairs_append (history later : List (Value × Value)) :
    ofPairs (history ++ later) = later.foldl Table.assignOrSkip (ofPairs history) := List.foldl_append

/-- Assignments with unusable keys may be left out. -/
theorem foldl_filter_isKey (t : Table) (history : List (Value × Value)) :
    (history.filter fun assignment => assignment.1.isKey).foldl Table.assignOrSkip t =
      history.foldl Table.assignOrSkip t := by
  induction history generalizing t with
  | nil => rfl
  | cons assignment rest ih =>
    cases hkey : Key.ofValue assignment.1 with
    | ok assigned =>
      have hpos : assignment.1.isKey = true := Key.isKey_of_ofValue hkey
      simp only [List.filter_cons, hpos, if_true, List.foldl_cons, ih]
    | error fault =>
      have hneg : assignment.1.isKey = false := Key.isKey_eq_false_of_ofValue hkey
      simp only [List.filter_cons, hneg, Bool.false_eq_true, if_false, List.foldl_cons,
        assignOrSkip_of_error hkey, ih]

end

/-- How a history may be cut short, with assignments that follow it. -/
structure Compacts (history later : List (Value × Value)) : Prop where
  /-- What it has left stands for it. -/
  listed : ofPairs ((ofPairs history).pairs ++ later) = ofPairs (history ++ later)
  /-- All of its assignments to unusable keys may be left out, and so may those that follow. -/
  usable : ofPairs ((history ++ later).filter fun assignment => assignment.1.isKey) =
    ofPairs (history ++ later)

theorem compacts (history later : List (Value × Value)) : Compacts history later where
  listed := by
    rw [ofPairs_append, (sound_ofPairs history).ofPairs_pairs, ofPairs_append]
  usable := foldl_filter_isKey empty (history ++ later)

end Table

/-! ## Copies -/

/-- The table to which a request assigns, if it does not make one. -/
def TableRequest.assigned? : TableRequest → Option TableId
  | .build _ => none
  | .assign id _ _ | .assignText id _ _ => some id

namespace Heap

variable {heap : Heap} {id : TableId} {request : TableRequest}

/-- A name that goes by a table goes by one ever after. -/
theorem holds_perform (h : heap.Holds id) (request : TableRequest) :
    (heap.perform request).2.Holds id := by
  have hassign : ∀ target key value, (heap.perform (.assign target key value)).2.Holds id := by
    intro target key value
    cases hkey : Key.ofValue key with
    | error fault =>
      rw [perform_assign_of_error hkey]
      exact h
    | ok denoted =>
      rw [perform_assign_of_ok hkey]
      exact (holds_update _).2 h
  cases request with
  | build made =>
    rw [Holds, perform, create, Array.size_push]
    exact Nat.lt_succ_of_lt h
  | assign target key value => exact hassign target key value
  | assignText target text value =>
    rw [perform_assignText]
    exact hassign target (.ofText text) value

/-- A table that is made gets a name that no other goes by. -/
theorem target_ne_of_holds (h : heap.Holds id) (hspared : request.assigned? ≠ some id) :
    heap.target request ≠ id := by
  cases request with
  | build made =>
    rintro rfl
    exact absurd h (Nat.lt_irrefl _)
  | assign target key value | assignText target text value =>
    rintro rfl
    exact hspared rfl

/-- A request that does not assign to a table leaves it as it is. -/
theorem table_perform_of_spared (h : heap.Holds id) (hspared : request.assigned? ≠ some id) :
    (heap.perform request).2.table id = heap.table id := by
  rw [table_perform, assignments_of_ne (target_ne_of_holds h hspared)]
  rfl

/-- Nor do any number of them. -/
theorem table_after_of_spared (h : heap.Holds id) {requests : List TableRequest}
    (hspared : ∀ request ∈ requests, request.assigned? ≠ some id) :
    (heap.after requests).table id = heap.table id := by
  induction requests generalizing heap with
  | nil => rfl
  | cons request rest ih =>
    obtain ⟨hfirst, hrest⟩ := List.forall_mem_cons.1 hspared
    rw [after, ih (holds_perform h request) hrest, table_perform_of_spared h hfirst]

/-- The request to build a table from what another one lists. -/
def copyOf (heap : Heap) (id : TableId) : TableRequest := .build (heap.table id).pairs

/-- The name under which the table is built. -/
def copyName (heap : Heap) (id : TableId) : TableId := heap.target (heap.copyOf id)

/-- The heap with that table. -/
def copied (heap : Heap) (id : TableId) : Heap := (heap.perform (heap.copyOf id)).2

/-- What a table has in common with the one that is built from what it lists. -/
structure CopiesApart (heap : Heap) (id : TableId) : Prop where
  /-- The built table is a new one. -/
  fresh : ¬ heap.Holds (heap.copyName id)
  holds : (heap.copied id).Holds (heap.copyName id)
  /-- It lists the same pairs in the same order. -/
  pairs_eq : ((heap.copied id).table (heap.copyName id)).pairs = (heap.table id).pairs
  /-- All tables that were there are as before. -/
  others : ∀ other, heap.Holds other →
    (heap.copied id).Holds other ∧ (heap.copied id).table other = heap.table other
  /-- Whatever is done later, of the two each is changed by assignments to it alone. -/
  apart : ∀ name, name = id ∨ name = heap.copyName id → ∀ later : List TableRequest,
    (∀ request ∈ later, request.assigned? ≠ some name) →
      (((heap.copied id).after later).table name).pairs = (heap.table id).pairs

theorem copied_table (heap : Heap) (id : TableId) :
    (heap.copied id).table (heap.copyName id) = Table.ofPairs (heap.table id).pairs := by
  rw [copied, copyOf, perform, table_create]
  exact if_pos rfl

theorem copiesApart (hsound : (heap.table id).Sound) (hholds : heap.Holds id) :
    heap.CopiesApart id := by
  have hcopy : (heap.copied id).table (heap.copyName id) = heap.table id := by
    rw [copied_table, hsound.ofPairs_pairs]
  have hnew : (heap.copied id).Holds (heap.copyName id) := by
    rw [Holds, copied, copyOf, perform, create, Array.size_push]
    exact Nat.lt_succ_self _
  have hothers : ∀ other, heap.Holds other →
      (heap.copied id).Holds other ∧ (heap.copied id).table other = heap.table other := by
    intro other hother
    exact ⟨holds_perform hother _, table_perform_of_spared hother (Option.some_ne_none other).symm⟩
  -- The name of the copy is the next one, which none of the tables that are there goes by.
  refine ⟨Nat.lt_irrefl _, hnew, congrArg Table.pairs hcopy, hothers, ?_⟩
  rintro name (rfl | rfl) later hspared
  · obtain ⟨hheld, htable⟩ := hothers name hholds
    rw [table_after_of_spared hheld hspared, htable]
  · rw [table_after_of_spared hnew hspared, hcopy]

end Heap

/-- A table that was ever built is what its own history left of the empty one. -/
theorem Heap.leftBy_after (requests : List TableRequest) (id : TableId) :
    ((Heap.empty.after requests).table id).LeftBy (Heap.empty.history id requests) := by
  rw [table_after]
  exact Table.leftBy_empty.foldl (Heap.empty.history id requests)

/-- Every table that was ever built can be built again from what it lists, apart from itself, and
every history of assignments can be cut short, whatever follows it. -/
theorem histories_compacted :
    (∀ requests id, (Heap.empty.after requests).Holds id →
      (Heap.empty.after requests).CopiesApart id) ∧
    ∀ history later, Table.Compacts history later := by
  refine ⟨?_, Table.compacts⟩
  intro requests id hholds
  exact Heap.copiesApart (Heap.leftBy_after requests id).sound hholds

-- Of a key that was removed nothing is left but the place of its later assignment.
example : (Table.ofPairs [(.ofText "b", .boolean true), (.ofText "a", .boolean true), (.nil, .nil),
    (.ofText "b", .nil), (.ofText "b", .boolean false)]).pairs =
    [(.ofText "a", .boolean true), (.ofText "b", .boolean false)] := by decide

end JitHost
