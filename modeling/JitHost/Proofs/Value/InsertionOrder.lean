import JitHost.Value.Heap
import JitHost.Proofs.Value.Entries

/-!
# Tables as insertion-ordered maps

What a table is by the assignments made to it, one after another: `lastAssigned` is the value that a
key was given last, and a key that has one was born when it got its first since it last had none
(`BornAt`). A table holds what its history has left, in the order of birth (`Table.Remembers`).

`TableRequest` is all that makes or changes tables. Whatever is asked of a heap, each of its tables
remembers the assignments made under its name, an assignment that is refused changes nothing, and
one to a table changes no other (`Heap.remembers_assignments`).
-/

namespace JitHost

open Text

/-! ## Histories -/

/-- Whether an assignment is one to a key: it has a usable key of its own, and an equal one. -/
def assignsTo (key : Value) (assignment : Value × Value) : Bool :=
  assignment.1.isKey && assignment.1.same key

/-- The value last assigned to an equal key, nil if there was none. -/
def lastAssigned (history : List (Value × Value)) (key : Value) : Value :=
  ((history.filter (assignsTo key)).getLast?.map Prod.snd).getD .nil

/-- The assignment that gave a key its first value since it last had none. The key has had one ever
since. -/
structure BornAt (history : List (Value × Value)) (key : Value) (place : Nat) : Prop where
  within : place < history.length
  absent : lastAssigned (history.take place) key = .nil
  present : ∀ later, place < later → later ≤ history.length →
    lastAssigned (history.take later) key ≠ .nil

/-- The first of two keys was born before the other. -/
def BornBefore (history : List (Value × Value)) (key other : Value) : Prop :=
  ∃ place later, place < later ∧ BornAt history key place ∧ BornAt history other later

section History

variable {history : List (Value × Value)} {assignment : Value × Value} {key : Value}

theorem lastAssigned_concat (history : List (Value × Value)) (assignment : Value × Value)
    (key : Value) :
    lastAssigned (history ++ [assignment]) key =
      if assignsTo key assignment then assignment.2 else lastAssigned history key := by
  rw [lastAssigned, List.filter_append]
  cases h : assignsTo key assignment with
  | true =>
    rw [List.filter_cons_of_pos h, List.filter_nil, List.getLast?_concat]
    rfl
  | false =>
    rw [List.filter_cons_of_neg (ne_true_of_eq_false h), List.filter_nil, List.append_nil]
    rfl

/-- Only an assignment with a usable key is one to a key. -/
theorem assignsTo_of_error {fault : KeyFault} (h : Key.ofValue assignment.1 = .error fault) :
    assignsTo key assignment = false := by
  rw [assignsTo, Key.isKey_eq_false_of_ofValue h, Bool.false_and]

theorem assignsTo_iff_eq {assigned denoted : Key}
    (hassigned : Key.ofValue assignment.1 = .ok assigned)
    (hkey : Key.ofValue key = .ok denoted) :
    assignsTo key assignment = true ↔ denoted = assigned := by
  rw [assignsTo, Key.isKey_of_ofValue hassigned, Bool.true_and, Key.same_iff_eq hassigned hkey]
  exact eq_comm

/-- No assignment is one to an unusable key. -/
theorem assignsTo_unusable {fault : KeyFault} (h : Key.ofValue key = .error fault) :
    assignsTo key assignment = false := by
  cases hassigned : Key.ofValue assignment.1 with
  | error other => exact assignsTo_of_error hassigned
  | ok assigned => rw [assignsTo, Key.same_eq_false_of_error hassigned h, Bool.and_false]

/-- A key has only one birth: at a second one it would have had no value. -/
theorem BornAt.unique {place other : Nat} (h : BornAt history key place)
    (hother : BornAt history key other) : other = place := by
  rcases Nat.lt_trichotomy other place with hlt | heq | hgt
  · exact absurd h.absent (hother.present place hlt (Nat.le_of_lt h.within))
  · exact heq
  · exact absurd hother.absent (h.present other hgt (Nat.le_of_lt hother.within))

/-- A key that still has a value was born when it was. -/
theorem BornAt.concat {place : Nat} (h : BornAt history key place)
    (hlive : lastAssigned (history ++ [assignment]) key ≠ .nil) :
    BornAt (history ++ [assignment]) key place where
  within := by
    rw [List.length_append]
    exact Nat.lt_add_right _ h.within
  absent := by
    rw [List.take_append_of_le_length (Nat.le_of_lt h.within)]
    exact h.absent
  present := by
    intro later hlater hwithin
    by_cases hold : later ≤ history.length
    · rw [List.take_append_of_le_length hold]
      exact h.present later hlater hold
    · -- Only the whole history is longer than it was.
      rw [List.take_of_length_le]
      · exact hlive
      · rw [List.length_append, List.length_singleton]
        exact Nat.lt_of_not_le hold

/-- A key that had no value and now has one is born with the last assignment. -/
theorem bornAt_length (habsent : lastAssigned history key = .nil)
    (hlive : lastAssigned (history ++ [assignment]) key ≠ .nil) :
    BornAt (history ++ [assignment]) key history.length where
  within := by
    rw [List.length_append]
    exact Nat.lt_succ_self _
  absent := by
    rw [List.take_append_of_le_length (Nat.le_refl _), List.take_length]
    exact habsent
  present := by
    intro later hlater hwithin
    rw [List.take_of_length_le]
    · exact hlive
    · rw [List.length_append, List.length_singleton]
      exact hlater

end History

namespace Table

/-! ## One assignment -/

section Assign

variable {t : Table} {assignment : Value × Value}

theorem assignOrSkip_of_error {fault : KeyFault} (h : Key.ofValue assignment.1 = .error fault) :
    t.assignOrSkip assignment = t := by
  rw [assignOrSkip, set, h]
  rfl

theorem assignOrSkip_of_ok {assigned : Key} (h : Key.ofValue assignment.1 = .ok assigned) :
    t.assignOrSkip assignment = t.insert assigned assignment.2 := by
  rw [assignOrSkip, set, h]
  rfl

theorem Sound.assignOrSkip (h : t.Sound) (assignment : Value × Value) :
    (t.assignOrSkip assignment).Sound := by
  cases hassigned : Key.ofValue assignment.1 with
  | error fault =>
    rw [assignOrSkip_of_error hassigned]
    exact h
  | ok assigned =>
    rw [assignOrSkip_of_ok hassigned]
    exact h.insert (Key.ofValue_value hassigned) assignment.2

/-- What a key reads as after an assignment. -/
theorem get_assignOrSkip (t : Table) (assignment : Value × Value) (key : Value) :
    (t.assignOrSkip assignment).get key =
      if assignsTo key assignment then assignment.2 else t.get key := by
  cases hassigned : Key.ofValue assignment.1 with
  | error fault =>
    rw [assignOrSkip_of_error hassigned, assignsTo_of_error hassigned]
    rfl
  | ok assigned =>
    rw [assignOrSkip_of_ok hassigned]
    cases hkey : Key.ofValue key with
    | error fault =>
      rw [assignsTo_unusable hkey, get_of_error hkey, get_of_error hkey]
      rfl
    | ok denoted =>
      rw [get_of_ok hkey, get_of_ok hkey, find?_insert]
      by_cases h : denoted = assigned
      · rw [if_pos h, if_pos ((assignsTo_iff_eq hassigned hkey).2 h)]
      · rw [if_neg h, if_neg (mt (assignsTo_iff_eq hassigned hkey).1 h)]

/-- The listed keys keep their order, and the only one that may come to them goes last. -/
theorem Sound.keys_assignOrSkip (h : t.Sound) (assignment : Value × Value) :
    (t.assignOrSkip assignment).keys.Sublist t.keys ∨
      ∃ key : Value, t.get key = .nil ∧ (t.assignOrSkip assignment).keys = t.keys ++ [key] := by
  cases hassigned : Key.ofValue assignment.1 with
  | error fault =>
    rw [assignOrSkip_of_error hassigned]
    exact .inl (List.Sublist.refl _)
  | ok assigned =>
    have hkeys : ∀ t : Table, t.keys = (t.entries.map Prod.fst).map Key.value := fun t => by
      rw [List.map_map]
      rfl
    rw [assignOrSkip_of_ok hassigned, hkeys, hkeys]
    by_cases hvalue : assignment.2 = .nil
    · rw [hvalue]
      exact .inl ((List.filter_sublist.map Prod.fst).map Key.value)
    · rw [insert_of_ne_nil hvalue, map_fst_assign]
      by_cases hmem : assigned ∈ t.entries.map Prod.fst
      · rw [if_pos hmem]
        exact .inl (List.Sublist.refl _)
      · rw [if_neg hmem]
        refine .inr ⟨assigned.value, ?_, List.map_append ..⟩
        rw [get_of_ok (Key.ofValue_value hassigned)]
        exact Decidable.not_not.1 (mt h.mem_iff_find?.2 hmem)

end Assign

/-! ## Any number of assignments -/

/-- A table as a history of assignments left it: it reads as the last assignments say, and its keys
stand in the order of their birth. -/
structure LeftBy (t : Table) (history : List (Value × Value)) : Prop where
  sound : t.Sound
  get_eq : ∀ key, t.get key = lastAssigned history key
  born : ∀ key ∈ t.keys, ∃ place, BornAt history key place
  ordered : t.keys.Pairwise (BornBefore history)

variable {t : Table} {history : List (Value × Value)}

theorem leftBy_empty : empty.LeftBy [] where
  sound := sound_empty
  get_eq := fun key => by
    cases hkey : Key.ofValue key with
    | error fault => exact get_of_error hkey
    | ok denoted => exact get_of_ok hkey
  born := fun _ hkey => nomatch hkey
  ordered := .nil

/-- A listed key reads as something. -/
theorem Sound.get_ne_nil (h : t.Sound) {key : Value} (hkey : key ∈ t.keys) : t.get key ≠ .nil := by
  obtain ⟨entry, hentry, rfl⟩ := List.mem_map.1 hkey
  rw [h.get_of_mem hentry]
  exact h.present entry hentry

theorem LeftBy.assignOrSkip (h : t.LeftBy history) (assignment : Value × Value) :
    (t.assignOrSkip assignment).LeftBy (history ++ [assignment]) := by
  have hsound := h.sound.assignOrSkip assignment
  have hget : ∀ key, (t.assignOrSkip assignment).get key =
      lastAssigned (history ++ [assignment]) key := fun key => by
    rw [get_assignOrSkip, lastAssigned_concat, h.get_eq]
  have hlive : ∀ key ∈ (t.assignOrSkip assignment).keys,
      lastAssigned (history ++ [assignment]) key ≠ .nil := fun key hkey =>
    hget key ▸ hsound.get_ne_nil hkey
  -- Keys that are still there were born when they were, so their order stays too.
  have hbefore : ∀ key other, key ∈ (t.assignOrSkip assignment).keys →
      other ∈ (t.assignOrSkip assignment).keys → BornBefore history key other →
      BornBefore (history ++ [assignment]) key other := by
    rintro key other hkey hother ⟨place, later, hlt, hplace, hlater⟩
    exact ⟨place, later, hlt, hplace.concat (hlive key hkey), hlater.concat (hlive other hother)⟩
  refine ⟨hsound, hget, ?_, ?_⟩
  · intro key hkey
    by_cases hold : key ∈ t.keys
    · obtain ⟨place, hplace⟩ := h.born key hold
      exact ⟨place, hplace.concat (hlive key hkey)⟩
    · refine ⟨history.length, bornAt_length ?_ (hlive key hkey)⟩
      rcases h.sound.keys_assignOrSkip assignment with hsublist | ⟨new, hnil, hkeys⟩
      · exact absurd (hsublist.subset hkey) hold
      · rw [hkeys] at hkey
        rw [← h.get_eq, List.mem_singleton.1 ((List.mem_append.1 hkey).resolve_left hold)]
        exact hnil
  · rcases h.sound.keys_assignOrSkip assignment with hsublist | ⟨new, hnil, hkeys⟩
    · exact (h.ordered.sublist hsublist).imp_of_mem fun hkey hother =>
        hbefore _ _ hkey hother
    · rw [hkeys] at hbefore hlive ⊢
      refine List.pairwise_append.2 ⟨?_, List.pairwise_singleton .., ?_⟩
      · exact h.ordered.imp_of_mem fun hkey hother =>
          hbefore _ _ (List.mem_append_left _ hkey) (List.mem_append_left _ hother)
      · intro key hkey last hlast
        rw [List.mem_singleton.1 hlast]
        obtain ⟨place, hplace⟩ := h.born key hkey
        refine ⟨place, history.length, hplace.within,
          hplace.concat (hlive key (List.mem_append_left _ hkey)), bornAt_length ?_ ?_⟩
        · rw [← h.get_eq, hnil]
        · exact hlive new (List.mem_append_right _ (List.mem_singleton_self new))

theorem LeftBy.foldl (h : t.LeftBy history) (assignments : List (Value × Value)) :
    (assignments.foldl Table.assignOrSkip t).LeftBy (history ++ assignments) := by
  induction assignments generalizing t history with
  | nil =>
    rw [List.append_nil]
    exact h
  | cons assignment rest ih =>
    rw [List.append_cons]
    exact ih (h.assignOrSkip assignment)

/-- What is seen of a table, by the assignments made to it. -/
structure Remembers (t : Table) (history : List (Value × Value)) : Prop where
  /-- A key reads as the value last assigned to an equal one. -/
  get_eq : ∀ key, t.get key = lastAssigned history key
  get_unusable : ∀ key, key.isKey = false → t.get key = .nil
  /-- A key with a value equals one listed key, any other none. -/
  listed_once : ∀ key, t.keys.countP (·.same key) = if lastAssigned history key = .nil then 0 else 1
  /-- Every listed key has its birth, and the keys stand in the order of their births. -/
  born : ∀ key ∈ t.keys, ∃ place, BornAt history key place ∧
    ∀ other, BornAt history key other → other = place
  ordered : t.keys.Pairwise (BornBefore history)
  pairs_eq : t.pairs = t.keys.map fun key => (key, lastAssigned history key)
  usable : ∀ pair ∈ t.pairs, pair.1.isKey = true ∧ pair.2 ≠ .nil
  size_eq : t.size = t.pairs.length
  isEmpty_iff : t.size = 0 ↔ t.pairs = []

theorem LeftBy.remembers (h : t.LeftBy history) : t.Remembers history where
  get_eq := h.get_eq
  get_unusable := fun key hkey => by
    cases hdenoted : Key.ofValue key with
    | error fault => exact get_of_error hdenoted
    | ok denoted =>
      rw [Key.isKey_of_ofValue hdenoted] at hkey
      cases hkey
  listed_once := fun key => by rw [h.sound.countP_keys, h.get_eq]
  born := fun key hkey => (h.born key hkey).imp fun place hplace =>
    ⟨hplace, fun other hother => hplace.unique hother⟩
  ordered := h.ordered
  pairs_eq := by
    rw [pairs, keys, List.map_map]
    refine List.map_congr_left fun entry hentry => ?_
    rw [Function.comp_apply, ← h.get_eq, h.sound.get_of_mem hentry]
  usable := fun pair hpair => by
    obtain ⟨entry, hentry, rfl⟩ := List.mem_map.1 hpair
    exact ⟨Key.isKey_of_ofValue (h.sound.folded entry hentry), h.sound.present entry hentry⟩
  size_eq := (List.length_map _).symm
  isEmpty_iff := by rw [size, pairs, List.map_eq_nil_iff, List.length_eq_zero_iff]

-- A key that was removed and comes again goes last.
example : (ofPairs [(.ofText "b", .boolean true), (.ofText "a", .boolean true), (.ofText "b", .nil),
    (.ofText "b", .boolean false)]).keys = [.ofText "a", .ofText "b"] := by decide

end Table

/-! ## The heap -/

/-- What makes and changes tables. All who share a table know it by one name. -/
inductive TableRequest where
  | build (assignments : List (Value × Value))
  | assign (id : TableId) (key value : Value)
  | assignText (id : TableId) (text : String) (value : Value)

namespace Heap

/-- Whether a table goes by a name. -/
def Holds (heap : Heap) (id : TableId) : Prop := id.index < heap.tables.size

instance (heap : Heap) (id : TableId) : Decidable (heap.Holds id) :=
  inferInstanceAs (Decidable (id.index < heap.tables.size))

/-- The heap after a request, and how it was answered. What is assigned to a text is always
accepted. -/
def perform (heap : Heap) : TableRequest → Except KeyFault Unit × Heap
  | .build assignments => (.ok (), (heap.create (Table.ofPairs assignments)).2)
  | .assign id key value =>
      match heap.set id key value with
      | .ok after => (.ok (), after)
      | .error fault => (.error fault, heap)
  | .assignText id text value => (.ok (), (heap.set id (.ofText text) value).toOption.getD heap)

/-- The heap after a run of requests. -/
def after (heap : Heap) : List TableRequest → Heap
  | [] => heap
  | request :: rest => (heap.perform request).2.after rest

/-- The name under which a request makes or changes a table. -/
def target (heap : Heap) : TableRequest → TableId
  | .build assignments => (heap.create (Table.ofPairs assignments)).1
  | .assign id _ _ => id
  | .assignText id _ _ => id

/-- The assignments of a request to the table of a name, if there is one. -/
def assignments (heap : Heap) (id : TableId) : TableRequest → List (Value × Value)
  | .build made => if (heap.create (Table.ofPairs made)).1 = id then made else []
  | .assign target key value => if target = id ∧ heap.Holds id then [(key, value)] else []
  | .assignText target text value =>
      if target = id ∧ heap.Holds id then [(.ofText text, value)] else []

/-- The assignments to the table of a name in a run of requests. -/
def history (heap : Heap) (id : TableId) : List TableRequest → List (Value × Value)
  | [] => []
  | request :: rest => heap.assignments id request ++ (heap.perform request).2.history id rest

theorem table_create (heap : Heap) (t : Table) (id : TableId) :
    (heap.create t).2.table id = if (heap.create t).1 = id then t else heap.table id := by
  obtain ⟨index⟩ := id
  rw [table, table, create]
  simp only [Array.getD_eq_getD_getElem?, Array.getElem?_push, TableId.mk.injEq]
  by_cases h : index = heap.tables.size
  · rw [if_pos h, if_pos h.symm]
    rfl
  · rw [if_neg h, if_neg (Ne.symm h)]

theorem table_update (heap : Heap) (t : Table) (target id : TableId) :
    (heap.update target t).table id =
      if target = id ∧ heap.Holds id then t else heap.table id := by
  obtain ⟨index⟩ := id
  obtain ⟨place⟩ := target
  rw [table, table, update]
  simp only [Array.getD_eq_getD_getElem?, Array.getElem?_setIfInBounds, TableId.mk.injEq, Holds]
  by_cases h : place = index
  · subst h
    by_cases hholds : place < heap.tables.size
    · simp [hholds]
    · simp [hholds]
  · rw [if_neg h, if_neg fun hboth => h hboth.1]

theorem update_update (heap : Heap) (id : TableId) (t u : Table) :
    (heap.update id t).update id u = heap.update id u := by
  simp only [update, Array.setIfInBounds_setIfInBounds]

theorem holds_update {heap : Heap} {id other : TableId} (t : Table) :
    (heap.update id t).Holds other ↔ heap.Holds other := by
  rw [Holds, update, Array.size_setIfInBounds]
  rfl

/-- A table that a name does not go by is empty. -/
theorem table_of_not_holds {heap : Heap} {id : TableId} (h : ¬ heap.Holds id) :
    heap.table id = .empty := by
  rw [table, Array.getD_eq_getD_getElem?, Array.getElem?_eq_none (Nat.le_of_not_lt h)]
  rfl

/-- An assignment is refused when its key is not usable, and then nothing changes. -/
theorem perform_assign_of_error {key : Value} {fault : KeyFault}
    (h : Key.ofValue key = .error fault) (heap : Heap) (id : TableId) (value : Value) :
    heap.perform (.assign id key value) = (.error fault, heap) := by
  rw [perform, set, Table.set, h]
  rfl

theorem perform_assign_of_ok {key : Value} {denoted : Key} (h : Key.ofValue key = .ok denoted)
    (heap : Heap) (id : TableId) (value : Value) :
    heap.perform (.assign id key value) =
      (.ok (), heap.update id ((heap.table id).assignOrSkip (key, value))) := by
  have hassign : (heap.table id).assignOrSkip (key, value) = (heap.table id).insert denoted value :=
    Table.assignOrSkip_of_ok h
  rw [perform, set, Table.set, hassign, h]
  rfl

theorem perform_assignText (heap : Heap) (id : TableId) (text : String) (value : Value) :
    heap.perform (.assignText id text value) = heap.perform (.assign id (.ofText text) value) := rfl

theorem table_perform_assign (heap : Heap) (target id : TableId) (key value : Value) :
    (heap.perform (.assign target key value)).2.table id =
      if target = id ∧ heap.Holds id then (heap.table id).assignOrSkip (key, value)
      else heap.table id := by
  cases hkey : Key.ofValue key with
  | error fault =>
    have hskip : (heap.table id).assignOrSkip (key, value) = heap.table id :=
      Table.assignOrSkip_of_error hkey
    rw [perform_assign_of_error hkey, hskip]
    exact (ite_self _).symm
  | ok denoted =>
    rw [perform_assign_of_ok hkey, table_update]
    by_cases h : target = id ∧ heap.Holds id
    · rw [if_pos h, if_pos h, h.1]
    · rw [if_neg h, if_neg h]

/-- A table after a request is what the assignments of the request make of it. -/
theorem table_perform (heap : Heap) (request : TableRequest) (id : TableId) :
    (heap.perform request).2.table id =
      (heap.assignments id request).foldl Table.assignOrSkip (heap.table id) := by
  have hassign : ∀ target key value, (heap.perform (.assign target key value)).2.table id =
      (heap.assignments id (.assign target key value)).foldl Table.assignOrSkip
        (heap.table id) := by
    intro target key value
    rw [table_perform_assign, assignments]
    by_cases h : target = id ∧ heap.Holds id
    · rw [if_pos h, if_pos h]
      rfl
    · rw [if_neg h, if_neg h]
      rfl
  cases request with
  | build made =>
    rw [perform, table_create, assignments]
    by_cases h : (heap.create (Table.ofPairs made)).1 = id
    · -- The name is new, so what was under it before is the empty table.
      have hnew : ¬ heap.Holds id := h ▸ Nat.lt_irrefl heap.tables.size
      rw [if_pos h, if_pos h, table_of_not_holds hnew]
      rfl
    · rw [if_neg h, if_neg h]
      rfl
  | assign target key value => exact hassign target key value
  | assignText target text value =>
    rw [perform_assignText]
    exact hassign target (.ofText text) value

/-- A request assigns nothing to tables that it is not about. -/
theorem assignments_of_ne {heap : Heap} {request : TableRequest} {id : TableId}
    (h : heap.target request ≠ id) : heap.assignments id request = [] := by
  cases request with
  | build made => exact if_neg h
  | assign target key value => exact if_neg fun hboth => h hboth.1
  | assignText target text value => exact if_neg fun hboth => h hboth.1

theorem table_after (heap : Heap) (requests : List TableRequest) (id : TableId) :
    (heap.after requests).table id =
      (heap.history id requests).foldl Table.assignOrSkip (heap.table id) := by
  induction requests generalizing heap with
  | nil => rfl
  | cons request rest ih => rw [after, history, ih, table_perform, List.foldl_append]

/-- A request that is refused changes nothing. -/
theorem perform_of_error {heap : Heap} {request : TableRequest} {fault : KeyFault}
    (h : (heap.perform request).1 = .error fault) : (heap.perform request).2 = heap := by
  cases request with
  | build made => cases h
  | assignText id text value => cases h
  | assign id key value =>
    cases hkey : Key.ofValue key with
    | error other => rw [perform_assign_of_error hkey]
    | ok denoted =>
      rw [perform_assign_of_ok hkey] at h
      cases h

/-- Whatever is asked of a heap that begins without tables, every table is the insertion-ordered map
of the assignments made under its name. On any heap, an assignment is refused exactly when its key
is not usable, a refused one changes nothing, and no request changes a table but its own. -/
theorem remembers_assignments :
    (∀ requests id, ((empty.after requests).table id).Remembers (empty.history id requests)) ∧
    ∀ heap : Heap,
      (∀ id key value, (∃ fault, (heap.perform (.assign id key value)).1 = .error fault) ↔
        key.isKey = false) ∧
      (∀ request fault, (heap.perform request).1 = .error fault →
        (heap.perform request).2 = heap) ∧
      ∀ request id, heap.target request ≠ id →
        (heap.perform request).2.table id = heap.table id := by
  refine ⟨fun requests id => ?_, fun heap => ⟨fun id key value => ?_, ?_, ?_⟩⟩
  · rw [table_after]
    exact (Table.leftBy_empty.foldl _).remembers
  · cases hkey : Key.ofValue key with
    | error fault =>
      rw [perform_assign_of_error hkey, Key.isKey_eq_false_of_ofValue hkey]
      exact ⟨fun _ => rfl, fun _ => ⟨fault, rfl⟩⟩
    | ok denoted =>
      rw [perform_assign_of_ok hkey, Key.isKey_of_ofValue hkey]
      exact ⟨fun ⟨_, h⟩ => (nomatch h), fun h => nomatch h⟩
  · exact fun request fault h => perform_of_error h
  · intro request id h
    rw [table_perform, assignments_of_ne h]
    rfl

end Heap

end JitHost
