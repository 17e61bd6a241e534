import JitHost.Proofs.Value.Keys

/-!
# The entries of a table

What an assignment does to the entries of a table, and what is always true of them
(`Table.Sound`): every key is there once and in its folded form, and no value is nil. To find a key
is then the same as to look for its entry (`Table.Sound.find?_eq_some_iff`), and a value equals one
of the listed keys if it reads as something, and none of them if not (`Table.Sound.countP_keys`).
-/

namespace JitHost

namespace Table

/-! ## One assignment -/

section Assign

variable {key other : Key} {value : Value} {entries : List (Key × Value)}

theorem lookup_cons_eq_ite (entry : Key × Value) (rest : List (Key × Value)) :
    (entry :: rest).lookup other = if other = entry.1 then some entry.2 else rest.lookup other := by
  by_cases h : other = entry.1
  · rw [List.lookup_cons, beq_iff_eq.2 h, if_pos h]
  · rw [List.lookup_cons, beq_eq_false_iff_ne.2 h, if_neg h]

theorem lookup_assign :
    (assign key value entries).lookup other =
      if other = key then some value else entries.lookup other := by
  induction entries with
  | nil => exact lookup_cons_eq_ite (key, value) []
  | cons entry rest ih =>
    rw [assign, lookup_cons_eq_ite entry]
    by_cases hentry : entry.1 = key
    · rw [if_pos hentry, lookup_cons_eq_ite, hentry]
      by_cases h : other = key
      · rw [if_pos h, if_pos h]
      · rw [if_neg h, if_neg h, if_neg h]
    · rw [if_neg hentry, lookup_cons_eq_ite, ih]
      by_cases h : other = key
      · rw [if_pos h, if_pos h, if_neg (h ▸ Ne.symm hentry)]
      · rw [if_neg h, if_neg h]

/-- A key that is there keeps its place, another goes last. -/
theorem map_fst_assign :
    (assign key value entries).map Prod.fst =
      if key ∈ entries.map Prod.fst then entries.map Prod.fst
      else entries.map Prod.fst ++ [key] := by
  induction entries with
  | nil => rfl
  | cons entry rest ih =>
    rw [assign]
    by_cases hentry : entry.1 = key
    · simp [hentry]
    · rw [if_neg hentry, List.map_cons, ih]
      by_cases h : key ∈ rest.map Prod.fst
      · simp [h]
      · rw [if_neg h, if_neg (by simpa [Ne.symm hentry] using h)]
        rfl

theorem mem_assign {entry : Key × Value} (h : entry ∈ assign key value entries) :
    entry = (key, value) ∨ entry ∈ entries := by
  induction entries with
  | nil => exact .inl (List.mem_singleton.1 h)
  | cons first rest ih =>
    rw [assign] at h
    by_cases hfirst : first.1 = key
    · rw [if_pos hfirst] at h
      exact (List.mem_cons.1 h).imp_right (List.mem_cons_of_mem first)
    · rw [if_neg hfirst] at h
      rcases List.mem_cons.1 h with rfl | hrest
      · exact .inr List.mem_cons_self
      · exact (ih hrest).imp_right (List.mem_cons_of_mem first)

theorem lookup_filter_ne :
    (entries.filter fun entry => entry.1 ≠ key).lookup other =
      if other = key then none else entries.lookup other := by
  induction entries with
  | nil => exact (ite_self none).symm
  | cons entry rest ih =>
    rw [List.filter_cons, lookup_cons_eq_ite entry]
    by_cases hentry : entry.1 = key
    · rw [if_neg (by simpa using hentry), ih, hentry]
      by_cases h : other = key
      · rw [if_pos h, if_pos h]
      · rw [if_neg h, if_neg h, if_neg h]
    · rw [if_pos (by simpa using hentry), lookup_cons_eq_ite, ih]
      by_cases h : other = key
      · rw [if_pos h, if_pos h, if_neg (h ▸ Ne.symm hentry)]
      · rw [if_neg h, if_neg h]

end Assign

variable {t : Table}

theorem insert_of_ne_nil {value : Value} (h : value ≠ .nil) (key : Key) :
    t.insert key value = ⟨assign key value t.entries⟩ := by
  cases value with
  | nil => exact absurd rfl h
  | _ => rfl

/-- What is found after an assignment, nil standing for nothing. -/
theorem find?_insert (key other : Key) (value : Value) :
    ((t.insert key value).find? other).getD .nil =
      if other = key then value else (t.find? other).getD .nil := by
  by_cases hvalue : value = .nil
  · subst hvalue
    rw [insert, find?, lookup_filter_ne]
    by_cases h : other = key
    · rw [if_pos h, if_pos h]
      rfl
    · rw [if_neg h, if_neg h]
      rfl
  · rw [insert_of_ne_nil hvalue, find?, lookup_assign]
    by_cases h : other = key
    · rw [if_pos h, if_pos h]
      rfl
    · rw [if_neg h, if_neg h]
      rfl

/-! ## What is always true of the entries -/

/-- Every key is there once and as the value it stands for denotes it, and no value is nil. -/
structure Sound (t : Table) : Prop where
  nodup : (t.entries.map Prod.fst).Nodup
  folded : ∀ entry ∈ t.entries, Key.ofValue entry.1.value = .ok entry.1
  present : ∀ entry ∈ t.entries, entry.2 ≠ .nil

theorem sound_empty : empty.Sound where
  nodup := List.nodup_nil
  folded := fun _ hentry => nomatch hentry
  present := fun _ hentry => nomatch hentry

theorem Sound.insert (h : t.Sound) {key : Key} (hkey : Key.ofValue key.value = .ok key)
    (value : Value) : (t.insert key value).Sound := by
  by_cases hvalue : value = .nil
  · subst hvalue
    have hsublist : (t.insert key .nil).entries.Sublist t.entries := List.filter_sublist
    exact {
      nodup := h.nodup.sublist (hsublist.map Prod.fst)
      folded := fun entry hentry => h.folded entry (hsublist.subset hentry)
      present := fun entry hentry => h.present entry (hsublist.subset hentry) }
  · rw [insert_of_ne_nil hvalue]
    refine ⟨?_, fun entry hentry => ?_, fun entry hentry => ?_⟩
    · rw [map_fst_assign]
      by_cases hmem : key ∈ t.entries.map Prod.fst
      · rw [if_pos hmem]
        exact h.nodup
      · rw [if_neg hmem, List.nodup_append]
        refine ⟨h.nodup, List.pairwise_singleton .., fun a ha b hb hab => hmem ?_⟩
        rw [← List.mem_singleton.1 hb, ← hab]
        exact ha
    · rcases mem_assign hentry with rfl | hold
      · exact hkey
      · exact h.folded entry hold
    · rcases mem_assign hentry with rfl | hold
      · exact hvalue
      · exact h.present entry hold

theorem lookup_eq_some_iff_mem {entries : List (Key × Value)}
    (hnodup : (entries.map Prod.fst).Nodup) {key : Key} {value : Value} :
    entries.lookup key = some value ↔ (key, value) ∈ entries := by
  induction entries with
  | nil => simp
  | cons entry rest ih =>
    obtain ⟨first, held⟩ := entry
    obtain ⟨hfirst, hrest⟩ := List.nodup_cons.1 hnodup
    rw [lookup_cons_eq_ite, List.mem_cons, Prod.mk.injEq]
    by_cases h : key = first
    · subst h
      have hnot : (key, value) ∉ rest := fun hmem => hfirst (List.mem_map.2 ⟨_, hmem, rfl⟩)
      rw [if_pos rfl, Option.some.injEq]
      exact ⟨fun hvalue => .inl ⟨rfl, hvalue.symm⟩,
        fun hmem => (hmem.resolve_right hnot).2.symm⟩
    · rw [if_neg h, ih hrest]
      exact ⟨.inr, fun hmem => hmem.resolve_left fun heq => h heq.1⟩

/-- What is found under a key is its entry. -/
theorem Sound.find?_eq_some_iff (h : t.Sound) {key : Key} {value : Value} :
    t.find? key = some value ↔ (key, value) ∈ t.entries :=
  lookup_eq_some_iff_mem h.nodup

/-! ## Reading -/

theorem get_of_ok {key : Value} {denoted : Key} (h : Key.ofValue key = .ok denoted) :
    t.get key = (t.find? denoted).getD .nil := by
  rw [get, h]

theorem get_of_error {key : Value} {fault : KeyFault} (h : Key.ofValue key = .error fault) :
    t.get key = .nil := by
  rw [get, h]

/-- An entry is what its key reads as. -/
theorem Sound.get_of_mem (h : t.Sound) {entry : Key × Value} (hentry : entry ∈ t.entries) :
    t.get entry.1.value = entry.2 := by
  rw [get_of_ok (h.folded entry hentry), h.find?_eq_some_iff.2 hentry]
  rfl

/-- A key is there if it reads as something. -/
theorem Sound.mem_iff_find? (h : t.Sound) {key : Key} :
    key ∈ t.entries.map Prod.fst ↔ (t.find? key).getD .nil ≠ .nil := by
  constructor
  · intro hmem
    obtain ⟨entry, hentry, rfl⟩ := List.mem_map.1 hmem
    rw [h.find?_eq_some_iff.2 hentry]
    exact h.present entry hentry
  · intro hfound
    cases hkey : t.find? key with
    | none =>
      rw [hkey] at hfound
      exact absurd rfl hfound
    | some value => exact List.mem_map_of_mem (h.find?_eq_some_iff.1 hkey)

/-- A value is equal to one of the listed keys if it reads as something, and to none otherwise. -/
theorem Sound.countP_keys (h : t.Sound) (key : Value) :
    t.keys.countP (·.same key) = if t.get key = .nil then 0 else 1 := by
  rw [keys, List.countP_map]
  cases hkey : Key.ofValue key with
  | error fault =>
    rw [get_of_error hkey, if_pos rfl, List.countP_eq_zero]
    intro entry hentry
    rw [Function.comp_apply, Key.same_eq_false_of_error (h.folded entry hentry) hkey]
    exact Bool.false_ne_true
  | ok denoted =>
    -- The listed values equal to `key` are those whose keys are the one that it denotes.
    have hcount : t.entries.countP ((·.same key) ∘ fun entry => entry.1.value) =
        (t.entries.map Prod.fst).count denoted := by
      rw [List.count, List.countP_map]
      refine List.countP_congr fun entry hentry => ?_
      rw [Function.comp_apply, Key.same_iff_eq (h.folded entry hentry) hkey, Function.comp_apply,
        beq_iff_eq]
    rw [hcount, h.nodup.count, get_of_ok hkey]
    by_cases hnil : (t.find? denoted).getD .nil = .nil
    · rw [if_pos hnil, if_neg fun hmem => h.mem_iff_find?.1 hmem hnil]
    · rw [if_neg hnil, if_pos (h.mem_iff_find?.2 hnil)]

end Table

end JitHost
