import JitHost.Proofs.Link.Layout

/-!
# What the names of an image stand for

A relocation refers to a function or a symbol by its name, or to a routine that the compiler calls on
its own. `NameOrder` is the order in which a name is looked up: among the functions of the image,
among the symbols that were added, the last one first, and among routines that are built in.

A plan that was built holds one target for every relocation, which is what its own check gave
(`inspect_of_target?`), and for a name this is the first that the order finds
(`resolve_symbol`). A name is reported as undefined exactly if a relocation that could be
written refers to it and finds nothing (`undefined_mem_diagnostics_iff`). Names that are added can
only help (`exists_plan_of_le`).
-/

namespace JitHost

/-! ## The last entry with a name -/

/-- A value is the one of the last entry with a name. -/
def LastEntry {β : Type} (entries : List (String × β)) (name : String) (value : β) : Prop :=
  ∃ before rest, entries = before ++ (name, value) :: rest ∧ ∀ entry ∈ rest, entry.1 ≠ name

section

variable {β : Type} {entries : List (String × β)} {name : String} {value : β}

theorem lookup_reverse_eq_some_iff :
    entries.reverse.lookup name = some value ↔ LastEntry entries name value := by
  rw [List.lookup_eq_some_iff]
  constructor
  · rintro ⟨rest, before, heq, hrest⟩
    refine ⟨before.reverse, rest.reverse, ?_, ?_⟩
    · rw [← List.reverse_reverse entries, heq]
      simp
    · intro entry hentry hname
      have hne := hrest entry (List.mem_reverse.1 hentry)
      rw [hname] at hne
      simp at hne
  · rintro ⟨before, rest, rfl, hrest⟩
    refine ⟨rest.reverse, before.reverse, by simp, ?_⟩
    intro entry hentry
    have hne := hrest entry (List.mem_reverse.1 hentry)
    exact bne_iff_ne.2 (Ne.symm hne)

theorem lookup_reverse_eq_none_iff :
    entries.reverse.lookup name = none ↔ ∀ entry ∈ entries, entry.1 ≠ name := by
  rw [List.lookup_eq_none_iff]
  constructor
  · intro h entry hentry
    exact Ne.symm (bne_iff_ne.1 (h entry (List.mem_reverse.2 hentry)))
  · intro h entry hentry
    exact bne_iff_ne.2 (Ne.symm (h entry (List.mem_reverse.1 hentry)))

/-- Where no name comes twice, every entry is the last one with its name. -/
theorem lastEntry_iff_mem (hnames : (entries.map Prod.fst).Nodup) :
    LastEntry entries name value ↔ (name, value) ∈ entries := by
  constructor
  · rintro ⟨before, rest, rfl, -⟩
    simp
  · intro hmem
    obtain ⟨before, rest, rfl⟩ := List.append_of_mem hmem
    refine ⟨before, rest, rfl, ?_⟩
    intro entry hentry hname
    rw [List.map_append, List.map_cons] at hnames
    -- The names behind the entry are all different from its own.
    have hrest := (List.nodup_cons.1 (List.nodup_append.1 hnames).2.1).1
    have hmem : entry.1 ∈ rest.map Prod.fst := List.mem_map_of_mem hentry
    rw [hname] at hmem
    exact hrest hmem

end

section

variable {ε α : Type} {found? : Option α} {e : ε}

/-- What is found is answered, and otherwise an error. -/
theorem elim_eq_ok_iff {a : α} : found?.elim (.error e) .ok = Except.ok a ↔ found? = some a := by
  cases found? with
  | none => simp
  | some found => simp

theorem elim_eq_error_iff {other : ε} :
    found?.elim (.error e) .ok = Except.error other ↔ found? = none ∧ e = other := by
  cases found? with
  | none => simp
  | some found => simp

end

namespace Plan

/-! ## The functions of an image -/

/-- Functions with their starts in an image. -/
def placed (functions : List CompiledFunction) : List (CompiledFunction × Nat) :=
  functions.zip (startsFrom 0 functions)

theorem map_fst_placed (functions : List CompiledFunction) :
    (placed functions).map Prod.fst = functions :=
  List.map_fst_zip (Nat.le_of_eq (length_startsFrom functions 0).symm)

theorem symbolsOf_eq_map (functions : List CompiledFunction) :
    symbolsOf functions = (placed functions).map fun entry => (entry.1.name, entry.2) := by
  unfold symbolsOf placed
  rw [List.zip_map_left]
  rfl

theorem map_fst_symbolsOf (functions : List CompiledFunction) :
    (symbolsOf functions).map Prod.fst = functions.map CompiledFunction.name := by
  rw [symbolsOf_eq_map, List.map_map, ← congrArg (List.map CompiledFunction.name)
    (map_fst_placed functions), List.map_map]
  rfl

/-- If no name is given twice, the offset of a name is the start of the function with the name. -/
theorem lastOffset?_symbolsOf_eq_some_iff {functions : List CompiledFunction}
    (hnames : (functions.map CompiledFunction.name).Nodup) {name : String} {start : Nat} :
    lastOffset? (symbolsOf functions) name = some start ↔
      ∃ entry ∈ placed functions, entry.1.name = name ∧ entry.2 = start := by
  unfold lastOffset?
  rw [lookup_reverse_eq_some_iff, lastEntry_iff_mem (by rw [map_fst_symbolsOf]; exact hnames),
    symbolsOf_eq_map, List.mem_map]
  simp only [Prod.mk.injEq]

theorem lastOffset?_symbolsOf_eq_none_iff {functions : List CompiledFunction} {name : String} :
    lastOffset? (symbolsOf functions) name = none ↔
      ∀ function ∈ functions, function.name ≠ name := by
  unfold lastOffset?
  rw [lookup_reverse_eq_none_iff]
  constructor
  · intro h function hfunction hname
    have hmem : function.name ∈ (symbolsOf functions).map Prod.fst := by
      rw [map_fst_symbolsOf]
      exact List.mem_map_of_mem hfunction
    obtain ⟨entry, hentry, heq⟩ := List.mem_map.1 hmem
    exact h entry hentry (heq.trans hname)
  · intro h entry hentry hname
    have hmem : entry.1 ∈ functions.map CompiledFunction.name := by
      rw [← map_fst_symbolsOf]
      exact List.mem_map_of_mem hentry
    obtain ⟨function, hfunction, heq⟩ := List.mem_map.1 hmem
    exact h function hfunction (heq.trans hname)

/-! ## The order -/

/-- The order in which a name is looked up: what is found first, if anything is. -/
inductive NameOrder (functions : List CompiledFunction) (added : List (String × Address))
    (routine? : String → Option Address) (name : String) : Option ResolvedTarget → Prop where
  /-- A function of the image has the name, -/
  | defined {entry : CompiledFunction × Nat} (hentry : entry ∈ placed functions)
      (hname : entry.1.name = name) :
      NameOrder functions added routine? name (some (.inside entry.2))
  /-- or else a symbol was added under it, -/
  | added {address : Address} (hundefined : ∀ function ∈ functions, function.name ≠ name)
      (hlast : LastEntry added name address) :
      NameOrder functions added routine? name (some (.outside address))
  /-- or else a routine of that name is built in, -/
  | routine {address : Address} (hundefined : ∀ function ∈ functions, function.name ≠ name)
      (hnone : ∀ symbol ∈ added, symbol.1 ≠ name) (hroutine : routine? name = some address) :
      NameOrder functions added routine? name (some (.outside address))
  /-- or else there is nothing. -/
  | missing (hundefined : ∀ function ∈ functions, function.name ≠ name)
      (hnone : ∀ symbol ∈ added, symbol.1 ≠ name) (hroutine : routine? name = none) :
      NameOrder functions added routine? name none

/-- The order as a search. -/
def firstFound? (functions : List CompiledFunction) (added : List (String × Address))
    (routine? : String → Option Address) (name : String) : Option ResolvedTarget :=
  ((lastOffset? (symbolsOf functions) name).map .inside).or
    (((added.reverse.lookup name).or (routine? name)).map .outside)

section

variable {functions : List CompiledFunction} {added : List (String × Address)}
  {routine? : String → Option Address} {name : String}

/-- Where no name is given twice, the order finds one thing. -/
theorem nameOrder_iff (hnames : (functions.map CompiledFunction.name).Nodup)
    {target? : Option ResolvedTarget} :
    NameOrder functions added routine? name target? ↔
      target? = firstFound? functions added routine? name := by
  unfold firstFound?
  constructor
  · intro h
    cases h with
    | defined hentry hname =>
      have hoffset := (lastOffset?_symbolsOf_eq_some_iff hnames).2 ⟨_, hentry, hname, rfl⟩
      rw [hoffset]
      rfl
    | added hundefined hlast =>
      rw [lastOffset?_symbolsOf_eq_none_iff.2 hundefined, lookup_reverse_eq_some_iff.2 hlast]
      rfl
    | routine hundefined hnone hroutine =>
      rw [lastOffset?_symbolsOf_eq_none_iff.2 hundefined, lookup_reverse_eq_none_iff.2 hnone,
        hroutine]
      rfl
    | missing hundefined hnone hroutine =>
      rw [lastOffset?_symbolsOf_eq_none_iff.2 hundefined, lookup_reverse_eq_none_iff.2 hnone,
        hroutine]
      rfl
  · rintro rfl
    cases hoffset : lastOffset? (symbolsOf functions) name with
    | some start =>
      obtain ⟨entry, hentry, hname, rfl⟩ := (lastOffset?_symbolsOf_eq_some_iff hnames).1 hoffset
      exact .defined hentry hname
    | none =>
      have hundefined := lastOffset?_symbolsOf_eq_none_iff.1 hoffset
      cases hadded : added.reverse.lookup name with
      | some address => exact .added hundefined (lookup_reverse_eq_some_iff.1 hadded)
      | none =>
        have hnone := lookup_reverse_eq_none_iff.1 hadded
        cases hroutine : routine? name with
        | some address => exact .routine hundefined hnone hroutine
        | none => exact .missing hundefined hnone hroutine

variable {external : RelocationTarget → Option Address} {start : Nat} {target : ResolvedTarget}

/-- A reference by name goes by the order without built-in routines. -/
theorem resolve_symbol (hexternal : external (.symbol name) = added.reverse.lookup name) :
    resolve (symbolsOf functions) external start (.symbol name) =
      (firstFound? functions added (fun _ => none) name).elim (.error (.undefined name)) .ok := by
  unfold firstFound?
  simp only [resolve, hexternal, Option.or_none]
  cases lastOffset? (symbolsOf functions) name with
  | some offset => rfl
  | none => cases added.reverse.lookup name <;> rfl

/-- A call of a routine goes by the order without functions. -/
theorem resolve_routine
    (hexternal : external (.routine name) = (added.reverse.lookup name).or (routine? name)) :
    resolve (symbolsOf functions) external start (.routine name) =
      (firstFound? [] added routine? name).elim (.error (.undefined name)) .ok := by
  have hempty : lastOffset? (symbolsOf []) name = none := rfl
  unfold firstFound?
  simp only [resolve, hexternal, hempty, Option.map_none, Option.none_or]
  cases (added.reverse.lookup name).or (routine? name) <;> rfl

end

/-! ## The check of a relocation -/

end Plan

/-- A relocation can be written: its kind can, and its site lies in the function's own code. -/
def CompiledFunction.CanPatch (function : CompiledFunction) (r : Relocation) : Prop :=
  ∃ width, r.kind.width? = some width ∧ r.offset + width ≤ function.code.length

namespace Plan

section

variable {symbols : List (String × Nat)} {external : RelocationTarget → Option Address}
  {function : CompiledFunction} {start : Nat} {r : Relocation}

theorem inspect_of_canPatch (h : function.CanPatch r) :
    inspect symbols external function start r = resolve symbols external start r.target := by
  obtain ⟨width, hwidth, hfits⟩ := h
  have hinside : ¬ function.code.length < r.offset + width := Nat.not_lt.2 hfits
  simp only [inspect, hwidth, if_neg hinside]

theorem exists_inspect_eq_error (h : ¬ function.CanPatch r) :
    ∃ problem, inspect symbols external function start r = .error problem ∧
      problem.missing? = none := by
  unfold inspect
  cases hwidth : r.kind.width? with
  | none => exact ⟨_, rfl, rfl⟩
  | some width =>
    have houtside : function.code.length < r.offset + width :=
      Nat.not_le.1 fun hfits => h ⟨width, hwidth, hfits⟩
    simp only [if_pos houtside]
    exact ⟨_, rfl, rfl⟩

theorem inspect_eq_ok_iff {target : ResolvedTarget} :
    inspect symbols external function start r = .ok target ↔
      function.CanPatch r ∧ resolve symbols external start r.target = .ok target := by
  by_cases hcan : function.CanPatch r
  · rw [inspect_of_canPatch hcan]
    exact ⟨fun h => ⟨hcan, h⟩, fun h => h.2⟩
  · obtain ⟨problem, hproblem, -⟩ := exists_inspect_eq_error hcan
    rw [hproblem]
    exact ⟨fun h => (nomatch h), fun h => absurd h.1 hcan⟩

/-- A name is found undefined at a relocation that can be written. -/
theorem inspect_eq_undefined_iff {name : String} :
    inspect symbols external function start r = .error (.undefined name) ↔
      function.CanPatch r ∧
        resolve symbols external start r.target = .error (.undefined name) := by
  by_cases hcan : function.CanPatch r
  · rw [inspect_of_canPatch hcan]
    exact ⟨fun h => ⟨hcan, h⟩, fun h => h.2⟩
  · obtain ⟨problem, hproblem, hmissing⟩ := exists_inspect_eq_error hcan
    rw [hproblem]
    constructor
    · intro h
      cases h
      cases hmissing
    · exact fun h => absurd h.1 hcan

/-- What is found stays found when more is known outside. -/
theorem exists_resolve_of_le {more : RelocationTarget → Option Address}
    (hmore : ∀ target, (external target).isSome = true → (more target).isSome = true)
    {target : RelocationTarget} {resolved : ResolvedTarget}
    (h : resolve symbols external start target = .ok resolved) :
    ∃ found, resolve symbols more start target = .ok found := by
  have hknown : ∀ {address : Address}, external target = some address →
      ∃ known, more target = some known := by
    intro address haddress
    exact Option.isSome_iff_exists.1 (hmore target (by rw [haddress]; rfl))
  cases target with
  | here offset => exact ⟨_, rfl⟩
  | symbol name =>
    simp only [resolve] at h ⊢
    cases hoffset : lastOffset? symbols name with
    | some offset => exact ⟨_, rfl⟩
    | none =>
      cases haddress : external (.symbol name) with
      | none =>
        rw [hoffset, haddress] at h
        cases h
      | some address =>
        obtain ⟨known, hmoreKnown⟩ := hknown haddress
        exact ⟨.outside known, by rw [hmoreKnown]⟩
  | routine name =>
    simp only [resolve] at h ⊢
    cases haddress : external (.routine name) with
    | none =>
      rw [haddress] at h
      cases h
    | some address =>
      obtain ⟨known, hmoreKnown⟩ := hknown haddress
      exact ⟨.outside known, by rw [hmoreKnown]⟩

end

/-! ## The targets of a plan -/

/-- The target that a plan holds for a relocation: the `i`-th one of the `k`-th function. -/
def target? (plan : Plan) (k i : Nat) : Option ResolvedTarget :=
  plan.targets[k]?.bind fun targets => targets[i]?

/-- Results without problems are all targets. -/
theorem map_ok_targetsOf {results : List (Except LinkProblem ResolvedTarget)}
    (h : problemsOf results = []) : (targetsOf results).map .ok = results := by
  induction results with
  | nil => rfl
  | cons result rest ih =>
    cases result with
    | error problem => simp [problemsOf] at h
    | ok target =>
      have hrest : problemsOf rest = [] := by simpa [problemsOf] using h
      have htargets : targetsOf (.ok target :: rest) = target :: targetsOf rest := by
        simp [targetsOf]
      rw [htargets, List.map_cons, ih hrest]

section

variable {functions : List CompiledFunction} {external : RelocationTarget → Option Address}

/-- A plan that was built holds for every relocation the target that its own check gave. -/
theorem inspect_of_target? {plan : Plan} (hbuild : (build functions external).outcome = .ok plan)
    {k i : Nat} {function : CompiledFunction} {r : Relocation}
    (hfunction : functions[k]? = some function) (hr : function.relocations[i]? = some r) :
    ∃ start target, plan.starts[k]? = some start ∧ plan.target? k i = some target ∧
      inspect (symbolsOf functions) external function start r = .ok target := by
  obtain ⟨rfl, hproblems⟩ := build_eq_ok hbuild
  have hk : k < (startsFrom 0 functions).length := by
    rw [length_startsFrom]
    exact (List.getElem?_eq_some_iff.1 hfunction).1
  have hstart := List.getElem?_eq_getElem hk
  have hentry : (functions.zip (startsFrom 0 functions))[k]? =
      some (function, (startsFrom 0 functions)[k]) :=
    List.getElem?_zip_eq_some.2 ⟨hfunction, hstart⟩
  -- The targets of the function are its results, one by one.
  have hresults := map_ok_targetsOf (hproblems _ (List.mem_of_getElem? hentry))
  have hresult := congrArg (fun results => results[i]?) hresults
  simp only [List.getElem?_map, hr, Option.map_some] at hresult
  obtain ⟨target, htarget, hok⟩ := Option.map_eq_some_iff.1 hresult
  refine ⟨_, target, hstart, ?_, hok.symm⟩
  simp only [target?, List.getElem?_map, hentry, Option.map_some, Option.bind_some]
  exact htarget

/-- Functions can be linked if and only if every relocation passes its check. -/
theorem exists_plan_iff : (∃ plan, (build functions external).outcome = .ok plan) ↔
    ∀ entry ∈ placed functions, ∀ r ∈ entry.1.relocations,
      ∃ target, inspect (symbolsOf functions) external entry.1 entry.2 r = .ok target := by
  constructor
  · rintro ⟨plan, hplan⟩ entry hentry r hr
    obtain ⟨target, -, hok⟩ := exists_mem_zip_targetsOf ((build_eq_ok hplan).2 entry hentry) hr
    exact ⟨target, hok⟩
  · intro h
    have hnone : (((placed functions).map fun entry => entry.1.relocations.map
        (inspect (symbolsOf functions) external entry.1 entry.2)).flatMap problemsOf) = [] := by
      rw [List.flatMap_eq_nil_iff, List.forall_mem_map]
      intro entry hentry
      unfold problemsOf
      rw [List.filterMap_eq_nil_iff, List.forall_mem_map]
      intro r hr
      obtain ⟨target, hok⟩ := h entry hentry r hr
      rw [hok]
    refine ⟨_, if_pos ?_⟩
    exact congrArg (LinkProblem.distinct []) hnone

end

/-! ## Reports -/

theorem distinct_cons_of_missing? {problem : LinkProblem} (h : problem.missing? = none)
    (seen : List String) (rest : List LinkProblem) :
    LinkProblem.distinct seen (problem :: rest) = problem :: LinkProblem.distinct seen rest := by
  cases problem with
  | undefined name => cases h
  | unsupported kind function place => rfl
  | misplaced kind function offset place => rfl

/-- A problem is told unless it misses a name that was told before. -/
theorem mem_distinct_iff {seen : List String} {problems : List LinkProblem}
    {problem : LinkProblem} : problem ∈ LinkProblem.distinct seen problems ↔
      problem ∈ problems ∧ ∀ name ∈ seen, problem ≠ .undefined name := by
  induction problems generalizing seen with
  | nil => simp [LinkProblem.distinct]
  | cons first rest ih =>
    cases hmissing : first.missing? with
    | none =>
      rw [distinct_cons_of_missing? hmissing, List.mem_cons, List.mem_cons, ih]
      constructor
      · rintro (rfl | ⟨hmem, hnew⟩)
        · refine ⟨.inl rfl, ?_⟩
          rintro name - rfl
          cases hmissing
        · exact ⟨.inr hmem, hnew⟩
      · rintro ⟨rfl | hmem, hnew⟩
        · exact .inl rfl
        · exact .inr ⟨hmem, hnew⟩
    | some name =>
      obtain rfl : first = .undefined name := by
        cases first <;> cases hmissing
        rfl
      rw [LinkProblem.distinct]
      by_cases hseen : name ∈ seen
      · rw [if_pos hseen, ih, List.mem_cons]
        constructor
        · rintro ⟨hmem, hnew⟩
          exact ⟨.inr hmem, hnew⟩
        · rintro ⟨rfl | hmem, hnew⟩
          · exact absurd rfl (hnew name hseen)
          · exact ⟨hmem, hnew⟩
      · rw [if_neg hseen, List.mem_cons, List.mem_cons, ih]
        constructor
        · rintro (rfl | ⟨hmem, hnew⟩)
          · refine ⟨.inl rfl, ?_⟩
            rintro other hother heq
            cases heq
            exact hseen hother
          · exact ⟨.inr hmem, (List.forall_mem_cons.1 hnew).2⟩
        · rintro ⟨hmem, hnew⟩
          by_cases hfirst : problem = .undefined name
          · exact .inl hfirst
          · exact .inr ⟨hmem.resolve_left hfirst, List.forall_mem_cons.2 ⟨hfirst, hnew⟩⟩

/-- The diagnostic for an undefined name is that of no other problem. -/
theorem message_eq_undefined_iff {problem : LinkProblem} {name : String} :
    problem.message = (LinkProblem.undefined name).message ↔ problem = .undefined name := by
  constructor
  · intro h
    cases problem with
    | undefined other =>
      unfold LinkProblem.message at h
      rw [String.append_left_inj, String.append_right_inj] at h
      rw [h]
    | unsupported kind function place =>
      -- The third characters tell the messages apart.
      unfold LinkProblem.message at h
      generalize kind.text = text at h
      have hthird := congrArg (fun text : String => text.toList[2]?) h
      simp [String.toList_append] at hthird
    | misplaced kind function offset place =>
      unfold LinkProblem.message at h
      generalize kind.text = text at h
      generalize Text.hex offset = digits at h
      have hthird := congrArg (fun text : String => text.toList[2]?) h
      simp [String.toList_append] at hthird
  · rintro rfl
    rfl

section

variable {functions : List CompiledFunction} {external : RelocationTarget → Option Address}

/-- A name is reported if and only if some relocation misses it. -/
theorem undefined_mem_diagnostics_iff {name : String} :
    (LinkProblem.undefined name).message ∈ (build functions external).diagnostics ↔
      ∃ entry ∈ placed functions, ∃ r ∈ entry.1.relocations, entry.1.CanPatch r ∧
        resolve (symbolsOf functions) external entry.2 r.target = .error (.undefined name) := by
  have hdiagnostics : (build functions external).diagnostics =
      (LinkProblem.distinct [] (((placed functions).map fun entry => entry.1.relocations.map
        (inspect (symbolsOf functions) external entry.1 entry.2)).flatMap problemsOf)).map
          LinkProblem.message := rfl
  rw [hdiagnostics, List.mem_map]
  simp only [message_eq_undefined_iff, exists_eq_right, mem_distinct_iff, List.not_mem_nil,
    false_implies, implies_true, and_true]
  constructor
  · intro hproblem
    obtain ⟨results, hresults, hproblem⟩ := List.mem_flatMap.1 hproblem
    obtain ⟨entry, hentry, rfl⟩ := List.mem_map.1 hresults
    obtain ⟨result, hresult, hsome⟩ := List.mem_filterMap.1 hproblem
    obtain ⟨r, hr, rfl⟩ := List.mem_map.1 hresult
    refine ⟨entry, hentry, r, hr, inspect_eq_undefined_iff.1 ?_⟩
    cases hinspect : inspect (symbolsOf functions) external entry.1 entry.2 r with
    | ok target =>
      rw [hinspect] at hsome
      cases hsome
    | error problem =>
      rw [hinspect] at hsome
      cases hsome
      rfl
  · rintro ⟨entry, hentry, r, hr, hmissing⟩
    refine List.mem_flatMap.2 ⟨_, List.mem_map_of_mem hentry, ?_⟩
    refine List.mem_filterMap.2 ⟨_, List.mem_map_of_mem hr, ?_⟩
    rw [inspect_eq_undefined_iff.2 hmissing]

/-- Names that are known besides do not make functions impossible to link. -/
theorem exists_plan_of_le {more : RelocationTarget → Option Address}
    (hmore : ∀ target, (external target).isSome = true → (more target).isSome = true)
    (h : ∃ plan, (build functions external).outcome = .ok plan) :
    ∃ plan, (build functions more).outcome = .ok plan := by
  rw [exists_plan_iff] at h ⊢
  intro entry hentry r hr
  obtain ⟨target, hok⟩ := h entry hentry r hr
  obtain ⟨hcan, hresolved⟩ := inspect_eq_ok_iff.1 hok
  obtain ⟨found, hfound⟩ := exists_resolve_of_le hmore hresolved
  exact ⟨found, inspect_eq_ok_iff.2 ⟨hcan, hfound⟩⟩

end

end Plan

end JitHost
