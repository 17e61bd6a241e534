import JitHost.Proofs.Engine.Steps

/-!
# Batches of functions

The functions of one source are a batch, which an engine adds as a whole or not at all. A batch whose
functions all compile is refused exactly if a name in it is taken: defined by the engine already, or
that of a function further up in the batch (`TakenAt`). What is said then has one message for each
taken name, in the order of the batch (`IsTakenReport`). So the names of an engine's functions stay
distinct, and a source that is refused leaves no trace (`batches_atomic`). Once its code has been
written an engine refuses every source, whatever the names (`refused_untaken`).
-/

namespace JitHost

/-! ## Names that are taken -/

/-- Why the name at a place in a batch is taken: it is defined, or also stands further left. -/
inductive TakenAt (defined names : List String) (place : Nat) (name : String) : Prop where
  | defined (hname : names[place]? = some name) (hdefined : name ∈ defined)
  | repeated {earlier : Nat} (hname : names[place]? = some name) (hlt : earlier < place)
      (hearlier : names[earlier]? = some name)

/-- The places in a batch where the name is taken, in order, each with that name. -/
structure IsTakenReport (defined names : List String) (report : List (Nat × String)) : Prop where
  ordered : report.Pairwise fun a b => a.1 < b.1
  mem_iff : ∀ place name, (place, name) ∈ report ↔ TakenAt defined names place name

section

variable {defined rest : List String} {first name : String} {place : Nat}
  {report : List (Nat × String)}

@[simp] theorem not_takenAt_nil : ¬ TakenAt defined [] place name := by
  rintro (⟨hname, -⟩ | ⟨hname, -, -⟩)
  · simp at hname
  · simp at hname

@[simp] theorem takenAt_zero_iff :
    TakenAt defined (first :: rest) 0 name ↔ first = name ∧ name ∈ defined := by
  constructor
  · rintro (⟨hname, hdefined⟩ | ⟨-, hlt, -⟩)
    · exact ⟨by simpa using hname, hdefined⟩
    · exact absurd hlt (Nat.not_lt_zero _)
  · rintro ⟨rfl, hdefined⟩
    exact .defined (by simp) hdefined

/-- To the names further right the first one is as good as defined. -/
@[simp] theorem takenAt_succ_iff :
    TakenAt defined (first :: rest) (place + 1) name ↔
      TakenAt (first :: defined) rest place name := by
  constructor
  · rintro (⟨hname, hdefined⟩ | @⟨earlier, hname, hlt, hearlier⟩)
    · exact .defined (by simpa using hname) (List.mem_cons_of_mem _ hdefined)
    · -- The name further left is the first one itself or stands behind it.
      cases earlier with
      | zero =>
        obtain rfl : first = name := by simpa using hearlier
        exact .defined (by simpa using hname) List.mem_cons_self
      | succ earlier =>
        exact .repeated (by simpa using hname) (Nat.lt_of_succ_lt_succ hlt)
          (by simpa using hearlier)
  · rintro (⟨hname, hdefined⟩ | ⟨hname, hlt, hearlier⟩)
    · rcases List.mem_cons.1 hdefined with rfl | hdefined
      · exact .repeated (by simpa using hname) (Nat.succ_pos place) (by simp)
      · exact .defined (by simpa using hname) hdefined
    · exact .repeated (by simpa using hname) (Nat.succ_lt_succ hlt) (by simpa using hearlier)

/-- To define a name once more takes no other name. -/
theorem takenAt_cons_of_mem (hfirst : first ∈ defined) :
    TakenAt (first :: defined) rest place name ↔ TakenAt defined rest place name := by
  constructor
  · rintro (⟨hname, hdefined⟩ | ⟨hname, hlt, hearlier⟩)
    · rcases List.mem_cons.1 hdefined with rfl | hdefined
      · exact .defined hname hfirst
      · exact .defined hname hdefined
    · exact .repeated hname hlt hearlier
  · rintro (⟨hname, hdefined⟩ | ⟨hname, hlt, hearlier⟩)
    · exact .defined hname (List.mem_cons_of_mem _ hdefined)
    · exact .repeated hname hlt hearlier

theorem isTakenReport_nil : IsTakenReport defined [] [] := by
  constructor
  · exact List.Pairwise.nil
  · simp

/-- A report for names that stand one place further right. -/
def shifted (report : List (Nat × String)) : List (Nat × String) :=
  report.map fun entry => (entry.1 + 1, entry.2)

@[simp] theorem map_snd_shifted : (shifted report).map Prod.snd = report.map Prod.snd := by
  simp [shifted]

theorem zero_not_mem_shifted : (0, name) ∉ shifted report := by
  simp [shifted]

@[simp] theorem succ_mem_shifted_iff :
    (place + 1, name) ∈ shifted report ↔ (place, name) ∈ report := by
  simp [shifted]

theorem IsTakenReport.ordered_shifted {names : List String}
    (h : IsTakenReport defined names report) :
    (shifted report).Pairwise fun a b => a.1 < b.1 := by
  rw [shifted, List.pairwise_map]
  refine h.ordered.imp ?_
  intro a b hlt
  exact Nat.succ_lt_succ hlt

/-- A taken name comes first in the report. -/
theorem IsTakenReport.tell (h : IsTakenReport defined rest report) (hfirst : first ∈ defined) :
    IsTakenReport defined (first :: rest) ((0, first) :: shifted report) := by
  constructor
  · refine List.pairwise_cons.2 ⟨?_, h.ordered_shifted⟩
    intro entry hentry
    obtain ⟨other, -, rfl⟩ := List.mem_map.1 hentry
    exact Nat.succ_pos other.1
  · intro place name
    cases place with
    | zero =>
      rw [takenAt_zero_iff, List.mem_cons, Prod.mk.injEq]
      constructor
      · rintro (⟨-, rfl⟩ | hmem)
        · exact ⟨rfl, hfirst⟩
        · exact absurd hmem zero_not_mem_shifted
      · rintro ⟨rfl, -⟩
        exact .inl ⟨rfl, rfl⟩
    | succ place =>
      rw [takenAt_succ_iff, takenAt_cons_of_mem hfirst, ← h.mem_iff, List.mem_cons]
      simp

/-- A new name leaves the report of those further right, to which it is defined. -/
theorem IsTakenReport.pass (h : IsTakenReport (first :: defined) rest report)
    (hfirst : first ∉ defined) : IsTakenReport defined (first :: rest) (shifted report) := by
  constructor
  · exact h.ordered_shifted
  · intro place name
    cases place with
    | zero =>
      rw [takenAt_zero_iff]
      constructor
      · intro hmem
        exact absurd hmem zero_not_mem_shifted
      · rintro ⟨rfl, hdefined⟩
        exact absurd hdefined hfirst
    | succ place => rw [takenAt_succ_iff, ← h.mem_iff, succ_mem_shifted_iff]

/-- The names that an engine calls redefined are those that are taken. -/
theorem exists_takenReport (defined names : List String) :
    ∃ report, IsTakenReport defined names report ∧
      redefined defined names = report.map Prod.snd := by
  -- A name that is new counts as defined further right, so the defined names vary.
  induction names generalizing defined with
  | nil => exact ⟨[], isTakenReport_nil, rfl⟩
  | cons first rest ih =>
    rw [redefined]
    by_cases hfirst : first ∈ defined
    · obtain ⟨report, hreport, hnames⟩ := ih defined
      refine ⟨_, hreport.tell hfirst, ?_⟩
      rw [if_pos hfirst, hnames, List.map_cons, map_snd_shifted]
    · obtain ⟨report, hreport, hnames⟩ := ih (first :: defined)
      refine ⟨_, hreport.pass hfirst, ?_⟩
      rw [if_neg hfirst, hnames, map_snd_shifted]

/-- There is something to report exactly if a name is taken. -/
theorem IsTakenReport.ne_nil_iff {names : List String} (h : IsTakenReport defined names report) :
    report ≠ [] ↔ ∃ place name, TakenAt defined names place name := by
  constructor
  · intro hne
    obtain ⟨⟨place, name⟩, hmem⟩ := List.exists_mem_of_ne_nil report hne
    exact ⟨place, name, (h.mem_iff place name).1 hmem⟩
  · rintro ⟨place, name, htaken⟩
    exact List.ne_nil_of_mem ((h.mem_iff place name).2 htaken)

end

/-! ## Batches -/

/-- All functions of a source compile, and to these. -/
def FrontEnd.Compiles (frontEnd : FrontEnd) (source : String) (batch : List CompiledFunction) :
    Prop :=
  ∃ attempts, frontEnd source = .ok attempts ∧
    attempts.map FunctionAttempt.function? = batch.map some

section

variable {attempts : List FunctionAttempt} {batch : List CompiledFunction}

/-- There is nothing to say about a function that was compiled. -/
theorem FunctionAttempt.diagnostics_eq_nil {attempt : FunctionAttempt}
    (h : attempt.failed = false) : attempt.diagnostics = [] := by
  obtain ⟨name, result⟩ := attempt
  cases result with
  | ok compiled => rfl
  | error messages => cases h

theorem filterMap_function?_of_map (h : attempts.map FunctionAttempt.function? = batch.map some) :
    attempts.filterMap FunctionAttempt.function? = batch := by
  calc attempts.filterMap FunctionAttempt.function?
      = (attempts.map FunctionAttempt.function?).filterMap id := by simp
    _ = (batch.map some).filterMap id := by rw [h]
    _ = batch := by simp

/-- A batch is whole exactly if no function in it failed to compile. -/
theorem map_function?_iff : attempts.map FunctionAttempt.function? =
      (attempts.filterMap FunctionAttempt.function?).map some ↔
    attempts.filter FunctionAttempt.failed = [] := by
  induction attempts with
  | nil => simp
  | cons attempt rest ih =>
    cases hfunction : attempt.function? with
    | some function => simp [FunctionAttempt.failed, hfunction, ih]
    | none =>
      have hfailed : attempt.failed = true := by simp [FunctionAttempt.failed, hfunction]
      rw [List.filter_cons_of_pos hfailed]
      simp only [List.map_cons, List.filterMap_cons, hfunction, reduceCtorEq, iff_false]
      intro heq
      -- The first of the functions would be none.
      have hmem := congrArg (none ∈ ·) heq
      simp at hmem

end

variable {frontEnd : FrontEnd}

namespace JitEngine

/-- What becomes of a source: the attempt to compile it and the engine after it. -/
inductive Compilation (engine : JitEngine frontEnd) (source : String) :
    Attempt Unit × JitEngine frontEnd → Prop where
  | late {base : Address} (hbase : engine.base? = some base) :
      Compilation engine source (.failure .alreadyMaterialized, engine)
  | unreadable {fault : SourceFault} (hopen : engine.base? = none)
      (hread : frontEnd source = .error fault) :
      Compilation engine source (failures [.atLine fault.line fault.message] 1, engine)
  | rejected {attempts : List FunctionAttempt} {report : List (Nat × String)}
      (hopen : engine.base? = none) (hread : frontEnd source = .ok attempts)
      (hreport : IsTakenReport engine.functionNames
        ((attempts.filterMap FunctionAttempt.function?).map CompiledFunction.name) report)
      (hwrong : attempts.filter FunctionAttempt.failed ≠ [] ∨ report ≠ []) :
      Compilation engine source
        (failures (attempts.flatMap FunctionAttempt.diagnostics ++
            report.map fun entry => .redefinition entry.2)
          ((attempts.filter FunctionAttempt.failed).length + report.length), engine)
  | accepted {batch : List CompiledFunction} (hopen : engine.base? = none)
      (hbatch : frontEnd.Compiles source batch)
      (hreport : IsTakenReport engine.functionNames (batch.map CompiledFunction.name) []) :
      Compilation engine source
        (.success (), { engine with functions := engine.functions ++ batch, plan? := none })

theorem compilation (engine : JitEngine frontEnd) (source : String) :
    Compilation engine source (engine.compile source) := by
  unfold compile
  cases hopen : engine.base? with
  | some base => exact .late hopen
  | none =>
    cases hread : frontEnd source with
    | error fault => exact .unreadable hopen hread
    | ok attempts =>
      obtain ⟨report, hreport, hnames⟩ := exists_takenReport engine.functionNames
        ((attempts.filterMap FunctionAttempt.function?).map CompiledFunction.name)
      -- What went wrong is counted, and it is nothing exactly if the count is zero.
      simp only [addFunctions, hnames, List.map_map, List.length_map]
      by_cases hcount : (attempts.filter FunctionAttempt.failed).length + report.length = 0
      · obtain ⟨hfailed, hnone⟩ := Nat.add_eq_zero_iff.1 hcount
        have hwhole := map_function?_iff.2 (List.eq_nil_of_length_eq_zero hfailed)
        obtain rfl := List.eq_nil_of_length_eq_zero hnone
        rw [if_pos hcount]
        exact .accepted hopen ⟨attempts, hread, hwhole⟩ hreport
      · rw [if_neg hcount]
        refine .rejected hopen hread hreport ?_
        by_cases hfailed : attempts.filter FunctionAttempt.failed = []
        · right
          rintro rfl
          rw [hfailed] at hcount
          exact hcount rfl
        · exact .inl hfailed

/-- What it is for an engine to add functions batch by batch. -/
structure AddsBatches (engine : JitEngine frontEnd) : Prop where
  /-- No two functions have the same name. -/
  nodup : engine.functionNames.Nodup
  /-- A source that is refused leaves the engine as it was. -/
  refused : ∀ source cause, (engine.compile source).1.outcome = .error cause →
    (engine.compile source).2 = engine
  /-- One that is accepted appends its functions, all of them compiled, in silence. -/
  accepted : ∀ source, (engine.compile source).1.outcome = .ok () →
    (engine.compile source).1.diagnostics = [] ∧
      ∃ batch, frontEnd.Compiles source batch ∧ (engine.compile source).2 =
        { engine with functions := engine.functions ++ batch, plan? := none }
  /-- A batch whose functions all compile is refused exactly if a name is taken, and has one message
  for each name that is, in order. -/
  taken : engine.base? = none → ∀ source batch, frontEnd.Compiles source batch →
    ((∃ cause, (engine.compile source).1.outcome = .error cause) ↔
      ∃ place name, TakenAt engine.functionNames (batch.map CompiledFunction.name) place name) ∧
    ∃ report,
      IsTakenReport engine.functionNames (batch.map CompiledFunction.name) report ∧
      (engine.compile source).1.diagnostics =
        report.map fun entry => (Diagnostic.redefinition entry.2).text
  /-- No source is taken in once the code has been written. -/
  late : engine.base? ≠ none → ∀ source,
    (engine.compile source).1 = .failure .alreadyMaterialized

section

variable {engine : JitEngine frontEnd} {source : String} {result : Attempt Unit × JitEngine frontEnd}

theorem Compilation.eq_of_error {cause : EngineError} (h : Compilation engine source result)
    (hfailed : result.1.outcome = .error cause) : result.2 = engine := by
  cases h with
  | accepted => cases hfailed
  | _ => rfl

theorem Compilation.batch_of_ok (h : Compilation engine source result)
    (hok : result.1.outcome = .ok ()) : result.1.diagnostics = [] ∧
      ∃ batch, frontEnd.Compiles source batch ∧
        result.2 = { engine with functions := engine.functions ++ batch, plan? := none } := by
  cases h with
  | @accepted batch hopen hbatch hreport => exact ⟨rfl, batch, hbatch, rfl⟩
  | _ => cases hok

theorem Compilation.report_of_compiles {batch : List CompiledFunction}
    (h : Compilation engine source result) (hopen : engine.base? = none)
    (hbatch : frontEnd.Compiles source batch) :
    ∃ report, IsTakenReport engine.functionNames (batch.map CompiledFunction.name) report ∧
      ((∃ cause, result.1.outcome = .error cause) ↔ report ≠ []) ∧
      result.1.diagnostics = report.map fun entry => (Diagnostic.redefinition entry.2).text := by
  obtain ⟨attempts, hread, hwhole⟩ := hbatch
  have hfunctions := filterMap_function?_of_map hwhole
  cases h with
  | late hbase =>
    rw [hopen] at hbase
    cases hbase
  | unreadable _ hfault =>
    rw [hread] at hfault
    cases hfault
  | @rejected others report _ hothers hreport hwrong =>
    -- All functions compiled, so only names can be wrong and nothing else is said.
    obtain rfl : attempts = others := by simpa [hread] using hothers
    have hcompiled : attempts.filter FunctionAttempt.failed = [] := by
      rw [← map_function?_iff, hfunctions, hwhole]
    have hsilent : attempts.flatMap FunctionAttempt.diagnostics = [] := by
      refine List.flatMap_eq_nil_iff.2 fun attempt hattempt => ?_
      refine FunctionAttempt.diagnostics_eq_nil ?_
      simpa using List.filter_eq_nil_iff.1 hcompiled attempt hattempt
    rw [hfunctions] at hreport
    refine ⟨report, hreport, ?_, ?_⟩
    · constructor
      · intro _
        exact hwrong.resolve_left (not_not_intro hcompiled)
      · intro _
        exact ⟨_, rfl⟩
    · simp only [failures, hsilent, List.nil_append, List.map_map]
      rfl
  | @accepted other _ hother hreport =>
    obtain ⟨others, hothers, hwhole'⟩ := hother
    obtain rfl : attempts = others := by simpa [hread] using hothers
    obtain rfl : batch = other := by
      rw [← hfunctions, filterMap_function?_of_map hwhole']
    refine ⟨[], hreport, ?_, rfl⟩
    constructor
    · rintro ⟨cause, hcause⟩
      cases hcause
    · intro hne
      exact absurd rfl hne

theorem Compilation.eq_failure_of_written (h : Compilation engine source result)
    (hbase : engine.base? ≠ none) : result.1 = .failure .alreadyMaterialized := by
  cases h with
  | late => rfl
  | unreadable hopen => exact absurd hopen hbase
  | rejected hopen => exact absurd hopen hbase
  | accepted hopen => exact absurd hopen hbase

end

/-- Whatever was asked of it, an engine adds the functions of a source as a whole or not at all. -/
theorem batches_atomic (frontEnd : FrontEnd) (requests : List EngineRequest) :
    ((new frontEnd).after requests).AddsBatches := by
  have hnames := nodup_functionNames_after (upToDate_new frontEnd) List.nodup_nil requests
  generalize (new frontEnd).after requests = engine at hnames
  constructor
  · exact hnames
  · intro source cause hfailed
    exact (compilation engine source).eq_of_error hfailed
  · intro source hok
    exact (compilation engine source).batch_of_ok hok
  · intro hopen source batch hbatch
    obtain ⟨report, hreport, hrefused, hsaid⟩ :=
      (compilation engine source).report_of_compiles hopen hbatch
    exact ⟨hrefused.trans hreport.ne_nil_iff, report, hreport, hsaid⟩
  · intro hbase source
    exact (compilation engine source).eq_failure_of_written hbase

/-- That the engine takes sources in cannot be left out: a batch of one function with a new name is
refused after the code was written. -/
theorem refused_untaken : ¬ ∀ (frontEnd : FrontEnd) (requests : List EngineRequest) (source : String)
    (batch : List CompiledFunction), frontEnd.Compiles source batch →
      ((∃ cause, (((new frontEnd).after requests).compile source).1.outcome = .error cause) ↔
        ∃ place name, TakenAt ((new frontEnd).after requests).functionNames
          (batch.map CompiledFunction.name) place name) := by
  intro h
  have hrefused := (h (fun source => .ok [⟨source, .ok ([], [])⟩])
    [.compile "f", .fill 4096 #[]] "g" [⟨"g", [], []⟩] ⟨_, rfl, rfl⟩).1
      ⟨.alreadyMaterialized, rfl⟩
  obtain ⟨place, name, htaken⟩ := hrefused
  cases place with
  | zero =>
    obtain ⟨rfl, hdefined⟩ := takenAt_zero_iff.1 htaken
    revert hdefined
    decide
  | succ place => exact not_takenAt_nil (takenAt_succ_iff.1 htaken)

-- Of three functions two have names that are taken, one by the engine and one by the batch.
example :
    let frontEnd : FrontEnd := fun source =>
      .ok ((if source = "first" then ["f"] else ["g", "f", "g"]).map fun name =>
        ⟨name, .ok ([], [])⟩)
    (((new frontEnd).after [.compile "first"]).compile "second").1 =
      ⟨["<source>: error: redefinition of 'f'", "<source>: error: redefinition of 'g'"],
        .error (.compilationFailed 2)⟩ := by rfl

end JitEngine

end JitHost
