import JitHost.Proofs.Engine.Steps

/-!
# Which symbols an engine shows

An engine shows where its functions lie once their code has been written, as long as it has a plan at
hand (`symbol?_eq_some_iff`). After that it takes no more sources and writes no more code, so its
functions stay what they are (`Written`). But a symbol that is added drops the plan, and all functions
are hidden until the size is asked for again (`symbols_shown_unless_hidden`, `symbols_lost`).
-/

namespace JitHost

/-- A symbol was added, and the size has not been asked for since. -/
def EngineRequest.HidesSymbols (requests : List EngineRequest) : Prop :=
  ∃ before name address rest, requests = before ++ .addSymbol name address :: rest ∧
    EngineRequest.imageSize ∉ rest

namespace EngineRequest

theorem hidesSymbols_addSymbol {name : String} {address : Address} {rest : List EngineRequest} :
    HidesSymbols (.addSymbol name address :: rest) ↔ imageSize ∉ rest ∨ HidesSymbols rest := by
  constructor
  · rintro ⟨before, other, place, behind, heq, hnone⟩
    cases before with
    | nil =>
      cases heq
      exact .inl hnone
    | cons first before =>
      cases heq
      exact .inr ⟨before, other, place, behind, rfl, hnone⟩
  · rintro (hnone | ⟨before, other, place, behind, rfl, hnone⟩)
    · exact ⟨[], name, address, rest, rfl, hnone⟩
    · exact ⟨.addSymbol name address :: before, other, place, behind, rfl, hnone⟩

/-- Only a symbol that is added can hide anything. -/
theorem hidesSymbols_cons {request : EngineRequest} {rest : List EngineRequest}
    (hrequest : request.added = []) : HidesSymbols (request :: rest) ↔ HidesSymbols rest := by
  constructor
  · rintro ⟨before, name, address, behind, heq, hnone⟩
    cases before with
    | nil =>
      cases heq
      cases hrequest
    | cons first before =>
      cases heq
      exact ⟨before, name, address, behind, rfl, hnone⟩
  · rintro ⟨before, name, address, behind, rfl, hnone⟩
    exact ⟨request :: before, name, address, behind, rfl, hnone⟩

end EngineRequest

variable {frontEnd : FrontEnd}

namespace JitEngine

open Plan

variable {engine next : JitEngine frontEnd} {place : Address}

/-- The symbols of an engine that has written its code and has a plan at hand are its functions. -/
theorem symbol?_eq_some_iff (h : engine.UpToDate) (hnames : engine.functionNames.Nodup)
    (hbase : engine.base? = some place) {plan : Plan} (hplan : engine.plan? = some plan)
    {name : String} {address : Address} : engine.symbol? name = some address ↔
      ∃ entry ∈ placed engine.functions, entry.1.name = name ∧
        address = place.after entry.2 := by
  have hsymbols : plan.symbols = symbolsOf engine.functions := by
    have hbuild : (build engine.functions engine.external).outcome = .ok plan := by
      rw [h plan hplan]
      rfl
    rw [(build_eq_ok hbuild).1]
  have hsymbol : engine.symbol? name =
      (lastOffset? (symbolsOf engine.functions) name).map place.after := by
    simp only [symbol?, hbase, hplan, symbolOffset?, hsymbols, Option.bind_eq_bind,
      Option.bind_some]
    cases lastOffset? (symbolsOf engine.functions) name <;> rfl
  rw [hsymbol, Option.map_eq_some_iff]
  constructor
  · rintro ⟨start, hstart, rfl⟩
    obtain ⟨entry, hentry, hname, rfl⟩ := (lastOffset?_symbolsOf_eq_some_iff hnames).1 hstart
    exact ⟨entry, hentry, hname, rfl⟩
  · rintro ⟨entry, hentry, hname, rfl⟩
    exact ⟨entry.2, (lastOffset?_symbolsOf_eq_some_iff hnames).2 ⟨entry, hentry, hname, rfl⟩, rfl⟩

/-- Without a plan no function has an address. -/
theorem symbol?_eq_none (hplan : engine.plan? = none) (name : String) :
    engine.symbol? name = none := by
  simp only [symbol?, hplan, Option.bind_eq_bind, Option.bind_none]
  cases engine.base? <;> rfl

/-- An engine has written the code of its functions to a place, and could plan it again. -/
structure Written (engine : JitEngine frontEnd) (functions : List CompiledFunction)
    (place : Address) : Prop where
  functions_eq : engine.functions = functions
  base : engine.base? = some place
  linkable : ∃ plan, (build functions engine.external).outcome = .ok plan

/-- Symbols that are added do not take others away. -/
theorem isSome_external_addSymbol {name : String} {address : Address} {target : RelocationTarget}
    (h : (engine.external target).isSome = true) :
    ((engine.addSymbol name address).external target).isSome = true := by
  have hlookup : ∀ other, (engine.imports.lookup other).isSome = true →
      (((name, address) :: engine.imports).lookup other).isSome = true := by
    intro other hother
    rw [List.lookup_cons]
    cases other == name with
    | true => rfl
    | false => exact hother
  cases target with
  | symbol other => exact hlookup other h
  | routine other =>
    have hcases : ∀ {known? : Option Address}, ((known? <|> Routine.address? other).isSome = true) ↔
        known?.isSome = true ∨ (Routine.address? other).isSome = true := by
      intro known?
      cases known? with
      | none => simp
      | some known => simp
    refine hcases.2 ?_
    rcases hcases.1 h with h | h
    · exact .inl (hlookup other h)
    · exact .inr h
  | here offset => cases h

/-- What has been written stays, and only a request for the size or a symbol touches the plan. -/
theorem Written.step {functions : List CompiledFunction} {request : EngineRequest}
    {response : EngineResponse} (h : Written engine functions place)
    (hstep : Step engine request response next) :
    Written next functions place ∧
      (next.plan?.isSome = true ↔
        request = .imageSize ∨ request.added = [] ∧ engine.plan?.isSome = true) := by
  obtain ⟨rfl, hbase, hlinkable⟩ := h
  cases hstep with
  | rejected hfailed => exact ⟨⟨rfl, hbase, hlinkable⟩, by simp [EngineRequest.added]⟩
  | full hfull => exact ⟨⟨rfl, hbase, hlinkable⟩, by simp [EngineRequest.added]⟩
  | @added name address =>
    refine ⟨⟨rfl, hbase, ?_⟩, by simp [EngineRequest.added]⟩
    -- What could be linked before can be linked with one more symbol.
    exact exists_plan_of_le (fun target => isSome_external_addSymbol) hlinkable
  | sized hplan => exact ⟨⟨rfl, hbase, hlinkable⟩, by simp⟩
  | unsized hplan hfailed =>
    obtain ⟨plan, hbuilt⟩ := hlinkable
    rw [hbuilt] at hplan
    cases hplan
  | accepted hopen | filled hopen | unlinked hopen | unwritten hopen =>
    rw [hopen] at hbase
    cases hbase

/-- Whether an engine that has written its code has a plan at hand can be read off the requests. -/
theorem Written.after {functions : List CompiledFunction} (h : Written engine functions place)
    (hupToDate : engine.UpToDate) (requests : List EngineRequest) :
    Written (engine.after requests) functions place ∧
      ((engine.after requests).plan?.isSome = true ↔ ¬ EngineRequest.HidesSymbols requests ∧
        (engine.plan?.isSome = true ∨ EngineRequest.imageSize ∈ requests)) := by
  induction requests generalizing engine with
  | nil =>
    refine ⟨h, ?_⟩
    have hvisible : ¬ EngineRequest.HidesSymbols [] := by
      rintro ⟨before, name, address, rest, heq, -⟩
      exact absurd heq (by simp)
    simp [hvisible, JitEngine.after]
  | cons request rest ih =>
    obtain ⟨hnext, hplan⟩ := h.step (hupToDate.step_perform request)
    obtain ⟨hafter, hrest⟩ := ih hnext (hupToDate.perform request)
    refine ⟨hafter, ?_⟩
    rw [JitEngine.after, hrest, hplan]
    -- Only a symbol takes the plan away, and only the size brings it back.
    cases request with
    | addSymbol name address =>
      rw [EngineRequest.hidesSymbols_addSymbol]
      simp only [EngineRequest.added, reduceCtorEq, List.cons_ne_nil, false_and, or_self, false_or,
        List.mem_cons, not_or, Classical.not_not]
      constructor
      · rintro ⟨hshown, hsize⟩
        exact ⟨⟨hsize, hshown⟩, .inr hsize⟩
      · rintro ⟨⟨hsize, hshown⟩, -⟩
        exact ⟨hshown, hsize⟩
    | imageSize =>
      rw [EngineRequest.hidesSymbols_cons rfl]
      simp
    | compile source | fill place buffer =>
      rw [EngineRequest.hidesSymbols_cons rfl]
      simp [EngineRequest.added]

/-- An engine whose fill succeeded has written its code, and has the plan of it at hand. -/
theorem UpToDate.written_of_fill (h : engine.UpToDate) {buffer : Array UInt8}
    (hfilled : (engine.fill place buffer).1.outcome = .ok ()) :
    Written (engine.fill place buffer).2.2 engine.functions place ∧
      (engine.fill place buffer).2.2.plan?.isSome = true := by
  have hstep := h.step_fill place buffer
  generalize engine.fill place buffer = answer at hfilled hstep ⊢
  obtain ⟨attempt, bytes, next⟩ := answer
  simp only at hfilled hstep ⊢
  cases hstep with
  | filled hopen hplan hwritten => exact ⟨⟨rfl, rfl, _, congrArg Attempt.outcome hplan⟩, rfl⟩
  | full hbase => cases hfilled
  | unlinked hopen hplan hfailed | unwritten hopen hplan hwritten hfailed =>
    rw [hfailed] at hfilled
    cases hfilled

/-- When the code of an engine has been written to a place, its functions lie from there on as they are
laid out and nothing else is shown, whatever is asked of it later, unless a symbol was added: then
nothing at all is shown until the size is asked for. -/
theorem symbols_shown_unless_hidden (frontEnd : FrontEnd) (before : List EngineRequest)
    (place : Address) (buffer : Array UInt8)
    (hfilled : (((new frontEnd).after before).fill place buffer).1.outcome = .ok ())
    (later : List EngineRequest) (name : String) :
    (EngineRequest.HidesSymbols later →
      ((((new frontEnd).after before).fill place buffer).2.2.after later).symbol? name = none) ∧
    (¬ EngineRequest.HidesSymbols later → ∀ address,
      ((((new frontEnd).after before).fill place buffer).2.2.after later).symbol? name =
        some address ↔
      ∃ entry ∈ placed ((new frontEnd).accepted before), entry.1.name = name ∧
        address = place.after entry.2) := by
  have hnew := upToDate_new frontEnd
  have hbefore := hnew.after before
  have hnames := nodup_functionNames_after hnew List.nodup_nil before
  have hfunctions : ((new frontEnd).after before).functions =
      (new frontEnd).accepted before := functions_after hnew before
  rw [← hfunctions]
  unfold functionNames at hnames
  obtain ⟨hwritten, hplanned⟩ := hbefore.written_of_fill hfilled
  have hupToDate := (hbefore.fill place buffer).after later
  obtain ⟨hkept, hplan⟩ := hwritten.after (hbefore.fill place buffer) later
  rw [hplanned] at hplan
  generalize (((new frontEnd).after before).fill place buffer).2.2.after later = engine at *
  constructor
  · intro hhidden
    refine symbol?_eq_none ?_ name
    cases hnone : engine.plan? with
    | none => rfl
    | some plan => exact absurd hhidden (hplan.1 (by rw [hnone]; rfl)).1
  · intro hshown address
    obtain ⟨plan, hplan⟩ := Option.isSome_iff_exists.1 (hplan.2 ⟨hshown, .inl rfl⟩)
    rw [← hkept.functions_eq] at hnames ⊢
    exact symbol?_eq_some_iff hupToDate hnames hkept.base hplan

/-- A front end that makes one function of every source. -/
def constant : FrontEnd := fun _ => .ok [⟨"f", .ok ([0x90, 0xc3], [])⟩]

theorem symbols_shown_unless_hidden_constant :
    (((new constant).after [.compile ""]).fill 4096 #[0, 0]).1.outcome = .ok () ∧
    ¬ EngineRequest.HidesSymbols [.addSymbol "g" 8, .imageSize] ∧
    ((((new constant).after [.compile ""]).fill 4096 #[0, 0]).2.2.after
      [.addSymbol "g" 8, .imageSize]).symbol? "f" = some 4096 := by
  have hshown : ¬ EngineRequest.HidesSymbols [.addSymbol "g" 8, .imageSize] := by
    rw [EngineRequest.hidesSymbols_addSymbol, EngineRequest.hidesSymbols_cons rfl]
    rintro (hnone | ⟨before, name, address, rest, heq, -⟩)
    · exact hnone List.mem_cons_self
    · exact absurd heq (by simp)
  refine ⟨rfl, hshown, ?_⟩
  have h := symbols_shown_unless_hidden constant [.compile ""] 4096 #[0, 0] rfl
    [.addSymbol "g" 8, .imageSize] "f"
  exact (h.2 hshown 4096).2 ⟨_, List.mem_singleton_self _, rfl, rfl⟩

/-- A symbol that is added to an engine hides a function whose code lies there, although the code is
written and no source can be added any more. -/
theorem symbols_lost :
    ∃ function ∈ (new constant).accepted [.compile ""],
      (((new constant).after [.compile ""]).fill 4096 #[0, 0]).1.outcome = .ok () ∧
      (((new constant).after [.compile ""]).fill 4096 #[0, 0]).2.2.symbol? function.name =
        some 4096 ∧
      ((((new constant).after [.compile ""]).fill 4096 #[0, 0]).2.2.after
        [.addSymbol "g" 8]).symbol? function.name = none :=
  ⟨⟨"f", [0x90, 0xc3], []⟩, List.mem_singleton_self _, rfl, rfl, rfl⟩

end JitEngine

end JitHost
