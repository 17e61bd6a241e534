import JitHost.Proofs.Engine.Steps

/-!
# How an engine resolves names

Planning, with which an engine begins when it is asked for the size or the code, looks up every name.
A reference by name goes by the order of functions and then symbols, and a call that the compiler makes
on its own by that of symbols and then built-in routines. Nothing else is undefined
(`names_resolved`).

So a reference by name never gets to the built-in routines: it follows the order of functions, symbols
and routines unless a routine is all that there is for its name (`routine_name_undefined`).
-/

namespace JitHost

namespace Plan

/-- The targets of a plan are what the names of its relocations stand for. -/
structure FollowsNames (plan : Plan) (functions : List CompiledFunction)
    (added : List (String × Address)) : Prop where
  /-- A reference by name is to a function or else to a symbol, -/
  symbol : ∀ k i function r name, functions[k]? = some function →
    function.relocations[i]? = some r → r.target = .symbol name →
      ∃ target, plan.target? k i = some target ∧
        NameOrder functions added (fun _ => none) name (some target)
  /-- and a call of a routine to a symbol or else to what is built in. -/
  routine : ∀ k i function r name, functions[k]? = some function →
    function.relocations[i]? = some r → r.target = .routine name →
      ∃ target, plan.target? k i = some target ∧
        NameOrder [] added Routine.address? name (some target)

end Plan

namespace JitEngine

variable {frontEnd : FrontEnd} {engine : JitEngine frontEnd} {added : List (String × Address)}

/-- An engine that was given symbols looks names up among them, the last one first. -/
theorem external_symbol (himports : engine.imports = added.reverse) (name : String) :
    engine.external (.symbol name) = added.reverse.lookup name := by
  rw [← himports]
  rfl

theorem external_routine (himports : engine.imports = added.reverse) (name : String) :
    engine.external (.routine name) =
      (added.reverse.lookup name).or (Routine.address? name) := by
  rw [← himports]
  show (engine.imports.lookup name <|> Routine.address? name) = _
  cases engine.imports.lookup name <;> rfl

open Plan

theorem nodup_names_nil : (([] : List CompiledFunction).map CompiledFunction.name).Nodup :=
  List.nodup_nil

/-- A plan that an engine built follows the names. -/
theorem followsNames_of_build (hnames : engine.functionNames.Nodup)
    (himports : engine.imports = added.reverse) {plan : Plan}
    (hbuild : (build engine.functions engine.external).outcome = .ok plan) :
    plan.FollowsNames engine.functions added := by
  constructor
  · intro k i function r name hfunction hr htarget
    obtain ⟨start, target, -, hplanned, hinspect⟩ := inspect_of_target? hbuild hfunction hr
    refine ⟨target, hplanned, (nameOrder_iff hnames).2 ?_⟩
    have hresolved := (inspect_eq_ok_iff.1 hinspect).2
    rw [htarget, resolve_symbol (external_symbol himports name)] at hresolved
    exact (elim_eq_ok_iff.1 hresolved).symm
  · intro k i function r name hfunction hr htarget
    obtain ⟨start, target, -, hplanned, hinspect⟩ := inspect_of_target? hbuild hfunction hr
    refine ⟨target, hplanned, (nameOrder_iff nodup_names_nil).2 ?_⟩
    have hresolved := (inspect_eq_ok_iff.1 hinspect).2
    rw [htarget, resolve_routine (external_routine himports name)] at hresolved
    exact (elim_eq_ok_iff.1 hresolved).symm

/-- A relocation refers to a name for which its order has nothing. -/
def Misses (functions : List CompiledFunction) (added : List (String × Address)) (r : Relocation)
    (name : String) : Prop :=
  (r.target = .symbol name ∧ NameOrder functions added (fun _ => none) name none) ∨
    (r.target = .routine name ∧ NameOrder [] added Routine.address? name none)

theorem resolve_eq_undefined_iff (hnames : engine.functionNames.Nodup)
    (himports : engine.imports = added.reverse) {start : Nat} {r : Relocation} {name : String} :
    resolve (symbolsOf engine.functions) engine.external start r.target =
      .error (.undefined name) ↔ Misses engine.functions added r name := by
  unfold Misses
  cases r.target with
  | here offset => simp [resolve]
  | symbol other =>
    rw [resolve_symbol (external_symbol himports other), elim_eq_error_iff, nameOrder_iff hnames]
    simp only [LinkProblem.undefined.injEq, RelocationTarget.symbol.injEq, reduceCtorEq,
      false_and, or_false]
    constructor
    · rintro ⟨hfound, rfl⟩
      exact ⟨rfl, hfound.symm⟩
    · rintro ⟨rfl, hfound⟩
      exact ⟨hfound.symm, rfl⟩
  | routine other =>
    rw [resolve_routine (external_routine himports other), elim_eq_error_iff,
      nameOrder_iff nodup_names_nil]
    simp only [LinkProblem.undefined.injEq, RelocationTarget.routine.injEq, reduceCtorEq,
      false_and, false_or]
    constructor
    · rintro ⟨hfound, rfl⟩
      exact ⟨rfl, hfound.symm⟩
    · rintro ⟨rfl, hfound⟩
      exact ⟨hfound.symm, rfl⟩

/-- How an engine resolves names that has accepted some functions and was given some symbols. -/
structure ResolvesNames (engine : JitEngine frontEnd) (functions : List CompiledFunction)
    (added : List (String × Address)) : Prop where
  /-- Every plan follows the names. -/
  follows : ∀ plan, engine.ensurePlan.1.outcome = .ok plan → plan.FollowsNames functions added
  /-- A name is reported as undefined exactly if its order has nothing for some relocation. -/
  reported_iff : ∀ name, (LinkProblem.undefined name).message ∈ engine.ensurePlan.1.diagnostics ↔
    ∃ function ∈ functions, ∃ r ∈ function.relocations, function.CanPatch r ∧
      Misses functions added r name
  /-- For a reference by name this is the order that ends with the built-in routines, unless a
  routine is all there is. -/
  routines_iff : ∀ name target?, NameOrder functions added (fun _ => none) name target? →
    (NameOrder functions added Routine.address? name target? ↔
      target?.isSome = true ∨ Routine.address? name = none)

/-- Built-in routines matter only for a name that has nothing else. -/
theorem nameOrder_routine_iff {functions : List CompiledFunction} {name : String}
    {target? : Option ResolvedTarget}
    (h : NameOrder functions added (fun _ => none) name target?) :
    NameOrder functions added Routine.address? name target? ↔
      target?.isSome = true ∨ Routine.address? name = none := by
  cases h with
  | defined hentry hname =>
    exact ⟨fun _ => .inl rfl, fun _ => .defined hentry hname⟩
  | added hundefined hlast =>
    exact ⟨fun _ => .inl rfl, fun _ => .added hundefined hlast⟩
  | routine hundefined hnone hroutine => cases hroutine
  | missing hundefined hnone hroutine =>
    constructor
    · rintro ⟨⟩
      exact .inr ‹_›
    · rintro (h | h)
      · cases h
      · exact .missing hundefined hnone h

/-- An engine resolves names among the functions that it accepted and the symbols that it was given,
after every run of requests and for every front end. -/
theorem names_resolved (frontEnd : FrontEnd) (requests : List EngineRequest) :
    ((new frontEnd).after requests).ResolvesNames ((new frontEnd).accepted requests)
      (requests.flatMap EngineRequest.added) := by
  have hnew := upToDate_new frontEnd
  have hfunctions : ((new frontEnd).after requests).functions =
      (new frontEnd).accepted requests := functions_after hnew requests
  have himports : ((new frontEnd).after requests).imports =
      (requests.flatMap EngineRequest.added).reverse := by
    rw [imports_after hnew]
    exact List.append_nil _
  have hnames := nodup_functionNames_after hnew List.nodup_nil requests
  have hplan : ((new frontEnd).after requests).ensurePlan.1 =
      build ((new frontEnd).after requests).functions ((new frontEnd).after requests).external := by
    rw [(hnew.after requests).attempt_ensurePlan, plan_forget]
  rw [← hfunctions]
  constructor
  · intro plan houtcome
    rw [hplan] at houtcome
    exact followsNames_of_build hnames himports houtcome
  · intro name
    rw [hplan, undefined_mem_diagnostics_iff]
    simp only [resolve_eq_undefined_iff hnames himports]
    constructor
    · rintro ⟨entry, hentry, hmisses⟩
      exact ⟨entry.1, (List.of_mem_zip hentry).1, hmisses⟩
    · rintro ⟨function, hfunction, hmisses⟩
      rw [← map_fst_placed ((new frontEnd).after requests).functions] at hfunction
      obtain ⟨entry, hentry, rfl⟩ := List.mem_map.1 hfunction
      exact ⟨entry, hentry, hmisses⟩
  · intro name target? h
    exact nameOrder_routine_iff h

/-- A front end that makes one function of every source, with a reference to `memcmp` by name. -/
def comparing : FrontEnd := fun _ =>
  .ok [⟨"compare", .ok (.replicate 10 0x90, [⟨2, .abs8, .symbol "memcmp", 0⟩])⟩]

/-- A reference to the name of a built-in routine is undefined if nothing else has the name: the order
with routines has an address for it, and yet it is reported. -/
theorem routine_name_undefined :
    ∃ function ∈ (new comparing).accepted [.compile ""], ∃ r ∈ function.relocations,
      function.CanPatch r ∧ r.target = .symbol "memcmp" ∧
        NameOrder ((new comparing).accepted [.compile ""]) [] Routine.address? "memcmp"
          (some (.outside 0x5600000000d0)) ∧
        ((new comparing).after [.compile ""]).ensurePlan.1 =
          ⟨["undefined symbol 'memcmp'"], .error (.unresolvedSymbols ["memcmp"])⟩ := by
  refine ⟨⟨"compare", .replicate 10 0x90, [⟨2, .abs8, .symbol "memcmp", 0⟩]⟩,
    List.mem_singleton_self _, _, List.mem_singleton_self _, ⟨8, rfl, by decide⟩, rfl, ?_, rfl⟩
  refine .routine ?_ (fun _ h => nomatch h) rfl
  intro function hfunction
  cases List.mem_singleton.1 hfunction
  decide

end JitEngine

end JitHost
