import JitHost.Proofs.Session.HostRequests
import JitHost.Proofs.Session.Resources

/-!
# The calls of a session on its engine

A session keeps the calls that it makes on its engine. Here they are put together with what the
engine answered: `Engine.Trace` says that every answer of a list of events is that of the engine
which the event before it left, and that nothing is asked of an engine that was released.

`EngineStage` is how far an engine has been brought by its events. Every row of the lifecycle brings
the engine from the stage of one state to that of the next (`Row.exists_events`), and what the
stages allow is the protocol (`EngineStage.Run.keepsProtocol`): one size, then at most one fill of
as many bytes, symbols only behind a fill that succeeded, and one release at the end. So every
session that its owner gives up has kept the protocol, whatever was asked of it (`engine_protocol`).
-/

namespace JitHost

/-! ## Calls with their answers -/

/-- A call on an engine with what the engine answered. -/
inductive EngineEvent where
  | compile (source : String) (attempt : Attempt Unit)
  | add (name : String) (address : Address)
  | size (attempt : Attempt Nat)
  | fill (count : Nat) (attempt : Attempt Unit)
  | symbol (name : String) (answer : Option Address)
  | release

namespace EngineEvent

/-- The call of an event. -/
def call : EngineEvent → EngineCall
  | compile source _ => .compile source
  | add name address => .add name address
  | size _ => .size
  | fill count _ => .fill count
  | symbol name _ => .symbol name
  | release => .release

/-- Whether the engine is asked for the size of its code. -/
def isSize : EngineEvent → Bool
  | size _ => true
  | _ => false

/-- Whether the engine is asked to write its code. -/
def isFill : EngineEvent → Bool
  | fill _ _ => true
  | _ => false

/-- Whether the engine is given a source or a symbol. -/
def isInput : EngineEvent → Bool
  | compile _ _ | add _ _ => true
  | _ => false

end EngineEvent

namespace Engine

variable [Engine σ]

/-- What an engine answers to a call, and the engine after it, which is gone once released. -/
inductive Answers (engine : σ) : EngineEvent → Option σ → Prop where
  | compile (source : String) :
      Answers engine (.compile source (Engine.compile engine source).1)
        (some (Engine.compile engine source).2)
  | add (name : String) (address : Address) :
      Answers engine (.add name address) (some (Engine.addSymbol engine name address))
  | size : Answers engine (.size (Engine.imageSize engine).1) (some (Engine.imageSize engine).2)
  | fill {count : Nat} (place : Address) (buffer : Vector UInt8 count) :
      Answers engine (.fill count (Engine.fill engine place buffer).1)
        (some (Engine.fill engine place buffer).2.2)
  | symbol (name : String) :
      Answers engine (.symbol name (Engine.symbol? engine name)) (some engine)
  | release : Answers engine .release none

/-- Events one after another, each answered by the engine that the one before left. -/
inductive Trace : Option σ → List EngineEvent → Option σ → Prop where
  | done (engine? : Option σ) : Trace engine? [] engine?
  | cons {engine : σ} {event : EngineEvent} {events : List EngineEvent} {next? last? : Option σ}
      (hanswer : Answers engine event next?) (hrest : Trace next? events last?) :
      Trace (some engine) (event :: events) last?

theorem Answers.trace {engine : σ} {event : EngineEvent} {next? : Option σ}
    (h : Answers engine event next?) : Trace (some engine) [event] next? :=
  .cons h (.done next?)

theorem Trace.append {first? next? last? : Option σ} {events later : List EngineEvent}
    (h : Trace first? events next?) (hlater : Trace next? later last?) :
    Trace first? (events ++ later) last? := by
  induction h with
  | done => exact hlater
  | cons hanswer _ ih => exact .cons hanswer (ih hlater)

theorem trace_add (engine : σ) (symbols : List (String × Address)) :
    Trace (some engine) (symbols.map fun symbol => .add symbol.1 symbol.2)
      (some (symbols.foldl (fun engine symbol =>
        Engine.addSymbol engine symbol.1 symbol.2) engine)) := by
  induction symbols generalizing engine with
  | nil => exact .done _
  | cons symbol rest ih => exact .cons (.add symbol.1 symbol.2) (ih _)

theorem trace_symbol (engine : σ) (names : List String) :
    Trace (some engine) (names.map fun name => .symbol name (Engine.symbol? engine name))
      (some engine) := by
  induction names with
  | nil => exact .done _
  | cons name rest ih => exact .cons (.symbol name) ih

/-- A size and a fill of zeros, as a relocation asks for them. -/
theorem trace_filling (engine : σ) (place : Address) (size : Nat) :
    Trace (some engine)
      [.size (Engine.imageSize engine).1, .fill size (Engine.filling engine place size).1]
      (some (Engine.filling engine place size).2.2) := by
  have hfill := @Answers.fill σ _ (Engine.imageSize engine).2 _ place
    (Array.replicate size 0).toVector
  change Answers _ (.fill _ (Engine.filling engine place size).1)
    (some (Engine.filling engine place size).2.2) at hfill
  -- The buffer has the size of an array of zeros, which is the size that was asked for.
  generalize Engine.filling engine place size = answer at hfill ⊢
  obtain ⟨attempt, bytes, after⟩ := answer
  simp only [Array.size_replicate] at hfill
  exact .cons .size hfill.trace

end Engine

/-! ## Stages -/

/-- How far an engine has been brought: it takes sources and symbols, it has told its size, its code
is written, it is of no use after a failure, or it is released. -/
inductive EngineStage where
  | collecting
  | sized (count : Nat)
  | filled
  | spent
  | released
  deriving DecidableEq

namespace EngineStage

/-- The event that may come at a stage, and the stage after it. -/
inductive Step : EngineStage → EngineEvent → EngineStage → Prop where
  | compile (source : String) (attempt : Attempt Unit) :
      Step collecting (.compile source attempt) collecting
  | add (name : String) (address : Address) : Step collecting (.add name address) collecting
  | size {attempt : Attempt Nat} {count : Nat} (hok : attempt.outcome = .ok count) :
      Step collecting (.size attempt) (sized count)
  | sizeFailed {attempt : Attempt Nat} {cause : EngineError}
      (herror : attempt.outcome = .error cause) : Step collecting (.size attempt) spent
  | fill {count : Nat} {attempt : Attempt Unit} (hok : attempt.outcome = .ok ()) :
      Step (sized count) (.fill count attempt) filled
  | fillFailed {count : Nat} {attempt : Attempt Unit} {cause : EngineError}
      (herror : attempt.outcome = .error cause) : Step (sized count) (.fill count attempt) spent
  | symbol (name : String) (answer : Option Address) : Step filled (.symbol name answer) filled
  | release {stage : EngineStage} (hheld : stage ≠ released) : Step stage .release released

/-- Events that may come one after another. -/
inductive Run : EngineStage → List EngineEvent → EngineStage → Prop where
  | done (stage : EngineStage) : Run stage [] stage
  | cons {stage next last : EngineStage} {event : EngineEvent} {events : List EngineEvent}
      (hstep : Step stage event next) (hrest : Run next events last) :
      Run stage (event :: events) last

variable {stage next last : EngineStage} {event : EngineEvent} {events : List EngineEvent}

theorem Step.run (h : Step stage event next) : Run stage [event] next := .cons h (.done next)

theorem Run.append {later : List EngineEvent} (h : Run stage events next)
    (hlater : Run next later last) : Run stage (events ++ later) last := by
  induction h with
  | done => exact hlater
  | cons hstep _ ih => exact .cons hstep (ih hlater)

/-- A run reaches some stage before each of its events. -/
theorem Run.split {before after : List EngineEvent}
    (h : Run stage (before ++ event :: after) last) :
    ∃ here next, Run stage before here ∧ Step here event next ∧ Run next after last := by
  induction before generalizing stage with
  | nil =>
    cases h with
    | cons hstep hrest => exact ⟨_, _, .done _, hstep, hrest⟩
  | cons first before ih =>
    cases h with
    | cons hfirst hrest =>
      obtain ⟨here, next, hbefore, hstep, hafter⟩ := ih hrest
      exact ⟨here, next, .cons hfirst hbefore, hstep, hafter⟩

/-- The stage of a run that has events was reached by the last one. -/
theorem Run.exists_last (h : Run stage events last) :
    (events = [] ∧ last = stage) ∨
      ∃ before event here, events = before ++ [event] ∧ Run stage before here ∧
        Step here event last := by
  induction h with
  | done => exact .inl ⟨rfl, rfl⟩
  | @cons stage next last event events hstep hrest ih =>
    rcases ih with ⟨rfl, rfl⟩ | ⟨before, event', here, rfl, hbefore, hlast⟩
    · exact .inr ⟨[], event, stage, rfl, .done stage, hstep⟩
    · exact .inr ⟨event :: before, event', here, rfl, .cons hstep hbefore, hlast⟩

/-! ### What never comes back -/

theorem Step.isInput_eq_false (h : Step stage event next) (hstage : stage ≠ collecting) :
    event.isInput = false ∧ event.isSize = false ∧ next ≠ collecting := by
  cases h with
  | compile | add | size | sizeFailed => exact absurd rfl hstage
  | _ => exact ⟨rfl, rfl, fun h => nomatch h⟩

/-- An engine that was asked for its size gets no more sources and symbols, and is not asked for it
again. -/
theorem Run.isInput_eq_false (h : Run stage events last) (hstage : stage ≠ collecting) :
    ∀ event ∈ events, event.isInput = false ∧ event.isSize = false := by
  induction h with
  | done => exact fun _ h => nomatch h
  | cons hstep _ ih =>
    obtain ⟨hinput, hsize, hnext⟩ := hstep.isInput_eq_false hstage
    exact List.forall_mem_cons.2 ⟨⟨hinput, hsize⟩, ih hnext⟩

/-- The stages at which an engine will not be asked to write its code any more. -/
def Written : EngineStage → Prop
  | filled | spent | released => True
  | _ => False

theorem Step.isFill_eq_false (h : Step stage event next) (hstage : stage.Written) :
    event.isFill = false ∧ next.Written := by
  cases h with
  | symbol | release => exact ⟨rfl, trivial⟩
  | _ => exact hstage.elim

theorem Run.isFill_eq_false (h : Run stage events last) (hstage : stage.Written) :
    ∀ event ∈ events, event.isFill = false := by
  induction h with
  | done => exact fun _ h => nomatch h
  | cons hstep _ ih =>
    obtain ⟨hfill, hnext⟩ := hstep.isFill_eq_false hstage
    exact List.forall_mem_cons.2 ⟨hfill, ih hnext⟩

theorem Run.eq_nil_of_released (h : Run released events last) : events = [] := by
  cases h with
  | done => rfl
  | cons hstep _ =>
    cases hstep with
    | release hheld => exact absurd rfl hheld

/-- What does not come back once it came comes at most once. -/
theorem Run.countP_le_one {p : EngineEvent → Bool} (h : Run stage events last)
    (hlast : ∀ {stage event next events last}, Step stage event next → p event = true →
      Run next events last → ∀ event ∈ events, p event = false) : events.countP p ≤ 1 := by
  induction h with
  | done => exact Nat.zero_le 1
  | @cons stage next last event events hstep hrest ih =>
    cases hp : p event with
    | false =>
      rw [List.countP_cons_of_neg (by simp [hp])]
      exact ih
    | true =>
      have hnone : events.countP p = 0 :=
        List.countP_eq_zero.2 fun later hlater => by simp [hlast hstep hp hrest later hlater]
      exact Nat.le_of_eq ((List.countP_cons_of_pos hp).trans (congrArg (· + 1) hnone))

theorem Run.size_once (h : Run stage events last) : events.countP EngineEvent.isSize ≤ 1 := by
  refine h.countP_le_one fun hstep hsize hrest later hlater => ?_
  cases hstep with
  | size | sizeFailed => exact (hrest.isInput_eq_false (fun h => nomatch h) later hlater).2
  | _ => cases hsize

theorem Run.fill_once (h : Run stage events last) : events.countP EngineEvent.isFill ≤ 1 := by
  refine h.countP_le_one fun hstep hfill hrest later hlater => ?_
  cases hstep with
  | fill | fillFailed => exact hrest.isFill_eq_false trivial later hlater
  | _ => cases hfill

/-! ### How a stage was reached -/

theorem Run.of_sized {count : Nat} (h : Run collecting events (sized count)) :
    ∃ before attempt, events = before ++ [.size attempt] ∧ attempt.outcome = .ok count := by
  rcases h.exists_last with ⟨-, hstage⟩ | ⟨before, event, here, rfl, -, hstep⟩
  · cases hstage
  · cases hstep with
    | size hok => exact ⟨before, _, rfl, hok⟩

theorem Run.exists_fill (h : Run stage events last) (hstage : stage ≠ filled)
    (hlast : last = filled) :
    ∃ count attempt, EngineEvent.fill count attempt ∈ events ∧ attempt.outcome = .ok () := by
  induction h with
  | done => exact absurd hlast hstage
  | cons hstep _ ih =>
    cases hstep with
    | fill hok => exact ⟨_, _, List.mem_cons_self, hok⟩
    | symbol => exact absurd rfl hstage
    | _ =>
      obtain ⟨count, attempt, hmem, hok⟩ := ih (fun h => nomatch h) hlast
      exact ⟨count, attempt, List.mem_cons_of_mem _ hmem, hok⟩

end EngineStage

/-! ## The protocol -/

/-- What the events of an engine's life have in common. -/
structure KeepsProtocol (events : List EngineEvent) : Prop where
  /-- The engine is released once, and nothing is asked of it afterwards. -/
  released : ∃ before, events = before ++ [.release] ∧ EngineEvent.release ∉ before
  /-- It is asked for its size at most once. -/
  size_once : events.countP EngineEvent.isSize ≤ 1
  /-- It is asked to write its code at most once. -/
  fill_once : events.countP EngineEvent.isFill ≤ 1
  /-- It writes right after it told the size, to as many bytes. -/
  fill_sized : ∀ before count attempt after, events = before ++ .fill count attempt :: after →
    ∃ earlier sizing, before = earlier ++ [.size sizing] ∧ sizing.outcome = .ok count
  /-- It gets no sources and no symbols once it was asked for its size. -/
  frozen : ∀ before attempt after, events = before ++ .size attempt :: after →
    ∀ event ∈ after, event.isInput = false
  /-- It is asked for symbols only after its code was written. -/
  symbol_filled : ∀ before name answer after, events = before ++ .symbol name answer :: after →
    ∃ count attempt, EngineEvent.fill count attempt ∈ before ∧ attempt.outcome = .ok ()

/-- Events that go through the stages up to the release keep the protocol. -/
theorem EngineStage.Run.keepsProtocol {events : List EngineEvent}
    (h : Run collecting events released) : KeepsProtocol events := by
  refine ⟨?_, h.size_once, h.fill_once, ?_, ?_, ?_⟩
  · rcases h.exists_last with ⟨-, hstage⟩ | ⟨before, event, here, rfl, hbefore, hstep⟩
    · cases hstage
    · cases hstep with
      | release hheld =>
        refine ⟨before, rfl, fun hmem => ?_⟩
        -- Behind an earlier release nothing may come, but this one does.
        obtain ⟨first, rest, rfl⟩ := List.append_of_mem hmem
        rw [List.append_assoc] at h
        obtain ⟨_, next, -, hrelease, hrest⟩ := h.split
        cases hrelease with
        | release =>
          have hnil := hrest.eq_nil_of_released
          exact absurd hnil (by simp)
  · rintro before count attempt after rfl
    obtain ⟨here, next, hbefore, hstep, -⟩ := h.split
    cases hstep with
    | fill | fillFailed => exact hbefore.of_sized
  · rintro before attempt after rfl event hevent
    obtain ⟨here, next, -, hstep, hafter⟩ := h.split
    cases hstep with
    | size | sizeFailed => exact (hafter.isInput_eq_false (fun h => nomatch h) event hevent).1
  · rintro before name answer after rfl
    obtain ⟨here, next, hbefore, hstep, -⟩ := h.split
    cases hstep with
    | symbol => exact hbefore.exists_fill (fun h => nomatch h) rfl

/-! ## The events of a session -/

/-- The stage of the engine of a session in a state. -/
def SessionState.stage : SessionState → EngineStage
  | .fresh | .compiled => .collecting
  | .relocated => .filled
  | .closed _ => .released

theorem SessionState.stage_eq_collecting {state : SessionState} {operation : Operation}
    (hallowed : state.refusal? operation = none)
    (hchange : operation = .compile ∨ operation = .relocate ∨ operation = .importSymbols ∨
      operation = .importApi) : state.stage = .collecting := by
  cases state with
  | fresh | compiled => rfl
  | relocated => rcases hchange with rfl | rfl | rfl | rfl <;> cases hallowed
  | closed cause =>
    obtain ⟨e, he⟩ := exists_refusal cause operation
    rw [he] at hallowed
    cases hallowed

theorem SessionState.stage_eq_filled {state : SessionState} {operation : Operation}
    (hallowed : state.refusal? operation = none)
    (hread : operation = .exportSymbols ∨ operation = .exportRoutine) :
    state.stage = .filled := by
  cases state with
  | fresh | compiled => rcases hread with rfl | rfl <;> cases hallowed
  | relocated => rfl
  | closed cause =>
    obtain ⟨e, he⟩ := exists_refusal cause operation
    rw [he] at hallowed
    cases hallowed

namespace Session

variable {s t : Session σ} {request : SessionRequest} {response : SessionResponse}

theorem stage_ne_released (hopen : s.isClosed = false) : s.state.stage ≠ .released := by
  unfold isClosed at hopen
  cases hstate : s.state with
  | closed cause =>
    rw [hstate] at hopen
    cases hopen
  | _ => exact fun h => nomatch h

variable [Engine σ]

/-- A session advances by events, from its engine and stage to those of another session. -/
structure Advances (s : Session σ) (events : List EngineEvent) (t : Session σ) : Prop where
  calls : t.calls = s.calls ++ events.map EngineEvent.call
  trace : Engine.Trace s.engine? events t.engine?
  stages : EngineStage.Run s.state.stage events t.state.stage

theorem Advances.refl (s : Session σ) : Advances s [] s :=
  ⟨(List.append_nil _).symm, .done _, .done _⟩

theorem Advances.trans {u : Session σ} {events later : List EngineEvent} (h : Advances s events t)
    (hlater : Advances t later u) : Advances s (events ++ later) u where
  calls := by rw [hlater.calls, h.calls, List.map_append, List.append_assoc]
  trace := h.trace.append hlater.trace
  stages := h.stages.append hlater.stages

/-- A session that is closed after some events releases its engine. -/
theorem Advances.closedBy {engine last : σ} {first stage : EngineStage} {events : List EngineEvent}
    (hengine : s.engine? = some engine) (htrace : Engine.Trace (some engine) events (some last))
    (hfirst : s.state.stage = first) (hstages : EngineStage.Run first events stage)
    (hheld : stage ≠ .released) (cause : CloseCause) :
    Advances s (events ++ [.release]) (s.closedBy cause (events.map EngineEvent.call)) := by
  refine ⟨?_, ?_, ?_⟩
  · simp [Session.closedBy, EngineEvent.call]
  · rw [hengine]
    exact htrace.append Engine.Answers.release.trace
  · rw [hfirst]
    exact hstages.append (EngineStage.Step.release hheld).run

theorem advances_told {engine : σ} (hengine : s.engine? = some engine)
    (hstage : s.state.stage = .collecting) (symbols : List (String × Address)) :
    Advances s (symbols.map fun symbol => .add symbol.1 symbol.2) (s.told engine symbols) := by
  refine ⟨?_, ?_, ?_⟩
  · simp [told, EngineEvent.call, Function.comp_def]
  · rw [hengine]
    exact Engine.trace_add engine symbols
  · show EngineStage.Run s.state.stage _ s.state.stage
    rw [hstage]
    induction symbols with
    | nil => exact .done _
    | cons symbol rest ih => exact .cons (.add symbol.1 symbol.2) ih

theorem advances_asked {engine : σ} (hengine : s.engine? = some engine)
    (hstage : s.state.stage = .filled) (names : List String) :
    Advances s (names.map fun name => .symbol name (Engine.symbol? engine name))
      (s.asked names) := by
  refine ⟨?_, ?_, ?_⟩
  · simp [asked, EngineEvent.call, Function.comp_def]
  · show Engine.Trace s.engine? _ s.engine?
    rw [hengine]
    exact Engine.trace_symbol engine names
  · show EngineStage.Run s.state.stage _ s.state.stage
    rw [hstage]
    induction names with
    | nil => exact .done _
    | cons name rest ih => exact .cons (.symbol name _) ih

/-- Every row of the lifecycle advances the session by events. -/
theorem Row.exists_events (h : Row s request response t) : ∃ events, Advances s events t := by
  cases h with
  | refused | allowed | unnamed | alreadyClosed => exact ⟨[], .refl s⟩
  | @compiled engine source hallowed hengine hquiet =>
    have hstage := SessionState.stage_eq_collecting hallowed (.inl rfl)
    refine ⟨[.compile source (Engine.compile engine source).1], rfl, ?_, ?_⟩
    · rw [hengine]
      exact (Engine.Answers.compile source).trace
    · rw [hstage]
      exact (EngineStage.Step.compile source _).run
  | @compileFailed engine source hallowed hengine hfailed =>
    exact ⟨_, .closedBy hengine (Engine.Answers.compile source).trace
      (SessionState.stage_eq_collecting hallowed (.inl rfl))
      (EngineStage.Step.compile source _).run (fun h => nomatch h) _⟩
  | @relocated engine memory size place hallowed hengine hsteps =>
    have hstage := SessionState.stage_eq_collecting hallowed (.inr (.inl rfl))
    refine ⟨[.size (Engine.imageSize engine).1, .fill size (Engine.filling engine place size).1],
      rfl, ?_, ?_⟩
    · rw [hengine]
      exact Engine.trace_filling engine place size
    · rw [hstage]
      exact .cons (.size hsteps.sizing) (EngineStage.Step.fill hsteps.filling).run
  | @relocationFailed engine memory calls log cause hallowed hengine hfault =>
    have hstage := SessionState.stage_eq_collecting hallowed (.inr (.inl rfl))
    have hsizing := (@Engine.Answers.size σ _ engine).trace
    -- The engine is released after the size or after the fill, whichever came last.
    cases hfault with
    | sizing herror =>
      exact ⟨_, .closedBy hengine hsizing hstage (EngineStage.Step.sizeFailed herror).run
        (fun h => nomatch h) _⟩
    | allocation hsized =>
      exact ⟨_, .closedBy hengine hsizing hstage (EngineStage.Step.size hsized).run
        (fun h => nomatch h) _⟩
    | @filling size place _ hsized _ herror =>
      exact ⟨_, .closedBy hengine (Engine.trace_filling engine place size) hstage
        (.cons (.size hsized) (EngineStage.Step.fillFailed herror).run) (fun h => nomatch h) _⟩
    | @sealing size place _ hsized _ hfilled =>
      exact ⟨_, .closedBy hengine (Engine.trace_filling engine place size) hstage
        (.cons (.size hsized) (EngineStage.Step.fill hfilled).run) (fun h => nomatch h) _⟩
  | imported hallowed hengine =>
    exact ⟨_, advances_told hengine
      (SessionState.stage_eq_collecting hallowed (.inr (.inr (.inl rfl)))) _⟩
  | importedApi hallowed hengine =>
    exact ⟨_, advances_told hengine
      (SessionState.stage_eq_collecting hallowed (.inr (.inr (.inr rfl)))) _⟩
  | exported hallowed hengine | exportStopped hallowed hengine | found hallowed hengine
  | missing hallowed hengine =>
    exact ⟨_, advances_asked hengine (SessionState.stage_eq_filled hallowed (.inl rfl)) _⟩
  | routineFound hallowed hengine | routineMissing hallowed hengine =>
    exact ⟨_, advances_asked hengine (SessionState.stage_eq_filled hallowed (.inr rfl)) _⟩
  | closed hallowed hengine =>
    exact ⟨_, .closedBy hengine (.done _) rfl (.done _)
      (stage_ne_released (isClosed_of_allowed hallowed)) _⟩
  | finalized hopen hengine =>
    exact ⟨_, .closedBy hengine (.done _) rfl (.done _) (stage_ne_released hopen) _⟩

theorem Consistent.exists_events_after (hs : s.Consistent) (requests : List SessionRequest) :
    ∃ events, Advances s events (s.after requests) := by
  induction requests generalizing s with
  | nil => exact ⟨[], .refl s⟩
  | cons request rest ih =>
    have hrow := hs.row_perform request
    obtain ⟨events, hevents⟩ := hrow.exists_events
    obtain ⟨later, hlater⟩ := ih (hrow.consistent hs)
    exact ⟨events ++ later, hevents.trans hlater⟩

/-- An engine whose session is given up, whatever the host asked before, was called as the protocol
says, and the calls that the session kept are those that it answered. -/
theorem engine_protocol (engine : σ) (requests : List HostRequest) :
    ∃ events, ((Session.new engine).serveAll requests).finalize.calls =
        events.map EngineEvent.call ∧
      Engine.Trace (some engine) events none ∧ KeepsProtocol events := by
  obtain ⟨plain, hplain⟩ := (Session.new engine).exists_serveAll_eq_after requests
  have hlast : (Session.new engine).after (plain ++ [.finalize]) =
      ((Session.new engine).serveAll requests).finalize := by
    rw [hplain, after_append]
    rfl
  have hclosed := isClosed_finalize ((Session.new engine).serveAll requests)
  have hconsistent := consistent_after engine (plain ++ [.finalize])
  obtain ⟨events, hcalls, htrace, hstages⟩ :=
    (consistent_new engine).exists_events_after (plain ++ [.finalize])
  rw [hlast] at hcalls htrace hstages hconsistent
  refine ⟨events, hcalls, ?_, ?_⟩
  · rw [hconsistent.engine.2 hclosed] at htrace
    exact htrace
  · obtain ⟨cause, hcause⟩ := exists_cause hclosed
    rw [hcause] at hstages
    exact hstages.keepsProtocol

example : ((Session.new (⟨[], .quiet, 2, .quiet, [("f", some 1)], none⟩ : ScriptedEngine)).serveAll
    [.compile (.ofText "f"), .plain (.relocate (.fixed 4096)), .compile (.ofText "g"),
      .routine (.ofText "f")]).finalize.calls =
    [.compile "f", .size, .fill 2, .symbol "f", .release] := by
  cbv

end Session

end JitHost
