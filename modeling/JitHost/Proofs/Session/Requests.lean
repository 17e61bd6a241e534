import JitHost.Session.Symbols

/-!
# Requests to a session

Everything that can be asked of a session as one type of requests, and runs of requests from any
session. Which requests a state refuses is one table, `SessionState.refusal?`; the gates of the
operations agree with it (`perform_of_refusal`, `engineFor_of_allowed`).
-/

namespace JitHost

/-- What can be asked of a session. -/
inductive SessionRequest where
  | compile (source : String)
  | relocate (memory : MemoryService)
  | importSymbols (symbols : List (String × Address))
  | importApi
  | exportSymbols (symbols : SymbolMap)
  | symbol (name : String)
  | routine (name : String)
  | check (operation : Operation)
  | close
  | finalize

/-- What a session answers; an export also gives the map back. -/
inductive SessionResponse where
  | done (result : Except SessionError Unit)
  | size (result : Except SessionError Nat)
  | address (result : Except SessionError Address)
  | symbols (result : Except SessionError Unit) (symbols : SymbolMap)

/-- The error of a response. -/
def SessionResponse.error? : SessionResponse → Option SessionError
  | done (.error e) | size (.error e) | address (.error e) | symbols (.error e) _ => some e
  | _ => none

/-- The size that a relocation answered. -/
def SessionResponse.size? : SessionResponse → Option Nat
  | size (.ok n) => some n
  | _ => none

namespace SessionRequest

/-- The operation by which a request is named in a refusal. -/
def operation? : SessionRequest → Option Operation
  | compile _ => some .compile
  | relocate _ => some .relocate
  | importSymbols _ => some .importSymbols
  | importApi => some .importApi
  | exportSymbols _ | symbol _ => some .exportSymbols
  | routine _ => some .exportRoutine
  | check operation => some operation
  | close => some .close
  | finalize => none

/-- The response with an error and nothing else. -/
def refused (e : SessionError) : SessionRequest → SessionResponse
  | relocate _ => .size (.error e)
  | symbol _ | routine _ => .address (.error e)
  | exportSymbols symbols => .symbols (.error e) symbols
  | _ => .done (.error e)

@[simp] theorem error?_refused (request : SessionRequest) (e : SessionError) :
    (request.refused e).error? = some e := by
  cases request <;> rfl

end SessionRequest

/-- The errors with which states refuse operations. -/
def SessionState.refusal? : SessionState → Operation → Option SessionError
  | .closed .explicit, .close => some .doubleClose
  | .closed _, operation => some (.closedSession operation)
  | .relocated, .exportSymbols | .relocated, .exportRoutine | .relocated, .close => none
  | .relocated, operation => some (.relocatedSession operation)
  | _, .exportSymbols => some (.notRelocated .exportSymbols)
  | _, .exportRoutine => some (.notRelocated .exportRoutine)
  | _, _ => none

/-- A closed state refuses everything. -/
theorem SessionState.exists_refusal (cause : CloseCause) (operation : Operation) :
    ∃ e, (SessionState.closed cause).refusal? operation = some e := by
  cases cause with
  | explicit => cases operation <;> exact ⟨_, rfl⟩
  | _ => exact ⟨_, rfl⟩

namespace Session

/-! ## Gates -/

variable {s : Session σ} {operation : Operation}

theorem check_of_refusal {e : SessionError} (hrefused : s.state.refusal? operation = some e) :
    s.check operation = .error e := by
  obtain ⟨engine?, code?, state, calls⟩ := s
  cases state with
  | closed cause => cases cause <;> cases operation <;> cases hrefused <;> rfl
  | _ => cases operation <;> cases hrefused <;> rfl

theorem check_of_allowed (hallowed : s.state.refusal? operation = none) :
    s.check operation = .ok () := by
  obtain ⟨engine?, code?, state, calls⟩ := s
  cases state with
  | closed cause => cases cause <;> cases operation <;> cases hallowed
  | _ => cases operation <;> cases hallowed <;> rfl

theorem check_eq_ok_iff : s.check operation = .ok () ↔ s.state.refusal? operation = none := by
  cases hrefusal : s.state.refusal? operation with
  | none => simp [check_of_allowed hrefusal]
  | some e => simp [check_of_refusal hrefusal]

theorem check_eq_error_iff {e : SessionError} :
    s.check operation = .error e ↔ s.state.refusal? operation = some e := by
  cases hrefusal : s.state.refusal? operation with
  | none => simp [check_of_allowed hrefusal]
  | some other => simp [check_of_refusal hrefusal]

theorem engineFor_of_refusal {e : SessionError} (hrefused : s.state.refusal? operation = some e) :
    s.engineFor operation = .error e := by
  rw [engineFor, check_of_refusal hrefused]

theorem engineFor_of_allowed (hallowed : s.state.refusal? operation = none) {engine : σ}
    (hengine : s.engine? = some engine) : s.engineFor operation = .ok engine := by
  rw [engineFor, check_of_allowed hallowed, hengine]

/-! ## Runs -/

variable [Engine σ]

/-- The response to a request and the session after it. -/
def perform (s : Session σ) : SessionRequest → SessionResponse × Session σ
  | .compile source => (.done (s.compile source).1, (s.compile source).2)
  | .relocate memory => (.size (s.relocate memory).1, (s.relocate memory).2)
  | .importSymbols symbols => (.done (s.importSymbols symbols).1, (s.importSymbols symbols).2)
  | .importApi => (.done s.importApi.1, s.importApi.2)
  | .exportSymbols symbols =>
      (.symbols (s.exportSymbols symbols).1 (s.exportSymbols symbols).2.1,
        (s.exportSymbols symbols).2.2)
  | .symbol name => (.address (s.symbol name).1, (s.symbol name).2)
  | .routine name => (.address (s.routine name).1, (s.routine name).2)
  | .check operation => (.done (s.check operation), s)
  | .close => (.done s.close.1, s.close.2)
  | .finalize => (.done (.ok ()), s.finalize)

/-- The session after a run of requests. -/
def after (s : Session σ) : List SessionRequest → Session σ
  | [] => s
  | request :: rest => (s.perform request).2.after rest

/-- The responses to a run of requests. -/
def responses (s : Session σ) : List SessionRequest → List SessionResponse
  | [] => []
  | request :: rest => (s.perform request).1 :: (s.perform request).2.responses rest

/-- What every request preserves holds after every run. -/
theorem after_induction {P : Session σ → Prop} (hstep : ∀ s request, P s → P (s.perform request).2)
    {s : Session σ} (hs : P s) (requests : List SessionRequest) : P (s.after requests) := by
  induction requests generalizing s with
  | nil => exact hs
  | cons request rest ih => exact ih (hstep s request hs)

/-- A refused request calls nothing and changes nothing. -/
theorem perform_of_refusal {request : SessionRequest} {e : SessionError}
    (hoperation : request.operation? = some operation)
    (hrefused : s.state.refusal? operation = some e) :
    s.perform request = (request.refused e, s) := by
  -- Every operation asks its gate first and goes no further.
  cases request with
  | compile source =>
    cases hoperation
    simp only [perform, compile, engineFor_of_refusal hrefused]
    rfl
  | relocate memory =>
    cases hoperation
    simp only [perform, relocate, engineFor_of_refusal hrefused]
    rfl
  | importSymbols symbols =>
    cases hoperation
    simp only [perform, importSymbols, engineFor_of_refusal hrefused]
    rfl
  | importApi =>
    cases hoperation
    simp only [perform, importApi, engineFor_of_refusal hrefused]
    rfl
  | exportSymbols symbols =>
    cases hoperation
    simp only [perform, exportSymbols, engineFor_of_refusal hrefused]
    rfl
  | symbol name =>
    cases hoperation
    simp only [perform, symbol, lookup, engineFor_of_refusal hrefused]
    rfl
  | routine name =>
    cases hoperation
    simp only [perform, routine, lookup, engineFor_of_refusal hrefused]
    rfl
  | check operation =>
    cases hoperation
    simp only [perform, check_of_refusal hrefused]
    rfl
  | close =>
    cases hoperation
    have hgate : s.allowClose = .error e := check_of_refusal hrefused
    simp only [perform, close, hgate]
    rfl
  | finalize => cases hoperation

/-- A closed session stays as it is. -/
theorem perform_of_closed {cause : CloseCause} (hclosed : s.state = .closed cause)
    (request : SessionRequest) : (s.perform request).2 = s := by
  cases hoperation : request.operation? with
  | some operation =>
    obtain ⟨e, he⟩ := SessionState.exists_refusal cause operation
    rw [perform_of_refusal hoperation (by rw [hclosed]; exact he)]
  | none =>
    -- Only finalizing has no gate; it looks whether the session is closed.
    cases request with
    | finalize =>
      have hgone : s.isClosed = true := by rw [isClosed, hclosed]
      show s.finalize = s
      rw [finalize, if_pos hgone]
    | _ => cases hoperation

theorem after_of_closed {cause : CloseCause} (hclosed : s.state = .closed cause)
    (requests : List SessionRequest) : s.after requests = s := by
  induction requests with
  | nil => rfl
  | cons request rest ih => rw [after, perform_of_closed hclosed, ih]

end Session

end JitHost
