import JitHost.Engine.Scripted
import JitHost.Proofs.Session.HostRequests
import JitHost.Proofs.Session.Lifecycle

/-!
# Gates before arguments

An operation on values of the host asks `check` before it looks at its argument, and the plain
operation behind it asks its own gate again. What `check` says beforehand is what both say: if it
refuses an operation, the request fails with this error whatever the argument is
(`respond_of_refusal`), and if not, no gate on the way refuses anything, not even in the middle of
an export (`isRefusal_of_allowed`). An argument of the wrong kind is found out before anything is
done (`respond_of_illTyped`).
-/

namespace JitHost

/-! ## Errors of gates -/

/-- Whether an error says that the state of a session does not allow an operation. -/
def SessionError.isRefusal : SessionError → Bool
  | closedSession _ | relocatedSession _ | notRelocated _ | doubleClose => true
  | _ => false

theorem SessionState.isRefusal_of_refusal {state : SessionState} {operation : Operation}
    {e : SessionError} (h : state.refusal? operation = some e) : e.isRefusal = true := by
  cases state with
  | closed cause => cases cause <;> cases operation <;> cases h <;> rfl
  | _ => cases operation <;> cases h <;> rfl

/-! ## Arguments -/

theorem Value.expectText_cases (v : Value) (operation : Operation) (fault : ArgumentFault) :
    (∃ text, v.text? = some text ∧ v.expectText operation fault = .ok text) ∨
      ∃ other, v.expectText operation fault = .error (.ofArgument other) := by
  cases htext : v.text? with
  | some text => exact .inl ⟨text, rfl, expectText_of_text? htext operation fault⟩
  | none =>
    cases v with
    | string bytes =>
      have hbytes : Text.Bytes.text? bytes = none := htext
      exact .inr ⟨fault, by rw [expectText, hbytes]⟩
    | _ => exact .inr ⟨_, rfl⟩

theorem Value.expectName_cases (v : Value) (operation : Operation) :
    (∃ name, v.text? = some name ∧ v.expectName operation = .ok name) ∨
      ∃ fault, v.expectName operation = .error (.ofArgument fault) :=
  v.expectText_cases operation (.symbolText operation)

theorem Value.expectTable_cases (v : Value) (operation : Operation) :
    (∃ id, v = .table id ∧ v.expectTable operation = .ok id) ∨
      ∃ fault, v.expectTable operation = .error (.ofArgument fault) := by
  cases v with
  | table id => exact .inl ⟨id, rfl, rfl⟩
  | _ => exact .inr ⟨_, rfl⟩

/-- Whether an entry of a table is one to import: a name and a pointer. -/
def IsImport (pair : Value × Value) : Prop :=
  (∃ name, pair.1.text? = some name) ∧ ∃ address, pair.2 = .pointer address

theorem importEntry_cases (pair : Value × Value) :
    (IsImport pair ∧ ∃ entry, importEntry pair = .ok entry) ∨
      ∃ fault, importEntry pair = .error (.ofArgument fault) := by
  obtain ⟨key, value⟩ := pair
  rcases key.expectName_cases .importSymbols with ⟨name, hname, hkey⟩ | ⟨fault, hkey⟩
  · simp only [importEntry, hkey]
    cases value with
    | pointer address => exact .inl ⟨⟨⟨name, hname⟩, address, rfl⟩, _, rfl⟩
    | _ => exact .inr ⟨_, rfl⟩
  · exact .inr ⟨fault, by simp only [importEntry, hkey]⟩

/-- The entries of a table can be imported if all of them can. -/
theorem importEntries_cases (pairs : List (Value × Value)) :
    ((∀ pair ∈ pairs, IsImport pair) ∧ ∃ entries, importEntries pairs = .ok entries) ∨
      ∃ fault, importEntries pairs = .error (.ofArgument fault) := by
  induction pairs with
  | nil => exact .inl ⟨fun _ h => (nomatch h), [], rfl⟩
  | cons pair rest ih =>
    rcases importEntry_cases pair with ⟨hpair, entry, hentry⟩ | ⟨fault, hentry⟩
    · rcases ih with ⟨hrest, entries, hentries⟩ | ⟨fault, hentries⟩
      · refine .inl ⟨List.forall_mem_cons.2 ⟨hpair, hrest⟩, entry :: entries, ?_⟩
        simp only [importEntries, hentry, hentries]
        rfl
      · refine .inr ⟨fault, ?_⟩
        simp only [importEntries, hentry, hentries]
        rfl
    · exact .inr ⟨fault, by simp only [importEntries, hentry]⟩

/-! ## Responses to the host -/

/-- What the host is answered; an export also leaves a heap. -/
inductive HostResponse where
  | plain (response : SessionResponse)
  | done (result : Except SessionError Unit)
  | table (result : Except SessionError Unit) (heap : Heap)
  | value (result : Except SessionError Value)

/-- The error of a response. -/
def HostResponse.error? : HostResponse → Option SessionError
  | plain response => response.error?
  | done result | table result _ => (SessionResponse.done result).error?
  | value (.error e) => some e
  | value (.ok _) => none

namespace HostRequest

/-- The operation by which a request is named in a refusal. -/
def operation? : HostRequest → Option Operation
  | plain request => request.operation?
  | compile _ => some .compile
  | importTable _ _ => some .importSymbols
  | exportTable _ _ => some .exportSymbols
  | routine _ => some .exportRoutine

/-- The response with an error and nothing else. -/
def refused (e : SessionError) : HostRequest → HostResponse
  | plain request => .plain (request.refused e)
  | exportTable heap _ => .table (.error e) heap
  | routine _ => .value (.error e)
  | _ => .done (.error e)

/-- The argument has the wrong kind: a source or a name is not text, symbols are not in a table, or
one of those to import is not a name with a pointer. -/
def IllTyped : HostRequest → Prop
  | plain _ => False
  | compile source => source.text? = none
  | importTable heap symbols =>
      symbols.table? = none ∨ ∃ id, symbols = .table id ∧
        ∃ pair ∈ (heap.table id).pairs, ¬ IsImport pair
  | exportTable _ symbols => symbols.table? = none
  | routine name => name.text? = none

end HostRequest

namespace Session

variable [Engine σ] {s : Session σ} {engine : σ} {operation : Operation} {e : SessionError}

/-- The response to a request of the host; `serve` is the session after it. -/
def respond (s : Session σ) : HostRequest → HostResponse
  | .plain request => .plain (s.perform request).1
  | .compile source => .done (s.compileValue source).1
  | .importTable heap symbols => .done (s.importTable heap symbols).1
  | .exportTable heap symbols =>
      .table (s.exportTable heap symbols).1 (s.exportTable heap symbols).2.1
  | .routine name => .value (s.routineValue name).1

theorem respond_of_refusal {request : HostRequest}
    (hoperation : request.operation? = some operation)
    (hrefused : s.state.refusal? operation = some e) :
    s.respond request = request.refused e ∧ s.serve request = s := by
  have hcheck := check_of_refusal hrefused
  cases request with
  | plain request =>
    simp only [respond, serve, perform_of_refusal hoperation hrefused]
    exact ⟨rfl, trivial⟩
  | compile source =>
    cases hoperation
    simp only [respond, serve, compileValue, hcheck]
    exact ⟨rfl, trivial⟩
  | importTable heap symbols =>
    cases hoperation
    simp only [respond, serve, importTable, hcheck]
    exact ⟨rfl, trivial⟩
  | exportTable heap symbols =>
    cases hoperation
    simp only [respond, serve, exportTable, hcheck]
    exact ⟨rfl, trivial⟩
  | routine name =>
    cases hoperation
    simp only [respond, serve, routineValue, hcheck]
    exact ⟨rfl, trivial⟩

/-! ## Behind the gates -/

/-- A request that is allowed fails for other reasons than the state, if at all. -/
theorem Row.isRefusal_of_allowed {request : SessionRequest} {response : SessionResponse}
    {t : Session σ} (h : Row s request response t)
    (hoperation : request.operation? = some operation)
    (hallowed : s.state.refusal? operation = none) (herror : response.error? = some e) :
    e.isRefusal = false := by
  cases h with
  | refused hother hrefused =>
    rw [hoperation] at hother
    cases hother
    rw [hallowed] at hrefused
    cases hrefused
  | compileFailed | relocationFailed | unnamed | exportStopped | missing | routineMissing =>
    cases herror
    rfl
  | _ => cases herror

theorem isRefusal_of_exportKeys (hallowed : s.state.refusal? .exportSymbols = none)
    (hengine : s.engine? = some engine) {id : TableId} {heap : Heap} {keys : List Value}
    (herror : (exportKeys id s heap keys).1 = .error e) : e.isRefusal = false := by
  -- Each key is looked up in a session that the state of the first one still allows to read.
  induction keys generalizing s heap with
  | nil => cases herror
  | cons key rest ih =>
    rcases key.expectName_cases .exportSymbols with ⟨name, -, hkey⟩ | ⟨fault, hkey⟩
    · rw [exportKeys, hkey] at herror
      cases hsymbol : Engine.symbol? engine name with
      | none =>
        simp only [symbol_of_missing hallowed hengine hsymbol] at herror
        cases herror
        rfl
      | some address =>
        simp only [symbol_of_found hallowed hengine hsymbol] at herror
        exact ih (s := s.asked [name]) hallowed hengine herror
    · rw [exportKeys, hkey] at herror
      cases herror
      rfl

theorem Consistent.isRefusal_of_allowed (hs : s.Consistent) {request : HostRequest}
    (hoperation : request.operation? = some operation)
    (hallowed : s.state.refusal? operation = none)
    (herror : (s.respond request).error? = some e) : e.isRefusal = false := by
  have hcheck := check_of_allowed hallowed
  -- An argument of the wrong kind is an error of its own, a right one leaves it to the plain
  -- operation behind the gate.
  cases request with
  | plain request =>
    exact (hs.row_perform request).isRefusal_of_allowed hoperation hallowed herror
  | compile source =>
    cases hoperation
    simp only [respond, compileValue, hcheck] at herror
    rcases source.expectText_cases .compile .sourceText with ⟨text, -, hsource⟩ | ⟨fault, hsource⟩
    · rw [hsource] at herror
      exact (hs.row_perform (.compile text)).isRefusal_of_allowed rfl hallowed herror
    · rw [hsource] at herror
      cases herror
      rfl
  | importTable heap symbols =>
    cases hoperation
    simp only [respond, importTable, hcheck] at herror
    rcases symbols.expectTable_cases .importSymbols with ⟨id, -, htable⟩ | ⟨fault, htable⟩
    · simp only [htable] at herror
      rcases importEntries_cases (heap.table id).pairs with ⟨-, entries, hentries⟩ |
        ⟨fault, hentries⟩
      · simp only [hentries] at herror
        exact (hs.row_perform (.importSymbols entries)).isRefusal_of_allowed rfl hallowed herror
      · simp only [hentries] at herror
        cases herror
        rfl
    · rw [htable] at herror
      cases herror
      rfl
  | exportTable heap symbols =>
    cases hoperation
    obtain ⟨engine, hengine⟩ := hs.exists_engine (isClosed_of_allowed hallowed)
    simp only [respond, exportTable, hcheck] at herror
    rcases symbols.expectTable_cases .exportSymbols with ⟨id, -, htable⟩ | ⟨fault, htable⟩
    · simp only [htable] at herror
      cases hresult : (exportKeys id s heap (heap.table id).keys).1 with
      | ok done =>
        rw [HostResponse.error?, hresult] at herror
        cases herror
      | error other =>
        rw [HostResponse.error?, hresult] at herror
        cases herror
        exact isRefusal_of_exportKeys hallowed hengine hresult
    · rw [htable] at herror
      cases herror
      rfl
  | routine name =>
    cases hoperation
    simp only [respond, routineValue, hcheck] at herror
    rcases name.expectName_cases .exportRoutine with ⟨text, -, hname⟩ | ⟨fault, hname⟩
    · have hrow := hs.row_perform (.routine text)
      simp only [hname] at herror
      simp only [perform] at hrow
      -- The answer is wrapped, an error is passed on.
      generalize s.routine text = answer at herror hrow
      obtain ⟨result, t⟩ := answer
      cases result with
      | ok entry => cases herror
      | error other =>
        cases herror
        exact hrow.isRefusal_of_allowed rfl hallowed rfl
    · rw [hname] at herror
      cases herror
      rfl

/-! ## Arguments of the wrong kind -/

/-- An argument of the wrong kind is refused before the session or a table is touched. -/
theorem respond_of_illTyped {request : HostRequest}
    (hoperation : request.operation? = some operation)
    (hallowed : s.state.refusal? operation = none) (hbad : request.IllTyped) :
    ∃ text, s.respond request = request.refused (.type text) ∧ s.serve request = s := by
  have hcheck := check_of_allowed hallowed
  cases request with
  | plain request => exact hbad.elim
  | compile source =>
    cases hoperation
    rcases source.expectText_cases .compile .sourceText with ⟨text, htext, -⟩ | ⟨fault, hsource⟩
    · rw [hbad] at htext
      cases htext
    · refine ⟨fault.message, ?_⟩
      simp only [respond, serve, compileValue, hcheck, hsource]
      exact ⟨rfl, trivial⟩
  | importTable heap symbols =>
    cases hoperation
    rcases symbols.expectTable_cases .importSymbols with ⟨id, rfl, htable⟩ | ⟨fault, htable⟩
    · rcases importEntries_cases (heap.table id).pairs with ⟨hall, -⟩ | ⟨fault, hentries⟩
      · rcases hbad with hkind | ⟨other, hsame, pair, hpair, hnot⟩
        · cases hkind
        · cases hsame
          exact absurd (hall pair hpair) hnot
      · refine ⟨fault.message, ?_⟩
        simp only [respond, serve, importTable, hcheck, htable, hentries]
        exact ⟨rfl, trivial⟩
    · refine ⟨fault.message, ?_⟩
      simp only [respond, serve, importTable, hcheck, htable]
      exact ⟨rfl, trivial⟩
  | exportTable heap symbols =>
    cases hoperation
    rcases symbols.expectTable_cases .exportSymbols with ⟨id, rfl, -⟩ | ⟨fault, htable⟩
    · cases hbad
    · refine ⟨fault.message, ?_⟩
      simp only [respond, serve, exportTable, hcheck, htable]
      exact ⟨rfl, trivial⟩
  | routine name =>
    cases hoperation
    rcases name.expectName_cases .exportRoutine with ⟨text, htext, -⟩ | ⟨fault, hname⟩
    · rw [hbad] at htext
      cases htext
    · refine ⟨fault.message, ?_⟩
      simp only [respond, serve, routineValue, hcheck, hname]
      exact ⟨rfl, trivial⟩

/-! ## Every reachable session -/

/-- What `check` says of an operation holds of all requests that are for it, and only then the
argument counts. -/
structure GatesFirst (s : Session σ) : Prop where
  /-- If it is an error, the request fails with it, and nothing changes. -/
  refused : ∀ request operation e, request.operation? = some operation →
    s.check operation = .error e →
      e.isRefusal = true ∧ s.respond request = request.refused e ∧ s.serve request = s
  /-- If not, the request does not fail for the state of the session. -/
  allowed : ∀ request operation e, request.operation? = some operation →
    s.check operation = .ok () → (s.respond request).error? = some e → e.isRefusal = false
  /-- An argument of the wrong kind is a type error then, and nothing changes. -/
  illTyped : ∀ request operation, request.operation? = some operation →
    s.check operation = .ok () → request.IllTyped →
      ∃ text, s.respond request = request.refused (.type text) ∧ s.serve request = s

/-- The gates of every session that is reached from a fresh one come before the arguments, and
`check` tells what they do. -/
theorem gates_first (engine : σ) (requests : List HostRequest) :
    ((Session.new engine).serveAll requests).GatesFirst := by
  obtain ⟨plain, hplain⟩ := exists_serveAll_eq_after (Session.new engine) requests
  have hs := consistent_after engine plain
  rw [hplain]
  constructor
  · intro request operation e hoperation hcheck
    have hrefused := check_eq_error_iff.1 hcheck
    exact ⟨SessionState.isRefusal_of_refusal hrefused, respond_of_refusal hoperation hrefused⟩
  · intro request operation e hoperation hcheck herror
    exact hs.isRefusal_of_allowed hoperation (check_eq_ok_iff.1 hcheck) herror
  · intro request operation hoperation hcheck hbad
    exact respond_of_illTyped hoperation (check_eq_ok_iff.1 hcheck) hbad

example : (Session.new (⟨[], .quiet, 2, .quiet, [], none⟩ : ScriptedEngine)).respond
    (.compile (.boolean true)) =
      .done (.error (.type "compile: string expected, got boolean")) := rfl

end Session

end JitHost
