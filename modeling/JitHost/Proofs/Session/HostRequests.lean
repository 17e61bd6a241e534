import JitHost.Proofs.Session.Requests
import JitHost.Session.Values

/-!
# Requests with values of the host

The host asks a session with its own values: strings for sources and names, tables for symbols.
Whatever such a request does to the session is what some run of plain requests does
(`exists_serve_eq_after`), so what holds of a session after every run of plain requests also holds
of it when the host has asked.
-/

namespace JitHost

theorem Value.expectText_of_text? {v : Value} {text : String} (h : v.text? = some text)
    (operation : Operation) (fault : ArgumentFault) : v.expectText operation fault = .ok text := by
  cases v with
  | string bytes =>
    have htext : Text.Bytes.text? bytes = some text := h
    rw [expectText, htext]
  | _ => cases h

theorem Value.expectName_of_text? {v : Value} {name : String} (h : v.text? = some name)
    (operation : Operation) : v.expectName operation = .ok name :=
  expectText_of_text? h operation (.symbolText operation)

/-- What the host can ask of a session; the tables are those of a heap. -/
inductive HostRequest where
  | plain (request : SessionRequest)
  | compile (source : Value)
  | importTable (heap : Heap) (symbols : Value)
  | exportTable (heap : Heap) (symbols : Value)
  | routine (name : Value)

namespace Session

variable [Engine σ]

/-- The session after a request of the host. -/
def serve (s : Session σ) : HostRequest → Session σ
  | .plain request => (s.perform request).2
  | .compile source => (s.compileValue source).2
  | .importTable heap symbols => (s.importTable heap symbols).2
  | .exportTable heap symbols => (s.exportTable heap symbols).2.2
  | .routine name => (s.routineValue name).2

/-- The session after requests of the host. -/
def serveAll (s : Session σ) : List HostRequest → Session σ
  | [] => s
  | request :: rest => (s.serve request).serveAll rest

theorem after_append (s : Session σ) (requests later : List SessionRequest) :
    s.after (requests ++ later) = (s.after requests).after later := by
  induction requests generalizing s with
  | nil => rfl
  | cons request rest ih => exact ih (s.perform request).2

/-- An export to a table asks for one symbol after another. -/
theorem exists_exportKeys_eq_after (id : TableId) (s : Session σ) (heap : Heap)
    (keys : List Value) : ∃ requests, (exportKeys id s heap keys).2.2 = s.after requests := by
  induction keys generalizing s heap with
  | nil => exact ⟨[], rfl⟩
  | cons key rest ih =>
    rw [exportKeys]
    cases key.expectName .exportSymbols with
    | error e => exact ⟨[], rfl⟩
    | ok name =>
      have hasked : s.after [.symbol name] = (s.symbol name).2 := rfl
      simp only
      generalize s.symbol name = answer at hasked ⊢
      obtain ⟨result, t⟩ := answer
      cases result with
      | error e => exact ⟨[.symbol name], hasked.symm⟩
      | ok address =>
        obtain ⟨requests, hrequests⟩ := ih t
          (heap.update id ((heap.table id).assignOrSkip (.ofText name, .pointer address)))
        refine ⟨[.symbol name] ++ requests, ?_⟩
        rw [after_append, hasked]
        exact hrequests

/-- A request of the host does to a session what some run of plain requests does. -/
theorem exists_serve_eq_after (s : Session σ) (request : HostRequest) :
    ∃ requests, s.serve request = s.after requests := by
  cases request with
  | plain request => exact ⟨[request], rfl⟩
  | compile source =>
    simp only [serve, compileValue]
    cases s.check .compile with
    | error e => exact ⟨[], rfl⟩
    | ok done =>
      cases source.expectText .compile .sourceText with
      | error e => exact ⟨[], rfl⟩
      | ok text => exact ⟨[.compile text], rfl⟩
  | importTable heap symbols =>
    simp only [serve, importTable]
    cases s.check .importSymbols with
    | error e => exact ⟨[], rfl⟩
    | ok done =>
      cases symbols.expectTable .importSymbols with
      | error e => exact ⟨[], rfl⟩
      | ok id =>
        cases hentries : importEntries (heap.table id).pairs with
        | error e => exact ⟨[], by simp only [hentries]; rfl⟩
        | ok entries => exact ⟨[.importSymbols entries], by simp only [hentries]; rfl⟩
  | exportTable heap symbols =>
    simp only [serve, exportTable]
    cases s.check .exportSymbols with
    | error e => exact ⟨[], rfl⟩
    | ok done =>
      cases symbols.expectTable .exportSymbols with
      | error e => exact ⟨[], rfl⟩
      | ok id => exact exists_exportKeys_eq_after id s heap (heap.table id).keys
  | routine name =>
    simp only [serve, routineValue]
    cases s.check .exportRoutine with
    | error e => exact ⟨[], rfl⟩
    | ok done =>
      cases name.expectName .exportRoutine with
      | error e => exact ⟨[], rfl⟩
      | ok name =>
        -- The answer is wrapped or passed on, the session is the same.
        have hasked : s.after [.routine name] = (s.routine name).2 := rfl
        refine ⟨[.routine name], ?_⟩
        simp only [hasked]
        generalize s.routine name = answer
        obtain ⟨result, t⟩ := answer
        cases result <;> rfl

theorem exists_serveAll_eq_after (s : Session σ) (requests : List HostRequest) :
    ∃ plain, s.serveAll requests = s.after plain := by
  induction requests generalizing s with
  | nil => exact ⟨[], rfl⟩
  | cons request rest ih =>
    obtain ⟨first, hfirst⟩ := s.exists_serve_eq_after request
    obtain ⟨later, hlater⟩ := ih (s.serve request)
    refine ⟨first ++ later, ?_⟩
    rw [serveAll, hlater, hfirst, after_append]

end Session

end JitHost
