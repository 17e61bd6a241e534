import JitHost.Proofs.Session.Requests

/-!
# The steps of a relocation

A relocation asks the engine for a size, allocates a buffer, has the engine fill it and makes it
executable. `Materializes` says that all four steps succeed and what comes of them, and
`RelocationFault` at which of them a relocation fails, after which calls and with which log. One of
the two is the case for every engine and memory (`materializes_or_fault`), and each of them decides
what `Session.relocate` does.
-/

namespace JitHost

/-! ## Buffers -/

namespace CodeBuffer

/-- A buffer of zeros that can be written. -/
def zeros (place : Address) (size : Nat) : CodeBuffer := ⟨place, Array.replicate size 0, false⟩

@[simp] theorem place_zeros (place : Address) (size : Nat) : (zeros place size).place = place :=
  rfl

@[simp] theorem executable_zeros (place : Address) (size : Nat) :
    (zeros place size).executable = false :=
  rfl

@[simp] theorem writable_zeros (place : Address) (size : Nat) :
    (zeros place size).writable = .ok (Array.replicate size 0) :=
  rfl

theorem allocate_eq_ok {memory : MemoryService} {size : Nat} {buffer : CodeBuffer}
    (h : allocate memory size = .ok buffer) : buffer = zeros buffer.place size := by
  unfold allocate at h
  by_cases hempty : size = 0
  · rw [if_pos hempty] at h
    cases h
    subst hempty
    rfl
  · rw [if_neg hempty] at h
    cases hmap : memory.map size with
    | error reason =>
      rw [hmap] at h
      cases h
    | ok place =>
      rw [hmap] at h
      cases h
      rfl

/-- Making a buffer executable keeps its place and its bytes. -/
theorem makeExecutable_eq_ok {memory : MemoryService} {buffer code : CodeBuffer}
    (h : buffer.makeExecutable memory = .ok code) :
    code = { buffer with executable := true } := by
  unfold makeExecutable at h
  by_cases hdone : buffer.executable ∨ buffer.isEmpty
  · rw [if_pos hdone] at h
    cases h
    rfl
  · rw [if_neg hdone] at h
    cases hprotect : memory.protect buffer.place with
    | error reason =>
      rw [hprotect] at h
      cases h
    | ok done =>
      rw [hprotect] at h
      cases h
      rfl

end CodeBuffer

variable [Engine σ]

/-- What an engine answers that has told the size of its code and is then asked to write it to zeros
at a place. -/
def Engine.filling (engine : σ) (place : Address) (size : Nat) :
    Attempt Unit × Vector UInt8 (Array.replicate size (0 : UInt8)).size × σ :=
  Engine.fill (Engine.imageSize engine).2 place (Array.replicate size 0).toVector

/-- The buffer as the engine leaves it. -/
def Engine.filled (engine : σ) (place : Address) (size : Nat) : CodeBuffer :=
  ⟨place, (Engine.filling engine place size).2.1.toArray, false⟩

/-- All steps of a relocation to a place succeed. -/
structure Materializes (engine : σ) (memory : MemoryService) (size : Nat) (place : Address) :
    Prop where
  sizing : (Engine.imageSize engine).1.outcome = .ok size
  allocation : CodeBuffer.allocate memory size = .ok (.zeros place size)
  filling : (Engine.filling engine place size).1.outcome = .ok ()
  sealing : (Engine.filled engine place size).makeExecutable memory =
    .ok { Engine.filled engine place size with executable := true }

/-- A step of a relocation fails, after some calls on the engine, with a log and a cause. -/
inductive RelocationFault (engine : σ) (memory : MemoryService) :
    List EngineCall → ErrorLog → EngineError → Prop where
  | sizing {cause : EngineError} (hsizing : (Engine.imageSize engine).1.outcome = .error cause) :
      RelocationFault engine memory [.size] ⟨(Engine.imageSize engine).1.diagnostics⟩ cause
  | allocation {size : Nat} {cause : EngineError}
      (hsized : (Engine.imageSize engine).1.outcome = .ok size)
      (hallocation : CodeBuffer.allocate memory size = .error cause) :
      RelocationFault engine memory [.size] ⟨(Engine.imageSize engine).1.diagnostics⟩ cause
  | filling {size : Nat} {place : Address} {cause : EngineError}
      (hsized : (Engine.imageSize engine).1.outcome = .ok size)
      (hallocated : CodeBuffer.allocate memory size = .ok (.zeros place size))
      (hfilling : (Engine.filling engine place size).1.outcome = .error cause) :
      RelocationFault engine memory [.size, .fill size]
        ⟨(Engine.imageSize engine).1.diagnostics ++
          (Engine.filling engine place size).1.diagnostics⟩ cause
  | sealing {size : Nat} {place : Address} {cause : EngineError}
      (hsized : (Engine.imageSize engine).1.outcome = .ok size)
      (hallocated : CodeBuffer.allocate memory size = .ok (.zeros place size))
      (hfilled : (Engine.filling engine place size).1.outcome = .ok ())
      (hsealing : (Engine.filled engine place size).makeExecutable memory = .error cause) :
      RelocationFault engine memory [.size, .fill size]
        ⟨(Engine.imageSize engine).1.diagnostics ++
          (Engine.filling engine place size).1.diagnostics⟩ cause

/-- Either all steps succeed or one of them is the first to fail. -/
theorem materializes_or_fault (engine : σ) (memory : MemoryService) :
    (∃ size place, Materializes engine memory size place) ∨
      ∃ calls log cause, RelocationFault engine memory calls log cause := by
  cases hsized : (Engine.imageSize engine).1.outcome with
  | error cause => exact .inr ⟨_, _, _, .sizing hsized⟩
  | ok size =>
    cases hallocated : CodeBuffer.allocate memory size with
    | error cause => exact .inr ⟨_, _, _, .allocation hsized hallocated⟩
    | ok buffer =>
      -- What was allocated are zeros, and so the engine is asked to fill just those.
      have hzeros := CodeBuffer.allocate_eq_ok hallocated
      rw [hzeros] at hallocated
      cases hfilled : (Engine.filling engine buffer.place size).1.outcome with
      | error cause => exact .inr ⟨_, _, _, .filling hsized hallocated hfilled⟩
      | ok done =>
        cases hsealed : (Engine.filled engine buffer.place size).makeExecutable memory with
        | error cause => exact .inr ⟨_, _, _, .sealing hsized hallocated hfilled hsealed⟩
        | ok code =>
          rw [CodeBuffer.makeExecutable_eq_ok hsealed] at hsealed
          exact .inl ⟨size, buffer.place, hsized, hallocated, hfilled, hsealed⟩

namespace Session

variable {s : Session σ} {memory : MemoryService} {engine : σ}

/-- The session without engine and code, whose engine was released last. -/
def closedBy (s : Session σ) (cause : CloseCause) (calls : List EngineCall) : Session σ :=
  ⟨none, none, .closed cause, s.calls ++ calls ++ [.release]⟩

/-- The session with the code that its engine wrote. -/
def materializedAt (s : Session σ) (engine : σ) (place : Address) (size : Nat) : Session σ :=
  ⟨some (Engine.filling engine place size).2.2,
    some { Engine.filled engine place size with executable := true }, .relocated,
    s.calls ++ [.size, .fill size]⟩

theorem relocate_of_materializes (hallowed : s.state.refusal? .relocate = none)
    (hengine : s.engine? = some engine) {size : Nat} {place : Address}
    (h : Materializes engine memory size place) :
    s.relocate memory = (.ok size, s.materializedAt engine place size) := by
  obtain ⟨hsizing, hallocation, hfilling, hsealing⟩ := h
  unfold materializedAt
  unfold Engine.filled Engine.filling at *
  simp only [relocate, engineFor_of_allowed hallowed hengine, hsizing, materialize, hallocation,
    CodeBuffer.writable_zeros, CodeBuffer.place_zeros, CodeBuffer.executable_zeros, hfilling,
    hsealing]
  simp [afterCall]

theorem relocate_of_fault (hallowed : s.state.refusal? .relocate = none)
    (hengine : s.engine? = some engine) {calls : List EngineCall} {log : ErrorLog}
    {cause : EngineError} (h : RelocationFault engine memory calls log cause) :
    s.relocate memory =
      (.error (log.relocationError cause), s.closedBy .relocationFailed calls) := by
  cases h with
  | sizing hsizing =>
    simp only [relocate, engineFor_of_allowed hallowed hengine, hsizing]
    rfl
  | allocation hsized hallocation =>
    simp only [relocate, engineFor_of_allowed hallowed hengine, hsized, materialize, hallocation]
    rfl
  | filling hsized hallocated hfilling =>
    unfold Engine.filling at hfilling ⊢
    simp only [relocate, engineFor_of_allowed hallowed hengine, hsized, materialize, hallocated,
      CodeBuffer.writable_zeros, CodeBuffer.place_zeros, hfilling, failRelocation, ErrorLog.append]
    simp [release, afterCall, closedBy]
  | sealing hsized hallocated hfilled hsealing =>
    unfold Engine.filled Engine.filling at *
    simp only [relocate, engineFor_of_allowed hallowed hengine, hsized, materialize, hallocated,
      CodeBuffer.writable_zeros, CodeBuffer.place_zeros, CodeBuffer.executable_zeros, hfilled,
      hsealing, failRelocation, ErrorLog.append]
    simp [release, afterCall, closedBy]

end Session

end JitHost
