import JitHost.Link.Plan
import JitHost.Word

/-!
# Writing an image

`Plan.apply` clears a buffer, copies the code of every function to its place and
writes every relocation for the address at which the buffer lies. It stops at the
first value that its relocation cannot hold; what was written before stays.
-/

namespace JitHost

/-- Why a relocation cannot be written. -/
inductive PatchFault where
  | addressTooWide
  | targetTooFar
  | branchMisaligned
  | branchTooFar
  | outsideBuffer
  | unsupported
  deriving DecidableEq

/-- The reason given for a fault. -/
def PatchFault.reason : PatchFault → String
  | addressTooWide => "address does not fit in 32 bits"
  | targetTooFar => "target is further than 2 GiB from the call site"
  | branchMisaligned => "branch target is not 4-byte aligned"
  | branchTooFar => "branch target is further than 128 MiB"
  | outsideBuffer => "patch site lies outside the buffer"
  | unsupported => "unsupported relocation kind"

/-- Writes bytes to a place that has to lie in the buffer. -/
def writeSite (buffer : Array UInt8) (place : Nat) (bytes : List UInt8) :
    Except PatchFault (Array UInt8) :=
  if place + bytes.length ≤ buffer.size then .ok (writeAt buffer place bytes)
  else .error .outsideBuffer

theorem size_writeSite {buffer after : Array UInt8} {place : Nat} {bytes : List UInt8}
    (h : writeSite buffer place bytes = .ok after) : after.size = buffer.size := by
  unfold writeSite at h
  split at h
  · cases h
    exact size_writeAt ..
  · cases h

/-- Writes `value` to a place by a kind of relocation. The buffer lies at `base`;
kinds relative to the program counter count from the place itself. -/
def patch (buffer : Array UInt8) (base : Address) (place : Nat) (kind : RelocationKind)
    (value : Int) : Except PatchFault (Array UInt8) :=
  let distance := value - signedWord (base.toNat + place)
  match kind with
  | .abs4 =>
      if 0 ≤ value ∧ value < 2 ^ 32 then
        writeSite buffer place (littleEndian 4 value.toNat)
      else .error .addressTooWide
  | .abs8 => writeSite buffer place (littleEndian 8 (value % 2 ^ 64).toNat)
  | .x86PCRel4 | .x86CallPCRel4 | .x86CallPLTRel4 =>
      if -2 ^ 31 ≤ distance ∧ distance < 2 ^ 31 then
        writeSite buffer place (littleEndian 4 (distance % 2 ^ 32).toNat)
      else .error .targetTooFar
  | .arm64Call =>
      if distance % 4 ≠ 0 then .error .branchMisaligned
      else
        let words := distance / 4
        if -2 ^ 25 ≤ words ∧ words < 2 ^ 25 then
          let instruction := ofLittleEndian (readAt buffer place 4)
          writeSite buffer place
            (littleEndian 4 (instruction ||| (words % 2 ^ 26).toNat))
        else .error .branchTooFar
  | .other _ => .error .unsupported

theorem size_patch {buffer after : Array UInt8} {base : Address} {place : Nat}
    {kind : RelocationKind} {value : Int} (h : patch buffer base place kind value = .ok after) :
    after.size = buffer.size := by
  have written : ∀ {p : Prop} [Decidable p] {bytes : List UInt8} {fault : PatchFault},
      (if p then writeSite buffer place bytes else .error fault) = .ok after →
        after.size = buffer.size := by
    intro p _ bytes fault h
    split at h
    · exact size_writeSite h
    · exact nomatch h
  cases kind with
  | abs4 => exact written h
  | abs8 => exact size_writeSite h
  | x86PCRel4 => exact written h
  | x86CallPCRel4 => exact written h
  | x86CallPLTRel4 => exact written h
  | arm64Call =>
      simp only [patch] at h
      split at h
      · exact nomatch h
      · exact written h
  | other => exact nomatch h

namespace Plan

/-- The value that a relocation asks for: its target's address and its addend,
added as machine words. -/
def valueOf (base : Address) (target : ResolvedTarget) (addend : Int) : Int :=
  let address : Address := match target with
    | .inside offset => base.after offset
    | .outside address => address
  signedWord (signedWord address.toNat + addend)

/-- Writes the relocations of the function at `start`. -/
def applyRelocations (base : Address) (start : Nat) :
    List (Relocation × ResolvedTarget) → Array UInt8 →
      Except EngineError Unit × Array UInt8
  | [], buffer => (.ok (), buffer)
  | (r, target) :: rest, buffer =>
      match patch buffer base (start + r.offset) r.kind (valueOf base target r.addend) with
      | .ok buffer => applyRelocations base start rest buffer
      | .error fault =>
          (.error (.relocationFailed r.kind.text (start + r.offset) fault.reason), buffer)

theorem size_applyRelocations (base : Address) (start : Nat)
    (relocations : List (Relocation × ResolvedTarget)) (buffer : Array UInt8) :
    (applyRelocations base start relocations buffer).2.size = buffer.size := by
  induction relocations generalizing buffer with
  | nil => rfl
  | cons entry rest ih =>
      obtain ⟨r, target⟩ := entry
      unfold applyRelocations
      split
      · rename_i after h
        rw [ih, size_patch h]
      · rfl

/-- Copies functions to their places and writes their relocations. -/
def applyFunctions (base : Address) :
    List (CompiledFunction × Nat × List ResolvedTarget) → Array UInt8 →
      Except EngineError Unit × Array UInt8
  | [], buffer => (.ok (), buffer)
  | (function, start, targets) :: rest, buffer =>
      let buffer := writeAt buffer start function.code
      match applyRelocations base start (function.relocations.zip targets) buffer with
      | (.ok (), buffer) => applyFunctions base rest buffer
      | failed => failed

theorem size_applyFunctions (base : Address)
    (functions : List (CompiledFunction × Nat × List ResolvedTarget)) (buffer : Array UInt8) :
    (applyFunctions base functions buffer).2.size = buffer.size := by
  induction functions generalizing buffer with
  | nil => rfl
  | cons entry rest ih =>
      obtain ⟨function, start, targets⟩ := entry
      have size := size_applyRelocations base start (function.relocations.zip targets)
        (writeAt buffer start function.code)
      rw [size_writeAt] at size
      simp only [applyFunctions]
      split
      · rename_i h
        rw [h] at size
        rw [ih, size]
      · exact size

/-- Writes the image of functions into a buffer that lies at `base`. -/
def apply (plan : Plan) (functions : List CompiledFunction) (base : Address)
    (buffer : Array UInt8) : Except EngineError Unit × Array UInt8 :=
  if buffer.size < plan.size then (.error (.bufferTooSmall plan.size buffer.size), buffer)
  else
    applyFunctions base (functions.zip (plan.starts.zip plan.targets))
      (Array.replicate buffer.size 0)

/-- Writing an image keeps the length of the buffer. -/
theorem size_apply (plan : Plan) (functions : List CompiledFunction) (base : Address)
    (buffer : Array UInt8) : (plan.apply functions base buffer).2.size = buffer.size := by
  unfold apply
  split
  · rfl
  · rw [size_applyFunctions, Array.size_replicate]

end Plan

end JitHost
