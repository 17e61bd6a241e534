import JitHost.Link.Patch

/-!
# Writing an image with checked distances

The distance from a site to a value is a difference of two signed words, and that
need not be a signed word itself. A machine that checks its arithmetic stops
there. `Plan.applyChecked` is `Plan.apply` on such a machine, which has no result
if it stops.
-/

namespace JitHost

/-- Whether a patch measures a distance that is no signed word. -/
def patchOverflows (base : Address) (place : Nat) (kind : RelocationKind) (value : Int) : Bool :=
  let distance := value - signedWord (base.toNat + place)
  kind.isRelative && signedWord distance != distance

/-- A patch on a machine that stops where the distance overflows. -/
def patchChecked (buffer : Array UInt8) (base : Address) (place : Nat) (kind : RelocationKind)
    (value : Int) : Option (Except PatchFault (Array UInt8)) :=
  if patchOverflows base place kind value then none else some (patch buffer base place kind value)

namespace Plan

/-- Writes the relocations of the function at `start`, if no distance overflows. -/
def applyRelocationsChecked (base : Address) (start : Nat) :
    List (Relocation × ResolvedTarget) → Array UInt8 →
      Option (Except EngineError Unit × Array UInt8)
  | [], buffer => some (.ok (), buffer)
  | (r, target) :: rest, buffer =>
      match patchChecked buffer base (start + r.offset) r.kind (valueOf base target r.addend) with
      | none => none
      | some (.ok buffer) => applyRelocationsChecked base start rest buffer
      | some (.error fault) =>
          some (.error (.relocationFailed r.kind.text (start + r.offset) fault.reason), buffer)

/-- Copies functions and writes their relocations, if no distance overflows. -/
def applyFunctionsChecked (base : Address) :
    List (CompiledFunction × Nat × List ResolvedTarget) → Array UInt8 →
      Option (Except EngineError Unit × Array UInt8)
  | [], buffer => some (.ok (), buffer)
  | (function, start, targets) :: rest, buffer =>
      let buffer := writeAt buffer start function.code
      match applyRelocationsChecked base start (function.relocations.zip targets) buffer with
      | some (.ok (), buffer) => applyFunctionsChecked base rest buffer
      | ended => ended

/-- Writes the image of functions into a buffer that lies at `base`, if no distance
overflows on the way. -/
def applyChecked (plan : Plan) (functions : List CompiledFunction) (base : Address)
    (buffer : Array UInt8) : Option (Except EngineError Unit × Array UInt8) :=
  if buffer.size < plan.size then
    some (.error (.bufferTooSmall plan.size buffer.size), buffer)
  else
    applyFunctionsChecked base (functions.zip (plan.starts.zip plan.targets))
      (Array.replicate buffer.size 0)

end Plan

end JitHost
