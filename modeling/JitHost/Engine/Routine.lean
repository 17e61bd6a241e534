import JitHost.Address
import JitHost.Number.Double

/-!
# Built-in routines

Compiled code may call a few routines that always exist: rounding of numbers,
fused multiplication, and work on blocks of memory. They are known by the names
under which the C library has them.
-/

namespace JitHost

open Number

/-- What a built-in routine does: round a number to an integer, multiply and add
with one rounding, or copy, fill, move or compare bytes. -/
inductive Routine where
  | round (format : Format) (direction : Direction)
  | fused (format : Format)
  | copy
  | fill
  | move
  | compare
  deriving DecidableEq

namespace Routine

/-- The routines with their names. -/
def table : List (String × Routine) := [
  ("ceilf", round .single .up), ("ceil", round .double .up),
  ("floorf", round .single .down), ("floor", round .double .down),
  ("truncf", round .single .zero), ("trunc", round .double .zero),
  ("nearbyintf", round .single .nearest), ("nearbyint", round .double .nearest),
  ("fmaf", fused .single), ("fma", fused .double),
  ("memcpy", copy), ("memset", fill), ("memmove", move), ("memcmp", compare)]

/-- The routine with a name. -/
def ofName? (name : String) : Option Routine := table.lookup name

/-- Where the routines lie, 16 bytes apart. -/
def firstAddress : Address := 0x560000000000

/-- The address of the routine with a name. -/
def address? (name : String) : Option Address :=
  (table.findIdx? fun entry => entry.1 = name).map fun k => firstAddress.after (16 * k)

/-- The routine at an address. -/
def at? (place : Address) : Option Routine :=
  (table.find? fun entry => address? entry.1 = some place).map Prod.snd

/-- The format of the numbers on which a routine works, none for one that works on
memory. -/
def format? : Routine → Option Format
  | round format _ | fused format => some format
  | _ => none

/-- The result of a routine on the patterns of numbers, none for one that works
on memory or is given another count of numbers. -/
def onNumbers? : Routine → List Nat → Option Nat
  | round format direction, [x] => some (format.integral direction x)
  | fused format, [x, y, z] => some (format.fma x y z)
  | _, _ => none

end Routine

end JitHost
