import JitHost.Address
import JitHost.Word

/-!
# Memory

The memory that running code sees is a list of regions, each a run of bytes at
some address. Slots of running functions lie on a stack of regions above those
that stay. Strings that code has been given are kept, one copy of each.
-/

namespace JitHost.Ir

/-- Bytes at an address. -/
structure Region where
  base : Nat
  bytes : Array UInt8

/-- Whether bytes at an address lie in a region. -/
def Region.holds (region : Region) (address count : Nat) : Bool :=
  region.base ≤ address && address + count ≤ region.base + region.bytes.size

/-- All memory: the slots of running functions, the latest first, with the place
of the next one, the other regions, and the strings handed out so far with the
place of the next one. -/
structure Memory where
  slots : List Region
  nextSlot : Nat
  regions : List Region
  strings : List (List UInt8 × Nat)
  nextString : Nat

namespace Memory

/-- Where slots begin. -/
def firstSlot : Nat := 0x7ffd00000000

/-- Where strings begin. -/
def firstString : Nat := 0x610000000000

/-- Memory with the given regions. -/
def new (regions : List Region) : Memory := ⟨[], firstSlot, regions, [], firstString⟩

variable (m : Memory)

/-- The region in which bytes at an address lie. -/
def region? (address count : Nat) : Option Region :=
  (m.slots.find? fun region => region.holds address count) <|>
    m.regions.find? fun region => region.holds address count

/-- Bytes at an address. -/
def read? (address count : Nat) : Option (List UInt8) :=
  (m.region? address count).map fun region =>
    readAt region.bytes (address - region.base) count

/-- Regions with bytes written to an address, none if they lie in none of them. -/
def writeRegions? (address : Nat) (bytes : List UInt8) : List Region → Option (List Region)
  | [] => none
  | region :: rest =>
      if region.holds address bytes.length then
        some ({ region with
          bytes := writeAt region.bytes (address - region.base) bytes } :: rest)
      else (writeRegions? address bytes rest).map (region :: ·)

/-- Memory with bytes written to an address. -/
def write? (address : Nat) (bytes : List UInt8) : Option Memory :=
  match writeRegions? address bytes m.slots with
  | some slots => some { m with slots }
  | none => (writeRegions? address bytes m.regions).map fun regions => { m with regions }

/-- The bytes before the first zero byte from an address on. -/
def text? (address : Nat) : Option (List UInt8) :=
  (m.region? address 1).bind fun region =>
    let rest := region.bytes.toList.drop (address - region.base)
    let text := rest.takeWhile (· ≠ 0)
    if text.length < rest.length then some text else none

/-- The address of a string with a zero byte after it. -/
def handOut (text : List UInt8) : Nat × Memory :=
  match m.strings.lookup text with
  | some address => (address, m)
  | none =>
      let address := m.nextString
      (address, { m with
        regions := ⟨address, (text ++ [0]).toArray⟩ :: m.regions
        strings := (text, address) :: m.strings
        nextString := address + (text.length / 16 + 1) * 16 })

/-- Memory with a new slot of some bytes, and its address. -/
def pushSlot (size : Nat) : Nat × Memory :=
  (m.nextSlot, { m with
    slots := ⟨m.nextSlot, Array.replicate size 0⟩ :: m.slots
    nextSlot := m.nextSlot + (size / 16 + 1) * 16 })

/-- Memory without the latest slots, as it was when the next one had the given
place. -/
def popSlots (place : Nat) : Memory :=
  { m with slots := m.slots.filter fun region => region.base < place, nextSlot := place }

end Memory

end JitHost.Ir
