import JitHost.Text.Quoted

/-!
# Addresses

An address is a 64-bit word. The library never looks behind one: it is the
identity of a function or the payload of a pointer.
-/

namespace JitHost

/-- A 64-bit address. -/
abbrev Address := UInt64

/-- The address that points to nothing. -/
def Address.null : Address := 0

/-- The address `offset` bytes after another one. -/
def Address.after (base : Address) (offset : Nat) : Address := base + UInt64.ofNat offset

/-- An address in hexadecimal. -/
def Address.text (address : Address) : String := Text.hex address.toNat

end JitHost
