import JitHost.Text.Bytes
import JitHost.Text.Digits

/-!
# Bytes in hexadecimal

Each byte is written with two hexadecimal digits. Main statement: `ofHex?_hexChars`,
what is written reads back.
-/

namespace JitHost.Text.Bytes

/-- The two digits of a byte. -/
def hexPair (byte : UInt8) : List Char :=
  [Nat.digitChar (byte.toNat / 16), Nat.digitChar (byte.toNat % 16)]

/-- The digits of bytes. -/
def hexChars (bytes : Bytes) : List Char := bytes.flatMap hexPair

/-- Bytes in hexadecimal. -/
def hex (bytes : Bytes) : String := String.ofList (hexChars bytes)

/-- The bytes that hexadecimal digits stand for, two for each. -/
def ofHex? : List Char → Option Bytes
  | [] => some []
  | [_] => none
  | high :: low :: rest =>
      match natural? 16 [high, low], ofHex? rest with
      | some n, some bytes => some (UInt8.ofNat n :: bytes)
      | _, _ => none

theorem natural?_hexPair (byte : UInt8) : natural? 16 (hexPair byte) = some byte.toNat := by
  have all : ∀ n < 256, natural? 16 [Nat.digitChar (n / 16), Nat.digitChar (n % 16)] = some n := by
    decide +kernel
  exact all byte.toNat byte.toNat_lt

/-- What is written reads back. -/
theorem ofHex?_hexChars (bytes : Bytes) : ofHex? (hexChars bytes) = some bytes := by
  induction bytes with
  | nil => rfl
  | cons byte rest ih =>
      have pair := natural?_hexPair byte
      rw [hexPair] at pair
      rw [hexChars] at ih
      simp [hexChars, hexPair, ofHex?, pair, ih]

end JitHost.Text.Bytes
