/-!
# Byte strings and text

A byte string is a list of bytes of any values. `Bytes.ofText` encodes text in
UTF-8, `Bytes.text?` decodes a byte string that is well formed, and `Bytes.lossy`
decodes any byte string by putting one replacement character for each longest
piece that begins a character and cannot be completed.
-/

namespace JitHost.Text

/-- A string of bytes, well formed as text or not. -/
abbrev Bytes := List UInt8

namespace Bytes

/-- Text encoded in UTF-8. -/
def ofText (text : String) : Bytes := text.toUTF8.data.toList

/-- A well-formed byte string as text. -/
def text? (bytes : Bytes) : Option String := String.fromUTF8? ⟨bytes.toArray⟩

/-- The bytes before the first zero byte: what a reader of a terminated string
sees. -/
def untilZero (bytes : Bytes) : Bytes := bytes.takeWhile (· ≠ 0)

/-- How a character goes on after its first byte: how many bytes follow, the
bounds of the first of them, and the first byte's share of the code point. -/
structure Lead where
  following : Nat
  least : UInt8
  greatest : UInt8
  share : Nat

/-- The lead of a byte that begins a character of several bytes. The narrowed
bounds rule out overlong forms, surrogates and code points that are too great. -/
def lead? (byte : UInt8) : Option Lead :=
  if 0xC2 ≤ byte ∧ byte ≤ 0xDF then some ⟨1, 0x80, 0xBF, byte.toNat - 0xC0⟩
  else if byte = 0xE0 then some ⟨2, 0xA0, 0xBF, 0⟩
  else if byte = 0xED then some ⟨2, 0x80, 0x9F, 0xD⟩
  else if 0xE1 ≤ byte ∧ byte ≤ 0xEF then some ⟨2, 0x80, 0xBF, byte.toNat - 0xE0⟩
  else if byte = 0xF0 then some ⟨3, 0x90, 0xBF, 0⟩
  else if byte = 0xF4 then some ⟨3, 0x80, 0x8F, 4⟩
  else if 0xF1 ≤ byte ∧ byte ≤ 0xF3 then some ⟨3, 0x80, 0xBF, byte.toNat - 0xF0⟩
  else none

/-- Reads `count` further bytes of a character, the first one between `least`
and `greatest`. Gives the code point, or none at the first byte that does not
belong, and the bytes left. -/
def readRest : Nat → UInt8 → UInt8 → Nat → Bytes → Option Nat × Bytes
  | 0, _, _, value, bytes => (some value, bytes)
  | _ + 1, _, _, _, [] => (none, [])
  | count + 1, least, greatest, value, byte :: bytes =>
      if least ≤ byte ∧ byte ≤ greatest then
        readRest count 0x80 0xBF (64 * value + (byte.toNat - 0x80)) bytes
      else (none, byte :: bytes)

theorem readRest_length_le (count : Nat) (least greatest : UInt8) (value : Nat)
    (bytes : Bytes) : (readRest count least greatest value bytes).2.length ≤ bytes.length := by
  induction count generalizing least greatest value bytes with
  | zero => simp [readRest]
  | succ count ih =>
      cases bytes with
      | nil => simp [readRest]
      | cons byte bytes =>
          simp only [readRest]
          split
          · exact Nat.le_succ_of_le (ih ..)
          · exact Nat.le_refl _

/-- The replacement character. -/
def replacement : Char := '\uFFFD'

/-- The characters of a byte string, with a replacement for each ill-formed
piece. -/
def lossyChars : Bytes → List Char
  | [] => []
  | byte :: bytes =>
      if byte < 0x80 then Char.ofNat byte.toNat :: lossyChars bytes
      else
        match lead? byte with
        | none => replacement :: lossyChars bytes
        | some lead =>
            let read := readRest lead.following lead.least lead.greatest lead.share bytes
            (match read.1 with
              | some value => Char.ofNat value
              | none => replacement) :: lossyChars read.2
termination_by bytes => bytes.length
decreasing_by
  · simp
  · simp
  · have := readRest_length_le lead.following lead.least lead.greatest lead.share bytes
    simp
    omega

/-- A byte string as text, ill-formed pieces replaced. -/
def lossy (bytes : Bytes) : String := String.ofList (lossyChars bytes)

end Bytes

end JitHost.Text
