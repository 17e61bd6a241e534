/-!
# Words in memory

Numbers as bytes, the least significant one first, and buffers of bytes in which
single pieces are read and written.
-/

-- A power has the core instance whatever algebra is in scope beside it.
attribute [instance (1100), default_instance 20000] instPowNat

namespace JitHost

/-- A machine word read as a signed number. -/
def signedWord (n : Int) : Int := n.bmod (2 ^ 64)

/-- The low `count` bytes of a number, the least significant one first. -/
def littleEndian : Nat → Nat → List UInt8
  | 0, _ => []
  | count + 1, n => UInt8.ofNat n :: littleEndian count (n / 256)

/-- The number whose bytes these are, the least significant one first. -/
def ofLittleEndian : List UInt8 → Nat
  | [] => 0
  | byte :: rest => byte.toNat + 256 * ofLittleEndian rest

@[simp] theorem length_littleEndian (count n : Nat) : (littleEndian count n).length = count := by
  induction count generalizing n with
  | zero => rfl
  | succ count ih => simp [littleEndian, ih]

/-- The bytes of a number tell it up to the part that they leave out. -/
theorem ofLittleEndian_littleEndian (count n : Nat) :
    ofLittleEndian (littleEndian count n) = n % 256 ^ count := by
  induction count generalizing n with
  | zero => simp [littleEndian, ofLittleEndian, Nat.mod_one]
  | succ count ih =>
      have split : n % 256 ^ (count + 1) = n % 256 + 256 * (n / 256 % 256 ^ count) := by
        rw [Nat.pow_succ, Nat.mul_comm, Nat.mod_mul]
      rw [littleEndian, ofLittleEndian, ih, split]
      simp

/-- A buffer with bytes written from a place on; bytes beyond its end are lost. -/
def writeAt (buffer : Array UInt8) (place : Nat) : List UInt8 → Array UInt8
  | [] => buffer
  | byte :: rest => writeAt (buffer.setIfInBounds place byte) (place + 1) rest

/-- Some bytes of a buffer. -/
def readAt (buffer : Array UInt8) (place count : Nat) : List UInt8 :=
  (buffer.extract place (place + count)).toList

theorem size_writeAt (buffer : Array UInt8) (place : Nat) (bytes : List UInt8) :
    (writeAt buffer place bytes).size = buffer.size := by
  induction bytes generalizing buffer place with
  | nil => rfl
  | cons byte rest ih => simp [writeAt, ih]

/-- A buffer with a block of bytes moved to a place; both may overlap. -/
def moveBytes (buffer : Array UInt8) (target source count : Nat) : Array UInt8 :=
  writeAt buffer target (readAt buffer source count)

/-- A buffer with one byte in all of a block. -/
def fillBytes (buffer : Array UInt8) (target : Nat) (byte : UInt8) (count : Nat) : Array UInt8 :=
  writeAt buffer target (List.replicate count byte)

/-- The sign of the difference of two blocks of bytes of one length: that of the
first bytes in which they differ. -/
def compareBytes : List UInt8 → List UInt8 → Int
  | a :: as, b :: bs => if a = b then compareBytes as bs else if a < b then -1 else 1
  | _, _ => 0

end JitHost
