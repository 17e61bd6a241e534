import JitHost.Word

/-!
# Bytes written and read

What a buffer holds after a write, inside and outside of the stretch that was written, and which
number four or eight bytes of it are. Signed words are compared as they are, by `signedWord`: two
numbers with the same signed word agree modulo `2 ^ 64`.
-/

namespace JitHost

/-! ## Buffers -/

theorem getElem?_writeAt_of_outside {buffer : Array UInt8} {place : Nat} {bytes : List UInt8}
    {p : Nat} (houtside : p < place ∨ place + bytes.length ≤ p) :
    (writeAt buffer place bytes)[p]? = buffer[p]? := by
  induction bytes generalizing buffer place with
  | nil => rfl
  | cons byte rest ih =>
    rw [List.length_cons] at houtside
    have hne : place ≠ p := by omega
    rw [writeAt, ih (by omega), Array.getElem?_setIfInBounds, if_neg hne]

/-- A write that fits leaves its bytes in the buffer. -/
theorem getElem?_writeAt_of_inside {buffer : Array UInt8} {place : Nat} {bytes : List UInt8}
    (hfits : place + bytes.length ≤ buffer.size) {i : Nat} (hi : i < bytes.length) :
    (writeAt buffer place bytes)[place + i]? = bytes[i]? := by
  induction bytes generalizing buffer place i with
  | nil => exact absurd hi (Nat.not_lt_zero i)
  | cons byte rest ih =>
    rw [List.length_cons] at hfits hi
    rw [writeAt]
    cases i with
    | zero =>
      have hplace : place < buffer.size := by omega
      have hfirst : place + 0 = place := rfl
      rw [hfirst, getElem?_writeAt_of_outside (by omega), Array.getElem?_setIfInBounds,
        if_pos rfl, if_pos hplace]
      rfl
    | succ i =>
      have hnext : place + (i + 1) = place + 1 + i := by omega
      rw [hnext, ih (by rw [Array.size_setIfInBounds]; omega) (by omega)]
      rfl

theorem getElem?_readAt (buffer : Array UInt8) (place count i : Nat) :
    (readAt buffer place count)[i]? = if i < count then buffer[place + i]? else none := by
  rw [readAt, Array.getElem?_toList, Array.getElem?_extract]
  by_cases hcount : i < count
  · by_cases hsize : place + i < buffer.size
    · rw [if_pos (by omega), if_pos hcount]
    · rw [if_neg (by omega), if_pos hcount, Array.getElem?_eq_none (by omega)]
  · rw [if_neg (by omega), if_neg hcount]

theorem length_readAt {buffer : Array UInt8} {place count : Nat}
    (hfits : place + count ≤ buffer.size) : (readAt buffer place count).length = count := by
  rw [readAt, Array.length_toList, Array.size_extract]
  omega

/-- Stretches with the same bytes read the same. -/
theorem readAt_congr {a b : Array UInt8} {place place' count : Nat}
    (hsame : ∀ i < count, a[place + i]? = b[place' + i]?) :
    readAt a place count = readAt b place' count := by
  apply List.ext_getElem?
  intro i
  rw [getElem?_readAt, getElem?_readAt]
  by_cases hi : i < count
  · rw [if_pos hi, if_pos hi, hsame i hi]
  · rw [if_neg hi, if_neg hi]

/-- What was written is read back. -/
theorem readAt_writeAt {buffer : Array UInt8} {place : Nat} {bytes : List UInt8}
    (hfits : place + bytes.length ≤ buffer.size) :
    readAt (writeAt buffer place bytes) place bytes.length = bytes := by
  apply List.ext_getElem?
  intro i
  rw [getElem?_readAt]
  by_cases hi : i < bytes.length
  · rw [if_pos hi, getElem?_writeAt_of_inside hfits hi]
  · rw [if_neg hi, List.getElem?_eq_none (by omega)]

/-! ## Numbers -/

theorem ofLittleEndian_lt (bytes : List UInt8) : ofLittleEndian bytes < 256 ^ bytes.length := by
  induction bytes with
  | nil => exact Nat.one_pos
  | cons byte rest ih =>
    have hbyte := byte.toNat_lt
    rw [ofLittleEndian, List.length_cons, Nat.pow_succ]
    omega

/-- A number that fits is read back. -/
theorem ofLittleEndian_littleEndian_of_lt {count n : Nat} (hn : n < 256 ^ count) :
    ofLittleEndian (littleEndian count n) = n := by
  rw [ofLittleEndian_littleEndian, Nat.mod_eq_of_lt hn]

theorem signedWord_signedWord (n : Int) : signedWord (signedWord n) = signedWord n :=
  Int.bmod_bmod

/-- A sum of signed words is that of the numbers. -/
theorem signedWord_signedWord_add (m n : Int) :
    signedWord (signedWord m + n) = signedWord (m + n) :=
  Int.bmod_add_bmod

theorem signedWord_emod (n : Int) : signedWord (n % 2 ^ 64) = signedWord n :=
  Int.emod_bmod n (2 ^ 64)

/-- The distance from a word, added to the word, is the other end again. -/
theorem signedWord_add_sub (place value : Int) :
    signedWord (place + (value - signedWord place)) = signedWord value := by
  have hsum : place + (value - signedWord place) = place + value - signedWord place := by omega
  rw [hsum]
  unfold signedWord
  rw [Int.sub_bmod_bmod]
  congr 1
  omega

/-- As many bits of a signed number as hold it tell the number. -/
theorem bmod_toNat_emod {n : Int} {bits : Nat} (hlow : -2 ^ bits ≤ n) (hhigh : n < 2 ^ bits) :
    ((n % 2 ^ (bits + 1)).toNat : Int).bmod (2 ^ (bits + 1)) = n := by
  have hcast : ((2 ^ (bits + 1) : Nat) : Int) = 2 ^ (bits + 1) := Int.natCast_pow 2 (bits + 1)
  have hdouble : (2 : Int) ^ (bits + 1) = 2 * 2 ^ bits := by rw [Int.pow_succ, Int.mul_comm]
  have hpos : (0 : Int) < 2 ^ bits := Int.pow_pos (by decide)
  have hnonneg : 0 ≤ n % 2 ^ (bits + 1) := Int.emod_nonneg n (by omega)
  rw [Int.toNat_of_nonneg hnonneg, ← hcast, Int.emod_bmod]
  apply Int.bmod_eq_of_le
  · omega
  · omega

end JitHost
