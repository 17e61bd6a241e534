import JitHost.Link.Patch
import JitHost.Proofs.Link.Bytes

/-!
# What a patch site holds

`RelocationKind.Encodes` says what the bytes of a site have to be for a kind of relocation and a
value, and `encodes_of_patch` that a patch which succeeds leaves such bytes there and touches
nothing else. Over the relocations of a function (`applyRelocations_spec`) this carries as long as
their sites have no byte in common: a later patch reads and writes only its own site.
-/

namespace JitHost

/-- Whether the bytes `new` of a site at the address `place` stand for a value, where the bytes
`old` were before. All equations are modulo `2 ^ 64`. -/
def RelocationKind.Encodes (kind : RelocationKind) (place value : Int) (old new : List UInt8) :
    Prop :=
  match kind with
  | .abs8 | .abs4 => signedWord (ofLittleEndian new) = signedWord value
  | .x86PCRel4 | .x86CallPCRel4 | .x86CallPLTRel4 =>
      signedWord (place + (ofLittleEndian new : Int).bmod (2 ^ 32)) = signedWord value
  | .arm64Call =>
      ofLittleEndian new / 2 ^ 26 = ofLittleEndian old / 2 ^ 26 ∧
        (ofLittleEndian old % 2 ^ 26 = 0 →
          signedWord (place + 4 * ((ofLittleEndian new % 2 ^ 26 : Nat) : Int).bmod (2 ^ 26)) =
            signedWord value)
  | .other _ => False

/-- Only the signed word of a value matters. -/
theorem RelocationKind.Encodes.congr {kind : RelocationKind} {place value value' : Int}
    {old new : List UInt8} (h : kind.Encodes place value old new)
    (hvalue : signedWord value = signedWord value') : kind.Encodes place value' old new := by
  cases kind with
  | other name => exact h
  | arm64Call => exact ⟨h.1, fun hzero => (h.2 hzero).trans hvalue⟩
  | _ => exact Eq.trans h hvalue

/-! ## One patch -/

/-- The bytes that a patch has to leave: as many as its kind says, for the value. -/
structure PatchBytes (buffer : Array UInt8) (base : Address) (place : Nat) (kind : RelocationKind)
    (value : Int) (bytes : List UInt8) : Prop where
  width : kind.width? = some bytes.length
  fits : place + bytes.length ≤ buffer.size
  encodes : kind.Encodes (base.toNat + place) value (readAt buffer place bytes.length) bytes

theorem writeSite_eq_ok {buffer after : Array UInt8} {place : Nat} {bytes : List UInt8}
    (h : writeSite buffer place bytes = .ok after) :
    place + bytes.length ≤ buffer.size ∧ after = writeAt buffer place bytes := by
  unfold writeSite at h
  by_cases hfits : place + bytes.length ≤ buffer.size
  · rw [if_pos hfits] at h
    cases h
    exact ⟨hfits, rfl⟩
  · rw [if_neg hfits] at h
    cases h

/-- A field of 32 bits that holds the distance to a value leads to the value. -/
theorem signedWord_field32 {place value : Int}
    (hlow : -2 ^ 31 ≤ value - signedWord place) (hhigh : value - signedWord place < 2 ^ 31) :
    signedWord (place + (ofLittleEndian (littleEndian 4
      ((value - signedWord place) % 2 ^ 32).toNat) : Int).bmod (2 ^ 32)) = signedWord value := by
  generalize hdistance : value - signedWord place = distance at hlow hhigh
  have hfield : (distance % 2 ^ 32).toNat < 256 ^ 4 := by omega
  have hread : ((distance % 2 ^ 32).toNat : Int).bmod (2 ^ 32) = distance :=
    bmod_toNat_emod hlow hhigh
  rw [ofLittleEndian_littleEndian_of_lt hfield, hread, ← hdistance, signedWord_add_sub]

/-- A number of 26 bits written over a word keeps the bits above. -/
theorem or_field26 (word : Nat) {field : Nat} (hfield : field < 2 ^ 26) :
    (word ||| field) / 2 ^ 26 = word / 2 ^ 26 ∧
      (word % 2 ^ 26 = 0 → (word ||| field) % 2 ^ 26 = field) := by
  constructor
  · rw [Nat.or_div_two_pow, Nat.div_eq_of_lt hfield, Nat.or_zero]
  · intro hzero
    rw [Nat.or_mod_two_pow, hzero, Nat.zero_or, Nat.mod_eq_of_lt hfield]

/-- The instruction of a branch keeps its upper bits, and its field leads to the value. -/
theorem encodes_branch {old : List UInt8} (hold : old.length = 4) {place value : Int}
    (haligned : (value - signedWord place) % 4 = 0)
    (hlow : -2 ^ 25 ≤ (value - signedWord place) / 4)
    (hhigh : (value - signedWord place) / 4 < 2 ^ 25) :
    RelocationKind.arm64Call.Encodes place value old
      (littleEndian 4 (ofLittleEndian old |||
        ((value - signedWord place) / 4 % 2 ^ 26).toNat)) := by
  generalize hdistance : value - signedWord place = distance at haligned hlow hhigh
  have hfield : (distance / 4 % 2 ^ 26).toNat < 2 ^ 26 := by omega
  have hword : ofLittleEndian old < 2 ^ 32 := by
    have hlt := ofLittleEndian_lt old
    rw [hold] at hlt
    exact hlt
  have hboth : ofLittleEndian old ||| (distance / 4 % 2 ^ 26).toNat < 256 ^ 4 :=
    Nat.or_lt_two_pow hword (Nat.lt_trans hfield (by decide))
  -- Instruction and field have 32 bits together, so four bytes lose nothing of them.
  obtain ⟨hupper, hlower⟩ := or_field26 (ofLittleEndian old) hfield
  have hread : ((distance / 4 % 2 ^ 26).toNat : Int).bmod (2 ^ 26) = distance / 4 :=
    bmod_toNat_emod hlow hhigh
  have hwords : 4 * (distance / 4) = distance := by omega
  unfold RelocationKind.Encodes
  rw [ofLittleEndian_littleEndian_of_lt hboth]
  refine ⟨hupper, fun hzero => ?_⟩
  rw [hlower hzero, hread, hwords, ← hdistance, signedWord_add_sub]

/-- A number written to a site gives the bytes that a patch has to leave. -/
theorem PatchBytes.of_writeSite {buffer after : Array UInt8} {base : Address} {place count n : Nat}
    {kind : RelocationKind} {value : Int} (hwidth : kind.width? = some count)
    (h : writeSite buffer place (littleEndian count n) = .ok after)
    (hencodes : place + count ≤ buffer.size →
      kind.Encodes (base.toNat + place) value (readAt buffer place count) (littleEndian count n)) :
    ∃ bytes, after = writeAt buffer place bytes ∧
      PatchBytes buffer base place kind value bytes := by
  obtain ⟨hfits, hafter⟩ := writeSite_eq_ok h
  have hlength := length_littleEndian count n
  refine ⟨littleEndian count n, hafter, ?_, hfits, ?_⟩
  · rw [hlength, hwidth]
  · rw [hlength] at hfits ⊢
    exact hencodes hfits

/-- A patch that succeeds writes one site, with bytes that stand for the value. -/
theorem encodes_of_patch {buffer after : Array UInt8} {base : Address} {place : Nat}
    {kind : RelocationKind} {value : Int} (h : patch buffer base place kind value = .ok after) :
    ∃ bytes, after = writeAt buffer place bytes ∧
      PatchBytes buffer base place kind value bytes := by
  -- The kinds differ in the range that they check and in the number that they write.
  cases kind with
  | abs4 =>
    simp only [patch] at h
    by_cases hrange : 0 ≤ value ∧ value < 2 ^ 32
    · rw [if_pos hrange] at h
      refine PatchBytes.of_writeSite rfl h fun _ => ?_
      have hread : ofLittleEndian (littleEndian 4 value.toNat) = value.toNat :=
        ofLittleEndian_littleEndian_of_lt (by omega)
      unfold RelocationKind.Encodes
      rw [hread, Int.toNat_of_nonneg hrange.1]
    · rw [if_neg hrange] at h
      cases h
  | abs8 =>
    refine PatchBytes.of_writeSite rfl h fun _ => ?_
    have hnonneg : 0 ≤ value % 2 ^ 64 := Int.emod_nonneg value (by decide)
    have hread : ofLittleEndian (littleEndian 8 (value % 2 ^ 64).toNat) =
        (value % 2 ^ 64).toNat := ofLittleEndian_littleEndian_of_lt (by omega)
    unfold RelocationKind.Encodes
    rw [hread, Int.toNat_of_nonneg hnonneg, signedWord_emod]
  | x86PCRel4 | x86CallPCRel4 | x86CallPLTRel4 =>
    simp only [patch] at h
    by_cases hrange : -2 ^ 31 ≤ value - signedWord (base.toNat + place) ∧
        value - signedWord (base.toNat + place) < 2 ^ 31
    · rw [if_pos hrange] at h
      exact PatchBytes.of_writeSite rfl h fun _ => signedWord_field32 hrange.1 hrange.2
    · rw [if_neg hrange] at h
      cases h
  | arm64Call =>
    simp only [patch] at h
    by_cases haligned : (value - signedWord (base.toNat + place)) % 4 = 0
    · rw [if_neg (not_not_intro haligned)] at h
      by_cases hrange : -2 ^ 25 ≤ (value - signedWord (base.toNat + place)) / 4 ∧
          (value - signedWord (base.toNat + place)) / 4 < 2 ^ 25
      · rw [if_pos hrange] at h
        exact PatchBytes.of_writeSite rfl h fun hfits =>
          encodes_branch (length_readAt hfits) haligned hrange.1 hrange.2
      · rw [if_neg hrange] at h
        cases h
    · rw [if_pos haligned] at h
      cases h
  | other name => cases h

/-! ## The patches of a function -/

/-- The number of bytes that a relocation rewrites. -/
def Relocation.width (r : Relocation) : Nat := r.kind.width?.getD 0

/-- Whether a place of the function's code belongs to the site of a relocation. -/
def Relocation.Patches (r : Relocation) (i : Nat) : Prop := r.offset ≤ i ∧ i < r.offset + r.width

/-- The sites of two relocations have no byte in common. -/
def Relocation.Apart (r s : Relocation) : Prop :=
  r.offset + r.width ≤ s.offset ∨ s.offset + s.width ≤ r.offset

/-- The address of a target when the image lies at `base`. -/
def ResolvedTarget.address (base : Address) : ResolvedTarget → Address
  | .inside offset => base.after offset
  | .outside address => address

/-- The value written is the sum of the address and the addend, as words. -/
theorem signedWord_valueOf (base : Address) (target : ResolvedTarget) (addend : Int) :
    signedWord (Plan.valueOf base target addend) =
      signedWord ((target.address base).toNat + addend) := by
  have haddress : Plan.valueOf base target addend =
      signedWord (signedWord (target.address base).toNat + addend) := by
    cases target <;> rfl
  rw [haddress, signedWord_signedWord, signedWord_signedWord_add]

/-- What the patches of a function at `start` leave: every site stands for its target and addend,
and every other byte is as before. -/
structure Patched (base : Address) (start : Nat) (entries : List (Relocation × ResolvedTarget))
    (before after : Array UInt8) : Prop where
  untouched : ∀ p, (∀ entry ∈ entries, ¬ (start + entry.1.offset ≤ p ∧
    p < start + entry.1.offset + entry.1.width)) → after[p]? = before[p]?
  sites : ∀ r target, (r, target) ∈ entries →
    r.kind.Encodes (base.toNat + (start + r.offset : Nat)) ((target.address base).toNat + r.addend)
      (readAt before (start + r.offset) r.width) (readAt after (start + r.offset) r.width)

/-- A patch before others, apart from all of their sites. -/
theorem Patched.cons {base : Address} {start : Nat} {r : Relocation} {target : ResolvedTarget}
    {rest : List (Relocation × ResolvedTarget)} {before middle after : Array UInt8}
    (hapart : ∀ entry ∈ rest, r.Apart entry.1)
    (hpatch : patch before base (start + r.offset) r.kind (Plan.valueOf base target r.addend) =
      .ok middle)
    (hrest : Patched base start rest middle after) :
    Patched base start ((r, target) :: rest) before after := by
  obtain ⟨bytes, rfl, hwidth, hfits, hencodes⟩ := encodes_of_patch hpatch
  have hlength : r.width = bytes.length := by rw [Relocation.width, hwidth, Option.getD_some]
  -- The later patches leave the site of the first one, and the first one leaves theirs.
  have hkept : readAt after (start + r.offset) r.width = bytes := by
    have hsame : readAt after (start + r.offset) r.width =
        readAt (writeAt before (start + r.offset) bytes) (start + r.offset) r.width := by
      apply readAt_congr
      intro i hi
      apply hrest.untouched
      intro entry hentry hinside
      rcases hapart entry hentry with hbelow | habove
      · omega
      · omega
    rw [hsame, hlength, readAt_writeAt hfits]
  have hunread : ∀ entry ∈ rest,
      readAt (writeAt before (start + r.offset) bytes) (start + entry.1.offset) entry.1.width =
        readAt before (start + entry.1.offset) entry.1.width := by
    intro entry hentry
    apply readAt_congr
    intro i hi
    apply getElem?_writeAt_of_outside
    rcases hapart entry hentry with hbelow | habove
    · omega
    · omega
  constructor
  · intro p hp
    have hfirst := hp (r, target) List.mem_cons_self
    rw [hrest.untouched p fun entry hentry => hp entry (List.mem_cons_of_mem _ hentry)]
    apply getElem?_writeAt_of_outside
    simp only at hfirst
    omega
  · intro r' target' hmem
    rcases List.mem_cons.1 hmem with heq | hmem
    · cases heq
      rw [hkept, hlength]
      exact hencodes.congr (signedWord_valueOf base target r.addend)
    · have hsite := hrest.sites r' target' hmem
      rw [hunread (r', target') hmem] at hsite
      exact hsite

/-- Patches that succeed on sites apart from one another leave every site as its relocation asks. -/
theorem patched_of_applyRelocations {base : Address} {start : Nat}
    {entries : List (Relocation × ResolvedTarget)} {before after : Array UInt8}
    (hapart : (entries.map Prod.fst).Pairwise Relocation.Apart)
    (h : Plan.applyRelocations base start entries before = (.ok (), after)) :
    Patched base start entries before after := by
  -- Each patch works on what the earlier ones left, so the buffer varies in the induction.
  induction entries generalizing before with
  | nil =>
    cases h
    refine ⟨fun _ _ => rfl, fun _ _ hmem => ?_⟩
    cases hmem
  | cons entry rest ih =>
    obtain ⟨r, target⟩ := entry
    rw [List.map_cons, List.pairwise_cons] at hapart
    obtain ⟨hfirst, hrest⟩ := hapart
    rw [Plan.applyRelocations] at h
    cases hpatch : patch before base (start + r.offset) r.kind
        (Plan.valueOf base target r.addend) with
    | error fault =>
      rw [hpatch] at h
      cases h
    | ok middle =>
      rw [hpatch] at h
      exact Patched.cons (fun entry hentry => hfirst _ (List.mem_map_of_mem hentry)) hpatch
        (ih hrest h)

end JitHost
