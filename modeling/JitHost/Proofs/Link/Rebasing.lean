import JitHost.Proofs.Link.Image

/-!
# Images at different places

The same functions linked for two places of the image. A relocation depends on the place
(`Relocation.DependsOnBase`) if it writes the address of something inside, or the distance to
something outside. All other relocations write the same at every place (`field_rebase`), so two
images differ only in the sites of those that depend on it (`AgreeOff.linked`).

`image_rebased` adds what the sites hold that depend on the place: absolute addresses move with the
image, and distances shrink by as much as the image moves.
-/

namespace JitHost

/-! ## What depends on the place -/

/-- Whether a target lies in the image of functions. -/
def RelocationTarget.IsInside (functions : List CompiledFunction) : RelocationTarget → Prop
  | here _ => True
  | symbol name => ∃ function ∈ functions, function.name = name
  | routine _ => False

namespace RelocationKind

/-- The kinds that write an address. -/
def isAbsolute : RelocationKind → Bool
  | abs4 | abs8 => true
  | _ => false

end RelocationKind

/-- What a relocation writes depends on the place of the image: it is the address of something
inside, or it counts from the site to something outside. -/
def Relocation.DependsOnBase (functions : List CompiledFunction) (r : Relocation) : Prop :=
  (r.kind.isAbsolute = true ∧ r.target.IsInside functions) ∨
    (r.kind.isRelative = true ∧ ¬ r.target.IsInside functions)

/-- The same for a target that was resolved. -/
def RelocationKind.MovesWith (kind : RelocationKind) : ResolvedTarget → Prop
  | .inside _ => kind.isAbsolute = true
  | .outside _ => kind.isRelative = true

namespace Plan

section

variable {functions : List CompiledFunction} {external : RelocationTarget → Option Address}

/-- A target is resolved to a place of the image exactly if it lies inside. -/
theorem isInside_iff_of_resolve {start : Nat} {target : RelocationTarget}
    {resolved : ResolvedTarget}
    (h : resolve (symbolsOf functions) external start target = .ok resolved) :
    target.IsInside functions ↔ ∃ offset, resolved = .inside offset := by
  cases target with
  | here offset =>
    cases h
    simp [RelocationTarget.IsInside]
  | symbol name =>
    simp only [resolve, symbolsOf] at h
    rcases lastOffset?_zip functions _ name (length_startsFrom functions 0) with
      ⟨k, offset, hoffset, hlast, -⟩ | ⟨hoffset, hundefined⟩
    · rw [hoffset] at h
      cases h
      obtain ⟨function, hfunction, hname⟩ := hlast.named
      have hinside : RelocationTarget.IsInside functions (.symbol name) :=
        ⟨function, List.mem_of_getElem? hfunction, hname⟩
      simp [hinside]
    · rw [hoffset] at h
      have houtside : ¬ RelocationTarget.IsInside functions (.symbol name) := by
        rintro ⟨function, hfunction, hname⟩
        exact hundefined function hfunction hname
      cases haddress : external (.symbol name) with
      | none =>
        rw [haddress] at h
        cases h
      | some address =>
        rw [haddress] at h
        cases h
        simp [houtside]
  | routine name =>
    simp only [resolve] at h
    cases haddress : external (.routine name) with
    | none =>
      rw [haddress] at h
      cases h
    | some address =>
      rw [haddress] at h
      cases h
      simp [RelocationTarget.IsInside]

theorem dependsOnBase_of_movesWith {start : Nat} {r : Relocation} {resolved : ResolvedTarget}
    (h : resolve (symbolsOf functions) external start r.target = .ok resolved)
    (hmoves : r.kind.MovesWith resolved) : r.DependsOnBase functions := by
  have hinside := isInside_iff_of_resolve h
  cases resolved with
  | inside offset => exact .inl ⟨hmoves, hinside.2 ⟨offset, rfl⟩⟩
  | outside address =>
    refine .inr ⟨hmoves, fun h => ?_⟩
    obtain ⟨offset, heq⟩ := hinside.1 h
    cases heq

/-- What a target denotes moves with the image if it lies inside, and else stays where it is. -/
theorem Denotes.rebase {starts : List Nat} {b₁ b₂ a₁ a₂ : Address} {start : Nat}
    {target : RelocationTarget} (h₁ : Denotes functions starts external b₁ start target a₁)
    (h₂ : Denotes functions starts external b₂ start target a₂) :
    (target.IsInside functions ∧ ∃ offset, a₁ = b₁.after offset ∧ a₂ = b₂.after offset) ∨
      (¬ target.IsInside functions ∧ a₁ = a₂) := by
  cases h₁ with
  | here offset =>
    cases h₂
    exact .inl ⟨trivial, start + offset, rfl, rfl⟩
  | defined hlast hstart =>
    obtain ⟨function, hfunction, hname⟩ := hlast.named
    have hmem := List.mem_of_getElem? hfunction
    cases h₂ with
    | defined hlast₂ hstart₂ =>
      rw [hlast.unique hlast₂, hstart] at hstart₂
      cases hstart₂
      exact .inl ⟨⟨function, hmem, hname⟩, _, rfl, rfl⟩
    | imported hnone => exact absurd hname (hnone function hmem)
  | imported hnone haddress =>
    have houtside : ∀ function ∈ functions, function.name ≠ _ := hnone
    cases h₂ with
    | defined hlast₂ =>
      obtain ⟨function, hfunction, hname⟩ := hlast₂.named
      exact absurd hname (hnone function (List.mem_of_getElem? hfunction))
    | imported _ haddress₂ =>
      rw [haddress] at haddress₂
      cases haddress₂
      refine .inr ⟨?_, rfl⟩
      rintro ⟨function, hfunction, hname⟩
      exact hnone function hfunction hname
  | routine haddress =>
    cases h₂ with
    | routine haddress₂ =>
      rw [haddress] at haddress₂
      cases haddress₂
      exact .inr ⟨fun h => h, rfl⟩

end

end Plan

/-! ## What a patch writes -/

/-- The number that a kind of relocation writes, for a value and its distance from the site. -/
def RelocationKind.field (kind : RelocationKind) (value distance : Int) : Nat :=
  match kind with
  | .abs4 => value.toNat
  | .abs8 => (value % 2 ^ 64).toNat
  | .x86PCRel4 | .x86CallPCRel4 | .x86CallPLTRel4 => (distance % 2 ^ 32).toNat
  | .arm64Call => (distance / 4 % 2 ^ 26).toNat
  | .other _ => 0

/-- The bytes with a number written over them: a branch keeps what is there, bit by bit. -/
def RelocationKind.overwrite (kind : RelocationKind) (old : List UInt8) (field : Nat) :
    List UInt8 :=
  match kind with
  | .abs8 => littleEndian 8 field
  | .arm64Call => List.zipWith (· ||| ·) old (littleEndian 4 field)
  | _ => littleEndian 4 field

/-- Numbers are joined byte by byte. -/
theorem littleEndian_or (count m n : Nat) :
    littleEndian count (m ||| n) =
      List.zipWith (· ||| ·) (littleEndian count m) (littleEndian count n) := by
  induction count generalizing m n with
  | zero => rfl
  | succ count ih =>
    have hrest : (m ||| n) / 256 = m / 256 ||| n / 256 := Nat.or_div_two_pow (n := 8)
    rw [littleEndian, littleEndian, littleEndian, List.zipWith_cons_cons, hrest, ih,
      UInt8.ofNat_or]

/-- The bytes of the number that bytes stand for are these bytes. -/
theorem littleEndian_ofLittleEndian (bytes : List UInt8) :
    littleEndian bytes.length (ofLittleEndian bytes) = bytes := by
  induction bytes with
  | nil => rfl
  | cons byte rest ih =>
    have hbyte := byte.toNat_lt
    have hrest : (byte.toNat + 256 * ofLittleEndian rest) / 256 = ofLittleEndian rest := by omega
    have hfirst : UInt8.ofNat (byte.toNat + 256 * ofLittleEndian rest) = byte := by
      apply UInt8.toNat_inj.1
      rw [UInt8.toNat_ofNat']
      omega
    rw [List.length_cons, ofLittleEndian, littleEndian, hfirst, hrest, ih]

theorem length_overwrite {kind : RelocationKind} {width : Nat} (hwidth : kind.width? = some width)
    {old : List UInt8} (hold : old.length = width) (field : Nat) :
    (kind.overwrite old field).length = width := by
  cases kind <;> cases hwidth <;> simp [RelocationKind.overwrite, hold]

/-- Where the bytes before were the same, they are the same with a number written over them. -/
theorem getElem?_overwrite_congr {kind : RelocationKind} {old other : List UInt8} {i : Nat}
    (hsame : old[i]? = other[i]?) (field : Nat) :
    (kind.overwrite old field)[i]? = (kind.overwrite other field)[i]? := by
  cases kind with
  | arm64Call => simp only [RelocationKind.overwrite, List.getElem?_zipWith, hsame]
  | _ => rfl

theorem writeSite_littleEndian {buffer after : Array UInt8} {place count n : Nat}
    (h : writeSite buffer place (littleEndian count n) = .ok after) :
    place + count ≤ buffer.size ∧ after = writeAt buffer place (littleEndian count n) := by
  obtain ⟨hfits, hafter⟩ := writeSite_eq_ok h
  rw [length_littleEndian] at hfits
  exact ⟨hfits, hafter⟩

/-- A patch that succeeds writes the number of its kind over the site. -/
theorem patch_eq_ok {buffer after : Array UInt8} {base : Address} {place : Nat}
    {kind : RelocationKind} {value : Int} (h : patch buffer base place kind value = .ok after) :
    ∃ width, kind.width? = some width ∧ place + width ≤ buffer.size ∧
      after = writeAt buffer place (kind.overwrite (readAt buffer place width)
        (kind.field value (value - signedWord (base.toNat + place)))) := by
  cases kind with
  | abs4 =>
    simp only [patch] at h
    by_cases hrange : 0 ≤ value ∧ value < 2 ^ 32
    · rw [if_pos hrange] at h
      exact ⟨4, rfl, writeSite_littleEndian h⟩
    · rw [if_neg hrange] at h
      cases h
  | abs8 => exact ⟨8, rfl, writeSite_littleEndian h⟩
  | x86PCRel4 | x86CallPCRel4 | x86CallPLTRel4 =>
    simp only [patch] at h
    by_cases hrange : -2 ^ 31 ≤ value - signedWord (base.toNat + place) ∧
        value - signedWord (base.toNat + place) < 2 ^ 31
    · rw [if_pos hrange] at h
      exact ⟨4, rfl, writeSite_littleEndian h⟩
    · rw [if_neg hrange] at h
      cases h
  | arm64Call =>
    simp only [patch] at h
    by_cases haligned : (value - signedWord (base.toNat + place)) % 4 = 0
    · rw [if_neg (not_not_intro haligned)] at h
      by_cases hrange : -2 ^ 25 ≤ (value - signedWord (base.toNat + place)) / 4 ∧
          (value - signedWord (base.toNat + place)) / 4 < 2 ^ 25
      · rw [if_pos hrange] at h
        obtain ⟨hfits, hafter⟩ := writeSite_littleEndian h
        refine ⟨4, rfl, hfits, ?_⟩
        -- The four bytes of the instruction are joined with those of the field.
        have hold := littleEndian_ofLittleEndian (readAt buffer place 4)
        rw [length_readAt hfits] at hold
        rw [hafter, littleEndian_or, hold]
        rfl
      · rw [if_neg hrange] at h
        cases h
    · rw [if_pos haligned] at h
      cases h
  | other name => cases h

/-! ## The same at every place -/

/-- Two numbers with the same signed word agree modulo `2 ^ 64`. -/
theorem signedWord_eq_iff {m n : Int} :
    signedWord m = signedWord n ↔ m % 2 ^ 64 = n % 2 ^ 64 := by
  unfold signedWord
  constructor
  · intro h
    have hm : m.bmod (2 ^ 64) % ((2 ^ 64 : Nat) : Int) = m % ((2 ^ 64 : Nat) : Int) :=
      Int.bmod_emod
    have hn : n.bmod (2 ^ 64) % ((2 ^ 64 : Nat) : Int) = n % ((2 ^ 64 : Nat) : Int) :=
      Int.bmod_emod
    rw [h, hn] at hm
    exact hm.symm
  · intro h
    rw [← Int.emod_bmod m, ← Int.emod_bmod n]
    exact congrArg (Int.bmod · _) h

theorem Address.toNat_after (base : Address) (offset : Nat) :
    (base.after offset).toNat = (base.toNat + offset) % 2 ^ 64 := by
  rw [after, UInt64.toNat_add, UInt64.toNat_ofNat', Nat.add_mod_mod]

/-- Where the image lies does not show in the distance between two places of it. -/
theorem distance_emod (base : Address) (offset place : Nat) (addend : Int) :
    (Plan.valueOf base (.inside offset) addend - signedWord (base.toNat + place)) % 2 ^ 64 =
      (offset + addend - place) % 2 ^ 64 := by
  have hvalue := signedWord_eq_iff.1 (signedWord_valueOf base (.inside offset) addend)
  have hplace := signedWord_eq_iff.1 (signedWord_signedWord (base.toNat + place))
  rw [ResolvedTarget.address, Address.toNat_after] at hvalue
  generalize Plan.valueOf base (.inside offset) addend = value at hvalue ⊢
  generalize signedWord (base.toNat + place) = word at hplace ⊢
  omega

/-- What a relocation writes is the same at every place, unless it depends on the place. -/
theorem field_rebase (b₁ b₂ : Address) {kind : RelocationKind} {target : ResolvedTarget}
    (hstays : ¬ kind.MovesWith target) (place : Nat) (addend : Int) :
    kind.field (Plan.valueOf b₁ target addend)
        (Plan.valueOf b₁ target addend - signedWord (b₁.toNat + place)) =
      kind.field (Plan.valueOf b₂ target addend)
        (Plan.valueOf b₂ target addend - signedWord (b₂.toNat + place)) := by
  cases target with
  | outside address =>
    -- Only the value counts, and it does not come from the image.
    have hvalue : Plan.valueOf b₁ (.outside address) addend =
        Plan.valueOf b₂ (.outside address) addend := rfl
    cases kind with
    | abs4 | abs8 | other => simp only [RelocationKind.field, hvalue]
    | _ => exact (hstays rfl).elim
  | inside offset =>
    have hsame := (distance_emod b₁ offset place addend).trans
      (distance_emod b₂ offset place addend).symm
    generalize Plan.valueOf b₁ (.inside offset) addend - signedWord (b₁.toNat + place) =
      distance at hsame ⊢
    generalize Plan.valueOf b₂ (.inside offset) addend - signedWord (b₂.toNat + place) =
      other at hsame ⊢
    -- The fields hold the low bits of the distance.
    cases kind with
    | abs4 | abs8 => exact (hstays rfl).elim
    | other => simp only [RelocationKind.field]
    | x86PCRel4 | x86CallPCRel4 | x86CallPLTRel4 =>
      have hfield : distance % 2 ^ 32 = other % 2 ^ 32 := by omega
      simp only [RelocationKind.field, hfield]
    | arm64Call =>
      have hfield : distance / 4 % 2 ^ 26 = other / 4 % 2 ^ 26 := by omega
      simp only [RelocationKind.field, hfield]

/-! ## Buffers that agree but for some places -/

/-- Two buffers are alike but for some places. -/
structure AgreeOff (changed : Nat → Prop) (a b : Array UInt8) : Prop where
  size_eq : a.size = b.size
  same : ∀ p, ¬ changed p → a[p]? = b[p]?

section

variable {changed : Nat → Prop} {a b : Array UInt8}

/-- Bytes that are alike but for these places may be written to both. -/
theorem AgreeOff.written (h : AgreeOff changed a b) {place : Nat} {bytes other : List UInt8}
    (hlength : bytes.length = other.length)
    (hbytes : ∀ i, ¬ changed (place + i) → bytes[i]? = other[i]?) :
    AgreeOff changed (writeAt a place bytes) (writeAt b place other) := by
  induction bytes generalizing a b place other with
  | nil =>
    cases other with
    | nil => exact h
    | cons byte rest => cases hlength
  | cons byte bytes ih =>
    cases other with
    | nil => cases hlength
    | cons first rest =>
      refine ih ⟨?_, ?_⟩ (Nat.succ.inj hlength) ?_
      · rw [Array.size_setIfInBounds, Array.size_setIfInBounds, h.size_eq]
      · intro p hp
        rw [Array.getElem?_setIfInBounds, Array.getElem?_setIfInBounds, h.size_eq, h.same p hp]
        by_cases hplace : place = p
        · subst hplace
          have hsame := hbytes 0 hp
          simp only [List.getElem?_cons_zero, Option.some.injEq] at hsame
          rw [hsame]
        · rw [if_neg hplace, if_neg hplace]
      · intro i hi
        have hnext : place + (i + 1) = place + 1 + i := by omega
        have hsame := hbytes (i + 1) (by rw [hnext]; exact hi)
        simpa using hsame

theorem AgreeOff.read (h : AgreeOff changed a b) {place count i : Nat}
    (hi : ¬ changed (place + i)) : (readAt a place count)[i]? = (readAt b place count)[i]? := by
  rw [getElem?_readAt, getElem?_readAt, h.same _ hi]

variable {b₁ b₂ : Address} {a' b' : Array UInt8}

/-- The same relocation written at two places of the image keeps buffers alike, if the places that
may differ have its site in case that it depends on the place. -/
theorem AgreeOff.patched (h : AgreeOff changed a b) {kind : RelocationKind}
    {target : ResolvedTarget} {place : Nat} {addend : Int}
    (hsite : kind.MovesWith target → ∀ width, kind.width? = some width →
      ∀ i < width, changed (place + i))
    (ha : patch a b₁ place kind (Plan.valueOf b₁ target addend) = .ok a')
    (hb : patch b b₂ place kind (Plan.valueOf b₂ target addend) = .ok b') :
    AgreeOff changed a' b' := by
  obtain ⟨width, hwidth, hfitsA, rfl⟩ := patch_eq_ok ha
  obtain ⟨_, hwidthB, hfitsB, rfl⟩ := patch_eq_ok hb
  rw [hwidth] at hwidthB
  cases hwidthB
  have hlengthA := fun field => length_overwrite hwidth (length_readAt hfitsA) field
  have hlengthB := fun field => length_overwrite hwidth (length_readAt hfitsB) field
  refine h.written ((hlengthA _).trans (hlengthB _).symm) ?_
  intro i hi
  by_cases hmoves : kind.MovesWith target
  · -- Nothing is written outside of the site, all of which may differ.
    have hbeyond : width ≤ i := by
      rw [← Nat.not_lt]
      intro hlt
      exact hi (hsite hmoves width hwidth i hlt)
    rw [List.getElem?_eq_none (by rw [hlengthA]; exact hbeyond),
      List.getElem?_eq_none (by rw [hlengthB]; exact hbeyond)]
  · rw [field_rebase b₁ b₂ hmoves]
    exact getElem?_overwrite_congr (h.read hi) _

/-- The places that may differ have the sites of all relocations of a function that depend on where
the image lies. -/
def HasMovingSites (changed : Nat → Prop) (start : Nat)
    (entries : List (Relocation × ResolvedTarget)) : Prop :=
  ∀ entry ∈ entries, entry.1.kind.MovesWith entry.2 → ∀ p,
    start + entry.1.offset ≤ p → p < start + entry.1.offset + entry.1.width → changed p

theorem AgreeOff.relocated {start : Nat} {entries : List (Relocation × ResolvedTarget)}
    (h : AgreeOff changed a b) (hsites : HasMovingSites changed start entries)
    (ha : Plan.applyRelocations b₁ start entries a = (.ok (), a'))
    (hb : Plan.applyRelocations b₂ start entries b = (.ok (), b')) : AgreeOff changed a' b' := by
  induction entries generalizing a b with
  | nil =>
    cases ha
    cases hb
    exact h
  | cons entry rest ih =>
    obtain ⟨r, target⟩ := entry
    obtain ⟨hfirst, hrest⟩ := List.forall_mem_cons.1 hsites
    rw [Plan.applyRelocations] at ha hb
    cases hpatchA : patch a b₁ (start + r.offset) r.kind (Plan.valueOf b₁ target r.addend) with
    | error fault =>
      rw [hpatchA] at ha
      cases ha
    | ok middleA =>
      cases hpatchB : patch b b₂ (start + r.offset) r.kind
          (Plan.valueOf b₂ target r.addend) with
      | error fault =>
        rw [hpatchB] at hb
        cases hb
      | ok middleB =>
        rw [hpatchA] at ha
        rw [hpatchB] at hb
        refine ih (h.patched ?_ hpatchA hpatchB) hrest ha hb
        intro hmoves width hwidth i hi
        have hlength : r.width = width := by rw [Relocation.width, hwidth, Option.getD_some]
        exact hfirst hmoves _ (Nat.le_add_right _ _) (by simp only; omega)

/-- Functions written one after another at two places of the image leave buffers alike but for the
sites of relocations that depend on the place. -/
theorem AgreeOff.linked {entries : List (CompiledFunction × Nat × List ResolvedTarget)}
    (h : AgreeOff changed a b)
    (hsites : ∀ entry ∈ entries, HasMovingSites changed entry.2.1
      (entry.1.relocations.zip entry.2.2))
    (ha : Plan.applyFunctions b₁ entries a = (.ok (), a'))
    (hb : Plan.applyFunctions b₂ entries b = (.ok (), b')) : AgreeOff changed a' b' := by
  induction entries generalizing a b with
  | nil =>
    cases ha
    cases hb
    exact h
  | cons entry rest ih =>
    obtain ⟨function, start, targets⟩ := entry
    obtain ⟨hfirst, hrest⟩ := List.forall_mem_cons.1 hsites
    have hcopied : AgreeOff changed (writeAt a start function.code)
        (writeAt b start function.code) := h.written rfl fun _ _ => rfl
    rw [Plan.applyFunctions] at ha hb
    cases hrunA : Plan.applyRelocations b₁ start (function.relocations.zip targets)
        (writeAt a start function.code) with
    | mk outcomeA middleA =>
      cases hrunB : Plan.applyRelocations b₂ start (function.relocations.zip targets)
          (writeAt b start function.code) with
      | mk outcomeB middleB =>
        simp only [hrunA] at ha
        simp only [hrunB] at hb
        cases outcomeA with
        | error fault => cases ha
        | ok =>
          cases outcomeB with
          | error fault => cases hb
          | ok => exact ih (hcopied.relocated hfirst hrunA hrunB) hrest ha hb

end

/-! ## Two images -/

/-- The bytes at the site of a relocation of a function at `start`. -/
def Relocation.bytesIn (r : Relocation) (start : Nat) (image : Array UInt8) : List UInt8 :=
  readAt image (start + r.offset) r.width

/-- A field with a distance leads from the site to the value. -/
theorem RelocationKind.Encodes.distance_emod {kind : RelocationKind} {place value : Int}
    {old new : List UInt8} (h : kind.Encodes place value old new)
    (hkind : kind.isDistance = true) :
    (place + (ofLittleEndian new : Int).bmod (2 ^ 32)) % 2 ^ 64 = value % 2 ^ 64 := by
  cases kind with
  | x86PCRel4 | x86CallPCRel4 | x86CallPLTRel4 => exact signedWord_eq_iff.1 h
  | _ => cases hkind

/-- Short distances from two places to one differ by the way back between the places. -/
theorem sub_eq_signedWord {b₁ b₂ place d₁ d₂ : Int} (h₁ : -2 ^ 31 ≤ d₁ ∧ d₁ < 2 ^ 31)
    (h₂ : -2 ^ 31 ≤ d₂ ∧ d₂ < 2 ^ 31)
    (hsame : (b₁ + place + d₁) % 2 ^ 64 = (b₂ + place + d₂) % 2 ^ 64) :
    d₂ - d₁ = signedWord (b₁ - b₂) := by
  have hshort : signedWord (d₂ - d₁) = d₂ - d₁ := Int.bmod_eq_of_le (by omega) (by omega)
  rw [← hshort, signedWord_eq_iff]
  omega

theorem bounds_bmod32 (n : Int) : -2 ^ 31 ≤ n.bmod (2 ^ 32) ∧ n.bmod (2 ^ 32) < 2 ^ 31 :=
  ⟨Int.le_bmod (by decide), Int.bmod_lt (by decide)⟩

namespace Plan

/-- A place in the site of a relocation that depends on where the image lies. -/
def InMovingSite (functions : List CompiledFunction) (starts : List Nat) (p : Nat) : Prop :=
  ∃ entry ∈ functions.zip starts, ∃ r ∈ entry.1.relocations, r.DependsOnBase functions ∧
    entry.2 + r.offset ≤ p ∧ p < entry.2 + r.offset + r.width

/-- Two images of the same functions, with the starts of a plan, at `b₁` and at `b₂`. -/
structure Rebased (functions : List CompiledFunction) (starts : List Nat) (b₁ b₂ : Address)
    (image₁ image₂ : Array UInt8) : Prop where
  /-- The images agree but for the sites of relocations that depend on the place. -/
  agree : AgreeOff (InMovingSite functions starts) image₁ image₂
  /-- A relocation that does not is encoded the same, unless its site is part of one that does. -/
  encoded : ∀ entry ∈ functions.zip starts, ∀ r ∈ entry.1.relocations,
    ¬ r.DependsOnBase functions →
    (∀ s ∈ entry.1.relocations, s.DependsOnBase functions → r.Apart s) →
      r.bytesIn entry.2 image₁ = r.bytesIn entry.2 image₂
  /-- If sites of one function do not overlap, addresses of 8 bytes move as the image does, -/
  absolute : (∀ function ∈ functions, function.relocations.Pairwise Relocation.Apart) →
    ∀ entry ∈ functions.zip starts, ∀ r ∈ entry.1.relocations, r.kind = .abs8 →
      r.target.IsInside functions →
      ((ofLittleEndian (r.bytesIn entry.2 image₂) : Int) -
          ofLittleEndian (r.bytesIn entry.2 image₁)) % 2 ^ 64 =
        ((b₂.toNat : Int) - b₁.toNat) % 2 ^ 64
  /-- and distances to what is outside change by the way back between the places, -/
  distance : (∀ function ∈ functions, function.relocations.Pairwise Relocation.Apart) →
    ∀ entry ∈ functions.zip starts, ∀ r ∈ entry.1.relocations, r.kind.isDistance = true →
      ¬ r.target.IsInside functions →
      (ofLittleEndian (r.bytesIn entry.2 image₂) : Int).bmod (2 ^ 32) -
          (ofLittleEndian (r.bytesIn entry.2 image₁) : Int).bmod (2 ^ 32) =
        signedWord ((b₁.toNat : Int) - b₂.toNat)
  /-- which is their difference unless they are in opposite halves of the address space. -/
  way_back : -2 ^ 63 ≤ (b₁.toNat : Int) - b₂.toNat → (b₁.toNat : Int) - b₂.toNat < 2 ^ 63 →
    signedWord ((b₁.toNat : Int) - b₂.toNat) = (b₁.toNat : Int) - b₂.toNat

section

variable {functions : List CompiledFunction} {external : RelocationTarget → Option Address}
  {plan : Plan} {b₁ b₂ : Address} {buffer₁ buffer₂ image₁ image₂ : Array UInt8}

/-- A plan that was built, applied at two places, leaves images that agree but for sites that depend
on the place. -/
theorem agreeOff_of_apply (hbuild : (build functions external).outcome = .ok plan)
    (hsize : buffer₁.size = buffer₂.size)
    (h₁ : plan.apply functions b₁ buffer₁ = (.ok (), image₁))
    (h₂ : plan.apply functions b₂ buffer₂ = (.ok (), image₂)) :
    AgreeOff (InMovingSite functions plan.starts) image₁ image₂ := by
  obtain ⟨rfl, hproblems⟩ := build_eq_ok hbuild
  obtain ⟨-, hrun₁⟩ := apply_eq_ok h₁
  obtain ⟨-, hrun₂⟩ := apply_eq_ok h₂
  have hcleared : AgreeOff (InMovingSite functions (startsFrom 0 functions))
      (Array.replicate buffer₁.size 0) (Array.replicate buffer₂.size 0) := by
    rw [hsize]
    exact ⟨rfl, fun _ _ => rfl⟩
  refine hcleared.linked ?_ hrun₁ hrun₂
  simp only [zip_zip_map, List.forall_mem_map]
  rintro ⟨function, start⟩ hentry ⟨r, target⟩ hpair hmoves p hlow hhigh
  have hinspect := (zip_targetsOf (hproblems _ hentry)).2 _ hpair
  have hresolved := (inspect_eq_ok hinspect).2
  exact ⟨(function, start), hentry, r, (List.of_mem_zip hpair).1,
    dependsOnBase_of_movesWith hresolved hmoves, hlow, hhigh⟩

/-- A site apart from those that depend on the place has no byte of them: those of other functions
lie in other code. -/
theorem bytesIn_eq_of_agreeOff (hbuild : (build functions external).outcome = .ok plan)
    (hagree : AgreeOff (InMovingSite functions plan.starts) image₁ image₂)
    {entry : CompiledFunction × Nat} (hentry : entry ∈ functions.zip plan.starts) {r : Relocation}
    (hr : r ∈ entry.1.relocations)
    (hapart : ∀ s ∈ entry.1.relocations, s.DependsOnBase functions → r.Apart s) :
    r.bytesIn entry.2 image₁ = r.bytesIn entry.2 image₂ := by
  obtain ⟨rfl, hproblems⟩ := build_eq_ok hbuild
  have hlaid := laidOut_startsFrom functions 0
  have hinside : ∀ e ∈ functions.zip (startsFrom 0 functions), ∀ s ∈ e.1.relocations,
      s.offset + s.width ≤ e.1.code.length := by
    intro e he s hs
    obtain ⟨target, -, hinspect⟩ := exists_mem_zip_targetsOf (hproblems e he) hs
    exact (inspect_eq_ok hinspect).1
  apply readAt_congr
  intro i hi
  apply hagree.same
  rintro ⟨other, hother, s, hs, hdepends, hlow, hhigh⟩
  have hwithin := hinside entry hentry r hr
  have hwithinOther := hinside other hother s hs
  by_cases hsame : entry = other
  · subst hsame
    rcases hapart s hs hdepends with hbelow | habove
    · omega
    · omega
  · rcases hlaid.apart hentry hother hsame with hbefore | hbehind
    · omega
    · omega

/-- Addresses of 8 bytes move as the image does. -/
theorem absolute_of_isImage (h₁ : IsImage functions external plan b₁ image₁)
    (h₂ : IsImage functions external plan b₂ image₂) {entry : CompiledFunction × Nat}
    (hentry : entry ∈ functions.zip plan.starts) {r : Relocation} (hr : r ∈ entry.1.relocations)
    (hkind : r.kind = .abs8) (hinside : r.target.IsInside functions) :
    ((ofLittleEndian (r.bytesIn entry.2 image₂) : Int) -
        ofLittleEndian (r.bytesIn entry.2 image₁)) % 2 ^ 64 =
      ((b₂.toNat : Int) - b₁.toNat) % 2 ^ 64 := by
  obtain ⟨a₁, hdenotes₁, hencodes₁⟩ := h₁.sites entry hentry r hr
  obtain ⟨a₂, hdenotes₂, hencodes₂⟩ := h₂.sites entry hentry r hr
  rcases hdenotes₁.rebase hdenotes₂ with ⟨-, offset, rfl, rfl⟩ | ⟨houtside, -⟩
  · simp only [hkind, RelocationKind.Encodes, signedWord_eq_iff, Address.toNat_after]
      at hencodes₁ hencodes₂
    unfold Relocation.bytesIn
    omega
  · exact absurd hinside houtside

/-- Distances to what is outside change by the way back. -/
theorem distance_of_isImage (h₁ : IsImage functions external plan b₁ image₁)
    (h₂ : IsImage functions external plan b₂ image₂) {entry : CompiledFunction × Nat}
    (hentry : entry ∈ functions.zip plan.starts) {r : Relocation} (hr : r ∈ entry.1.relocations)
    (hkind : r.kind.isDistance = true) (houtside : ¬ r.target.IsInside functions) :
    (ofLittleEndian (r.bytesIn entry.2 image₂) : Int).bmod (2 ^ 32) -
        (ofLittleEndian (r.bytesIn entry.2 image₁) : Int).bmod (2 ^ 32) =
      signedWord ((b₁.toNat : Int) - b₂.toNat) := by
  obtain ⟨a₁, hdenotes₁, hencodes₁⟩ := h₁.sites entry hentry r hr
  obtain ⟨a₂, hdenotes₂, hencodes₂⟩ := h₂.sites entry hentry r hr
  rcases hdenotes₁.rebase hdenotes₂ with ⟨hinside, -⟩ | ⟨-, rfl⟩
  · exact absurd hinside houtside
  · have hfield₁ := hencodes₁.distance_emod hkind
    have hfield₂ := hencodes₂.distance_emod hkind
    exact sub_eq_signedWord (bounds_bmod32 _) (bounds_bmod32 _) (hfield₁.trans hfield₂.symm)

/-- A plan applied with success at `b₁` and at `b₂`, whatever the two buffers held, leaves the same
bytes but for sites that depend on the place, and there the bytes tell how far the image moved. -/
theorem image_rebased (hbuild : (build functions external).outcome = .ok plan)
    (hsize : buffer₁.size = buffer₂.size)
    (h₁ : plan.apply functions b₁ buffer₁ = (.ok (), image₁))
    (h₂ : plan.apply functions b₂ buffer₂ = (.ok (), image₂)) :
    Rebased functions plan.starts b₁ b₂ image₁ image₂ := by
  have hagree := agreeOff_of_apply hbuild hsize h₁ h₂
  constructor
  · exact hagree
  · intro entry hentry r hr _ hapart
    exact bytesIn_eq_of_agreeOff hbuild hagree hentry hr hapart
  · intro hapart entry hentry r hr hkind hinside
    exact absolute_of_isImage (image_of_apply hbuild h₁ hapart).1
      (image_of_apply hbuild h₂ hapart).1 hentry hr hkind hinside
  · intro hapart entry hentry r hr hkind houtside
    exact distance_of_isImage (image_of_apply hbuild h₁ hapart).1
      (image_of_apply hbuild h₂ hapart).1 hentry hr hkind houtside
  · intro hlow hhigh
    exact Int.bmod_eq_of_le hlow hhigh

/-- An address of the function itself and a distance to a symbol outside, with the image at
`0x400000` and at `0x500000`. -/
theorem image_rebased_pointer :
    let function : CompiledFunction := ⟨"f", .replicate 14 0x90,
      [⟨0, .abs8, .here 4, 0⟩, ⟨8, .x86PCRel4, .symbol "outside", -4⟩]⟩
    let external : RelocationTarget → Option Address := fun _ => some 0x401000
    let plan : Plan := ⟨[0], [[.inside 4, .outside 0x401000]], [("f", 0)], 14⟩
    let image₁ : Array UInt8 := #[4, 0, 0x40, 0, 0, 0, 0, 0, 0xf4, 0x0f, 0, 0, 0x90, 0x90]
    let image₂ : Array UInt8 := #[4, 0, 0x50, 0, 0, 0, 0, 0, 0xf4, 0x0f, 0xf0, 0xff, 0x90, 0x90]
    (build [function] external).outcome = .ok plan ∧
      plan.apply [function] 0x400000 (.replicate 14 7) = (.ok (), image₁) ∧
      plan.apply [function] 0x500000 (.replicate 14 0) = (.ok (), image₂) ∧
      Rebased [function] plan.starts 0x400000 0x500000 image₁ image₂ := by
  intro function external plan image₁ image₂
  have hbuild : (build [function] external).outcome = .ok plan := rfl
  have h₁ : plan.apply [function] 0x400000 (.replicate 14 7) = (.ok (), image₁) := by
    simp [apply, applyFunctions, applyRelocations, patch, valueOf, Address.after, signedWord,
      writeSite, writeAt, littleEndian, function, plan, image₁]
    apply Array.toList_inj.1
    simp [List.replicate]
  have h₂ : plan.apply [function] 0x500000 (.replicate 14 0) = (.ok (), image₂) := by
    simp [apply, applyFunctions, applyRelocations, patch, valueOf, Address.after, signedWord,
      writeSite, writeAt, littleEndian, function, plan, image₂]
    apply Array.toList_inj.1
    simp [List.replicate]
  have hsize : (Array.replicate 14 (7 : UInt8)).size = (Array.replicate 14 (0 : UInt8)).size := rfl
  exact ⟨hbuild, h₁, h₂, image_rebased hbuild hsize h₁ h₂⟩

end

end Plan

end JitHost
