import JitHost.Link.Checked
import JitHost.Proofs.Link.Ranges

/-!
# Distances that overflow

A relocation that counts from its site takes the difference of two signed words. Addresses below
`2 ^ 47` keep it from being too large, but not from being too small: the sum of address and addend
may be any word, and if it is one of the least ones, the site lies further above it than a word can
tell (`RelocationSite.Overflows`). A machine that checks its arithmetic stops there, and nowhere
else (`Plan.distances_checked`), instead of refusing the relocation as one that leads too far.
-/

namespace JitHost

/-! ## Signed words -/

theorem signedWord_range (n : Int) : -2 ^ 63 ≤ signedWord n ∧ signedWord n < 2 ^ 63 :=
  ⟨Int.le_bmod (by decide), Int.bmod_lt (by decide)⟩

theorem signedWord_eq_self_iff {n : Int} : signedWord n = n ↔ -2 ^ 63 ≤ n ∧ n < 2 ^ 63 := by
  constructor
  · intro h
    rw [← h]
    exact signedWord_range n
  · rintro ⟨hlow, hhigh⟩
    exact Int.bmod_eq_of_le (by omega) (by omega)

/-- An address in the lower half of memory is its own signed word. -/
theorem signedWord_place {base : Address} {place : Nat} (hplace : base.toNat + place < 2 ^ 63) :
    signedWord (base.toNat + place) = base.toNat + place :=
  signedWord_eq_self_iff.2 (by omega)

/-! ## One value -/

namespace RelocationKind

variable {kind : RelocationKind} {value distance : Int}

/-- The kinds that count from the site hold short distances only. -/
theorem Holds.distance_lt (h : kind.Holds value distance) (hrelative : kind.isRelative = true) :
    -2 ^ 31 ≤ distance ∧ distance < 2 ^ 31 := by
  cases kind with
  | abs4 | abs8 | other => cases hrelative
  | x86PCRel4 | x86CallPCRel4 | x86CallPLTRel4 => exact h
  | arm64Call =>
    obtain ⟨-, hlow, hhigh⟩ := h
    omega

end RelocationKind

section Patch

variable {buffer : Array UInt8} {base : Address} {place width : Nat} {kind : RelocationKind}
  {value : Int}

theorem patchOverflows_iff : patchOverflows base place kind value = true ↔
    kind.isRelative = true ∧
      signedWord (value - signedWord (base.toNat + place)) ≠
        value - signedWord (base.toNat + place) := by
  simp only [patchOverflows, Bool.and_eq_true, bne_iff_ne]

/-- From a site in the lower half of memory a distance can only be too small for a word. -/
theorem distance_not_word_iff (hplace : base.toNat + place < 2 ^ 63)
    (hvalue : signedWord value = value) :
    signedWord (value - signedWord (base.toNat + place)) ≠
        value - signedWord (base.toNat + place) ↔
      value < -2 ^ 63 + (base.toNat + place) := by
  obtain ⟨hlow, hhigh⟩ := signedWord_eq_self_iff.1 hvalue
  rw [Ne, signedWord_eq_self_iff, signedWord_place hplace]
  omega

/-- What becomes of a value that is to be written as counted from its site: it lies so low that the
machine stops, or it is encoded, or it is refused as out of range. -/
inductive RelativePatch (buffer : Array UInt8) (base : Address) (place : Nat)
    (kind : RelocationKind) (value : Int) : Option (Except PatchFault (Array UInt8)) → Prop where
  | stopped (hlow : value < -2 ^ 63 + (base.toNat + place)) :
      RelativePatch buffer base place kind value none
  | encoded {bytes : List UInt8} (hword : -2 ^ 63 + (base.toNat + place) ≤ value)
      (hbytes : PatchBytes buffer base place kind value bytes) :
      RelativePatch buffer base place kind value (some (.ok (writeAt buffer place bytes)))
  | refused {fault : PatchFault} (hword : -2 ^ 63 + (base.toNat + place) ≤ value)
      (hrefuses : kind.Refuses value (value - (base.toNat + place)) fault) :
      RelativePatch buffer base place kind value (some (.error fault))

theorem relativePatch_of_inside (hrelative : kind.isRelative = true)
    (hwidth : kind.width? = some width) (hfits : place + width ≤ buffer.size)
    (hplace : base.toNat + place < 2 ^ 63) (hvalue : signedWord value = value) :
    RelativePatch buffer base place kind value (patchChecked buffer base place kind value) := by
  unfold patchChecked
  by_cases hlow : value < -2 ^ 63 + (base.toNat + place)
  · rw [if_pos (patchOverflows_iff.2 ⟨hrelative, (distance_not_word_iff hplace hvalue).2 hlow⟩)]
    exact .stopped hlow
  · have hword : -2 ^ 63 + (base.toNat + place) ≤ value := Int.not_lt.1 hlow
    have hfine : ¬ patchOverflows base place kind value = true := fun hoverflows =>
      hlow ((distance_not_word_iff hplace hvalue).1 (patchOverflows_iff.1 hoverflows).2)
    rw [if_neg hfine]
    rcases patch_of_inside base value hwidth hfits with
      ⟨-, after, hafter⟩ | ⟨fault, hrefuses, hfault⟩
    · obtain ⟨bytes, rfl, hbytes⟩ := encodes_of_patch hafter
      rw [hafter]
      exact .encoded hword hbytes
    · rw [signedWord_place hplace] at hrefuses
      rw [hfault]
      exact .refused hword hrefuses

end Patch

/-! ## One relocation -/

namespace RelocationSite

/-- A relocation counts from its site, and its distance is no signed word. -/
def Overflows (functions : List CompiledFunction) (starts : List Nat)
    (external : RelocationTarget → Option Address) (base : Address) (site : RelocationSite) :
    Prop :=
  site.relocation.kind.isRelative = true ∧ ∃ value distance,
    site.Asks functions starts external base value distance ∧ signedWord distance ≠ distance

variable {functions : List CompiledFunction} {starts : List Nat}
  {external : RelocationTarget → Option Address} {base : Address} {site : RelocationSite}
  {value distance : Int}

/-- What a relocation asks for is a signed word. -/
theorem Asks.signedWord_value (h : site.Asks functions starts external base value distance) :
    signedWord value = value := by
  obtain ⟨address, -, rfl, -⟩ := h
  exact signedWord_signedWord _

theorem Asks.overflows_iff (h : site.Asks functions starts external base value distance) :
    site.Overflows functions starts external base ↔
      site.relocation.kind.isRelative = true ∧ signedWord distance ≠ distance := by
  constructor
  · rintro ⟨hrelative, value', distance', h', hdistance⟩
    obtain ⟨-, rfl⟩ := h.unique h'
    exact ⟨hrelative, hdistance⟩
  · rintro ⟨hrelative, hdistance⟩
    exact ⟨hrelative, value, distance, h, hdistance⟩

/-- In the lower half of memory a distance overflows if the value is among the least words. -/
theorem Asks.overflows_iff_lt (h : site.Asks functions starts external base value distance)
    (hplace : base.toNat + (site.start + site.relocation.offset) < 2 ^ 63) :
    site.Overflows functions starts external base ↔ site.relocation.kind.isRelative = true ∧
      value < -2 ^ 63 + (base.toNat + (site.start + site.relocation.offset : Nat)) := by
  obtain ⟨address, -, -, hdistance⟩ := id h
  rw [h.overflows_iff, hdistance, distance_not_word_iff hplace h.signedWord_value]

theorem overflows_iff_exists_lt
    (hplace : base.toNat + (site.start + site.relocation.offset) < 2 ^ 63) :
    site.Overflows functions starts external base ↔
      site.relocation.kind.isRelative = true ∧ ∃ value distance,
        site.Asks functions starts external base value distance ∧
          value < -2 ^ 63 + (base.toNat + (site.start + site.relocation.offset : Nat)) := by
  constructor
  · intro h
    obtain ⟨hrelative, value, distance, hasks, -⟩ := id h
    exact ⟨hrelative, value, distance, hasks, ((hasks.overflows_iff_lt hplace).1 h).2⟩
  · rintro ⟨hrelative, value, distance, hasks, hlow⟩
    exact (hasks.overflows_iff_lt hplace).2 ⟨hrelative, hlow⟩

/-- A machine that wraps around instead finds the relocation out of range as well. -/
theorem Overflows.not_holds_wrapped (h : site.Overflows functions starts external base)
    (huser : base.toNat + (site.start + site.relocation.offset) ≤ 2 ^ 47)
    (hasks : site.Asks functions starts external base value distance) :
    ¬ site.relocation.kind.Holds value (signedWord distance) := by
  intro hholds
  have hplace : base.toNat + (site.start + site.relocation.offset) < 2 ^ 63 := by omega
  obtain ⟨hrelative, hlow⟩ := (hasks.overflows_iff_lt hplace).1 h
  obtain ⟨-, hshort⟩ := hholds.distance_lt hrelative
  obtain ⟨hleast, -⟩ := signedWord_eq_self_iff.1 hasks.signedWord_value
  obtain ⟨address, -, -, hdistance⟩ := id hasks
  rw [signedWord_place hplace] at hdistance
  -- What is just below the least word is wrapped to what is just below the end of the words.
  have hwrapped : signedWord (distance + 2 ^ 64) = distance + 2 ^ 64 :=
    signedWord_eq_self_iff.2 (by omega)
  have hsame : signedWord distance = signedWord (distance + 2 ^ 64) :=
    signedWord_eq_iff.2 (by omega)
  omega

end RelocationSite

namespace Plan

/-! ## Relocations one after another -/

/-- Among relocations that are written in their order there is one whose distance overflows, and the
values of those before it are held. -/
def StopsIn (functions : List CompiledFunction) (starts : List Nat)
    (external : RelocationTarget → Option Address) (base : Address) (sites : List RelocationSite) :
    Prop :=
  ∃ before site rest, sites = before ++ site :: rest ∧
    (∀ other ∈ before, other.IsHeld functions starts external base) ∧
    site.Overflows functions starts external base

/-- What a machine that checks makes of a run: nothing if it is stopped, and else the same. -/
inductive Checks (stops : Prop) (plain : α) : Option α → Prop where
  | stopped (hstops : stops) : Checks stops plain none
  | finished (hruns : ¬ stops) : Checks stops plain (some plain)

section

variable {stops stops' : Prop} {plain : α} {checked : Option α}

theorem Checks.congr (h : Checks stops plain checked) (hiff : stops' ↔ stops) :
    Checks stops' plain checked := by
  cases h with
  | stopped hstops => exact .stopped (hiff.2 hstops)
  | finished hruns => exact .finished (mt hiff.1 hruns)

theorem Checks.eq_none_iff (h : Checks stops plain checked) : checked = none ↔ stops := by
  cases h with
  | stopped hstops => exact ⟨fun _ => hstops, fun _ => rfl⟩
  | finished hruns => exact ⟨nofun, fun hstops => absurd hstops hruns⟩

theorem Checks.eq_some (h : Checks stops plain checked) (hruns : checked ≠ none) :
    checked = some plain := by
  cases h with
  | stopped => exact absurd rfl hruns
  | finished => rfl

end

section

variable {functions : List CompiledFunction} {starts : List Nat}
  {external : RelocationTarget → Option Address} {base : Address}
  {sites first rest : List RelocationSite}

theorem not_stopsIn_nil : ¬ StopsIn functions starts external base [] := by
  rintro ⟨before, site, rest, hsites, -⟩
  cases before <;> cases hsites

theorem stopsIn_cons {site : RelocationSite} :
    StopsIn functions starts external base (site :: rest) ↔
      site.Overflows functions starts external base ∨
        site.IsHeld functions starts external base ∧
          StopsIn functions starts external base rest := by
  constructor
  · rintro ⟨before, stop, behind, hsites, hbefore, hoverflows⟩
    cases before with
    | nil =>
      cases hsites
      exact .inl hoverflows
    | cons other before =>
      cases hsites
      obtain ⟨hsite, hbefore⟩ := List.forall_mem_cons.1 hbefore
      exact .inr ⟨hsite, before, stop, behind, rfl, hbefore, hoverflows⟩
  · rintro (hoverflows | ⟨hsite, before, stop, behind, rfl, hbefore, hoverflows⟩)
    · exact ⟨[], site, rest, rfl, List.forall_mem_nil _, hoverflows⟩
    · exact ⟨site :: before, stop, behind, rfl, List.forall_mem_cons.2 ⟨hsite, hbefore⟩, hoverflows⟩

theorem stopsIn_append :
    StopsIn functions starts external base (first ++ rest) ↔
      StopsIn functions starts external base first ∨
        (∀ site ∈ first, site.IsHeld functions starts external base) ∧
          StopsIn functions starts external base rest := by
  induction first with
  | nil =>
    rw [List.nil_append, or_iff_right not_stopsIn_nil, and_iff_right (List.forall_mem_nil _)]
  | cons site first ih =>
    rw [List.cons_append, stopsIn_cons, stopsIn_cons, ih, List.forall_mem_cons, and_or_left,
      or_assoc, and_assoc]

end

section

variable {functions : List CompiledFunction} {external : RelocationTarget → Option Address}
  (base : Address)

/-- A relocation that passed the check is written as ever, unless its distance overflows. -/
theorem patchChecked_of_inspect {function : CompiledFunction} {start : Nat} {r : Relocation}
    {target : ResolvedTarget} (buffer : Array UInt8)
    (hchecked : inspect (symbolsOf functions) external function start r = .ok target) :
    Checks
      (RelocationSite.Overflows functions (startsFrom 0 functions) external base
        ⟨function, start, r⟩)
      (patch buffer base (start + r.offset) r.kind (valueOf base target r.addend))
      (patchChecked buffer base (start + r.offset) r.kind (valueOf base target r.addend)) := by
  have hasks := asks_of_inspect base hchecked
  have hiff := hasks.overflows_iff.trans patchOverflows_iff.symm
  unfold patchChecked
  split
  · rename_i hoverflows
    exact .stopped (hiff.2 hoverflows)
  · rename_i hfine
    exact .finished (mt hiff.1 hfine)

/-- The relocations of one function that passed the check. -/
theorem checks_applyRelocations {function : CompiledFunction} {start : Nat}
    {entries : List (Relocation × ResolvedTarget)} {buffer : Array UInt8}
    (hchecked : ∀ entry ∈ entries,
      inspect (symbolsOf functions) external function start entry.1 = .ok entry.2)
    (hfits : start + function.code.length ≤ buffer.size) :
    Checks
      (StopsIn functions (startsFrom 0 functions) external base
        (entries.map fun entry => ⟨function, start, entry.1⟩))
      (applyRelocations base start entries buffer)
      (applyRelocationsChecked base start entries buffer) := by
  -- Both runs leave the same buffer to the relocations behind, so it varies in the induction.
  induction entries generalizing buffer with
  | nil => exact .finished not_stopsIn_nil
  | cons entry rest ih =>
    obtain ⟨r, target⟩ := entry
    have hfirst := hchecked _ List.mem_cons_self
    have hrest := fun e he => hchecked e (List.mem_cons_of_mem _ he)
    have hpatch := patchChecked_of_inspect base buffer hfirst
    rw [applyRelocations, applyRelocationsChecked, List.map_cons]
    cases hrun : patchChecked buffer base (start + r.offset) r.kind
        (valueOf base target r.addend) with
    | none =>
      rw [hrun] at hpatch
      cases hpatch with
      | stopped hoverflows => exact .stopped (stopsIn_cons.2 (.inl hoverflows))
    | some outcome =>
      rw [hrun] at hpatch
      cases hpatch with
      | finished hfine =>
        rcases patch_of_inspect base hfirst hfits with
          ⟨hheld, after, hafter⟩ | ⟨fault, hrefused, hstopped⟩
        · have hsize : start + function.code.length ≤ after.size := by
            rw [size_patch hafter]
            exact hfits
          simp only [hafter]
          refine (ih hrest hsize).congr ?_
          rw [stopsIn_cons, or_iff_right hfine, and_iff_right hheld]
        · simp only [hstopped]
          refine .finished ?_
          rw [stopsIn_cons, or_iff_right hfine]
          exact fun hstops => hrefused.not_isHeld hstops.1

/-- The relocations of one function of an image. -/
theorem checks_function {entry : CompiledFunction × Nat} {buffer : Array UInt8}
    (hchecked : problemsOf (entry.1.relocations.map
      (inspect (symbolsOf functions) external entry.1 entry.2)) = [])
    (hfits : entry.2 + entry.1.code.length ≤ buffer.size) :
    Checks
      (StopsIn functions (startsFrom 0 functions) external base
        (entry.1.relocations.map fun r => ⟨entry.1, entry.2, r⟩))
      (applyRelocations base entry.2
        (entry.1.relocations.zip (targetsAt functions external entry)) buffer)
      (applyRelocationsChecked base entry.2
        (entry.1.relocations.zip (targetsAt functions external entry)) buffer) := by
  obtain ⟨hpaired, htargets⟩ := zip_targetsOf hchecked
  have hsites := congrArg
    (List.map fun r => (⟨entry.1, entry.2, r⟩ : RelocationSite)) hpaired
  rw [List.map_map] at hsites
  rw [← hsites]
  exact checks_applyRelocations base htargets hfits

/-- Functions one after another, whose relocations all passed the check. -/
theorem checks_applyFunctions {entries : List (CompiledFunction × Nat)} {buffer : Array UInt8}
    (hchecked : ∀ entry ∈ entries, problemsOf (entry.1.relocations.map
      (inspect (symbolsOf functions) external entry.1 entry.2)) = [])
    (hfits : ∀ entry ∈ entries, entry.2 + entry.1.code.length ≤ buffer.size) :
    Checks
      (StopsIn functions (startsFrom 0 functions) external base
        (entries.flatMap fun entry => entry.1.relocations.map fun r => ⟨entry.1, entry.2, r⟩))
      (applyFunctions base
        (entries.map fun entry => (entry.1, entry.2, targetsAt functions external entry)) buffer)
      (applyFunctionsChecked base
        (entries.map fun entry => (entry.1, entry.2, targetsAt functions external entry))
        buffer) := by
  induction entries generalizing buffer with
  | nil => exact .finished not_stopsIn_nil
  | cons entry rest ih =>
    have hcopied : entry.2 + entry.1.code.length ≤
        (writeAt buffer entry.2 entry.1.code).size := by
      rw [size_writeAt]
      exact hfits entry List.mem_cons_self
    have hfirst := checks_function base (hchecked entry List.mem_cons_self) hcopied
    have hends := ends_function base (hchecked entry List.mem_cons_self) hcopied
    have hsize := size_applyRelocations base entry.2
      (entry.1.relocations.zip (targetsAt functions external entry))
      (writeAt buffer entry.2 entry.1.code)
    rw [List.flatMap_cons, List.map_cons, applyFunctions, applyFunctionsChecked]
    cases hchecks : applyRelocationsChecked base entry.2
        (entry.1.relocations.zip (targetsAt functions external entry))
        (writeAt buffer entry.2 entry.1.code) with
    | none =>
      rw [hchecks] at hfirst
      cases hfirst with
      | stopped hstops => exact .stopped (stopsIn_append.2 (.inl hstops))
    | some run =>
      rw [hchecks] at hfirst
      cases hfirst with
      | finished hruns =>
        cases hrun : applyRelocations base entry.2
            (entry.1.relocations.zip (targetsAt functions external entry))
            (writeAt buffer entry.2 entry.1.code) with
        | mk outcome middle =>
          rw [hrun] at hends hsize
          cases outcome with
          | error cause =>
            -- A relocation was refused, so none of those behind it is reached.
            refine .finished ?_
            rw [stopsIn_append, or_iff_right hruns]
            rintro ⟨hheld, -⟩
            cases hends.eq_ok_iff.2 hheld
          | ok =>
            have hheld := hends.eq_ok_iff.1 rfl
            refine Checks.congr (ih ?_ ?_) ?_
            · intro other hother
              exact hchecked other (List.mem_cons_of_mem _ hother)
            · intro other hother
              rw [hsize, size_writeAt]
              exact hfits other (List.mem_cons_of_mem _ hother)
            · rw [stopsIn_append, or_iff_right hruns, and_iff_right hheld]

/-! ## A plan -/

variable {plan : Plan} {buffer : Array UInt8}

/-- A machine that checks stops only where the buffer holds the image and a distance overflows. -/
theorem checks_apply (hbuild : (build functions external).outcome = .ok plan)
    (buffer : Array UInt8) :
    Checks (plan.size ≤ buffer.size ∧
        StopsIn functions plan.starts external base (sitesOf functions))
      (plan.apply functions base buffer) (plan.applyChecked functions base buffer) := by
  have hend := end_le_size hbuild
  obtain ⟨rfl, hchecked⟩ := build_eq_ok hbuild
  rw [apply, applyChecked]
  by_cases hlt : buffer.size < endFrom 0 functions
  · rw [if_pos hlt, if_pos hlt]
    exact .finished fun hstops => Nat.not_le.2 hlt hstops.1
  · have hfits : endFrom 0 functions ≤ buffer.size := Nat.not_lt.1 hlt
    rw [if_neg hlt, if_neg hlt]
    simp only [zip_zip_map]
    refine (checks_applyFunctions base hchecked ?_).congr (and_iff_right hfits)
    intro entry hentry
    rw [Array.size_replicate]
    exact Nat.le_trans (hend entry hentry) hfits

/-- The sites of a plan that was built lie in any buffer that holds the image. -/
theorem site_inside_of_build (hbuild : (build functions external).outcome = .ok plan)
    (hfits : plan.size ≤ buffer.size) {site : RelocationSite} (hsite : site ∈ sitesOf functions) :
    ∃ width, site.relocation.kind.width? = some width ∧
      site.start + site.relocation.offset + width ≤ buffer.size := by
  obtain ⟨hentry, width, hwidth, hpatch⟩ := canPatch_of_mem_sitesOf hbuild hsite
  have hcode := end_le_size hbuild _ hentry
  simp only at hcode
  exact ⟨width, hwidth, by omega⟩

/-- Every relocation of a plan that was built asks for a value. -/
theorem exists_asks_of_build (hbuild : (build functions external).outcome = .ok plan)
    {site : RelocationSite} (hsite : site ∈ sitesOf functions) :
    ∃ value distance, site.Asks functions plan.starts external base value distance := by
  obtain ⟨rfl, hchecked⟩ := build_eq_ok hbuild
  obtain ⟨entry, hentry, hmem⟩ := List.mem_flatMap.1 hsite
  obtain ⟨r, hr, rfl⟩ := List.mem_map.1 hmem
  obtain ⟨target, -, hresult⟩ := exists_mem_zip_targetsOf (hchecked entry hentry) hr
  exact ⟨_, _, asks_of_inspect base hresult⟩

/-- What a machine that checks its arithmetic makes of a plan that was built, in a buffer whose
addresses are below `2 ^ 47`. -/
structure ChecksDistances (functions : List CompiledFunction)
    (external : RelocationTarget → Option Address) (plan : Plan) (base : Address)
    (buffer : Array UInt8) : Prop where
  /-- A relocation that counts from its site asks for one value, and whatever the buffer holds by
  then, that value is encoded or out of range, unless it is so low that the machine stops. -/
  relative : plan.size ≤ buffer.size → ∀ site ∈ sitesOf functions,
    site.relocation.kind.isRelative = true →
      ∃ value distance, site.Asks functions plan.starts external base value distance ∧
        ∀ current : Array UInt8, current.size = buffer.size →
          RelativePatch current base (site.start + site.relocation.offset) site.relocation.kind
            value (patchChecked current base (site.start + site.relocation.offset)
              site.relocation.kind value)
  /-- The machine stops exactly if it comes to a distance that overflows, -/
  stops_iff : plan.applyChecked functions base buffer = none ↔ plan.size ≤ buffer.size ∧
    ∃ before site rest, sitesOf functions = before ++ site :: rest ∧
      (∀ other ∈ before, other.IsHeld functions plan.starts external base) ∧
      site.Overflows functions plan.starts external base
  /-- that is, to a value that lies further below its site than a word can tell, -/
  overflows_iff : plan.size ≤ buffer.size → ∀ site ∈ sitesOf functions,
    (site.Overflows functions plan.starts external base ↔
      site.relocation.kind.isRelative = true ∧ ∃ value distance,
        site.Asks functions plan.starts external base value distance ∧
          value < -2 ^ 63 + (base.toNat + (site.start + site.relocation.offset : Nat)))
  /-- and otherwise writes the image as ever. -/
  runs : plan.applyChecked functions base buffer ≠ none →
    plan.applyChecked functions base buffer = some (plan.apply functions base buffer)
  /-- So it never stops if no relocation asks for one of the `2 ^ 47` least words. -/
  never : (∀ site ∈ sitesOf functions, site.relocation.kind.isRelative = true →
      ∀ value distance, site.Asks functions plan.starts external base value distance →
        -2 ^ 63 + 2 ^ 47 ≤ value) →
    plan.applyChecked functions base buffer ≠ none
  /-- A machine that wraps around refuses what overflows as out of range. -/
  wrapped : plan.size ≤ buffer.size → ∀ site ∈ sitesOf functions,
    site.Overflows functions plan.starts external base → ∀ value distance,
      site.Asks functions plan.starts external base value distance →
        ¬ site.relocation.kind.Holds value (signedWord distance)

/-- Below `2 ^ 47` a plan that was built stops a machine that checks only with a value among the
least words. -/
theorem distances_checked (hbuild : (build functions external).outcome = .ok plan)
    (huser : base.toNat + buffer.size ≤ 2 ^ 47) :
    ChecksDistances functions external plan base buffer := by
  have hchecks := checks_apply base hbuild buffer
  have hplace : plan.size ≤ buffer.size → ∀ site ∈ sitesOf functions,
      base.toNat + (site.start + site.relocation.offset) ≤ 2 ^ 47 := by
    intro hfits site hsite
    obtain ⟨width, -, hinside⟩ := site_inside_of_build hbuild hfits hsite
    omega
  have hoverflows : plan.size ≤ buffer.size → ∀ site ∈ sitesOf functions,
      (site.Overflows functions plan.starts external base ↔
        site.relocation.kind.isRelative = true ∧ ∃ value distance,
          site.Asks functions plan.starts external base value distance ∧
            value < -2 ^ 63 + (base.toNat + (site.start + site.relocation.offset : Nat))) := by
    intro hfits site hsite
    exact RelocationSite.overflows_iff_exists_lt
      (Nat.lt_of_le_of_lt (hplace hfits site hsite) (by decide))
  refine ⟨?_, hchecks.eq_none_iff, hoverflows, hchecks.eq_some, ?_, ?_⟩
  · intro hfits site hsite hrelative
    obtain ⟨value, distance, hasks⟩ := exists_asks_of_build base hbuild hsite
    obtain ⟨width, hwidth, hinside⟩ := site_inside_of_build hbuild hfits hsite
    refine ⟨value, distance, hasks, fun current hsize => ?_⟩
    rw [← hsize] at hinside
    exact relativePatch_of_inside hrelative hwidth hinside
      (Nat.lt_of_le_of_lt (hplace hfits site hsite) (by decide)) hasks.signedWord_value
  · intro hlarge hnone
    obtain ⟨hfits, before, site, rest, hsites, -, hstop⟩ := hchecks.eq_none_iff.1 hnone
    have hsite : site ∈ sitesOf functions := by
      rw [hsites]
      exact List.mem_append_right _ List.mem_cons_self
    obtain ⟨hrelative, value, distance, hasks, hlow⟩ := (hoverflows hfits site hsite).1 hstop
    have hleast := hlarge site hsite hrelative value distance hasks
    have hspace := hplace hfits site hsite
    omega
  · intro hfits site hsite hstop value distance hasks
    exact hstop.not_holds_wrapped (hplace hfits site hsite) hasks

end

/-- A call of a function to itself, with an addend that makes the distance the least word, at the
very end of the space below `2 ^ 47`: it is refused as any other call that leads too far. -/
theorem distances_checked_least :
    let function : CompiledFunction :=
      ⟨"f", .replicate 8 0, [⟨4, .x86CallPCRel4, .symbol "f", -2 ^ 63 + 4⟩]⟩
    let plan : Plan := ⟨[0], [[.inside 0]], [("f", 0)], 8⟩
    (build [function] fun _ => none).outcome = .ok plan ∧
      (0x7ffffffffff8 : Address).toNat + 8 ≤ 2 ^ 47 ∧
      (plan.applyChecked [function] 0x7ffffffffff8 (.replicate 8 0)).map Prod.fst =
        some (.error (.relocationFailed "CallPCRel4" 4
          "target is further than 2 GiB from the call site")) ∧
      ChecksDistances [function] (fun _ => none) plan 0x7ffffffffff8 (.replicate 8 0) := by
  intro function plan
  have hbuild : (build [function] fun _ => none).outcome = .ok plan := by
    simp [build, startsFrom, endFrom, alignUp, functionAlignment, inspect, resolve, lastOffset?,
      RelocationKind.width?, problemsOf, targetsOf, LinkProblem.distinct, function, plan]
  have huser :
      (0x7ffffffffff8 : Address).toNat + (Array.replicate 8 (0 : UInt8)).size ≤ 2 ^ 47 := by decide
  refine ⟨hbuild, huser, ?_, distances_checked 0x7ffffffffff8 hbuild huser⟩
  simp [applyChecked, applyFunctionsChecked, applyRelocationsChecked, patchChecked, patchOverflows,
    RelocationKind.isRelative, RelocationKind.isDistance, patch, valueOf, Address.after, signedWord,
    RelocationKind.text, PatchFault.reason, function, plan]

/-- A reference to what lies outside, at the least word: its distance from the site is no word. -/
theorem distance_overflows :
    let function : CompiledFunction := ⟨"f", .replicate 8 0, [⟨0, .x86PCRel4, .symbol "ext", 0⟩]⟩
    let external : RelocationTarget → Option Address := fun _ => some 0x8000000000000000
    let plan : Plan := ⟨[0], [[.outside 0x8000000000000000]], [("f", 0)], 8⟩
    (build [function] external).outcome = .ok plan ∧
      (0x20000000 : Address).toNat + 8 ≤ 2 ^ 47 ∧
      valueOf 0x20000000 (.outside 0x8000000000000000) 0 - signedWord 0x20000000 < -2 ^ 63 ∧
      plan.applyChecked [function] 0x20000000 (.replicate 8 0xee) = none := by
  intro function external plan
  have habsent : lastOffset? [("f", 0)] "ext" = none := by decide
  have hbuild : (build [function] external).outcome = .ok plan := by
    simp [build, startsFrom, endFrom, alignUp, functionAlignment, inspect, resolve, habsent,
      RelocationKind.width?, problemsOf, targetsOf, LinkProblem.distinct, function, external, plan]
  refine ⟨hbuild, by decide, by decide, ?_⟩
  simp [applyChecked, applyFunctionsChecked, applyRelocationsChecked, patchChecked, patchOverflows,
    RelocationKind.isRelative, RelocationKind.isDistance, valueOf, signedWord, function, plan]

end Plan

end JitHost
