import JitHost.Proofs.Link.Rebasing
import JitHost.Proofs.Link.Reports

/-!
# Which images can be written

A kind of relocation holds the values of one range and refuses all others, for a reason of its own
(`RelocationKind.Holds`, `RelocationKind.Refuses`). A plan that was built has all its sites inside of
the image, so nothing else can stop it from being applied: it ends with the first relocation whose
value is refused (`Plan.Ends`), or succeeds if there is none. `apply_ends` says this of every buffer
and every address; a buffer that is too short is refused before anything is written.
-/

namespace JitHost

/-! ## One value -/

namespace RelocationKind

/-- The values that a kind can hold. The distance is that of the value from the site, a whole number
that need not fit into a word. -/
def Holds (kind : RelocationKind) (value distance : Int) : Prop :=
  match kind with
  | .abs4 => 0 ≤ value ∧ value < 2 ^ 32
  | .abs8 => True
  | .x86PCRel4 | .x86CallPCRel4 | .x86CallPLTRel4 => -2 ^ 31 ≤ distance ∧ distance < 2 ^ 31
  | .arm64Call => distance % 4 = 0 ∧ -2 ^ 27 ≤ distance ∧ distance < 2 ^ 27
  | .other _ => False

/-- Why a kind cannot hold a value. -/
inductive Refuses (value distance : Int) : RelocationKind → PatchFault → Prop where
  | wide (hrange : ¬ (0 ≤ value ∧ value < 2 ^ 32)) : Refuses value distance .abs4 .addressTooWide
  | far {kind : RelocationKind} (hkind : kind.isDistance = true)
      (hrange : ¬ (-2 ^ 31 ≤ distance ∧ distance < 2 ^ 31)) :
      Refuses value distance kind .targetTooFar
  | misaligned (hmisaligned : distance % 4 ≠ 0) :
      Refuses value distance .arm64Call .branchMisaligned
  | distant (haligned : distance % 4 = 0) (hrange : ¬ (-2 ^ 27 ≤ distance ∧ distance < 2 ^ 27)) :
      Refuses value distance .arm64Call .branchTooFar

variable {kind : RelocationKind} {value distance : Int} {fault : PatchFault}

/-- What is refused is not held. -/
theorem Refuses.not_holds (h : kind.Refuses value distance fault) : ¬ kind.Holds value distance := by
  intro hholds
  cases h with
  | wide hrange => exact hrange hholds
  | far hkind hrange =>
    cases kind with
    | x86PCRel4 | x86CallPCRel4 | x86CallPLTRel4 => exact hrange hholds
    | _ => cases hkind
  | misaligned hmisaligned => exact hmisaligned hholds.1
  | distant _ hrange => exact hrange hholds.2

/-- No value is refused for the place of its site or for its kind. -/
theorem Refuses.reason_ne (h : kind.Refuses value distance fault) :
    fault.reason ≠ PatchFault.outsideBuffer.reason ∧
      fault.reason ≠ PatchFault.unsupported.reason := by
  cases h <;> decide

end RelocationKind

theorem exists_writeSite {buffer : Array UInt8} {place count : Nat}
    (hfits : place + count ≤ buffer.size) (n : Nat) :
    ∃ after, writeSite buffer place (littleEndian count n) = .ok after := by
  refine ⟨_, if_pos ?_⟩
  rw [length_littleEndian]
  exact hfits

/-- A patch inside of the buffer succeeds if its kind holds the value, and else gives the reason why
it does not. -/
theorem patch_of_inside {buffer : Array UInt8} {place width : Nat} {kind : RelocationKind}
    (base : Address) (value : Int) (hwidth : kind.width? = some width)
    (hfits : place + width ≤ buffer.size) :
    (kind.Holds value (value - signedWord (base.toNat + place)) ∧
        ∃ after, patch buffer base place kind value = .ok after) ∨
      ∃ fault, kind.Refuses value (value - signedWord (base.toNat + place)) fault ∧
        patch buffer base place kind value = .error fault := by
  -- The two results are the branches of the check that the kind makes.
  cases kind with
  | abs4 =>
    cases hwidth
    simp only [patch]
    by_cases hrange : 0 ≤ value ∧ value < 2 ^ 32
    · rw [if_pos hrange]
      exact .inl ⟨hrange, exists_writeSite hfits _⟩
    · rw [if_neg hrange]
      exact .inr ⟨_, .wide hrange, rfl⟩
  | abs8 =>
    cases hwidth
    exact .inl ⟨trivial, exists_writeSite hfits _⟩
  | x86PCRel4 | x86CallPCRel4 | x86CallPLTRel4 =>
    cases hwidth
    simp only [patch]
    by_cases hrange : -2 ^ 31 ≤ value - signedWord (base.toNat + place) ∧
        value - signedWord (base.toNat + place) < 2 ^ 31
    · rw [if_pos hrange]
      exact .inl ⟨hrange, exists_writeSite hfits _⟩
    · rw [if_neg hrange]
      exact .inr ⟨_, .far rfl hrange, rfl⟩
  | arm64Call =>
    cases hwidth
    simp only [patch]
    generalize value - signedWord (base.toNat + place) = distance
    by_cases haligned : distance % 4 = 0
    · rw [if_neg (not_not_intro haligned)]
      -- The field counts in words of 4 bytes, so the range of the distance is 4 times as wide.
      by_cases hrange : -2 ^ 25 ≤ distance / 4 ∧ distance / 4 < 2 ^ 25
      · rw [if_pos hrange]
        exact .inl ⟨⟨haligned, by omega, by omega⟩, exists_writeSite hfits _⟩
      · rw [if_neg hrange]
        exact .inr ⟨_, .distant haligned (by omega), rfl⟩
    · rw [if_pos haligned]
      exact .inr ⟨_, .misaligned haligned, rfl⟩
  | other name => cases hwidth

/-! ## One relocation -/

namespace RelocationSite

open Plan

/-- The value that a relocation asks for in an image at `base`, the sum as words of its addend and
the address that its target denotes, and how far this is from the site. -/
def Asks (functions : List CompiledFunction) (starts : List Nat)
    (external : RelocationTarget → Option Address) (base : Address) (site : RelocationSite)
    (value distance : Int) : Prop :=
  ∃ address, Denotes functions starts external base site.start site.relocation.target address ∧
    value = signedWord (address.toNat + site.relocation.addend) ∧
    distance = value - signedWord (base.toNat + (site.start + site.relocation.offset : Nat))

/-- A relocation asks for a value that its kind can hold. -/
def IsHeld (functions : List CompiledFunction) (starts : List Nat)
    (external : RelocationTarget → Option Address) (base : Address) (site : RelocationSite) : Prop :=
  ∃ value distance, site.Asks functions starts external base value distance ∧
    site.relocation.kind.Holds value distance

/-- A relocation asks for a value that its kind refuses. -/
def IsRefused (functions : List CompiledFunction) (starts : List Nat)
    (external : RelocationTarget → Option Address) (base : Address) (site : RelocationSite)
    (fault : PatchFault) : Prop :=
  ∃ value distance, site.Asks functions starts external base value distance ∧
    site.relocation.kind.Refuses value distance fault

variable {functions : List CompiledFunction} {starts : List Nat}
  {external : RelocationTarget → Option Address} {base : Address} {site : RelocationSite}

/-- A relocation asks for one value. -/
theorem Asks.unique {value distance value' distance' : Int}
    (h : site.Asks functions starts external base value distance)
    (h' : site.Asks functions starts external base value' distance') :
    value = value' ∧ distance = distance' := by
  obtain ⟨address, hdenotes, rfl, rfl⟩ := h
  obtain ⟨address', hdenotes', rfl, rfl⟩ := h'
  have haddress : address = address' := by
    rcases hdenotes.rebase hdenotes' with ⟨-, offset, rfl, rfl⟩ | ⟨-, heq⟩
    · rfl
    · exact heq
  rw [haddress]
  exact ⟨rfl, rfl⟩

theorem IsRefused.not_isHeld {fault : PatchFault}
    (h : site.IsRefused functions starts external base fault) :
    ¬ site.IsHeld functions starts external base := by
  rintro ⟨value, distance, hasks, hholds⟩
  obtain ⟨value', distance', hasks', hrefuses⟩ := h
  obtain ⟨rfl, rfl⟩ := hasks.unique hasks'
  exact hrefuses.not_holds hholds

/-- The error of a relocation whose value is refused. -/
def error (site : RelocationSite) (fault : PatchFault) : EngineError :=
  .relocationFailed site.relocation.kind.text (site.start + site.relocation.offset) fault.reason

end RelocationSite

namespace Plan

theorem valueOf_eq (base : Address) (target : ResolvedTarget) (addend : Int) :
    valueOf base target addend = signedWord ((target.address base).toNat + addend) := by
  cases target with
  | inside offset => exact signedWord_signedWord_add _ _
  | outside address => exact signedWord_signedWord_add _ _

/-! ## Relocations one after another -/

/-- How writing relocations in their order ends: all values are held, or the first one that is not
stops it. -/
inductive Ends (functions : List CompiledFunction) (starts : List Nat)
    (external : RelocationTarget → Option Address) (base : Address) (sites : List RelocationSite) :
    Except EngineError Unit → Prop where
  | written (hheld : ∀ site ∈ sites, site.IsHeld functions starts external base) :
      Ends functions starts external base sites (.ok ())
  | stopped {before rest : List RelocationSite} {site : RelocationSite} {fault : PatchFault}
      (hsites : sites = before ++ site :: rest)
      (hbefore : ∀ other ∈ before, other.IsHeld functions starts external base)
      (hrefused : site.IsRefused functions starts external base fault) :
      Ends functions starts external base sites (.error (site.error fault))

section

variable {functions : List CompiledFunction} {starts : List Nat}
  {external : RelocationTarget → Option Address} {base : Address}
  {sites first rest : List RelocationSite} {result : Except EngineError Unit}

/-- A relocation whose value is held does not change how the later ones end. -/
theorem Ends.cons {site : RelocationSite} (h : Ends functions starts external base rest result)
    (hsite : site.IsHeld functions starts external base) :
    Ends functions starts external base (site :: rest) result := by
  cases h with
  | written hheld => exact .written (List.forall_mem_cons.2 ⟨hsite, hheld⟩)
  | @stopped before behind refused fault hsites hbefore hrefused =>
    have hbehind : site :: rest = (site :: before) ++ refused :: behind := by
      rw [hsites, List.cons_append]
    exact .stopped hbehind (List.forall_mem_cons.2 ⟨hsite, hbefore⟩) hrefused

/-- Nor do many such relocations. -/
theorem Ends.after (h : Ends functions starts external base rest result)
    (hfirst : ∀ site ∈ first, site.IsHeld functions starts external base) :
    Ends functions starts external base (first ++ rest) result := by
  induction first with
  | nil => exact h
  | cons site first ih =>
    obtain ⟨hsite, hlater⟩ := List.forall_mem_cons.1 hfirst
    exact (ih hlater).cons hsite

/-- After a relocation that is refused no other one counts. -/
theorem Ends.before {cause : EngineError}
    (h : Ends functions starts external base first (.error cause)) :
    Ends functions starts external base (first ++ rest) (.error cause) := by
  cases h with
  | @stopped before behind site fault hsites hbefore hrefused =>
    have hbehind : first ++ rest = before ++ site :: (behind ++ rest) := by
      rw [hsites, List.append_assoc, List.cons_append]
    exact .stopped hbehind hbefore hrefused

/-- What stops the relocations is the first one whose value is refused. -/
theorem Ends.exists_refused {cause : EngineError}
    (h : Ends functions starts external base sites result) (herror : result = .error cause) :
    ∃ before site rest fault, sites = before ++ site :: rest ∧
      (∀ other ∈ before, other.IsHeld functions starts external base) ∧
      site.IsRefused functions starts external base fault ∧ cause = site.error fault := by
  cases h with
  | written => cases herror
  | stopped hsites hbefore hrefused =>
    cases herror
    exact ⟨_, _, _, _, hsites, hbefore, hrefused, rfl⟩

theorem Ends.eq_ok_iff (h : Ends functions starts external base sites result) :
    result = .ok () ↔ ∀ site ∈ sites, site.IsHeld functions starts external base := by
  cases h with
  | written hheld => exact ⟨fun _ => hheld, fun _ => rfl⟩
  | @stopped before behind site fault hsites hbefore hrefused =>
    constructor
    · intro h
      cases h
    · intro hheld
      refine absurd (hheld site ?_) hrefused.not_isHeld
      rw [hsites]
      exact List.mem_append_right _ List.mem_cons_self

end

section

variable {functions : List CompiledFunction} {external : RelocationTarget → Option Address}
  (base : Address)

/-- A relocation that passed the check asks for the value of what its target was resolved to. -/
theorem asks_of_inspect {function : CompiledFunction} {start : Nat} {r : Relocation}
    {target : ResolvedTarget}
    (hchecked : inspect (symbolsOf functions) external function start r = .ok target) :
    RelocationSite.Asks functions (startsFrom 0 functions) external base ⟨function, start, r⟩
      (valueOf base target r.addend)
      (valueOf base target r.addend - signedWord (base.toNat + (start + r.offset : Nat))) :=
  ⟨target.address base,
    denotes_of_resolve (length_startsFrom functions 0) base (inspect_eq_ok_iff.1 hchecked).2,
    valueOf_eq base target r.addend, rfl⟩

/-- A relocation that passed the check is written if its value is held, and is refused if not. -/
theorem patch_of_inspect {function : CompiledFunction} {start : Nat} {r : Relocation}
    {target : ResolvedTarget} {buffer : Array UInt8}
    (hchecked : inspect (symbolsOf functions) external function start r = .ok target)
    (hfits : start + function.code.length ≤ buffer.size) :
    (RelocationSite.IsHeld functions (startsFrom 0 functions) external base ⟨function, start, r⟩ ∧
        ∃ after, patch buffer base (start + r.offset) r.kind (valueOf base target r.addend) =
          .ok after) ∨
      ∃ fault, RelocationSite.IsRefused functions (startsFrom 0 functions) external base
          ⟨function, start, r⟩ fault ∧
        patch buffer base (start + r.offset) r.kind (valueOf base target r.addend) =
          .error fault := by
  obtain ⟨⟨width, hwidth, hinside⟩, -⟩ := inspect_eq_ok_iff.1 hchecked
  have hasks := asks_of_inspect base hchecked
  have hplace : start + r.offset + width ≤ buffer.size := by omega
  rcases patch_of_inside base (valueOf base target r.addend) hwidth hplace with
    ⟨hholds, hwritten⟩ | ⟨fault, hrefuses, hstopped⟩
  · exact .inl ⟨⟨_, _, hasks, hholds⟩, hwritten⟩
  · exact .inr ⟨fault, ⟨_, _, hasks, hrefuses⟩, hstopped⟩

/-- Relocations of one function that passed the check, each with its target. -/
theorem ends_applyRelocations {function : CompiledFunction} {start : Nat}
    {entries : List (Relocation × ResolvedTarget)} {buffer : Array UInt8}
    (hchecked : ∀ entry ∈ entries,
      inspect (symbolsOf functions) external function start entry.1 = .ok entry.2)
    (hfits : start + function.code.length ≤ buffer.size) :
    Ends functions (startsFrom 0 functions) external base
      (entries.map fun entry => ⟨function, start, entry.1⟩)
      (applyRelocations base start entries buffer).1 := by
  -- Every patch leaves a buffer of the same size to the later ones.
  induction entries generalizing buffer with
  | nil => exact .written (List.forall_mem_nil _)
  | cons entry rest ih =>
    obtain ⟨r, target⟩ := entry
    have hrest := fun e he => hchecked e (List.mem_cons_of_mem _ he)
    rw [applyRelocations]
    rcases patch_of_inspect base (hchecked _ List.mem_cons_self) hfits with
      ⟨hheld, after, hafter⟩ | ⟨fault, hrefused, hstopped⟩
    · have hlater : start + function.code.length ≤ after.size := by
        rw [size_patch hafter]
        exact hfits
      simp only [hafter]
      exact (ih hrest hlater).cons hheld
    · simp only [hstopped]
      refine .stopped (List.nil_append _).symm ?_ hrefused
      intro other hother
      exact absurd hother List.not_mem_nil

/-- The relocations of one function of an image. -/
theorem ends_function {entry : CompiledFunction × Nat} {buffer : Array UInt8}
    (hchecked : problemsOf (entry.1.relocations.map
      (inspect (symbolsOf functions) external entry.1 entry.2)) = [])
    (hfits : entry.2 + entry.1.code.length ≤ buffer.size) :
    Ends functions (startsFrom 0 functions) external base
      (entry.1.relocations.map fun r => ⟨entry.1, entry.2, r⟩)
      (applyRelocations base entry.2
        (entry.1.relocations.zip (targetsAt functions external entry)) buffer).1 := by
  obtain ⟨hpaired, htargets⟩ := zip_targetsOf hchecked
  -- No relocation is left without a target.
  have hsites := congrArg
    (List.map fun r => (⟨entry.1, entry.2, r⟩ : RelocationSite)) hpaired
  rw [List.map_map] at hsites
  rw [← hsites]
  exact ends_applyRelocations base htargets hfits

/-- Functions one after another, whose relocations all passed the check. -/
theorem ends_applyFunctions {entries : List (CompiledFunction × Nat)} {buffer : Array UInt8}
    (hchecked : ∀ entry ∈ entries, problemsOf (entry.1.relocations.map
      (inspect (symbolsOf functions) external entry.1 entry.2)) = [])
    (hfits : ∀ entry ∈ entries, entry.2 + entry.1.code.length ≤ buffer.size) :
    Ends functions (startsFrom 0 functions) external base
      (entries.flatMap fun entry => entry.1.relocations.map fun r => ⟨entry.1, entry.2, r⟩)
      (applyFunctions base
        (entries.map fun entry => (entry.1, entry.2, targetsAt functions external entry))
        buffer).1 := by
  -- The buffer keeps its size, so the functions behind still fit.
  induction entries generalizing buffer with
  | nil => exact .written (List.forall_mem_nil _)
  | cons entry rest ih =>
    have hcopied : entry.2 + entry.1.code.length ≤
        (writeAt buffer entry.2 entry.1.code).size := by
      rw [size_writeAt]
      exact hfits entry List.mem_cons_self
    have hfirst := ends_function base (hchecked entry List.mem_cons_self) hcopied
    have hsize := size_applyRelocations base entry.2
      (entry.1.relocations.zip (targetsAt functions external entry))
      (writeAt buffer entry.2 entry.1.code)
    rw [List.flatMap_cons, List.map_cons, applyFunctions]
    cases hrun : applyRelocations base entry.2
        (entry.1.relocations.zip (targetsAt functions external entry))
        (writeAt buffer entry.2 entry.1.code) with
    | mk outcome middle =>
      rw [hrun] at hfirst hsize
      cases outcome with
      | error cause => exact hfirst.before
      | ok =>
        refine Ends.after (ih ?_ ?_) (hfirst.eq_ok_iff.1 rfl)
        · intro other hother
          exact hchecked other (List.mem_cons_of_mem _ hother)
        · intro other hother
          rw [hsize, size_writeAt]
          exact hfits other (List.mem_cons_of_mem _ hother)

/-! ## A plan -/

/-- How applying a plan to functions ends, for a buffer at an address. -/
structure AppliesExactly (functions : List CompiledFunction)
    (external : RelocationTarget → Option Address) (plan : Plan) (base : Address)
    (buffer : Array UInt8) : Prop where
  /-- A buffer is found too small exactly if it does not hold the image, -/
  small_iff : (∃ needed provided, (plan.apply functions base buffer).1 =
    .error (.bufferTooSmall needed provided)) ↔ buffer.size < plan.size
  /-- and then keeps its bytes. -/
  small : buffer.size < plan.size →
    plan.apply functions base buffer = (.error (.bufferTooSmall plan.size buffer.size), buffer)
  /-- Any other one is written exactly if every value is held. -/
  written_iff : plan.size ≤ buffer.size → ((plan.apply functions base buffer).1 = .ok () ↔
    ∀ site ∈ sitesOf functions, site.IsHeld functions plan.starts external base)
  /-- If not, the error is that of the first relocation, in order, whose value is refused. -/
  stopped : plan.size ≤ buffer.size → ∀ cause, (plan.apply functions base buffer).1 = .error cause →
    ∃ before site rest fault, sitesOf functions = before ++ site :: rest ∧
      (∀ other ∈ before, other.IsHeld functions plan.starts external base) ∧
      site.IsRefused functions plan.starts external base fault ∧ cause = .relocationFailed
        site.relocation.kind.text (site.start + site.relocation.offset) fault.reason
  /-- It never is about the place of a site or about a kind that cannot be written: -/
  reason_ne : ∀ kind place reason,
    (plan.apply functions base buffer).1 = .error (.relocationFailed kind place reason) →
      reason ≠ PatchFault.outsideBuffer.reason ∧ reason ≠ PatchFault.unsupported.reason
  /-- the code of every function lies in the buffer, -/
  code_inside : plan.size ≤ buffer.size → ∀ entry ∈ functions.zip plan.starts,
    entry.2 + entry.1.code.length ≤ buffer.size
  /-- and so does every site, whose kind can be written. -/
  site_inside : plan.size ≤ buffer.size → ∀ site ∈ sitesOf functions,
    ∃ width, site.relocation.kind.width? = some width ∧
      site.start + site.relocation.offset + width ≤ buffer.size

variable {plan : Plan} {buffer : Array UInt8}

/-- The functions of a plan that was built end with the image or before. -/
theorem end_le_size (hbuild : (build functions external).outcome = .ok plan) :
    ∀ entry ∈ functions.zip plan.starts, entry.2 + entry.1.code.length ≤ plan.size := by
  obtain ⟨rfl, -⟩ := build_eq_ok hbuild
  intro entry hentry
  exact ((laidOut_startsFrom functions 0).within entry hentry).2

/-- A buffer is refused as it is, or it holds the image and is written relocation by relocation. -/
theorem apply_cases (hbuild : (build functions external).outcome = .ok plan)
    (buffer : Array UInt8) :
    (buffer.size < plan.size ∧ plan.apply functions base buffer =
        (.error (.bufferTooSmall plan.size buffer.size), buffer)) ∨
      plan.size ≤ buffer.size ∧ Ends functions plan.starts external base (sitesOf functions)
        (plan.apply functions base buffer).1 := by
  have hend := end_le_size hbuild
  obtain ⟨rfl, hchecked⟩ := build_eq_ok hbuild
  rw [apply]
  rcases Nat.lt_or_ge buffer.size (endFrom 0 functions) with hlt | hfits
  · rw [if_pos hlt]
    exact .inl ⟨hlt, rfl⟩
  · rw [if_neg (Nat.not_lt.2 hfits)]
    simp only [zip_zip_map]
    refine .inr ⟨hfits, ends_applyFunctions base hchecked ?_⟩
    intro entry hentry
    rw [Array.size_replicate]
    exact Nat.le_trans (hend entry hentry) hfits

/-- Every relocation of a plan that was built can be written into its function. -/
theorem canPatch_of_mem_sitesOf (hbuild : (build functions external).outcome = .ok plan)
    {site : RelocationSite} (hsite : site ∈ sitesOf functions) :
    (site.function, site.start) ∈ functions.zip plan.starts ∧ site.CanPatch := by
  have hcan := (exists_plan_iff_sites.1 ⟨plan, hbuild⟩ site hsite).1
  obtain ⟨rfl, -⟩ := build_eq_ok hbuild
  obtain ⟨entry, hentry, hmem⟩ := List.mem_flatMap.1 hsite
  obtain ⟨r, -, rfl⟩ := List.mem_map.1 hmem
  exact ⟨hentry, hcan⟩

/-- Whatever the buffer and wherever it lies, a plan that was built is applied to its functions
exactly if the buffer holds the image and the relocations their values. -/
theorem apply_ends (hbuild : (build functions external).outcome = .ok plan) (base : Address)
    (buffer : Array UInt8) : AppliesExactly functions external plan base buffer := by
  have hinside : plan.size ≤ buffer.size → ∀ entry ∈ functions.zip plan.starts,
      entry.2 + entry.1.code.length ≤ buffer.size := by
    intro hfits entry hentry
    exact Nat.le_trans (end_le_size hbuild entry hentry) hfits
  have hsites : plan.size ≤ buffer.size → ∀ site ∈ sitesOf functions,
      ∃ width, site.relocation.kind.width? = some width ∧
        site.start + site.relocation.offset + width ≤ buffer.size := by
    intro hfits site hsite
    obtain ⟨hentry, width, hwidth, hpatch⟩ := canPatch_of_mem_sitesOf hbuild hsite
    have hcode := hinside hfits _ hentry
    refine ⟨width, hwidth, ?_⟩
    simp only at hcode
    omega
  rcases apply_cases base hbuild buffer with ⟨hlt, hsmall⟩ | ⟨hfits, hends⟩
  · have hshort : ¬ plan.size ≤ buffer.size := Nat.not_le.2 hlt
    refine ⟨⟨fun _ => hlt, fun _ => ?_⟩, fun _ => hsmall, ?_, ?_, ?_, hinside, hsites⟩
    · rw [hsmall]
      exact ⟨_, _, rfl⟩
    · intro hfits
      exact absurd hfits hshort
    · intro hfits
      exact absurd hfits hshort
    · intro kind place reason herror
      rw [hsmall] at herror
      cases herror
  · have hlarge : ¬ buffer.size < plan.size := Nat.not_lt.2 hfits
    refine ⟨⟨?_, fun hlt => absurd hlt hlarge⟩, fun hlt => absurd hlt hlarge,
      fun _ => hends.eq_ok_iff, ?_, ?_, hinside, hsites⟩
    · rintro ⟨needed, provided, herror⟩
      obtain ⟨_, _, _, _, -, -, -, hcause⟩ := hends.exists_refused herror
      cases hcause
    · intro _ cause herror
      exact hends.exists_refused herror
    · intro kind place reason herror
      obtain ⟨_, site, _, fault, -, -, ⟨_, _, -, hrefuses⟩, hcause⟩ :=
        hends.exists_refused herror
      cases hcause
      exact hrefuses.reason_ne

end

/-- A function that holds its own address in 32 bits cannot lie at `0x100000000`. -/
theorem apply_ends_wide :
    let function : CompiledFunction := ⟨"f", .replicate 4 0, [⟨0, .abs4, .symbol "f", 0⟩]⟩
    let plan : Plan := ⟨[0], [[.inside 0]], [("f", 0)], 4⟩
    (build [function] fun _ => none).outcome = .ok plan ∧
      (plan.apply [function] 0x100000000 (.replicate 4 0)).1 =
        .error (.relocationFailed "Abs4" 0 "address does not fit in 32 bits") ∧
      AppliesExactly [function] (fun _ => none) plan 0x100000000 (.replicate 4 0) := by
  intro function plan
  have hbuild : (build [function] fun _ => none).outcome = .ok plan := by
    simp [build, startsFrom, endFrom, alignUp, functionAlignment, inspect, resolve, lastOffset?,
      RelocationKind.width?, problemsOf, targetsOf, LinkProblem.distinct, function, plan]
  refine ⟨hbuild, ?_, apply_ends hbuild 0x100000000 (.replicate 4 0)⟩
  simp [apply, applyFunctions, applyRelocations, patch, valueOf, Address.after, signedWord,
    RelocationKind.text, PatchFault.reason, function, plan]

end Plan

end JitHost
