import JitHost.Proofs.Link.Layout

/-!
# The image of linked functions

A plan that was built from functions and then applied to a buffer leaves their image there
(`Plan.IsImage`), whatever the buffer held and wherever it lies: the code of every function
but for its sites, what each relocation asks for at its site, and zero everywhere else. Sites of one
function must not overlap, since later patches would change earlier ones.
-/

namespace JitHost

/-- The bytes of the code itself at the site of a relocation. -/
def CompiledFunction.siteBytes (function : CompiledFunction) (r : Relocation) : List UInt8 :=
  readAt function.code.toArray r.offset r.width

namespace Plan

variable {base : Address}

/-! ## One function -/

/-- A function with its start and targets can be written to a buffer: it fits, every relocation has
its target and lies in the code, and no two sites overlap. -/
structure Writable (size : Nat) (entry : CompiledFunction × Nat × List ResolvedTarget) : Prop where
  fits : entry.2.1 + entry.1.code.length ≤ size
  paired : (entry.1.relocations.zip entry.2.2).map Prod.fst = entry.1.relocations
  inside : ∀ r ∈ entry.1.relocations, r.offset + r.width ≤ entry.1.code.length
  apart : entry.1.relocations.Pairwise Relocation.Apart

/-- A function stands in a buffer at its start, with its sites written for their targets. -/
structure Stands (base : Address) (entry : CompiledFunction × Nat × List ResolvedTarget)
    (buffer : Array UInt8) : Prop where
  code : ∀ i byte, entry.1.code[i]? = some byte → (∀ r ∈ entry.1.relocations, ¬ r.Patches i) →
    buffer[entry.2.1 + i]? = some byte
  sites : ∀ r target, (r, target) ∈ entry.1.relocations.zip entry.2.2 →
    r.kind.Encodes (base.toNat + (entry.2.1 + r.offset : Nat))
      ((target.address base).toNat + r.addend) (entry.1.siteBytes r)
      (readAt buffer (entry.2.1 + r.offset) r.width)

/-- Whether a place of the buffer belongs to the code of a function. -/
def Covers (entry : CompiledFunction × Nat × List ResolvedTarget) (p : Nat) : Prop :=
  entry.2.1 ≤ p ∧ p < entry.2.1 + entry.1.code.length

/-- A function stands as long as its own places are not changed. -/
theorem Stands.congr {entry : CompiledFunction × Nat × List ResolvedTarget} {size : Nat}
    {before after : Array UInt8} (h : Stands base entry before) (hwritable : Writable size entry)
    (hsame : ∀ p, Covers entry p → after[p]? = before[p]?) : Stands base entry after := by
  constructor
  · intro i byte hbyte huntouched
    have hi : i < entry.1.code.length := (List.getElem?_eq_some_iff.1 hbyte).1
    rw [hsame _ ⟨Nat.le_add_right _ _, by omega⟩]
    exact h.code i byte hbyte huntouched
  · intro r target hmem
    have hr := hwritable.inside r (List.of_mem_zip hmem).1
    have hread : readAt after (entry.2.1 + r.offset) r.width =
        readAt before (entry.2.1 + r.offset) r.width := by
      apply readAt_congr
      intro i hi
      exact hsame _ ⟨by omega, by omega⟩
    rw [hread]
    exact h.sites r target hmem

/-- The code that was copied is what a site holds before the patches. -/
theorem readAt_copied {entry : CompiledFunction × Nat × List ResolvedTarget}
    {before : Array UInt8} (hwritable : Writable before.size entry) {r : Relocation}
    (hr : r ∈ entry.1.relocations) :
    readAt (writeAt before entry.2.1 entry.1.code) (entry.2.1 + r.offset) r.width =
      entry.1.siteBytes r := by
  have hinside := hwritable.inside r hr
  apply readAt_congr
  intro i hi
  rw [Nat.add_assoc, getElem?_writeAt_of_inside hwritable.fits (by omega)]
  exact (List.getElem?_toArray ..).symm

/-- Copying a function and patching it makes it stand, and changes no place but its own. -/
theorem stands_of_applyRelocations {entry : CompiledFunction × Nat × List ResolvedTarget}
    {before after : Array UInt8} (hwritable : Writable before.size entry)
    (h : applyRelocations base entry.2.1 (entry.1.relocations.zip entry.2.2)
      (writeAt before entry.2.1 entry.1.code) = (.ok (), after)) :
    Stands base entry after ∧ ∀ p, ¬ Covers entry p → after[p]? = before[p]? := by
  have hpaired := hwritable.paired
  have hpatched := patched_of_applyRelocations (by rw [hpaired]; exact hwritable.apart) h
  have hmem : ∀ e ∈ entry.1.relocations.zip entry.2.2, e.1 ∈ entry.1.relocations :=
    fun e he => (List.of_mem_zip he).1
  refine ⟨⟨?_, ?_⟩, ?_⟩
  · intro i byte hbyte huntouched
    have hi : i < entry.1.code.length := (List.getElem?_eq_some_iff.1 hbyte).1
    -- A byte outside of all sites is as it was copied.
    rw [hpatched.untouched, getElem?_writeAt_of_inside hwritable.fits hi, hbyte]
    intro e he hsite
    exact huntouched e.1 (hmem e he) ⟨by omega, by omega⟩
  · intro r target hr
    have hsite := hpatched.sites r target hr
    rw [readAt_copied hwritable (hmem _ hr)] at hsite
    exact hsite
  · intro p hp
    rw [hpatched.untouched]
    · apply getElem?_writeAt_of_outside
      unfold Covers at hp
      omega
    · intro e he hsite
      have hinside := hwritable.inside e.1 (hmem e he)
      exact hp ⟨by omega, by omega⟩

/-! ## All functions -/

/-- Functions written one after another all stand, and every other place is as before. -/
theorem stands_of_applyFunctions {entries : List (CompiledFunction × Nat × List ResolvedTarget)}
    {before after : Array UInt8} (hwritable : ∀ entry ∈ entries, Writable before.size entry)
    (hordered : entries.Pairwise fun a b => a.2.1 + a.1.code.length ≤ b.2.1)
    (h : applyFunctions base entries before = (.ok (), after)) :
    (∀ entry ∈ entries, Stands base entry after) ∧
      ∀ p, (∀ entry ∈ entries, ¬ Covers entry p) → after[p]? = before[p]? := by
  induction entries generalizing before with
  | nil =>
    cases h
    exact ⟨fun _ hmem => (nomatch hmem), fun _ _ => rfl⟩
  | cons entry rest ih =>
    rw [List.pairwise_cons] at hordered
    obtain ⟨hfirst, hrest⟩ := hordered
    rw [applyFunctions] at h
    cases hrun : applyRelocations base entry.2.1 (entry.1.relocations.zip entry.2.2)
        (writeAt before entry.2.1 entry.1.code) with
    | mk outcome middle =>
      simp only [hrun] at h
      cases outcome with
      | error fault => cases h
      | ok =>
        have hsize : middle.size = before.size := by
          have hkept := size_applyRelocations base entry.2.1 (entry.1.relocations.zip entry.2.2)
            (writeAt before entry.2.1 entry.1.code)
          rw [hrun, size_writeAt] at hkept
          exact hkept
        obtain ⟨hstands, hothers⟩ :=
          stands_of_applyRelocations (hwritable entry List.mem_cons_self) hrun
        obtain ⟨hstand, hrestOthers⟩ := ih
          (fun e he => hsize ▸ hwritable e (List.mem_cons_of_mem _ he)) hrest h
        constructor
        · intro e he
          rcases List.mem_cons.1 he with rfl | he
          · -- The functions behind it do not reach the first one.
            refine hstands.congr (hwritable e List.mem_cons_self) fun p hp => ?_
            apply hrestOthers
            intro other hother hcovers
            have hbelow := hfirst other hother
            unfold Covers at hp hcovers
            omega
          · exact hstand e he
        · intro p hp
          rw [hrestOthers p fun e he => hp e (List.mem_cons_of_mem _ he)]
          exact hothers p (hp entry List.mem_cons_self)

/-- Lists paired by position with what is made of their own pairs. -/
theorem zip_zip_map {α β γ : Type} (as : List α) (bs : List β) (f : α × β → γ) :
    as.zip (bs.zip ((as.zip bs).map f)) = (as.zip bs).map fun entry =>
      (entry.1, entry.2, f entry) := by
  induction as generalizing bs with
  | nil => rfl
  | cons a as ih =>
    cases bs with
    | nil => rfl
    | cons b bs =>
      rw [List.zip_cons_cons, List.map_cons, List.zip_cons_cons, List.zip_cons_cons, ih,
        List.map_cons]

/-! ## The image -/

/-- A buffer holds the image of functions, laid out by a plan for the address `base`. -/
structure IsImage (functions : List CompiledFunction)
    (external : RelocationTarget → Option Address) (plan : Plan) (base : Address)
    (image : Array UInt8) : Prop where
  /-- Every function has a start, -/
  starts : plan.starts.length = functions.length
  /-- on its boundary and with all of its code in the image. -/
  placed : ∀ entry ∈ functions.zip plan.starts, entry.2 % functionAlignment = 0 ∧
    entry.2 + entry.1.code.length ≤ plan.size
  /-- Functions do not overlap. -/
  ordered : (functions.zip plan.starts).Pairwise fun a b => a.2 + a.1.code.length ≤ b.2
  /-- The image lies in the buffer. -/
  fits : plan.size ≤ image.size
  /-- The code of a function is in its place, but for the sites of its relocations. -/
  code : ∀ entry ∈ functions.zip plan.starts, ∀ i byte, entry.1.code[i]? = some byte →
    (∀ r ∈ entry.1.relocations, ¬ r.Patches i) → image[entry.2 + i]? = some byte
  /-- The site of a relocation lies in its function's code. -/
  inside : ∀ entry ∈ functions.zip plan.starts, ∀ r ∈ entry.1.relocations,
    r.offset + r.width ≤ entry.1.code.length
  /-- The site of a relocation stands for its addend and the address that its target denotes. -/
  sites : ∀ entry ∈ functions.zip plan.starts, ∀ r ∈ entry.1.relocations, ∃ target,
    Denotes functions plan.starts external base entry.2 r.target target ∧
      r.kind.Encodes (base.toNat + (entry.2 + r.offset : Nat)) (target.toNat + r.addend)
        (entry.1.siteBytes r) (readAt image (entry.2 + r.offset) r.width)
  /-- All bytes between functions are zero, -/
  padding : ∀ p < image.size, (∀ entry ∈ functions.zip plan.starts,
    ¬ (entry.2 ≤ p ∧ p < entry.2 + entry.1.code.length)) → image[p]? = some 0
  /-- and so are all bytes behind the image. -/
  rest : ∀ p < image.size, plan.size ≤ p → image[p]? = some 0

section

variable {functions : List CompiledFunction} {external : RelocationTarget → Option Address}

/-- The functions of a plan that was built can be written to every buffer that holds the image. -/
theorem writable_of_build {size : Nat} (hfits : endFrom 0 functions ≤ size)
    (hproblems : ∀ entry ∈ functions.zip (startsFrom 0 functions),
      problemsOf (entry.1.relocations.map
        (inspect (symbolsOf functions) external entry.1 entry.2)) = [])
    (hapart : ∀ function ∈ functions, function.relocations.Pairwise Relocation.Apart)
    {entry : CompiledFunction × Nat} (hentry : entry ∈ functions.zip (startsFrom 0 functions)) :
    Writable size (entry.1, entry.2, targetsAt functions external entry) := by
  have hend := ((laidOut_startsFrom functions 0).within entry hentry).2
  refine ⟨Nat.le_trans hend hfits, (zip_targetsOf (hproblems entry hentry)).1, fun r hr => ?_,
    hapart _ (List.of_mem_zip hentry).1⟩
  obtain ⟨target, -, hresult⟩ := exists_mem_zip_targetsOf (hproblems entry hentry) hr
  exact (inspect_eq_ok hresult).1

/-- Every site of a function that stands is written for what its target denotes. -/
theorem sites_of_stands {image : Array UInt8} {entry : CompiledFunction × Nat}
    (hproblems : problemsOf (entry.1.relocations.map
      (inspect (symbolsOf functions) external entry.1 entry.2)) = [])
    (hstands : Stands base (entry.1, entry.2, targetsAt functions external entry) image)
    {r : Relocation} (hr : r ∈ entry.1.relocations) :
    ∃ target, Denotes functions (startsFrom 0 functions) external base entry.2 r.target target ∧
      r.kind.Encodes (base.toNat + (entry.2 + r.offset : Nat)) (target.toNat + r.addend)
        (entry.1.siteBytes r) (readAt image (entry.2 + r.offset) r.width) := by
  obtain ⟨target, hpair, hresult⟩ := exists_mem_zip_targetsOf hproblems hr
  obtain ⟨-, hresolved⟩ := inspect_eq_ok hresult
  exact ⟨target.address base, denotes_of_resolve (length_startsFrom functions 0) base hresolved,
    hstands.sites r target hpair⟩

/-- A buffer to which a plan was applied held the image and was cleared first. -/
theorem apply_eq_ok {plan : Plan} {buffer image : Array UInt8}
    (h : plan.apply functions base buffer = (.ok (), image)) :
    plan.size ≤ buffer.size ∧
      applyFunctions base (functions.zip (plan.starts.zip plan.targets))
        (Array.replicate buffer.size 0) = (.ok (), image) := by
  unfold apply at h
  by_cases hfits : buffer.size < plan.size
  · rw [if_pos hfits] at h
    cases h
  · rw [if_neg hfits] at h
    exact ⟨Nat.not_lt.1 hfits, h⟩

/-- Applying a plan to the functions from which it was built leaves their image, if the sites of
each of them are apart. -/
theorem image_of_apply {plan : Plan} {buffer image : Array UInt8}
    (hbuild : (build functions external).outcome = .ok plan)
    (happly : plan.apply functions base buffer = (.ok (), image))
    (hapart : ∀ function ∈ functions, function.relocations.Pairwise Relocation.Apart) :
    IsImage functions external plan base image ∧ image.size = buffer.size := by
  obtain ⟨rfl, hproblems⟩ := build_eq_ok hbuild
  have hlaid := laidOut_startsFrom functions 0
  have hsize : image.size = buffer.size := by
    rw [← size_apply _ functions base buffer, happly]
  obtain ⟨hfits, hrun⟩ := apply_eq_ok happly
  simp only [zip_zip_map] at hrun
  have hwritable : ∀ entry ∈ functions.zip (startsFrom 0 functions),
      Writable (Array.replicate buffer.size (0 : UInt8)).size
        (entry.1, entry.2, targetsAt functions external entry) := by
    intro entry hentry
    rw [Array.size_replicate]
    exact writable_of_build hfits hproblems hapart hentry
  obtain ⟨hstand, hothers⟩ := stands_of_applyFunctions
    (List.forall_mem_map.2 hwritable) (List.pairwise_map.2 hlaid.ordered) hrun
  -- The buffer was cleared before, so what no function covers is zero.
  have hzero : ∀ p < image.size, (∀ entry ∈ functions.zip (startsFrom 0 functions),
      ¬ (entry.2 ≤ p ∧ p < entry.2 + entry.1.code.length)) → image[p]? = some 0 := by
    intro p hp hfree
    rw [hothers p (List.forall_mem_map.2 hfree), Array.getElem?_replicate,
      if_pos (hsize ▸ hp)]
  refine ⟨?_, hsize⟩
  constructor
  · exact length_startsFrom functions 0
  · exact fun entry hentry => ⟨hlaid.aligned entry hentry, (hlaid.within entry hentry).2⟩
  · exact hlaid.ordered
  · exact hsize ▸ hfits
  · intro entry hentry
    exact (hstand _ (List.mem_map_of_mem hentry)).code
  · intro entry hentry
    exact (hwritable entry hentry).inside
  · intro entry hentry r hr
    exact sites_of_stands (hproblems entry hentry) (hstand _ (List.mem_map_of_mem hentry)) hr
  · exact hzero
  · intro p hp hbehind
    refine hzero p hp fun entry hentry hcovers => ?_
    have hend := (hlaid.within entry hentry).2
    have hsizeEq : endFrom 0 functions ≤ p := hbehind
    omega

end

/-- A call of a function behind the caller, in an image at `0x400000`. -/
theorem image_of_apply_call :
    let caller : CompiledFunction :=
      ⟨"caller", .replicate 6 0x90, [⟨1, .x86CallPCRel4, .symbol "callee", -4⟩]⟩
    let callee : CompiledFunction := ⟨"callee", [0xc3], []⟩
    let plan : Plan := ⟨[0, 16], [[.inside 16], []], [("caller", 0), ("callee", 16)], 17⟩
    let image : Array UInt8 :=
      #[0x90, 0x0b, 0, 0, 0, 0x90, 0, 0, 0, 0, 0, 0, 0, 0, 0, 0, 0xc3, 0]
    (build [caller, callee] fun _ => none).outcome = .ok plan ∧
      plan.apply [caller, callee] 0x400000 (.replicate 18 7) = (.ok (), image) ∧
      IsImage [caller, callee] (fun _ => none) plan 0x400000 image := by
  intro caller callee plan image
  have hbuild : (build [caller, callee] fun _ => none).outcome = .ok plan := by
    simp [build, startsFrom, endFrom, alignUp, functionAlignment, inspect, resolve, lastOffset?,
      RelocationKind.width?, problemsOf, targetsOf, LinkProblem.distinct, caller, callee, plan]
  have happly : plan.apply [caller, callee] 0x400000 (.replicate 18 7) = (.ok (), image) := by
    simp [apply, applyFunctions, applyRelocations, patch, valueOf, Address.after, signedWord,
      writeSite, writeAt, littleEndian, caller, callee, plan, image]
    decide
  have hapart : ∀ function ∈ [caller, callee],
      function.relocations.Pairwise Relocation.Apart := by
    intro function hfunction
    rcases List.mem_cons.1 hfunction with rfl | hfunction
    · exact List.pairwise_singleton _ _
    · cases List.mem_singleton.1 hfunction
      exact List.Pairwise.nil
  exact ⟨hbuild, happly, (image_of_apply hbuild happly hapart).1⟩

end Plan

end JitHost
