import JitHost.Proofs.Link.Reports
import Mathlib.Order.Bounds.Defs

/-!
# The places of functions

`Layout` is the rule by which functions get their places: the first one lies at the beginning of the
image, each further one at the first multiple of 16 that is not before the end of the one before it,
and the image ends with the last one. The starts that `Plan.build` computes follow it for every list of
functions (`layout_startsFrom`).

Everything else about places comes from the rule between neighbours: starts are multiples of 16,
functions lie in order and apart, less than 16 bytes are left between them, and a site that was
accepted touches its own function only. `functions_laid_out` puts this together with the plans
that are built, whose names stand for the starts of their last functions.
-/

namespace JitHost

namespace Plan

/-! ## The rule -/

/-- The `k`-th function begins at a place of the image. -/
structure BeginsAt (functions : List CompiledFunction) (starts : List Nat) (k : Nat)
    (function : CompiledFunction) (start : Nat) : Prop where
  function_eq : functions[k]? = some function
  start_eq : starts[k]? = some start

/-- Functions lie at their starts by the rule, in an image of the given size. -/
structure Layout (functions : List CompiledFunction) (starts : List Nat) (size : Nat) : Prop where
  length_eq : starts.length = functions.length
  first : ∀ function start, BeginsAt functions starts 0 function start → start = 0
  next : ∀ k function start other later, BeginsAt functions starts k function start →
    BeginsAt functions starts (k + 1) other later →
      IsLeast {place | 16 ∣ place ∧ start + function.code.length ≤ place} later
  size_nil : functions = [] → size = 0
  size_last : ∀ k function start, BeginsAt functions starts k function start →
    k + 1 = functions.length → size = start + function.code.length

/-- Rounding up gives the first multiple that is not before a place. -/
theorem isLeast_alignUp (cursor : Nat) :
    IsLeast {place | 16 ∣ place ∧ cursor ≤ place}
      (alignUp cursor functionAlignment) := by
  constructor
  · exact ⟨Nat.dvd_of_mod_eq_zero (alignUp_mod cursor), le_alignUp cursor⟩
  · rintro place ⟨⟨q, rfl⟩, hle⟩
    unfold alignUp functionAlignment at *
    omega

theorem alignUp_lt (cursor : Nat) :
    alignUp cursor functionAlignment < cursor + 16 := by
  unfold alignUp functionAlignment
  omega

section

variable {functions : List CompiledFunction} {starts : List Nat} {size cursor k : Nat}
  {function other : CompiledFunction} {start later : Nat}

/-- Positions count on behind the first function. -/
theorem beginsAt_cons_succ {head : CompiledFunction} {place : Nat} :
    BeginsAt (head :: functions) (place :: starts) (k + 1) function start ↔
      BeginsAt functions starts k function start :=
  ⟨fun h => ⟨h.function_eq, h.start_eq⟩, fun h => ⟨h.function_eq, h.start_eq⟩⟩

theorem startsFrom_zero (h : BeginsAt functions (startsFrom cursor functions) 0 function start) :
    start = alignUp cursor functionAlignment := by
  cases functions with
  | nil => cases h.function_eq
  | cons head rest => exact (Option.some.inj h.start_eq).symm

/-- The cursor at a function is where the one before it ends. -/
theorem startsFrom_succ (h : BeginsAt functions (startsFrom cursor functions) k function start)
    (hnext : BeginsAt functions (startsFrom cursor functions) (k + 1) other later) :
    later = alignUp (start + function.code.length) functionAlignment := by
  induction functions generalizing cursor k with
  | nil => cases h.function_eq
  | cons head rest ih =>
    rw [startsFrom] at h hnext
    have hrest := beginsAt_cons_succ.1 hnext
    cases k with
    | zero =>
      cases h.function_eq
      cases h.start_eq
      exact startsFrom_zero hrest
    | succ k => exact ih (beginsAt_cons_succ.1 h) hrest

theorem endFrom_last (h : BeginsAt functions (startsFrom cursor functions) k function start)
    (hlast : k + 1 = functions.length) :
    endFrom cursor functions = start + function.code.length := by
  induction functions generalizing cursor k with
  | nil => cases h.function_eq
  | cons head rest ih =>
    rw [startsFrom] at h
    rw [endFrom]
    cases k with
    | zero =>
      have hrest : rest = [] := List.length_eq_zero_iff.1 (Nat.succ.inj hlast).symm
      cases h.function_eq
      cases h.start_eq
      rw [hrest]
      rfl
    | succ k => exact ih (beginsAt_cons_succ.1 h) (Nat.succ.inj hlast)

/-- The starts that are computed follow the rule. -/
theorem layout_startsFrom (functions : List CompiledFunction) :
    Layout functions (startsFrom 0 functions) (endFrom 0 functions) where
  length_eq := length_startsFrom functions 0
  first := fun function start h => startsFrom_zero h
  next := fun k function start other later h hnext => by
    rw [startsFrom_succ h hnext]
    exact isLeast_alignUp _
  size_nil := fun hnil => by
    rw [hnil]
    rfl
  size_last := fun k function start h hlast => endFrom_last h hlast

/-! ## What follows from the rule -/

theorem BeginsAt.lt_length (h : BeginsAt functions starts k function start) :
    k < functions.length :=
  (List.getElem?_eq_some_iff.1 h.function_eq).1

namespace Layout

theorem exists_beginsAt (h : Layout functions starts size) (hk : k < functions.length) :
    ∃ function start, BeginsAt functions starts k function start := by
  have hstart : k < starts.length := h.length_eq ▸ hk
  exact ⟨functions[k], starts[k], List.getElem?_eq_getElem hk, List.getElem?_eq_getElem hstart⟩

theorem aligned (h : Layout functions starts size)
    (hbegins : BeginsAt functions starts k function start) : 16 ∣ start := by
  cases k with
  | zero =>
    rw [h.first function start hbegins]
    exact Nat.dvd_zero 16
  | succ k =>
    have hk : k < functions.length := Nat.lt_of_succ_lt hbegins.lt_length
    obtain ⟨before, place, hbefore⟩ := h.exists_beginsAt hk
    exact (h.next k before place function start hbefore hbegins).1.1

/-- A function ends before every later one begins, not only before the next one. -/
theorem ordered (h : Layout functions starts size) {j : Nat} (hjk : j < k)
    (hbegins : BeginsAt functions starts j function start)
    (hlater : BeginsAt functions starts k other later) :
    start + function.code.length ≤ later := by
  induction k generalizing other later with
  | zero => cases hjk
  | succ k ih =>
    have hk : k < functions.length := Nat.lt_of_succ_lt hlater.lt_length
    obtain ⟨before, place, hbefore⟩ := h.exists_beginsAt hk
    have hnext := (h.next k before place other later hbefore hlater).1.2
    rcases Nat.lt_or_eq_of_le (Nat.le_of_lt_succ hjk) with hlt | rfl
    · have hplace := ih hlt hbefore
      omega
    · cases hbegins.function_eq.symm.trans hbefore.function_eq
      cases hbegins.start_eq.symm.trans hbefore.start_eq
      exact hnext

/-- Two functions have no place in common. -/
theorem disjoint (h : Layout functions starts size) {j : Nat} (hne : j ≠ k)
    (hbegins : BeginsAt functions starts j function start)
    (hother : BeginsAt functions starts k other later) (place : Nat) :
    ¬ ((start ≤ place ∧ place < start + function.code.length) ∧
      later ≤ place ∧ place < later + other.code.length) := by
  rcases Nat.lt_or_gt_of_ne hne with hlt | hgt
  · have hordered := h.ordered hlt hbegins hother
    omega
  · have hordered := h.ordered hgt hother hbegins
    omega

theorem gap_lt (h : Layout functions starts size)
    (hbegins : BeginsAt functions starts k function start)
    (hnext : BeginsAt functions starts (k + 1) other later) :
    later < start + function.code.length + 16 := by
  have hleast := h.next k function start other later hbegins hnext
  have hle := hleast.2 (isLeast_alignUp (start + function.code.length)).1
  exact Nat.lt_of_le_of_lt hle (alignUp_lt _)

theorem end_le_size (h : Layout functions starts size)
    (hbegins : BeginsAt functions starts k function start) :
    start + function.code.length ≤ size := by
  have hk := hbegins.lt_length
  obtain ⟨last, place, hlast⟩ := h.exists_beginsAt (k := functions.length - 1) (by omega)
  have hsize := h.size_last _ last place hlast (by omega)
  rcases Nat.lt_or_eq_of_le (Nat.le_sub_one_of_lt hk) with hlt | rfl
  · have hordered := h.ordered hlt hbegins hlast
    omega
  · exact Nat.le_of_eq (h.size_last _ function start hbegins (by omega)).symm

end Layout

/-! ## Sites -/

/-- The site of a relocation of the `k`-th function, which begins at `start`, lies in the image and
in the code of this function, and no other function has a place of it. -/
structure Confined (functions : List CompiledFunction) (starts : List Nat) (size k : Nat)
    (function : CompiledFunction) (start : Nat) (r : Relocation) : Prop where
  own : start + r.offset + r.width ≤ start + function.code.length
  within : start + r.offset + r.width ≤ size
  apart : ∀ j other later place, j ≠ k → BeginsAt functions starts j other later →
    start + r.offset ≤ place → place < start + r.offset + r.width →
      ¬ (later ≤ place ∧ place < later + other.code.length)

/-- A site inside of its function's code meets no other function. -/
theorem Layout.confined (h : Layout functions starts size)
    (hbegins : BeginsAt functions starts k function start) {r : Relocation}
    (hinside : r.offset + r.width ≤ function.code.length) :
    Confined functions starts size k function start r where
  own := by omega
  within := by
    have hsize := h.end_le_size hbegins
    omega
  apart := by
    intro j other later place hne hother hlow hhigh hmeets
    exact h.disjoint hne hother hbegins place ⟨hmeets, by omega⟩

end

/-! ## Names -/

/-- A name stands for the start of the last function with the name. -/
theorem lastOffset?_eq_some_iff {functions : List CompiledFunction} {name : String} {start : Nat} :
    lastOffset? (symbolsOf functions) name = some start ↔
      ∃ k function, IsLast functions name k ∧
        BeginsAt functions (startsFrom 0 functions) k function start := by
  rcases lastOffset?_zip functions _ name (length_startsFrom functions 0) with
    ⟨k, offset, hoffset, hlast, hstart⟩ | ⟨hnone, hunnamed⟩
  · rw [symbolsOf, hoffset, Option.some.injEq]
    constructor
    · rintro rfl
      obtain ⟨function, hfunction, -⟩ := hlast.named
      exact ⟨k, function, hlast, hfunction, hstart⟩
    · rintro ⟨j, function, hother, hbegins⟩
      cases hlast.unique hother
      exact Option.some.inj (hstart.symm.trans hbegins.start_eq)
  · rw [symbolsOf, hnone]
    constructor
    · intro h
      cases h
    · rintro ⟨k, -, hlast, -⟩
      obtain ⟨function, hfunction, hname⟩ := hlast.named
      exact absurd hname (hunnamed function (List.mem_of_getElem? hfunction))

/-! ## Plans -/

/-- What the places of functions are in an image: those of the rule, with all that follows from it,
in every plan that is built. -/
structure LaysOut (functions : List CompiledFunction)
    (external : RelocationTarget → Option Address) (starts : List Nat) (size : Nat) : Prop where
  layout : Layout functions starts size
  aligned : ∀ k function start, BeginsAt functions starts k function start →
    16 ∣ start
  ordered : ∀ j k function start other later, j < k → BeginsAt functions starts j function start →
    BeginsAt functions starts k other later → start + function.code.length ≤ later
  disjoint : ∀ j k function start other later, j ≠ k →
    BeginsAt functions starts j function start → BeginsAt functions starts k other later →
      ∀ place, ¬ ((start ≤ place ∧ place < start + function.code.length) ∧
        later ≤ place ∧ place < later + other.code.length)
  gap_lt : ∀ k function start other later, BeginsAt functions starts k function start →
    BeginsAt functions starts (k + 1) other later →
      later < start + function.code.length + 16
  /-- A relocation that passes its check stays in its own function, whatever the others do. -/
  confined : ∀ k function start r target, BeginsAt functions starts k function start →
    r ∈ function.relocations → checkSite functions external ⟨function, start, r⟩ = .ok target →
      Confined functions starts size k function start r
  /-- There is a plan if all relocations pass their checks, and it has these places. -/
  exists_plan_iff : (∃ plan, (build functions external).outcome = .ok plan) ↔
    ∀ site ∈ sitesOf functions, ∃ target, checkSite functions external site = .ok target
  plan_eq : ∀ plan, (build functions external).outcome = .ok plan →
    plan.starts = starts ∧ plan.size = size
  symbolOffset?_eq_some_iff : ∀ plan, (build functions external).outcome = .ok plan →
    ∀ name start, plan.symbolOffset? name = some start ↔
      ∃ k function, IsLast functions name k ∧ BeginsAt functions starts k function start
  symbolOffset?_eq_none_iff : ∀ plan, (build functions external).outcome = .ok plan →
    ∀ name, plan.symbolOffset? name = none ↔ ∀ function ∈ functions, function.name ≠ name

/-- Every list of functions has its places, and its plans have them. -/
theorem functions_laid_out (functions : List CompiledFunction)
    (external : RelocationTarget → Option Address) :
    ∃ starts size, LaysOut functions external starts size := by
  have hlayout := layout_startsFrom functions
  refine ⟨startsFrom 0 functions, endFrom 0 functions, ?_⟩
  refine
    { layout := hlayout
      aligned := fun k function start h => hlayout.aligned h
      ordered := fun j k function start other later hjk h hlater => hlayout.ordered hjk h hlater
      disjoint := fun j k function start other later hne h hother => hlayout.disjoint hne h hother
      gap_lt := fun k function start other later h hnext => hlayout.gap_lt h hnext
      confined := ?_, exists_plan_iff := ?_, plan_eq := ?_
      symbolOffset?_eq_some_iff := ?_, symbolOffset?_eq_none_iff := ?_ }
  · intro k function start r target hbegins _ hcheck
    exact hlayout.confined hbegins (inspect_eq_ok hcheck).1
  · rw [exists_plan_iff_sites]
    simp only [exists_checkSite_eq_ok_iff]
  · intro plan hplan
    obtain ⟨rfl, -⟩ := build_eq_ok hplan
    exact ⟨rfl, rfl⟩
  · intro plan hplan name start
    obtain ⟨rfl, -⟩ := build_eq_ok hplan
    exact lastOffset?_eq_some_iff
  · intro plan hplan name
    obtain ⟨rfl, -⟩ := build_eq_ok hplan
    exact lastOffset?_symbolsOf_eq_none_iff

-- An empty function takes no place, so the next one may begin where it does.
example : startsFrom 0 [⟨"a", .replicate 16 0x90, []⟩, ⟨"empty", [], []⟩, ⟨"a", [0xc3], []⟩] =
    [0, 16, 16] := by decide

end Plan

end JitHost
