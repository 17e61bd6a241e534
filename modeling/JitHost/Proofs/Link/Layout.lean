import JitHost.Proofs.Link.Sites

/-!
# Where functions lie and what targets denote

`laidOut_startsFrom` is what layout gives: functions begin on their boundary, follow one another and
end with the image. `Plan.Denotes` says which address a target stands for, and `build_eq_ok` that a
plan that was built has every relocation inside its function and paired with the address its own
target denotes (`denotes_of_inspect`).
-/

namespace JitHost

namespace Plan

/-! ## Layout -/

theorem le_alignUp (cursor : Nat) : cursor ≤ alignUp cursor functionAlignment := by
  unfold alignUp functionAlignment
  omega

theorem alignUp_mod (cursor : Nat) : alignUp cursor functionAlignment % functionAlignment = 0 :=
  Nat.mul_mod_left _ _

/-- Functions with their starts lie between two places, on their boundary and in order. -/
structure LaidOut (low : Nat) (placed : List (CompiledFunction × Nat)) (high : Nat) : Prop where
  aligned : ∀ entry ∈ placed, entry.2 % functionAlignment = 0
  within : ∀ entry ∈ placed, low ≤ entry.2 ∧ entry.2 + entry.1.code.length ≤ high
  ordered : placed.Pairwise fun a b => a.2 + a.1.code.length ≤ b.2

theorem le_endFrom (functions : List CompiledFunction) (cursor : Nat) :
    cursor ≤ endFrom cursor functions := by
  induction functions generalizing cursor with
  | nil => exact Nat.le_refl cursor
  | cons function rest ih =>
    have hstart := le_alignUp cursor
    have hrest := ih (alignUp cursor functionAlignment + function.code.length)
    rw [endFrom]
    omega

theorem length_startsFrom (functions : List CompiledFunction) (cursor : Nat) :
    (startsFrom cursor functions).length = functions.length := by
  induction functions generalizing cursor with
  | nil => rfl
  | cons function rest ih => rw [startsFrom, List.length_cons, List.length_cons, ih]

/-- Functions placed from a place on lie between it and their end. -/
theorem laidOut_startsFrom (functions : List CompiledFunction) (cursor : Nat) :
    LaidOut cursor (functions.zip (startsFrom cursor functions)) (endFrom cursor functions) := by
  induction functions generalizing cursor with
  | nil => exact ⟨fun _ h => (nomatch h), fun _ h => (nomatch h), List.Pairwise.nil⟩
  | cons function rest ih =>
    have hstart := le_alignUp cursor
    have hrest := ih (alignUp cursor functionAlignment + function.code.length)
    have hend := le_endFrom rest (alignUp cursor functionAlignment + function.code.length)
    -- The cursor of the functions behind is the end of this one.
    rw [startsFrom, endFrom, List.zip_cons_cons]
    constructor
    · intro entry hentry
      rcases List.mem_cons.1 hentry with rfl | hentry
      · exact alignUp_mod cursor
      · exact hrest.aligned entry hentry
    · intro entry hentry
      rcases List.mem_cons.1 hentry with rfl | hentry
      · exact ⟨hstart, hend⟩
      · obtain ⟨hlow, hhigh⟩ := hrest.within entry hentry
        exact ⟨by omega, hhigh⟩
    · rw [List.pairwise_cons]
      exact ⟨fun entry hentry => (hrest.within entry hentry).1, hrest.ordered⟩

/-- Of two functions in order the first one ends before the other begins. -/
theorem LaidOut.apart {low high : Nat} {placed : List (CompiledFunction × Nat)}
    (h : LaidOut low placed high) {a b : CompiledFunction × Nat} (ha : a ∈ placed)
    (hb : b ∈ placed) (hne : a ≠ b) :
    a.2 + a.1.code.length ≤ b.2 ∨ b.2 + b.1.code.length ≤ a.2 := by
  obtain ⟨before, rest, rfl⟩ := List.append_of_mem ha
  obtain ⟨-, hrest, hbefore⟩ := List.pairwise_append.1 h.ordered
  rcases List.mem_append.1 hb with hb | hb
  · exact .inr (hbefore b hb a List.mem_cons_self)
  · rcases List.mem_cons.1 hb with rfl | hb
    · exact absurd rfl hne
    · exact .inl ((List.pairwise_cons.1 hrest).1 b hb)

/-! ## Names -/

/-- The function at `k` is the last one with a name. -/
structure IsLast (functions : List CompiledFunction) (name : String) (k : Nat) : Prop where
  named : ∃ function, functions[k]? = some function ∧ function.name = name
  last : ∀ j function, k < j → functions[j]? = some function → function.name ≠ name

theorem IsLast.zero {function : CompiledFunction} {rest : List CompiledFunction}
    (hrest : ∀ other ∈ rest, other.name ≠ function.name) :
    IsLast (function :: rest) function.name 0 := by
  refine ⟨⟨function, rfl, rfl⟩, fun j other hj hother => ?_⟩
  obtain ⟨i, rfl⟩ := Nat.exists_eq_succ_of_ne_zero (Nat.ne_of_gt hj)
  exact hrest other (List.mem_of_getElem? hother)

theorem IsLast.succ {function : CompiledFunction} {rest : List CompiledFunction} {name : String}
    {k : Nat} (h : IsLast rest name k) : IsLast (function :: rest) name (k + 1) := by
  refine ⟨h.named, fun j other hj hother => ?_⟩
  obtain ⟨i, rfl⟩ := Nat.exists_eq_succ_of_ne_zero (by omega : j ≠ 0)
  exact h.last i other (by omega) hother

theorem IsLast.unique {functions : List CompiledFunction} {name : String} {k other : Nat}
    (h : IsLast functions name k) (hother : IsLast functions name other) : other = k := by
  obtain ⟨function, hfunction, hname⟩ := h.named
  obtain ⟨later, hlater, hlaterName⟩ := hother.named
  rcases Nat.lt_trichotomy k other with hlt | heq | hgt
  · exact absurd hlaterName (h.last other later hlt hlater)
  · exact heq.symm
  · exact absurd hname (hother.last k function hgt hfunction)

theorem lastOffset?_cons (symbol name : String) (offset : Nat) (rest : List (String × Nat)) :
    lastOffset? ((symbol, offset) :: rest) name =
      (lastOffset? rest name).or (if name = symbol then some offset else none) := by
  unfold lastOffset?
  rw [List.reverse_cons, List.lookup_append]
  congr 1
  by_cases hname : name = symbol
  · rw [if_pos hname, hname, List.lookup_cons_self]
  · have hbeq : (name == symbol) = false := beq_eq_false_iff_ne.2 hname
    rw [if_neg hname, List.lookup_cons, hbeq, List.lookup_nil]

/-- The offset found for a name is the start of the last function with the name, and none is found
only if there is no such function. -/
theorem lastOffset?_zip (functions : List CompiledFunction) (starts : List Nat) (name : String)
    (hlength : starts.length = functions.length) :
    (∃ k offset, lastOffset? ((functions.map CompiledFunction.name).zip starts) name =
      some offset ∧ IsLast functions name k ∧ starts[k]? = some offset) ∨
    (lastOffset? ((functions.map CompiledFunction.name).zip starts) name = none ∧
      ∀ function ∈ functions, function.name ≠ name) := by
  induction functions generalizing starts with
  | nil => exact .inr ⟨rfl, fun _ h => nomatch h⟩
  | cons function rest ih =>
    cases starts with
    | nil => cases hlength
    | cons start starts =>
      rw [List.map_cons, List.zip_cons_cons, lastOffset?_cons]
      -- A function further on takes the name away from this one.
      rcases ih starts (Nat.succ.inj hlength) with ⟨k, offset, hfound, hlast, hstart⟩ |
        ⟨hmissing, hrest⟩
      · rw [hfound]
        exact .inl ⟨k + 1, offset, rfl, hlast.succ, hstart⟩
      · rw [hmissing, Option.none_or]
        by_cases hname : name = function.name
        · subst hname
          rw [if_pos rfl]
          exact .inl ⟨0, start, rfl, IsLast.zero hrest, rfl⟩
        · rw [if_neg hname]
          refine .inr ⟨rfl, fun other hother => ?_⟩
          rcases List.mem_cons.1 hother with rfl | hother
          · exact Ne.symm hname
          · exact hrest other hother

/-! ## Targets -/

/-- The address that a target of a function at `start` stands for, in an image at `base`: a place of
the function itself, the last function with the name, or else what lies outside. -/
inductive Denotes (functions : List CompiledFunction) (starts : List Nat)
    (external : RelocationTarget → Option Address) (base : Address) (start : Nat) :
    RelocationTarget → Address → Prop where
  | here (offset : Nat) :
      Denotes functions starts external base start (.here offset) (base.after (start + offset))
  | defined {name : String} {k offset : Nat} (hlast : IsLast functions name k)
      (hstart : starts[k]? = some offset) :
      Denotes functions starts external base start (.symbol name) (base.after offset)
  | imported {name : String} {address : Address}
      (hnone : ∀ function ∈ functions, function.name ≠ name)
      (haddress : external (.symbol name) = some address) :
      Denotes functions starts external base start (.symbol name) address
  | routine {name : String} {address : Address}
      (haddress : external (.routine name) = some address) :
      Denotes functions starts external base start (.routine name) address

section

variable {functions : List CompiledFunction} {starts : List Nat}
  {external : RelocationTarget → Option Address}

/-- What a target is resolved to lies at the address that it denotes. -/
theorem denotes_of_resolve (hlength : starts.length = functions.length) (base : Address)
    {start : Nat} {target : RelocationTarget} {resolved : ResolvedTarget}
    (h : resolve ((functions.map CompiledFunction.name).zip starts) external start target =
      .ok resolved) :
    Denotes functions starts external base start target (resolved.address base) := by
  cases target with
  | here offset =>
    cases h
    exact .here offset
  | symbol name =>
    simp only [resolve] at h
    rcases lastOffset?_zip functions starts name hlength with
      ⟨k, offset, hfound, hlast, hstart⟩ | ⟨hmissing, hnone⟩
    · rw [hfound] at h
      cases h
      exact .defined hlast hstart
    · rw [hmissing] at h
      cases haddress : external (.symbol name) with
      | none =>
        rw [haddress] at h
        cases h
      | some address =>
        rw [haddress] at h
        cases h
        exact .imported hnone haddress
  | routine name =>
    simp only [resolve] at h
    cases haddress : external (.routine name) with
    | none =>
      rw [haddress] at h
      cases h
    | some address =>
      rw [haddress] at h
      cases h
      exact .routine haddress

/-- A relocation that passes the check lies in its function, and its target was resolved. -/
theorem inspect_eq_ok {symbols : List (String × Nat)} {function : CompiledFunction} {start : Nat}
    {r : Relocation} {target : ResolvedTarget}
    (h : inspect symbols external function start r = .ok target) :
    r.offset + r.width ≤ function.code.length ∧
      resolve symbols external start r.target = .ok target := by
  unfold inspect at h
  cases hwidth : r.kind.width? with
  | none =>
    rw [hwidth] at h
    cases h
  | some width =>
    simp only [hwidth] at h
    have hlength : r.width = width := by rw [Relocation.width, hwidth, Option.getD_some]
    by_cases houtside : function.code.length < r.offset + width
    · rw [if_pos houtside] at h
      cases h
    · rw [if_neg houtside] at h
      rw [hlength]
      exact ⟨by omega, h⟩

end

/-! ## Plans -/

/-- Something is reported unless there was nothing to report. -/
theorem distinct_eq_nil {problems : List LinkProblem} (h : LinkProblem.distinct [] problems = []) :
    problems = [] := by
  cases problems with
  | nil => rfl
  | cons problem rest =>
    cases problem with
    | undefined name =>
      rw [LinkProblem.distinct, if_neg (List.not_mem_nil)] at h
      cases h
    | unsupported kind function place => cases h
    | misplaced kind function offset place => cases h

/-- Results without problems pair every relocation with its own result. -/
theorem zip_targetsOf {f : Relocation → Except LinkProblem ResolvedTarget}
    {relocations : List Relocation} (h : problemsOf (relocations.map f) = []) :
    (relocations.zip (targetsOf (relocations.map f))).map Prod.fst = relocations ∧
      ∀ pair ∈ relocations.zip (targetsOf (relocations.map f)), f pair.1 = .ok pair.2 := by
  induction relocations with
  | nil => exact ⟨rfl, fun _ hpair => (nomatch hpair)⟩
  | cons r rest ih =>
    cases hresult : f r with
    | error problem => simp [problemsOf, hresult] at h
    | ok found =>
      have hproblems : problemsOf (rest.map f) = [] := by simpa [problemsOf, hresult] using h
      have htargets : targetsOf ((r :: rest).map f) = found :: targetsOf (rest.map f) := by
        simp [targetsOf, hresult]
      obtain ⟨hfst, hmem⟩ := ih hproblems
      rw [htargets, List.zip_cons_cons]
      constructor
      · rw [List.map_cons, hfst]
      · intro pair hpair
        rcases List.mem_cons.1 hpair with rfl | hpair
        · exact hresult
        · exact hmem pair hpair

theorem exists_mem_zip_targetsOf {f : Relocation → Except LinkProblem ResolvedTarget}
    {relocations : List Relocation} (h : problemsOf (relocations.map f) = []) {r : Relocation}
    (hr : r ∈ relocations) :
    ∃ target, (r, target) ∈ relocations.zip (targetsOf (relocations.map f)) ∧
      f r = .ok target := by
  obtain ⟨hfst, hmem⟩ := zip_targetsOf h
  have hpaired := hr
  rw [← hfst, List.mem_map] at hpaired
  obtain ⟨pair, hpair, rfl⟩ := hpaired
  exact ⟨pair.2, hpair, hmem pair hpair⟩

/-- The names and starts of functions laid out from the beginning of an image. -/
def symbolsOf (functions : List CompiledFunction) : List (String × Nat) :=
  (functions.map CompiledFunction.name).zip (startsFrom 0 functions)

/-- The targets of a function's relocations, in their order. -/
def targetsAt (functions : List CompiledFunction) (external : RelocationTarget → Option Address)
    (entry : CompiledFunction × Nat) : List ResolvedTarget :=
  targetsOf (entry.1.relocations.map (inspect (symbolsOf functions) external entry.1 entry.2))

/-- A plan that was built consists of the layout and of the targets, among which no problem was
found. -/
theorem build_eq_ok {functions : List CompiledFunction}
    {external : RelocationTarget → Option Address} {plan : Plan}
    (h : (build functions external).outcome = .ok plan) :
    plan = ⟨startsFrom 0 functions,
      (functions.zip (startsFrom 0 functions)).map (targetsAt functions external),
      symbolsOf functions, endFrom 0 functions⟩ ∧
    ∀ entry ∈ functions.zip (startsFrom 0 functions),
      problemsOf (entry.1.relocations.map
        (inspect (symbolsOf functions) external entry.1 entry.2)) = [] := by
  let inspected (entry : CompiledFunction × Nat) : List (Except LinkProblem ResolvedTarget) :=
    entry.1.relocations.map (inspect (symbolsOf functions) external entry.1 entry.2)
  -- The same text with projections for the pairs that `build` takes apart.
  have houtcome : (build functions external).outcome =
      if LinkProblem.distinct []
          (((functions.zip (startsFrom 0 functions)).map inspected).flatMap problemsOf) = [] then
        .ok ⟨startsFrom 0 functions,
          ((functions.zip (startsFrom 0 functions)).map inspected).map targetsOf,
          symbolsOf functions, endFrom 0 functions⟩
      else .error (LinkProblem.summary (LinkProblem.distinct []
        (((functions.zip (startsFrom 0 functions)).map inspected).flatMap problemsOf))) := rfl
  rw [houtcome] at h
  split at h
  · rename_i hnone
    cases h
    constructor
    · rw [List.map_map]
      rfl
    · intro entry hentry
      have hflat := distinct_eq_nil hnone
      rw [List.flatMap_eq_nil_iff] at hflat
      exact hflat _ (List.mem_map_of_mem hentry)
  · cases h

end Plan

end JitHost
