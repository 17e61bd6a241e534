import JitHost.Proofs.Link.NameOrder

/-!
# What linking reports

`RelocationSite.HasProblem` says what can be wrong with one relocation: its kind cannot be written,
its site does not fit into its function, or its name stands for nothing. Linking reports what is
wrong with all relocations in their order, and a missing name only where it is missed first
(`IsReport`). The report grows as the relocations are gone through once (`exists_report`).

`problems_reported` is what follows for `build`: it tells the report and nothing else, succeeds
exactly when nothing is wrong, and fails with the error of the first relocation that cannot be
written or else with all missing names (`Summarizes`).
-/

namespace JitHost

/-- A relocation with the function that holds it and the start of this function in the image. -/
structure RelocationSite where
  function : CompiledFunction
  start : Nat
  relocation : Relocation

/-- The name by which a target is looked up. -/
def RelocationTarget.name? : RelocationTarget → Option String
  | here _ => none
  | symbol name | routine name => some name

/-- Whether a target stands for something: a place of its own function, a function of the image, or
an address outside. -/
def RelocationTarget.Resolves (functions : List CompiledFunction)
    (external : RelocationTarget → Option Address) : RelocationTarget → Prop
  | here _ => True
  | symbol name => (∃ function ∈ functions, function.name = name) ∨
      ∃ address, external (.symbol name) = some address
  | routine name => ∃ address, external (.routine name) = some address

namespace RelocationSite

/-- The relocation can be written into its function. -/
def CanPatch (site : RelocationSite) : Prop := site.function.CanPatch site.relocation

/-- What is wrong with a relocation. Only one that can be written misses its name. -/
inductive HasProblem (functions : List CompiledFunction)
    (external : RelocationTarget → Option Address) (site : RelocationSite) :
    LinkProblem → Prop where
  | unsupported (hkind : site.relocation.kind.width? = none) :
      HasProblem functions external site (.unsupported site.relocation.kind site.function.name
        (site.start + site.relocation.offset))
  | misplaced {width : Nat} (hkind : site.relocation.kind.width? = some width)
      (hspills : site.function.code.length < site.relocation.offset + width) :
      HasProblem functions external site (.misplaced site.relocation.kind site.function.name
        site.relocation.offset (site.start + site.relocation.offset))
  | undefined {name : String} (hcan : site.CanPatch)
      (hname : site.relocation.target.name? = some name)
      (hmissing : ¬ site.relocation.target.Resolves functions external) :
      HasProblem functions external site (.undefined name)

end RelocationSite

namespace Plan

/-- All relocations of functions, function by function. -/
def sitesOf (functions : List CompiledFunction) : List RelocationSite :=
  (placed functions).flatMap fun entry => entry.1.relocations.map fun r => ⟨entry.1, entry.2, r⟩

/-! ## The check of one relocation -/

section

variable {functions : List CompiledFunction} {external : RelocationTarget → Option Address}

/-- A target that stands for something is resolved, and any other one is reported by its name. -/
theorem resolve_cases (functions : List CompiledFunction)
    (external : RelocationTarget → Option Address) (start : Nat) (target : RelocationTarget) :
    (target.Resolves functions external ∧
        ∃ found, resolve (symbolsOf functions) external start target = .ok found) ∨
      ¬ target.Resolves functions external ∧ ∃ name, target.name? = some name ∧
        resolve (symbolsOf functions) external start target = .error (.undefined name) := by
  cases target with
  | here offset => exact .inl ⟨trivial, _, rfl⟩
  | symbol name =>
    simp only [RelocationTarget.Resolves, resolve]
    rcases lastOffset?_zip functions _ name (length_startsFrom functions 0) with
      ⟨k, offset, hoffset, hlast, -⟩ | ⟨hoffset, hundefined⟩
    · obtain ⟨function, hfunction, hname⟩ := hlast.named
      refine .inl ⟨.inl ⟨function, List.mem_of_getElem? hfunction, hname⟩, .inside offset, ?_⟩
      rw [symbolsOf, hoffset]
    · rw [symbolsOf, hoffset]
      cases haddress : external (.symbol name) with
      | some address => exact .inl ⟨.inr ⟨address, rfl⟩, _, rfl⟩
      | none =>
        refine .inr ⟨?_, name, rfl, rfl⟩
        rintro (⟨function, hfunction, hname⟩ | ⟨address, haddress⟩)
        · exact hundefined function hfunction hname
        · cases haddress
  | routine name =>
    simp only [RelocationTarget.Resolves, resolve]
    cases haddress : external (.routine name) with
    | some address => exact .inl ⟨⟨address, rfl⟩, _, rfl⟩
    | none =>
      refine .inr ⟨?_, name, rfl, rfl⟩
      rintro ⟨address, haddress⟩
      cases haddress

/-- The check of a relocation in the image of all functions. -/
def checkSite (functions : List CompiledFunction) (external : RelocationTarget → Option Address)
    (site : RelocationSite) : Except LinkProblem ResolvedTarget :=
  inspect (symbolsOf functions) external site.function site.start site.relocation

variable {site : RelocationSite} {problem : LinkProblem}

/-- The check of a relocation finds what is wrong with it. -/
theorem checkSite_eq_error_iff :
    checkSite functions external site = .error problem ↔
      site.HasProblem functions external problem := by
  obtain ⟨function, start, r⟩ := site
  constructor
  · intro h
    simp only [checkSite, inspect] at h
    cases hwidth : r.kind.width? with
    | none =>
      simp only [hwidth] at h
      cases h
      exact .unsupported hwidth
    | some width =>
      simp only [hwidth] at h
      by_cases hspills : function.code.length < r.offset + width
      · rw [if_pos hspills] at h
        cases h
        exact .misplaced hwidth hspills
      · rw [if_neg hspills] at h
        rcases resolve_cases functions external start r.target with
          ⟨-, found, hfound⟩ | ⟨hmissing, name, hname, hundefined⟩
        · rw [hfound] at h
          cases h
        · rw [hundefined] at h
          cases h
          exact .undefined ⟨width, hwidth, Nat.not_lt.1 hspills⟩ hname hmissing
  · intro h
    cases h with
    | unsupported hkind => simp only [checkSite, inspect, hkind]
    | misplaced hkind hspills => simp only [checkSite, inspect, hkind, if_pos hspills]
    | undefined hcan hname hmissing =>
      rw [checkSite, inspect_of_canPatch hcan]
      rcases resolve_cases functions external start r.target with
        ⟨hresolves, -⟩ | ⟨-, name, hother, hundefined⟩
      · exact absurd hresolves hmissing
      · simp only [hother, Option.some.injEq] at hname
        rw [hundefined, hname]

@[simp] theorem problemsOf_error (problem : LinkProblem)
    (rest : List (Except LinkProblem ResolvedTarget)) :
    problemsOf (.error problem :: rest) = problem :: problemsOf rest := rfl

@[simp] theorem problemsOf_ok (target : ResolvedTarget)
    (rest : List (Except LinkProblem ResolvedTarget)) :
    problemsOf (.ok target :: rest) = problemsOf rest := rfl

/-- A relocation passes its check if it can be written and its target stands for something. -/
theorem exists_checkSite_eq_ok_iff :
    (∃ target, checkSite functions external site = .ok target) ↔
      site.CanPatch ∧ site.relocation.target.Resolves functions external := by
  simp only [checkSite, inspect_eq_ok_iff, exists_and_left, RelocationSite.CanPatch]
  refine and_congr_right fun _ => ?_
  rcases resolve_cases functions external site.start site.relocation.target with
    ⟨hresolves, hfound⟩ | ⟨hmissing, name, -, hundefined⟩
  · simp [hresolves, hfound]
  · simp [hmissing, hundefined]

/-- A relocation has at most one problem. -/
theorem hasProblem_unique {other : LinkProblem} (h : site.HasProblem functions external problem)
    (hother : site.HasProblem functions external other) : other = problem := by
  rw [← checkSite_eq_error_iff] at h hother
  rw [h] at hother
  cases hother
  rfl

/-- A relocation that cannot be written has a problem with an error of its own. -/
theorem exists_error_of_not_canPatch (functions : List CompiledFunction)
    (external : RelocationTarget → Option Address) (h : ¬ site.CanPatch) :
    ∃ problem e, site.HasProblem functions external problem ∧ problem.error? = some e := by
  cases hwidth : site.relocation.kind.width? with
  | none => exact ⟨_, _, .unsupported hwidth, rfl⟩
  | some width =>
    have hspills : site.function.code.length < site.relocation.offset + width := by
      rw [← Nat.not_le]
      intro hfits
      exact h ⟨width, hwidth, hfits⟩
    exact ⟨_, _, .misplaced hwidth hspills, rfl⟩

end

/-! ## Reports -/

/-- A problem is reported at a place in a list of relocations: the relocation there has it, and if
it is a missing name then no relocation before misses the same one. -/
structure ReportedAt (functions : List CompiledFunction)
    (external : RelocationTarget → Option Address) (sites : List RelocationSite) (place : Nat)
    (problem : LinkProblem) : Prop where
  found : ∃ site, sites[place]? = some site ∧ site.HasProblem functions external problem
  first : ∀ name, problem = .undefined name → ∀ earlier < place, ∀ site,
    sites[earlier]? = some site → ¬ site.HasProblem functions external (.undefined name)

/-- The places of a list of relocations at which a problem is reported, in order, each with its
problem. -/
structure IsReport (functions : List CompiledFunction)
    (external : RelocationTarget → Option Address) (sites : List RelocationSite)
    (report : List (Nat × LinkProblem)) : Prop where
  ordered : report.Pairwise fun a b => a.1 < b.1
  mem_iff : ∀ place problem,
    (place, problem) ∈ report ↔ ReportedAt functions external sites place problem

section

variable {functions : List CompiledFunction} {external : RelocationTarget → Option Address}
  {sites : List RelocationSite} {site : RelocationSite} {report : List (Nat × LinkProblem)}
  {place : Nat} {problem : LinkProblem}

theorem ReportedAt.lt_length (h : ReportedAt functions external sites place problem) :
    place < sites.length := by
  obtain ⟨site, hsite, -⟩ := h.found
  exact (List.getElem?_eq_some_iff.1 hsite).1

/-- Relocations further on do not change what is reported before them. -/
theorem reportedAt_concat_of_lt (hlt : place < sites.length) :
    ReportedAt functions external (sites ++ [site]) place problem ↔
      ReportedAt functions external sites place problem := by
  have hsame : ∀ earlier ≤ place, (sites ++ [site])[earlier]? = sites[earlier]? := by
    intro earlier hearlier
    exact List.getElem?_append_left (by omega)
  constructor
  · intro h
    refine ⟨?_, ?_⟩
    · rw [← hsame place (Nat.le_refl place)]
      exact h.found
    · intro name hname earlier hearlier other hother
      rw [← hsame earlier (Nat.le_of_lt hearlier)] at hother
      exact h.first name hname earlier hearlier other hother
  · intro h
    refine ⟨?_, ?_⟩
    · rw [hsame place (Nat.le_refl place)]
      exact h.found
    · intro name hname earlier hearlier other hother
      rw [hsame earlier (Nat.le_of_lt hearlier)] at hother
      exact h.first name hname earlier hearlier other hother

/-- At the last relocation its own problem is reported, unless this is a name missed before. -/
theorem reportedAt_length_iff :
    ReportedAt functions external (sites ++ [site]) sites.length problem ↔
      site.HasProblem functions external problem ∧ ∀ name, problem = .undefined name →
        ∀ other ∈ sites, ¬ other.HasProblem functions external (.undefined name) := by
  have hlast : (sites ++ [site])[sites.length]? = some site := by simp
  constructor
  · intro h
    obtain ⟨found, hfound, hproblem⟩ := h.found
    rw [hlast] at hfound
    cases hfound
    refine ⟨hproblem, fun name hname other hother => ?_⟩
    obtain ⟨earlier, hearlier⟩ := List.getElem?_of_mem hother
    have hlt := (List.getElem?_eq_some_iff.1 hearlier).1
    refine h.first name hname earlier hlt other ?_
    rw [List.getElem?_append_left hlt, hearlier]
  · rintro ⟨hproblem, hnew⟩
    refine ⟨⟨site, hlast, hproblem⟩, fun name hname earlier hearlier other hother => ?_⟩
    rw [List.getElem?_append_left hearlier] at hother
    exact hnew name hname other (List.mem_of_getElem? hother)

theorem isReport_nil : IsReport functions external [] [] := by
  refine ⟨List.Pairwise.nil, fun place problem => ⟨fun h => (nomatch h), fun h => ?_⟩⟩
  exact absurd h.lt_length (Nat.not_lt_zero place)

/-- A relocation at which nothing is reported leaves the report. -/
theorem IsReport.pass (h : IsReport functions external sites report)
    (hnone : ∀ problem, ¬ ReportedAt functions external (sites ++ [site]) sites.length problem) :
    IsReport functions external (sites ++ [site]) report := by
  refine ⟨h.ordered, fun place problem => ?_⟩
  rw [h.mem_iff]
  constructor
  · intro hreported
    exact (reportedAt_concat_of_lt hreported.lt_length).2 hreported
  · intro hreported
    have hlt := hreported.lt_length
    rw [List.length_append, List.length_singleton] at hlt
    rcases Nat.lt_succ_iff_lt_or_eq.1 hlt with hbefore | rfl
    · exact (reportedAt_concat_of_lt hbefore).1 hreported
    · exact absurd hreported (hnone problem)

/-- A relocation at which a problem is reported adds it to the report. -/
theorem IsReport.tell (h : IsReport functions external sites report)
    (hproblem : ReportedAt functions external (sites ++ [site]) sites.length problem) :
    IsReport functions external (sites ++ [site]) (report ++ [(sites.length, problem)]) := by
  constructor
  · rw [List.pairwise_append]
    refine ⟨h.ordered, List.pairwise_singleton .., ?_⟩
    intro entry hentry last hlast
    cases List.mem_singleton.1 hlast
    exact ((h.mem_iff entry.1 entry.2).1 hentry).lt_length
  · intro place other
    rw [List.mem_append, List.mem_singleton, Prod.mk.injEq, h.mem_iff]
    constructor
    · rintro (hreported | ⟨rfl, rfl⟩)
      · exact (reportedAt_concat_of_lt hreported.lt_length).2 hreported
      · exact hproblem
    · intro hreported
      have hlt := hreported.lt_length
      rw [List.length_append, List.length_singleton] at hlt
      rcases Nat.lt_succ_iff_lt_or_eq.1 hlt with hbefore | rfl
      · exact .inl ((reportedAt_concat_of_lt hbefore).1 hreported)
      · -- The last relocation has only one problem.
        exact .inr ⟨rfl, hasProblem_unique (reportedAt_length_iff.1 hproblem).1
          (reportedAt_length_iff.1 hreported).1⟩

/-- The names missed by relocations. -/
def Missed (functions : List CompiledFunction) (external : RelocationTarget → Option Address)
    (sites : List RelocationSite) (name : String) : Prop :=
  ∃ site ∈ sites, site.HasProblem functions external (.undefined name)

theorem missed_concat_iff {name : String} :
    Missed functions external (sites ++ [site]) name ↔
      Missed functions external sites name ∨
        site.HasProblem functions external (.undefined name) := by
  simp [Missed, or_and_right, exists_or]

/-- What one more relocation does: it may add to the report and to the names that were missed. What
is told of it and of those behind it is what it adds and then what is told with these names. -/
structure Adds (functions : List CompiledFunction) (external : RelocationTarget → Option Address)
    (sites : List RelocationSite) (site : RelocationSite) (report : List (Nat × LinkProblem))
    (seen : List String) (told : List (Nat × LinkProblem)) (known : List String) : Prop where
  report : IsReport functions external (sites ++ [site]) (report ++ told)
  missed : ∀ name, name ∈ known ↔ Missed functions external (sites ++ [site]) name
  distinct : ∀ rest, LinkProblem.distinct seen (problemsOf (checkSite functions external site ::
    rest)) = told.map Prod.snd ++ LinkProblem.distinct known (problemsOf rest)

/-- The first relocation that misses a name is reported, a later one is not. -/
theorem exists_adds_of_undefined {seen : List String} {name : String}
    (h : IsReport functions external sites report)
    (hseen : ∀ name, name ∈ seen ↔ Missed functions external sites name)
    (hproblem : site.HasProblem functions external (.undefined name)) :
    ∃ told known, Adds functions external sites site report seen told known := by
  have hcheck := checkSite_eq_error_iff.2 hproblem
  have hmisses : ∀ other, site.HasProblem functions external (.undefined other) ↔
      other = name := by
    intro other
    constructor
    · intro hother
      cases hasProblem_unique hproblem hother
      rfl
    · rintro rfl
      exact hproblem
  by_cases hold : name ∈ seen
  · refine ⟨[], seen, ?_, ?_, ?_⟩
    · rw [List.append_nil]
      refine h.pass fun problem hreported => ?_
      obtain ⟨hother, hnew⟩ := reportedAt_length_iff.1 hreported
      obtain ⟨earlier, hearlier, hmiss⟩ := (hseen name).1 hold
      exact hnew name (hasProblem_unique hproblem hother) earlier hearlier hmiss
    · intro other
      rw [missed_concat_iff, hmisses, hseen]
      constructor
      · exact .inl
      · rintro (hother | rfl)
        · exact hother
        · exact (hseen other).1 hold
    · intro rest
      simp [hcheck, LinkProblem.distinct, hold]
  · refine ⟨[(sites.length, .undefined name)], name :: seen, ?_, ?_, ?_⟩
    · refine h.tell (reportedAt_length_iff.2 ⟨hproblem, ?_⟩)
      rintro other hname earlier hearlier hmiss
      cases hname
      exact hold ((hseen name).2 ⟨earlier, hearlier, hmiss⟩)
    · intro other
      rw [missed_concat_iff, hmisses, List.mem_cons, hseen, or_comm]
    · intro rest
      simp [hcheck, LinkProblem.distinct, hold]

theorem exists_adds {seen : List String} (h : IsReport functions external sites report)
    (hseen : ∀ name, name ∈ seen ↔ Missed functions external sites name) (site : RelocationSite) :
    ∃ told known, Adds functions external sites site report seen told known := by
  cases hcheck : checkSite functions external site with
  | ok target =>
    have hnone : ∀ problem, ¬ site.HasProblem functions external problem := by
      intro problem hproblem
      rw [checkSite_eq_error_iff.2 hproblem] at hcheck
      cases hcheck
    refine ⟨[], seen, ?_, ?_, ?_⟩
    · rw [List.append_nil]
      exact h.pass fun problem hreported => hnone problem (reportedAt_length_iff.1 hreported).1
    · intro name
      rw [missed_concat_iff, hseen, or_iff_left (hnone _)]
    · intro rest
      simp [hcheck]
  | error problem =>
    have hproblem := checkSite_eq_error_iff.1 hcheck
    cases hmissing : problem.missing? with
    | some name =>
      obtain rfl : problem = .undefined name := by
        cases problem <;> cases hmissing
        rfl
      exact exists_adds_of_undefined h hseen hproblem
    | none =>
      -- A problem other than a missing name is told wherever it is found.
      have hnot : ∀ name, problem ≠ .undefined name := by
        rintro name rfl
        cases hmissing
      refine ⟨[(sites.length, problem)], seen, ?_, ?_, ?_⟩
      · refine h.tell (reportedAt_length_iff.2 ⟨hproblem, ?_⟩)
        intro name hname
        exact absurd hname (hnot name)
      · intro name
        rw [missed_concat_iff, hseen, or_iff_left]
        intro hundefined
        exact hnot name (hasProblem_unique hundefined hproblem)
      · intro rest
        simp [hcheck, distinct_cons_of_missing? hmissing]

/-- Going through further relocations, with the names that were missed so far, adds to the report
what is told of them. -/
theorem exists_report (rest : List RelocationSite) {seen : List String}
    (h : IsReport functions external sites report)
    (hseen : ∀ name, name ∈ seen ↔ Missed functions external sites name) :
    ∃ more, IsReport functions external (sites ++ rest) (report ++ more) ∧
      LinkProblem.distinct seen (problemsOf (rest.map (checkSite functions external))) =
        more.map Prod.snd := by
  -- A relocation moves from those to come to those gone through, so both vary in the induction.
  induction rest generalizing sites report seen with
  | nil => exact ⟨[], by simpa using h, rfl⟩
  | cons site rest ih =>
    obtain ⟨told, known, hadds⟩ := exists_adds h hseen site
    obtain ⟨more, hreport, hmore⟩ := ih hadds.report hadds.missed
    refine ⟨told ++ more, by simpa using hreport, ?_⟩
    rw [List.map_cons, hadds.distinct, hmore, List.map_append]

/-! ## The error for a report -/

/-- The error that stands for all problems of relocations: that of the first one that cannot be
written, or else the names that they miss, each once and in the order in which they are missed. -/
inductive Summarizes (sites : List RelocationSite) (report : List (Nat × LinkProblem)) :
    EngineError → Prop where
  | unsupported {place : Nat} {site : RelocationSite} (hsite : sites[place]? = some site)
      (hfirst : ∀ earlier < place, ∀ other, sites[earlier]? = some other → other.CanPatch)
      (hkind : site.relocation.kind.width? = none) :
      Summarizes sites report (.relocationFailed site.relocation.kind.text
        (site.start + site.relocation.offset)
        ("unsupported in function '" ++ site.function.name ++ "'"))
  | misplaced {place width : Nat} {site : RelocationSite} (hsite : sites[place]? = some site)
      (hfirst : ∀ earlier < place, ∀ other, sites[earlier]? = some other → other.CanPatch)
      (hkind : site.relocation.kind.width? = some width)
      (hspills : site.function.code.length < site.relocation.offset + width) :
      Summarizes sites report (.relocationFailed site.relocation.kind.text
        (site.start + site.relocation.offset)
        ("patch site lies outside function '" ++ site.function.name ++ "'"))
  | unresolved {names : List String} (hcan : ∀ site ∈ sites, site.CanPatch)
      (hnames : report.map Prod.snd = names.map .undefined) (hdistinct : names.Nodup) :
      Summarizes sites report (.unresolvedSymbols names)

/-- As long as nothing is reported that has an error of its own, all relocations can be written. -/
theorem IsReport.canPatch_of_lt (h : IsReport functions external sites report) {place : Nat}
    (hmild : ∀ entry ∈ report, entry.1 < place → entry.2.error? = none) :
    ∀ earlier < place, ∀ site, sites[earlier]? = some site → site.CanPatch := by
  intro earlier hearlier site hsite
  apply Classical.byContradiction
  intro hcannot
  obtain ⟨problem, e, hproblem, he⟩ := exists_error_of_not_canPatch functions external hcannot
  have hreported : ReportedAt functions external sites earlier problem := by
    refine ⟨⟨site, hsite, hproblem⟩, ?_⟩
    rintro name rfl
    cases he
  have hnone := hmild _ ((h.mem_iff earlier problem).2 hreported) hearlier
  rw [he] at hnone
  cases hnone

/-- Problems without errors of their own are missing names. -/
theorem map_undefined_filterMap {problems : List LinkProblem}
    (hmild : ∀ problem ∈ problems, problem.error? = none) :
    (problems.filterMap LinkProblem.missing?).map .undefined = problems := by
  induction problems with
  | nil => rfl
  | cons problem rest ih =>
    obtain ⟨hproblem, hrest⟩ := List.forall_mem_cons.1 hmild
    cases problem with
    | undefined name =>
      have hname : (LinkProblem.undefined name).missing? = some name := rfl
      rw [List.filterMap_cons_some hname, List.map_cons, ih hrest]
    | unsupported => cases hproblem
    | misplaced => cases hproblem

theorem IsReport.summarizes (h : IsReport functions external sites report) :
    Summarizes sites report (LinkProblem.summary (report.map Prod.snd)) := by
  rw [LinkProblem.summary, List.findSome?_map]
  cases hfind : report.findSome? (LinkProblem.error? ∘ Prod.snd) with
  | some e =>
    obtain ⟨before, entry, rest, rfl, he, hbefore⟩ := List.findSome?_eq_some_iff.1 hfind
    -- What comes earlier than the entry stands before it in the report.
    have hmild : ∀ other ∈ before ++ entry :: rest, other.1 < entry.1 →
        other.2.error? = none := by
      intro other hother hlt
      have hordered := (List.pairwise_append.1 h.ordered).2.1
      rcases List.mem_append.1 hother with hother | hother
      · exact hbefore other hother
      · rcases List.mem_cons.1 hother with rfl | hother
        · exact absurd hlt (Nat.lt_irrefl _)
        · exact absurd hlt (Nat.lt_asymm ((List.pairwise_cons.1 hordered).1 other hother))
    have hfirst := h.canPatch_of_lt hmild
    obtain ⟨place, problem⟩ := entry
    obtain ⟨site, hsite, hproblem⟩ := ((h.mem_iff place problem).1 (by simp)).found
    cases hproblem with
    | unsupported hkind =>
      cases he
      exact .unsupported hsite hfirst hkind
    | misplaced hkind hspills =>
      cases he
      exact .misplaced hsite hfirst hkind hspills
    | undefined => cases he
  | none =>
    rw [List.findSome?_eq_none_iff] at hfind
    have hmild : ∀ problem ∈ report.map Prod.snd, problem.error? = none := by
      intro problem hproblem
      obtain ⟨entry, hentry, rfl⟩ := List.mem_map.1 hproblem
      exact hfind entry hentry
    have hnames := map_undefined_filterMap hmild
    refine .unresolved ?_ hnames.symm ?_
    · intro site hsite
      obtain ⟨place, hplace⟩ := List.getElem?_of_mem hsite
      exact h.canPatch_of_lt (fun entry hentry _ => hfind entry hentry) place
        (Nat.lt_succ_self place) site hplace
    · -- A name told twice would have been missed before the second time.
      have hdistinct : (report.map Prod.snd).Nodup := by
        rw [List.Nodup, List.pairwise_map]
        refine h.ordered.imp_of_mem ?_
        rintro ⟨place, problem⟩ ⟨later, other⟩ hplace hlater hlt rfl
        have hname : problem ∈ (report.map Prod.snd) := List.mem_map_of_mem hplace
        rw [← hnames] at hname
        obtain ⟨name, -, rfl⟩ := List.mem_map.1 hname
        obtain ⟨site, hsite, hproblem⟩ := ((h.mem_iff place _).1 hplace).found
        exact ((h.mem_iff later _).1 hlater).first name rfl place hlt site hsite hproblem
      rw [← hnames] at hdistinct
      refine List.Pairwise.of_map LinkProblem.undefined ?_ hdistinct
      intro name other hne hsame
      exact hne (congrArg _ hsame)

end

/-! ## Linking -/

/-- A plan holds one target for every relocation, in their order, and each lies where the target of
its own relocation denotes, wherever the image lies. -/
structure StoresTargets (functions : List CompiledFunction)
    (external : RelocationTarget → Option Address) (plan : Plan) : Prop where
  lengths : plan.targets.map List.length = functions.map fun function => function.relocations.length
  denotes : ∀ k i function (r : Relocation), functions[k]? = some function →
    function.relocations[i]? = some r → ∃ start target, plan.starts[k]? = some start ∧
      plan.target? k i = some target ∧
      ∀ base, Denotes functions plan.starts external base start r.target (target.address base)

/-- How an attempt to link tells what is wrong with functions. -/
structure Diagnoses (functions : List CompiledFunction)
    (external : RelocationTarget → Option Address) (attempt : Attempt Plan)
    (report : List (Nat × LinkProblem)) : Prop where
  /-- The report has everything that is wrong, in the order of the relocations, -/
  isReport : IsReport functions external (sitesOf functions) report
  /-- it is told as it is, -/
  diagnostics_eq : attempt.diagnostics = report.map fun entry => entry.2.message
  /-- and there is a plan exactly if nothing is wrong. -/
  succeeds_iff : (∃ plan, attempt.outcome = .ok plan) ↔ ∀ site ∈ sitesOf functions,
    site.CanPatch ∧ site.relocation.target.Resolves functions external
  /-- A success is silent and holds a target for every relocation. -/
  success : ∀ plan, attempt.outcome = .ok plan →
    attempt.diagnostics = [] ∧ StoresTargets functions external plan
  /-- A failure is for the first relocation that cannot be written or else for all names. -/
  failure : ∀ e, attempt.outcome = .error e → Summarizes (sitesOf functions) report e

section

variable {functions : List CompiledFunction} {external : RelocationTarget → Option Address}

/-- The problems are those found by going through all relocations. -/
theorem flatMap_problemsOf_placed :
    ((placed functions).map fun entry => entry.1.relocations.map
        (inspect (symbolsOf functions) external entry.1 entry.2)).flatMap problemsOf =
      problemsOf ((sitesOf functions).map (checkSite functions external)) := by
  unfold problemsOf sitesOf
  rw [List.map_flatMap, List.filterMap_flatMap, List.flatMap_map]
  simp only [List.map_map]
  rfl

/-- Linking tells what is to be told of all relocations, and fails if that is anything. -/
theorem build_of_problems {problems : List LinkProblem}
    (hproblems : LinkProblem.distinct []
      (problemsOf ((sitesOf functions).map (checkSite functions external))) = problems) :
    (build functions external).diagnostics = problems.map LinkProblem.message ∧
      ((problems = [] ∧ ∃ plan, (build functions external).outcome = .ok plan) ∨
        (build functions external).outcome = .error (LinkProblem.summary problems)) := by
  rw [← flatMap_problemsOf_placed] at hproblems
  subst hproblems
  refine ⟨rfl, ?_⟩
  by_cases hnone : LinkProblem.distinct [] (((placed functions).map fun entry =>
      entry.1.relocations.map (inspect (symbolsOf functions) external entry.1 entry.2)).flatMap
        problemsOf) = []
  · exact .inl ⟨hnone, _, if_pos hnone⟩
  · exact .inr (if_neg hnone)

theorem exists_plan_iff_sites : (∃ plan, (build functions external).outcome = .ok plan) ↔
    ∀ site ∈ sitesOf functions,
      site.CanPatch ∧ site.relocation.target.Resolves functions external := by
  rw [exists_plan_iff]
  simp only [← exists_checkSite_eq_ok_iff, sitesOf, List.forall_mem_flatMap, List.forall_mem_map]
  rfl

theorem storesTargets_of_build {plan : Plan}
    (hbuild : (build functions external).outcome = .ok plan) :
    StoresTargets functions external plan := by
  constructor
  · obtain ⟨rfl, hproblems⟩ := build_eq_ok hbuild
    have hlengths : ∀ entry ∈ functions.zip (startsFrom 0 functions),
        (targetsAt functions external entry).length = entry.1.relocations.length := by
      intro entry hentry
      simpa [targetsAt] using congrArg List.length (map_ok_targetsOf (hproblems entry hentry))
    rw [List.map_map, ← map_fst_placed functions, List.map_map, map_fst_placed]
    exact List.map_congr_left hlengths
  · intro k i function r hfunction hr
    obtain ⟨start, target, hstart, htarget, hinspect⟩ := inspect_of_target? hbuild hfunction hr
    obtain ⟨-, hresolved⟩ := inspect_eq_ok hinspect
    obtain ⟨rfl, -⟩ := build_eq_ok hbuild
    exact ⟨start, target, hstart, htarget, fun base =>
      denotes_of_resolve (length_startsFrom functions 0) base hresolved⟩

/-- Whatever the functions and whatever is known outside, linking diagnoses them. -/
theorem problems_reported (functions : List CompiledFunction)
    (external : RelocationTarget → Option Address) :
    ∃ report, Diagnoses functions external (build functions external) report := by
  have hstart : IsReport functions external [] [] := isReport_nil
  have hnone : ∀ name, name ∈ [] ↔ Missed functions external [] name := by simp [Missed]
  obtain ⟨report, hreport, htold⟩ := exists_report (sitesOf functions) hstart hnone
  rw [List.nil_append, List.nil_append] at hreport
  obtain ⟨hdiagnostics, houtcome⟩ := build_of_problems htold
  refine ⟨report, hreport, ?_, exists_plan_iff_sites, ?_, ?_⟩
  · rw [hdiagnostics, List.map_map]
    rfl
  · intro plan hplan
    rcases houtcome with ⟨hnone, -⟩ | herror
    · rw [hdiagnostics, hnone]
      exact ⟨rfl, storesTargets_of_build hplan⟩
    · rw [hplan] at herror
      cases herror
  · intro e he
    rcases houtcome with ⟨-, plan, hplan⟩ | herror
    · rw [hplan] at he
      cases he
    · rw [herror] at he
      cases he
      exact hreport.summarizes

end

-- A name missed as a symbol and as a routine is told once, and the kind decides about the error.
example :
    build [⟨"f", .replicate 24 0x90, [⟨0, .abs8, .symbol "g", 0⟩,
        ⟨8, .other "Arm32Call", .here 0, 0⟩, ⟨12, .x86CallPCRel4, .routine "g", 0⟩]⟩]
        (fun _ => none) =
      ⟨["undefined symbol 'g'", "unsupported relocation Call in function 'f'"],
        .error (.relocationFailed "Call" 8 "unsupported in function 'f'")⟩ := by rfl

end Plan

end JitHost
