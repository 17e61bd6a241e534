import JitHost.Proofs.Session.Alike
import JitHost.Proofs.Session.HostRequests
import JitHost.Proofs.Session.Linked

/-!
# What a relocated session exports

A relocated session shows the functions that it accepted, and nothing else, at the places where they
lie in its code (`Shows`). They begin on their boundary, lie within the code and do not overlap
(`Plan.Spaced`). Whatever is asked of the session, these answers stay until it is closed, and then
there are none any more (`functions_exported`).
-/

namespace JitHost

/-! ## Addresses -/

/-- An address beyond one that points to something does not wrap around to null. -/
theorem Address.after_ne_null {place : Address} {offset : Nat} (hplace : place ≠ .null)
    (hfits : place.toNat + offset < 2 ^ 64) : place.after offset ≠ .null := by
  intro hnull
  have hsum : (place.after offset).toNat = place.toNat + offset := by
    rw [Address.after, UInt64.toNat_add, UInt64.toNat_ofNat']
    omega
  have hzero : place.toNat = 0 := by
    rw [hnull] at hsum
    have hnone : Address.null.toNat = 0 := rfl
    omega
  exact hplace (UInt64.toNat_inj.1 hzero)

/-- Mappings lie where memory can be, neither at the null address nor beyond the last one. -/
def MemoryService.IsSound (memory : MemoryService) : Prop :=
  ∀ size place, memory.map size = .ok place → place ≠ .null ∧ place.toNat + size < 2 ^ 64

theorem MemoryService.isSound_fixed {place : Address} (hplace : place ≠ .null)
    (hfits : place.toNat + 2 ^ 50 ≤ 2 ^ 64) : (fixed place).IsSound := by
  intro size other hmap
  by_cases hsmall : size < 2 ^ 50
  · simp only [fixed, if_pos hsmall] at hmap
    cases hmap
    exact ⟨hplace, by omega⟩
  · simp only [fixed, if_neg hsmall] at hmap
    cases hmap

theorem CodeBuffer.place_of_allocate {memory : MemoryService} (hmemory : memory.IsSound)
    {size : Nat} {buffer : CodeBuffer} (h : allocate memory size = .ok buffer) :
    buffer.place ≠ .null ∧ buffer.place.toNat + size < 2 ^ 64 := by
  unfold allocate at h
  by_cases hempty : size = 0
  · -- An empty buffer needs no mapping.
    rw [if_pos hempty] at h
    cases h
    subst hempty
    exact ⟨by decide, by decide⟩
  · rw [if_neg hempty] at h
    cases hmap : memory.map size with
    | error reason =>
      rw [hmap] at h
      cases h
    | ok place =>
      rw [hmap] at h
      cases h
      exact hmemory size place hmap

namespace Plan

/-- A name stands for an address: where the function with the name lies in code at a place. -/
def LiesAt (functions : List CompiledFunction) (place : Address) (name : String)
    (address : Address) : Prop :=
  ∃ entry ∈ placed functions, entry.1.name = name ∧ address = place.after entry.2

/-- Functions of different names lie in code of some size, on their boundary and apart from each
other. -/
structure Spaced (functions : List CompiledFunction) (size : Nat) : Prop where
  names : (functions.map CompiledFunction.name).Nodup
  aligned : ∀ entry ∈ placed functions, 16 ∣ entry.2
  within : ∀ entry ∈ placed functions, entry.2 + entry.1.code.length ≤ size
  apart : ∀ a ∈ placed functions, ∀ b ∈ placed functions, a.1.name ≠ b.1.name →
    a.2 + a.1.code.length ≤ b.2 ∨ b.2 + b.1.code.length ≤ a.2

theorem exists_liesAt_iff {functions : List CompiledFunction} (place : Address) {name : String} :
    (∃ address, LiesAt functions place name address) ↔
      ∃ function ∈ functions, function.name = name := by
  constructor
  · rintro ⟨address, entry, hentry, hname, -⟩
    exact ⟨entry.1, (List.of_mem_zip hentry).1, hname⟩
  · rintro ⟨function, hfunction, hname⟩
    rw [← map_fst_placed functions] at hfunction
    obtain ⟨entry, hentry, rfl⟩ := List.mem_map.1 hfunction
    exact ⟨_, entry, hentry, hname, rfl⟩

theorem spaced_of_nodup {functions : List CompiledFunction}
    (hnames : (functions.map CompiledFunction.name).Nodup) :
    Spaced functions (endFrom 0 functions) := by
  have hlaid : LaidOut 0 (placed functions) (endFrom 0 functions) := laidOut_startsFrom functions 0
  refine ⟨hnames, ?_, ?_, ?_⟩
  · intro entry hentry
    exact Nat.dvd_of_mod_eq_zero (hlaid.aligned entry hentry)
  · intro entry hentry
    exact (hlaid.within entry hentry).2
  · intro a ha b hb hne
    refine hlaid.apart ha hb ?_
    rintro rfl
    exact hne rfl

end Plan

variable {frontEnd : FrontEnd}

namespace Session

open Plan

/-! ## Answers -/

/-- A session shows functions, in code at a place, and nothing else. -/
structure Shows (s : Session (JitEngine frontEnd)) (functions : List CompiledFunction)
    (place : Address) : Prop where
  symbol_iff : ∀ name address, (s.symbol name).1 = .ok address ↔ LiesAt functions place name address
  routine_iff : ∀ name address,
    (s.routine name).1 = .ok address ↔ LiesAt functions place name address
  /-- A map is exported if all of its names are those of functions. -/
  export_iff : ∀ symbols, (s.exportSymbols symbols).1 = .ok () ↔
    ∀ entry ∈ symbols.entries, ∃ function ∈ functions, function.name = entry.1
  /-- It then has the same names and their addresses. -/
  export_entries : ∀ symbols, (s.exportSymbols symbols).1 = .ok () →
    (s.exportSymbols symbols).2.1.entries.map Prod.fst = symbols.entries.map Prod.fst ∧
      ∀ entry ∈ (s.exportSymbols symbols).2.1.entries, LiesAt functions place entry.1 entry.2

/-- Two sessions give the same answers about symbols. -/
structure AnswersAs (s t : Session (JitEngine frontEnd)) : Prop where
  symbol : ∀ name, (s.symbol name).1 = (t.symbol name).1
  routine : ∀ name, (s.routine name).1 = (t.routine name).1
  exported : ∀ symbols, (s.exportSymbols symbols).1 = (t.exportSymbols symbols).1 ∧
    (s.exportSymbols symbols).2.1 = (t.exportSymbols symbols).2.1

/-- A session has no symbols any more, since it is closed. -/
structure RefusesSymbols (s : Session (JitEngine frontEnd)) : Prop where
  symbol : ∀ name, (s.symbol name).1 = .error (.closedSession .exportSymbols)
  routine : ∀ name, (s.routine name).1 = .error (.closedSession .exportRoutine)
  exported : ∀ symbols, (s.exportSymbols symbols).1 = .error (.closedSession .exportSymbols) ∧
    (s.exportSymbols symbols).2.1 = symbols

/-- A session exports functions that lie in its code, from now on until it is closed. -/
structure Exports (s : Session (JitEngine frontEnd)) (functions : List CompiledFunction)
    (code : CodeBuffer) : Prop where
  image : s.code? = some code
  spaced : Spaced functions code.size
  shown : s.Shows functions code.place
  kept : ∀ later, (s.serveAll later).isClosed = false → (s.serveAll later).AnswersAs s
  gone : ∀ later, (s.serveAll later).isClosed = true → (s.serveAll later).RefusesSymbols

theorem Alike.answersAs {s t : Session (JitEngine frontEnd)} (h : Alike s t) (hs : s.Consistent) :
    s.AnswersAs t := by
  constructor
  · intro name
    exact SessionResponse.address.inj (h.perform hs (.symbol name)).1
  · intro name
    exact SessionResponse.address.inj (h.perform hs (.routine name)).1
  · intro symbols
    exact SessionResponse.symbols.inj (h.perform hs (.exportSymbols symbols)).1

theorem refusesSymbols_of_closed {s : Session (JitEngine frontEnd)} (hclosed : s.isClosed = true) :
    s.RefusesSymbols := by
  obtain ⟨cause, hcause⟩ := exists_cause hclosed
  have hexport : s.state.refusal? .exportSymbols = some (.closedSession .exportSymbols) := by
    rw [hcause]
    cases cause <;> rfl
  have hroutine : s.state.refusal? .exportRoutine = some (.closedSession .exportRoutine) := by
    rw [hcause]
    cases cause <;> rfl
  constructor
  · intro name
    have h : s.perform (.symbol name) = _ := perform_of_refusal rfl hexport
    exact SessionResponse.address.inj (congrArg Prod.fst h)
  · intro name
    have h : s.perform (.routine name) = _ := perform_of_refusal rfl hroutine
    exact SessionResponse.address.inj (congrArg Prod.fst h)
  · intro symbols
    have h : s.perform (.exportSymbols symbols) = _ := perform_of_refusal rfl hexport
    exact SessionResponse.symbols.inj (congrArg Prod.fst h)

variable {s t : Session (JitEngine frontEnd)} {functions : List CompiledFunction}
  {added : List (String × Address)} {plan : Plan} {code : CodeBuffer}

theorem Linked.spaced (h : s.Linked functions added plan code) : Spaced functions code.size := by
  have hbuild := (build_eq_ok (congrArg Attempt.outcome h.built)).1
  have hsize : endFrom 0 functions = code.size := by
    rw [← h.size, hbuild]
  rw [← hsize]
  exact spaced_of_nodup h.names

/-- The engine of a linked session shows its functions. -/
theorem Linked.symbol?_iff (h : s.Linked functions added plan code) {name : String}
    {address : Address} :
    ({ JitEngine.holding frontEnd functions added with
        plan? := some plan
        base? := some code.place } : JitEngine frontEnd).symbol? name = some address ↔
      LiesAt functions code.place name address := by
  have hplanned : ({ JitEngine.holding frontEnd functions added with plan? := some plan } :
      JitEngine frontEnd).UpToDate := by
    rintro _ ⟨⟩
    rw [JitEngine.external_plan]
    exact h.built
  exact JitEngine.symbol?_eq_some_iff (hplanned.written (some code.place)) h.names rfl rfl

/-! ## Linked sessions -/

theorem fst_symbol {σ : Type} [Engine σ] {s : Session σ} {engine : σ}
    (hallowed : s.state.refusal? .exportSymbols = none) (hengine : s.engine? = some engine)
    (name : String) :
    (s.symbol name).1 = (Engine.symbol? engine name).elim (.error (.symbolNotFound name)) .ok := by
  cases hsymbol : Engine.symbol? engine name with
  | none => rw [symbol_of_missing hallowed hengine hsymbol, Option.elim_none]
  | some address => rw [symbol_of_found hallowed hengine hsymbol, Option.elim_some]

/-- A relocated session shows what its engine shows. -/
theorem shows_of_engine {engine : JitEngine frontEnd} {place : Address}
    (hstate : s.state = .relocated) (hengine : s.engine? = some engine)
    (hsymbol : ∀ name address,
      Engine.symbol? engine name = some address ↔ LiesAt functions place name address)
    (hnull : ∀ name, ¬ LiesAt functions place name .null) : s.Shows functions place := by
  have hexport : s.state.refusal? .exportSymbols = none := by
    rw [hstate]
    rfl
  have hroutine : s.state.refusal? .exportRoutine = none := by
    rw [hstate]
    rfl
  have hdefined : ∀ name, (Engine.symbol? engine name).isSome = true ↔
      ∃ function ∈ functions, function.name = name := by
    intro name
    rw [Option.isSome_iff_exists, ← exists_liesAt_iff place]
    simp only [hsymbol]
  have hexported : ∀ symbols, (s.exportSymbols symbols).1 = .ok () ↔
      ∀ entry ∈ symbols.entries, (Engine.symbol? engine entry.1).isSome = true := by
    rintro ⟨entries⟩
    rcases found_or_missing engine entries with hfound |
      ⟨before, name, address, rest, rfl, hfound, hmissing⟩
    · rw [exportSymbols_of_found hexport hengine hfound]
      exact ⟨fun _ => hfound, fun _ => rfl⟩
    · rw [exportSymbols_of_missing hexport hengine hfound hmissing]
      constructor
      · intro h
        cases h
      · intro h
        have hname := h (name, address) (List.mem_append_right _ List.mem_cons_self)
        rw [hmissing] at hname
        cases hname
  constructor
  · intro name address
    rw [fst_symbol hexport hengine, elim_eq_ok_iff, hsymbol]
  · intro name address
    rw [← hsymbol]
    cases hfound : Engine.symbol? engine name with
    | none =>
      rw [routine_of_missing hroutine hengine (by rw [hfound]; rfl)]
      simp
    | some found =>
      -- A routine at the null address would not be one.
      have hlies := (hsymbol name found).1 hfound
      have hsome : found ≠ .null := by
        rintro rfl
        exact hnull name hlies
      rw [routine_of_found hroutine hengine hfound hsome]
      simp
  · intro symbols
    rw [hexported]
    simp only [hdefined]
  · intro symbols hok
    have hfound := (hexported symbols).1 hok
    rw [exportSymbols_of_found hexport hengine hfound]
    constructor
    · simp [overwritten]
    · intro entry hentry
      obtain ⟨old, hold, rfl⟩ := List.mem_map.1 hentry
      obtain ⟨address, haddress⟩ := Option.isSome_iff_exists.1 (hfound old hold)
      rw [haddress, Option.getD_some]
      exact (hsymbol old.1 address).1 haddress

/-- A linked session shows its functions, if none of them lies at the null address. -/
theorem Linked.shows (h : s.Linked functions added plan code)
    (hnull : ∀ name, ¬ LiesAt functions code.place name .null) : s.Shows functions code.place :=
  shows_of_engine h.state h.engine (fun _ _ => h.symbol?_iff) hnull

/-! ## Runs -/

/-- A run that relocates a session, in memory that lies where memory can be, leaves it with the
functions of the sources that it accepted, whatever the front end makes of sources. -/
theorem functions_exported (frontEnd : FrontEnd) (requests : List SessionRequest)
    (hmemory : ∀ memory, SessionRequest.relocate memory ∈ requests → memory.IsSound)
    (hrelocated : ((Session.new (JitEngine.new frontEnd)).after requests).state = .relocated) :
    ∃ code, ((Session.new (JitEngine.new frontEnd)).after requests).Exports
      ((Session.new (JitEngine.new frontEnd)).accepted requests) code := by
  have hs := consistent_after (JitEngine.new frontEnd) requests
  obtain ⟨added, plan, code, memory, hlinked, hmem, hallocated⟩ :=
    exists_linked_after (consistent_new (JitEngine.new frontEnd)) (collected_new frontEnd)
      hrelocated
  rw [List.nil_append] at hlinked
  obtain ⟨hplace, hfits⟩ := CodeBuffer.place_of_allocate (hmemory memory hmem) hallocated
  refine ⟨code, hlinked.image, hlinked.spaced, hlinked.shows ?_, ?_, ?_⟩
  · rintro name ⟨entry, hentry, -, hnull⟩
    have hwithin := hlinked.spaced.within entry hentry
    rw [CodeBuffer.place_zeros] at hplace hfits
    exact Address.after_ne_null hplace (by omega) hnull.symm
  · intro later hopen
    obtain ⟨plain, hplain⟩ := exists_serveAll_eq_after
      ((Session.new (JitEngine.new frontEnd)).after requests) later
    rw [hplain] at hopen ⊢
    rcases linked_after hs hlinked plain with hkept | hclosed
    · have halike : Alike (((Session.new (JitEngine.new frontEnd)).after requests).after plain)
          ((Session.new (JitEngine.new frontEnd)).after requests) :=
        ⟨hkept.engine.trans hlinked.engine.symm, hkept.image.trans hlinked.image.symm,
          hkept.state.trans hlinked.state.symm⟩
      refine halike.answersAs ?_
      rw [← after_append]
      exact consistent_after _ _
    · rw [hclosed] at hopen
      cases hopen
  · intro later hclosed
    exact refusesSymbols_of_closed hclosed

/-- One function, relocated to a sound place, is shown there. -/
theorem functions_exported_constant :
    (∀ memory, SessionRequest.relocate memory ∈
      [SessionRequest.compile "", .relocate (.fixed 4096)] → memory.IsSound) ∧
    ((Session.new (JitEngine.new JitEngine.constant)).after
      [.compile "", .relocate (.fixed 4096)]).state = .relocated ∧
    (((Session.new (JitEngine.new JitEngine.constant)).after
      [.compile "", .relocate (.fixed 4096)]).routine "f").1 = .ok 4096 := by
  have hmemory : ∀ memory, SessionRequest.relocate memory ∈
      [SessionRequest.compile "", .relocate (.fixed 4096)] → memory.IsSound := by
    intro memory hmem
    have hfixed : memory = .fixed 4096 := by simpa using hmem
    rw [hfixed]
    exact MemoryService.isSound_fixed (by decide) (by decide)
  obtain ⟨code, h⟩ := functions_exported JitEngine.constant
    [.compile "", .relocate (.fixed 4096)] hmemory rfl
  have himage := h.image
  cases himage
  exact ⟨hmemory, rfl, (h.shown.routine_iff "f" 4096).2
    ⟨(⟨"f", [0x90, 0xc3], []⟩, 0), List.mem_singleton_self _, rfl, rfl⟩⟩

end Session

end JitHost
