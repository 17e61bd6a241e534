import JitHost.Proofs.Engine.NameResolution
import JitHost.Proofs.Session.Alike
import JitHost.Proofs.Session.Linked

/-!
# Sources and symbols in any order

Names are looked up only when a session is relocated. What it has collected until then are the
functions of its sources, in the order of the sources, and the registered symbols, in the order of the
imports; how sources and imports took turns leaves no trace (`Collected`). So two sessions that were
given the same sources and the same imports are relocated with the same outcome, and cannot be told
apart afterwards (`turns_hidden`).
-/

namespace JitHost

variable {frontEnd : FrontEnd}

namespace Session

/-- Two sessions are relocated with the same outcome: the same size or the same error with its
diagnostics, the same code, and the same answers to whatever is asked then. -/
structure RelocatesAs (s t : Session (JitEngine frontEnd)) (memory : MemoryService) : Prop where
  result : (s.relocate memory).1 = (t.relocate memory).1
  code : (s.relocate memory).2.code? = (t.relocate memory).2.code?
  later : ∀ requests, (s.relocate memory).2.responses requests =
    (t.relocate memory).2.responses requests

/-- A relocation that succeeds links functions with symbols by a plan that follows the names: those of
functions first, and of the symbols with a name the last one. -/
def LinksNames (s : Session (JitEngine frontEnd)) (functions : List CompiledFunction)
    (added : List (String × Address)) (memory : MemoryService) : Prop :=
  ∀ size, (s.relocate memory).1 = .ok size → ∃ (plan : Plan) (code : CodeBuffer),
    (s.relocate memory).2.Linked functions added plan code ∧ code.size = size ∧
      plan.FollowsNames functions added

variable {s t : Session (JitEngine frontEnd)} {functions : List CompiledFunction}
  {added : List (String × Address)}

/-- What a relocation does is decided by what was collected. -/
theorem Collected.alike_relocate (hs : s.Collected functions added)
    (ht : t.Collected functions added) (memory : MemoryService) :
    (s.relocate memory).1 = (t.relocate memory).1 ∧
      Alike (s.relocate memory).2 (t.relocate memory).2 := by
  rcases materializes_or_fault (JitEngine.holding frontEnd functions added) memory
    with ⟨size, place, hsteps⟩ | ⟨calls, log, cause, hfault⟩
  · rw [relocate_of_materializes hs.relocatable hs.engine hsteps,
      relocate_of_materializes ht.relocatable ht.engine hsteps]
    exact ⟨rfl, rfl, rfl, rfl⟩
  · rw [relocate_of_fault hs.relocatable hs.engine hfault,
      relocate_of_fault ht.relocatable ht.engine hfault]
    exact ⟨rfl, rfl, rfl, rfl⟩

theorem Collected.linksNames (hs : s.Collected functions added) (memory : MemoryService) :
    s.LinksNames functions added memory := by
  intro size hsize
  rcases materializes_or_fault (JitEngine.holding frontEnd functions added) memory
    with ⟨size', place, hsteps⟩ | ⟨calls, log, cause, hfault⟩
  · rw [relocate_of_materializes hs.relocatable hs.engine hsteps] at hsize ⊢
    cases hsize
    obtain ⟨plan, code, hlinked, hlength, -⟩ := hs.linked hsteps
    exact ⟨plan, code, hlinked, hlength, JitEngine.followsNames_of_build hs.functionNames rfl
      (congrArg Attempt.outcome hlinked.built)⟩
  · rw [relocate_of_fault hs.relocatable hs.engine hfault] at hsize
    cases hsize

/-- Two runs leave sessions that can still be relocated. If they have the same sources in the same
order and the same imports in the same order, then the turns that these took do not matter. -/
theorem turns_hidden (frontEnd : FrontEnd) (first second : List SessionRequest)
    (hfirst : ((Session.new (JitEngine.new frontEnd)).after first).state.refusal? .relocate = none)
    (hsecond : ((Session.new (JitEngine.new frontEnd)).after second).state.refusal? .relocate = none)
    (hcompiles : first.filter SessionRequest.isCompile = second.filter SessionRequest.isCompile)
    (himports : first.filter SessionRequest.isImport = second.filter SessionRequest.isImport)
    (memory : MemoryService) :
    ((Session.new (JitEngine.new frontEnd)).after first).RelocatesAs
        ((Session.new (JitEngine.new frontEnd)).after second) memory ∧
      ((Session.new (JitEngine.new frontEnd)).after first).LinksNames
        (first.flatMap (SessionRequest.functions frontEnd))
        (first.flatMap SessionRequest.registered) memory := by
  have hnew := consistent_new (JitEngine.new frontEnd)
  have hcollected := collected_after hnew (collected_new frontEnd) hfirst
  have hother := collected_after hnew (collected_new frontEnd) hsecond
  rw [List.nil_append, List.nil_append] at hcollected hother
  rw [← SessionRequest.flatMap_functions_filter second, ← hcompiles,
    SessionRequest.flatMap_functions_filter, ← SessionRequest.flatMap_registered_filter second,
    ← himports, SessionRequest.flatMap_registered_filter] at hother
  obtain ⟨hresult, halike⟩ := hcollected.alike_relocate hother memory
  have hconsistent :
      (((Session.new (JitEngine.new frontEnd)).after first).relocate memory).2.Consistent := by
    have hs := consistent_after (JitEngine.new frontEnd) first
    exact (hs.row_perform (.relocate memory)).consistent hs
  exact ⟨⟨hresult, halike.code, halike.responses_eq hconsistent⟩, hcollected.linksNames memory⟩

/-- A symbol that is imported behind the source that refers to it is linked as one before it. -/
theorem turns_hidden_comparing :
    ((Session.new (JitEngine.new JitEngine.comparing)).after
      [.compile "", .importSymbols [("memcmp", 8)]]).state.refusal? .relocate = none ∧
    ((Session.new (JitEngine.new JitEngine.comparing)).after
      [.importSymbols [("memcmp", 8)], .compile ""]).state.refusal? .relocate = none ∧
    (((Session.new (JitEngine.new JitEngine.comparing)).after
      [.importSymbols [("memcmp", 8)], .compile ""]).relocate (.fixed 4096)).2.code?.map
        CodeBuffer.bytes = some #[0x90, 0x90, 8, 0, 0, 0, 0, 0, 0, 0] := by
  have hbytes : (((Session.new (JitEngine.new JitEngine.comparing)).after
      [.compile "", .importSymbols [("memcmp", 8)]]).relocate (.fixed 4096)).2.code?.map
        CodeBuffer.bytes = some #[0x90, 0x90, 8, 0, 0, 0, 0, 0, 0, 0] := by
    decide +kernel
  obtain ⟨hsame, -⟩ := turns_hidden JitEngine.comparing
    [.compile "", .importSymbols [("memcmp", 8)]]
    [.importSymbols [("memcmp", 8)], .compile ""] rfl rfl rfl rfl (.fixed 4096)
  refine ⟨rfl, rfl, ?_⟩
  rw [← hsame.code]
  exact hbytes

end Session

end JitHost
