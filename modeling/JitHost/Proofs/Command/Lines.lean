import JitHost.Diagnostic
import JitHost.Link.Plan
import JitHost.Proofs.Session.Messages
import JitHost.Proofs.Text.Digits

/-!
# Lines that messages name

`Diagnostic.line?` reads a line number back from the text that `Diagnostic.text` writes for a source
that cannot be read (`Diagnostic.line?_atLine`), whatever else the text says. Of all other messages
the beginning shows that they name no line (`Diagnostic.Lineless`): a `Remark` is any message of an
engine, of its linker or of a session about something else, and none of them can be taken for one
that names a line, whatever names and texts it quotes (`Remark.lineless`).
-/

namespace JitHost

open Text

namespace Diagnostic

/-! ## What is read back -/

theorem after?_eq_some_iff {front text rest : List Char} :
    after? front text = some rest ↔ text = front ++ rest := by
  induction front generalizing text with
  | nil => simp [after?]
  | cons c front ih =>
    cases text with
    | nil => simp [after?]
    | cons d text =>
      by_cases h : c = d
      · simp [after?, h, ih]
      · simp [after?, h, Ne.symm h]

theorem line?_of_mark {rest : List Char} {text : String}
    (htext : text.toList = sourceMark.toList ++ rest) :
    line? text = if ':' ∈ rest then readCount? (rest.takeWhile (· ≠ ':')) else none := by
  rw [line?, after?_eq_some_iff.2 htext]
  rfl

/-- The piece of a text before its first colon. -/
theorem takeWhile_colon {front : List Char} (hfront : ':' ∉ front) (back : List Char) :
    (front ++ ':' :: back).takeWhile (· ≠ ':') = front := by
  rw [List.takeWhile_append_of_pos, List.takeWhile_cons_of_neg (by simp), List.append_nil]
  intro c hc
  exact decide_eq_true fun heq => hfront (heq ▸ hc)

/-- The line number of a written diagnostic is read back. -/
theorem line?_atLine {line : Nat} (hline : line < 2 ^ 64) (message : String) :
    line? (atLine line message).text = some line := by
  have htext : (atLine line message).text.toList = sourceMark.toList ++
      (Nat.toDigits 10 line ++ ':' :: (" error: ".toList ++ message.toList)) := by
    have hnumber : (toString line).toList = Nat.toDigits 10 line := String.toList_ofList
    have hcolon : ": error: ".toList = ':' :: " error: ".toList := rfl
    rw [text, String.toList_append, String.toList_append, String.toList_append, hnumber, hcolon]
    simp only [List.append_assoc, List.cons_append]
  have hdigits : ':' ∉ Nat.toDigits 10 line := by
    intro hmem
    cases isDigit_toDigits hmem
  have hcolon : ':' ∈ Nat.toDigits 10 line ++ ':' :: (" error: ".toList ++ message.toList) :=
    List.mem_append_right _ List.mem_cons_self
  rw [line?_of_mark htext, if_pos hcolon, takeWhile_colon hdigits, readCount?_toDigits hline]

/-! ## What names no line -/

/-- No text that begins with this one is taken to name a line. -/
def Lineless (text : String) : Prop := ∀ rest, line? (text ++ rest) = none

theorem Lineless.line?_eq_none {text : String} (h : Lineless text) : line? text = none := by
  have hempty := h ""
  rw [String.append_empty] at hempty
  exact hempty

theorem Lineless.append {front : String} (h : Lineless front) (back : String) :
    Lineless (front ++ back) := by
  intro rest
  rw [String.append_assoc]
  exact h (back ++ rest)

theorem lineless_of_head {text : String} {c : Char} (hhead : text.toList.head? = some c)
    (hc : c ≠ '<') : Lineless text := by
  intro rest
  obtain ⟨tail, htail⟩ : ∃ tail, text.toList = c :: tail := List.head?_eq_some_iff.1 hhead
  cases hafter : after? sourceMark.toList (text ++ rest).toList with
  | none => rw [line?, hafter, Option.bind_none]
  | some found =>
    rw [after?_eq_some_iff, String.toList_append, htail] at hafter
    -- The mark begins with another character.
    exact absurd (List.cons.inj hafter).1 hc

/-- After the mark and the word for an error there is no number. -/
theorem lineless_errorMark : Lineless (sourceMark ++ " error:") := by
  intro rest
  have htext : (sourceMark ++ " error:" ++ rest).toList =
      sourceMark.toList ++ (" error".toList ++ ':' :: rest.toList) := by
    have hcolon : " error:".toList = " error".toList ++ [':'] := rfl
    rw [String.toList_append, String.toList_append, hcolon]
    simp only [List.append_assoc, List.cons_append, List.nil_append]
  have hword : ':' ∉ " error".toList := by decide
  rw [line?_of_mark htext, takeWhile_colon hword]
  split <;> rfl

end Diagnostic

open Diagnostic

/-! ## Everything else that is said -/

/-- A message about anything but a line at which a source cannot be read. -/
inductive Remark : String → Prop where
  | inFunction (name message : String) : Remark (Diagnostic.inFunction name message).text
  | redefinition (name : String) : Remark (Diagnostic.redefinition name).text
  | link (problem : LinkProblem) : Remark problem.message
  | engine (cause : EngineError) : Remark cause.message
  /-- What a session says of a failure that its engine says nothing about. -/
  | silentCompilation : Remark "compile error"
  | silentRelocation (cause : EngineError) : Remark ("relocation error: " ++ cause.message)
  | session (e : SessionError) (hopen : e.closesSession = false) : Remark e.message
  /-- Such a message with any further lines. -/
  | further {text : String} (rest : String) (h : Remark text) : Remark (text ++ rest)

theorem lineless_linkProblem (problem : LinkProblem) : Lineless problem.message := by
  have hunsupported : Lineless "unsupported relocation " := lineless_of_head rfl (by decide)
  have hmisplaced : Lineless "relocation " := lineless_of_head rfl (by decide)
  have hundefined : Lineless "undefined symbol '" := lineless_of_head rfl (by decide)
  cases problem with
  | unsupported kind function place =>
    exact ((hunsupported.append _).append _ |>.append _).append _
  | misplaced kind function offset place =>
    exact (((hmisplaced.append _).append _ |>.append _).append _ |>.append _).append _
  | undefined name => exact (hundefined.append _).append _

theorem lineless_engineError (cause : EngineError) : Lineless cause.message := by
  cases cause with
  | unsupportedHost text => exact (lineless_of_head (c := 'U') rfl (by decide)).append _
  | settings fault => exact (lineless_of_head (c := 'F') rfl (by decide)).append _
  | targetSetup text => exact (lineless_of_head (c := 'I') rfl (by decide)).append _
  | compilationFailed count =>
    exact ((lineless_of_head (c := 'S') rfl (by decide)).append _).append _
  | unresolvedSymbols names => exact (lineless_of_head (c := 'U') rfl (by decide)).append _
  | relocationFailed kind offset reason =>
    have hbegin : Lineless "Relocation " := lineless_of_head rfl (by decide)
    exact (((hbegin.append _).append _).append _ |>.append _).append _
  | bufferTooSmall needed provided =>
    have hbegin : Lineless "Code buffer too small: need " := lineless_of_head rfl (by decide)
    exact ((hbegin.append _).append _).append _
  | sealedBuffer => exact lineless_of_head rfl (by decide)
  | alreadyMaterialized => exact lineless_of_head rfl (by decide)
  | memory text => exact (lineless_of_head (c := 'E') rfl (by decide)).append _

theorem lineless_refusal (operation : Operation) (session : String) :
    Lineless (SessionError.refusal operation session) := by
  have htitle : Lineless operation.title := by
    cases operation <;> exact lineless_of_head rfl (by decide)
  exact (((htitle.append _).append _).append _ |>.append _).append _

theorem lineless_sessionError {e : SessionError} (hopen : e.closesSession = false) :
    Lineless e.message := by
  cases e with
  | compile | relocation => cases hopen
  | closedSession operation | relocatedSession operation | notRelocated operation =>
    exact lineless_refusal operation _
  | symbolNotFound name =>
    exact ((lineless_of_head (c := 'C') rfl (by decide)).append _).append _
  | type text => exact (lineless_of_head (c := 'T') rfl (by decide)).append _
  | doubleClose => exact lineless_of_head rfl (by decide)
  | engineStart cause => exact (lineless_of_head (c := 'F') rfl (by decide)).append _

/-- No remark names a line, whatever is quoted in it and whatever follows. -/
theorem Remark.lineless {text : String} (h : Remark text) : Lineless text := by
  induction h with
  | inFunction name message =>
    have hbegin : Lineless (sourceMark ++ " error: in function '") :=
      lineless_errorMark.append " in function '"
    exact ((hbegin.append _).append _).append _
  | redefinition name =>
    have hbegin : Lineless (sourceMark ++ " error: redefinition of '") :=
      lineless_errorMark.append " redefinition of '"
    exact (hbegin.append _).append _
  | link problem => exact lineless_linkProblem problem
  | engine cause => exact lineless_engineError cause
  | silentCompilation => exact lineless_of_head rfl (by decide)
  | silentRelocation cause => exact (lineless_of_head (c := 'r') rfl (by decide)).append _
  | session e hopen => exact lineless_sessionError hopen
  | further rest h ih => exact ih.append rest

end JitHost
