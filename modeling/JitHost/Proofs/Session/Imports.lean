import JitHost.Engine.Scripted
import JitHost.Proofs.Session.HostRequests
import JitHost.Proofs.Session.Lifecycle

/-!
# Imports from tables

An import looks at all symbols before it registers one. The host gives them in a table, where the
key of an entry has to be text and the value a pointer; the first entry of which this is not so is
what the import fails with (`Misfit`). Symbols that are all there may still have an empty name, and
then none is registered either. `ImportVerdict` says which of the three it is for the entries of a
table, and some verdict is right for every table (`exists_importVerdict`).

A session that can import does what the verdict says (`import_all_or_nothing`): its engine is told
of every symbol once, in the order of the table, or the session stays as it is.
-/

namespace JitHost

open Text

/-! ## Entries of a table -/

/-- The symbol that an entry of a table stands for: its key is the name, its value a pointer to the
address. -/
def symbolOf? (pair : Value × Value) : Option (String × Address) :=
  pair.1.text?.bind fun name => pair.2.pointer?.map fun address => (name, address)

/-- What is wrong with an entry that stands for no symbol. The value is looked at if the key is a
name. -/
inductive Misfit : Value × Value → ArgumentFault → Prop where
  | kind {key value : Value} (hkind : key.kind ≠ .string) :
      Misfit (key, value) (.kind .importSymbols .string key.kind)
  | notText {bytes : Bytes} {value : Value} (htext : Bytes.text? bytes = none) :
      Misfit (.string bytes, value) (.symbolText .importSymbols)
  | notAPointer {key value : Value} {name : String} (hname : key.text? = some name)
      (hkind : value.kind ≠ .pointer) : Misfit (key, value) (.notAPointer name value.kind)

/-- What the entries of a table come to: symbols to register, one for each entry and in their order,
or else the fault of the first entry that stands for no symbol, or else a name that is empty. -/
inductive ImportVerdict (pairs : List (Value × Value)) :
    Except ArgumentFault (List (String × Address)) → Prop where
  | accepted {symbols : List (String × Address)} (hpairs : pairs.map symbolOf? = symbols.map some)
      (hnamed : ∀ symbol ∈ symbols, symbol.1 ≠ "") : ImportVerdict pairs (.ok symbols)
  | misfit {before rest : List (Value × Value)} {pair : Value × Value} {fault : ArgumentFault}
      (hpairs : pairs = before ++ pair :: rest)
      (hbefore : ∀ entry ∈ before, (symbolOf? entry).isSome = true) (hfault : Misfit pair fault) :
      ImportVerdict pairs (.error fault)
  | unnamed {symbols : List (String × Address)} (hpairs : pairs.map symbolOf? = symbols.map some)
      (hunnamed : ∃ symbol ∈ symbols, symbol.1 = "") : ImportVerdict pairs (.error .emptyName)

section

variable {pair : Value × Value} {pairs : List (Value × Value)} {symbol : String × Address}
  {fault : ArgumentFault}

theorem Value.pointer?_eq_some_iff {v : Value} {address : Address} :
    v.pointer? = some address ↔ v = .pointer address := by
  cases v <;> simp [pointer?]

theorem symbolOf?_eq_some_iff : symbolOf? pair = some symbol ↔
    pair.1.text? = some symbol.1 ∧ pair.2 = .pointer symbol.2 := by
  obtain ⟨name, address⟩ := symbol
  simp only [symbolOf?, Option.bind_eq_some_iff, Option.map_eq_some_iff,
    Value.pointer?_eq_some_iff, Prod.mk.injEq]
  constructor
  · rintro ⟨_, hname, _, hvalue, rfl, rfl⟩
    exact ⟨hname, hvalue⟩
  · rintro ⟨hname, hvalue⟩
    exact ⟨name, hname, address, hvalue, rfl, rfl⟩

/-- An entry that stands for no symbol is a misfit. -/
theorem exists_misfit (h : symbolOf? pair = none) : ∃ fault, Misfit pair fault := by
  obtain ⟨key, value⟩ := pair
  cases hname : key.text? with
  | some name =>
    refine ⟨_, .notAPointer hname ?_⟩
    intro hkind
    cases value with
    | pointer address =>
      have hsymbol : symbolOf? (key, .pointer address) = some (name, address) :=
        symbolOf?_eq_some_iff.2 ⟨hname, rfl⟩
      rw [hsymbol] at h
      cases h
    | _ => cases hkind
  | none =>
    cases key with
    | string bytes => exact ⟨_, .notText hname⟩
    | _ => exact ⟨_, .kind fun hkind => nomatch hkind⟩

theorem importEntry_of_symbolOf? (h : symbolOf? pair = some symbol) :
    importEntry pair = .ok symbol := by
  obtain ⟨hname, hvalue⟩ := symbolOf?_eq_some_iff.1 h
  simp only [importEntry, Value.expectName_of_text? hname, hvalue]

/-- A misfit is refused with its fault. -/
theorem Misfit.importEntry_eq (h : Misfit pair fault) :
    importEntry pair = .error (.ofArgument fault) := by
  cases h with
  | @kind key value hkind =>
    cases key with
    | string bytes => exact absurd rfl hkind
    | _ => rfl
  | notText htext => simp only [importEntry, Value.expectName, Value.expectText, htext]
  | @notAPointer key value name hname hkind =>
    simp only [importEntry, Value.expectName_of_text? hname]
    cases value with
    | pointer address => exact absurd rfl hkind
    | _ => rfl

/-! ## All entries -/

theorem importEntries_of_symbols {symbols : List (String × Address)}
    (h : pairs.map symbolOf? = symbols.map some) : importEntries pairs = .ok symbols := by
  induction pairs generalizing symbols with
  | nil =>
    rw [List.map_nil] at h
    rw [List.map_eq_nil_iff.1 h.symm]
    rfl
  | cons pair rest ih =>
    cases symbols with
    | nil => cases h
    | cons symbol symbols =>
      rw [List.map_cons, List.map_cons, List.cons.injEq] at h
      rw [importEntries, importEntry_of_symbolOf? h.1, ih h.2]
      rfl

/-- The first misfit is what all entries are refused for, whatever comes behind it. -/
theorem importEntries_of_misfit {before rest : List (Value × Value)}
    (hbefore : ∀ entry ∈ before, (symbolOf? entry).isSome = true) (hfault : Misfit pair fault) :
    importEntries (before ++ pair :: rest) = .error (.ofArgument fault) := by
  induction before with
  | nil => rw [List.nil_append, importEntries, hfault.importEntry_eq]
  | cons entry before ih =>
    obtain ⟨hfirst, hothers⟩ := List.forall_mem_cons.1 hbefore
    obtain ⟨symbol, hsymbol⟩ := Option.isSome_iff_exists.1 hfirst
    rw [List.cons_append, importEntries, importEntry_of_symbolOf? hsymbol, ih hothers]
    rfl

/-- Either all entries stand for symbols or there is a first misfit. -/
theorem symbols_or_misfit (pairs : List (Value × Value)) :
    (∃ symbols : List (String × Address), pairs.map symbolOf? = symbols.map some) ∨
      ∃ before pair rest fault, pairs = before ++ pair :: rest ∧
        (∀ entry ∈ before, (symbolOf? entry).isSome = true) ∧ Misfit pair fault := by
  induction pairs with
  | nil => exact .inl ⟨[], rfl⟩
  | cons pair pairs ih =>
    cases hsymbol : symbolOf? pair with
    | none =>
      obtain ⟨fault, hfault⟩ := exists_misfit hsymbol
      exact .inr ⟨[], pair, pairs, fault, rfl, fun _ h => (nomatch h), hfault⟩
    | some symbol =>
      have hfirst : (symbolOf? pair).isSome = true := by rw [hsymbol]; rfl
      rcases ih with ⟨symbols, hsymbols⟩ | ⟨before, other, rest, fault, rfl, hbefore, hfault⟩
      · refine .inl ⟨symbol :: symbols, ?_⟩
        rw [List.map_cons, List.map_cons, hsymbol, hsymbols]
      · exact .inr ⟨pair :: before, other, rest, fault, rfl,
          List.forall_mem_cons.2 ⟨hfirst, hbefore⟩, hfault⟩

theorem exists_importVerdict (pairs : List (Value × Value)) :
    ∃ verdict, ImportVerdict pairs verdict := by
  rcases symbols_or_misfit pairs with ⟨symbols, hsymbols⟩ |
    ⟨before, pair, rest, fault, hpairs, hbefore, hfault⟩
  · by_cases hunnamed : ∃ symbol ∈ symbols, symbol.1 = ""
    · exact ⟨_, .unnamed hsymbols hunnamed⟩
    · refine ⟨_, .accepted hsymbols ?_⟩
      intro symbol hsymbol hname
      exact hunnamed ⟨symbol, hsymbol, hname⟩
  · exact ⟨_, .misfit hpairs hbefore hfault⟩

end

/-! ## Sessions -/

/-- A session in which a source can be compiled or a symbol imported. -/
theorem SessionState.import_allowed {state : SessionState}
    (h : state = .fresh ∨ state = .compiled) : state.refusal? .importSymbols = none := by
  rcases h with rfl | rfl
  · rfl
  · rfl

namespace Session

variable [Engine σ] {s : Session σ} {engine : σ}

/-- The answer to an import and the session after it, whose engine was told of all symbols, or which
is as it was. -/
def importedAs (s : Session σ) (engine : σ) :
    Except ArgumentFault (List (String × Address)) → Except SessionError Unit × Session σ
  | .ok symbols => (.ok (), s.told engine symbols)
  | .error fault => (.error (.type fault.message), s)

/-- The entries of a table are imported as their verdict says. -/
theorem importTable_of_verdict (hallowed : s.state.refusal? .importSymbols = none)
    (hengine : s.engine? = some engine) {heap : Heap} {id : TableId}
    {verdict : Except ArgumentFault (List (String × Address))}
    (hverdict : ImportVerdict (heap.table id).pairs verdict) :
    s.importTable heap (.table id) = s.importedAs engine verdict := by
  simp only [importTable, check_of_allowed hallowed, Value.expectTable]
  cases hverdict with
  | accepted hpairs hnamed =>
    rw [importEntries_of_symbols hpairs]
    exact importSymbols_of_named hallowed hengine hnamed
  | misfit hpairs hbefore hfault =>
    rw [hpairs, importEntries_of_misfit hbefore hfault]
    rfl
  | unnamed hpairs hunnamed =>
    rw [importEntries_of_symbols hpairs]
    exact importSymbols_of_unnamed hallowed hengine hunnamed

/-- An import registers everything that it is given or nothing at all. The tables are only read. -/
structure ImportsAllOrNothing (s : Session σ) (engine : σ) : Prop where
  /-- Symbols that all have names are registered one by one, in their order. -/
  named : ∀ symbols : List (String × Address), (∀ symbol ∈ symbols, symbol.1 ≠ "") →
    s.importSymbols symbols = s.importedAs engine (.ok symbols)
  /-- If one of them has an empty name, then nothing is done. -/
  unnamed : ∀ symbols : List (String × Address), (∃ symbol ∈ symbols, symbol.1 = "") →
    s.importSymbols symbols = s.importedAs engine (.error .emptyName)
  /-- The entries of a table are registered if all of them are symbols with names, and if not then
  the answer is the first misfit, or else the empty name. -/
  table : ∀ heap id verdict, ImportVerdict (heap.table id).pairs verdict →
    s.importTable heap (.table id) = s.importedAs engine verdict
  /-- There is such a verdict on every table. -/
  exists_verdict : ∀ (heap : Heap) id, ∃ verdict, ImportVerdict (heap.table id).pairs verdict

/-- Before it is relocated, every session that is reached from a new one imports all or nothing. -/
theorem import_all_or_nothing (engine : σ) (requests : List HostRequest)
    (hstate : ((Session.new engine).serveAll requests).state = .fresh ∨
      ((Session.new engine).serveAll requests).state = .compiled) :
    ∃ present, ((Session.new engine).serveAll requests).engine? = some present ∧
      ((Session.new engine).serveAll requests).ImportsAllOrNothing present := by
  have hallowed := SessionState.import_allowed hstate
  obtain ⟨plain, hplain⟩ := exists_serveAll_eq_after (Session.new engine) requests
  rw [hplain] at hallowed ⊢
  obtain ⟨present, hpresent⟩ :=
    (consistent_after engine plain).exists_engine (isClosed_of_allowed hallowed)
  refine ⟨present, hpresent, ?_, ?_, ?_, ?_⟩
  · intro symbols hnamed
    exact importSymbols_of_named hallowed hpresent hnamed
  · intro symbols hunnamed
    exact importSymbols_of_unnamed hallowed hpresent hunnamed
  · intro heap id verdict hverdict
    exact importTable_of_verdict hallowed hpresent hverdict
  · intro heap id
    exact exists_importVerdict (heap.table id).pairs

/-- A table with an empty name and, behind it, a number: the number is what is refused, after a
source was compiled. -/
theorem import_all_or_nothing_misfit :
    let s := (Session.new (⟨[], .quiet, 2, .quiet, [], none⟩ : ScriptedEngine)).serveAll
      [.compile (.ofText "f")]
    let heap : Heap := ⟨#[⟨[(.string [], .pointer 16), (.string [97], .number ⟨0⟩)]⟩]⟩
    (s.state = .fresh ∨ s.state = .compiled) ∧
      s.importTable heap (.table ⟨0⟩) =
        (.error (.type "import: 'a' must map to a pointer, got number"), s) := by
  intro s heap
  have hstate : s.state = .fresh ∨ s.state = .compiled := .inr rfl
  refine ⟨hstate, ?_⟩
  obtain ⟨present, -, himports⟩ := import_all_or_nothing _ _ hstate
  have hname : (Value.string [97]).text? = some "a" := by decide
  have hempty : ∀ entry ∈ [(Value.string [], Value.pointer 16)],
      (symbolOf? entry).isSome = true := by
    intro entry hentry
    rw [List.mem_singleton.1 hentry]
    decide
  have hkind : (Value.number ⟨0⟩).kind ≠ .pointer := by decide
  exact himports.table heap ⟨0⟩ _ (.misfit rfl hempty (.notAPointer hname hkind))

end Session

end JitHost
