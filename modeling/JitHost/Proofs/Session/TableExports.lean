import JitHost.Engine.Scripted
import JitHost.Proofs.Session.HostRequests
import JitHost.Proofs.Session.Lifecycle
import JitHost.Proofs.Value.InsertionOrder

/-!
# Exports to tables

An export to a table of the host goes through the keys that the table had when it began, and writes
to the table on the way. It ends at the first key that names no symbol, be it that the key is not
text or that there is no such symbol (`Engine.NamesNothing`). The entries before this key are
written and the others are kept (`WritesFirst`), and since only keys are assigned that are there,
no entry moves (`exportKeys_append`).

An export to a map from names to addresses goes through the entries themselves. If the keys of a
table are the names of a map, both end at the same entry with the same result and write the same
addresses (`AgreesWithMap`).
-/

namespace JitHost

open Text

/-! ## Keys that are text -/

/-- Bytes that are read as text are how the text is written. -/
theorem ofText_of_text? {bytes : Bytes} {text : String} (h : Bytes.text? bytes = some text) :
    Bytes.ofText text = bytes := by
  unfold Bytes.text? String.fromUTF8? at h
  split at h
  · cases h
    simp [Bytes.ofText, String.toUTF8, String.fromUTF8]
  · cases h

/-- A key that is text is the value of this text. -/
theorem Key.eq_string_of_text? {key : Key} {name : String} (h : key.value.text? = some name) :
    key = .string (Bytes.ofText name) := by
  cases key with
  | string bytes => rw [ofText_of_text? h]
  | _ => cases h

section

variable [Engine σ]

/-- The address of the symbol that a key names: it must be text and the name of a symbol. -/
def Engine.addressOf? (engine : σ) (key : Value) : Option Address :=
  key.text?.bind (Engine.symbol? engine)

/-- Why a key names no symbol, with the error that says so. -/
inductive Engine.NamesNothing (engine : σ) : Value → SessionError → Prop where
  | kind {key : Value} (hkind : key.kind ≠ .string) :
      NamesNothing engine key (.type ("export: string expected, got " ++ key.kind.name))
  | notText {bytes : Bytes} (htext : Bytes.text? bytes = none) :
      NamesNothing engine (.string bytes) (.type "export: symbol names must be valid UTF-8")
  | missing {key : Value} {name : String} (hname : key.text? = some name)
      (hmissing : Engine.symbol? engine name = none) :
      NamesNothing engine key (.symbolNotFound name)

theorem Engine.addressOf?_of_text? {engine : σ} {key : Value} {name : String}
    (h : key.text? = some name) : addressOf? engine key = Engine.symbol? engine name := by
  rw [addressOf?, h, Option.bind_some]

/-- A key that is text names nothing only if the symbol is missing. -/
theorem Engine.NamesNothing.eq_of_text? {engine : σ} {key : Value} {e : SessionError}
    (h : NamesNothing engine key e) {name : String} (hname : key.text? = some name) :
    e = .symbolNotFound name := by
  cases h with
  | kind hkind =>
    cases key with
    | string bytes => exact absurd rfl hkind
    | _ => cases hname
  | notText htext =>
    rw [Value.text?, htext] at hname
    cases hname
  | missing hname' =>
    rw [hname] at hname'
    cases hname'
    rfl

end

/-! ## Entries that are overwritten -/

/-- New entries that are the old ones but for the first `count`. There each key is kept and stands
for an address, which is the new value. -/
structure WritesFirst (count : Nat) (address? : α → Option Address) (value : Address → β)
    (old new : List (α × β)) : Prop where
  keys : new.map Prod.fst = old.map Prod.fst
  written : ∀ i < count, ∃ key address, (old.map Prod.fst)[i]? = some key ∧
    address? key = some address ∧ new[i]? = some (key, value address)
  kept : ∀ i, count ≤ i → new[i]? = old[i]?

theorem writesFirst_append {address? : α → Option Address} {value : Address → β}
    {write : α × β → α × β} {before : List (α × β)}
    (hwrite : ∀ entry ∈ before, ∃ address, address? entry.1 = some address ∧
      write entry = (entry.1, value address)) (rest : List (α × β)) :
    WritesFirst before.length address? value (before ++ rest) (before.map write ++ rest) := by
  have hlength : (before.map write).length = before.length := List.length_map _
  constructor
  · rw [List.map_append, List.map_append, List.map_map]
    congr 1
    refine List.map_congr_left fun entry hentry => ?_
    obtain ⟨address, -, hnew⟩ := hwrite entry hentry
    rw [Function.comp_apply, hnew]
  · intro i hi
    obtain ⟨address, haddress, hnew⟩ := hwrite before[i] (List.getElem_mem hi)
    refine ⟨before[i].1, address, ?_, haddress, ?_⟩
    · rw [List.getElem?_map, List.getElem?_append_left hi, List.getElem?_eq_getElem hi]
      rfl
    · rw [List.getElem?_append_left (by omega), List.getElem?_map, List.getElem?_eq_getElem hi,
        Option.map_some, hnew]
  · intro i hi
    rw [List.getElem?_append_right (by omega), List.getElem?_append_right hi, hlength]

/-- An assignment to a key that is there changes its entry. -/
theorem Table.assign_append {key : Key} {value old : Value} {before rest : List (Key × Value)}
    (hnew : key ∉ before.map Prod.fst) :
    assign key value (before ++ (key, old) :: rest) = before ++ (key, value) :: rest := by
  induction before with
  | nil =>
    rw [List.nil_append, assign, if_pos rfl]
    rfl
  | cons entry before ih =>
    rw [List.map_cons, List.mem_cons, not_or] at hnew
    rw [List.cons_append, assign, if_neg (Ne.symm hnew.1), ih hnew.2]
    rfl

namespace Heap

theorem update_table (heap : Heap) (id : TableId) : heap.update id (heap.table id) = heap := by
  obtain ⟨tables⟩ := heap
  rw [update, table]
  congr 1
  by_cases h : id.index < tables.size
  · simp [Array.getD, h, Array.setIfInBounds]
  · simp [Array.setIfInBounds, h]

/-- A table can be put in the place of one of the same size, of which there is none under a name
without a table but the empty one. -/
theorem table_update_of_length {heap : Heap} {id : TableId} {entries : List (Key × Value)}
    (h : entries.length = (heap.table id).entries.length) :
    (heap.update id ⟨entries⟩).table id = ⟨entries⟩ := by
  rw [table_update]
  by_cases hholds : heap.Holds id
  · rw [if_pos ⟨rfl, hholds⟩]
  · rw [if_neg fun hboth => hholds hboth.2]
    rw [table_of_not_holds hholds] at h ⊢
    rw [List.length_eq_zero_iff.1 h]
    rfl

theorem table_update_of_ne (heap : Heap) (t : Table) {id other : TableId} (h : other ≠ id) :
    (heap.update id t).table other = heap.table other := by
  rw [table_update, if_neg fun hboth => h hboth.1.symm]

/-- The keys of tables are distinct in every heap. -/
theorem distinct_after (requests : List TableRequest) (id : TableId) :
    (((empty.after requests).table id).entries.map Prod.fst).Nodup := by
  rw [table_after]
  exact (Table.leftBy_empty.foldl _).sound.nodup

end Heap

namespace Session

/-! ## Going through the keys -/

theorem asked_nil (s : Session σ) : s.asked [] = s := by
  rw [asked, List.map_nil, List.append_nil]

theorem asked_asked (s : Session σ) (names more : List String) :
    (s.asked names).asked more = s.asked (names ++ more) := by
  simp only [asked, List.map_append, List.append_assoc]

variable [Engine σ] {s : Session σ} {engine : σ}

/-- An entry with a pointer to the symbol that its key names. -/
def pointed (engine : σ) (entry : Key × Value) : Key × Value :=
  (entry.1, .pointer ((Engine.addressOf? engine entry.1.value).getD .null))

/-- The values of keys. -/
def keysOf (entries : List (Key × Value)) : List Value := entries.map fun entry => entry.1.value

theorem length_keysOf (entries : List (Key × Value)) :
    (keysOf entries).length = entries.length := List.length_map _

theorem keysOf_append_cons (before rest : List (Key × Value)) (key : Key) (old : Value) :
    keysOf (before ++ (key, old) :: rest) = keysOf before ++ key.value :: keysOf rest :=
  List.map_append

/-- How many keys there are before the first one that names no symbol. -/
def namedKeys (engine : σ) (keys : List Value) : Nat :=
  keys.findIdx fun key => (Engine.addressOf? engine key).isNone

/-- Either all keys of entries name symbols or there is a first one that names nothing. -/
theorem named_or_missing (engine : σ) (entries : List (Key × Value)) :
    (namedKeys engine (keysOf entries) = entries.length ∧
      ∀ entry ∈ entries, (Engine.addressOf? engine entry.1.value).isSome = true) ∨
    ∃ before key old rest, entries = before ++ (key, old) :: rest ∧
      namedKeys engine (keysOf entries) = before.length ∧
      (∀ entry ∈ before, (Engine.addressOf? engine entry.1.value).isSome = true) ∧
      Engine.addressOf? engine key.value = none := by
  induction entries with
  | nil => exact .inl ⟨rfl, fun _ h => nomatch h⟩
  | cons entry entries ih =>
    obtain ⟨key, old⟩ := entry
    have hcount : namedKeys engine (keysOf ((key, old) :: entries)) =
        bif (Engine.addressOf? engine key.value).isNone then 0
        else namedKeys engine (keysOf entries) + 1 := List.findIdx_cons
    cases haddress : Engine.addressOf? engine key.value with
    | none =>
      rw [haddress] at hcount
      exact .inr ⟨[], key, old, entries, rfl, hcount, fun _ h => (nomatch h), haddress⟩
    | some address =>
      rw [haddress] at hcount
      have hfirst : (Engine.addressOf? engine key.value).isSome = true := by
        rw [haddress]
        rfl
      rcases ih with ⟨hall, hfound⟩ | ⟨before, other, held, rest, rfl, hend, hfound, hmissing⟩
      · exact .inl ⟨hcount.trans (congrArg (· + 1) hall), List.forall_mem_cons.2 ⟨hfirst, hfound⟩⟩
      · exact .inr ⟨(key, old) :: before, other, held, rest, rfl,
          hcount.trans (congrArg (· + 1) hend), List.forall_mem_cons.2 ⟨hfirst, hfound⟩, hmissing⟩

/-- An export goes on behind entries whose keys all name symbols, with pointers written to them. -/
theorem exportKeys_append (hallowed : s.state.refusal? .exportSymbols = none)
    (hengine : s.engine? = some engine) {heap : Heap} {id : TableId}
    (done : List (Key × Value)) {before rest : List (Key × Value)}
    (hfound : ∀ entry ∈ before, (Engine.addressOf? engine entry.1.value).isSome = true)
    (htable : heap.table id = ⟨done ++ before ++ rest⟩)
    (hdistinct : ((done ++ before ++ rest).map Prod.fst).Nodup) :
    exportKeys id s heap (keysOf (before ++ rest)) =
      exportKeys id (s.asked ((keysOf before).filterMap Value.text?))
        (heap.update id ⟨done ++ before.map (pointed engine) ++ rest⟩) (keysOf rest) := by
  -- What was written joins the entries that are done, and the calls pile up in the session.
  induction before generalizing s heap done with
  | nil =>
    have hsame : heap.update id ⟨done ++ [].map (pointed engine) ++ rest⟩ = heap := by
      rw [List.map_nil, ← htable, Heap.update_table]
    rw [hsame]
    simp only [keysOf, List.map_nil, List.filterMap_nil, List.nil_append, asked_nil]
  | cons entry before ih =>
    obtain ⟨key, old⟩ := entry
    obtain ⟨hfirst, hothers⟩ := List.forall_mem_cons.1 hfound
    obtain ⟨address, haddress⟩ := Option.isSome_iff_exists.1 hfirst
    obtain ⟨name, hname, hsymbol⟩ := Option.bind_eq_some_iff.1 haddress
    obtain rfl : key = .string (Bytes.ofText name) := Key.eq_string_of_text? hname
    -- The key is none of those that are done, so the assignment finds its own entry.
    have hnew : Key.string (Bytes.ofText name) ∉ done.map Prod.fst := by
      rw [List.append_assoc, List.map_append, List.nodup_append] at hdistinct
      intro hmem
      exact hdistinct.2.2 _ hmem _ List.mem_cons_self rfl
    let done' := done ++ [(Key.string (Bytes.ofText name), Value.pointer address)]
    have hkey : Key.ofValue (Value.ofText name, Value.pointer address).1 =
        .ok (.string (Bytes.ofText name)) := rfl
    have hpointer : Value.pointer address ≠ .nil := fun h => nomatch h
    have hassign : (heap.table id).assignOrSkip (.ofText name, .pointer address) =
        ⟨done' ++ before ++ rest⟩ := by
      rw [Table.assignOrSkip_of_ok hkey, Table.insert_of_ne_nil hpointer, htable]
      simp [Table.assign_append hnew, done']
    have hwritten : (heap.update id ⟨done' ++ before ++ rest⟩).table id =
        ⟨done' ++ before ++ rest⟩ := Heap.table_update_of_length (by simp [htable, done'])
    have hkeys : ((done' ++ before ++ rest).map Prod.fst).Nodup := by
      simpa [done'] using hdistinct
    have hrest := ih (s := s.asked [name]) hallowed hengine done' hothers hwritten hkeys
    have hkeysOf : keysOf ((Key.string (Bytes.ofText name), old) :: before ++ rest) =
        .ofText name :: keysOf (before ++ rest) := rfl
    rw [hkeysOf, exportKeys, Value.expectName_of_text? (v := .ofText name) hname]
    simp only [symbol_of_found hallowed hengine hsymbol, hassign]
    rw [hrest, asked_asked, Heap.update_update]
    simp [keysOf, pointed, hname, haddress, done']

/-- An export ends at a key that names nothing. Only the name of a missing symbol is asked for. -/
theorem exportKeys_of_missing (hallowed : s.state.refusal? .exportSymbols = none)
    (hengine : s.engine? = some engine) (heap : Heap) (id : TableId) {key : Value}
    (hmissing : Engine.addressOf? engine key = none) (later : List Value) :
    ∃ e, Engine.NamesNothing engine key e ∧
      exportKeys id s heap (key :: later) = (.error e, heap, s.asked key.text?.toList) := by
  cases hname : key.text? with
  | some name =>
    have hsymbol : Engine.symbol? engine name = none :=
      (Engine.addressOf?_of_text? hname).symm.trans hmissing
    refine ⟨.symbolNotFound name, .missing hname hsymbol, ?_⟩
    rw [exportKeys, Value.expectName_of_text? hname]
    simp only [symbol_of_missing hallowed hengine hsymbol, Option.toList_some]
  | none =>
    rw [Option.toList_none, asked_nil]
    cases key with
    | string bytes =>
      have htext : Bytes.text? bytes = none := hname
      refine ⟨_, .notText htext, ?_⟩
      rw [exportKeys, Value.expectName, Value.expectText, htext]
      rfl
    | _ =>
      refine ⟨_, .kind ?_, rfl⟩
      intro h
      cases h

theorem exportTable_of_allowed (hallowed : s.state.refusal? .exportSymbols = none) {heap : Heap}
    {id : TableId} {entries : List (Key × Value)} (htable : heap.table id = ⟨entries⟩) :
    s.exportTable heap (.table id) = exportKeys id s heap (keysOf entries) := by
  simp only [exportTable, check_of_allowed hallowed, Value.expectTable, htable]
  rfl

/-- An export writes to every entry if all keys name symbols. -/
theorem exportTable_of_named (hallowed : s.state.refusal? .exportSymbols = none)
    (hengine : s.engine? = some engine) {heap : Heap} {id : TableId} {entries : List (Key × Value)}
    (hfound : ∀ entry ∈ entries, (Engine.addressOf? engine entry.1.value).isSome = true)
    (htable : heap.table id = ⟨entries⟩) (hdistinct : (entries.map Prod.fst).Nodup) :
    s.exportTable heap (.table id) = (.ok (), heap.update id ⟨entries.map (pointed engine)⟩,
      s.asked ((keysOf entries).filterMap Value.text?)) := by
  rw [exportTable_of_allowed hallowed htable]
  rw [← List.append_nil entries] at htable hdistinct ⊢
  rw [exportKeys_append hallowed hengine [] hfound htable hdistinct]
  simp [keysOf, exportKeys]

/-- An export ends at the first key that names nothing. -/
theorem exportTable_of_missing (hallowed : s.state.refusal? .exportSymbols = none)
    (hengine : s.engine? = some engine) {heap : Heap} {id : TableId}
    {before rest : List (Key × Value)} {key : Key} {old : Value}
    (hfound : ∀ entry ∈ before, (Engine.addressOf? engine entry.1.value).isSome = true)
    (hmissing : Engine.addressOf? engine key.value = none)
    (htable : heap.table id = ⟨before ++ (key, old) :: rest⟩)
    (hdistinct : ((before ++ (key, old) :: rest).map Prod.fst).Nodup) :
    ∃ e, Engine.NamesNothing engine key.value e ∧ s.exportTable heap (.table id) =
      (.error e, heap.update id ⟨before.map (pointed engine) ++ (key, old) :: rest⟩,
        s.asked ((keysOf before).filterMap Value.text? ++ key.value.text?.toList)) := by
  have hgoes := exportKeys_append hallowed hengine [] hfound htable hdistinct
  obtain ⟨e, hnothing, hends⟩ := exportKeys_of_missing
    (s := s.asked ((keysOf before).filterMap Value.text?)) hallowed hengine
    (heap.update id ⟨before.map (pointed engine) ++ (key, old) :: rest⟩) id hmissing (keysOf rest)
  refine ⟨e, hnothing, ?_⟩
  rw [exportTable_of_allowed hallowed htable, hgoes, ← asked_asked]
  exact hends

/-! ## Exports -/

/-- What an export does to a table of a heap. -/
structure ExportsTable (engine : σ) (s : Session σ) (heap : Heap) (id : TableId)
    (result : Except SessionError Unit) (heap' : Heap) (s' : Session σ) : Prop where
  /-- The entries before the first key that names nothing have pointers to the symbols that their
  keys name, the others are kept. -/
  writes : WritesFirst (namedKeys engine (heap.table id).keys)
    (fun key => Engine.addressOf? engine key.value) .pointer
    (heap.table id).entries (heap'.table id).entries
  /-- All other tables are kept. -/
  others : ∀ other, other ≠ id → heap'.table other = heap.table other
  /-- The session is kept; its engine was asked for the names up to the end. -/
  session : s' = s.asked
    (((heap.table id).keys.take (namedKeys engine (heap.table id).keys + 1)).filterMap Value.text?)
  /-- All is well if every key names a symbol, -/
  success : namedKeys engine (heap.table id).keys = (heap.table id).keys.length → result = .ok ()
  /-- and else the error is that of the first key that names nothing. -/
  failure : ∀ key, (heap.table id).keys[namedKeys engine (heap.table id).keys]? = some key →
    ∃ e, result = .error e ∧ Engine.NamesNothing engine key e

theorem writesFirst_update {heap : Heap} {id : TableId} {before rest : List (Key × Value)}
    (htable : heap.table id = ⟨before ++ rest⟩)
    (hfound : ∀ entry ∈ before, (Engine.addressOf? engine entry.1.value).isSome = true) :
    WritesFirst before.length (fun key => Engine.addressOf? engine key.value) .pointer
      (heap.table id).entries
      ((heap.update id ⟨before.map (pointed engine) ++ rest⟩).table id).entries := by
  rw [Heap.table_update_of_length (by simp [htable]), htable]
  apply writesFirst_append
  intro entry hentry
  obtain ⟨address, haddress⟩ := Option.isSome_iff_exists.1 (hfound entry hentry)
  exact ⟨address, haddress, by rw [pointed, haddress, Option.getD_some]⟩

theorem exportsTable_of_allowed (hallowed : s.state.refusal? .exportSymbols = none)
    (hengine : s.engine? = some engine) {heap : Heap} {id : TableId}
    (hdistinct : ((heap.table id).entries.map Prod.fst).Nodup) :
    ExportsTable engine s heap id (s.exportTable heap (.table id)).1
      (s.exportTable heap (.table id)).2.1 (s.exportTable heap (.table id)).2.2 := by
  obtain ⟨entries, htable⟩ : ∃ entries, heap.table id = ⟨entries⟩ := ⟨_, rfl⟩
  have hkeys : (heap.table id).keys = keysOf entries := by rw [htable]; rfl
  rw [htable] at hdistinct
  rcases named_or_missing engine entries with
    ⟨hend, hfound⟩ | ⟨before, key, old, rest, rfl, hend, hfound, hmissing⟩
  · rw [exportTable_of_named hallowed hengine hfound htable hdistinct]
    have hlength := length_keysOf entries
    constructor
    · rw [hkeys, hend]
      rw [← List.append_nil entries] at htable
      have hwrites := writesFirst_update htable hfound
      rw [List.append_nil] at hwrites
      exact hwrites
    · exact fun _ hne => Heap.table_update_of_ne heap _ hne
    · rw [hkeys, hend, List.take_of_length_le (by omega)]
    · exact fun _ => rfl
    · intro key hkey
      rw [hkeys, hend, List.getElem?_eq_none (by omega)] at hkey
      cases hkey
  · obtain ⟨e, hnothing, hexport⟩ :=
      exportTable_of_missing hallowed hengine hfound hmissing htable hdistinct
    rw [hexport]
    have hsplit := keysOf_append_cons before rest key old
    have hlength := length_keysOf before
    constructor
    · rw [hkeys, hend]
      exact writesFirst_update htable hfound
    · exact fun _ hne => Heap.table_update_of_ne heap _ hne
    · rw [hkeys, hend, hsplit, ← hlength, List.take_length_add_append, List.take_succ_cons,
        List.take_zero, List.filterMap_append]
      -- The last key was asked for if it is text.
      cases hname : key.value.text? <;> simp [hname]
    · intro hall
      rw [hkeys, hend, hsplit, List.length_append, hlength, List.length_cons] at hall
      omega
    · intro key' hkey
      rw [hkeys, hend, hsplit, ← hlength, List.getElem?_append_right (Nat.le_refl _),
        Nat.sub_self, List.getElem?_cons_zero] at hkey
      cases hkey
      exact ⟨e, rfl, hnothing⟩

/-! ## Exports to maps -/

/-- What an export to a table has in common with one to a map. -/
structure AgreesWithMap (engine : σ) (s : Session σ) (heap : Heap) (id : TableId)
    (symbols : SymbolMap) : Prop where
  /-- Both succeed, or both fail with the same error. -/
  result : (s.exportSymbols symbols).1 = (s.exportTable heap (.table id)).1
  /-- Both ask the engine for the same names. -/
  session : (s.exportSymbols symbols).2.2 = (s.exportTable heap (.table id)).2.2
  /-- The map is written up to the place where the table ends to be, -/
  writes : WritesFirst (namedKeys engine (heap.table id).keys) (Engine.symbol? engine)
    (fun address => address) symbols.entries (s.exportSymbols symbols).2.1.entries
  /-- with the addresses that the table gets. -/
  addresses : ∀ i < namedKeys engine (heap.table id).keys, ∃ key name address,
    ((s.exportTable heap (.table id)).2.1.table id).entries[i]? = some (key, .pointer address) ∧
      (s.exportSymbols symbols).2.1.entries[i]? = some (name, address) ∧
      key.value.text? = some name

/-- The keys of entries are the names of others, one by one. -/
def Names (entries : List (Key × Value)) (symbols : List (String × Address)) : Prop :=
  (keysOf entries).map Value.text? = symbols.map fun symbol => some symbol.1

variable {entries : List (Key × Value)} {symbols : List (String × Address)}

theorem Names.length_eq (h : Names entries symbols) : symbols.length = entries.length := by
  simpa [length_keysOf] using (congrArg List.length h).symm

/-- A table that is split splits a map of the same names. -/
theorem Names.split {before rest : List (Key × Value)} {key : Key} {old : Value}
    (h : Names (before ++ (key, old) :: rest) symbols) :
    ∃ first name address others, symbols = first ++ (name, address) :: others ∧
      Names before first ∧ key.value.text? = some name := by
  rw [Names, keysOf_append_cons, List.map_append, List.map_cons] at h
  obtain ⟨first, later, rfl, hfirst, hlater⟩ := List.map_eq_append_iff.1 h.symm
  obtain ⟨⟨name, address⟩, others, rfl, hname, -⟩ := List.map_eq_cons_iff.1 hlater
  exact ⟨first, name, address, others, rfl, hfirst.symm, hname.symm⟩

theorem Names.filterMap_eq (h : Names entries symbols) :
    (keysOf entries).filterMap Value.text? = symbols.map Prod.fst := by
  have hall : ((keysOf entries).map Value.text?).filterMap (fun name => name) =
      (keysOf entries).filterMap Value.text? := by rw [List.filterMap_map]; rfl
  rw [← hall, h, List.filterMap_map]
  exact congrFun List.filterMap_eq_map' symbols

theorem Names.isSome (h : Names entries symbols)
    (hfound : ∀ entry ∈ entries, (Engine.addressOf? engine entry.1.value).isSome = true) :
    ∀ symbol ∈ symbols, (Engine.symbol? engine symbol.1).isSome = true := by
  intro symbol hsymbol
  have hmem : some symbol.1 ∈ (keysOf entries).map Value.text? := by
    rw [h]
    exact List.mem_map.2 ⟨symbol, hsymbol, rfl⟩
  obtain ⟨key, hkey, hname⟩ := List.mem_map.1 hmem
  obtain ⟨entry, hentry, rfl⟩ := List.mem_map.1 hkey
  rw [← Engine.addressOf?_of_text? hname]
  exact hfound entry hentry

/-- Where a table and a map of the same names are both written, they get the same address. -/
theorem Names.addresses (h : Names entries symbols) {count : Nat} {entries' : List (Key × Value)}
    {symbols' : List (String × Address)}
    (htable : WritesFirst count (fun key => Engine.addressOf? engine key.value) .pointer entries
      entries')
    (hmap : WritesFirst count (Engine.symbol? engine) (fun address => address) symbols symbols') :
    ∀ i < count, ∃ key name address, entries'[i]? = some (key, .pointer address) ∧
      symbols'[i]? = some (name, address) ∧ key.value.text? = some name := by
  intro i hi
  obtain ⟨key, address, hkey, haddress, hentry⟩ := htable.written i hi
  obtain ⟨name, found, hname, hfound, hsymbol⟩ := hmap.written i hi
  have htext : key.value.text? = some name := by
    rw [List.getElem?_map] at hkey hname
    obtain ⟨entry, hat, rfl⟩ := Option.map_eq_some_iff.1 hkey
    obtain ⟨symbol, hsame, rfl⟩ := Option.map_eq_some_iff.1 hname
    simpa [keysOf, hat, hsame] using congrArg (·[i]?) h
  rw [Engine.addressOf?_of_text? htext, hfound] at haddress
  cases haddress
  exact ⟨key, name, address, hentry, hsymbol, htext⟩

/-- Entries that are overwritten are written, if all their names are symbols. -/
theorem writesFirst_overwritten {before : List (String × Address)}
    (hfound : ∀ symbol ∈ before, (Engine.symbol? engine symbol.1).isSome = true)
    (rest : List (String × Address)) :
    WritesFirst before.length (Engine.symbol? engine) (fun address => address) (before ++ rest)
      (overwritten engine before ++ rest) := by
  apply writesFirst_append
  intro symbol hsymbol
  obtain ⟨address, haddress⟩ := Option.isSome_iff_exists.1 (hfound symbol hsymbol)
  exact ⟨address, haddress, by rw [haddress, Option.getD_some]⟩

theorem exportSymbols_of_names (hallowed : s.state.refusal? .exportSymbols = none)
    (hengine : s.engine? = some engine) {heap : Heap} {id : TableId}
    (htable : heap.table id = ⟨entries⟩) (hdistinct : (entries.map Prod.fst).Nodup)
    (hnames : Names entries symbols) :
    (s.exportSymbols ⟨symbols⟩).1 = (s.exportTable heap (.table id)).1 ∧
      (s.exportSymbols ⟨symbols⟩).2.2 = (s.exportTable heap (.table id)).2.2 ∧
      WritesFirst (namedKeys engine (keysOf entries)) (Engine.symbol? engine)
        (fun address => address) symbols (s.exportSymbols ⟨symbols⟩).2.1.entries := by
  rcases named_or_missing engine entries with
    ⟨hend, hfound⟩ | ⟨before, key, old, rest, rfl, hend, hfound, hmissing⟩
  · have hsymbols := hnames.isSome hfound
    rw [exportTable_of_named hallowed hengine hfound htable hdistinct,
      exportSymbols_of_found hallowed hengine hsymbols, hend, ← hnames.length_eq]
    refine ⟨rfl, ?_, ?_⟩
    · rw [hnames.filterMap_eq]
    · simpa using writesFirst_overwritten hsymbols []
  · obtain ⟨first, name, address, others, rfl, hfirst, hname⟩ := hnames.split
    have hsymbols := hfirst.isSome hfound
    have hsymbol : Engine.symbol? engine name = none :=
      (Engine.addressOf?_of_text? hname).symm.trans hmissing
    obtain ⟨e, hnothing, hexport⟩ :=
      exportTable_of_missing hallowed hengine hfound hmissing htable hdistinct
    rw [hexport, exportSymbols_of_missing hallowed hengine hsymbols hsymbol, hend,
      ← hfirst.length_eq]
    refine ⟨?_, ?_, ?_⟩
    · rw [hnothing.eq_of_text? hname]
    · rw [hfirst.filterMap_eq, hname]
      rfl
    · exact writesFirst_overwritten hsymbols _

theorem agreesWithMap_of_names (hallowed : s.state.refusal? .exportSymbols = none)
    (hengine : s.engine? = some engine) {heap : Heap} {id : TableId}
    (hdistinct : ((heap.table id).entries.map Prod.fst).Nodup) {symbols : SymbolMap}
    (hnames : Names (heap.table id).entries symbols.entries) :
    AgreesWithMap engine s heap id symbols := by
  have htable := (exportsTable_of_allowed hallowed hengine hdistinct).writes
  obtain ⟨hresult, hsession, hmap⟩ :=
    exportSymbols_of_names hallowed hengine rfl hdistinct hnames
  exact ⟨hresult, hsession, hmap, hnames.addresses htable hmap⟩

/-! ## Every relocated session -/

/-- What an export from a session does to a table, and to every map of the same names. -/
def ExportsPrefix (s : Session σ) (heap : Heap) (id : TableId) : Prop :=
  ∃ engine, s.engine? = some engine ∧
    ExportsTable engine s heap id (s.exportTable heap (.table id)).1
      (s.exportTable heap (.table id)).2.1 (s.exportTable heap (.table id)).2.2 ∧
    ∀ symbols : SymbolMap, Names (heap.table id).entries symbols.entries →
      AgreesWithMap engine s heap id symbols

/-- An export from any relocated session, with any engine, writes the entries of a table up to the
first key that names no symbol and nothing else, and an export to a map of the same names does the
same. Keys are always distinct (`Heap.distinct_after`), and an export keeps them. -/
theorem table_exported (engine : σ) (requests : List HostRequest)
    (hrelocated : ((Session.new engine).serveAll requests).state = .relocated) (heap : Heap)
    (id : TableId) (hdistinct : ((heap.table id).entries.map Prod.fst).Nodup) :
    ExportsPrefix ((Session.new engine).serveAll requests) heap id := by
  obtain ⟨plain, hplain⟩ := exists_serveAll_eq_after (Session.new engine) requests
  rw [hplain] at hrelocated ⊢
  have hallowed : ((Session.new engine).after plain).state.refusal? .exportSymbols = none := by
    rw [hrelocated]
    rfl
  obtain ⟨after, hengine⟩ :=
    (consistent_after engine plain).exists_engine (isClosed_of_allowed hallowed)
  exact ⟨after, hengine, exportsTable_of_allowed hallowed hengine hdistinct,
    fun _ hnames => agreesWithMap_of_names hallowed hengine hdistinct hnames⟩

/-- A table with a name that is no symbol behind one that is. -/
theorem table_exported_partial :
    let engine : ScriptedEngine := ⟨[], .quiet, 2, .quiet, [("add", some 1)], none⟩
    let requests : List HostRequest := [.plain (.compile ""), .plain (.relocate (.fixed 4096))]
    let heap := Heap.empty.after
      [.build [(.ofText "add", .boolean true), (.ofText "sub", .boolean true)]]
    ((Session.new engine).serveAll requests).state = .relocated ∧
      ((heap.table ⟨0⟩).entries.map Prod.fst).Nodup ∧
      ExportsPrefix ((Session.new engine).serveAll requests) heap ⟨0⟩ ∧
      ((((Session.new engine).serveAll requests).exportTable heap
        (.table ⟨0⟩)).2.1.table ⟨0⟩).pairs =
          [(.ofText "add", .pointer 4097), (.ofText "sub", .boolean true)] := by
  intro engine requests heap
  have hrelocated : ((Session.new engine).serveAll requests).state = .relocated := rfl
  have hdistinct : ((heap.table ⟨0⟩).entries.map Prod.fst).Nodup := Heap.distinct_after _ ⟨0⟩
  exact ⟨hrelocated, hdistinct, table_exported engine requests hrelocated heap ⟨0⟩ hdistinct, rfl⟩

end Session

end JitHost
