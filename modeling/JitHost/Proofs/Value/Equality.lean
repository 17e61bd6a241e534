import JitHost.Proofs.Number.Quantity
import JitHost.Proofs.Value.InsertionOrder

/-!
# Keys and raw equality

`RawEqual` says when two values are equal, apart from how the comparison goes about it: numbers by
what they are worth, all others by what they consist of. A table compares the keys that values
denote, and before that it compares what the keys feed to a hasher (`Key.fed`). All three agree on
the values that are usable as keys (`Value.Compared`), so a table does not tell equal values apart,
and it lists its entries under keys that find them (`Table.FindsKeys`).
-/

namespace JitHost

open Number Text

/-! ## Raw equality -/

/-- When two values are equal. -/
inductive RawEqual : Value → Value → Prop where
  /-- Numbers are equal when they are worth the same. -/
  | number {n m : Double} {quantity : Quantity} (hn : n.quantity? = some quantity)
      (hm : m.quantity? = some quantity) : RawEqual (.number n) (.number m)
  /-- Any other value equals only itself: a string its bytes, tables, pointers and functions what
  they are. -/
  | itself {value : Value} (hkind : value.kind ≠ .number) : RawEqual value value

namespace Value

variable {a b : Value}

/-- The comparison of values decides whether they are equal. -/
theorem same_iff_rawEqual : a.same b = true ↔ RawEqual a b := by
  constructor
  · intro h
    cases a with
    | nil =>
      cases b with
      | nil => exact .itself nofun
      | _ => cases h
    | number n =>
      cases b with
      | number m =>
        obtain ⟨quantity, hn, hm⟩ := Double.same_iff_quantity.1 h
        exact .number hn hm
      | _ => cases h
    | boolean | string | table | pointer | function =>
      -- Values of two kinds never compare as equal.
      cases b <;> try cases h
      rw [beq_iff_eq.1 h]
      exact .itself nofun
  · intro h
    cases h with
    | number hn hm => exact Double.same_iff_quantity.2 ⟨_, hn, hm⟩
    | itself hkind =>
      cases a with
      | nil => rfl
      | number n => exact absurd rfl hkind
      | _ => exact beq_self_eq_true _

/-- Of the numbers only the two zeros are equal and not the same pattern. -/
theorem rawEqual_number_iff {n m : Double} (hn : n.isNaN = false) :
    RawEqual (number n) (number m) ↔ n = m ∨ n.isZero = true ∧ m.isZero = true := by
  constructor
  · intro h
    cases h with
    | number hn hm => exact Double.eq_or_isZero_of_quantity hn hm
    | itself => exact .inl rfl
  · rintro (rfl | ⟨hzero, hzero'⟩)
    · obtain ⟨quantity, hquantity⟩ := Double.exists_quantity? hn
      exact .number hquantity hquantity
    · exact .number (Double.quantity?_of_isZero hzero) (Double.quantity?_of_isZero hzero')

end Value

/-! ## What keys feed to a hasher -/

namespace Key

variable {lies : TableId → Address} {key other : Key}

/-- Keys that feed the same are equal, unless they are tables at one address. -/
theorem eq_of_fed_eq (hfed : key.fed lies = other.fed lies)
    (hlies : ∀ s t, key = .table s → other = .table t → lies s = lies t → s = t) : key = other := by
  cases key with
  | boolean x =>
    cases other with
    | boolean y =>
      cases x <;> cases y <;> first | rfl | simp [fed] at hfed
    | _ => simp [fed] at hfed
  | table s =>
    cases other with
    | table t =>
      have hplace : lies s = lies t := by simpa [fed, UInt64.toNat_inj] using hfed
      rw [hlies s t rfl rfl hplace]
    | _ => simp [fed] at hfed
  | string x =>
    cases other with
    | string y =>
      obtain ⟨-, hbytes⟩ : x.length = y.length ∧ x = y := by simpa [fed] using hfed
      rw [hbytes]
    | _ => simp [fed] at hfed
  | number | pointer | function =>
    cases other <;> simp [fed, UInt64.toNat_inj] at hfed
    rw [hfed]

/-- A table is its own key. -/
theorem eq_table_of_ofValue {value : Value} {id : TableId} (h : ofValue value = .ok (.table id)) :
    value = .table id := by
  cases value with
  | number n =>
    obtain ⟨-, hkey⟩ := number_of_ofValue h
    cases hkey
  | table other =>
    cases h
    rfl
  | _ => cases h

end Key

/-! ## Values as keys of a table -/

/-- How two values compare that are usable as keys. -/
structure Value.Compared (a b : Value) (key other : Key) : Prop where
  left : Key.ofValue a = .ok key
  right : Key.ofValue b = .ok other
  /-- The comparison is raw equality, -/
  same_iff : a.same b = true ↔ RawEqual a b
  /-- and so is that of the keys. -/
  eq_iff : key = other ↔ RawEqual a b
  /-- Wherever tables lie, equal values feed the same to a hasher, -/
  fed_eq : RawEqual a b → ∀ lies, key.fed lies = other.fed lies
  /-- and values that are not equal do not, as long as two tables do not lie at one address. -/
  fed_ne : ∀ lies, (∀ s t, a = .table s → b = .table t → lies s = lies t → s = t) →
    key.fed lies = other.fed lies → RawEqual a b

theorem Value.compared {a b : Value} {key other : Key} (ha : Key.ofValue a = .ok key)
    (hb : Key.ofValue b = .ok other) : a.Compared b key other where
  left := ha
  right := hb
  same_iff := same_iff_rawEqual
  eq_iff := (Key.same_iff_eq ha hb).symm.trans same_iff_rawEqual
  fed_eq := by
    intro hequal lies
    rw [(Key.same_iff_eq ha hb).1 (same_iff_rawEqual.2 hequal)]
  fed_ne := by
    intro lies hlies hfed
    rw [← same_iff_rawEqual, Key.same_iff_eq ha hb]
    apply Key.eq_of_fed_eq hfed
    rintro s t rfl rfl
    exact hlies s t (Key.eq_table_of_ofValue ha) (Key.eq_table_of_ofValue hb)

namespace Table

/-- Equal values are one key to every table. -/
theorem get_congr (t : Table) {a b : Value} (h : RawEqual a b) : t.get a = t.get b := by
  cases h with
  | itself => rfl
  | @number n m _ hn hm =>
    have hn' := Double.isNaN_of_quantity? hn
    have hm' := Double.isNaN_of_quantity? hm
    have hfolded : n.foldedBits = m.foldedBits :=
      (Double.same_iff_foldedBits_eq hn' hm').1 (Double.same_iff_quantity.2 ⟨_, hn, hm⟩)
    rw [get_of_ok (Key.ofValue_number hn'), get_of_ok (Key.ofValue_number hm'), hfolded]

/-- How a table finds what it holds. -/
structure FindsKeys (t : Table) : Prop where
  /-- The value that a stored key stands for denotes this key. -/
  denotes : ∀ key ∈ t.entries.map Prod.fst, Key.ofValue key.value = .ok key
  /-- Equal values find the same. -/
  get_eq : ∀ a b, RawEqual a b → t.get a = t.get b
  /-- Every listed value is found under the key that is listed with it. -/
  listed : ∀ pair ∈ t.pairs, t.get pair.1 = pair.2

theorem Sound.findsKeys {t : Table} (h : t.Sound) : t.FindsKeys where
  denotes := by
    intro key hkey
    obtain ⟨entry, hentry, rfl⟩ := List.mem_map.1 hkey
    exact h.folded entry hentry
  get_eq := fun a b => t.get_congr
  listed := by
    intro pair hpair
    obtain ⟨entry, hentry, rfl⟩ := List.mem_map.1 hpair
    exact h.get_of_mem hentry

end Table

/-- Values that are usable as keys have keys that compare as the values do, a value is equal to the
one that its key stands for, and every table that was ever built finds its keys. -/
theorem keys_agree_with_equality :
    (∀ a b : Value, a.isKey = true → b.isKey = true → ∃ key other, a.Compared b key other) ∧
    (∀ n m : Double, n.isNaN = false →
      (RawEqual (.number n) (.number m) ↔ n = m ∨ n.isZero = true ∧ m.isZero = true)) ∧
    (∀ value : Value, value.isKey = true →
      ∃ key, Key.ofValue value = .ok key ∧ RawEqual key.value value) ∧
    ∀ requests id, ((Heap.empty.after requests).table id).FindsKeys := by
  refine ⟨fun a b ha hb => ?_, fun n m hn => Value.rawEqual_number_iff hn, fun value hvalue => ?_,
    fun requests id => ?_⟩
  · obtain ⟨key, hkey⟩ := Key.exists_ofValue ha
    obtain ⟨other, hother⟩ := Key.exists_ofValue hb
    exact ⟨key, other, Value.compared hkey hother⟩
  · obtain ⟨key, hkey⟩ := Key.exists_ofValue hvalue
    refine ⟨key, hkey, ?_⟩
    rw [← Value.same_iff_rawEqual, Key.same_iff_eq (Key.ofValue_value hkey) hkey]
  · -- A table is what its own assignments leave of the empty one.
    have hleft := Table.leftBy_empty.foldl (Heap.empty.history id requests)
    have htable : Heap.empty.table id = .empty := Heap.table_of_not_holds (Nat.not_lt_zero _)
    rw [Heap.table_after, htable]
    exact hleft.sound.findsKeys

-- Both zeros are one key, and what is listed is the positive one.
example : (Table.ofPairs [(.number ⟨0x8000000000000000⟩, .boolean true)]).pairs =
    [(.number ⟨0⟩, .boolean true)] := by decide

end JitHost
