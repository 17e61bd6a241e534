import JitHost.Value.Basic

/-!
# Tables

A table maps keys to values and lists its entries in the order in which their
keys were first assigned. Assigning to a present key keeps its place, assigning
nil removes it. Every value but nil and what is not a number is a key; both
zeros are one key.
-/

namespace JitHost

open Number Text

/-- Why a value is not a key. -/
inductive KeyFault where
  | nil
  | notANumber
  deriving DecidableEq, Repr

/-- The word for an unusable key. -/
def KeyFault.name : KeyFault → String
  | .nil => "nil"
  | .notANumber => "NaN"

/-- A value usable as a key. Numbers are kept by their pattern. -/
inductive Key where
  | boolean (b : Bool)
  | number (bits : UInt64)
  | string (bytes : Bytes)
  | table (id : TableId)
  | pointer (address : Address)
  | function (entry : Address)
  deriving DecidableEq

/-- What a hasher is fed at a time. -/
inductive Fed where
  | kind (tag : Nat)
  | byte (b : UInt8)
  | word (w : UInt64)
  | size (n : Nat)
  | bytes (bytes : Bytes)
  deriving DecidableEq

namespace Key

/-- The key that a value denotes. -/
def ofValue : Value → Except KeyFault Key
  | .nil => .error .nil
  | .number n =>
      if n.isNaN then .error .notANumber
      else .ok (.number (if n.isZero then 0 else n.bits))
  | .boolean b => .ok (.boolean b)
  | .string bytes => .ok (.string bytes)
  | .table id => .ok (.table id)
  | .pointer address => .ok (.pointer address)
  | .function entry => .ok (.function entry)

/-- The value that a key stands for. -/
def value : Key → Value
  | boolean b => .boolean b
  | number bits => .number ⟨bits⟩
  | string bytes => .string bytes
  | table id => .table id
  | pointer address => .pointer address
  | function entry => .function entry

/-- What a key feeds to a hasher, where tables lie at the given addresses: a mark for its kind, then
the pattern of a number, the length and the bytes of a string, or an address. -/
def fed (lies : TableId → Address) : Key → List Fed
  | boolean b => [.kind 0, .byte (if b then 1 else 0)]
  | number bits => [.kind 1, .word bits]
  | string bytes => [.kind 2, .size bytes.length, .bytes bytes]
  | pointer address => [.kind 3, .size address.toNat]
  | function entry => [.kind 4, .size entry.toNat]
  | table id => [.kind 5, .size (lies id).toNat]

end Key

/-- A table: its entries in the order of their first assignment. -/
structure Table where
  entries : List (Key × Value)

namespace Table

/-- The table without entries. -/
def empty : Table := ⟨[]⟩

instance : Inhabited Table := ⟨empty⟩

/-- The entry of a key. -/
def find? (t : Table) (key : Key) : Option Value := t.entries.lookup key

/-- The entries with `value` assigned to `key`, which takes the last place if it
is new. -/
def assign (key : Key) (value : Value) : List (Key × Value) → List (Key × Value)
  | [] => [(key, value)]
  | entry :: rest =>
      if entry.1 = key then (key, value) :: rest else entry :: assign key value rest

/-- The table after an assignment to a key; nil removes it. -/
def insert (t : Table) (key : Key) (value : Value) : Table :=
  match value with
  | .nil => ⟨t.entries.filter fun entry => entry.1 ≠ key⟩
  | value => ⟨assign key value t.entries⟩

/-- The value under a key, nil if there is none or the key is unusable. -/
def get (t : Table) (key : Value) : Value :=
  match Key.ofValue key with
  | .ok key => (t.find? key).getD .nil
  | .error _ => .nil

/-- The table after an assignment, refused if the key is unusable. -/
def set (t : Table) (key value : Value) : Except KeyFault Table :=
  (Key.ofValue key).map fun key => t.insert key value

/-- The number of entries. -/
def size (t : Table) : Nat := t.entries.length

/-- The keys in order. -/
def keys (t : Table) : List Value := t.entries.map fun entry => entry.1.value

/-- The keys with their values, in order. -/
def pairs (t : Table) : List (Value × Value) :=
  t.entries.map fun entry => (entry.1.value, entry.2)

/-- The table after an assignment that is passed over if its key is unusable. -/
def assignOrSkip (t : Table) (pair : Value × Value) : Table :=
  match t.set pair.1 pair.2 with
  | .ok t => t
  | .error _ => t

/-- The table built by a list of assignments. -/
def ofPairs (pairs : List (Value × Value)) : Table := pairs.foldl assignOrSkip empty

end Table

end JitHost
