import JitHost.Value.Table

/-!
# The heap of tables

Tables are shared, so a value names a table and the heap holds its contents.
What is assigned under one name shows wherever that name is used.
-/

namespace JitHost

/-- All tables, by name. -/
structure Heap where
  tables : Array Table

namespace Heap

/-- The heap without tables. -/
def empty : Heap := ⟨#[]⟩

instance : Inhabited Heap := ⟨empty⟩

/-- The contents of a table. -/
def table (heap : Heap) (id : TableId) : Table := heap.tables.getD id.index .empty

/-- The heap with other contents for a table. -/
def update (heap : Heap) (id : TableId) (table : Table) : Heap :=
  ⟨heap.tables.setIfInBounds id.index table⟩

/-- A new table with the given contents. -/
def create (heap : Heap) (table : Table) : TableId × Heap :=
  (⟨heap.tables.size⟩, ⟨heap.tables.push table⟩)

/-- The value under a key of a table. -/
def get (heap : Heap) (id : TableId) (key : Value) : Value := (heap.table id).get key

/-- An assignment to a table. -/
def set (heap : Heap) (id : TableId) (key value : Value) : Except KeyFault Heap :=
  ((heap.table id).set key value).map (heap.update id)

end Heap

end JitHost
