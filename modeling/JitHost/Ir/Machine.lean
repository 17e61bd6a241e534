import JitHost.Engine.Routine
import JitHost.Host.Api
import JitHost.Ir.Code
import JitHost.Ir.Evaluation
import JitHost.Ir.Memory

/-!
# Running code

A machine runs loaded functions one instruction at a time. It has a stack of
activations, the memory, and the host on which the callbacks work. A call goes by
address: to a loaded function, a callback of the host, a built-in routine or
something else outside. Running takes fuel; a machine without any is stuck, as is
one that reads where there is no memory.
-/

namespace JitHost.Ir

open Number

/-- What a call hands over in either direction: integers and floating-point
numbers, each in their order. -/
structure Registers where
  ints : List Nat
  floats : List Nat

namespace Registers

/-- No values. -/
def none : Registers := ⟨[], []⟩

/-- One integer. -/
def int (pattern : Nat) : Registers := ⟨[pattern], []⟩

/-- Values of the given types. -/
def ofValues (values : List (Ty × Nat)) : Registers where
  ints := (values.filter fun value => value.1.isInt).map Prod.snd
  floats := (values.filter fun value => value.1.isFloat).map Prod.snd

/-- The values that something with these types finds. -/
def values : List Ty → Registers → List Nat
  | [], _ => []
  | ty :: rest, r =>
      if ty.isInt then ty.cut (r.ints.headD 0) :: values rest { r with ints := r.ints.tail }
      else ty.cut (r.floats.headD 0) :: values rest { r with floats := r.floats.tail }

/-- The 64-bit integer at a position. -/
def word (r : Registers) (k : Nat) : Nat := r.ints.getD k 0

/-- The signed 32-bit integer at a position. -/
def half (r : Registers) (k : Nat) : Int := Ty.i32.toInt (r.word k)

end Registers

/-- What code can call: the loaded functions by their addresses, and what else
lies outside. -/
structure Program where
  functions : List (Address × Loaded)
  foreign : Address → Option (Registers → Registers)

/-- What code works on. -/
structure World where
  memory : Memory
  host : Host

/-! ## Callbacks -/

/-- Writes a number to an address unless it is the null pointer. -/
def World.report? (w : World) (address count value : Nat) : Option World :=
  if address = 0 then some w
  else (w.memory.write? address (littleEndian count value)).map fun memory => { w with memory }

/-- The text at an address; the null pointer has none. -/
def World.text? (w : World) (address : Nat) : Option (Option (List UInt8)) :=
  if address = 0 then some none else (w.memory.text? address).map some

/-- A truth value as an integer. -/
def ofBool (b : Bool) : Nat := if b then 1 else 0

/-- A word for an object behind a value. A string is handed out. -/
def World.place (w : World) : Identity → Nat × World
  | .none => (0, w)
  | .address address => (address.toNat, w)
  | .table id => (0x620000000000 + 16 * id.index, w)
  | .text bytes =>
      let (address, memory) := w.memory.handOut bytes
      (address, { w with memory })

/-- Runs a callback. The first argument is always the host itself. -/
def Callback.run? (callback : Callback) (r : Registers) (w : World) :
    Option (Registers × World) :=
  let h := w.host
  let give (pattern : Int) (h : Host) : Option (Registers × World) :=
    some (.int (Ty.i32.ofInt pattern), { w with host := h })
  let done (h : Host) : Option (Registers × World) := some (.none, { w with host := h })
  match callback with
  | .checkStack => give (ofBool (h.checkStack (r.half 1))) h
  | .pushNumber => done (h.push (.number (Double.ofPattern (r.floats.headD 0))))
  | .toNumber => do
      let (n, good) := h.toNumber (r.half 1)
      let w ← w.report? (r.word 2) 4 (ofBool good)
      return (⟨[], [n.pattern]⟩, w)
  | .setTop => done (h.setTop (r.half 1))
  | .getTop => give h.top h
  | .error => do
      let message ← w.text? (r.word 1)
      let (status, h) := h.error message
      give status h
  | .pushBoolean => done (h.push (.boolean (r.half 1 ≠ 0)))
  | .toBoolean => give (ofBool (h.toBoolean (r.half 1))) h
  | .toText => do
      let (text, h) := h.toText (r.half 1)
      let w ← { w with host := h }.report? (r.word 2) 8 ((text.map List.length).getD 0)
      match text with
      | none => return (.int 0, w)
      | some bytes =>
          let (address, w) := w.place (.text bytes)
          return (.int address, w)
  | .toPointer =>
      let (address, w) := w.place (h.identityAt (r.half 1))
      some (.int address, w)
  | .pushString => do
      let text ← w.text? (r.word 1)
      let (copy, h) := h.pushString text
      let w := { w with host := h }
      match copy with
      | none => return (.int 0, w)
      | some bytes =>
          let (address, w) := w.place (.text bytes)
          return (.int address, w)
  | .getField => do
      let (kind, h) := h.getTextField (r.half 1) (← w.text? (r.word 2))
      give kind.tag h
  | .setField => do done (h.setTextField (r.half 1) (← w.text? (r.word 2)))
  | .pushNil => done (h.push .nil)
  | .rawGetPointer =>
      let (kind, h) := h.getPointerField (r.half 1) (UInt64.ofNat (r.word 2))
      give kind.tag h
  | .rawSetPointer => done (h.setPointerField (r.half 1) (UInt64.ofNat (r.word 2)))
  | .pushValue => done (h.pushValue (r.half 1))
  | .createTable => done h.createTable
  | .replace => done (h.replace (r.half 1))

/-- Runs a built-in routine. -/
def Routine.run? (routine : Routine) (r : Registers) (w : World) :
    Option (Registers × World) :=
  let move : Option (Registers × World) := do
    let bytes ← if r.word 2 = 0 then some [] else w.memory.read? (r.word 1) (r.word 2)
    let memory ← if bytes = [] then some w.memory else w.memory.write? (r.word 0) bytes
    return (.int (r.word 0), { w with memory })
  match routine with
  | .round format _ | .fused format =>
      (routine.onNumbers? ((r.floats.take (if routine = .fused format then 3 else 1)).map
        (· % 2 ^ (1 + format.exponentBits + format.precision - 1)))).map
          fun pattern => (⟨[], [pattern]⟩, w)
  | .copy | .move => move
  | .fill => do
      let bytes := List.replicate (r.word 2) (UInt8.ofNat (r.word 1))
      let memory ← if bytes = [] then some w.memory else w.memory.write? (r.word 0) bytes
      return (.int (r.word 0), { w with memory })
  | .compare => do
      let a ← if r.word 2 = 0 then some [] else w.memory.read? (r.word 0) (r.word 2)
      let b ← if r.word 2 = 0 then some [] else w.memory.read? (r.word 1) (r.word 2)
      return (.int (Ty.i32.ofInt (compareBytes a b)), w)

/-! ## Activations -/

/-- An activation: the function, the instructions of the block that are still to
come, the patterns of values, the addresses of slots, the place of the next slot
before it was called, and the values that wait for the results of a call. -/
structure Activation where
  loaded : Loaded
  body : List Instruction
  values : Array Nat
  slots : List (Nat × Nat)
  slotPlace : Nat
  waiting : List Nat

namespace Activation

variable (a : Activation)

/-- The pattern of a value. -/
def value (x : Nat) : Nat := a.values.getD x 0

/-- The type of a value. -/
def type (x : Nat) : Ty := a.loaded.types.getD x .i64

/-- The activation with values defined. -/
def define : List Nat → List Nat → Activation → Activation
  | x :: xs, pattern :: patterns, a =>
      define xs patterns { a with values := a.values.setIfInBounds x pattern }
  | _, _, a => a

/-- Values with their types. -/
def typed (xs : List Nat) : List (Ty × Nat) := xs.map fun x => (a.type x, a.value x)

/-- The activation at the begin of a block. -/
def goto? (target : BlockCall) : Option Activation :=
  (a.loaded.function.block? target.block).map fun block =>
    define (block.params.map Prod.fst) (target.args.map a.value) { a with body := block.body }

/-- The address of a reference. -/
def addressOf (reference : Reference) : Nat :=
  ((a.loaded.addresses.lookup reference).getD .null).toNat

/-- The address of a place in a slot. -/
def slotAddress (slot : Nat) (offset : Int) : Nat :=
  Ty.i64.ofInt ((a.slots.lookup slot).getD 0 + offset)

end Activation

/-- Slots of a function, laid out in memory. -/
def openSlots : List (Nat × Nat) → Memory → List (Nat × Nat) × Memory
  | [], m => ([], m)
  | (slot, size) :: rest, m =>
      let (address, m) := m.pushSlot size
      let (slots, m) := openSlots rest m
      ((slot, address) :: slots, m)

/-- The activation of a function that is called with the given registers. -/
def Activation.enter? (loaded : Loaded) (r : Registers) (m : Memory) :
    Option (Activation × Memory) :=
  match loaded.function.blocks with
  | [] => none
  | entry :: _ =>
      let (slots, after) := openSlots loaded.function.slots m
      let fresh : Activation :=
        ⟨loaded, entry.body, Array.replicate loaded.valueCount 0, slots, m.nextSlot, []⟩
      some (Activation.define (entry.params.map Prod.fst)
        (r.values loaded.function.signature.params) fresh, after)

/-! ## The machine -/

/-- A machine at work: the running activation, those that wait, the latest first,
and what they work on. -/
structure Machine where
  running : Activation
  callers : List Activation
  world : World

/-- What a step leads to. -/
inductive Progress where
  | continues (machine : Machine)
  | finished (results : Registers) (world : World)
  | stuck

namespace Machine

variable (program : Program) (m : Machine)

/-- The machine after an instruction that gives the results `patterns`. -/
def define (results patterns : List Nat) : Progress :=
  .continues { m with running := Activation.define results patterns m.running }

/-- Bytes read as a value of a type. -/
def load (results : List Nat) (ty : Ty) (address : Nat) : Progress :=
  match m.world.memory.read? address (ty.width / 8) with
  | some bytes => m.define results [ofLittleEndian bytes]
  | none => .stuck

/-- A value of a type written to memory. -/
def store (ty : Ty) (pattern address : Nat) : Progress :=
  match m.world.memory.write? address (littleEndian (ty.width / 8) pattern) with
  | some memory => .continues { m with world := { m.world with memory } }
  | none => .stuck

/-- What is outside of the loaded functions, run at once. -/
def callOutside? (address : Address) (r : Registers) : Option (Registers × World) :=
  match Callback.at? address, JitHost.Routine.at? address, program.foreign address with
  | some callback, _, _ => Callback.run? callback r m.world
  | none, some routine, _ => Routine.run? routine r m.world
  | none, none, some function => some (function r, m.world)
  | none, none, none => none

/-- A call of what lies at an address. -/
def call (results : List Nat) (signature : Signature) (target : Nat) (args : List Nat) :
    Progress :=
  let r := Registers.ofValues (m.running.typed args)
  let address := UInt64.ofNat target
  match program.functions.lookup address with
  | some loaded =>
      match Activation.enter? loaded r m.world.memory with
      | some (activation, memory) =>
          .continues ⟨activation, { m.running with waiting := results } :: m.callers,
            { m.world with memory }⟩
      | none => .stuck
  | none =>
      match m.callOutside? program address r with
      | some (back, world) =>
          { m with world }.define results (back.values signature.results)
      | none => .stuck

/-- The end of the running activation. -/
def leave (args : List Nat) : Progress :=
  let r := Registers.ofValues (m.running.typed args)
  let world := { m.world with memory := m.world.memory.popSlots m.running.slotPlace }
  match m.callers with
  | [] => .finished r world
  | caller :: callers =>
      .continues ⟨Activation.define caller.waiting (r.values (caller.waiting.map caller.type))
        { caller with waiting := [] }, callers, world⟩

/-- Continues with a block. -/
def goto (target : BlockCall) : Progress :=
  match m.running.goto? target with
  | some running => .continues { m with running }
  | none => .stuck

/-- Performs an instruction. -/
def perform (instruction : Instruction) : Progress :=
  let a := m.running
  let give (pattern : Nat) : Progress := m.define instruction.results [pattern]
  match instruction.operation with
  | .intConst _ pattern => give pattern
  | .floatConst pattern => give pattern
  | .unary op x => give (op.eval (a.type x) (a.value x))
  | .binary op x y => give (op.eval (a.type x) (a.value x) (a.value y))
  | .addImm x imm => give ((a.type x).ofInt (a.value x + imm))
  | .compare condition x y => give (ofBool (condition.holds (a.type x) (a.value x) (a.value y)))
  | .compareImm condition x imm =>
      give (ofBool (condition.holds (a.type x) (a.value x) ((a.type x).ofInt imm)))
  | .compareFloat condition x y =>
      give (ofBool (condition.holds (a.type x) (a.value x) (a.value y)))
  | .select c x y => give (if a.value c ≠ 0 then a.value x else a.value y)
  | .fused x y z => give ((a.type x).format.fma (a.value x) (a.value y) (a.value z))
  | .cast op ty x => give (op.eval (a.type x) ty (a.value x))
  | .load ty _ address offset =>
      m.load instruction.results ty (Ty.i64.ofInt (a.value address + offset))
  | .store _ x address offset =>
      m.store (a.type x) (a.value x) (Ty.i64.ofInt (a.value address + offset))
  | .slotLoad ty slot offset => m.load instruction.results ty (a.slotAddress slot offset)
  | .slotStore x slot offset => m.store (a.type x) (a.value x) (a.slotAddress slot offset)
  | .slotAddress ty slot offset => give (ty.cut (a.slotAddress slot offset))
  | .symbolAddress ty symbol => give (ty.cut (a.addressOf (.symbol symbol)))
  | .functionAddress ty function => give (ty.cut (a.addressOf (.callee function)))
  | .call callee args =>
      match a.loaded.function.callees.lookup callee with
      | some (_, signature) =>
          m.call program instruction.results signature (a.addressOf (.callee callee)) args
      | none => .stuck
  | .callIndirect number callee args =>
      match a.loaded.function.signatures.lookup number with
      | some signature =>
          m.call program instruction.results signature (a.value callee) args
      | none => .stuck
  | .jump target => m.goto target
  | .branch c nonzero zero => m.goto (if a.value c ≠ 0 then nonzero else zero)
  | .ret args => m.leave args

/-- One step: the next instruction of the running activation. -/
def step : Progress :=
  match m.running.body with
  | [] => .stuck
  | instruction :: rest =>
      { m with running := { m.running with body := rest } }.perform program instruction

/-- Steps up to the end, none if the machine gets stuck or the fuel runs out. -/
def run : Nat → Machine → Option (Registers × World)
  | 0, _ => none
  | fuel + 1, m =>
      match m.step program with
      | .continues m => run fuel m
      | .finished results world => some (results, world)
      | .stuck => none

end Machine

/-- The number of steps that a call may take. -/
def stepLimit : Nat := 10 ^ 9

/-- Calls the loaded function at an address. -/
def Program.call? (program : Program) (address : Address) (r : Registers) (w : World) :
    Option (Registers × World) := do
  let loaded ← program.functions.lookup address
  let (activation, memory) ← Activation.enter? loaded r w.memory
  Machine.run program stepLimit ⟨activation, [], { w with memory }⟩

end JitHost.Ir
