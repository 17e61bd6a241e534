import JitHost.Ir.Cursor
import JitHost.Ir.Opcode

/-!
# Reading functions

`Function.readAll` reads the functions of a text, each with its own text. What is
declared or defined twice, used but not declared, or used but never defined is a
fault, and so is a result that the operation does not give.
-/

namespace JitHost.Ir

open Read Text

/-! ## Names and signatures -/

/-- The index after the mark of a name in a namespace. -/
def nameIndex : Read Nat := do
  expectMark ':'
  let text ← expect integerOf "expected integer"
  match natural? 10 text.toList with
  | some index => if index < 2 ^ 32 then return index else fail "integer out of range"
  | none => fail "expected integer"

/-- The printed form of a name in a namespace. -/
def indexedName (space index : Nat) : String := "u" ++ toString space ++ ":" ++ toString index

/-- The name of a function. -/
def functionName : Read String := do
  match ← peek with
  | some (.name text) =>
      take
      return text
  | some (.entity .namespace space) =>
      take
      return indexedName space (← nameIndex)
  | _ => fail "expected external name"

/-- The routines that the compiler itself may call, with the names under which
they are linked. -/
def compilerRoutines : List (String × String) := [
  ("Probestack", "__cranelift_probestack"), ("CeilF32", "ceilf"), ("CeilF64", "ceil"),
  ("FloorF32", "floorf"), ("FloorF64", "floor"), ("TruncF32", "truncf"),
  ("TruncF64", "trunc"), ("NearestF32", "nearbyintf"), ("NearestF64", "nearbyint"),
  ("FmaF32", "fmaf"), ("FmaF64", "fma"), ("Memcpy", "memcpy"), ("Memset", "memset"),
  ("Memmove", "memmove"), ("Memcmp", "memcmp"), ("ElfTlsGetAddr", "__tls_get_addr"),
  ("ElfTlsGetOffset", "__tls_get_offset"), ("X86Pshufb", "__cranelift_x86_pshufb")]

/-- What a name outside of the function refers to. -/
def outsideName : Read RelocationTarget := do
  match ← peek with
  | some (.name text) =>
      take
      return match compilerRoutines.lookup text with
        | some routine => .routine routine
        | none => .symbol text
  | _ => return .symbol (← functionName)

/-- The names of calling conventions; all are treated alike. -/
def conventions : List String :=
  ["fast", "tail", "system_v", "windows_fastcall", "apple_aarch64", "probestack", "winch"]

/-- A type with the marks for its extension. -/
def signatureType : Read Ty := do
  let ty ← expect typeOf "expected parameter type"
  let _ ← take? fun t => if t = .word "uext" ∨ t = .word "sext" then some () else none
  return ty

/-- More items of a list, each after a comma; there are no more items than pieces
left. -/
def moreItems (item : Read α) : Nat → Read (List α)
  | 0 => return []
  | fuel + 1 => do
      if ← accept (.mark ',') then
        let first ← item
        return first :: (← moreItems item fuel)
      else return []

/-- The number of pieces left. -/
def remaining : Read Nat := return (← get).rest.length + 1

/-- A list of at least one item. -/
def itemList (item : Read α) : Read (List α) := do
  let first ← item
  return first :: (← moreItems item (← remaining))

/-- A signature. -/
def signature : Read Signature := do
  expectMark '('
  let params ← if (← peek) = some (.mark ')') then pure [] else itemList signatureType
  expectMark ')'
  let results ← if ← accept .arrow then itemList signatureType else pure []
  match ← peek with
  | some (.word text) =>
      if text ∈ conventions then take else fail "unknown calling convention"
  | _ => pure ()
  return ⟨params, results⟩

/-! ## Declarations -/

/-- A function as far as it has been read, and the number of signatures counted
so far, those of imported functions included. -/
structure Draft where
  function : Function
  signatureCount : Nat

/-- Reading into a draft. -/
abbrev Build := StateT Draft Read

namespace Build

/-- The function as far as it has been read. -/
def current : Build Function := return (← get).function

/-- Changes the function. -/
def change (f : Function → Function) : Build Unit :=
  modify fun d => { d with function := f d.function }

/-- Reports a fault at a line. -/
def failAt (line : Nat) (message : String) : Build α := fun _ _ => .error ⟨line, message⟩

/-- Refuses a number that is taken. -/
def refuse (taken : Bool) (line : Nat) : Build Unit := do
  if taken then failAt line "duplicate entity"

end Build

open Build

/-- An offset, zero if there is none. -/
def offset : Read Int := do
  match ← peek with
  | some (.integer text) =>
      if text.startsWith "+" ∨ text.startsWith "-" then
        take
        need "offset out of range" (offset? text)
      else return 0
  | _ => return 0

/-- A declared slot of some bytes. -/
def slotDeclaration (line slot : Nat) : Build Unit := do
  take
  expectMark '='
  let _ ← expect (fun t => if t = .word "explicit_slot" then some () else none)
    "expected stack slot kind"
  let text ← expect integerOf "expected byte-size in stack_slot decl"
  let size ← need "expected byte-size" (immediate? text)
  if size < 0 ∨ 2 ^ 32 ≤ size then
    let _ ← (fail "bad stack slot size" : Read Unit)
  if ← accept (.mark ',') then
    let _ ← expect (fun t => if t = .word "align" then some () else none) "expected align"
    expectMark '='
    let text ← expect integerOf "expected alignment"
    let _ ← need "expected alignment" (immediate? text)
  let _ ← peek
  refuse ((← current).slots.lookup slot).isSome line
  change fun f => { f with slots := f.slots ++ [(slot, size.toNat)] }

/-- A declared symbol. -/
def symbolDeclaration (line symbol : Nat) : Build Unit := do
  take
  expectMark '='
  let _ ← expect (fun t => if t = .word "symbol" then some () else none)
    "expected global value kind"
  let near ← accept (.word "colocated")
  let target ← outsideName
  let offset ← offset
  let _ ← peek
  refuse ((← current).symbols.lookup symbol).isSome line
  change fun f => { f with symbols := f.symbols ++ [(symbol, ⟨target, near⟩, offset)] }

/-- A declared signature. -/
def signatureDeclaration (line number : Nat) : Build Unit := do
  take
  expectMark '='
  let found ← signature
  let _ ← peek
  refuse ((← current).signatures.lookup number).isSome line
  modify fun d => { d with signatureCount := max d.signatureCount (number + 1) }
  change fun f => { f with signatures := f.signatures ++ [(number, found)] }

/-- The signature of an imported function: one of its own, which is counted, or a
declared one. -/
def calleeSignature (line : Nat) : Build Signature := do
  match ← peek with
  | some (.mark '(') =>
      let found ← signature
      let number := (← get).signatureCount
      refuse ((← current).signatures.lookup number).isSome line
      modify fun d => { d with signatureCount := number + 1 }
      change fun f => { f with signatures := f.signatures ++ [(number, found)] }
      return found
  | some (.entity .signature number) =>
      let found ← need "undefined signature" ((← current).signatures.lookup number)
      take
      return found
  | _ => fail "expected function or signature"

/-- A declared function outside. -/
def calleeDeclaration (line callee : Nat) : Build Unit := do
  take
  expectMark '='
  let nameLine ← Read.line
  let near ← accept (.word "colocated")
  let target ← outsideName
  let found ← calleeSignature nameLine
  let _ ← peek
  refuse ((← current).callees.lookup callee).isSome line
  change fun f => { f with callees := f.callees ++ [(callee, ⟨target, near⟩, found)] }

/-- All declarations at the begin of a function. -/
def declarations : Nat → Build Unit
  | 0 => pure ()
  | fuel + 1 => do
      let ahead ← peek
      let line ← Read.line
      match ahead with
      | some (.entity .slot number) =>
          slotDeclaration line number
          declarations fuel
      | some (.entity .symbol number) =>
          symbolDeclaration line number
          declarations fuel
      | some (.entity .signature number) =>
          signatureDeclaration line number
          declarations fuel
      | some (.entity .function number) =>
          calleeDeclaration line number
          declarations fuel
      | _ => pure ()

/-! ## Operands -/

/-- A value. -/
def value : Read Nat := expect (numberOf .value) "expected value"

/-- Values between commas, maybe none. -/
def values : Read (List Nat) := do
  match ← take? (numberOf .value) with
  | some first => return first :: (← moreItems value (← remaining))
  | none => return []

/-- Values between parentheses. -/
def arguments : Read (List Nat) := do
  expectMark '('
  let args ← values
  expectMark ')'
  return args

/-- A block to continue with; arguments may be left out. -/
def blockCall : Read BlockCall := do
  let block ← expect (numberOf .block) "expected block"
  let args ← if (← peek) = some (.mark '(') then arguments else pure []
  return ⟨block, args⟩

/-- A value and the comma after it. -/
def valueComma : Read Nat := do
  let x ← value
  expectMark ','
  return x

/-- A word from a table. -/
def wordIn (table : List (String × α)) (message : String) : Read α := do
  let word ← expect wordOf message
  need message (table.lookup word)

/-- An immediate of 64 bits. -/
def immediate : Read Int := do
  let text ← expect integerOf "expected immediate integer operand"
  need "bad integer" (immediate? text)

/-- The words that say how memory is used. -/
def memoryWords : List String :=
  ["notrap", "aligned", "readonly", "can_move", "little", "heap", "table", "vmctx", "checked"]

/-- The words that say how memory is used, as many as there are. -/
def memoryFlags : Nat → Read (List String)
  | 0 => return []
  | fuel + 1 => do
      match ← take? fun t => (wordOf t).filter (· ∈ memoryWords) with
      | some word => return word :: (← memoryFlags fuel)
      | none => return []

/-- A slot, which has to be declared. -/
def slot : Build Nat := do
  let number ← expect (numberOf .slot) "expected stack slot number"
  let _ ← need "undefined stack slot" ((← current).slots.lookup number)
  return number

/-- An integer constant of a type, as a pattern. -/
def intConstant (ty : Option Ty) : Read Operation := do
  let ty ← need "expected one of the following type: i8, i16, i32 or i64" (ty.filter Ty.isInt)
  let text ← expect integerOf "expected constant integer"
  let pattern ← need "bad integer" <|
    if ty = .i64 then (immediate? text).map fun n => (n % 2 ^ 64).toNat
    else shortImmediate? ty.width text
  return .intConst ty pattern

/-- The operands of an operation. The type is the one written after its word; it
is `i64` where it is missing, until it is found to be missing. -/
def operands (ty : Option Ty) : Form → Build Operation
  | .intConst => intConstant ty
  | .floatConst => do
      let text ← expect floatOf "expected an IEEE float"
      return .floatConst (← need "bad float" (floatPattern? .double text))
  | .unary op => return .unary op (← value)
  | .binary op => return .binary op (← valueComma) (← value)
  | .addImm => return .addImm (← valueComma) (← immediate)
  | .compare => do
      let condition ← wordIn IntCondition.table "expected intcc condition code"
      return .compare condition (← valueComma) (← value)
  | .compareImm => do
      let condition ← wordIn IntCondition.table "expected intcc condition code"
      return .compareImm condition (← valueComma) (← immediate)
  | .compareFloat => do
      let condition ← wordIn FloatCondition.table "expected floatcc condition code"
      return .compareFloat condition (← valueComma) (← value)
  | .select => return .select (← valueComma) (← valueComma) (← value)
  | .fused => return .fused (← valueComma) (← valueComma) (← value)
  | .cast op => return .cast op (ty.getD .i64) (← value)
  | .load => do
      let flags ← memoryFlags (← remaining)
      return .load (ty.getD .i64) ("notrap" ∈ flags) (← value) (← offset)
  | .store => do
      let flags ← memoryFlags (← remaining)
      return .store ("readonly" ∈ flags) (← valueComma) (← value) (← offset)
  | .slotLoad => return .slotLoad (ty.getD .i64) (← slot) (← offset)
  | .slotStore => return .slotStore (← valueComma) (← slot) (← offset)
  | .slotAddress => return .slotAddress (ty.getD .i64) (← slot) (← offset)
  | .symbolAddress => do
      let number ← expect (numberOf .symbol) "expected global value"
      let _ ← need "undefined global value" ((← current).symbols.lookup number)
      return .symbolAddress (ty.getD .i64) number
  | .functionAddress => do
      let number ← expect (numberOf .function) "expected function reference"
      let _ ← need "undefined function" ((← current).callees.lookup number)
      return .functionAddress (ty.getD .i64) number
  | .call => do
      let number ← expect (numberOf .function) "expected function reference"
      let _ ← need "undefined function" ((← current).callees.lookup number)
      return .call number (← arguments)
  | .callIndirect => do
      let number ← expect (numberOf .signature) "expected signature reference"
      let _ ← need "undefined signature" ((← current).signatures.lookup number)
      expectMark ','
      let callee ← value
      return .callIndirect number callee (← arguments)
  | .jump => return .jump (← blockCall)
  | .branch => do
      let c ← valueComma
      let nonzero ← blockCall
      expectMark ','
      return .branch c nonzero (← blockCall)
  | .ret => return .ret (← values)

/-! ## Instructions and blocks -/

/-- The values that are defined, with their types. A value of which only the
definition has been seen, but no type yet, is among `defining`. -/
def controlType (written : Option Ty) (defining : List Nat) (operation : Operation) :
    Build (Option Ty) := do
  let found ← match written, operation.controlTypes?, operation.controlOperand? with
    | some ty, _, _ => pure (some ty)
    | none, none, _ => pure none
    | none, some _, none => fail "type variable required for polymorphic opcode"
    | none, some _, some x =>
        if x ∈ defining then fail "invalid is not a valid typevar"
        else
          match (← current).type? x with
          | some ty => pure (some ty)
          | none => fail "type variable required for polymorphic opcode"
  match operation.controlTypes?, found with
  | some types, some ty => if types.contains ty then return found else fail "not a valid typevar"
  | none, some _ => fail "opcode does not take a typevar"
  | _, none => return none

/-- Defines results, none of which may be defined already. -/
def defineResults (line : Nat) : List Nat → List Nat → Build Unit
  | _, [] => pure ()
  | defined, result :: rest => do
      refuse (result ∈ defined || ((← current).type? result).isSome) line
      defineResults line (result :: defined) rest

/-- An instruction after its results and their mark. -/
def instruction (results : List Nat) : Build Instruction := do
  defineResults (← Read.line) [] results
  let word ← need "expected instruction opcode" ((← peek).bind wordOf)
  let form ← need "unknown opcode" (Form.table.lookup word)
  let line ← Read.line
  take
  let written ← if ← accept (.mark '.') then
      do pure (some (← expect typeOf "expected dynamic type"))
    else pure none
  let operation ← operands written form
  let control ← controlType written results operation
  if form = .call ∨ form = .callIndirect then
    if ← accept (.mark ',') then
      fail "expected stack map"
  let types := operation.resultTypes (← current) (control.getD .i64)
  if types.length ≠ results.length then
    fail "wrong number of results"
  change fun f => { f with types := results.zip types ++ f.types }
  let _ ← peek
  return ⟨results, operation, line⟩

/-- Whether a token may begin an instruction. -/
def beginsInstruction : Option Token → Bool
  | some (.entity .value _) | some (.word _) => true
  | _ => false

/-- The instructions of a block. -/
def instructions : Nat → Build (List Instruction)
  | 0 => return []
  | fuel + 1 => do
      if beginsInstruction (← peek) then
        let results ← values
        let marked ← accept (.mark '=')
        if !marked && results ≠ [] then
          fail "expected -> or ="
        let first ← instruction results
        return first :: (← instructions fuel)
      else return []

/-- A parameter of a block. -/
def blockParam : Build (Nat × Ty) := do
  let number ← expect (numberOf .value) "block argument must be a value"
  let line ← Read.line
  expectMark ':'
  let ty ← expect typeOf "expected block argument type"
  refuse ((← current).type? number).isSome line
  change fun f => { f with types := (number, ty) :: f.types }
  return (number, ty)

/-- More parameters of a block. -/
def moreParams : Nat → Build (List (Nat × Ty))
  | 0 => return []
  | fuel + 1 => do
      if ← accept (.mark ',') then
        let first ← blockParam
        return first :: (← moreParams fuel)
      else return []

/-- A block. -/
def block : Build Unit := do
  let number ← expect (numberOf .block) "expected block header"
  refuse ((← current).block? number).isSome (← Read.line)
  let params ← if ← accept (.mark '(') then
      do
        let first ← blockParam
        let rest ← moreParams (← remaining)
        expectMark ')'
        pure (first :: rest)
    else pure []
  let _ ← accept (.word "cold")
  expectMark ':'
  let _ ← peek
  let body ← instructions (← remaining)
  change fun f => { f with blocks := f.blocks ++ [⟨number, params, body⟩] }

/-- All blocks up to the brace that closes the function. -/
def blocks : Nat → Build Unit
  | 0 => pure ()
  | fuel + 1 => do
      if (← peek) ≠ some (.mark '\x7d') then
        block
        blocks fuel

/-- The line of the first instruction that uses a value which is not defined. -/
def Function.undefinedUse? (f : Function) : Option Nat :=
  (f.blocks.flatMap Block.body).findSome? fun instruction =>
    if instruction.operation.operands.any fun x => (f.type? x).isNone then
      some instruction.line
    else none

/-- The body of a function. -/
def body : Build Unit := do
  declarations (← remaining)
  blocks (← remaining)
  match (← current).undefinedUse? with
  | some line => failAt line "undefined operand value"
  | none => pure ()
  expectMark '\x7d'

/-- A function, with the places of its begin and end in the text. -/
def function : Read (Function × Nat × Nat) := do
  let start := ((← look).map fun (_, start, _) => start).getD 0
  let _ ← expect (fun t => if t = .word "function" then some () else none) "expected 'function'"
  let name ← functionName
  let found ← signature
  expectMark '\x7b'
  let draft : Draft := ⟨⟨name, found, [], [], [], [], [], []⟩, 0⟩
  let ((), draft) ← body.run draft
  let stop := (← get).stop
  let _ ← peek
  return (draft.function, start, stop)

/-- All functions up to the end. -/
def functions : Nat → Read (List (Function × Nat × Nat))
  | 0 => return []
  | fuel + 1 => do
      if (← peek).isSome then
        let first ← function
        return first :: (← functions fuel)
      else if (← get).stray then fail "invalid character"
      else return []

/-- The functions of a text, each with its own text. -/
def Function.readAll (text : String) : Except SourceFault (List (Function × String)) := do
  let pieces := pieces text
  let (found, _) ← (functions (pieces.length + 1)).run (.start pieces)
  let chars := text.toList
  return found.map fun (f, start, stop) =>
    (f, String.ofList ((chars.drop start).take (stop - start)))

end JitHost.Ir
