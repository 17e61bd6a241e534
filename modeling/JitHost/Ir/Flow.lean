import JitHost.Ir.Function

/-!
# Flow between blocks

Which blocks can be reached from the entry, the order in which they are laid out,
and which block every way to another one leads through.
-/

namespace JitHost.Ir

namespace Block

/-- The numbers of the blocks that a block may continue with. -/
def successors (block : Block) : List Nat :=
  match block.body.getLast? with
  | some last => last.operation.targets.map BlockCall.block
  | none => []

end Block

namespace Function

variable (f : Function)

/-- The numbers of the blocks that a block with a number may continue with. -/
def successors (number : Nat) : List Nat :=
  match f.block? number with
  | some block => block.successors
  | none => []

/-- Visits blocks depth first, and lists those that have been left, the last one
first. Each entry of the work list is a block to visit or one to leave. -/
def visit (avoid : Option Nat) :
    Nat → List (Nat × Bool) → List Nat → List Nat → List Nat
  | 0, _, _, left => left
  | _ + 1, [], _, left => left
  | fuel + 1, (number, leaving) :: work, seen, left =>
      if leaving then visit avoid fuel work seen (number :: left)
      else if number ∈ seen ∨ some number = avoid then visit avoid fuel work seen left
      else
        visit avoid fuel
          ((f.successors number).map (·, false) ++ (number, true) :: work) (number :: seen) left

/-- The blocks that can be reached from the entry without going through a given
one, in the order in which they are laid out: a block comes before those that it
alone leads to, and of two branches the second one comes first. -/
def reached (avoid : Option Nat) : List Nat :=
  match f.blocks with
  | [] => []
  | entry :: _ =>
      let edges := (f.blocks.flatMap fun block => block.successors).length
      f.visit avoid (2 * f.blocks.length + edges + 1) [(entry.number, false)] [] []

/-- The blocks that can be reached, in the order in which they are laid out. -/
def layout : List Block := (f.reached none).filterMap f.block?

/-- Whether every way from the entry to the block `b` leads through `a`. -/
def dominates (a b : Nat) : Bool := a = b || b ∉ f.reached (some a)

end Function

end JitHost.Ir
