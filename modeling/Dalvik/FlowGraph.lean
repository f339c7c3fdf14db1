import Dalvik.AnalysisError

/-!
# Flow graphs

Code is cut into blocks at its leaders: the targets of branches and what follows a branch, instructions that may throw
and what follows them, what follows a return, the ends of try ranges and the handlers. So a block is entered at its first
instruction only and left at its last one only, and an instruction that may throw is alone in its block.

An edge goes from a block to the block its last instruction may lead to. The edges of a block are kept in the order of
the branches of that instruction, the ones to its handlers last; walks of the graph take the last edge first.
-/

namespace Dalvik

/-! ### Flow between instructions -/

namespace LabeledInstr

/-- Where the instruction leads by itself, other than to the next instruction without further ado. -/
def branching (i : LabeledInstr) : List (Branch × Address) :=
  match i.instr with
  | .goto target => [(.jump, target)]
  | .ifTest comp left right target =>
    [(.ifTrue left comp (.register right), target), (.ifFalse left comp (.register right), i.next)]
  | .ifTestZero comp src target => [(.ifTrue src comp .zero, target), (.ifFalse src comp .zero, i.next)]
  | .switch src targets =>
    (.switchDefault, i.next) :: targets.map fun (key, target) => (.switch src key, target)
  | .arrayLength .. | .filledNewArray .. | .aget .. | .aput .. => [(.arrayAccessSuccess, i.next)]
  | .invoke .. => [(.invokeSuccess, i.next)]
  | .binary op kind .. => if op.isDivision && kind.isIntegral then [(.divSuccess, i.next)] else []
  | .binaryLit op .. => if op.isDivision then [(.divSuccess, i.next)] else []
  | .checkCast r t => [(.castSuccess r t, i.next)]
  | _ => []

/-- Whether control goes on to the next instruction. -/
def fallsThrough (i : LabeledInstr) : Bool :=
  i.branching.isEmpty && !i.instr.doesReturn && !i.instr.isThrow

/-- Whether an instruction ends its block whatever follows it. -/
def endsBlock (i : LabeledInstr) : Bool :=
  !i.branching.isEmpty || i.instr.canThrow || i.instr.doesReturn

end LabeledInstr

namespace TryItem

/-- Where exceptions go, handler by handler. -/
def branches (t : TryItem) : List (Branch × Address) :=
  t.handlers.map (fun h => (.caught h.type, h.target)) ++ t.catchAll.toList.map (.caughtAny, ·)

end TryItem

namespace Code

/-- Where the exceptions of an instruction go: to the handlers of the first try range that covers it. -/
def catches (c : Code) (i : LabeledInstr) : List (Branch × Address) :=
  if i.instr.canThrow then (c.tries.find? (·.covers i.address)).elim [] TryItem.branches else []

/-- The addresses that an instruction makes leaders. -/
def leadersOf (i : LabeledInstr) : List Address :=
  (if i.endsBlock then [i.next] else []) ++ i.branching.map Prod.snd ++
    if i.instr.canThrow then [i.address] else []

/-- The addresses that start a block, if an instruction is there. -/
def leaders (c : Code) : List Address :=
  c.instrs.flatMap leadersOf ++ c.tries.flatMap fun t => t.start :: t.stop :: t.branches.map Prod.snd

end Code

/-! ### Blocks -/

/-- Instructions that are executed one after the other. -/
structure Block where
  first : LabeledInstr
  rest : List LabeledInstr

namespace Block

def instrs (b : Block) : List LabeledInstr := b.first :: b.rest

def start (b : Block) : Address := b.first.address

def last (b : Block) : LabeledInstr := b.rest.getLastD b.first

def canThrow (b : Block) : Bool := b.first.instr.canThrow

/-- One line per instruction. -/
def text (b : Block) : String := String.join (b.instrs.map fun i => i.text ++ "\n")

/-- Cuts a listing before each leader. -/
def split (isLeader : Address → Bool) : List LabeledInstr → List Block
  | [] => []
  | i :: rest =>
    match split isLeader rest with
    | [] => [⟨i, []⟩]
    | b :: bs => if isLeader b.start then ⟨i, []⟩ :: b :: bs else ⟨i, b.instrs⟩ :: bs

end Block

def Code.blocks (c : Code) : List Block := Block.split c.leaders.contains c.instrs

/-! ### The graph -/

structure Edge where
  branch : Branch
  /-- Index of the block it leads to. -/
  target : Nat

structure Node where
  block : Block
  /-- In the order of the branches. -/
  edges : List Edge

/-- Blocks by increasing address, with their edges. -/
structure FlowGraph where
  nodes : Array Node

namespace FlowGraph

/-- Index of the block that starts at an address. -/
def blockIndex? (blocks : List Block) (a : Address) : Option Nat := blocks.findIdx? (·.start == a)

def resolve (blocks : List Block) (source : Address) : Branch × Address → Except AnalysisError Edge
  | (branch, target) =>
    match blockIndex? blocks target with
    | some n => .ok ⟨branch, n⟩
    | none => .error (.missingTarget branch target source)

/-- The edge to the next block of an instruction that falls through; there is none after the end of the code. -/
def sequenceEdge (blocks : List Block) (i : LabeledInstr) : List Edge :=
  if i.fallsThrough then (blockIndex? blocks i.next).toList.map (⟨.sequence, ·⟩) else []

def edgesOf (c : Code) (blocks : List Block) (i : LabeledInstr) : Except AnalysisError (List Edge) := do
  let edges ← (i.branching ++ c.catches i).mapM (resolve blocks i.address)
  return sequenceEdge blocks i ++ edges

def nodeOf (c : Code) (blocks : List Block) (b : Block) : Except AnalysisError Node := do
  return ⟨b, ← edgesOf c blocks b.last⟩

/-- The flow graph of code, in which every branch leads to an instruction. -/
def ofCode (c : Code) : Except AnalysisError FlowGraph := do
  let blocks := c.blocks
  return ⟨(← blocks.mapM (nodeOf c blocks)).toArray⟩

def size (g : FlowGraph) : Nat := g.nodes.size

def blocks (g : FlowGraph) : List Block := g.nodes.toList.map Node.block

/-- Edges of a block, in the order in which they are walked. -/
def outgoing (g : FlowGraph) (n : Nat) : List Edge := (g.nodes[n]?.elim [] Node.edges).reverse

/-- Index of the block that starts at an address. -/
def find? (g : FlowGraph) (a : Address) : Option Nat := blockIndex? g.blocks a

/-- Index of the block at the entry address. -/
def entry (g : FlowGraph) : Except AnalysisError Nat :=
  match g.find? Address.entry with
  | some n => .ok n
  | none => .error .noEntryPoint

end FlowGraph
end Dalvik
