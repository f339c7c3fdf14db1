import Dalvik.FlowGraph.Order
import Dalvik.Transfer

/-!
# Typing states of a method

Every block has an entry state, the join of what its incoming edges carry. A pass over a block carries its entry state
through its instructions, and then along its edges to the entry states of other blocks; an edge to a handler carries
the entry state instead of the exit state. A block whose entry state changes is pending and waits in a queue, from
which the first one in reverse postorder is taken for the next pass, until the queue is empty or a limit is reached.

The states of the instructions and the violations of a block are those of its last pass.
-/

namespace Dalvik

inductive BlockStatus where
  /-- No state has reached the block. -/
  | unvisited
  /-- The entry state has changed since the last pass. -/
  | pending
  | stable
deriving DecidableEq

/-- An instruction with the states before and after it. -/
structure Step where
  instr : LabeledInstr
  before : TypeState
  after : TypeState
  violation : Option Violation

/-- What is known about a block. -/
structure BlockState where
  entry : Option TypeState := none
  status : BlockStatus := .unvisited
  /-- Number of passes over the block. -/
  visits : Nat := 0
  /-- The last pass over the block. -/
  steps : List Step := []

/-- The state of the computation: the blocks by index, the allocation sites met and what was reported. -/
structure Progress where
  blocks : Array BlockState
  sites : AllocationSites := {}
  notes : Array Note := #[]

/-- An error, with what was reported before it. -/
structure Failure where
  error : AnalysisError
  notes : Array Note

/-- The outcome of a pass over consecutive instructions. -/
structure Pass where
  steps : List Step
  exit : TypeState
  sites : AllocationSites
  notes : Array Note

namespace Context

/-- Carries a state through instructions. -/
def pass (ctx : Context) (sites : AllocationSites) (notes : Array Note) (s : TypeState) :
    List LabeledInstr → Except Failure Pass
  | [] => .ok ⟨[], s, sites, notes⟩
  | i :: rest =>
    let t := ctx.transfer sites s i
    let notes := (notes.push (.instr i)).push (.before s) ++ t.notes
    match t.failure with
    | some e => .error ⟨.typing e, notes⟩
    | none => do
      let p ← ctx.pass t.sites (notes.push (.after t.state)) t.state rest
      return { p with steps := ⟨i, s, t.state, t.violation⟩ :: p.steps }

end Context

namespace BlockState

/-- The entry state after a state has come in along an edge, and whether it has changed. -/
def incoming (o : ClassOracle) (b : BlockState) (s : TypeState) : Except TypingError (TypeState × Bool) :=
  match b.entry with
  | none => .ok (s, true)
  | some entry => do
    let joined ← entry.join o s
    return (joined, joined != entry)

def incomingNotes (o : ClassOracle) (b : BlockState) (s : TypeState) : List InheritanceNote :=
  b.entry.elim [] (·.joinNotes o s)

end BlockState

namespace Progress

def failure {α : Type} (p : Progress) (e : AnalysisError) : Except Failure α := .error ⟨e, p.notes⟩

/-- Carries a state along an edge into the entry state of the target, and tells whether that has changed. -/
def deliver (ctx : Context) (entry exit : TypeState) (p : Progress) (e : Edge) : Except Failure (Progress × Bool) :=
  let c := (if e.branch.isExceptional then entry else exit).follow e.branch
  match c.failure, p.blocks[e.target]? with
  | some err, _ => p.failure (.typing err)
  | none, none => .ok (p, false)
  | none, some b =>
    match b.incoming ctx.oracle c.state with
    | .error err => p.failure (.typing err)
    | .ok (joined, changed) =>
      let p' := { p with
        blocks := p.blocks.setIfInBounds e.target { b with entry := some joined }
        notes := p.notes ++ (b.incomingNotes ctx.oracle c.state).map Note.inheritance }
      .ok (p', changed)

/-- Makes a block pending. -/
def wake (p : Progress) (n : Nat) : Progress :=
  { p with blocks := p.blocks.modify n fun b => { b with status := .pending } }

/-- A pass over the block `n`: what is known after it, and the states at its entry and exit. -/
def cross (ctx : Context) (g : FlowGraph) (p : Progress) (n : Nat) :
    Except Failure (Option (Progress × TypeState × TypeState)) :=
  match g.nodes[n]?, p.blocks[n]? with
  | some node, some b =>
    match b.entry with
    | none => p.failure (.internal (.noEntryState node.block.start))
    | some entry => do
      let notes := (p.notes.push (.block node.block.start)).push (.entryState entry)
      let r ← ctx.pass p.sites notes entry node.block.instrs
      let visited := { b with status := .stable, visits := b.visits + 1, steps := r.steps }
      let notes := r.notes.push (.exitState r.exit)
      let p := { blocks := p.blocks.setIfInBounds n visited, sites := r.sites, notes }
      return some (p, entry, r.exit)
  | _, _ => .ok none

/-- The entry block is pending with the given state; no other block has been reached. -/
def start (g : FlowGraph) (entry : Nat) (s : TypeState) : Progress :=
  let unvisited : BlockState := {}
  { blocks := (Array.replicate g.size unvisited).setIfInBounds entry { entry := some s, status := .pending } }

/-- The blocks of the graph, each with what is known about it. -/
def table (p : Progress) (g : FlowGraph) : List (Block × BlockState) := g.blocks.zip p.blocks.toList

end Progress

/-- The loop of passes: what is known of the blocks, and which of them wait for a pass. -/
structure Worklist where
  progress : Progress
  /-- The ranks of the blocks that wait, the least one first. The rank of a block is its place in the order. -/
  heap : List Nat
  /-- The blocks that wait. -/
  queued : List Nat

namespace Worklist

def start (g : FlowGraph) (entry : Nat) (s : TypeState) : Worklist := ⟨.start g entry s, [0], [entry]⟩

/-- Takes out the block of least rank. -/
def pop (order : List Nat) (w : Worklist) : Option (Nat × Worklist) :=
  match w.heap with
  | [] => none
  | rank :: heap => order[rank]?.map fun n => (n, { w with heap, queued := w.queued.erase n })

/-- Makes a block pending and puts it in the queue. -/
def push (order : List Nat) (w : Worklist) (n : Nat) : Worklist where
  progress := w.progress.wake n
  heap := [order.idxOf n].merge w.heap
  queued := n :: w.queued

/-- Carries a state along an edge. A block whose entry state changes is queued, unless it waits already. -/
def propagate (ctx : Context) (order : List Nat) (entry exit : TypeState) (w : Worklist) (e : Edge) :
    Except Failure Worklist := do
  let (p, changed) ← w.progress.deliver ctx entry exit e
  let w := { w with progress := p }
  return if changed && e.target ∉ w.queued then w.push order e.target else w

/-- A pass over the block `n`, and along its edges. -/
def visit (ctx : Context) (g : FlowGraph) (order : List Nat) (w : Worklist) (n : Nat) : Except Failure Worklist := do
  match ← w.progress.cross ctx g n with
  | none => return w
  | some (p, entry, exit) => (g.outgoing n).foldlM (propagate ctx order entry exit) { w with progress := p }

/-- Visits the blocks in the queue until it is empty, at most `limit` times. -/
def run (ctx : Context) (g : FlowGraph) (order : List Nat) : Nat → Worklist → Except Failure Progress
  | 0, w => .ok w.progress
  | limit + 1, w =>
    match w.pop order with
    | none => .ok w.progress
    | some (n, w) => do run ctx g order limit (← w.visit ctx g order n)

end Worklist

/-- The typing states of a method. -/
structure Dataflow where
  /-- The instructions that were reached, in code order. -/
  steps : List Step
  /-- The blocks that were reached, with the number of passes over them. -/
  visits : List (Address × Nat)
  sites : AllocationSites
  notes : Array Note

namespace Dataflow

/-- Reports on the blocks that were not reached. -/
def unreachableNotes (table : List (Block × BlockState)) : List Note :=
  table.filterMap fun (block, b) => if b.status = .unvisited then some (.unreachable block.start) else none

/-- What the last passes have found. No block may be pending. -/
def ofProgress (g : FlowGraph) (p : Progress) : Except Failure Dataflow :=
  let table := p.table g
  match table.find? (·.2.status = .pending) with
  | some (block, _) =>
    let before := table.takeWhile (·.2.status ≠ .pending)
    .error ⟨.internal (.stillPending block.start), p.notes ++ unreachableNotes before⟩
  | none => .ok {
      steps := table.flatMap (·.2.steps)
      visits := table.filterMap fun (block, b) =>
        if b.status = .stable then some (block.start, b.visits) else none
      sites := p.sites
      notes := p.notes ++ unreachableNotes table }

/-- Computes the states of a method, with at most `limit` passes over blocks. -/
def compute (o : ClassOracle) (limit : Nat) (m : Method) (c : Code) : Except Failure Dataflow :=
  let ctx : Context := ⟨o, m.descriptor⟩
  let result : Except AnalysisError (FlowGraph × Nat × TypeState) := do
    let g ← FlowGraph.ofCode c
    let entry ← g.entry
    let s ← (TypeState.initial m c).mapError .typing
    return (g, entry, s)
  match result with
  | .error e => .error ⟨e, #[]⟩
  | .ok (g, entry, s) => do
    let p ← Worklist.run ctx g (g.reversePostorder entry) limit (.start g entry s)
    ofProgress g p

def violations (d : Dataflow) : List Violation := d.steps.filterMap Step.violation

/-- The addresses of the instructions that were not reached, in code order. -/
def unreached (d : Dataflow) (c : Code) : List Address :=
  (c.instrs.map (·.address)).filter fun a => d.steps.all (·.instr.address ≠ a)

end Dataflow
end Dalvik
