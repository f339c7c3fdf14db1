import Dalvik.FlowGraph

/-!
# The order of blocks

Blocks are processed in reverse postorder of a depth-first search from the entry block, so that a block comes before
those it leads to, loops apart. The search keeps the blocks to look at on a stack. A block that is looked at for the
first time is discovered, and its undiscovered successors go on top of it; when it comes on top again it is finished.
-/

namespace Dalvik.FlowGraph

/-- Blocks that are not in a list. -/
def undiscovered (g : FlowGraph) (discovered : List Nat) : List Nat :=
  (List.range g.size).filter (· ∉ discovered)

theorem length_undiscovered_cons_lt {g : FlowGraph} {discovered : List Nat} {n : Nat}
    (hn : n < g.size) (hd : n ∉ discovered) :
    (g.undiscovered (n :: discovered)).length < (g.undiscovered discovered).length := by
  have hsub : g.undiscovered (n :: discovered) = (g.undiscovered discovered).filter (· ≠ n) := by
    simp [undiscovered, List.filter_filter, not_or]
  rw [hsub, List.length_filter_lt_length_iff_exists]
  exact ⟨n, by simp [undiscovered, hn, hd], by simp⟩

/-- The search, with the finished blocks in `order`, the last one first. -/
def search (g : FlowGraph) (discovered stack order : List Nat) : List Nat :=
  match stack with
  | [] => order
  | n :: rest =>
    if n ∈ discovered then g.search discovered rest (if n ∈ order then order else n :: order)
    else if n < g.size then
      let next := ((g.outgoing n).map Edge.target).filter (· ∉ n :: discovered)
      g.search (n :: discovered) (next.reverse ++ stack) order
    else g.search discovered rest order
termination_by ((g.undiscovered discovered).length, stack.length)
decreasing_by
  · exact Prod.Lex.right _ (by simp)
  · exact Prod.Lex.left _ _ (length_undiscovered_cons_lt ‹_› ‹_›)
  · exact Prod.Lex.right _ (by simp)

/-- The blocks that can be reached from `start`, in reverse postorder. -/
def reversePostorder (g : FlowGraph) (start : Nat) : List Nat := g.search [] [start] []

end Dalvik.FlowGraph
