import Dalvik.FlowGraph

/-!
# Drawings of flow graphs

The graph in the dot language: one box per block with its listing, blue when the block may throw, and one arrow per
edge, coloured by the reason of the branch.
-/

namespace Dalvik

def Branch.colour : Branch → String
  | ifTrue .. => "green"
  | ifFalse .. => "red"
  | switch .. | switchDefault => "purple"
  | jump => "blue"
  | caught _ | caughtAny => "orchid"
  | sequence | arrayAccessSuccess | invokeSuccess | castSuccess .. | divSuccess => "black"

namespace FlowGraph

/-- One character of a label; lines are aligned to the left. -/
def escapeLabel (c : Char) : List Char :=
  if c = '"' then ['\\', '"']
  else if c = '\\' then ['\\', '\\']
  else if c = '\n' then ['\\', 'l']
  else [c]

def label (s : String) : String := String.ofList (s.toList.flatMap escapeLabel)

def dotNode (b : Block) (n : Nat) : String :=
  let colour := if b.canThrow then "blue" else "black"
  "    " ++ toString n ++ " [ label = \"" ++ label b.text ++ "\" shape=box,color=" ++ colour ++ "]\n"

def dotEdge (source : Nat) (e : Edge) : String :=
  "    " ++ toString source ++ " -> " ++ toString e.target ++ " [ color=" ++ e.branch.colour ++ ",xlabel=\""
    ++ e.branch.text ++ "\"]\n"

def dot (g : FlowGraph) : String :=
  let nodes := g.nodes.toList.zipIdx
  "digraph \x7b\n  splines=ortho;\n  nodesep=2;\n"
    ++ String.join (nodes.map fun (node, n) => dotNode node.block n)
    ++ String.join (nodes.flatMap fun (node, n) => node.edges.map (dotEdge n))
    ++ "\x7d"

end FlowGraph
end Dalvik
