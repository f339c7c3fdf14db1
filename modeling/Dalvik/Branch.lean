import Dalvik.Instruction.Text

/-!
# Branches

What labels an edge of the flow graph: why control goes from one instruction to another.
-/

namespace Dalvik

/-- The second operand of a conditional branch. -/
inductive Operand where
  | register (r : Reg)
  | zero

inductive Branch where
  | ifTrue (left : Reg) (comp : Comparison) (right : Operand)
  | ifFalse (left : Reg) (comp : Comparison) (right : Operand)
  | switch (src : Reg) (key : Int)
  | switchDefault
  | jump
  | sequence
  /-- An exception of the given type was raised. -/
  | caught (type : Descriptor)
  /-- Some exception was raised. -/
  | caughtAny
  | arrayAccessSuccess
  | invokeSuccess
  /-- The register holds an instance of the type. -/
  | castSuccess (reg : Reg) (type : Descriptor)
  | divSuccess

namespace Branch

/-- Whether the branch is taken when the instruction raises an exception. -/
def isExceptional : Branch → Bool
  | caught _ | caughtAny => true
  | _ => false

def text : Branch → String
  | ifTrue .. => "<true>"
  | ifFalse .. => "<false>"
  | switch _ key => "<switch " ++ toString key ++ ">"
  | switchDefault => "<switch _>"
  | jump => "<jmp>"
  | sequence => "<seq>"
  | caught type => "<catch " ++ type.text ++ ">"
  | caughtAny => "<catch *>"
  | arrayAccessSuccess => "<seq_array>"
  | invokeSuccess => "<seq_invoke>"
  | castSuccess .. => "<seq_cast>"
  | divSuccess => "<seq_div>"

end Branch
end Dalvik
