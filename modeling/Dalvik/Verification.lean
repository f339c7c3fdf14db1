import Dalvik.Dataflow
import Dalvik.Hierarchy

/-!
# Verification of a method

The violations found in a method's code, in code order, with the states they were found in. The number of passes is
limited by how often the entry states of blocks can change: in an acyclic hierarchy every change brings a type of some
register closer to a conflict.
-/

namespace Dalvik

structure Verification where
  method : MethodRef
  flow : Dataflow
  /-- The declared result, none for `void`. -/
  expected : Option RegisterType
  notes : Array Note

namespace Verification

def violations (v : Verification) : List Violation := v.flow.violations

def isOk (v : Verification) : Bool := v.violations.isEmpty

/-- Verifies a method with at most `limit` passes over blocks. -/
def within (o : ClassOracle) (limit : Nat) (m : Method) : Except Failure Verification :=
  match m.code with
  | none => .error ⟨.noCode, #[]⟩
  | some c => do
    let flow ← Dataflow.compute o limit m c
    let finished := Note.finished m.descriptor flow.violations.length flow.sites.size
    return { method := m.descriptor, flow, expected := RegisterType.ofResult m.descriptor.result
             notes := flow.notes.push finished }

end Verification

/-- The types that the code of a method names, and those of its signature. -/
def Method.types (m : Method) : List Descriptor :=
  let signature := m.descriptor.definer :: m.descriptor.result :: m.descriptor.params
  signature ++ m.code.elim [] fun c =>
    c.instrs.flatMap (·.instr.types) ++ c.tries.flatMap fun t => t.handlers.map Handler.type

/-- The most dimensions of an array type that the method names. -/
def Method.depth (m : Method) : Nat := (m.types.map Descriptor.dims).foldl max 0

namespace Hierarchy

/-- How many times the type of a register can grow, when arrays have at most `depth` dimensions: a reference goes up the
classes, once more for each dimension, and there are a few steps before and after. -/
def height (h : Hierarchy) (depth : Nat) : Nat := (depth + 1) * (h.classes.length + 4) + 8

/-- Enough passes for a method over an acyclic hierarchy. -/
def passLimit (h : Hierarchy) (m : Method) : Nat :=
  m.code.elim 0 fun c => c.instrs.length * (1 + (c.registersSize + 2) * (h.height m.depth + 1))

def verify (h : Hierarchy) (m : Method) : Except Failure Verification :=
  Verification.within h.oracle (h.passLimit m) m

end Hierarchy
end Dalvik
