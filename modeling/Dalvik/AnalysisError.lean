import Dalvik.Branch

/-!
# Analysis errors

Why a method cannot be analysed at all. What is found in code that can be analysed is a violation, not an error.
-/

namespace Dalvik

/-- Failures of register typing. -/
inductive TypingError where
  | outOfBounds (reg : Reg)
  /-- No register holds a `void` value. -/
  | voidRegister
  | badInsSize (needed available : Nat)
  | incompatibleStates

/-- Failures of the fixpoint computation itself. -/
inductive InternalFault where
  | noEntryState (block : Address)
  | stillPending (block : Address)

inductive AnalysisError where
  | internal (fault : InternalFault)
  | duplicateClass (type : Descriptor)
  /-- No instruction starts at the entry address. -/
  | noEntryPoint
  /-- No instruction starts where a branch leads. -/
  | missingTarget (branch : Branch) (target source : Address)
  | noCode
  | typing (cause : TypingError)

def TypingError.message : TypingError → String
  | outOfBounds reg => "Out of bounds register: " ++ reg.text
  | voidRegister => "Registers cannot hold a void value"
  | badInsSize needed available => s!"Parameters need {needed} registers but {available} are declared"
  | incompatibleStates => "Trying to merge incompatible typing states"

def InternalFault.message : InternalFault → String
  | noEntryState block => "no entry state for block@" ++ block.text
  | stillPending block => "block@" ++ block.text ++ " still pending after fixpoint"

def AnalysisError.message : AnalysisError → String
  | internal fault => "internal error: " ++ fault.message
  | duplicateClass type => "duplicate class in hierarchy: " ++ type.text
  | noEntryPoint => "instruction not found: entry point"
  | missingTarget branch target source =>
    "instruction not found: " ++ branch.text ++ " target " ++ target.text ++ " from " ++ source.text
  | noCode => "the method has no implementation"
  | typing cause => "typing error: " ++ cause.message

end Dalvik
