import Dalvik.Address

/-!
# Malformed items

Why a descriptor, a position or a code listing is refused.
-/

namespace Dalvik

/-- What is wrong with the structure of a code listing. -/
inductive StructureFault where
  | emptyCode
  | insExceedRegisters (ins registers : Nat)
  | addressNotIncreasing (address : Address)
  | emptyTryRange (start : Address)

inductive Malformed where
  /-- The text is no type descriptor. -/
  | descriptor (text : String)
  /-- The address does not fit in a position. -/
  | addressTooLarge (address : Address)
  /-- A class was expected. -/
  | notAClass
  | positionAddress (address : Int)
  | positionLine (line : Int)
  | noLines
  | noInstructionAt (address : Address)
  | listing (fault : StructureFault)

def StructureFault.message : StructureFault → String
  | emptyCode => "empty code"
  | insExceedRegisters ins registers => s!"ins size {ins} exceeds registers size {registers}"
  | addressNotIncreasing address => "instruction addresses not increasing at " ++ address.text
  | emptyTryRange start => "empty try range at " ++ start.text

def Malformed.message : Malformed → String
  | descriptor text => "could not convert &str (" ++ Text.quoted text ++ ") into DexType"
  | addressTooLarge address => "could not convert Addr (" ++ address.text ++ ") into i32"
  | notAClass => "invalid type"
  | positionAddress address => s!"invalid address: {address} < -1"
  | positionLine line => s!"invalid line number: {line} < -1"
  | noLines => "empty line numbers list"
  | noInstructionAt address => "Instruction not found (address: " ++ address.text ++ ")"
  | listing fault => "code structure is invalid: " ++ fault.message

end Dalvik
