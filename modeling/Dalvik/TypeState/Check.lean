import Dalvik.TypeState
import Dalvik.Violation

/-!
# Checks of operands

A check reads a state and never changes it. It fails with a complaint about the code, or with an error that ends
the analysis, when a register is out of bounds or a declared type is `void`.
-/

namespace Dalvik

inductive Fault where
  | complaint (c : Complaint)
  | error (e : TypingError)

abbrev Check := Except Fault

namespace Check

def complain {α : Type} (c : Complaint) : Check α := .error (.complaint c)

/-- A check that fails with an error only. -/
def ofExcept {α : Type} : Except TypingError α → Check α
  | .ok a => .ok a
  | .error e => .error (.error e)

def require (b : Bool) (c : Complaint) : Check Unit := if b then .ok () else complain c

/-- The register type of a declared type. -/
def declaredType (d : Descriptor) : Check RegisterType := ofExcept (RegisterType.ofDescriptor d)

end Check

namespace TypeState

open Check

variable (o : ClassOracle) (s : TypeState)

/-- What a register holds, whatever it is. -/
def peek (r : Reg) : Check RegisterType := ofExcept (s.read r)

/-- The type of an operand, which is assigned, not in conflict and constructed. -/
def use (r : Reg) : Check RegisterType := do
  match ← s.peek r with
  | .unknown => complain (.unknownRead r)
  | .conflict => complain (.conflictRead r (s.conflictOrigin? r))
  | .pending u => complain (.pendingRead r (.pending u))
  | .pendingThis t => complain (.pendingRead r (.pendingThis t))
  | t => return t

/-- The type of a wide operand, which both halves hold. -/
def usePair (r : Reg) : Check RegisterType := do
  let low ← s.use r
  let high ← s.use (Reg.next r)
  require (low == high && low.isWide) (.brokenPair r low high)
  return low

/-- The type of an operand that is read as wide or not. -/
def useWidth (wide : Bool) (r : Reg) : Check RegisterType := if wide then s.usePair r else s.use r

def expectAssignable (t expected : RegisterType) : Check Unit :=
  require (t.isAssignable o expected) (.notAssignable t expected)

def expectSingleWord (t : RegisterType) : Check Unit := require t.isSingleWord (.notSingleWord t)

def expectReference (t : RegisterType) : Check Unit := require t.isReferenceLike (.notReference t)

/-- The operand is a value of the kind. -/
def useKind (r : Reg) (kind : PrimitiveKind) : Check Unit := do
  let t ← s.useWidth kind.isWide r
  expectAssignable o t (.primitive kind)

/-- The operand is a value of the type; a reference is asked for before its class is looked at. -/
def useTyped (r : Reg) (expected : RegisterType) : Check Unit := do
  let t ← s.useWidth expected.isWide r
  if expected.isReferenceLike then expectReference t
  expectAssignable o t expected

/-- The operand is some object. -/
def useObject (r : Reg) : Check Unit := s.useTyped o r (.reference .javaLangObject)

/-- The operand is an array, of which the component type is given, or null. -/
def useArray (r : Reg) : Check (Option Descriptor) := do
  match ← s.use r with
  | .null | .zero => return none
  | .reference t => match t.component? with
    | some component => return some component
    | none => complain (.notArray r (.reference t))
  | t => complain (.notArray r t)

/-- No register holds a pending object. -/
def checkEscape : Check Unit := require s.pendingRegisters.isEmpty (.escape s.pendingRegisters)

/-- The registers hold the parameters in turn, a wide one in two consecutive registers. -/
def checkParams : List Descriptor → List Reg → Check Unit
  | [], _ => return ()
  | p :: ps, args => do
    let t ← declaredType p
    match t.isWide, args with
    | false, r :: rest =>
      s.useTyped o r t
      checkParams ps rest
    | true, low :: high :: rest =>
      require (high = Reg.next low) (.notAPair low high)
      s.useTyped o low t
      checkParams ps rest
    | _, _ => return ()

/-- The registers match the parameters of a method, after the receiver if there is one. -/
def checkArguments (m : MethodRef) (args : List Reg) (hasReceiver : Bool) : Check Unit := do
  let expected := m.paramsWidth + hasReceiver.toNat
  require (args.length = expected) (.wrongArity m expected args.length)
  s.checkParams o m.params (args.drop hasReceiver.toNat)

end TypeState
end Dalvik
