import Dalvik.RegisterType

/-!
# Violations

What the verifier can find wrong with an instruction. A complaint carries what it is about; its kind and its message
are read off from it.
-/

namespace Dalvik

/-- Categories of violations. -/
inductive ViolationKind where
  /-- A register is read that is not assigned on some path. -/
  | unknownRegister
  /-- An object is used before its constructor has run. -/
  | uninitializedUse
  /-- A register is read that holds incompatible types. -/
  | conflictUse
  | notAssignable
  /-- A constructor runs on a constructed object. -/
  | doubleConstruction
  /-- The constructor is not one of the allocated class. -/
  | constructorMismatch
  /-- A pending object is still there when the method is left. -/
  | uninitializedEscape
  | missingResult
  | missingException
  /-- The halves of a register pair do not hold one wide value. -/
  | badPair
  | badReturn
  /-- A method is given the wrong number of registers. -/
  | arity

namespace ViolationKind

def text : ViolationKind → String
  | unknownRegister => "unknown register"
  | uninitializedUse => "uninitialized use"
  | conflictUse => "conflict use"
  | notAssignable => "not assignable"
  | doubleConstruction => "double construction"
  | constructorMismatch => "constructor mismatch"
  | uninitializedEscape => "uninitialized escape"
  | missingResult => "missing result"
  | missingException => "missing exception"
  | badPair => "bad register pair"
  | badReturn => "bad return"
  | arity => "bad arity"

end ViolationKind

/-- What is wrong with an instruction. -/
inductive Complaint where
  | unknownRead (r : Reg)
  | conflictRead (r : Reg) (origin : Option (RegisterType × RegisterType))
  | pendingRead (r : Reg) (type : RegisterType)
  | brokenPair (r : Reg) (low high : RegisterType)
  | notAPair (low high : Reg)
  | notAssignable (type expected : RegisterType)
  | notSingleWord (type : RegisterType)
  | notWide (type : RegisterType)
  | notReference (type : RegisterType)
  | notArray (r : Reg) (type : RegisterType)
  | noResult
  | noException
  | escape (live : List (Reg × RegisterType))
  | returnsNothing (expected : RegisterType)
  | returnsValue
  | wrongReturn (instr : Instr) (expected : RegisterType)
  | cannotCast (type : Descriptor)
  | cannotTest (type : Descriptor)
  | cannotInstantiate (type : Descriptor)
  | notArrayType (type : Descriptor)
  | cannotFill (type : Descriptor)
  | cannotCompare (left right : RegisterType) (comp : Comparison)
  | cannotCompareZero (type : RegisterType) (comp : Comparison)
  | cannotReadElement (instr : Instr) (element : Descriptor)
  | cannotWriteElement (instr : Instr) (element : Descriptor)
  | cannotReadField (instr : Instr) (field : FieldRef)
  | cannotWriteField (instr : Instr) (field : FieldRef)
  | wrongArity (method : MethodRef) (expected given : Nat)
  | constructsOther (method : MethodRef) (type : Descriptor)
  | cannotInitialize (method : MethodRef) (type : Descriptor)
  | alreadyConstructed (r : Reg) (type : Descriptor)
  | notConstructible (r : Reg) (type : RegisterType)
  | undefinedNot (kind : NumKind)
  | undefinedBinary (op : BinaryOp) (kind : NumKind)
  | cannotConvert (source target : Descriptor)

namespace Complaint

def kind : Complaint → ViolationKind
  | unknownRead .. => .unknownRegister
  | conflictRead .. => .conflictUse
  | pendingRead .. => .uninitializedUse
  | brokenPair .. | notAPair .. => .badPair
  | noResult => .missingResult
  | noException => .missingException
  | escape .. => .uninitializedEscape
  | returnsNothing .. | returnsValue | wrongReturn .. => .badReturn
  | wrongArity .. => .arity
  | constructsOther .. | cannotInitialize .. => .constructorMismatch
  | alreadyConstructed .. => .doubleConstruction
  | notAssignable .. | notSingleWord .. | notWide .. | notReference .. | notArray .. | cannotCast .. | cannotTest ..
  | cannotInstantiate .. | notArrayType .. | cannotFill .. | cannotCompare .. | cannotCompareZero ..
  | cannotReadElement .. | cannotWriteElement .. | cannotReadField .. | cannotWriteField .. | notConstructible ..
  | undefinedNot .. | undefinedBinary .. | cannotConvert .. => .notAssignable

def message : Complaint → String
  | unknownRead r => r.text ++ " is read before being assigned"
  | conflictRead r (some (t₁, t₂)) => r.text ++ " holds incompatible types " ++ t₁.text ++ " and " ++ t₂.text
  | conflictRead r none => r.text ++ " holds conflicting types"
  | pendingRead r type => r.text ++ " holds " ++ type.text ++ " which is used before construction"
  | brokenPair r low high => r.text ++ " and " ++ r.next.text ++ " hold " ++ low.text ++ " and " ++ high.text
  | notAPair low high => low.text ++ " and " ++ high.text ++ " do not form a register pair"
  | notAssignable type expected => type.text ++ " is not assignable to " ++ expected.text
  | notSingleWord type => type.text ++ " is not a 32-bit primitive value"
  | notWide type => type.text ++ " is not a wide value"
  | notReference type => type.text ++ " is not a reference"
  | notArray r type => r.text ++ " holds " ++ type.text ++ " which is not an array"
  | noResult => "no result to move"
  | noException => "no exception was caught here"
  | escape live =>
    "uninitialized objects still live: " ++ ", ".intercalate (live.map fun (r, t) => r.text ++ ": " ++ t.text)
  | returnsNothing expected => "return-void in a method returning " ++ expected.text
  | returnsValue => "returning a value from a void method"
  | wrongReturn instr expected => instr.mnemonic ++ " in a method returning " ++ expected.text
  | cannotCast type => "cannot cast to " ++ type.text
  | cannotTest type => "cannot check instances of " ++ type.text
  | cannotInstantiate type => "cannot instantiate " ++ type.text
  | notArrayType type => type.text ++ " is not an array type"
  | cannotFill type => "cannot fill an array of type " ++ type.text
  | cannotCompare left right comp =>
    "cannot compare " ++ left.text ++ " and " ++ right.text ++ " with if-" ++ comp.text
  | cannotCompareZero type comp => "cannot compare " ++ type.text ++ " to zero with if-" ++ comp.text ++ "z"
  | cannotReadElement instr element => instr.mnemonic ++ " cannot read an element of type " ++ element.text
  | cannotWriteElement instr element => instr.mnemonic ++ " cannot write an element of type " ++ element.text
  | cannotReadField instr field => instr.mnemonic ++ " cannot read field " ++ field.text
  | cannotWriteField instr field => instr.mnemonic ++ " cannot write field " ++ field.text
  | wrongArity method expected given =>
    method.text ++ " expects " ++ toString expected ++ " argument registers, " ++ toString given ++ " given"
  | constructsOther method type => method.text ++ " does not construct " ++ type.text
  | cannotInitialize method type => method.text ++ " cannot initialize " ++ type.text
  | alreadyConstructed r type => r.text ++ " already holds an initialized " ++ type.text
  | notConstructible r type => r.text ++ " holds " ++ type.text ++ " which cannot be constructed"
  | undefinedNot kind => "not-" ++ kind.text ++ " is not defined"
  | undefinedBinary op kind => op.text ++ "-" ++ kind.text ++ " is not defined"
  | cannotConvert source target => "cannot convert " ++ source.text ++ " to " ++ target.text

end Complaint

/-- A complaint at its place in the code. -/
structure Violation where
  address : Address
  position : Position
  complaint : Complaint

namespace Violation

def kind (v : Violation) : ViolationKind := v.complaint.kind

def message (v : Violation) : String := v.complaint.message

def text (v : Violation) : String := v.position.text ++ ": " ++ v.kind.text ++ ": " ++ v.message

end Violation
end Dalvik
