import Dalvik.Address
import Dalvik.Reference

/-!
# Instructions

Decoded instructions: operands are registers, branch targets are addresses, switch tables stand in their switch, and
constants are resolved into types, methods and fields. The encodings of one operation are one constructor.
-/

namespace Dalvik

/-- Comparison of a conditional branch. -/
inductive Comparison where
  | eq | ne | lt | ge | gt | le
deriving DecidableEq

/-- What an array or field access moves. -/
inductive Access where
  /-- A 32-bit value, `int` or `float`. -/
  | plain
  /-- A 64-bit value, `long` or `double`. -/
  | wide
  | object
  | boolean | byte | char | short
deriving DecidableEq

/-- Operand kind of arithmetic. -/
inductive NumKind where
  | int | long | float | double
deriving DecidableEq

inductive BinaryOp where
  | add | sub | mul | div | rem | and | or | xor | shl | shr | ushr
deriving DecidableEq

inductive UnaryOp where
  | neg | not
deriving DecidableEq

inductive InvokeKind where
  | virtual | super | direct | static | interface
deriving DecidableEq

inductive Instr where
  | nop
  | move (dst src : Reg)
  | moveWide (dst src : Reg)
  | moveObject (dst src : Reg)
  | moveResult (dst : Reg)
  | moveResultWide (dst : Reg)
  | moveResultObject (dst : Reg)
  | moveException (dst : Reg)
  | returnVoid
  | returnValue (src : Reg)
  | returnWide (src : Reg)
  | returnObject (src : Reg)
  /-- An untyped 32-bit literal: an integral value, the bits of a `float`, or zero. -/
  | const (dst : Reg) (value : Int)
  /-- A `float` literal, given by its bits. -/
  | constFloat (dst : Reg) (bits : UInt32)
  /-- An untyped 64-bit literal. -/
  | constWide (dst : Reg) (value : Int)
  /-- A `double` literal, given by its bits. -/
  | constDouble (dst : Reg) (bits : UInt64)
  /-- The literal zero used as a null reference. -/
  | constNull (dst : Reg)
  | constString (dst : Reg) (value : String)
  | constClass (dst : Reg) (type : Descriptor)
  | monitorEnter (src : Reg)
  | monitorExit (src : Reg)
  | checkCast (reg : Reg) (type : Descriptor)
  | instanceOf (dst src : Reg) (type : Descriptor)
  | arrayLength (dst array : Reg)
  /-- Allocates an object; its constructor is not run. -/
  | newInstance (dst : Reg) (type : Descriptor)
  | newArray (dst size : Reg) (type : Descriptor)
  | filledNewArray (args : List Reg) (type : Descriptor)
  | throw (src : Reg)
  | goto (target : Address)
  | switch (src : Reg) (targets : List (Int × Address))
  | cmp (kind : NumKind) (dst left right : Reg)
  | ifTest (comp : Comparison) (left right : Reg) (target : Address)
  | ifTestZero (comp : Comparison) (src : Reg) (target : Address)
  | aget (access : Access) (dst array index : Reg)
  | aput (access : Access) (src array index : Reg)
  | iget (access : Access) (dst object : Reg) (field : FieldRef)
  | iput (access : Access) (src object : Reg) (field : FieldRef)
  | sget (access : Access) (dst : Reg) (field : FieldRef)
  | sput (access : Access) (src : Reg) (field : FieldRef)
  | invoke (kind : InvokeKind) (method : MethodRef) (args : List Reg)
  | unary (op : UnaryOp) (kind : NumKind) (dst src : Reg)
  | convert (dst src : Reg) (source target : Descriptor)
  | binary (op : BinaryOp) (kind : NumKind) (dst left right : Reg)
  /-- An `int` operation whose second operand is a literal. -/
  | binaryLit (op : BinaryOp) (dst src : Reg) (literal : Int)

namespace NumKind

def kind : NumKind → PrimitiveKind
  | int => .int
  | long => .long
  | float => .float
  | double => .double

def isWide (k : NumKind) : Bool := k.kind.isWide

def isIntegral : NumKind → Bool
  | int | long => true
  | float | double => false

end NumKind

namespace BinaryOp

/-- Operations that are defined on integral operands only. -/
def isBitwise : BinaryOp → Bool
  | and | or | xor | shl | shr | ushr => true
  | _ => false

def isShift : BinaryOp → Bool
  | shl | shr | ushr => true
  | _ => false

/-- Operations that fail on an integral zero divisor. -/
def isDivision : BinaryOp → Bool
  | div | rem => true
  | _ => false

end BinaryOp

/-- Whether the first argument of the call is the object it is made on. -/
def InvokeKind.hasReceiver : InvokeKind → Bool
  | static => false
  | virtual | super | direct | interface => true

namespace Access

/-- The kind of the value, where the access names one. -/
def kind? : Access → Option PrimitiveKind
  | boolean => some .boolean
  | byte => some .byte
  | char => some .char
  | short => some .short
  | plain | wide | object => none

/-- Whether a field or array element of the declared type is accessed this way. -/
def fits (access : Access) (type : Descriptor) : Bool :=
  match access with
  | plain => type = .prim .int || type = .prim .float
  | wide => type.isWide
  | object => type.isReference
  | boolean | byte | char | short => type.kind? = access.kind?

end Access

namespace Instr

/-- Size in code units, in the widest encoding of the operation. -/
def size : Instr → Nat
  | nop | move .. | moveWide .. | moveObject .. | moveResult .. | moveResultWide .. | moveResultObject ..
  | moveException .. | returnVoid | returnValue .. | returnWide .. | returnObject .. | constNull ..
  | monitorEnter .. | monitorExit .. | arrayLength .. | throw .. | unary .. | convert .. => 1
  | constString .. | constClass .. | checkCast .. | instanceOf .. | newInstance .. | newArray .. | goto ..
  | cmp .. | ifTest .. | ifTestZero .. | aget .. | aput .. | iget .. | iput .. | sget .. | sput .. | binary ..
  | binaryLit .. => 2
  | const .. | constFloat .. | switch .. | filledNewArray .. | invoke .. => 3
  | constWide .. | constDouble .. => 5

/-- Whether the instruction may raise an exception. -/
def canThrow : Instr → Bool
  | throw .. | constClass .. | monitorEnter .. | monitorExit .. | checkCast .. | arrayLength .. | newInstance ..
  | newArray .. | filledNewArray .. | aget .. | aput .. | iget .. | iput .. | sget .. | sput .. | invoke .. => true
  | binary op kind .. => op.isDivision && kind.isIntegral
  | binaryLit op .. => op.isDivision
  | _ => false

/-- Whether the instruction leaves the method normally. -/
def doesReturn : Instr → Bool
  | returnVoid | returnValue .. | returnWide .. | returnObject .. => true
  | _ => false

def isThrow : Instr → Bool
  | throw .. => true
  | _ => false

/-- The types the instruction names. -/
def types : Instr → List Descriptor
  | constClass _ type | checkCast _ type | instanceOf _ _ type | newInstance _ type | newArray _ _ type
  | filledNewArray _ type => [type]
  | iget _ _ _ field | iput _ _ _ field | sget _ _ field | sput _ _ field => [field.definer, field.type]
  | invoke _ method _ => method.definer :: method.result :: method.params
  | convert _ _ source target => [source, target]
  | _ => []

theorem size_pos (i : Instr) : 0 < i.size := by cases i <;> simp [size]

end Instr
end Dalvik
