import Dalvik.AnalysisError
import Dalvik.ClassOracle
import Dalvik.PendingObject

/-!
# Register types

What a register may hold at a point of the code, ordered by `isAssignable`: `unknown` is below every other type and
`conflict` above. An untyped literal is below the primitive kinds its value fits and below `float`; zero is below
the null reference too. Pending objects are only below themselves and `conflict`.

References are compared and joined by the answers of a class oracle. Types are compared with `==`, which takes pending
objects for equal when they are the same object.
-/

namespace Dalvik

inductive RegisterType where
  /-- Not assigned on this path. -/
  | unknown
  | primitive (kind : PrimitiveKind)
  /-- The literal zero: null, or a zero of any 32-bit kind. -/
  | zero
  /-- Another 32-bit literal, whose value fits the kind; its bits are also a `float`. -/
  | literal (kind : PrimitiveKind)
  /-- A 64-bit literal, a `long` or a `double`. -/
  | wideLiteral
  | null
  /-- A constructed object or an array. -/
  | reference (type : Descriptor)
  /-- An allocated object whose constructor has not run. -/
  | pending (object : PendingObject)
  /-- The receiver of a constructor that has not called another constructor. -/
  | pendingThis (type : Descriptor)
  | conflict

namespace RegisterType

def same : RegisterType → RegisterType → Bool
  | unknown, unknown | zero, zero | wideLiteral, wideLiteral | null, null | conflict, conflict => true
  | primitive k₁, primitive k₂ | literal k₁, literal k₂ => k₁ = k₂
  | reference t₁, reference t₂ | pendingThis t₁, pendingThis t₂ => t₁ = t₂
  | pending u, pending v => u.same v
  | _, _ => false

instance : BEq RegisterType := ⟨same⟩

def text : RegisterType → String
  | unknown => "⊥"
  | primitive kind => kind.name
  | zero => "zero"
  | literal kind => kind.name ++ " literal"
  | wideLiteral => "wide literal"
  | null => "null"
  | reference type => type.text
  | pending object => object.text
  | pendingThis type => "uninit-this[" ++ type.text ++ "]"
  | conflict => "⊤"

/-- The type of a value of a declared type. -/
def ofDescriptor : Descriptor → Except TypingError RegisterType
  | .void => .error .voidRegister
  | .prim kind => .ok (primitive kind)
  | d => .ok (reference d)

/-- As `ofDescriptor`, and a conflict for `void`. -/
def declared (d : Descriptor) : RegisterType := (ofDescriptor d).toOption.getD conflict

/-- The type of a method result, if there is one. -/
def ofResult (d : Descriptor) : Option RegisterType := (ofDescriptor d).toOption

/-- The type of a 32-bit literal: other than zero, it has the narrowest integral kind that holds it. -/
def ofLiteral (value : Int) : RegisterType :=
  if value = 0 then zero
  else if value = 1 then literal .boolean
  else if -0x80 ≤ value ∧ value < 0x80 then literal .byte
  else if -0x8000 ≤ value ∧ value < 0x8000 then literal .short
  else if 0 ≤ value ∧ value < 0x10000 then literal .char
  else literal .int

/-- Values of a wide type take a register pair. -/
def isWide : RegisterType → Bool
  | wideLiteral => true
  | primitive kind => kind.isWide
  | _ => false

/-- Types usable as a constructed reference. -/
def isReferenceLike : RegisterType → Bool
  | zero | null | reference _ => true
  | _ => false

/-- Types usable as a 32-bit integral value. -/
def isIntegral : RegisterType → Bool
  | zero | literal _ => true
  | primitive kind => kind.isIntegral
  | _ => false

/-- Primitive values of one register. -/
def isSingleWord : RegisterType → Bool
  | zero | literal _ => true
  | primitive kind => !kind.isWide
  | _ => false

def isPending : RegisterType → Bool
  | pending _ | pendingThis _ => true
  | _ => false

def isConflict : RegisterType → Bool
  | conflict => true
  | _ => false

/-- Join of a literal and a primitive value: the literal takes the kind, or both widen. -/
def joinLiteral (literalKind kind : PrimitiveKind) : RegisterType :=
  if kind = .float then primitive .float
  else if kind.isIntegral then ((literalKind.join kind).map primitive).getD conflict
  else conflict

/-- Join of zero and another type: zero is any of the values it can stand for. -/
def joinZero (t : RegisterType) : RegisterType := if t.isSingleWord || t.isReferenceLike then t else conflict

/-- Join of references, by their common supertype. -/
def joinReference (o : ClassOracle) (t₁ t₂ : Descriptor) : RegisterType :=
  if t₁ = t₂ then reference t₁ else ((o.commonSupertype? t₁ t₂).map reference).getD conflict

/-- Least upper bound of two types. -/
def join (o : ClassOracle) : RegisterType → RegisterType → RegisterType
  | conflict, _ | _, conflict => conflict
  | unknown, t | t, unknown => t
  | zero, t | t, zero => joinZero t
  | primitive k₁, primitive k₂ => ((k₁.join k₂).map primitive).getD conflict
  | literal k₁, literal k₂ => ((k₁.join k₂).map literal).getD conflict
  | literal k₁, primitive k₂ | primitive k₂, literal k₁ => joinLiteral k₁ k₂
  | wideLiteral, wideLiteral => wideLiteral
  | wideLiteral, primitive k | primitive k, wideLiteral => if k.isWide then primitive k else conflict
  | null, null => null
  | null, reference t | reference t, null => reference t
  | reference t₁, reference t₂ => joinReference o t₁ t₂
  | pending u, pending v => if u.same v then pending u else conflict
  | pendingThis t₁, pendingThis t₂ => if t₁ = t₂ then pendingThis t₁ else conflict
  | _, _ => conflict

/-- What is reported when two types are joined. -/
def joinNotes (o : ClassOracle) : RegisterType → RegisterType → List InheritanceNote
  | reference t₁, reference t₂ => if t₁ = t₂ then [] else o.supertypeNotes t₁ t₂
  | _, _ => []

/-- Whether a value of the first type can be used where the second one is expected. -/
def isAssignable (o : ClassOracle) : RegisterType → RegisterType → Bool
  | unknown, _ | _, conflict => true
  | zero, t => t.isSingleWord || t.isReferenceLike
  | primitive k₁, primitive k₂ | literal k₁, literal k₂ => k₁.widensTo k₂
  | literal k₁, primitive k₂ => k₂ = .float || k₁.widensTo k₂
  | wideLiteral, wideLiteral => true
  | wideLiteral, primitive k => k.isWide
  | null, null | null, reference _ => true
  | reference t₁, reference t₂ => o.isAssignable t₁ t₂
  | pending u, pending v => u.same v
  | pendingThis t₁, pendingThis t₂ => t₁ = t₂
  | _, _ => false

end RegisterType
end Dalvik
