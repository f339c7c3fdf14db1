import Dalvik.Primitive

/-!
# Type descriptors

A type is an element type under a number of array dimensions, none for a type that is not an array. An element type is
`void`, a primitive kind or a class, so arrays of arrays have one form only.

The text of a type is one `[` per dimension, then `V`, the letter of the kind, or `L`, the class name and `;`.
Reading accepts a bare `V`, and at most 255 dimensions over a kind or a class with a non-empty name.
-/

namespace Dalvik

/-- A type that is not an array. Class names are in internal form, as in `java/lang/Object`. -/
inductive BaseType where
  | void
  | prim (kind : PrimitiveKind)
  | object (name : String)
deriving DecidableEq

structure Descriptor where
  dims : Nat
  base : BaseType
deriving DecidableEq

namespace BaseType

def chars : BaseType → List Char
  | void => ['V']
  | prim k => [k.letter]
  | object name => 'L' :: name.toList ++ [';']

/-- Reads an element type; `void` is none. -/
def ofChars? : List Char → Option BaseType
  | [] => none
  | 'L' :: rest =>
    if 1 < rest.length ∧ rest.getLast? = some ';' then some (object (String.ofList rest.dropLast)) else none
  | [c] => (PrimitiveKind.ofLetter? c).map prim
  | _ => none

/-- Name of the type in source code. -/
def javaName : BaseType → String
  | void => "void"
  | prim k => k.name
  | object name => name.map fun c => if c = '/' then '.' else c

/-- Place of a type that is not an array among such types of other sorts: `void`, the kinds, then classes. -/
def rank : BaseType → Nat
  | void => 0
  | prim .boolean => 1
  | prim .byte => 2
  | prim .short => 3
  | prim .char => 4
  | prim .int => 5
  | prim .long => 6
  | prim .float => 7
  | prim .double => 8
  | object _ => 10

end BaseType

namespace Descriptor

@[match_pattern] abbrev void : Descriptor := ⟨0, .void⟩

@[match_pattern] abbrev prim (kind : PrimitiveKind) : Descriptor := ⟨0, .prim kind⟩

@[match_pattern] abbrev object (name : String) : Descriptor := ⟨0, .object name⟩

/-- The array type whose components have the given type. -/
def arrayOf (d : Descriptor) : Descriptor := ⟨d.dims + 1, d.base⟩

/-- The type of the components of an array type. -/
def component? (d : Descriptor) : Option Descriptor :=
  match d.dims with
  | 0 => none
  | n + 1 => some ⟨n, d.base⟩

def isArray (d : Descriptor) : Bool := d.dims ≠ 0

def isClass : Descriptor → Bool
  | object _ => true
  | _ => false

/-- Whether values of the type are objects or arrays. -/
def isReference (d : Descriptor) : Bool := d.isArray || d.isClass

def kind? : Descriptor → Option PrimitiveKind
  | prim k => some k
  | _ => none

def isPrimitive (d : Descriptor) : Bool := d.kind?.isSome

def isWide (d : Descriptor) : Bool := d.kind?.any PrimitiveKind.isWide

/-- Number of registers that hold a value of the type. -/
def width (d : Descriptor) : Nat := if d = void then 0 else if d.isWide then 2 else 1

def className? : Descriptor → Option String
  | object name => some name
  | _ => none

def chars (d : Descriptor) : List Char := List.replicate d.dims '[' ++ d.base.chars

def text (d : Descriptor) : String := String.ofList d.chars

/-- The most dimensions a text may give to an array. -/
def maxDims : Nat := 255

def ofChars? (cs : List Char) : Option Descriptor :=
  if cs = ['V'] then some void
  else
    let dims := (cs.takeWhile (· == '[')).length
    if maxDims < dims then none else (BaseType.ofChars? (cs.dropWhile (· == '['))).map (⟨dims, ·⟩)

def parse? (s : String) : Option Descriptor := ofChars? s.toList

def javaName (d : Descriptor) : String :=
  d.base.javaName ++ String.join (List.replicate d.dims "[]")

/-- Sorts of types in increasing order: `void`, the kinds, arrays, classes. -/
def rank (d : Descriptor) : Nat := if d.isArray then 9 else d.base.rank

/-- Types are ordered by sort; arrays by dimensions, then by element type; classes by name. -/
def compare (a b : Descriptor) : Ordering :=
  (Ord.compare a.rank b.rank).then <|
    (Ord.compare a.dims b.dims).then <|
      (Ord.compare a.base.rank b.base.rank).then <|
        match a.base, b.base with
        | .object m, .object n => Ord.compare m n
        | _, _ => .eq

def le (a b : Descriptor) : Bool := (a.compare b).isLE

/-- The class every class inherits from. -/
def javaLangObject : Descriptor := object "java/lang/Object"

def javaLangThrowable : Descriptor := object "java/lang/Throwable"

def javaLangString : Descriptor := object "java/lang/String"

def javaLangClass : Descriptor := object "java/lang/Class"

def javaLangCloneable : Descriptor := object "java/lang/Cloneable"

def javaIoSerializable : Descriptor := object "java/io/Serializable"

end Descriptor
end Dalvik
