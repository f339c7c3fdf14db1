import Dalvik.Descriptor

/-!
# References to methods and fields

The symbolic references that instructions carry.
-/

namespace Dalvik

structure MethodRef where
  /-- A class or an array type. -/
  definer : Descriptor
  name : String
  params : List Descriptor
  result : Descriptor
deriving DecidableEq

structure FieldRef where
  definer : Descriptor
  name : String
  type : Descriptor
deriving DecidableEq

namespace MethodRef

/-- The name all instance constructors have. -/
def constructorName : String := "<init>"

def isConstructor (m : MethodRef) : Bool := m.name = constructorName

/-- Number of registers the parameters take, the receiver apart. -/
def paramsWidth (m : MethodRef) : Nat := m.params.foldr (·.width + ·) 0

def text (m : MethodRef) : String :=
  m.definer.text ++ "->" ++ m.name ++ "(" ++ String.join (m.params.map Descriptor.text) ++ ")" ++ m.result.text

end MethodRef

def FieldRef.text (f : FieldRef) : String := f.definer.text ++ "->" ++ f.name ++ ":" ++ f.type.text

end Dalvik
