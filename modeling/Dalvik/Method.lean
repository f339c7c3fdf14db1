import Dalvik.Code

/-!
# Methods and classes

Definitions as the verifier sees them. Of the access flags only the bits that have a meaning are kept.
-/

namespace Dalvik

/-- Access flags, a set of bits. -/
abbrev Flags := Nat

namespace Flags

def static : Flags := 0x8

def interface : Flags := 0x200

/-- The flags a method can have. -/
def ofMethod : Flags := 0x31dff

/-- The flags a class can have. -/
def ofClass : Flags := 0x761f

/-- Drops the bits without a meaning. -/
def restrict (flags known : Flags) : Flags := flags &&& known

def has (flags bit : Flags) : Bool := flags &&& bit = bit

end Flags

structure Method where
  descriptor : MethodRef
  flags : Flags
  /-- Absent from methods without an implementation. -/
  code : Option Code

namespace Method

def isStatic (m : Method) : Bool := m.flags.has Flags.static

/-- Whether the method is an instance constructor. -/
def isConstructor (m : Method) : Bool := !m.isStatic && m.descriptor.isConstructor

def text (m : Method) : String := m.descriptor.text

end Method

structure ClassDef where
  type : Descriptor
  flags : Flags
  superclass : Option Descriptor
  interfaces : List Descriptor := []
  methods : List MethodRef := []
  sourceFile : Option String := none

namespace ClassDef

def isInterface (c : ClassDef) : Bool := c.flags.has Flags.interface

/-- Whether the class declares the method. A class without a list of methods declares all that name it. -/
def declares (c : ClassDef) (m : MethodRef) : Bool :=
  m.definer = c.type && (c.methods.isEmpty || c.methods.contains m)

def text (c : ClassDef) : String := c.type.text

end ClassDef
end Dalvik
