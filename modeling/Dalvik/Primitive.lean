/-!
# Primitive kinds

The eight kinds of primitive values. Implicit widening orders the integral ones:
`boolean ⊑ byte ⊑ short ⊑ int` and `boolean ⊑ char ⊑ int`; the other kinds only widen to themselves.
-/

namespace Dalvik

inductive PrimitiveKind where
  | boolean | byte | short | char | int | float | long | double
deriving DecidableEq

namespace PrimitiveKind

def name : PrimitiveKind → String
  | boolean => "boolean"
  | byte => "byte"
  | short => "short"
  | char => "char"
  | int => "int"
  | float => "float"
  | long => "long"
  | double => "double"

/-- The letter that stands for the kind in a descriptor. -/
def letter : PrimitiveKind → Char
  | boolean => 'Z'
  | byte => 'B'
  | short => 'S'
  | char => 'C'
  | int => 'I'
  | float => 'F'
  | long => 'J'
  | double => 'D'

def ofLetter? : Char → Option PrimitiveKind
  | 'Z' => some boolean
  | 'B' => some byte
  | 'S' => some short
  | 'C' => some char
  | 'I' => some int
  | 'F' => some float
  | 'J' => some long
  | 'D' => some double
  | _ => none

@[simp] theorem ofLetter?_letter (k : PrimitiveKind) : ofLetter? k.letter = some k := by cases k <;> rfl

/-- Values of a wide kind take a register pair. -/
def isWide : PrimitiveKind → Bool
  | long | double => true
  | _ => false

/-- The 32-bit integral kinds: `int` and the narrower ones. -/
def isIntegral : PrimitiveKind → Bool
  | boolean | byte | short | char | int => true
  | float | long | double => false

/-- Position of the kind when kinds are listed in order. -/
def rank : PrimitiveKind → Nat
  | boolean => 0
  | byte => 1
  | short => 2
  | char => 3
  | int => 4
  | float => 5
  | long => 6
  | double => 7

/-- Implicit widening. -/
def widensTo (k₁ k₂ : PrimitiveKind) : Bool :=
  k₁ = k₂ || match k₁, k₂ with
    | boolean, byte | boolean, short | boolean, char | boolean, int => true
    | byte, int | short, int | char, int => true
    | byte, short => true
    | _, _ => false

/-- Least kind both kinds widen to, if any. -/
def join (k₁ k₂ : PrimitiveKind) : Option PrimitiveKind :=
  if k₁.widensTo k₂ then some k₂
  else if k₂.widensTo k₁ then some k₁
  else if k₁.isIntegral && k₂.isIntegral then some int
  else none

end PrimitiveKind
end Dalvik
