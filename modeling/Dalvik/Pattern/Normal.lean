import Dalvik.Pattern
import Dalvik.Text.Utf8

/-!
# Patterns in normal form

The functions below build patterns in a normal form: a class of one character is a text, texts that follow one
another are one text, sequences and alternatives are nested to the right, alternatives that are all classes are one
class, and what all alternatives start with stands in front of them. What is accepted stays the same; the size of a
pattern depends on its form.
-/

namespace Dalvik.Pattern

/-! ### Lengths -/

/-- The number of bytes of a text in UTF-8. -/
def textLength (cs : List Char) : Nat := cs.foldl (fun n c => n + Text.utf8Length c.toNat) 0

/-- The bytes of the shortest text that matches; none if some part matches no text at all. -/
def minLength : Pattern → Option Nat
  | empty => some 0
  | text cs => some (textLength cs)
  | one c => c.ranges[0]?.map fun r => Text.utf8Length r.1
  | test _ => some 0
  | group _ p => p.minLength
  | seq p q => do return (← p.minLength) + (← q.minLength)
  | either p q => do return min (← p.minLength) (← q.minLength)
  | repeated p least _ _ => p.minLength.map (· * least)

/-- The bytes of the longest text that matches, if there is a longest one. -/
def maxLength : Pattern → Option Nat
  | empty => some 0
  | text cs => some (textLength cs)
  | one c => c.ranges.back?.map fun r => Text.utf8Length r.2
  | test _ => some 0
  | group _ p => p.maxLength
  | seq p q => do return (← p.maxLength) + (← q.maxLength)
  | either p q => do return max (← p.maxLength) (← q.maxLength)
  | repeated p _ most _ => do return (← p.maxLength) * (← most)

/-- A pattern that matches without taking a character, if at all. -/
def isPlace (p : Pattern) : Bool := p.maxLength = some 0

/-! ### Classes and repetitions -/

def ofSet (c : CharSet) : Pattern :=
  match c.ranges.toList with
  | [(a, b)] => if a = b then text [Char.ofNat a] else one c
  | _ => one c

/-- Repeats a pattern. More than one match of it at one place makes no difference. -/
def times (p : Pattern) (least : Nat) (most : Option Nat) (greedy : Bool) : Pattern :=
  let least := if p.isPlace then min least 1 else least
  let most := if p.isPlace then some (min (most.getD 1) 1) else most
  if most = some 0 then empty
  else if least = 1 ∧ most = some 1 then p
  else repeated p least most greedy

/-! ### Sequences -/

/-- The parts of a sequence. -/
def parts : Pattern → List Pattern
  | seq p q => p.parts ++ q.parts
  | p => [p]

/-- Puts a part in front of others, joining two texts. -/
def consPart (p : Pattern) (ps : List Pattern) : List Pattern :=
  match p, ps with
  | empty, ps => ps
  | text a, text b :: ps => text (a ++ b) :: ps
  | p, ps => p :: ps

def chain (op : Pattern → Pattern → Pattern) (unit : Pattern) : List Pattern → Pattern
  | [] => unit
  | [p] => p
  | p :: ps => op p (chain op unit ps)

def sequence (ps : List Pattern) : Pattern := chain seq empty ((ps.flatMap parts).foldr consPart [])

/-! ### Alternatives -/

def choices : Pattern → List Pattern
  | either p q => p.choices ++ q.choices
  | p => [p]

def char? : Pattern → Option Nat
  | text [c] => some c.toNat
  | _ => none

def set? : Pattern → Option CharSet
  | one c => some c
  | _ => none

/-- The class of alternatives that are all single characters, or all classes. -/
def choiceSet? (ps : List Pattern) : Option CharSet :=
  ((ps.mapM char?).map CharSet.ofCodes).or ((ps.mapM set?).map CharSet.ofSets)

def choice (ps : List Pattern) : Pattern :=
  match choiceSet? ps with
  | some c => ofSet c
  | none => chain either (one .empty) ps

/-- The longest list that two lists start with. -/
def commonStart : List Pattern → List Pattern → List Pattern
  | p :: ps, q :: qs => if p = q then p :: commonStart ps qs else []
  | _, _ => []

/-- The parts that all the alternatives start with, where each has more than one part. -/
def sharedStart (ps : List Pattern) : List Pattern :=
  match ps.map parts with
  | [] => []
  | first :: rest =>
    if (first :: rest).all (1 < ·.length) then rest.foldl commonStart first else []

/-- One of several patterns. -/
def alternatives (ps : List Pattern) : Pattern :=
  match ps.flatMap choices with
  | [p] => p
  | ps =>
    let start := sharedStart ps
    if start.isEmpty then choice ps
    else
      let rests := ps.map fun p => sequence (p.parts.drop start.length)
      sequence (start ++ [choice (rests.flatMap choices)])

end Dalvik.Pattern
