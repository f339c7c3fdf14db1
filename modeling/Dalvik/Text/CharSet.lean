/-!
# Sets of characters

A set of characters is a list of inclusive ranges of code points, in increasing order. The data of the
character properties used elsewhere are values of this type, written as text: `41-5a` is the range of the code
points from `41` to `5a` in hexadecimal, `100-136/2` is every second one, and `aa` is a single one.
-/

namespace Dalvik

/-- The value of a hexadecimal digit of either case. -/
def Text.hexDigit? (c : Char) : Option Nat :=
  if '0' ≤ c ∧ c ≤ '9' then some (c.toNat - '0'.toNat)
  else if 'a' ≤ c ∧ c ≤ 'f' then some (c.toNat - 'a'.toNat + 10)
  else if 'A' ≤ c ∧ c ≤ 'F' then some (c.toNat - 'A'.toNat + 10)
  else none

/-- Inclusive ranges of code points of characters, in increasing order, with a gap between any two. -/
structure CharSet where
  ranges : Array (Nat × Nat)
deriving DecidableEq

namespace CharSet

/-- Looks for `n` between the ranges `lo` (included) and `hi` (excluded), halving the distance. -/
def search (s : CharSet) (n lo hi : Nat) : Bool :=
  if lo < hi then
    let mid := (lo + hi) / 2
    match s.ranges[mid]? with
    | none => false
    | some (first, last) =>
      if n < first then s.search n lo mid
      else if last < n then s.search n (mid + 1) hi
      else true
  else false
termination_by hi - lo

def hasCode (s : CharSet) (n : Nat) : Bool := s.search n 0 s.ranges.size

def contains (s : CharSet) (c : Char) : Bool := s.hasCode c.toNat

def isEmpty (s : CharSet) : Bool := s.ranges.isEmpty

/-! ### Sets from ranges -/

/-- Makes one range of those that overlap or touch; the ranges are ordered by where they start. -/
def joined : List (Nat × Nat) → List (Nat × Nat)
  | (a, b) :: (c, d) :: rest =>
    if c ≤ b + 1 then joined ((a, max b d) :: rest) else (a, b) :: joined ((c, d) :: rest)
  | rs => rs
termination_by rs => rs.length

def startsBefore (r s : Nat × Nat) : Bool := r.1 ≤ s.1

/-- The set of the code points that lie in one of the ranges. -/
def ofCodeRanges (rs : List (Nat × Nat)) : CharSet := ⟨(joined (rs.mergeSort startsBefore)).toArray⟩

def ofCodes (ns : List Nat) : CharSet := ofCodeRanges (ns.map fun n => (n, n))

def empty : CharSet := ⟨#[]⟩

/-! ### Operations on sets -/

def union (a b : CharSet) : CharSet := ⟨(joined (a.ranges.toList.merge b.ranges.toList startsBefore)).toArray⟩

def ofSets (sets : List CharSet) : CharSet := sets.foldr union empty

/-- The gaps between ranges, from a code point on. -/
def gaps (start : Nat) : List (Nat × Nat) → List (Nat × Nat)
  | [] => if start ≤ 0x10ffff then [(start, 0x10ffff)] else []
  | (a, b) :: rest => if start < a then (start, a - 1) :: gaps (b + 1) rest else gaps (b + 1) rest

/-- The code points that are no characters. -/
def surrogates : CharSet := ⟨#[(0xd800, 0xdfff)]⟩

/-- The characters that are not in the set. -/
def compl (a : CharSet) : CharSet := ⟨(gaps 0 (a.union surrogates).ranges.toList).toArray⟩

def full : CharSet := empty.compl

def inter (a b : CharSet) : CharSet := (a.compl.union b.compl).compl

def diff (a b : CharSet) : CharSet := (a.compl.union b).compl

def symmDiff (a b : CharSet) : CharSet := (a.diff b).union (b.diff a)

def ofRanges (rs : List (Char × Char)) : CharSet :=
  (ofCodeRanges (rs.map fun (a, b) => (a.toNat, b.toNat))).inter full

def range (first last : Char) : CharSet := ofRanges [(first, last)]

def single (c : Char) : CharSet := ofCodes [c.toNat]

def ascii : CharSet := range '\x00' '\x7f'

/-! ### Sets as text -/

/-- The ranges of one word of a set's text, from the numbers in it. -/
def rangesOf : List Nat → List (Nat × Nat)
  | [n] => [(n, n)]
  | [first, last] => [(first, last)]
  | [first, last, step] => (List.range ((last - first) / step + 1)).map fun k =>
      (first + k * step, first + k * step)
  | _ => []

/-- Reads the ranges of a text; `numbers` are those of the current word so far, the latest first. -/
def readRanges (numbers : List Nat) : List Char → List (Nat × Nat)
  | [] => rangesOf numbers.reverse
  | c :: cs =>
    match Text.hexDigit? c, numbers with
    | some d, n :: rest => readRanges ((16 * n + d) :: rest) cs
    | some d, [] => readRanges [d] cs
    | none, _ =>
      if c = '-' ∨ c = '/' then readRanges (0 :: numbers) cs
      else rangesOf numbers.reverse ++ readRanges [] cs

/-- The set that a text describes. -/
def ofText (s : String) : CharSet := ofCodeRanges (readRanges [] s.toList)

end CharSet

/-- Sets of characters, each under one or more names. -/
abbrev NamedSets := List (List String × CharSet)

def NamedSets.get? (table : NamedSets) (name : String) : Option CharSet :=
  (table.find? (·.1.contains name)).map Prod.snd

end Dalvik
