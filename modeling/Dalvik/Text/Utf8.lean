import Dalvik.Text.CharSet

/-!
# Ranges of characters as ranges of bytes

The UTF-8 forms of a range of characters are described by sequences of ranges of bytes: a character lies in the range when
its bytes lie in the ranges of one of the sequences, one after the other. A range of characters is cut until all its
forms have the same length and the bytes after the first one that differs take all their values.
-/

namespace Dalvik.Text

/-- A range of bytes, both ends included. -/
abbrev ByteRange := Nat × Nat

/-- The bytes of a code point. -/
def utf8Bytes (n : Nat) : List Nat :=
  if n < 0x80 then [n]
  else if n < 0x800 then [0xc0 + n / 64, 0x80 + n % 64]
  else if n < 0x10000 then [0xe0 + n / 4096, 0x80 + n / 64 % 64, 0x80 + n % 64]
  else [0xf0 + n / 262144, 0x80 + n / 4096 % 64, 0x80 + n / 64 % 64, 0x80 + n % 64]

def utf8Length (n : Nat) : Nat := (utf8Bytes n).length

/-- The last code point before a change of length within the range. -/
def lengthCut? (first last : Nat) : Option Nat := [0x7f, 0x7ff, 0xffff].find? fun n => first ≤ n && n < last

/-- The last code point of a part that shares its bytes up to those that count below `block`. -/
def blockCut? (first last block : Nat) : Option Nat :=
  if first / block = last / block then none
  else if first % block ≠ 0 then some (first / block * block + block - 1)
  else if last % block ≠ block - 1 then some (last / block * block - 1)
  else none

/-- Where a range has to be cut. -/
def rangeCut? (first last : Nat) : Option Nat :=
  (lengthCut? first last).or <| if last < 0x80 then none else [64, 4096, 262144].findSome? (blockCut? first last)

/-- The sequences of byte ranges of a range of code points, in increasing order. -/
def byteSequences (first last : Nat) : List (List ByteRange) :=
  match rangeCut? first last with
  | none => [(utf8Bytes first).zip (utf8Bytes last)]
  | some cut =>
    if _h : first ≤ cut ∧ cut < last then byteSequences first cut ++ byteSequences (cut + 1) last
    else []
termination_by last - first

end Dalvik.Text

/-- The sequences of byte ranges of the characters of a set. -/
def Dalvik.CharSet.byteSequences (s : CharSet) : List (List Text.ByteRange) :=
  s.ranges.toList.flatMap fun (first, last) => Text.byteSequences first last
