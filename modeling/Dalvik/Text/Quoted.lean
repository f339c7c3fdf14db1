import Dalvik.Text.Property.Mark

/-!
# Quoted text

A text is shown between double quotes, on one line and without hidden characters: the quote and the backslash
are preceded by a backslash, the usual blanks and the null character have a letter, and every other character
that is not printable is written by its code point in hexadecimal.

A character is printable unless it is a control, a format character, a surrogate, private, unassigned, or a
separator other than the plain space. A combining character extends the one before it, so it is not
shown alone either.
-/

namespace Dalvik.Text
open Category

def isCombining (c : Char) : Bool := graphemeExtend.contains c

/-- The characters that leave a trace of their own. -/
def graphic : CharSet := .ofSets [letters, marks, numbers, punctuation, symbols]

/-- Whether a character stands for itself in quoted text. -/
def isPrintable (c : Char) : Bool := (c = ' ' || graphic.contains c) && !isCombining c

/-- Lower-case hexadecimal digits of a number, without leading zeros. -/
def hex (n : Nat) : List Char := Nat.toDigits 16 n

/-- One character of a quoted text. -/
def escape (c : Char) : List Char :=
  if c = '\x00' then ['\\', '0']
  else if c = '\t' then ['\\', 't']
  else if c = '\r' then ['\\', 'r']
  else if c = '\n' then ['\\', 'n']
  else if c = '"' then ['\\', '"']
  else if c = '\\' then ['\\', '\\']
  else if isPrintable c then [c]
  else ['\\', 'u', '\x7b'] ++ hex c.toNat ++ ['\x7d']

def quoted (s : String) : String :=
  String.ofList ('"' :: s.toList.flatMap escape ++ ['"'])

end Dalvik.Text
