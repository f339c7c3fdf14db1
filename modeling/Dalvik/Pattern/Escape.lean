import Dalvik.Pattern
import Dalvik.Text.CaseFolding
import Dalvik.Text.Property

/-!
# Characters and escapes in the text of a pattern

The smallest parts of a written pattern: a character that stands for itself, or a backslash and what follows. How they
are read depends on the modes in force: in verbose mode blanks and comments between the parts are skipped, and
without the wide mode the classes hold the first 128 characters only.
-/

namespace Dalvik.Pattern

inductive Mode where
  | ignoreCase | multiline | dotAll
  /-- Swaps which repetitions are to be short. -/
  | swapGreed
  | wide | anyLine | verbose
deriving DecidableEq

/-- The modes in force at a place of a pattern. -/
structure Modes where
  ignoreCase : Bool := false
  multiline : Bool := false
  dotAll : Bool := false
  swapGreed : Bool := false
  wide : Bool := true
  anyLine : Bool := false
  verbose : Bool := false

def Mode.ofLetter? : Char → Option Mode
  | 'i' => some ignoreCase
  | 'm' => some multiline
  | 's' => some dotAll
  | 'U' => some swapGreed
  | 'u' => some wide
  | 'R' => some anyLine
  | 'x' => some verbose
  | _ => none

def Modes.set (m : Modes) (on : Bool) : Mode → Modes
  | .ignoreCase => { m with ignoreCase := on }
  | .multiline => { m with multiline := on }
  | .dotAll => { m with dotAll := on }
  | .swapGreed => { m with swapGreed := on }
  | .wide => { m with wide := on }
  | .anyLine => { m with anyLine := on }
  | .verbose => { m with verbose := on }

/-- Skips blanks and comments; a comment goes from `#` to the end of the line. -/
def skipBlanks (inComment : Bool) : List Char → List Char
  | [] => []
  | c :: cs =>
    if inComment then skipBlanks (c ≠ '\n') cs
    else if Text.isBlank c then skipBlanks false cs
    else if c = '#' then skipBlanks true cs
    else c :: cs

/-- What follows, without what verbose mode skips. -/
def Modes.skip (m : Modes) (cs : List Char) : List Char := if m.verbose then skipBlanks false cs else cs

/-- Closes a class under changes of case where these are ignored. -/
def Modes.fold (m : Modes) (c : CharSet) : CharSet :=
  if !m.ignoreCase then c else if m.wide then c.folded else c.foldedAscii

/-- The complement of a class, if it is asked for. Without the wide mode there is none, since it would go beyond the
first 128 characters. -/
def Modes.negate? (m : Modes) (negated : Bool) (c : CharSet) : Option CharSet :=
  if !negated then some c else if m.wide then some c.compl else none

def Modes.digits (m : Modes) : CharSet := if m.wide then Text.Category.decimalNumber else .range '0' '9'

def Modes.blanks (m : Modes) : CharSet := if m.wide then Text.blank else .ofRanges [('\t', '\r'), (' ', ' ')]

def Modes.wordChars (m : Modes) : CharSet :=
  if m.wide then Text.wordChars else .ofRanges [('0', '9'), ('A', 'Z'), ('_', '_'), ('a', 'z')]

/-- The smallest parts of a pattern. -/
inductive Atom where
  | char (c : Char)
  /-- A class, already closed under changes of case. -/
  | ofClass (c : CharSet)
  | place (t : PlaceTest)

/-! ### Numbers -/

/-- The digits of a code point in hexadecimal, exactly so many. -/
def hexDigits (m : Modes) : Nat → Nat → List Char → Option (Nat × List Char)
  | 0, value, cs => some (value, cs)
  | _ + 1, _, [] => none
  | n + 1, value, c :: cs => do hexDigits m n (16 * value + (← Text.hexDigit? c)) (m.skip cs)

/-- The digits of a code point up to a closing brace, at least one; `fuel` is the length of the text. -/
def hexBraced (m : Modes) : Nat → Option Nat → List Char → Option (Nat × List Char)
  | 0, _, _ => none
  | _ + 1, _, [] => none
  | fuel + 1, value, c :: cs =>
    if c = '\x7d' then value.map (·, m.skip cs)
    else do hexBraced m fuel (some (16 * value.getD 0 + (← Text.hexDigit? c))) (m.skip cs)

def charOf? (n : Nat) : Option Char := if n.isValidChar then some (Char.ofNat n) else none

/-- The character that an escape names by its code point, after the letter that says how many digits it has.
Without the wide mode two digits name a byte, which is a character only below 128. -/
def hexChar (m : Modes) (digits : Nat) (cs : List Char) : Option (Char × List Char) :=
  match m.skip cs with
  | '\x7b' :: cs => do
    let (n, rest) ← hexBraced m (cs.length + 1) none (m.skip cs)
    return (← charOf? n, rest)
  | cs => do
    let (n, rest) ← hexDigits m digits 0 cs
    if !m.wide && digits = 2 && 128 ≤ n then none else return (← charOf? n, rest)

/-! ### Named classes -/

/-- The name of a class up to the closing brace; `fuel` is the length of the text. -/
def bracedName (m : Modes) : Nat → List Char → Option (List Char × List Char)
  | 0, _ => none
  | _ + 1, [] => none
  | fuel + 1, c :: cs =>
    if c = '\x7d' then some ([], cs)
    else do
      let (name, rest) ← bracedName m fuel (m.skip cs)
      return (c :: name, rest)

/-- Splits a name at the first place where `mark` stands. -/
def splitAt? (mark : List Char) : List Char → Option (List Char × List Char)
  | [] => none
  | c :: cs =>
    if mark.isPrefixOf (c :: cs) then some ([], (c :: cs).drop mark.length)
    else (splitAt? mark cs).map fun (before, after) => (c :: before, after)

/-- The class of a name: a property, or a property and its value. All three signs between the two mean the same; it is
for `\P` to take the complement. -/
def namedClass? (name : List Char) : Option CharSet :=
  match [['!', '='], [':'], ['=']].findSome? (splitAt? · name) with
  | some (property, value) => Text.propertyValue? property value
  | none => Text.property? name

/-- The class after `\p` or `\P`. -/
def propertyClass (m : Modes) (negated : Bool) (cs : List Char) : Option (Atom × List Char) := do
  guard m.wide
  match m.skip cs with
  | [] => none
  | '\x7b' :: cs =>
    let (name, rest) ← bracedName m (cs.length + 1) (m.skip cs)
    return (.ofClass (← m.negate? negated (m.fold (← namedClass? name))), rest)
  | c :: cs => return (.ofClass (← m.negate? negated (m.fold (← Text.property? [c]))), m.skip cs)

/-! ### Escapes -/

/-- The name of a special place up to the closing brace; `fuel` is the length of the text. -/
def placeName (m : Modes) : Nat → List Char → Option (List Char × List Char)
  | 0, _ => none
  | _ + 1, [] => none
  | fuel + 1, c :: cs =>
    if c = '\x7d' then some ([], cs)
    else if c.isAlpha || c = '-' then do
      let (name, rest) ← placeName m fuel (m.skip cs)
      return (c :: name, rest)
    else none

/-- What follows `\b`: the braces of a special place hold its name; others are a repetition and are left. -/
def wordPlace (m : Modes) : List Char → Option (WordEdge × List Char)
  | '\x7b' :: cs =>
    match m.skip cs with
    | [] => none
    | c :: rest =>
      if c.isAlpha || c = '-' then do
        let (name, rest) ← placeName m (rest.length + 1) (c :: rest)
        match String.ofList name with
        | "start" => return (.start, rest)
        | "end" => return (.finish, rest)
        | "start-half" => return (.startHalf, rest)
        | "end-half" => return (.endHalf, rest)
        | _ => none
      else some (.edge, '\x7b' :: cs)
  | cs => some (.edge, cs)

/-- The characters of the first 128 that may follow a backslash and then stand for themselves. -/
def isEscapable (c : Char) : Bool := c.toNat < 128 && !c.isAlphanum && c ≠ '<' && c ≠ '>'

/-- What follows a backslash. -/
def escape (m : Modes) : List Char → Option (Atom × List Char)
  | [] => none
  | c :: cs =>
    let char (c : Char) : Option (Atom × List Char) := some (.char c, cs)
    let ofClass (negated : Bool) (k : CharSet) : Option (Atom × List Char) := do
      return (.ofClass (← m.negate? negated k), cs)
    let word (e : WordEdge) (rest : List Char) : Atom × List Char := (.place (.word m.wordChars e), rest)
    match c with
    | 'x' => (hexChar m 2 cs).map fun (c, rest) => (.char c, rest)
    | 'u' => (hexChar m 4 cs).map fun (c, rest) => (.char c, rest)
    | 'U' => (hexChar m 8 cs).map fun (c, rest) => (.char c, rest)
    | 'p' => propertyClass m false cs
    | 'P' => propertyClass m true cs
    | 'd' => ofClass false m.digits
    | 'D' => ofClass true m.digits
    | 's' => ofClass false m.blanks
    | 'S' => ofClass true m.blanks
    | 'w' => ofClass false m.wordChars
    | 'W' => ofClass true m.wordChars
    | 'a' => char '\x07'
    | 'f' => char '\x0c'
    | 't' => char '\t'
    | 'n' => char '\n'
    | 'r' => char '\r'
    | 'v' => char '\x0b'
    | 'A' => some (.place .textStart, cs)
    | 'z' => some (.place .textEnd, cs)
    | 'b' => (wordPlace m cs).map fun (e, rest) => word e rest
    | 'B' => word .noEdge cs
    | '<' => word .start cs
    | '>' => word .finish cs
    | _ => if isEscapable c then char c else none

end Dalvik.Pattern
