import Dalvik.Pattern.Bracket
import Dalvik.Pattern.Size

/-!
# Reading patterns

A written pattern is read from left to right: alternatives between `|`, each a sequence of parts that may be
repeated, with groups in parentheses. A group may set modes for what is in it, and `(?i)` and the like set them for
what follows in the same group. There are no references back to groups and no look at what follows or precedes.

A pattern is refused when it is nested too deeply, or when it is too large once its repetitions are written out.
-/

namespace Dalvik.Pattern

/-- A pattern, and how deeply its text is nested. -/
structure Part where
  pattern : Pattern
  depth : Nat := 0
  /-- A change of modes stands among the parts of a sequence, but cannot be repeated. -/
  repeatable : Bool := true

namespace Part

/-- Joins parts, the latest first. -/
def join (op : List Pattern → Pattern) : List Part → Part
  | [p] => p
  | [] => { pattern := op [] }
  | ps => { pattern := op (ps.reverse.map Part.pattern), depth := nesting (ps.map Part.depth) }

end Part

/-- A group that is being read. -/
structure Group where
  modes : Modes := {}
  /-- The number of a group that is to be kept track of. -/
  index : Option Nat := none
  /-- The parts of the current alternative, the latest first. -/
  parts : List Part := []
  /-- The alternatives that are complete, the latest first. -/
  done : List Part := []

namespace Group

def add (g : Group) (p : Part) : Group := { g with parts := p :: g.parts }

def alternate (g : Group) : Group := { g with parts := [], done := Part.join sequence g.parts :: g.done }

def finish (g : Group) : Part := Part.join alternatives (Part.join sequence g.parts :: g.done)

/-- Repeats the last part. -/
def repeatLast (g : Group) (least : Nat) (most : Option Nat) (greedy : Bool) : Option Group :=
  match g.parts with
  | p :: ps =>
    if p.repeatable then
      some { g with parts := { pattern := p.pattern.times least most greedy, depth := nesting [p.depth] } :: ps }
    else none
  | [] => none

end Group

/-- The state of reading: the current group, those around it (the innermost first), the number of groups that are
kept track of, and the names given to them. -/
structure Reading where
  group : Group := {}
  outer : List Group := []
  indices : Nat := 0
  names : List (List Char) := []

/-! ### Atoms -/

def Modes.dot? (m : Modes) : Option Pattern :=
  if !m.wide then none
  else if m.dotAll then some (ofSet .full)
  else if m.anyLine then some (ofSet (.compl (.ofRanges [('\n', '\n'), ('\r', '\r')])))
  else some (ofSet (.compl (.single '\n')))

def Modes.lineStart (m : Modes) : PlaceTest :=
  if !m.multiline then .textStart else if m.anyLine then .anyLineStart else .lineStart

def Modes.lineEnd (m : Modes) : PlaceTest :=
  if !m.multiline then .textEnd else if m.anyLine then .anyLineEnd else .lineEnd

def Atom.pattern (m : Modes) : Atom → Pattern
  | .char c => ofSet (m.fold (.single c))
  | .ofClass k => ofSet k
  | .place t => .test t

/-! ### Repetitions -/

/-- A decimal number below 2³² with blanks around it. -/
def decimal (m : Modes) (cs : List Char) : Option (Nat × List Char) :=
  let rec digits : Nat → Option Nat → List Char → Option Nat × List Char
    | fuel + 1, value, c :: cs =>
      if c.isDigit then digits fuel (some (10 * value.getD 0 + (c.toNat - '0'.toNat))) (m.skip cs)
      else (value, c :: cs)
    | _, value, cs => (value, cs)
  let (value, rest) := digits cs.length none (cs.dropWhile Text.isBlank)
  match value with
  | some n => if n < UInt32.size then some (n, m.skip (rest.dropWhile Text.isBlank)) else none
  | none => none

/-- Takes the sign of a repetition that is to be short. -/
def takeLazy : List Char → Bool × List Char
  | '?' :: cs => (true, cs)
  | cs => (false, cs)

/-- The bounds of a repetition, after the opening brace. -/
def bounds (m : Modes) (cs : List Char) : Option (Nat × Option Nat × List Char) := do
  let (least, rest) ← decimal m (m.skip cs)
  match rest with
  | '\x7d' :: rest => return (least, some least, m.skip rest)
  | ',' :: rest =>
    match m.skip rest with
    | '\x7d' :: rest => return (least, none, m.skip rest)
    | rest =>
      let (most, rest) ← decimal m rest
      match rest with
      | '\x7d' :: rest => if least ≤ most then return (least, some most, m.skip rest) else none
      | _ => none
  | _ => none

/-! ### Groups -/

/-- How the modes of a group end: the group follows, or there is none. -/
inductive ModesEnd where
  | group | none

/-- The modes at the start of a group; `seen` are those named so far, and `dangling` says that the last sign was `-`. -/
def readModes (seen : List Mode) (negated dangling : Bool) (m : Modes) :
    List Char → Option (Modes × ModesEnd × List Char)
  | [] => none
  | c :: cs =>
    if c = ':' then if dangling then none else some (m, .group, cs)
    else if c = ')' then if dangling ∨ seen = [] then none else some (m, .none, cs)
    else if c = '-' then if negated then none else readModes seen true true m cs
    else do
      let mode ← Mode.ofLetter? c
      if mode ∈ seen then none else readModes (mode :: seen) negated false (m.set (!negated) mode) cs

/-- The name of a group up to the closing angle. -/
def groupName (cs : List Char) : Option (List Char × List Char) :=
  let isInner (c : Char) : Bool := c = '_' || c = '.' || c = '[' || c = ']' || Text.isAlphanumeric c
  match cs.takeWhile (· ≠ '>'), cs.dropWhile (· ≠ '>') with
  | c :: name, _ :: rest =>
    if (c = '_' || Text.isAlphabetic c) && name.all isInner then some (c :: name, rest) else none
  | _, _ => none

namespace Reading

/-- Opens a group with the given modes. -/
def enter (r : Reading) (m : Modes) : Reading := { r with group := { modes := m }, outer := r.group :: r.outer }

/-- Opens a group with the next number. -/
def enterNumbered (r : Reading) : Reading :=
  { r with
    group := { modes := r.group.modes, index := some (r.indices + 1) }
    outer := r.group :: r.outer
    indices := r.indices + 1 }

def enterNamed (r : Reading) (cs : List Char) : Option (Reading × List Char) := do
  let (name, rest) ← groupName cs
  if name ∈ r.names then none else return ({ r.enterNumbered with names := name :: r.names }, rest)

/-- What follows an opening parenthesis. -/
def openGroup (r : Reading) (cs : List Char) : Option (Reading × List Char) :=
  match r.group.modes.skip cs with
  | '?' :: 'P' :: '<' :: rest => r.enterNamed rest
  | '?' :: '<' :: rest => r.enterNamed rest
  | '?' :: rest => do
    let (m, finish, rest) ← readModes [] false false r.group.modes rest
    match finish with
    | .group => return (r.enter m, rest)
    | .none =>
      let g := { r.group with modes := m }
      return ({ r with group := g.add { pattern := .empty, repeatable := false } }, rest)
  | rest => some (r.enterNumbered, rest)

/-- What follows a closing parenthesis. -/
def closeGroup (r : Reading) : Option Reading :=
  match r.outer with
  | [] => none
  | g :: outer =>
    let p := r.group.finish
    let pattern := r.group.index.elim p.pattern fun index => .group index p.pattern
    some { r with group := g.add { pattern, depth := nesting [p.depth] }, outer }

def addPart (r : Reading) (p : Part) : Reading := { r with group := r.group.add p }

/-- Reads one sign of a pattern with what belongs to it. -/
def step (r : Reading) (cs : List Char) : Option (Reading × List Char) :=
  let m := r.group.modes
  let repeatLast (least : Nat) (most : Option Nat) (rest : List Char) : Option (Reading × List Char) := do
    let (short, rest) := takeLazy rest
    return ({ r with group := ← r.group.repeatLast least most (short = m.swapGreed) }, rest)
  let add (p : Pattern) (rest : List Char) : Reading × List Char := (r.addPart { pattern := p }, rest)
  match cs with
  | [] => some (r, [])
  | '(' :: rest => r.openGroup rest
  | ')' :: rest => r.closeGroup.map (·, rest)
  | '|' :: rest => some ({ r with group := r.group.alternate }, rest)
  | '[' :: rest => do
    let (k, rest) ← bracketClass m rest
    return (r.addPart { pattern := ofSet k.chars, depth := k.depth }, rest)
  | '?' :: rest => repeatLast 0 (some 1) rest
  | '*' :: rest => repeatLast 0 none rest
  | '+' :: rest => repeatLast 1 none rest
  | '\x7b' :: rest => do
    let (least, most, rest) ← bounds m rest
    repeatLast least most rest
  | '\\' :: rest => do
    let (a, rest) ← escape m rest
    return add (a.pattern m) rest
  | '.' :: rest => m.dot?.map (add · rest)
  | '^' :: rest => some (add (.test m.lineStart) rest)
  | '$' :: rest => some (add (.test m.lineEnd) rest)
  | c :: rest => some (add (ofSet (m.fold (.single c))) rest)

/-- Reads to the end of the text; `fuel` is its length. -/
def finish (r : Reading) : Nat → List Char → Option Part
  | 0, cs => if cs.isEmpty && r.outer.isEmpty then some r.group.finish else none
  | fuel + 1, cs =>
    match r.group.modes.skip cs with
    | [] => if r.outer.isEmpty then some r.group.finish else none
    | cs => do
      let (r, rest) ← r.step cs
      r.finish fuel rest

end Reading

/-! ### Whole patterns -/

def depthLimit : Nat := 250

/-- The pattern that a text describes. -/
def parse? (source : String) : Option Pattern := do
  let p ← Reading.finish {} source.length source.toList
  guard (p.depth ≤ depthLimit ∧ p.pattern.fits)
  return p.pattern

end Dalvik.Pattern
