import Dalvik.Pattern.Escape

/-!
# Classes in brackets

A class in brackets is a union of characters, ranges, escapes, named classes such as `[:alpha:]` and nested brackets.
Unions may be joined by `&&` (intersection), `--` (difference) and `~~` (symmetric difference), from left to right.
Where case is ignored, both operands of such an operation and the whole class are closed under changes of case before a
leading `^` takes the complement.
-/

namespace Dalvik.Pattern

/-- A class, and how deeply its text is nested. -/
structure ClassPart where
  chars : CharSet
  depth : Nat := 0

inductive ClassOp where
  | inter | diff | symmDiff

def ClassOp.apply (a b : CharSet) : ClassOp → CharSet
  | inter => a.inter b
  | diff => a.diff b
  | symmDiff => a.symmDiff b

/-- An open bracket, and what has been read in it. -/
structure Bracket where
  negated : Bool
  /-- The parts of the current union, the latest first. -/
  parts : List ClassPart := []
  /-- The operation in front of the current union, and its left operand. -/
  pending : Option (ClassOp × ClassPart) := none

/-- How deeply something is nested that holds parts of the given depths. -/
def nesting (depths : List Nat) : Nat := depths.foldl max 0 + 1

namespace Bracket

def add (b : Bracket) (p : ClassPart) : Bracket := { b with parts := p :: b.parts }

def addClass (b : Bracket) (c : CharSet) : Bracket := b.add ⟨c, 0⟩

/-- The current union. -/
def union (b : Bracket) : ClassPart :=
  match b.parts with
  | [] => ⟨.empty, 0⟩
  | [p] => p
  | ps => ⟨ps.foldr (fun p c => c.union p.chars) .empty, nesting (ps.map ClassPart.depth)⟩

/-- What has been read so far, the pending operation applied. -/
def total (m : Modes) (b : Bracket) : ClassPart :=
  match b.pending with
  | none => b.union
  | some (op, left) =>
    ⟨op.apply (m.fold left.chars) (m.fold b.union.chars), nesting [left.depth, b.union.depth]⟩

/-- Puts an operation after what has been read. -/
def operate (m : Modes) (b : Bracket) (op : ClassOp) : Bracket :=
  { b with parts := [], pending := some (op, b.total m) }

/-- The class of a bracket that has been closed. -/
def close (m : Modes) (b : Bracket) : Option ClassPart := do
  return ⟨← m.negate? b.negated (m.fold (b.total m).chars), nesting [(b.total m).depth]⟩

/-- Takes the hyphens at the start of a bracket; `fuel` is the length of the text. -/
def takeHyphens (m : Modes) : Nat → Bracket → List Char → Bracket × List Char
  | fuel + 1, b, '-' :: cs => takeHyphens m fuel (b.addClass (.single '-')) (m.skip cs)
  | _, b, cs => (b, cs)

/-- The start of a bracket: a complement sign, then hyphens or else a closing bracket that stand for themselves. -/
def start (m : Modes) (cs : List Char) : Bracket × List Char :=
  let (negated, cs) := match m.skip cs with
    | '^' :: cs => (true, m.skip cs)
    | cs => (false, cs)
  match cs with
  | ']' :: cs => (Bracket.addClass ⟨negated, [], none⟩ (.single ']'), m.skip cs)
  | cs => takeHyphens m cs.length ⟨negated, [], none⟩ cs

end Bracket

/-- The named classes, of the first 128 characters only. -/
def namedAscii? : String → Option CharSet
  | "alnum" => some (.ofRanges [('0', '9'), ('A', 'Z'), ('a', 'z')])
  | "alpha" => some (.ofRanges [('A', 'Z'), ('a', 'z')])
  | "ascii" => some .ascii
  | "blank" => some (.ofRanges [('\t', '\t'), (' ', ' ')])
  | "cntrl" => some (.ofRanges [('\x00', '\x1f'), ('\x7f', '\x7f')])
  | "digit" => some (.range '0' '9')
  | "graph" => some (.range '!' '~')
  | "lower" => some (.range 'a' 'z')
  | "print" => some (.range ' ' '~')
  | "punct" => some (.ofRanges [('!', '/'), (':', '@'), ('[', '\x60'), ('\x7b', '~')])
  | "space" => some (.ofRanges [('\t', '\r'), (' ', ' ')])
  | "upper" => some (.range 'A' 'Z')
  | "word" => some (.ofRanges [('0', '9'), ('A', 'Z'), ('_', '_'), ('a', 'z')])
  | "xdigit" => some (.ofRanges [('0', '9'), ('A', 'F'), ('a', 'f')])
  | _ => none

/-- A named class after its opening bracket, if there is one, and whether its complement is meant. -/
def namedPart? : List Char → Option (CharSet × Bool × List Char)
  | ':' :: cs => do
    let (negated, cs) := match cs with
      | '^' :: cs => (true, cs)
      | cs => (false, cs)
    match cs.dropWhile (· ≠ ':') with
    | ':' :: ']' :: rest =>
      let c ← namedAscii? (String.ofList (cs.takeWhile (· ≠ ':')))
      return (c, negated, rest)
    | _ => none
  | _ => none

/-- A character or an escape in a bracket. -/
def bracketAtom (m : Modes) : List Char → Option (Atom × List Char)
  | [] => none
  | '\\' :: cs => escape m cs
  | c :: cs => some (.char c, cs)

/-- The class of an atom in a bracket. A place is no member of a class, nor is a character from 128 on
without the wide mode. -/
def Atom.chars? (m : Modes) : Atom → Option CharSet
  | .char c => if m.wide || c.toNat < 128 then some (.single c) else none
  | .ofClass k => some k
  | .place _ => none

/-- A range, or a single part of a union. A hyphen makes a range unless a hyphen or the closing bracket follows. -/
def rangePart (m : Modes) (cs : List Char) : Option (CharSet × List Char) := do
  let (a, rest) ← bracketAtom m cs
  match m.skip rest with
  | '-' :: after =>
    match m.skip after with
    | [] => none
    | c :: _ =>
      if c = ']' ∨ c = '-' then return (← a.chars? m, '-' :: after)
      else
        let (b, rest) ← bracketAtom m (m.skip after)
        match a, b with
        | .char first, .char last =>
          guard (first ≤ last ∧ (m.wide ∨ last.toNat < 128))
          return (.range first last, rest)
        | _, _ => none
  | rest => return (← a.chars? m, rest)

/-- Reads on in a bracket until the outermost one is closed; `fuel` is the length of the text, and `outer` holds the
brackets around the current one, the innermost first. -/
def bracketed (m : Modes) : Nat → List Bracket → Bracket → List Char → Option (ClassPart × List Char)
  | 0, _, _, _ => none
  | fuel + 1, outer, b, cs =>
    match m.skip cs with
    | [] => none
    | '[' :: rest =>
      match namedPart? rest with
      | some (c, negated, rest) => do bracketed m fuel outer (b.addClass (← m.negate? negated (m.fold c))) rest
      | none =>
        let (inner, rest) := Bracket.start m rest
        bracketed m fuel (b :: outer) inner rest
    | ']' :: rest =>
      match outer with
      | [] => (b.close m).map (·, rest)
      | o :: outer => do bracketed m fuel outer (o.add (← b.close m)) rest
    | '&' :: '&' :: rest => bracketed m fuel outer (b.operate m .inter) rest
    | '-' :: '-' :: rest => bracketed m fuel outer (b.operate m .diff) rest
    | '~' :: '~' :: rest => bracketed m fuel outer (b.operate m .symmDiff) rest
    | cs => do
      let (c, rest) ← rangePart m cs
      bracketed m fuel outer (b.addClass c) rest

/-- A class in brackets, after its opening bracket. -/
def bracketClass (m : Modes) (cs : List Char) : Option (ClassPart × List Char) :=
  let (b, rest) := Bracket.start m cs
  bracketed m (cs.length + 1) [] b rest

end Dalvik.Pattern
