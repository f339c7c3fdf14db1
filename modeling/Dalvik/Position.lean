import Dalvik.Malformed

/-!
# Source positions

Where an instruction comes from: a file, a bytecode address and a line, each of them possibly unknown (`-1` for the
numbers). An instruction that several source lines collapse into keeps all of them.

Two comparisons coexist. Equality looks at the address, the file and the scalar line, which is unknown when
there are several lines. `sameLine` compares the lines as sets.
-/

namespace Dalvik

inductive SourceLines where
  | single (line : Int)
  | several (first : Int) (rest : List Int)

structure Position where
  file : Option String
  address : Int
  lines : SourceLines

namespace SourceLines

def toList : SourceLines → List Int
  | single line => [line]
  | several first rest => first :: rest

/-- The line of a position with one line. -/
def scalar : SourceLines → Int
  | single line => line
  | several _ _ => -1

def first : SourceLines → Int
  | single line => line
  | several line _ => line

end SourceLines

namespace Position

/-- The position about which nothing is known. -/
def unknown : Position := ⟨none, -1, .single (-1)⟩

def ofLine (file : Option String) (address line : Int) : Except Malformed Position :=
  if address < -1 then .error (.positionAddress address)
  else if line < -1 then .error (.positionLine line)
  else .ok ⟨file, address, .single line⟩

def ofLines (file : Option String) (address : Int) (lines : List Int) : Except Malformed Position :=
  if address < -1 then .error (.positionAddress address)
  else match lines, lines.find? (· < -1) with
    | [], _ => .error .noLines
    | _, some line => .error (.positionLine line)
    | first :: rest, none => .ok ⟨file, address, .several first rest⟩

/-- A representative line, the first one when there are several. -/
def line (p : Position) : Int := p.lines.first

/-- All the lines of a position that was made from a list of them. -/
def allLines (p : Position) : Option (List Int) :=
  match p.lines with
  | .single _ => none
  | .several first rest => some (first :: rest)

def sameLine (p q : Position) : Bool :=
  p.lines.toList.all q.lines.toList.contains && q.lines.toList.all p.lines.toList.contains

def sameLineAndFile (p q : Position) : Bool :=
  p.lines.scalar = q.lines.scalar && p.file = q.file

instance : BEq Position where
  beq p q := p.address = q.address && p.sameLineAndFile q

def text (p : Position) : String :=
  let file := p.file.elim "" (· ++ ":")
  let line := if p.line < 0 then "" else toString p.line
  let address := if p.address < 0 then "????" else Address.text p.address.toNat
  file ++ line ++ "@" ++ address

end Position
end Dalvik
