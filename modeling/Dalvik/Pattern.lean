import Dalvik.Text.CharSet

/-!
# Patterns

A pattern is a regular expression over characters with conditions on the place where they are found. Its meaning is a
function from places to places: `p.reach text` carries a set of places of a text to the places where a match of
`p` that starts at one of them can end. A text is accepted when a match starts and ends somewhere in it.
-/

namespace Dalvik

/-- A place between a word and what is not a word. -/
inductive WordEdge where
  | edge | noEdge | start | finish
  /-- Nothing of a word before the place. -/
  | startHalf
  /-- Nothing of a word after the place. -/
  | endHalf
deriving DecidableEq

/-- A condition on the characters around a place. -/
inductive PlaceTest where
  | textStart | textEnd | lineStart | lineEnd
  /-- The ends of lines are `\r`, `\n`, and the two together. -/
  | anyLineStart | anyLineEnd
  | word (chars : CharSet) (e : WordEdge)
deriving DecidableEq

def WordEdge.holds (before after : Bool) : WordEdge → Bool
  | edge => before != after
  | noEdge => before == after
  | start => !before && after
  | finish => before && !after
  | startHalf => !before
  | endHalf => !after

/-- Whether the condition holds between two characters, none at the ends of the text. -/
def PlaceTest.holds (before after : Option Char) : PlaceTest → Bool
  | textStart => before.isNone
  | textEnd => after.isNone
  | lineStart => before.all (· = '\n')
  | lineEnd => after.all (· = '\n')
  | anyLineStart => before.all fun c => c = '\n' || (c = '\r' && after != some '\n')
  | anyLineEnd => after.all fun c => c = '\r' || (c = '\n' && before != some '\r')
  | word chars e => e.holds (before.any chars.contains) (after.any chars.contains)

inductive Pattern where
  | empty
  | text (cs : List Char)
  | one (c : CharSet)
  | test (t : PlaceTest)
  /-- The groups of a pattern are numbered from the left. -/
  | group (index : Nat) (p : Pattern)
  | seq (p q : Pattern)
  | either (p q : Pattern)
  /-- At least `least` times, and at most `most` times if there is a limit. A greedy repetition is to be as long as
  possible; whether a text is accepted does not depend on it. -/
  | repeated (p : Pattern) (least : Nat) (most : Option Nat) (greedy : Bool)
deriving DecidableEq

namespace Pattern

/-- Applies a step on sets of places `n` times. -/
def advance (f : List Nat → List Nat) : Nat → List Nat → List Nat
  | 0, s => s
  | _ + 1, [] => []
  | n + 1, s => advance f n (f s)

/-- Applies a step on sets of places at most `n` times. -/
def spread (f : List Nat → List Nat) : Nat → List Nat → List Nat
  | 0, s => s
  | n + 1, s => spread f n (s ++ f s).eraseDups

/-- The places where a match that starts at one of the given places can end. Repeating a pattern without a limit
reaches no more than repeating it once for every place. -/
def reach (text : Array Char) : Pattern → List Nat → List Nat
  | empty, s => s
  | .text cs, s => cs.foldl (fun s c => (s.filter fun i => text[i]? == some c).map (· + 1)) s
  | one c, s => (s.filter fun i => text[i]?.any c.contains).map (· + 1)
  | test t, s => s.filter fun i => t.holds (if i = 0 then none else text[i - 1]?) text[i]?
  | group _ p, s => p.reach text s
  | seq p q, s => q.reach text (p.reach text s)
  | either p q, s => (p.reach text s ++ q.reach text s).eraseDups
  | repeated p least most _, s =>
    let more := most.elim (text.size + 1) fun m => min (m - least) (text.size + 1)
    spread (p.reach text) more (advance (p.reach text) least s)

/-- Whether a match lies anywhere in the text. -/
def accepts (p : Pattern) (text : String) : Bool :=
  !(p.reach text.toList.toArray (List.range (text.length + 1))).isEmpty

end Pattern
end Dalvik
