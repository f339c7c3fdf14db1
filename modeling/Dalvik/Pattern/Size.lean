import Dalvik.Pattern.Normal

/-!
# The size of patterns

To search a text, a pattern is made into two automata over the bytes of UTF-8, one that reads forwards and keeps
track of the groups, and one that reads backwards. A pattern is refused when one of them takes too much room. Only
the room is computed here: a state takes 32 bytes, and 8 more for each of its ranges of bytes if it has several, or
4 more for each of its branches if it goes on without a byte.
-/

namespace Dalvik.Pattern

/-- An automaton under construction: the number of its states, and the room they take. -/
structure Automaton where
  states : Nat := 0
  room : Nat := 0

def roomLimit : Nat := 10 * 1024 * 1024

/-- A step of the construction; there is no result when the room is used up. -/
abbrev Build := StateT Automaton Option

/-- Adds states with room for what they hold, and gives the number of the first. -/
def addStates (count extra : Nat) : Build Nat := fun a =>
  let room := a.room + 32 * count + extra
  if room ≤ roomLimit then some (a.states, ⟨a.states + count, room⟩) else none

def addState (extra : Nat) : Build Nat := addStates 1 extra

/-- The last state of a part of an automaton: it may have room for one way on, or take more room for it. -/
inductive Exit where
  | plain | branch

def Exit.leave : Exit → Build Unit
  | plain => pure ()
  | branch => do let _ ← addStates 0 4

inductive Direction where
  | forward | backward

/-! ### Classes -/

/-- Numbers under keys, in a fixed number of places: what is put in a place replaces what was there. -/
structure PlaceTable where
  places : Array (Option (List Nat × Nat))

namespace PlaceTable

def ofSize (n : Nat) : PlaceTable := ⟨Array.replicate n none⟩

def place (t : PlaceTable) (key : List Nat) : Nat :=
  let mixed := key.foldl (fun h n => (h ^^^ n.toUInt64) * 1099511628211) (14695981039346656037 : UInt64)
  mixed.toNat % t.places.size

def find? (t : PlaceTable) (key : List Nat) : Option Nat :=
  match t.places[t.place key]? with
  | some (some (k, n)) => if k = key then some n else none
  | _ => none

def put (t : PlaceTable) (key : List Nat) (n : Nat) : PlaceTable :=
  ⟨t.places.setIfInBounds (t.place key) (some (key, n))⟩

end PlaceTable

/-- The state of the given key, added unless it is in the table. -/
def sharedState (key : List Nat) (extra : Nat) : StateT PlaceTable Build Nat := fun t => do
  match t.find? key with
  | some n => return (n, t)
  | none =>
    let n ← addState extra
    return (n, t.put key n)

/-- Builds a state for sequences of byte ranges that all end in `target`: those with the same first range share a step,
and equal states are built once, as long as they are in the table. -/
def buildSequences (target : Nat) : Nat → List (List Text.ByteRange) → StateT PlaceTable Build Nat
  | 0, _ => pure target
  | depth + 1, seqs => do
    let steps ← (seqs.splitBy fun a b => a.head? == b.head?).mapM fun group => do
      match group with
      | (r :: _ :: _) :: _ => return [r.1, r.2, ← buildSequences target depth (group.map List.tail)]
      | (r :: []) :: _ => return [r.1, r.2, target]
      | _ => return []
    sharedState steps.flatten (8 * steps.length)

/-- Builds one of the sequences that start at `state`, from its first range on; backwards, this one is read last. -/
def buildBackwards (state : Nat) : List Text.ByteRange → StateT PlaceTable Build Nat
  | [] => pure state
  | (first, last) :: rest => do buildBackwards (← sharedState [state, first, last] 0) rest

def buildClass (d : Direction) (c : CharSet) : Build Exit := do
  match c.ranges.back?, d with
  | none, _ =>
    let _ ← addStates 2 0
  | some (_, last), d =>
    if last < 0x80 then
      let _ ← addStates 2 (8 * c.ranges.size)
    else
      let seqs := c.byteSequences
      match d with
      | .forward =>
        let target ← addState 0
        let _ ← (buildSequences target 4 seqs).run (.ofSize 10000)
      | .backward =>
        let _ ← addState (4 * seqs.length)
        let target ← addState 0
        let _ ← (seqs.mapM (buildBackwards target)).run (.ofSize 1000)
  return .plain

/-! ### Alternatives of texts -/

/-- Cuts a list of words where one ends; several that end before any other goes on count once. -/
def cutAtEnds (words : List (List Nat)) : List (List (List Nat)) :=
  let cut (words : List (List Nat)) : List (List (List Nat)) :=
    words.foldr (fun w cs => match w, cs with
      | [], cs => [] :: cs
      | w, c :: cs => (w :: c) :: cs
      | w, [] => [[w]]) [[]]
  match words with
  | [] :: rest => [] :: cut (rest.dropWhile List.isEmpty)
  | words => cut words

/-- Builds a tree of words, in which words share what they start with; `depth` exceeds their lengths. -/
def buildWords : Nat → List (List Nat) → Build Unit
  | 0, _ => pure ()
  | depth + 1, words => do
    if words.any (!·.isEmpty) then
      let runs := cutAtEnds words
      let firsts (run : List (List Nat)) : List Nat := (run.filterMap List.head?).eraseDups
      for run in runs do
        for b in firsts run do
          buildWords depth ((run.filter (·.head? = some b)).map List.tail)
        match (firsts run).length with
        | 0 => pure ()
        | 1 => let _ ← addState 0
        | n => let _ ← addState (8 * n)
      let _ ← addState (4 * (runs.countP (!·.isEmpty) + (runs.length - 1)))

/-- The texts of a pattern that is an alternative of texts. -/
def texts? : Pattern → Option (List (List Char))
  | text cs => some [cs]
  | either p q => do return (← p.texts?) ++ (← q.texts?)
  | _ => none

def buildTexts (d : Direction) (texts : List (List Char)) : Build Exit := do
  let words := texts.map fun cs => cs.flatMap fun c => Text.utf8Bytes c.toNat
  let words := match d with
    | .forward => words
    | .backward => words.map List.reverse
  let _ ← addState 0
  buildWords (words.foldl (fun n w => max n w.length) 0 + 1) words
  return .plain

/-! ### Patterns -/

/-- Builds alternatives. -/
def buildChoices : List (Build Exit) → Build Exit
  | [] => do
    let _ ← addState 0
    return .plain
  | [b] => b
  | b₁ :: b₂ :: rest => do
    let e₁ ← b₁
    let e₂ ← b₂
    let _ ← addStates 2 (4 * (rest.length + 2))
    e₁.leave
    e₂.leave
    for b in rest do
      (← b).leave
    return .plain

/-- Builds more copies of a part, after one with the given exit. -/
def buildMore (b : Build Exit) : Nat → Exit → Build Exit
  | 0, e => pure e
  | n + 1, e => do
    let next ← b
    e.leave
    buildMore b n next

def buildCopies (b : Build Exit) : Nat → Build Exit
  | 0 => do
    let _ ← addState 0
    return .plain
  | n + 1 => do buildMore b n (← b)

/-- Builds copies of a part that may each be the last. -/
def buildOptional (b : Build Exit) : Nat → Exit → Build Exit
  | 0, e => do
    e.leave
    return .plain
  | n + 1, e => do
    let _ ← addState 8
    let next ← b
    e.leave
    buildOptional b n next

/-- Builds a part that is repeated any number of times, but at least so often. -/
def buildLoop (b : Build Exit) (takesBytes : Bool) : Nat → Build Exit
  | 0 => do
    if takesBytes then
      let _ ← addState 4
      (← b).leave
      return .branch
    else
      (← b).leave
      let _ ← addStates 3 16
      return .plain
  | 1 => do
    let e ← b
    let _ ← addState 4
    e.leave
    return .branch
  | n + 2 => do
    let e ← buildCopies b (n + 1)
    let last ← b
    let _ ← addState 4
    e.leave
    last.leave
    return .branch

def buildRepeated (b : Build Exit) (takesBytes : Bool) (least : Nat) (most : Option Nat) : Build Exit :=
  match least, most with
  | 0, some 1 => do
    let _ ← addState 8
    let e ← b
    let _ ← addState 0
    e.leave
    return .plain
  | least, none => buildLoop b takesBytes least
  | least, some most =>
    if least = most then buildCopies b least
    else do
      let e ← buildCopies b least
      let _ ← addState 0
      buildOptional b (most - least) e

/-- Builds a pattern from its alternatives, which share states if they are all texts. -/
def buildWhole (d : Direction) (p : Pattern) (choices : List (Build Exit)) : Build Exit :=
  match p.texts? with
  | some (t₁ :: t₂ :: ts) => buildTexts d (t₁ :: t₂ :: ts)
  | _ => buildChoices choices

/-- How each alternative of a pattern is built. -/
def builds (d : Direction) : Pattern → List (Build Exit)
  | empty | test _ => [do
    let _ ← addState 0
    return .plain]
  | text cs => [do
    let _ ← addStates (max 1 (textLength cs)) 0
    return .plain]
  | one c => [buildClass d c]
  | group _ p =>
    let inner := buildWhole d p (p.builds d)
    match d with
    | .forward => [do
      let _ ← addState 0
      let e ← inner
      let _ ← addState 0
      e.leave
      return .plain]
    | .backward => [inner]
  | seq p q =>
    let (first, second) := match d with
      | .forward => (buildWhole d p (p.builds d), buildWhole d q (q.builds d))
      | .backward => (buildWhole d q (q.builds d), buildWhole d p (p.builds d))
    [do
      let e ← first
      let next ← second
      e.leave
      return next]
  | either p q => buildWhole d p (p.builds d) :: q.builds d
  | repeated p least most _ =>
    [buildRepeated (buildWhole d p (p.builds d)) (p.minLength.any (0 < ·)) least most]

def build (d : Direction) (p : Pattern) : Build Exit := buildWhole d p (p.builds d)

/-- Whether every match starts with a place where the condition holds. -/
def startsWith (t : PlaceTest) : Pattern → Bool
  | test u => u = t
  | group _ p => p.startsWith t
  | seq p q => p.startsWith t || (p.isPlace && q.startsWith t)
  | either p q => p.startsWith t && q.startsWith t
  | repeated p least _ _ => 0 < least && p.startsWith t
  | _ => false

/-- Whether every match ends with a place where the condition holds. -/
def endsWith (t : PlaceTest) : Pattern → Bool
  | test u => u = t
  | group _ p => p.endsWith t
  | seq p q => q.endsWith t || (q.isPlace && p.endsWith t)
  | either p q => p.endsWith t && q.endsWith t
  | repeated p least _ _ => 0 < least && p.endsWith t
  | _ => false

/-- Builds what skips the bytes before a match, unless a match can only be at the edge of the text. -/
def buildSkip (anchored : Bool) : Build Unit := do
  let _ ← if anchored then addState 0 else addStates 3 16

def buildForward (p : Pattern) : Build Unit := do
  buildSkip (p.startsWith .textStart)
  let e ← (group 0 p).build .forward
  let _ ← addState 0
  e.leave

def buildBackward (p : Pattern) : Build Unit := do
  buildSkip (p.endsWith .textEnd)
  let e ← p.build .backward
  let _ ← addState 0
  e.leave

/-- Whether the automata of a pattern have enough room. Alternatives of 3000 texts or more need no automata, since the
texts are looked for all at once. -/
def fits (p : Pattern) : Bool :=
  p.texts?.any (3000 ≤ ·.length) || ((p.buildForward.run {}).isSome && (p.buildBackward.run {}).isSome)

end Dalvik.Pattern
