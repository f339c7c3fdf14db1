import Dalvik.Method
import Dalvik.RegisterType

/-!
# Typing states

The types of all registers at a point of the code, and of two pseudo-registers: the result of the instruction before,
and the exception that was just caught. A register in conflict remembers the two types whose join made it so.

Comparing states with `==` looks at the types only, not at the origins of conflicts.
-/

namespace Dalvik

/-- A register: its type, and the two types that clashed there. -/
structure Slot where
  type : RegisterType
  origin : Option (RegisterType × RegisterType) := none

structure TypeState where
  slots : Array Slot
  exception : Option RegisterType := none
  result : Option RegisterType := none
  /-- The declared result of the method, none for `void`. -/
  expected : Option RegisterType

namespace Slot

/-- Two types that clash become the origin of the conflict; an older conflict keeps its origin. -/
def join (o : ClassOracle) (s t : Slot) : Slot :=
  let joined := s.type.join o t.type
  { type := joined
    origin :=
      if joined.isConflict then
        if s.type.isConflict || t.type.isConflict then s.origin <|> t.origin else some (s.type, t.type)
      else s.origin }

/-- The slot with every copy of `old` replaced. -/
def replace (old new : RegisterType) (s : Slot) : Slot := if s.type == old then ⟨new, none⟩ else s

end Slot

namespace TypeState

def size (s : TypeState) : Nat := s.slots.size

def types (s : TypeState) : List RegisterType := s.slots.toList.map Slot.type

def type? (s : TypeState) (r : Reg) : Option RegisterType := s.slots[r]?.map Slot.type

/-- The two types whose join put the register in conflict. -/
def conflictOrigin? (s : TypeState) (r : Reg) : Option (RegisterType × RegisterType) := s.slots[r]?.bind Slot.origin

def same (s t : TypeState) : Bool :=
  s.types == t.types && s.exception == t.exception && s.result == t.result && s.expected == t.expected

instance : BEq TypeState := ⟨same⟩

def text (s : TypeState) : String :=
  let registers := s.types.zipIdx.map fun (t, i) => Reg.text i ++ ": " ++ t.text
  " ".intercalate registers
    ++ s.exception.elim "" (" last_exception: " ++ ·.text)
    ++ s.result.elim "" (" last_result: " ++ ·.text)

/-! ### Reading and writing -/

def read (s : TypeState) (r : Reg) : Except TypingError RegisterType :=
  match s.type? r with
  | some t => .ok t
  | none => .error (.outOfBounds r)

/-- A state, and the failure that left it as it is. -/
structure Change where
  state : TypeState
  failure : Option TypingError := none

def write (s : TypeState) (r : Reg) (t : RegisterType) : Change :=
  if r < s.size then { state := { s with slots := s.slots.setIfInBounds r ⟨t, none⟩ } }
  else { state := s, failure := some (.outOfBounds r) }

/-- Writes the low half, then the high half. -/
def writePair (s : TypeState) (r : Reg) (t : RegisterType) : Change :=
  let low := s.write r t
  if low.failure.isSome then low else low.state.write (Reg.next r) t

/-- The state in which nothing is in the pseudo-registers. -/
def clearPseudo (s : TypeState) : TypeState := { s with exception := none, result := none }

/-- Number of registers and pseudo-registers that hold the type. -/
def copies (s : TypeState) (t : RegisterType) : Nat :=
  (s.types ++ s.result.toList ++ s.exception.toList).countP (· == t)

/-- The state with every copy of a type replaced. -/
def replace (s : TypeState) (old new : RegisterType) : TypeState :=
  let swap (t : RegisterType) : RegisterType := if t == old then new else t
  { s with slots := s.slots.map (Slot.replace old new), exception := s.exception.map swap,
           result := s.result.map swap }

/-- Registers that hold a pending object, with their types. -/
def pendingRegisters (s : TypeState) : List (Reg × RegisterType) :=
  (s.types.zipIdx.filter (·.1.isPending)).map fun (t, r) => (r, t)

/-! ### Initial states -/

/-- The types of an argument's registers. -/
def argument (t : RegisterType) : List RegisterType := if t.isWide then [t, t] else [t]

/-- The receiver of a method: pending in constructors, except in the one of `java.lang.Object`. -/
def receiver (m : Method) : List RegisterType :=
  if m.isStatic then []
  else if m.isConstructor && m.descriptor.definer ≠ .javaLangObject then [.pendingThis m.descriptor.definer]
  else [.reference m.descriptor.definer]

/-- Number of registers the receiver and the parameters of a method take. -/
def insNeeded (m : Method) : Nat := m.descriptor.paramsWidth + if m.isStatic then 0 else 1

/-- The state at the entry of a method: locals are unknown, then come the receiver and the parameters. -/
def initial (m : Method) (c : Code) : Except TypingError TypeState := do
  if insNeeded m ≠ c.insSize then throw (.badInsSize (insNeeded m) c.insSize)
  let params ← m.descriptor.params.mapM RegisterType.ofDescriptor
  let locals := List.replicate (c.registersSize - c.insSize) RegisterType.unknown
  let types := locals ++ receiver m ++ params.flatMap argument
  return { slots := (types.map fun t => { type := t : Slot }).toArray
           expected := RegisterType.ofResult m.descriptor.result }

/-! ### Joins -/

/-- Join of pseudo-registers: a value is there only if both sides have one. -/
def joinPseudo (o : ClassOracle) : Option RegisterType → Option RegisterType → Option RegisterType
  | some t₁, some t₂ => some (t₁.join o t₂)
  | _, _ => none

/-- Joins the second state into the first one. -/
def join (o : ClassOracle) (s t : TypeState) : Except TypingError TypeState :=
  if s.size = t.size && s.expected == t.expected then
    .ok { s with slots := Array.zipWith (Slot.join o) s.slots t.slots
                 exception := joinPseudo o s.exception t.exception
                 result := joinPseudo o s.result t.result }
  else .error .incompatibleStates

def pseudoNotes (o : ClassOracle) : Option RegisterType → Option RegisterType → List InheritanceNote
  | some t₁, some t₂ => t₁.joinNotes o t₂
  | _, _ => []

/-- What is reported when two states are joined. -/
def joinNotes (o : ClassOracle) (s t : TypeState) : List InheritanceNote :=
  if s.size = t.size && s.expected == t.expected then
    (List.zipWith (RegisterType.joinNotes o) s.types t.types).flatten
      ++ pseudoNotes o s.exception t.exception ++ pseudoNotes o s.result t.result
  else []

/-! ### Branches -/

/-- The state on the other side of a branch. A caught exception is all that is left in the pseudo-registers; a cast
that succeeded gives its type to a reference, and leaves null what it is. -/
def follow (s : TypeState) : Branch → Change
  | .caught t =>
    let s := { s with result := none }
    match RegisterType.ofDescriptor t with
    | .ok t => { state := { s with exception := some t } }
    | .error e => { state := s, failure := some e }
  | .caughtAny => { state := { s with result := none, exception := some (.reference .javaLangThrowable) } }
  | .castSuccess r t =>
    match s.type? r with
    | some (.reference _) => s.write r (.declared t)
    | some _ => { state := s }
    | none => { state := s, failure := some (.outOfBounds r) }
  | _ => { state := s }

end TypeState
end Dalvik
