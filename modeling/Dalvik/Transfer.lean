import Dalvik.Effect

/-!
# Transfer over an instruction

The state after an instruction, from the state before it: the pseudo-registers are emptied, the effect of the
instruction is applied, and a complaint is recorded as a violation. Effects are applied even when they fail half-way,
as when the high half of a pair is out of bounds.
-/

namespace Dalvik

/-- What the analysis reports while it goes on. -/
inductive Note where
  | block (start : Address)
  | entryState (s : TypeState)
  | exitState (s : TypeState)
  | instr (i : LabeledInstr)
  | before (s : TypeState)
  | after (s : TypeState)
  | violation (address : Address) (c : Complaint)
  /-- A constructor has run on the object that so many registers hold. -/
  | promoted (object : RegisterType) (copies : Nat)
  /-- Older objects of the same allocation are no longer told apart. -/
  | discarded (object : RegisterType) (copies : Nat)
  | inheritance (note : InheritanceNote)
  | unreachable (start : Address)
  | finished (method : MethodRef) (violations sites : Nat)

def Note.line : Note → LogLine
  | block start => ⟨.debug, "    ---- block@" ++ start.text⟩
  | entryState s => ⟨.debug, "    -- ENTRY STATE: " ++ s.text⟩
  | exitState s => ⟨.debug, "    -- EXIT STATE: " ++ s.text⟩
  | instr i => ⟨.trace, "transfer_instr( " ++ i.text ++ " )"⟩
  | before s => ⟨.trace, "    before: " ++ s.text⟩
  | after s => ⟨.trace, "    after:  " ++ s.text⟩
  | violation address c => ⟨.debug, address.text ++ ": " ++ c.kind.text ++ ": " ++ c.message⟩
  | promoted object copies => ⟨.trace, object.text ++ " promoted in " ++ toString copies ++ " slot(s)"⟩
  | discarded object copies => ⟨.trace, toString copies ++ " stale copies of " ++ object.text ++ " discarded"⟩
  | inheritance note => note.line
  | unreachable start => ⟨.debug, "unreachable block@" ++ start.text⟩
  | finished method violations sites =>
    ⟨.debug, method.text ++ ": " ++ toString violations ++ " violation(s), " ++ toString sites
      ++ " allocation site(s)"⟩

/-- What is known about the code around an instruction: the classes and the method. -/
structure Context where
  oracle : ClassOracle
  method : MethodRef

/-- The outcome of one instruction. -/
structure Transfer where
  state : TypeState
  sites : AllocationSites
  violation : Option Violation := none
  failure : Option TypingError := none
  notes : List Note := []

namespace Context

/-- The object that an allocation at `pc` produces. -/
def allocated (ctx : Context) (sites : AllocationSites) (pc : Address) (type : Descriptor) : RegisterType :=
  .pending { id := sites.idOf pc, type, known := (ctx.oracle.classDef? type).isSome, site := ⟨ctx.method, pc⟩ }

/-- Applies an effect at the address `pc`. -/
def perform (ctx : Context) (sites : AllocationSites) (pc : Address) (s : TypeState) : Effect → Transfer
  | .skip => { state := s, sites }
  | .write r t =>
    let c := s.write r t
    { state := c.state, sites, failure := c.failure }
  | .writePair r t =>
    let c := s.writePair r t
    { state := c.state, sites, failure := c.failure }
  | .yield result => { state := { s with result }, sites }
  | .allocate dst type =>
    let object := ctx.allocated sites pc type
    let stale := s.copies object
    let c := (s.replace object .conflict).write dst object
    { state := c.state, sites := sites.discover pc, failure := c.failure
      notes := if stale = 0 then [] else [.discarded object stale] }
  | .construct object type result =>
    { state := { s.replace object (.reference type) with result }, sites
      notes := [.promoted object (s.copies object)] }

def transfer (ctx : Context) (sites : AllocationSites) (s : TypeState) (i : LabeledInstr) : Transfer :=
  match i.instr.effect ctx.oracle s with
  | .ok e => ctx.perform sites i.address s.clearPseudo e
  | .error (.error e) => { state := s.clearPseudo, sites, failure := some e }
  | .error (.complaint c) =>
    { ctx.perform sites i.address s.clearPseudo i.instr.recovery with
      violation := some ⟨i.address, i.position, c⟩
      notes := [.violation i.address c] }

end Context
end Dalvik
