import Dalvik.Instruction
import Dalvik.Position

/-!
# Code listings

The code of a method: its instructions by increasing address, its register file and its exception handlers. The last
`insSize` registers hold the incoming arguments, the receiver first; the others are locals.

A listing is *linked* when each instruction knows the address of the next one, which is larger; the last instruction
is followed by the address after its own code units. `Code` values are linked, not empty, have room for their
arguments and no empty try range; `Code.locate` refuses everything else.
-/

namespace Dalvik

/-- An instruction at its place in the code. -/
structure LabeledInstr where
  address : Address
  /-- The address of the instruction that follows. -/
  next : Address
  instr : Instr
  position : Position

/-- An instruction with its address, before it is linked to the next one. -/
structure LocatedInstr where
  address : Address
  instr : Instr
  position : Position

structure Handler where
  type : Descriptor
  target : Address

/-- The instructions in `[start, stop)`, with what catches their exceptions. -/
structure TryItem where
  start : Address
  stop : Address
  handlers : List Handler
  catchAll : Option Address

def TryItem.covers (t : TryItem) (a : Address) : Bool := t.start ≤ a && a < t.stop

/-- Every instruction is followed by the next one of the listing, at a larger address. -/
def Linked : List LabeledInstr → Prop
  | [] => True
  | [i] => i.next = i.address + i.instr.size
  | i :: j :: rest => i.next = j.address ∧ i.address < j.address ∧ Linked (j :: rest)

structure Code where
  registersSize : Nat
  insSize : Nat
  instrs : List LabeledInstr
  tries : List TryItem
  instrs_ne_nil : instrs ≠ []
  insSize_le : insSize ≤ registersSize
  linked : Linked instrs
  try_nonempty : ∀ t ∈ tries, t.start < t.stop

namespace LocatedInstr

/-- The first address that is not larger than the one before it. -/
def firstDisorder : List LocatedInstr → Option Address
  | i :: j :: rest => if i.address < j.address then firstDisorder (j :: rest) else some j.address
  | _ => none

def link : List LocatedInstr → List LabeledInstr
  | [] => []
  | [i] => [⟨i.address, i.address + i.instr.size, i.instr, i.position⟩]
  | i :: j :: rest => ⟨i.address, j.address, i.instr, i.position⟩ :: link (j :: rest)

theorem link_cons (i : LocatedInstr) (rest : List LocatedInstr) :
    ∃ next tail, link (i :: rest) = ⟨i.address, next, i.instr, i.position⟩ :: tail := by
  cases rest with
  | nil => exact ⟨_, _, rfl⟩
  | cons j rest => exact ⟨_, _, rfl⟩

theorem link_ne_nil {is : List LocatedInstr} (h : is ≠ []) : link is ≠ [] := by
  cases is with
  | nil => exact absurd rfl h
  | cons i rest =>
    obtain ⟨next, tail, htail⟩ := link_cons i rest
    rw [htail]
    exact List.cons_ne_nil _ _

theorem linked_link {is : List LocatedInstr} (h : firstDisorder is = none) : Linked (link is) := by
  induction is with
  | nil => trivial
  | cons i rest ih =>
    cases rest with
    | nil => rfl
    | cons j rest =>
      simp only [firstDisorder] at h
      split at h
      · rename_i hlt
        obtain ⟨next, tail, htail⟩ := link_cons j rest
        have ih := ih h
        rw [htail] at ih
        rw [link, htail]
        exact ⟨rfl, hlt, ih⟩
      · cases h

/-- Instructions at the addresses their sizes give, from `start` on, with positions that know nothing but the
address. -/
def assemble (start : Address) : List Instr → List LocatedInstr
  | [] => []
  | i :: rest => ⟨start, i, ⟨none, start, .single (-1)⟩⟩ :: assemble (start + i.size) rest

end LocatedInstr

namespace Code

/-- Code from instructions at given addresses. -/
def locate (registersSize insSize : Nat) (listing : List LocatedInstr) (tries : List TryItem) :
    Except Malformed Code :=
  if hnil : listing = [] then .error (.listing .emptyCode)
  else if hins : registersSize < insSize then .error (.listing (.insExceedRegisters insSize registersSize))
  else match horder : LocatedInstr.firstDisorder listing with
    | some a => .error (.listing (.addressNotIncreasing a))
    | none =>
      match htry : tries.find? (fun t => t.stop ≤ t.start) with
      | some t => .error (.listing (.emptyTryRange t.start))
      | none => .ok {
          registersSize, insSize, tries
          instrs := LocatedInstr.link listing
          instrs_ne_nil := LocatedInstr.link_ne_nil hnil
          insSize_le := Nat.le_of_not_lt hins
          linked := LocatedInstr.linked_link horder
          try_nonempty := fun t ht => by simpa using List.find?_eq_none.1 htry t ht }

/-- The largest address a position can record. -/
def maxPositionAddress : Nat := 0x7fffffff

/-- Code from a plain listing: every instruction starts where the one before it ends. -/
def assemble (registersSize insSize : Nat) (instrs : List Instr) (tries : List TryItem) : Except Malformed Code :=
  let listing := LocatedInstr.assemble Address.entry instrs
  match listing.find? (fun i => maxPositionAddress < i.address) with
  | some i => .error (.addressTooLarge i.address)
  | none => locate registersSize insSize listing tries

/-! ### Looking up addresses -/

/-- Where a search by halves for an address ends, among the `size` instructions from the place `base` on. -/
def bisect (instrs : List LabeledInstr) (a : Address) (base size : Nat) : Nat :=
  if size ≤ 1 then base
  else if instrs[base + size / 2]?.any (·.address ≤ a) then bisect instrs a (base + size / 2) (size - size / 2)
  else bisect instrs a base (size - size / 2)
termination_by size

/-- The place of the instruction at an address in the listing. -/
def indexOf? (c : Code) (a : Address) : Option Nat :=
  let n := bisect c.instrs a 0 c.instrs.length
  if c.instrs[n]?.any (·.address = a) then some n else none

def instrAt? (c : Code) (a : Address) : Option LabeledInstr := (c.indexOf? a).bind (c.instrs[·]?)

def index (c : Code) (a : Address) : Except Malformed Nat := (c.indexOf? a).elim (.error (.noInstructionAt a)) .ok

def instrAt (c : Code) (a : Address) : Except Malformed LabeledInstr :=
  (c.instrAt? a).elim (.error (.noInstructionAt a)) .ok

end Code
end Dalvik
