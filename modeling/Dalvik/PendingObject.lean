import Dalvik.Address
import Dalvik.Reference

/-!
# Pending objects

An object is pending from its allocation until a constructor has run on it. Until then it can only be copied and
constructed. Two pending objects are the same when they have the same allocation site and the same type; the number
of the site and the knowledge about the class are labels that the comparison ignores.
-/

namespace Dalvik

/-- The instruction that allocates an object: its method and address. -/
structure AllocationSite where
  method : MethodRef
  pc : Address
deriving DecidableEq

structure PendingObject where
  id : Nat
  type : Descriptor
  /-- Whether the class is defined. -/
  known : Bool
  site : AllocationSite

namespace PendingObject

def same (u v : PendingObject) : Bool := u.site = v.site && u.type = v.type

def text (u : PendingObject) : String := "uninit[" ++ u.type.text ++ "@" ++ u.site.pc.text ++ "]"

/-- All that is known about the object, for inspection. -/
def details (u : PendingObject) : String :=
  "Uninit \x7b id: " ++ toString u.id ++ ", typ: " ++ u.type.text ++ ", known_class: " ++ toString u.known
    ++ ", site: " ++ u.site.method.text ++ "@" ++ u.site.pc.text ++ " \x7d"

theorem same_iff {u v : PendingObject} : u.same v = true ↔ u.site = v.site ∧ u.type = v.type := by
  simp [same]

end PendingObject

/-- The allocation sites of a method, in the order of their discovery. A site keeps its number. -/
structure AllocationSites where
  pcs : List Address := []

namespace AllocationSites

def size (s : AllocationSites) : Nat := s.pcs.length

/-- Records the site of an allocation. -/
def discover (s : AllocationSites) (pc : Address) : AllocationSites :=
  if pc ∈ s.pcs then s else ⟨s.pcs ++ [pc]⟩

/-- The largest number; sites that are found after it was given get it too. -/
def maxId : Nat := 0xffffffff

/-- The number of a recorded site, or the one it gets when it is recorded next. -/
def idOf (s : AllocationSites) (pc : Address) : Nat := min (s.pcs.idxOf pc) maxId

end AllocationSites
end Dalvik
