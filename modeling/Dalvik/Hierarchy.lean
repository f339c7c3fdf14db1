import Dalvik.AnalysisError
import Dalvik.ClassOracle

/-!
# Class hierarchies

The registered classes, and the links from a class to what it inherits from. Links are set by `close`: each class other
than `java.lang.Object` is linked to its superclass, or to `java.lang.Object` when that is not registered, and to the
interfaces it implements that are registered. Classes registered later have no links until the next `close`.

Assignability of classes is reachability along the links. Arrays follow their elements: of equal dimensions, an array
is assignable as its element is, and a deeper array is assignable to arrays of `java.lang.Object` and of the
interfaces that all arrays implement.

Both walks end on every hierarchy, cyclic ones too: a search never expands a class twice, and a chain of superclasses
stops when it comes back to one of its own classes.
-/

namespace Dalvik

structure Link where
  source : Descriptor
  target : Descriptor

structure Hierarchy where
  /-- In the order of registration. -/
  classes : List ClassDef
  links : List Link

namespace Hierarchy

def empty : Hierarchy := ⟨[], []⟩

def classDef? (h : Hierarchy) (c : Descriptor) : Option ClassDef := h.classes.find? (·.type = c)

def contains (h : Hierarchy) (c : Descriptor) : Bool := h.classes.any (·.type = c)

/-- Registers a class. -/
def insert (h : Hierarchy) (c : ClassDef) : Except AnalysisError Hierarchy :=
  if h.contains c.type then .error (.duplicateClass c.type) else .ok { h with classes := h.classes ++ [c] }

/-! ### Links -/

/-- What a class is linked to. -/
def parents (h : Hierarchy) (c : ClassDef) : List Descriptor :=
  if c.type = .javaLangObject then []
  else (c.superclass.filter h.contains).getD .javaLangObject :: c.interfaces.filter h.contains

def linksOf (h : Hierarchy) (c : ClassDef) : List Link := (h.parents c).map (⟨c.type, ·⟩)

/-- The hierarchy with `java.lang.Object` registered. -/
def withObject (h : Hierarchy) : Hierarchy :=
  if h.contains .javaLangObject then h
  else { h with classes := h.classes ++ [{ type := .javaLangObject, flags := 1, superclass := none }] }

/-- Sets the links of all classes. -/
def close (h : Hierarchy) : Hierarchy :=
  let h := h.withObject
  { h with links := h.classes.flatMap h.linksOf }

def classNotes (h : Hierarchy) (c : ClassDef) : List InheritanceNote :=
  if c.type = .javaLangObject then []
  else
    (if (c.superclass.filter h.contains).isNone then [.missingSuperclass c.type] else []) ++
      (c.interfaces.filter (!h.contains ·)).map (.unknownInterface · c.type)

/-- What `close` reports, class by class in the order of types. -/
def closeNotes (h : Hierarchy) : List InheritanceNote :=
  (h.withObject.classes.mergeSort fun a b => a.type.le b.type).flatMap h.withObject.classNotes

/-- A closed hierarchy of the given classes. -/
def ofClasses (classes : List ClassDef) : Except AnalysisError Hierarchy :=
  return (← classes.foldlM insert empty).close

/-! ### Reachability -/

/-- Targets of the links from a class. -/
def successors (links : List Link) (c : Descriptor) : List Descriptor :=
  (links.filter (·.source = c)).map Link.target

/-- The links whose source has not been visited. -/
def unvisited (links : List Link) (visited : List Descriptor) : List Link :=
  links.filter (·.source ∉ visited)

theorem unvisited_cons (links : List Link) (visited : List Descriptor) (c : Descriptor) :
    unvisited links (c :: visited) = (unvisited links visited).filter (·.source ≠ c) := by
  simp [unvisited, List.filter_filter, not_or]

theorem length_unvisited_cons_lt {links : List Link} {visited : List Descriptor} {c : Descriptor}
    (hc : c ∉ visited) (hs : successors links c ≠ []) :
    (unvisited links (c :: visited)).length < (unvisited links visited).length := by
  obtain ⟨l, hl⟩ := List.exists_mem_of_ne_nil _ (fun h => hs (by simp [successors, h]) :
    links.filter (·.source = c) ≠ [])
  simp only [List.mem_filter, decide_eq_true_eq] at hl
  rw [unvisited_cons, List.length_filter_lt_length_iff_exists]
  exact ⟨l, by simp [unvisited, hl.1, hl.2, hc], by simp [hl.2]⟩

/-- Everything that was visited or that the links lead to from `todo`. -/
def reach (links : List Link) (visited todo : List Descriptor) : List Descriptor :=
  match todo with
  | [] => visited
  | c :: rest =>
    if c ∈ visited then reach links visited rest
    else if successors links c = [] then reach links (c :: visited) rest
    else reach links (c :: visited) (successors links c ++ rest)
termination_by ((unvisited links visited).length, todo.length)
decreasing_by
  · exact Prod.Lex.right _ (by simp)
  · rename_i hc _
    rw [unvisited_cons]
    rcases Nat.lt_or_ge ((unvisited links visited).filter (·.source ≠ c)).length
      (unvisited links visited).length with h | h
    · exact Prod.Lex.left _ _ h
    · rw [Nat.le_antisymm (List.length_filter_le _ _) h]
      exact Prod.Lex.right _ (by simp)
  · rename_i hc hs
    exact Prod.Lex.left _ _ (length_unvisited_cons_lt hc hs)

/-- A class and all it inherits from, directly or not. -/
def ancestors (h : Hierarchy) (c : Descriptor) : List Descriptor := reach h.links [] [c]

/-! ### Assignability -/

/-- Types that all arrays are assignable to. -/
def isArraySupertype (t : Descriptor) : Bool :=
  t = .javaLangObject || t = .javaLangCloneable || t = .javaIoSerializable

/-- Assignability of class types. -/
def isSubclass (h : Hierarchy) (a b : Descriptor) : Bool :=
  a = b || b = .javaLangObject || (h.contains a && h.contains b && b ∈ h.ancestors a)

def isAssignable (h : Hierarchy) (a b : Descriptor) : Bool :=
  a = b || match a, b with
    | .object m, .object n => h.isSubclass (.object m) (.object n)
    | ⟨_ + 1, _⟩, .object n => isArraySupertype (.object n)
    | ⟨m + 1, .object x⟩, ⟨n + 1, .object y⟩ =>
      if m = n then h.isSubclass (.object x) (.object y) else n < m && isArraySupertype (.object y)
    | ⟨m + 1, _⟩, ⟨n + 1, .object y⟩ => n < m && isArraySupertype (.object y)
    | _, _ => false

/-! ### Common supertypes -/

def superclass? (h : Hierarchy) (c : Descriptor) : Option Descriptor := (h.classDef? c).bind ClassDef.superclass

/-- The classes that are not in a list. -/
def others (h : Hierarchy) (seen : List Descriptor) : List ClassDef := h.classes.filter (·.type ∉ seen)

theorem length_others_cons_lt {h : Hierarchy} {seen : List Descriptor} {c d : Descriptor}
    (hc : c ∉ seen) (hd : h.superclass? c = some d) :
    (h.others (c :: seen)).length < (h.others seen).length := by
  obtain ⟨def?, hdef, _⟩ := Option.bind_eq_some_iff.1 hd
  have hmem := List.mem_of_find?_eq_some hdef
  have htype : def?.type = c := by simpa using List.find?_some hdef
  have hsub : h.others (c :: seen) = (h.others seen).filter (·.type ≠ c) := by
    simp [others, List.filter_filter, not_or]
  rw [hsub, List.length_filter_lt_length_iff_exists]
  exact ⟨def?, by simp [others, hmem, htype, hc], by simp [htype]⟩

/-- The type `c`, its superclass, the superclass of that, and so on, without the types in `seen`. -/
def chainFrom (h : Hierarchy) (seen : List Descriptor) (c : Descriptor) : List Descriptor :=
  if c ∈ seen then []
  else match _hd : h.superclass? c with
    | none => [c]
    | some d => c :: h.chainFrom (c :: seen) d
termination_by (h.others seen).length
decreasing_by exact length_others_cons_lt ‹_› ‹_›

/-- The superclasses of a type, nearest first. -/
def superclassChain (h : Hierarchy) (c : Descriptor) : List Descriptor :=
  (h.superclass? c).elim [] (h.chainFrom [])

/-- Where the chain of superclasses comes back to one of its own types. -/
def chainCycle? (h : Hierarchy) (c : Descriptor) : Option Descriptor :=
  (h.superclassChain c).getLast?.bind h.superclass?

/-- The first superclass of `a` that `b` is assignable to. -/
def nearest? (h : Hierarchy) (a b : Descriptor) : Option Descriptor :=
  (h.superclassChain a).find? (h.isAssignable b)

/-- A type both class types are assignable to. -/
def commonClass (h : Hierarchy) (a b : Descriptor) : Descriptor :=
  if h.isAssignable a b then b
  else if h.isAssignable b a then a
  else (h.nearest? a b).getD .javaLangObject

/-- An array of `java.lang.Object` as deep as the shallower array; one dimension less over a primitive kind. -/
def commonArray (a b : Descriptor) : Descriptor :=
  let shallow := if a.dims < b.dims then a else b
  match shallow.base with
  | .prim _ => ⟨shallow.dims - 1, Descriptor.javaLangObject.base⟩
  | _ => ⟨shallow.dims, Descriptor.javaLangObject.base⟩

def commonSupertype? (h : Hierarchy) (a b : Descriptor) : Option Descriptor :=
  if h.isAssignable a b then some b
  else if h.isAssignable b a then some a
  else match a, b with
    | .object m, .object n => some (h.commonClass (.object m) (.object n))
    | ⟨m + 1, .object x⟩, ⟨n + 1, .object y⟩ =>
      if m = n then some ⟨m + 1, (h.commonClass (.object x) (.object y)).base⟩
      else some (commonArray ⟨m + 1, .object x⟩ ⟨n + 1, .object y⟩)
    | ⟨m + 1, x⟩, ⟨n + 1, y⟩ => some (commonArray ⟨m + 1, x⟩ ⟨n + 1, y⟩)
    | ⟨_ + 1, _⟩, .object _ => some .javaLangObject
    | .object _, ⟨_ + 1, _⟩ => some .javaLangObject
    | _, _ => none

/-- What the search for a superclass of both classes reports. -/
def classNotesOf (h : Hierarchy) (a b : Descriptor) : List InheritanceNote :=
  if h.isAssignable a b || h.isAssignable b a then []
  else (h.chainCycle? a).toList.map .cycle ++
    if (h.nearest? a b).isNone then [.noCommonSuperclass a b] else []

def supertypeNotes (h : Hierarchy) (a b : Descriptor) : List InheritanceNote :=
  match a, b with
  | .object m, .object n => h.classNotesOf (.object m) (.object n)
  | ⟨m + 1, .object x⟩, ⟨n + 1, .object y⟩ => if m = n then h.classNotesOf (.object x) (.object y) else []
  | _, _ => []

/-- The oracle that answers from the registered classes. -/
def oracle (h : Hierarchy) : ClassOracle where
  classDef? := h.classDef?
  isAssignable := h.isAssignable
  commonSupertype? := h.commonSupertype?
  supertypeNotes := h.supertypeNotes

end Hierarchy
end Dalvik
