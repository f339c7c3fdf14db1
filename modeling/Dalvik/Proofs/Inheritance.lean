import Dalvik.Hierarchy
import Dalvik.Proofs.Blocks

/-!
# Inheritance

The links of a closed hierarchy lead from registered classes to registered classes, and none leaves `java.lang.Object`.
The ancestors of a class are what its links lead to (`mem_ancestors`), so assignability of classes is reachability along
links, with `java.lang.Object` above everything (`isSubclass_iff`). It is a preorder on every closed hierarchy, and a
partial order when the links have no cycle.

A class is known to be a class or an interface only when it is registered. In a well-formed hierarchy whatever an
interface inherits from is an interface or `java.lang.Object`, so a class that is not an interface is inherited along
superclasses alone (`superclass?_of_isSubclass`). It is enough that classes and interfaces are kept apart (`Layered`):
what is not registered is neither.
-/

namespace Dalvik.Hierarchy
open Relation

section
variable {links : List Link} {visited todo : List Descriptor} {c d x : Descriptor}

theorem mem_successors : d ∈ successors links c ↔ ⟨c, d⟩ ∈ links := by
  simp only [successors, List.mem_map, List.mem_filter, decide_eq_true_eq]
  constructor
  · rintro ⟨⟨_, _⟩, ⟨hl, rfl⟩, rfl⟩
    exact hl
  · intro hl
    exact ⟨_, ⟨hl, rfl⟩, rfl⟩

theorem reach_sound (hx : x ∈ reach links visited todo) :
    x ∈ visited ∨ ∃ c ∈ todo, ReflTransGen (fun c d => d ∈ successors links c) c x := by
  fun_induction reach links visited todo
  case case1 => exact .inl hx
  case case2 c rest _ ih =>
    rcases ih hx with hx | ⟨d, hd, hx⟩
    · exact .inl hx
    · exact .inr ⟨d, List.mem_cons_of_mem _ hd, hx⟩
  case case3 visited c rest _ _ ih =>
    rcases ih hx with hx | ⟨d, hd, hx⟩
    · rcases List.mem_cons.1 hx with rfl | hx
      · exact .inr ⟨x, List.mem_cons_self, .refl⟩
      · exact .inl hx
    · exact .inr ⟨d, List.mem_cons_of_mem _ hd, hx⟩
  case case4 visited c rest _ _ ih =>
    rcases ih hx with hx | ⟨d, hd, hx⟩
    · rcases List.mem_cons.1 hx with rfl | hx
      · exact .inr ⟨x, List.mem_cons_self, .refl⟩
      · exact .inl hx
    · rcases List.mem_append.1 hd with hd | hd
      · exact .inr ⟨c, List.mem_cons_self, .head hd hx⟩
      · exact .inr ⟨d, List.mem_cons_of_mem _ hd, hx⟩

/-- The result has what was visited or is to be visited, and all successors of what it has. -/
theorem reach_closed (hsub : ∀ c ∈ visited, ∀ d ∈ successors links c, d ∈ visited ∨ d ∈ todo) :
    (∀ c, c ∈ visited ∨ c ∈ todo → c ∈ reach links visited todo) ∧
      ∀ c ∈ reach links visited todo, ∀ d ∈ successors links c, d ∈ reach links visited todo := by
  fun_induction reach links visited todo
  case case1 => exact ⟨by simp, fun c hc d hd => by simpa using hsub c hc d hd⟩
  case case2 c rest hc ih =>
    obtain ⟨hmem, hclosed⟩ := ih (by grind)
    exact ⟨by grind, hclosed⟩
  case case3 visited c rest hc hs ih =>
    obtain ⟨hmem, hclosed⟩ := ih (by grind)
    exact ⟨by grind, hclosed⟩
  case case4 visited c rest hc hs ih =>
    obtain ⟨hmem, hclosed⟩ := ih (by grind)
    exact ⟨by grind, hclosed⟩

end

variable {h : Hierarchy} {c d e : Descriptor}

/-- The class is linked to a class or an interface it inherits from. -/
def Inherits (h : Hierarchy) (c d : Descriptor) : Prop := d ∈ successors h.links c

theorem mem_ancestors : d ∈ h.ancestors c ↔ ReflTransGen h.Inherits c d := by
  constructor
  · intro hd
    rcases reach_sound hd with hnil | ⟨c', hc', hreach⟩
    · cases hnil
    · obtain rfl := List.mem_singleton.1 hc'
      exact hreach
  · intro hd
    obtain ⟨hmem, hclosed⟩ := @reach_closed h.links [] [c] (by simp)
    induction hd with
    | refl => exact hmem c (.inr List.mem_cons_self)
    | tail _ hstep ih => exact hclosed _ ih _ hstep

/-- No class inherits from itself. -/
def Acyclic (h : Hierarchy) : Prop := ∀ c, ¬ TransGen h.Inherits c c

/-- Cycles are found by looking at every link. -/
theorem acyclic_iff : h.Acyclic ↔ ∀ l ∈ h.links, l.source ∉ h.ancestors l.target := by
  constructor
  · intro hacyclic l hl hmem
    exact hacyclic l.source (.head' (mem_successors.2 hl) (mem_ancestors.1 hmem))
  · intro hlinks c hc
    obtain ⟨d, hcd, hdc⟩ := TransGen.head'_iff.1 hc
    exact hlinks ⟨c, d⟩ (mem_successors.1 hcd) (mem_ancestors.2 hdc)

/-- Links that all go down some rank have no cycle. -/
theorem acyclic_of_rank (rank : Descriptor → Nat) (hrank : ∀ l ∈ h.links, rank l.target < rank l.source) :
    h.Acyclic := by
  have hlt : ∀ c d, TransGen h.Inherits c d → rank d < rank c := by
    intro c d hcd
    induction hcd with
    | single hstep => exact hrank _ (mem_successors.1 hstep)
    | tail _ hstep ih => exact (hrank _ (mem_successors.1 hstep)).trans ih
  exact fun c hc => lt_irrefl _ (hlt c c hc)

theorem Acyclic.eq_of_reaches (hacyclic : h.Acyclic) (hcd : ReflTransGen h.Inherits c d)
    (hdc : ReflTransGen h.Inherits d c) : c = d := by
  rcases ReflTransGen.cases_head hcd with rfl | ⟨e, hce, hed⟩
  · rfl
  · exact absurd (.head' hce (hed.trans hdc)) (hacyclic c)

theorem contains_iff : h.contains c = true ↔ ∃ k ∈ h.classes, k.type = c := by simp [contains]

/-- `java.lang.Object` is registered, classes are registered once, and links are as declared. -/
structure Closed (h : Hierarchy) : Prop where
  object : h.contains .javaLangObject = true
  nodup : (h.classes.map (·.type)).Nodup
  links : h.links = h.classes.flatMap h.linksOf

theorem nodup_append_of_not_contains {k : ClassDef} (hnd : (h.classes.map (·.type)).Nodup)
    (hk : ¬ h.contains k.type = true) : ((h.classes ++ [k]).map (·.type)).Nodup := by
  rw [List.map_append, List.nodup_append]
  refine ⟨hnd, List.nodup_singleton _, ?_⟩
  rintro t ht _ hk' rfl
  obtain ⟨k', hmem, rfl⟩ := List.mem_map.1 ht
  exact hk (contains_iff.2 ⟨k', hmem, List.mem_singleton.1 hk'⟩)

theorem insert_eq_ok {k : ClassDef} {h' : Hierarchy} (hinsert : h.insert k = .ok h') :
    ¬ h.contains k.type = true ∧ h' = { h with classes := h.classes ++ [k] } := by
  unfold insert at hinsert
  split at hinsert
  · cases hinsert
  · next hnew =>
    cases hinsert
    exact ⟨hnew, rfl⟩

theorem nodup_insert {k : ClassDef} {h' : Hierarchy} (hnd : (h.classes.map (·.type)).Nodup)
    (hinsert : h.insert k = .ok h') : (h'.classes.map (·.type)).Nodup := by
  obtain ⟨hnew, rfl⟩ := insert_eq_ok hinsert
  exact nodup_append_of_not_contains hnd hnew

theorem nodup_withObject (hnd : (h.classes.map (·.type)).Nodup) : (h.withObject.classes.map (·.type)).Nodup := by
  unfold withObject
  split
  · exact hnd
  · next hobject => exact nodup_append_of_not_contains hnd hobject

theorem contains_withObject (h : Hierarchy) : h.withObject.contains .javaLangObject = true := by
  unfold withObject
  split
  · next hobject => exact hobject
  · exact contains_iff.2 ⟨_, List.mem_append_right _ List.mem_cons_self, rfl⟩

theorem nodup_empty : (empty.classes.map (·.type)).Nodup := List.nodup_nil

theorem closed_close (hnd : (h.classes.map (·.type)).Nodup) : h.close.Closed :=
  ⟨h.contains_withObject, nodup_withObject hnd, rfl⟩

theorem closed_ofClasses {classes : List ClassDef} (hh : ofClasses classes = .ok h) : h.Closed := by
  rw [ofClasses, bind_eq_ok] at hh
  obtain ⟨h₁, hfold, hh⟩ := hh
  obtain rfl := pure_eq_ok.1 hh
  exact closed_close (foldlM_preserves (P := fun h => (h.classes.map (·.type)).Nodup)
    (fun _ _ _ _ hnd hinsert => nodup_insert hnd hinsert) nodup_empty hfold)

namespace Closed
variable (hh : h.Closed)
include hh

theorem classDef?_eq_some {k : ClassDef} : h.classDef? c = some k ↔ k ∈ h.classes ∧ k.type = c := by
  constructor
  · intro hk
    exact ⟨List.mem_of_find?_eq_some hk, by simpa using List.find?_some hk⟩
  · rintro ⟨hk, rfl⟩
    obtain ⟨k', hk'⟩ : ∃ k', h.classDef? k.type = some k' := by
      rw [← Option.isSome_iff_exists, classDef?, List.find?_isSome]
      exact ⟨k, hk, by simp⟩
    have htype : k'.type = k.type := by simpa using List.find?_some hk'
    obtain rfl := List.inj_on_of_nodup_map hh.nodup (List.mem_of_find?_eq_some hk') hk htype
    exact hk'

theorem inherits_iff : h.Inherits c d ↔ ∃ k, h.classDef? c = some k ∧ d ∈ h.parents k := by
  rw [Inherits, mem_successors, hh.links, List.mem_flatMap]
  constructor
  · rintro ⟨k, hk, hlink⟩
    obtain ⟨d, hd, hlink⟩ := List.mem_map.1 hlink
    cases hlink
    exact ⟨k, hh.classDef?_eq_some.2 ⟨hk, rfl⟩, hd⟩
  · rintro ⟨k, hk, hd⟩
    obtain ⟨hmem, rfl⟩ := hh.classDef?_eq_some.1 hk
    exact ⟨k, hmem, List.mem_map.2 ⟨d, hd, rfl⟩⟩

theorem exists_classDef? (hc : h.contains c = true) : ∃ k, h.classDef? c = some k := by
  obtain ⟨k, hk, htype⟩ := contains_iff.1 hc
  exact ⟨k, hh.classDef?_eq_some.2 ⟨hk, htype⟩⟩

theorem contains_of_classDef? {k : ClassDef} (hk : h.classDef? c = some k) : h.contains c = true :=
  contains_iff.2 ⟨k, hh.classDef?_eq_some.1 hk⟩

/-- Links of a class, by its declaration. -/
theorem inherits_cases {k : ClassDef} (hk : h.classDef? c = some k) (hcd : h.Inherits c d) :
    c ≠ .javaLangObject ∧ h.contains d = true ∧
      (k.superclass = some d ∨ d = .javaLangObject ∨ d ∈ k.interfaces) := by
  obtain ⟨k', hk', hd⟩ := hh.inherits_iff.1 hcd
  obtain rfl : k = k' := Option.some.inj (hk.symm.trans hk')
  obtain ⟨-, rfl⟩ := hh.classDef?_eq_some.1 hk
  unfold parents at hd
  split at hd
  · cases hd
  · next hne =>
    refine ⟨hne, ?_⟩
    rcases List.mem_cons.1 hd with rfl | hd
    · cases hsuper : k.superclass.filter h.contains with
      | none => exact ⟨hh.object, .inr (.inl rfl)⟩
      | some d =>
        obtain ⟨hd, hcontains⟩ := Option.filter_eq_some_iff.1 hsuper
        exact ⟨hcontains, .inl hd⟩
    · obtain ⟨hd, hcontains⟩ := List.mem_filter.1 hd
      exact ⟨hcontains, .inr (.inr hd)⟩

theorem inherits_superclass (hc : c ≠ .javaLangObject) (hcd : h.superclass? c = some d) (hd : h.contains d = true) :
    h.Inherits c d := by
  obtain ⟨k, hk, hsuper⟩ := Option.bind_eq_some_iff.1 hcd
  obtain ⟨-, rfl⟩ := hh.classDef?_eq_some.1 hk
  exact hh.inherits_iff.2 ⟨k, hk, by simp [parents, hc, hsuper, Option.filter, hd]⟩

/-- Every registered class but `java.lang.Object` is linked to another one. -/
theorem exists_inherits (hc : h.contains c = true) (hne : c ≠ .javaLangObject) : ∃ d, h.Inherits c d := by
  obtain ⟨k, hk⟩ := hh.exists_classDef? hc
  obtain ⟨-, rfl⟩ := hh.classDef?_eq_some.1 hk
  exact ⟨_, hh.inherits_iff.2 ⟨k, hk, by rw [parents, if_neg hne]; exact List.mem_cons_self⟩⟩

theorem contains_of_inherits (hcd : h.Inherits c d) : h.contains c = true ∧ h.contains d = true := by
  obtain ⟨k, hk, -⟩ := hh.inherits_iff.1 hcd
  exact ⟨hh.contains_of_classDef? hk, (hh.inherits_cases hk hcd).2.1⟩

theorem contains_of_transGen (hcd : TransGen h.Inherits c d) : h.contains c = true ∧ h.contains d = true := by
  induction hcd with
  | single hstep => exact hh.contains_of_inherits hstep
  | tail _ hstep ih => exact ⟨ih.1, (hh.contains_of_inherits hstep).2⟩

theorem eq_object_of_reaches (hd : ReflTransGen h.Inherits .javaLangObject d) : d = .javaLangObject := by
  rcases ReflTransGen.cases_head hd with rfl | ⟨e, he, -⟩
  · rfl
  · obtain ⟨k, hk, -⟩ := hh.inherits_iff.1 he
    exact absurd rfl (hh.inherits_cases hk he).1

theorem isSubclass_iff : h.isSubclass c d = true ↔ d = .javaLangObject ∨ ReflTransGen h.Inherits c d := by
  simp only [isSubclass, Bool.or_eq_true, Bool.and_eq_true, decide_eq_true_eq, mem_ancestors]
  constructor
  · rintro ((rfl | hd) | ⟨-, hcd⟩)
    · exact .inr .refl
    · exact .inl hd
    · exact .inr hcd
  · rintro (hd | hcd)
    · exact .inl (.inr hd)
    · rcases reflTransGen_iff_eq_or_transGen.1 hcd with rfl | htrans
      · exact .inl (.inl rfl)
      · exact .inr ⟨hh.contains_of_transGen htrans, hcd⟩

theorem isSubclass_trans (hcd : h.isSubclass c d = true) (hde : h.isSubclass d e = true) : h.isSubclass c e = true := by
  rw [hh.isSubclass_iff] at hcd hde ⊢
  rcases hde with he | hde
  · exact .inl he
  rcases hcd with rfl | hcd
  · exact .inl (hh.eq_object_of_reaches hde)
  · exact .inr (hcd.trans hde)

theorem isSubclass_antisymm (hacyclic : h.Acyclic) (hcd : h.isSubclass c d = true) (hdc : h.isSubclass d c = true) :
    c = d := by
  rw [hh.isSubclass_iff] at hcd hdc
  rcases hcd with rfl | hcd
  · rcases hdc with hc | hdc
    · exact hc
    · exact hh.eq_object_of_reaches hdc
  rcases hdc with rfl | hdc
  · exact (hh.eq_object_of_reaches hcd).symm
  · exact hacyclic.eq_of_reaches hcd hdc

end Closed

theorem isSubclass_refl (h : Hierarchy) (c : Descriptor) : h.isSubclass c c = true := by simp [isSubclass]

theorem isSubclass_object (h : Hierarchy) (c : Descriptor) : h.isSubclass c .javaLangObject = true := by
  simp [isSubclass]

theorem exists_of_isClass (hc : c.isClass = true) : ∃ n, c = .object n := by
  obtain ⟨_ | _, _ | _ | n⟩ := c <;> first | exact ⟨n, rfl⟩ | cases hc

theorem isAssignable_of_isClass (hc : c.isClass = true) (hd : d.isClass = true) :
    h.isAssignable c d = h.isSubclass c d := by
  obtain ⟨m, rfl⟩ := exists_of_isClass hc
  obtain ⟨n, rfl⟩ := exists_of_isClass hd
  simp only [isAssignable, isSubclass, ← Bool.or_assoc, Bool.or_self]

/-- A class type is assignable to class types only. -/
theorem isClass_of_isAssignable (hc : c.isClass = true) (hcd : h.isAssignable c d = true) : d.isClass = true := by
  obtain ⟨m, rfl⟩ := exists_of_isClass hc
  obtain ⟨_ | _, _ | _ | n⟩ := d <;> first | rfl | simp [isAssignable] at hcd

/-! ### Chains of superclasses -/

namespace Closed
variable (hh : h.Closed)
include hh

/-- A superclass that is not registered has no superclass itself. -/
theorem reaches_of_superclass {a b : Descriptor} (hc : c ≠ .javaLangObject) (hca : h.superclass? c = some a)
    (hab : ReflTransGen h.Inherits a b) (hbe : h.superclass? b = some e) : ReflTransGen h.Inherits c b := by
  have hcontains : h.contains a = true := by
    rcases ReflTransGen.cases_head hab with rfl | ⟨x, hax, -⟩
    · obtain ⟨k, hk, -⟩ := Option.bind_eq_some_iff.1 hbe
      exact hh.contains_of_classDef? hk
    · exact (hh.contains_of_inherits hax).1
  exact .head (hh.inherits_superclass hc hca hcontains) hab

/-- The first type of a chain that has a property which `java.lang.Object` has, or `java.lang.Object`: it is where the
chain starts, or the superclass of a class inherited on the way. -/
theorem chainFrom_find {seen : List Descriptor} {p : Descriptor → Bool} (hp : p .javaLangObject = true)
    (he : ((h.chainFrom seen c).find? p).getD .javaLangObject = e) :
    p e = true ∧ (e = .javaLangObject ∨ e = c ∨
      ∃ d, d ≠ .javaLangObject ∧ ReflTransGen h.Inherits c d ∧ h.superclass? d = some e) := by
  fun_induction chainFrom h seen c
  case case1 => exact ⟨he ▸ hp, .inl he.symm⟩
  case case2 seen c hc hnone =>
    by_cases hpc : p c = true
    · rw [List.find?_cons_of_pos hpc] at he
      cases he
      exact ⟨hpc, .inr (.inl rfl)⟩
    · rw [List.find?_cons_of_neg hpc] at he
      cases he
      exact ⟨hp, .inl rfl⟩
  case case3 seen c hc d hd ih =>
    by_cases hpc : p c = true
    · rw [List.find?_cons_of_pos hpc] at he
      cases he
      exact ⟨hpc, .inr (.inl rfl)⟩
    · rw [List.find?_cons_of_neg hpc] at he
      have hne : c ≠ .javaLangObject := by rintro rfl; exact hpc hp
      obtain ⟨hpe, rest⟩ := ih he
      refine ⟨hpe, ?_⟩
      rcases rest with hobject | rfl | ⟨b, hb, hdb, hbe⟩
      · exact .inl hobject
      · exact .inr (.inr ⟨c, hne, .refl, hd⟩)
      · exact .inr (.inr ⟨b, hb, hh.reaches_of_superclass hne hd hdb hbe, hbe⟩)

/-- What is found for two classes that are not comparable. -/
theorem nearest?_cases (hd : d.isClass = true) (hc : c ≠ .javaLangObject)
    (he : (h.nearest? c d).getD .javaLangObject = e) :
    h.isAssignable d e = true ∧ (e = .javaLangObject ∨
      ∃ b, b ≠ .javaLangObject ∧ ReflTransGen h.Inherits c b ∧ h.superclass? b = some e) := by
  have hobject : h.isAssignable d .javaLangObject = true := by
    rw [isAssignable_of_isClass hd rfl]
    exact h.isSubclass_object d
  unfold nearest? superclassChain at he
  cases hsuper : h.superclass? c with
  | none =>
    rw [hsuper] at he
    exact ⟨he ▸ hobject, .inl he.symm⟩
  | some a =>
    rw [hsuper] at he
    obtain ⟨hde, rest⟩ := hh.chainFrom_find hobject he
    refine ⟨hde, ?_⟩
    rcases rest with he | rfl | ⟨b, hb, hab, hbe⟩
    · exact .inl he
    · exact .inr ⟨c, hc, .refl, hsuper⟩
    · exact .inr ⟨b, hb, hh.reaches_of_superclass hc hsuper hab hbe, hbe⟩

end Closed

theorem ne_object_of_isSubclass_eq_false (hdc : h.isSubclass d c = false) : c ≠ .javaLangObject := by
  rintro rfl
  rw [h.isSubclass_object d] at hdc
  cases hdc

/-- The larger one of two classes, or the nearest superclass of the first one above the second one. -/
theorem commonClass_cases (hc : c.isClass = true) (hd : d.isClass = true) (he : h.commonClass c d = e) :
    h.isSubclass c d = true ∧ e = d ∨ h.isSubclass d c = true ∧ e = c ∨
      h.isSubclass c d = false ∧ h.isSubclass d c = false ∧ (h.nearest? c d).getD .javaLangObject = e := by
  unfold commonClass at he
  rw [isAssignable_of_isClass hc hd, isAssignable_of_isClass hd hc] at he
  split at he
  · next hle => exact .inl ⟨hle, he.symm⟩
  split at he
  · next hge => exact .inr (.inl ⟨hge, he.symm⟩)
  · next hle hge => exact .inr (.inr ⟨Bool.eq_false_iff.2 hle, Bool.eq_false_iff.2 hge, he⟩)

theorem commonSupertype?_of_isClass (hc : c.isClass = true) (hd : d.isClass = true) :
    h.commonSupertype? c d = some (h.commonClass c d) := by
  obtain ⟨m, rfl⟩ := exists_of_isClass hc
  obtain ⟨n, rfl⟩ := exists_of_isClass hd
  unfold commonSupertype?
  split
  · next hle => rw [commonClass, if_pos hle]
  split
  · next hle hge => rw [commonClass, if_neg hle, if_pos hge]
  · rfl

/-! ### Classes and interfaces -/

/-- Whether the type is registered as an interface. -/
def isInterface (h : Hierarchy) (c : Descriptor) : Bool := (h.classDef? c).any ClassDef.isInterface

/-- Superclasses are registered and are no interfaces, what a class implements is a registered interface, and an
interface has no superclass but `java.lang.Object`. -/
structure WellFormed (h : Hierarchy) : Prop where
  superclass : ∀ k ∈ h.classes, ∀ d ∈ k.superclass, h.contains d = true ∧ h.isInterface d = false
  interfaces : ∀ k ∈ h.classes, ∀ d ∈ k.interfaces, h.isInterface d = true
  superclass_interface : ∀ k ∈ h.classes, k.isInterface = true → ∀ d ∈ k.superclass, d = .javaLangObject

/-- Classes and interfaces are kept apart: no superclass is an interface, what a class implements is an interface if it
is registered, and an interface has no superclass but `java.lang.Object`. -/
structure Layered (h : Hierarchy) : Prop where
  superclass : ∀ k ∈ h.classes, ∀ d ∈ k.superclass, h.isInterface d = false
  interfaces : ∀ k ∈ h.classes, ∀ d ∈ k.interfaces, h.contains d = true → h.isInterface d = true
  superclass_interface : ∀ k ∈ h.classes, k.isInterface = true → ∀ d ∈ k.superclass, d = .javaLangObject

/-- Superclasses are registered. -/
def Rooted (h : Hierarchy) : Prop := ∀ k ∈ h.classes, ∀ d ∈ k.superclass, h.contains d = true

theorem WellFormed.layered (hwf : h.WellFormed) : h.Layered where
  superclass k hk d hd := (hwf.superclass k hk d hd).2
  interfaces k hk d hd _ := hwf.interfaces k hk d hd
  superclass_interface := hwf.superclass_interface

theorem WellFormed.rooted (hwf : h.WellFormed) : h.Rooted := fun k hk d hd => (hwf.superclass k hk d hd).1

/-- A type that a class can have as a superclass. -/
def Trunk (h : Hierarchy) (c : Descriptor) : Prop := c = .javaLangObject ∨ h.isInterface c = false

namespace Layered
variable (hh : h.Closed) (hlayered : h.Layered)
include hh hlayered

/-- What an interface inherits from is an interface, but for `java.lang.Object`. -/
theorem isInterface_of_reaches (hc : h.isInterface c = true) (hcd : ReflTransGen h.Inherits c d)
    (hd : d ≠ .javaLangObject) : h.isInterface d = true := by
  induction hcd with
  | refl => exact hc
  | @tail e d hce hed ih =>
    obtain ⟨k, hk, -⟩ := hh.inherits_iff.1 hed
    have hmem := (hh.classDef?_eq_some.1 hk).1
    obtain ⟨he, hcontains, hsuper | hobject | hinterface⟩ := hh.inherits_cases hk hed
    · have hint : k.isInterface = true := by simpa [isInterface, hk] using ih he
      exact absurd (hlayered.superclass_interface k hmem hint d hsuper) hd
    · exact absurd hobject hd
    · exact hlayered.interfaces k hmem d hinterface hcontains

/-- A superclass of a class that is not an interface is inherited from the superclass. -/
theorem superclass?_of_isSubclass (hcd : h.isSubclass c d = true) (hne : c ≠ d) (hobject : d ≠ .javaLangObject)
    (hd : h.isInterface d = false) :
    ∃ e, h.superclass? c = some e ∧ h.Inherits c e ∧ h.isSubclass e d = true := by
  rcases hh.isSubclass_iff.1 hcd with hd' | hcd
  · exact absurd hd' hobject
  rcases ReflTransGen.cases_head hcd with hd' | ⟨e, hce, hed⟩
  · exact absurd hd' hne
  obtain ⟨k, hk, -⟩ := hh.inherits_iff.1 hce
  obtain ⟨-, hcontains, hsuper | rfl | hinterface⟩ := hh.inherits_cases hk hce
  · exact ⟨e, by simp [superclass?, hk, hsuper], hce, hh.isSubclass_iff.2 (.inr hed)⟩
  · exact absurd (hh.eq_object_of_reaches hed) hobject
  · have hint := hlayered.interfaces k (hh.classDef?_eq_some.1 hk).1 e hinterface hcontains
    exact absurd (hlayered.isInterface_of_reaches hh hint hed hobject) (by simp [hd])

/-- A chain is searched no further than the classes above which there are others with the property. -/
theorem isSubclass_chainFrom_find (hacyclic : h.Acyclic) {seen : List Descriptor} {p : Descriptor → Bool}
    (hseen : ∀ e ∈ seen, TransGen h.Inherits e c) (hcd : h.isSubclass c d = true) (hd : h.Trunk d) (hpd : p d = true) :
    h.isSubclass (((h.chainFrom seen c).find? p).getD .javaLangObject) d = true := by
  by_cases hobject : d = .javaLangObject
  · rw [hobject]
    exact h.isSubclass_object _
  have hd : h.isInterface d = false := hd.resolve_left hobject
  -- all of `seen` is below `c`, so the chain does not come back to a class in it
  fun_induction chainFrom h seen c
  case case1 seen c hc => exact absurd (hseen c hc) (hacyclic c)
  case case2 seen c hc hnone =>
    by_cases hne : c = d
    · subst hne
      rw [List.find?_cons_of_pos hpd]
      exact h.isSubclass_refl c
    · obtain ⟨e, he, -⟩ := hlayered.superclass?_of_isSubclass hh hcd hne hobject hd
      rw [hnone] at he
      cases he
  case case3 seen c hc e he ih =>
    by_cases hpc : p c = true
    · rw [List.find?_cons_of_pos hpc]
      exact hcd
    · rw [List.find?_cons_of_neg hpc]
      have hne : c ≠ d := by rintro rfl; exact hpc hpd
      obtain ⟨e', he', hce, hed⟩ := hlayered.superclass?_of_isSubclass hh hcd hne hobject hd
      obtain rfl : e = e' := Option.some.inj (he.symm.trans he')
      refine ih (fun b hb => ?_) hed
      rcases List.mem_cons.1 hb with rfl | hb
      · exact .single hce
      · exact (hseen b hb).tail hce

end Layered

end Dalvik.Hierarchy
