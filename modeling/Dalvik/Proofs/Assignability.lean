import Dalvik.Proofs.Inheritance

/-!
# The order of types

Types are assignable to each other by three rules (`Conforms`): a type to itself, types of equal dimensions over classes
as their classes are, and a type of more dimensions to a type of fewer ones over `java.lang.Object` or an interface
that all arrays implement. Types that are no arrays have no dimensions here, so the rules need not tell classes from
arrays.

The rules compose as far as they stay among the types that all arrays are assignable to: assignability is transitive
exactly when these inherit from each other only (`isAssignable_trans_iff`). Then it is a partial order over every
hierarchy without cycles (`isAssignable_partialOrder`).
-/

namespace Dalvik.Hierarchy
open Relation

variable {h : Hierarchy} {c d e : Descriptor}

/-- The rules of assignability. -/
inductive Conforms (h : Hierarchy) : Descriptor → Descriptor → Prop
  | refl (d : Descriptor) : Conforms h d d
  | element (n : Nat) {x y : String} : h.isSubclass (.object x) (.object y) = true →
      Conforms h ⟨n, .object x⟩ ⟨n, .object y⟩
  | deeper {m n : Nat} {b : BaseType} {y : String} : n < m → isArraySupertype (.object y) = true →
      Conforms h ⟨m, b⟩ ⟨n, .object y⟩

theorem conforms_of_isAssignable (hcd : h.isAssignable c d = true) : h.Conforms c d := by
  unfold isAssignable at hcd
  rw [Bool.or_eq_true, decide_eq_true_eq] at hcd
  rcases hcd with rfl | hcd
  · exact .refl c
  split at hcd
  · exact .element 0 hcd
  · exact .deeper (Nat.succ_pos _) hcd
  · split at hcd
    · next hdims =>
      subst hdims
      exact .element _ hcd
    · rw [Bool.and_eq_true, decide_eq_true_eq] at hcd
      exact .deeper (Nat.succ_lt_succ hcd.1) hcd.2
  · rw [Bool.and_eq_true, decide_eq_true_eq] at hcd
    exact .deeper (Nat.succ_lt_succ hcd.1) hcd.2
  · cases hcd

theorem isAssignable_iff_conforms : h.isAssignable c d = true ↔ h.Conforms c d := by
  constructor
  · exact conforms_of_isAssignable
  · intro hcd
    unfold isAssignable
    rw [Bool.or_eq_true]
    cases hcd with
    | refl => exact .inl (decide_eq_true rfl)
    | element n hsub =>
      refine .inr ?_
      cases n with
      | zero => exact hsub
      | succ n => exact (if_pos rfl).trans hsub
    | @deeper m n b y hlt hy =>
      refine .inr ?_
      obtain ⟨m, rfl⟩ := Nat.exists_eq_add_one_of_ne_zero (Nat.ne_zero_of_lt hlt)
      cases n with
      | zero => cases b <;> exact hy
      | succ n =>
        have hlt := Nat.lt_of_succ_lt_succ hlt
        have hdeeper : (n < m && isArraySupertype (.object y)) = true := by rw [hy, decide_eq_true hlt]; rfl
        cases b with
        | object x => exact (if_neg hlt.ne').trans hdeeper
        | void | prim => exact hdeeper

/-! ### Rules, one after the other -/

/-- What all arrays are assignable to inherits from nothing else. -/
def ArrayTypesClosed (h : Hierarchy) : Prop := ∀ y z, isArraySupertype (.object y) = true →
  h.isSubclass (.object y) (.object z) = true → isArraySupertype (.object z) = true

namespace Conforms

theorem trans (hh : h.Closed) (harray : h.ArrayTypesClosed) (hcd : h.Conforms c d) (hde : h.Conforms d e) :
    h.Conforms c e := by
  cases hcd with
  | refl => exact hde
  | element n hxy =>
    cases hde with
    | refl => exact .element n hxy
    | element _ hyz => exact .element n (hh.isSubclass_trans hxy hyz)
    | deeper hlt hz => exact .deeper hlt hz
  | deeper hlt hy =>
    cases hde with
    | refl => exact .deeper hlt hy
    | element _ hyz => exact .deeper hlt (harray _ _ hy hyz)
    | deeper hlt' hz => exact .deeper (hlt'.trans hlt) hz

theorem antisymm (hh : h.Closed) (hacyclic : h.Acyclic) (hcd : h.Conforms c d) (hdc : h.Conforms d c) : c = d := by
  cases hcd with
  | refl => rfl
  | element n hxy =>
    cases hdc with
    | refl => rfl
    | element _ hyx =>
      obtain ⟨-, hname⟩ := Descriptor.mk.inj (hh.isSubclass_antisymm hacyclic hxy hyx)
      rw [hname]
    | deeper hlt _ => exact absurd hlt (lt_irrefl n)
  | deeper hlt _ =>
    cases hdc with
    | refl => rfl
    | element => exact absurd hlt (lt_irrefl _)
    | deeper hlt' _ => exact absurd hlt' hlt.asymm

/-- An array is assignable to those classes only that all arrays are assignable to. -/
theorem isArraySupertype_of_array {n : Nat} {b : BaseType} {y : String} (hcd : h.Conforms ⟨n + 1, b⟩ (.object y)) :
    isArraySupertype (.object y) = true := by
  cases hcd with
  | deeper _ hy => exact hy

end Conforms

/-- Assignability composes exactly when what all arrays are assignable to is closed under inheritance: an array is
assignable to all of it by a rule of its own, whatever the links are. -/
theorem isAssignable_trans_iff (hh : h.Closed) :
    (∀ c d e, h.isAssignable c d = true → h.isAssignable d e = true → h.isAssignable c e = true) ↔
      h.ArrayTypesClosed := by
  simp only [isAssignable_iff_conforms]
  constructor
  · intro htrans y z hy hyz
    have hint : h.Conforms ⟨1, .prim .int⟩ (.object z) := htrans _ _ _ (.deeper Nat.one_pos hy) (.element 0 hyz)
    exact hint.isArraySupertype_of_array
  · intro harray c d e hcd hde
    exact hcd.trans hh harray hde

/-- It is enough that the two interfaces inherit from `java.lang.Object` only. -/
theorem arrayTypesClosed_of_links (hh : h.Closed)
    (hcloneable : ∀ d, h.Inherits .javaLangCloneable d → d = .javaLangObject)
    (hserializable : ∀ d, h.Inherits .javaIoSerializable d → d = .javaLangObject) : h.ArrayTypesClosed := by
  intro y z hy hyz
  have hup : ∀ c : Descriptor, isArraySupertype c = true → ∀ d, h.Inherits c d → d = .javaLangObject := by
    intro c hc d hcd
    simp only [isArraySupertype, Bool.or_eq_true, decide_eq_true_eq] at hc
    rcases hc with (rfl | rfl) | rfl
    · exact hh.eq_object_of_reaches (.single hcd)
    · exact hcloneable d hcd
    · exact hserializable d hcd
  rcases hh.isSubclass_iff.1 hyz with hz | hreach
  · rw [hz]
    rfl
  rcases ReflTransGen.cases_head hreach with hyz | ⟨d, hyd, hdz⟩
  · exact hyz ▸ hy
  · rw [hup _ hy d hyd] at hdz
    rw [hh.eq_object_of_reaches hdz]
    rfl

/-- Assignability is a partial order on all types. -/
theorem isAssignable_partialOrder {classes : List ClassDef} (hh : ofClasses classes = .ok h) (hacyclic : h.Acyclic)
    (hcloneable : ∀ d, h.Inherits .javaLangCloneable d → d = .javaLangObject)
    (hserializable : ∀ d, h.Inherits .javaIoSerializable d → d = .javaLangObject) :
    (∀ c, h.isAssignable c c = true) ∧
      (∀ c d e, h.isAssignable c d = true → h.isAssignable d e = true → h.isAssignable c e = true) ∧
      ∀ c d, h.isAssignable c d = true → h.isAssignable d c = true → c = d := by
  have hclosed := closed_ofClasses hh
  refine ⟨fun c => isAssignable_iff_conforms.2 (.refl c), ?_, fun c d hcd hdc => ?_⟩
  · exact (isAssignable_trans_iff hclosed).2 (arrayTypesClosed_of_links hclosed hcloneable hserializable)
  · exact (conforms_of_isAssignable hcd).antisymm hclosed hacyclic (conforms_of_isAssignable hdc)

/-! Stacks can be cloned, as arrays of stacks can. -/

def cloneClasses : List ClassDef :=
  [⟨.object "Stack", 1, some .javaLangObject, [.javaLangCloneable], [], none⟩,
   ⟨.javaLangCloneable, 0x201, some .javaLangObject, [], [], none⟩,
   ⟨.javaLangObject, 1, none, [], [], none⟩]

def clones : Hierarchy where
  classes := cloneClasses
  links := [⟨.object "Stack", .javaLangObject⟩, ⟨.object "Stack", .javaLangCloneable⟩,
    ⟨.javaLangCloneable, .javaLangObject⟩]

theorem acyclic_clones : clones.Acyclic :=
  acyclic_of_rank (fun c => if c = .object "Stack" then 2 else if c = .javaLangCloneable then 1 else 0)
    (by decide +kernel)

/-- From stacks of stacks to what can be cloned and on to objects, one rule after the other. -/
theorem isAssignable_partialOrder_clones : ofClasses cloneClasses = .ok clones ∧ clones.Acyclic ∧
    clones.isAssignable ⟨2, .object "Stack"⟩ (.arrayOf .javaLangObject) = true ∧
    ¬ clones.isAssignable (.arrayOf .javaLangObject) ⟨2, .object "Stack"⟩ = true := by
  have hh : ofClasses cloneClasses = .ok clones := rfl
  have hcloneable : ∀ d, clones.Inherits .javaLangCloneable d → d = .javaLangObject := by
    intro d hd
    simpa [Inherits] using (show d ∈ [Descriptor.javaLangObject] from hd)
  have hserializable : ∀ d, clones.Inherits .javaIoSerializable d → d = .javaLangObject := by
    intro d hd
    exact absurd (show d ∈ [] from hd) List.not_mem_nil
  obtain ⟨-, htrans, hantisymm⟩ := isAssignable_partialOrder hh acyclic_clones hcloneable hserializable
  have hdeeper : clones.isAssignable ⟨2, .object "Stack"⟩ (.arrayOf .javaLangCloneable) = true := rfl
  have helement : clones.isAssignable (.arrayOf .javaLangCloneable) (.arrayOf .javaLangObject) = true := rfl
  have hup := htrans _ _ _ hdeeper helement
  refine ⟨hh, acyclic_clones, hup, fun hdown => ?_⟩
  exact absurd (hantisymm _ _ hup hdown) (by decide)

end Dalvik.Hierarchy
