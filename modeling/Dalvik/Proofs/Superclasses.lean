import Dalvik.Proofs.ArrayBounds

/-!
# The walk up the superclasses

The superclasses of a type are found by a walk, from each type to its declared superclass, until there is none or it
was passed before. `Hierarchy.Climb` is this walk, a round at a time. Every round but the last one passes a registered
class that was not passed before, so the walk ends whatever is declared (`Climb.effort_lt`), cyclic superclasses
included, and its length is bounded by the number of classes and one more. What it has passed when it ends is
`superclassChain`.

The common supertype of two types takes at most one such walk. `Hierarchy.Common` derives it step by step, so that a
derivation is a computation that ends, and every two types have one.
-/

namespace Dalvik.Hierarchy

/-- A walk up the superclasses: the types it has passed, nearest first, and the one it comes to next. -/
structure Climb where
  passed : List Descriptor
  ahead : Option Descriptor

variable {h : Hierarchy} {a b c d : Descriptor}

namespace Climb
variable {w w' : Climb}

def start (h : Hierarchy) (c : Descriptor) : Climb := ⟨[], h.superclass? c⟩

/-- A round of the walk passes the type ahead, unless that was passed before. -/
inductive Step (h : Hierarchy) : Climb → Climb → Prop
  | pass {passed : List Descriptor} {c : Descriptor} : c ∉ passed →
      Step h ⟨passed, some c⟩ ⟨passed ++ [c], h.superclass? c⟩

/-- The walk goes on to an end, where it has passed these types. -/
def Ends (h : Hierarchy) (w : Climb) (chain : List Descriptor) : Prop :=
  ∃ ahead, Relation.ReflTransGen (Step h) w ⟨chain, ahead⟩ ∧ ∀ w', ¬ Step h ⟨chain, ahead⟩ w'

/-- How many rounds are left at most: one for each class that was not passed, and one for a type that is no class. -/
def effort (h : Hierarchy) (w : Climb) : Nat := (h.others w.passed).length + w.ahead.isSome.toNat

theorem others_concat (passed : List Descriptor) (c : Descriptor) :
    h.others (passed ++ [c]) = h.others (c :: passed) := by
  simp [others, and_comm]

theorem length_others_concat_le (passed : List Descriptor) (c : Descriptor) :
    (h.others (passed ++ [c])).length ≤ (h.others passed).length := by
  refine (List.monotone_filter_right _ fun d hd => ?_).length_le
  simp only [decide_eq_true_eq, List.mem_append, not_or] at hd ⊢
  exact hd.1

theorem effort_lt (hstep : Step h w w') : effort h w' < effort h w := by
  cases hstep with
  | @pass passed c hc =>
    unfold effort
    cases hsuper : h.superclass? c with
    | none =>
      have hle := length_others_concat_le (h := h) passed c
      simp only [Option.isSome_none, Option.isSome_some, Bool.toNat_false, Bool.toNat_true]
      omega
    | some d =>
      have hlt := length_others_cons_lt hc hsuper
      rw [← others_concat] at hlt
      simp only [Option.isSome_some, Bool.toNat_true]
      omega

theorem wellFounded_step (h : Hierarchy) : WellFounded fun w' w => Step h w w' :=
  Subrelation.wf effort_lt (measure (effort h)).wf

theorem step_unique : Relator.RightUnique (Step h) := by
  intro w w₁ w₂ h₁ h₂
  cases h₁ with
  | pass =>
    cases h₂ with
    | pass => rfl

/-- A walk ends in one way only. -/
theorem Ends.unique {chain chain' : List Descriptor} (hends : Ends h w chain) (hends' : Ends h w chain') :
    chain = chain' := by
  obtain ⟨ahead, hrun, hend⟩ := hends
  obtain ⟨ahead', hrun', hend'⟩ := hends'
  rcases Relation.ReflTransGen.total_of_right_unique step_unique hrun hrun' with hmore | hmore
  · rcases hmore.cases_head with heq | ⟨w', hstep, -⟩
    · exact congrArg passed heq
    · exact absurd hstep (hend w')
  · rcases hmore.cases_head with heq | ⟨w', hstep, -⟩
    · exact (congrArg passed heq).symm
    · exact absurd hstep (hend' w')

/-- What is known on the way from a type. -/
structure Inv (h : Hierarchy) (c : Descriptor) (w : Climb) : Prop where
  nodup : w.passed.Nodup
  head : (w.passed ++ w.ahead.toList).head? = h.superclass? c
  links : w.passed.IsChain fun d e => h.superclass? d = some e
  ahead : ∀ d, w.passed.getLast? = some d → h.superclass? d = w.ahead
  length : w.passed.length + effort h w ≤ h.classes.length + 1

namespace Inv

theorem of_start (h : Hierarchy) (c : Descriptor) : Inv h c (start h c) where
  nodup := List.nodup_nil
  head := by simp [start]
  links := List.isChain_nil
  ahead := by simp [start]
  length := by
    have hothers : (h.others []).length ≤ h.classes.length := List.length_filter_le _ _
    have hbit := Bool.toNat_le (h.superclass? c).isSome
    simp only [start, effort, List.length_nil]
    omega

theorem step (hinv : Inv h c w) (hstep : Step h w w') : Inv h c w' := by
  have hlt := effort_lt hstep
  cases hstep with
  | @pass passed d hd =>
    have hlength : passed.length + effort h ⟨passed, some d⟩ ≤ h.classes.length + 1 := hinv.length
    have hlinks : ∀ x ∈ passed.getLast?, ∀ y ∈ [d].head?, h.superclass? x = some y := by
      intro x hx y hy
      obtain rfl : d = y := by simpa using hy
      exact hinv.ahead x hx
    refine ⟨?_, ?_, ?_, ?_, ?_⟩
    · refine List.nodup_append.2 ⟨hinv.nodup, List.nodup_singleton d, ?_⟩
      rintro x hx y hy rfl
      exact hd (List.mem_singleton.1 hy ▸ hx)
    · rw [List.head?_append_of_ne_nil _ (by simp)]
      exact hinv.head
    · exact hinv.links.append (List.isChain_singleton d) hlinks
    · intro x hx
      obtain rfl : d = x := by simpa using hx
      rfl
    · rw [List.length_append, List.length_singleton]
      omega

theorem run (hrun : Relation.ReflTransGen (Step h) (start h c) w) : Inv h c w := by
  induction hrun with
  | refl => exact of_start h c
  | tail _ hstep ih => exact ih.step hstep

end Inv

/-! ### The chain -/

theorem ends_chainFrom {seen passed : List Descriptor} (hseen : ∀ d, d ∈ seen ↔ d ∈ passed) :
    Ends h ⟨passed, some c⟩ (passed ++ h.chainFrom seen c) := by
  fun_induction chainFrom h seen c generalizing passed with
  | case1 seen c hc =>
    refine ⟨some c, by rw [List.append_nil], fun w' hstep => ?_⟩
    cases hstep with
    | pass hnot => exact hnot (List.mem_append_left _ ((hseen c).1 hc))
  | case2 seen c hc hnone =>
    have hstep : Step h ⟨passed, some c⟩ ⟨passed ++ [c], none⟩ := hnone ▸ .pass (mt (hseen c).2 hc)
    exact ⟨none, .single hstep, by rintro w' ⟨⟩⟩
  | case3 seen c hc d hd ih =>
    have hstep : Step h ⟨passed, some c⟩ ⟨passed ++ [c], some d⟩ := hd ▸ .pass (mt (hseen c).2 hc)
    have hseen' : ∀ e, e ∈ c :: seen ↔ e ∈ passed ++ [c] := fun e => by simp [hseen e, or_comm]
    obtain ⟨ahead, hrun, hend⟩ := ih hseen'
    rw [List.append_assoc, List.singleton_append] at hrun hend
    exact ⟨ahead, hrun.head hstep, hend⟩

theorem ends_superclassChain (h : Hierarchy) (c : Descriptor) : (start h c).Ends h (h.superclassChain c) := by
  unfold start superclassChain
  cases h.superclass? c with
  | none => exact ⟨none, .refl, by rintro w' ⟨⟩⟩
  | some d => exact ends_chainFrom fun e => Iff.rfl

theorem ends_iff {chain : List Descriptor} : (start h c).Ends h chain ↔ chain = h.superclassChain c := by
  constructor
  · intro hends
    exact hends.unique (ends_superclassChain h c)
  · rintro rfl
    exact ends_superclassChain h c

end Climb

/-- What the walk from a type passes, and where it stops. -/
structure ClimbsTo (h : Hierarchy) (c : Descriptor) (chain : List Descriptor) : Prop where
  ends : (Climb.start h c).Ends h chain
  nodup : chain.Nodup
  head : chain.head? = h.superclass? c
  links : chain.IsChain fun d e => h.superclass? d = some e
  stop : ∀ d, chain.getLast? = some d → h.superclass? d = none ∨ ∃ e ∈ chain, h.superclass? d = some e
  length : chain.length ≤ h.classes.length + 1

theorem climbsTo_superclassChain (h : Hierarchy) (c : Descriptor) : h.ClimbsTo c (h.superclassChain c) := by
  obtain ⟨ahead, hrun, hend⟩ := Climb.ends_superclassChain h c
  have hinv := Climb.Inv.run hrun
  have hpassed : ∀ e, ahead = some e → e ∈ h.superclassChain c := by
    rintro e rfl
    by_contra hnot
    exact hend _ (.pass hnot)
  refine ⟨⟨ahead, hrun, hend⟩, hinv.nodup, ?_, hinv.links, fun d hd => ?_, ?_⟩
  · rw [← hinv.head]
    cases hchain : h.superclassChain c with
    | nil =>
      cases hahead : ahead with
      | none => rfl
      | some d => exact absurd (hpassed d hahead) (by simp [hchain])
    | cons d rest => rfl
  · rw [hinv.ahead d hd]
    cases hahead : ahead with
    | none => exact .inl rfl
    | some e => exact .inr ⟨e, hpassed e hahead, rfl⟩
  · exact (Nat.le_add_right _ _).trans hinv.length

/-! ### Common supertypes -/

/-- Neither type is assignable to the other one. -/
def Unrelated (h : Hierarchy) (a b : Descriptor) : Prop := h.isAssignable a b = false ∧ h.isAssignable b a = false

/-- How the common supertype of two types is computed. -/
inductive Common (h : Hierarchy) : Descriptor → Descriptor → Option Descriptor → Prop
  | le {a b : Descriptor} : h.isAssignable a b = true → Common h a b (some b)
  | ge {a b : Descriptor} : h.isAssignable a b = false → h.isAssignable b a = true → Common h a b (some a)
  /-- The first superclass of one class that the other one is assignable to. -/
  | classes {a b : Descriptor} {chain : List Descriptor} : a.isClass = true → b.isClass = true → h.Unrelated a b →
      (Climb.start h a).Ends h chain →
      Common h a b (some ((chain.find? (h.isAssignable b)).getD .javaLangObject))
  | elements {a b d : Descriptor} : a.isArray = true → b.isArray = true → h.Unrelated a b → a.dims = b.dims →
      a.element.isClass = true → b.element.isClass = true → Common h a.element b.element (some d) →
      Common h a b (some ⟨a.dims, d.base⟩)
  | arrays {a b : Descriptor} : a.isArray = true → b.isArray = true → h.Unrelated a b →
      (a.dims = b.dims → ¬ (a.element.isClass = true ∧ b.element.isClass = true)) →
      Common h a b (some (commonArray a b))
  | mixed {a b : Descriptor} : a.isReference = true → b.isReference = true → a.isArray ≠ b.isArray → h.Unrelated a b →
      Common h a b (some .javaLangObject)
  | values {a b : Descriptor} : a.isReference = false ∨ b.isReference = false → h.Unrelated a b → Common h a b none

namespace Unrelated

theorem not_le (hab : h.Unrelated a b) : ¬ h.isAssignable a b = true := Bool.eq_false_iff.1 hab.1

theorem not_ge (hab : h.Unrelated a b) : ¬ h.isAssignable b a = true := Bool.eq_false_iff.1 hab.2

theorem commonClass_eq (hab : h.Unrelated a b) : h.commonClass a b = (h.nearest? a b).getD .javaLangObject := by
  rw [commonClass, if_neg hab.not_le, if_neg hab.not_ge]

theorem commonSupertype?_of_mixed (hab : h.Unrelated a b) (ha : a.isReference = true) (hb : b.isReference = true)
    (hmixed : a.isArray ≠ b.isArray) : h.commonSupertype? a b = some .javaLangObject := by
  unfold commonSupertype?
  rw [if_neg hab.not_le, if_neg hab.not_ge]
  obtain ⟨_ | m, x⟩ := a <;> obtain ⟨_ | n, y⟩ := b
  · exact absurd rfl hmixed
  · cases x with
    | void | prim => cases ha
    | object => rfl
  · cases y with
    | void | prim => cases hb
    | object => cases x <;> rfl
  · exact absurd rfl hmixed

theorem commonSupertype?_of_values (hab : h.Unrelated a b) (hvalues : a.isReference = false ∨ b.isReference = false) :
    h.commonSupertype? a b = none := by
  unfold commonSupertype?
  rw [if_neg hab.not_le, if_neg hab.not_ge]
  obtain ⟨_ | m, x⟩ := a <;> obtain ⟨_ | n, y⟩ := b <;> cases x <;> cases y <;>
    first
    | rfl
    | (rcases hvalues with hvalue | hvalue <;> cases hvalue)

end Unrelated

theorem commonSupertype?_of_elements (ha : a.isArray = true) (hdims : a.dims = b.dims) (hx : a.element.isClass = true)
    (hy : b.element.isClass = true) :
    h.commonSupertype? a b = some ⟨a.dims, (h.commonClass a.element b.element).base⟩ := by
  obtain ⟨_ | n, x⟩ := a
  · cases ha
  obtain ⟨_, y⟩ := b
  obtain rfl : n + 1 = _ := hdims
  cases x with
  | void | prim => cases hx
  | object x =>
    cases y with
    | void | prim => cases hy
    | object y => exact commonSupertype?_element n x y

namespace Common

theorem of_isClass (ha : a.isClass = true) (hb : b.isClass = true) : h.Common a b (some (h.commonClass a b)) := by
  cases hab : h.isAssignable a b with
  | true =>
    rw [commonClass, if_pos hab]
    exact .le hab
  | false =>
    cases hba : h.isAssignable b a with
    | true =>
      rw [commonClass, if_neg (Bool.eq_false_iff.1 hab), if_pos hba]
      exact .ge hab hba
    | false =>
      have hunrelated : h.Unrelated a b := ⟨hab, hba⟩
      rw [hunrelated.commonClass_eq]
      exact .classes ha hb hunrelated (Climb.ends_superclassChain h a)

theorem of_isArray (ha : a.isArray = true) (hb : b.isArray = true) (hab : h.Unrelated a b) :
    h.Common a b (h.commonSupertype? a b) := by
  by_cases hsame : a.dims = b.dims ∧ a.element.isClass = true ∧ b.element.isClass = true
  · obtain ⟨hdims, hx, hy⟩ := hsame
    rw [commonSupertype?_of_elements ha hdims hx hy]
    exact .elements ha hb hab hdims hx hy (of_isClass hx hy)
  · have hclasses : a.dims = b.dims → ¬ (a.element.isClass = true ∧ b.element.isClass = true) :=
      fun hdims hboth => hsame ⟨hdims, hboth⟩
    rw [commonSupertype?_of_arrays ha hb hab.not_le hab.not_ge hclasses]
    exact .arrays ha hb hab hclasses

/-- Every two types have a common supertype, or none, by a computation that ends. -/
theorem exists_common (h : Hierarchy) (a b : Descriptor) : h.Common a b (h.commonSupertype? a b) := by
  cases hab : h.isAssignable a b with
  | true =>
    rw [commonSupertype?_of_le hab]
    exact .le hab
  | false =>
    cases hba : h.isAssignable b a with
    | true =>
      rw [commonSupertype?_of_ge hab hba]
      exact .ge hab hba
    | false =>
      have hunrelated : h.Unrelated a b := ⟨hab, hba⟩
      by_cases hvalues : a.isReference = false ∨ b.isReference = false
      · rw [hunrelated.commonSupertype?_of_values hvalues]
        exact .values hvalues hunrelated
      rw [not_or, Bool.not_eq_false, Bool.not_eq_false] at hvalues
      obtain ⟨ha, hb⟩ := hvalues
      by_cases hmixed : a.isArray = b.isArray
      · cases harray : a.isArray with
        | true => exact of_isArray harray (hmixed ▸ harray) hunrelated
        | false =>
          have hclass : a.isClass = true := by simpa [Descriptor.isReference, harray] using ha
          have hclass' : b.isClass = true := by simpa [Descriptor.isReference, ← hmixed, harray] using hb
          rw [commonSupertype?_of_isClass hclass hclass']
          exact of_isClass hclass hclass'
      · rw [hunrelated.commonSupertype?_of_mixed ha hb hmixed]
        exact .mixed ha hb hmixed hunrelated

theorem eq_commonSupertype? {r : Option Descriptor} (hcommon : h.Common a b r) : r = h.commonSupertype? a b := by
  induction hcommon with
  | le hab => exact (commonSupertype?_of_le hab).symm
  | ge hab hba => exact (commonSupertype?_of_ge hab hba).symm
  | classes ha hb hab hends =>
    rw [commonSupertype?_of_isClass ha hb, hab.commonClass_eq, Climb.ends_iff.1 hends]
    rfl
  | elements ha hb hab hdims hx hy _ ih =>
    rw [commonSupertype?_of_isClass hx hy] at ih
    rw [commonSupertype?_of_elements ha hdims hx hy, Option.some.inj ih]
  | arrays ha hb hab hclasses => exact (commonSupertype?_of_arrays ha hb hab.not_le hab.not_ge hclasses).symm
  | mixed ha hb hmixed hab => exact (hab.commonSupertype?_of_mixed ha hb hmixed).symm
  | values hvalues hab => exact (hab.commonSupertype?_of_values hvalues).symm

end Common

/-- Whatever is declared, no walk up the superclasses goes on forever. It passes the chain of superclasses of a type, in
which every type is the superclass of the one before it and none comes twice, and stops only where no other type comes
next. So the computation of a common supertype ends for all types. -/
theorem superclass_walk_ends (h : Hierarchy) :
    (WellFounded fun w' w => Climb.Step h w w') ∧
      (∀ c, h.ClimbsTo c (h.superclassChain c)) ∧
      ∀ a b r, h.Common a b r ↔ r = h.commonSupertype? a b := by
  refine ⟨Climb.wellFounded_step h, h.climbsTo_superclassChain, fun a b r => ⟨Common.eq_commonSupertype?, ?_⟩⟩
  rintro rfl
  exact .exists_common h a b

/-! Two classes that extend each other, and a class that extends itself. -/

def circle : Hierarchy where
  classes := [⟨.object "Dog", 1, some (.object "Cat"), [], [], none⟩,
    ⟨.object "Cat", 1, some (.object "Dog"), [], [], none⟩, ⟨.object "Eel", 1, some (.object "Eel"), [], [], none⟩]
  links := []

theorem superclass_walk_ends_circle :
    circle.ClimbsTo (.object "Dog") [.object "Cat", .object "Dog"] ∧ circle.ClimbsTo (.object "Eel") [.object "Eel"] ∧
      ∃ r, circle.Common (.object "Dog") (.object "Eel") r := by
  have hdog : circle.superclassChain (.object "Dog") = [.object "Cat", .object "Dog"] := by decide +kernel
  have heel : circle.superclassChain (.object "Eel") = [.object "Eel"] := by decide +kernel
  obtain ⟨-, hclimbs, hcommon⟩ := superclass_walk_ends circle
  exact ⟨hdog ▸ hclimbs _, heel ▸ hclimbs _, _, (hcommon _ _ _).2 rfl⟩

end Dalvik.Hierarchy
