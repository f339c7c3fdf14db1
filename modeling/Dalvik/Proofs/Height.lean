import Dalvik.Proofs.Assignability
import Dalvik.Proofs.Widening
import Dalvik.Verification

/-!
# How far types can grow

Over an acyclic hierarchy every type has a rank, which bounds how often joins can change it. A class ranks by the number
of its ancestors, and an array type above all types of fewer dimensions. The common supertype of two types is the first
one, or ranks below it (`typeRank_commonSupertype?`), whether or not it is a bound of both.

A register type ranks with the types it can become: a conflict is at the bottom, then come pending objects, primitive
values, literals and references, and at the top null, zero and what is not assigned. These must rank above all
references, so ranks depend on the most dimensions that array types have. A join is its first operand, or ranks below
it (`RegisterType.join_eq_or_rank_lt`), and the same holds of states.
-/

namespace Dalvik
open Relation

namespace Hierarchy
variable {h : Hierarchy} {c d e : Descriptor}

def classRank (h : Hierarchy) (c : Descriptor) : Nat :=
  if c = .javaLangObject then 1
  else if h.contains c then (h.ancestors c).toFinset.card + 1
  else 2

def baseRank (h : Hierarchy) : BaseType → Nat
  | .object name => h.classRank (.object name)
  | _ => h.classes.length + 3

def typeRank (h : Hierarchy) (d : Descriptor) : Nat := d.dims * (h.classes.length + 4) + h.baseRank d.base

theorem classRank_pos (c : Descriptor) : 1 ≤ h.classRank c := by
  unfold classRank
  split_ifs <;> omega

theorem classRank_object : h.classRank .javaLangObject = 1 := if_pos rfl

theorem two_le_classRank (hc : c ≠ .javaLangObject) : 2 ≤ h.classRank c := by
  unfold classRank
  rw [if_neg hc]
  split
  · have hself : c ∈ (h.ancestors c).toFinset := List.mem_toFinset.2 (mem_ancestors.2 .refl)
    have hcard := Finset.card_pos.2 ⟨c, hself⟩
    omega
  · omega

section
variable (hh : h.Closed)
include hh

theorem ancestors_subset (hc : h.contains c = true) :
    (h.ancestors c).toFinset ⊆ (h.classes.map (·.type)).toFinset := by
  intro d hd
  rw [List.mem_toFinset, mem_ancestors] at hd
  rw [List.mem_toFinset, List.mem_map]
  rcases reflTransGen_iff_eq_or_transGen.1 hd with rfl | htrans
  · exact contains_iff.1 hc
  · exact contains_iff.1 (hh.contains_of_transGen htrans).2

theorem classRank_le (c : Descriptor) : h.classRank c ≤ h.classes.length + 2 := by
  unfold classRank
  split
  · omega
  split
  · next hc =>
    have hcard := Finset.card_le_card (ancestors_subset hh hc)
    have hlen := List.toFinset_card_le (h.classes.map (·.type))
    rw [List.length_map] at hlen
    omega
  · omega

variable (hacyclic : h.Acyclic)
include hacyclic

theorem classRank_lt_of_transGen (hcd : TransGen h.Inherits c d) : h.classRank d < h.classRank c := by
  obtain ⟨hc, hd⟩ := hh.contains_of_transGen hcd
  have hne : c ≠ .javaLangObject := by
    rintro rfl
    have := hh.eq_object_of_reaches hcd.to_reflTransGen
    subst this
    exact hacyclic _ hcd
  by_cases hobject : d = .javaLangObject
  · rw [hobject, classRank_object]
    exact two_le_classRank hne
  · unfold classRank
    rw [if_neg hobject, if_pos hd, if_neg hne, if_pos hc]
    have hsub : (h.ancestors d).toFinset ⊂ (h.ancestors c).toFinset := by
      refine Finset.ssubset_iff_of_subset ?_ |>.2 ⟨c, ?_, ?_⟩
      · intro e he
        rw [List.mem_toFinset, mem_ancestors] at he ⊢
        exact hcd.to_reflTransGen.trans he
      · exact List.mem_toFinset.2 (mem_ancestors.2 .refl)
      · rw [List.mem_toFinset, mem_ancestors]
        intro hdc
        exact hacyclic c (hcd.trans_left hdc)
    have hcard := Finset.card_lt_card hsub
    omega

theorem classRank_lt (hcd : h.isSubclass c d = true) (hne : c ≠ d) : h.classRank d < h.classRank c := by
  rcases hh.isSubclass_iff.1 hcd with rfl | hcd
  · rw [classRank_object]
    exact two_le_classRank hne
  rcases reflTransGen_iff_eq_or_transGen.1 hcd with heq | htrans
  · exact absurd heq.symm hne
  · exact classRank_lt_of_transGen hh hacyclic htrans

/-- A class that is not registered ranks below the registered ones. -/
theorem three_le_classRank (hc : h.contains c = true) (hne : c ≠ .javaLangObject) : 3 ≤ h.classRank c := by
  obtain ⟨d, hcd⟩ := hh.exists_inherits hc hne
  unfold classRank
  rw [if_neg hne, if_pos hc]
  have hpair : ({c, d} : Finset Descriptor) ⊆ (h.ancestors c).toFinset := by
    intro e he
    rw [List.mem_toFinset, mem_ancestors]
    rcases Finset.mem_insert.1 he with rfl | he
    · exact .refl
    · rw [Finset.mem_singleton.1 he]
      exact .single hcd
  have hcd' : c ≠ d := by
    rintro rfl
    exact hacyclic c (.single hcd)
  have hcard := Finset.card_le_card hpair
  rw [Finset.card_pair hcd'] at hcard
  omega

/-- What two classes have in common is the first one or ranks below it, though it need not be above it. -/
theorem classRank_commonClass (hc : c.isClass = true) (hd : d.isClass = true) (he : h.commonClass c d = e) :
    e.isClass = true ∧ (e = c ∨ h.classRank e < h.classRank c) := by
  rcases commonClass_cases hc hd he with ⟨hcd, rfl⟩ | ⟨-, rfl⟩ | ⟨-, hdc, he⟩
  · refine ⟨hd, ?_⟩
    by_cases hne : c = e
    · exact .inl hne.symm
    · exact .inr (classRank_lt hh hacyclic hcd hne)
  · exact ⟨hc, .inl rfl⟩
  · have hobject := ne_object_of_isSubclass_eq_false hdc
    obtain ⟨hde, hce⟩ := hh.nearest?_cases hd hobject he
    refine ⟨isClass_of_isAssignable hd hde, .inr ?_⟩
    rcases hce with rfl | ⟨b, hb, hcb, hbe⟩
    · rw [classRank_object]
      exact two_le_classRank hobject
    -- the superclass need not be registered, and then the class is not below it
    by_cases hcontains : h.contains e = true
    · exact classRank_lt_of_transGen hh hacyclic (.tail' hcb (hh.inherits_superclass hb hbe hcontains))
    · have hreg : h.contains c = true := by
        rcases reflTransGen_iff_eq_or_transGen.1 hcb with rfl | htrans
        · obtain ⟨k, hk, -⟩ := Option.bind_eq_some_iff.1 hbe
          exact hh.contains_of_classDef? hk
        · exact (hh.contains_of_transGen htrans).1
      have hrank : h.classRank e ≤ 2 := by
        unfold classRank
        split_ifs <;> omega
      exact hrank.trans_lt (three_le_classRank hh hacyclic hreg hobject)

omit hacyclic in
theorem baseRank_le (b : BaseType) : 1 ≤ h.baseRank b ∧ h.baseRank b ≤ h.classes.length + 3 := by
  cases b with
  | object name => exact ⟨classRank_pos _, (classRank_le hh _).trans (Nat.le_succ _)⟩
  | void | prim => exact ⟨Nat.succ_pos _, Nat.le_refl _⟩

omit hacyclic in
theorem typeRank_lt_of_dims_lt (hdims : d.dims < e.dims) : h.typeRank d < h.typeRank e := by
  have hbase := (baseRank_le hh d.base).2
  have hmul : (d.dims + 1) * (h.classes.length + 4) ≤ e.dims * (h.classes.length + 4) := Nat.mul_le_mul_right _ hdims
  rw [Nat.succ_mul] at hmul
  unfold typeRank
  omega

omit hacyclic in
/-- The dimensions of a type are the leading part of its rank. -/
theorem dims_le_of_typeRank_le (hrank : h.typeRank d ≤ h.typeRank e) : d.dims ≤ e.dims := by
  by_contra hlt
  have := typeRank_lt_of_dims_lt hh (Nat.lt_of_not_le hlt)
  omega

theorem typeRank_isAssignable (hcd : h.isAssignable c d = true) : d = c ∨ h.typeRank d < h.typeRank c := by
  cases conforms_of_isAssignable hcd with
  | refl => exact .inl rfl
  | @element n x y hsub =>
    by_cases hne : x = y
    · exact .inl (by rw [hne])
    · have hlt := classRank_lt hh hacyclic hsub (by simpa using hne)
      exact .inr (Nat.add_lt_add_left hlt _)
  | deeper hlt _ => exact .inr (typeRank_lt_of_dims_lt hh hlt)

omit hh hacyclic in
/-- Of the types of so many dimensions, arrays of `java.lang.Object` rank lowest. -/
theorem typeRank_objectArray (c : Descriptor) :
    ⟨c.dims, Descriptor.javaLangObject.base⟩ = c ∨
      h.typeRank ⟨c.dims, Descriptor.javaLangObject.base⟩ < h.typeRank c := by
  obtain ⟨dims, base⟩ := c
  cases base with
  | object name =>
    by_cases hobject : Descriptor.object name = .javaLangObject
    · exact .inl (by rw [← hobject])
    · have hlt : h.classRank .javaLangObject < h.classRank (.object name) := by
        rw [classRank_object]
        exact two_le_classRank hobject
      exact .inr (Nat.add_lt_add_left hlt _)
  | void | prim =>
    have hlt : h.classRank .javaLangObject < h.classes.length + 3 := by
      rw [classRank_object]
      omega
    exact .inr (Nat.add_lt_add_left hlt _)

omit hacyclic in
theorem typeRank_commonArray (hc : 0 < c.dims) (hd : 0 < d.dims) :
    commonArray c d = c ∨ h.typeRank (commonArray c d) < h.typeRank c := by
  have hle : (if c.dims < d.dims then c else d).dims ≤ c.dims ∧ 0 < (if c.dims < d.dims then c else d).dims := by
    split <;> omega
  unfold commonArray
  generalize (if c.dims < d.dims then c else d) = shallow at hle ⊢
  dsimp only
  split
  · exact .inr (typeRank_lt_of_dims_lt hh (show shallow.dims - 1 < c.dims by omega))
  · rcases Nat.lt_or_eq_of_le hle.1 with hlt | heq
    · exact .inr (typeRank_lt_of_dims_lt hh hlt)
    · rw [heq]
      exact typeRank_objectArray c

theorem typeRank_commonSupertype? (he : h.commonSupertype? c d = some e) : e = c ∨ h.typeRank e < h.typeRank c := by
  unfold commonSupertype? at he
  split at he
  · next hcd =>
    cases he
    exact typeRank_isAssignable hh hacyclic hcd
  split at he
  · cases he
    exact .inl rfl
  have hclass : ∀ x y, ∃ z, h.commonClass (.object x) (.object y) = .object z ∧ ∀ dims,
      (⟨dims, .object z⟩ : Descriptor) = ⟨dims, .object x⟩ ∨
        h.typeRank ⟨dims, .object z⟩ < h.typeRank ⟨dims, .object x⟩ := by
    intro x y
    obtain ⟨hclass, hrank⟩ := classRank_commonClass hh hacyclic (c := .object x) (d := .object y) rfl rfl rfl
    obtain ⟨z, hz⟩ := exists_of_isClass hclass
    refine ⟨z, hz, fun dims => ?_⟩
    rw [hz] at hrank
    rcases hrank with heq | hlt
    · cases heq
      exact .inl rfl
    · exact .inr (Nat.add_lt_add_left hlt _)
  split at he
  · next m n _ _ =>
    obtain ⟨z, hz, hrank⟩ := hclass m n
    rw [hz] at he
    cases he
    exact hrank 0
  · next m x n y _ _ =>
    split at he
    · obtain ⟨z, hz, hrank⟩ := hclass x y
      rw [hz] at he
      cases he
      exact hrank (m + 1)
    · cases he
      exact typeRank_commonArray hh (Nat.succ_pos _) (Nat.succ_pos _)
  · cases he
    exact typeRank_commonArray hh (Nat.succ_pos _) (Nat.succ_pos _)
  · cases he
    exact .inr (typeRank_lt_of_dims_lt hh (Nat.succ_pos _))
  · next name _ _ _ _ =>
    cases he
    exact typeRank_objectArray (.object name)
  · cases he

end

end Hierarchy

/-! ### Register types -/

/-- A kind ranks above the kinds it widens to. -/
def PrimitiveKind.wideningRank : PrimitiveKind → Nat
  | boolean => 4
  | byte => 3
  | short | char => 2
  | int | long | float | double => 1

theorem PrimitiveKind.wideningRank_le (k : PrimitiveKind) : 1 ≤ k.wideningRank ∧ k.wideningRank ≤ 4 := by
  cases k <;> decide

theorem PrimitiveKind.wideningRank_join {k₁ k₂ k : PrimitiveKind} (hk : k₁.join k₂ = some k) :
    (k = k₁ ∨ k.wideningRank < k₁.wideningRank) ∧ (k = k₂ ∨ k.wideningRank < k₂.wideningRank) := by
  revert hk
  cases k₁ <;> cases k₂ <;> cases k <;> decide

namespace RegisterType
variable {h : Hierarchy} {depth : Nat} {a b : RegisterType}

/-- The dimensions of a type of objects. -/
def dims : RegisterType → Nat
  | reference t | pendingThis t => t.dims
  | pending u => u.type.dims
  | _ => 0

def rank (h : Hierarchy) (depth : Nat) : RegisterType → Nat
  | conflict => 0
  | pending _ | pendingThis _ => 1
  | primitive k => k.wideningRank
  | wideLiteral => 2
  | literal k => k.wideningRank + 4
  | reference t => h.typeRank t
  | null => (depth + 1) * (h.classes.length + 4)
  | zero => (depth + 1) * (h.classes.length + 4) + 5
  | unknown => (depth + 1) * (h.classes.length + 4) + 8

theorem joinLiteral_cases (k₁ k₂ : PrimitiveKind) : joinLiteral k₁ k₂ = conflict ∨
    ∃ k, joinLiteral k₁ k₂ = primitive k ∧ (k = k₂ ∨ k.wideningRank < k₂.wideningRank) := by
  unfold joinLiteral
  split
  · next hfloat => exact .inr ⟨.float, rfl, .inl hfloat.symm⟩
  split
  · cases hk : k₁.join k₂ with
    | none => exact .inl rfl
    | some k => exact .inr ⟨k, rfl, (PrimitiveKind.wideningRank_join hk).2⟩
  · exact .inl rfl

section
variable (hh : h.Closed)
include hh

theorem rank_reference_lt {t : Descriptor} (ht : t.dims ≤ depth) :
    h.typeRank t < (depth + 1) * (h.classes.length + 4) := by
  have hbase := (Hierarchy.baseRank_le hh t.base).2
  have hmul : (t.dims + 1) * (h.classes.length + 4) ≤ (depth + 1) * (h.classes.length + 4) :=
    Nat.mul_le_mul_right _ (Nat.succ_le_succ ht)
  rw [Nat.succ_mul] at hmul
  unfold Hierarchy.typeRank
  omega

theorem rank_le_height (ha : a.dims ≤ depth) : a.rank h depth ≤ h.height depth := by
  unfold Hierarchy.height
  cases a with
  | reference t =>
    have := rank_reference_lt hh ha
    show h.typeRank t ≤ _
    omega
  | primitive k | literal k =>
    have := k.wideningRank_le
    simp only [rank]
    omega
  | _ => simp only [rank]; omega

theorem rank_pos (ha : a ≠ conflict) : 0 < a.rank h depth := by
  cases a with
  | conflict => exact absurd rfl ha
  | primitive k | literal k =>
    have := k.wideningRank_le
    simp only [rank]
    omega
  | reference t =>
    have := (Hierarchy.baseRank_le hh t.base).1
    simp only [rank, Hierarchy.typeRank]
    omega
  | null => exact Nat.mul_pos (Nat.succ_pos _) (Nat.succ_pos _)
  | _ => simp only [rank]; omega

theorem rank_lt_unknown (hb : b.dims ≤ depth) (hne : b ≠ unknown) : b.rank h depth < unknown.rank h depth := by
  have hmul : 1 * 4 ≤ (depth + 1) * (h.classes.length + 4) := Nat.mul_le_mul (by omega) (by omega)
  cases b with
  | unknown => exact absurd rfl hne
  | reference t =>
    have := rank_reference_lt hh hb
    simp only [rank]
    omega
  | primitive k | literal k =>
    have := k.wideningRank_le
    simp only [rank]
    omega
  | _ => simp only [rank]; omega

theorem rank_lt_zero (hb : b.dims ≤ depth) (hfits : (b.isSingleWord || b.isReferenceLike) = true) (hne : b ≠ zero) :
    b.rank h depth < zero.rank h depth := by
  have hmul : 1 * 4 ≤ (depth + 1) * (h.classes.length + 4) := Nat.mul_le_mul (by omega) (by omega)
  cases b with
  | zero => exact absurd rfl hne
  | reference t =>
    have := rank_reference_lt hh hb
    simp only [rank]
    omega
  | primitive k | literal k =>
    have := k.wideningRank_le
    simp only [rank]
    omega
  | null => simp only [rank]; omega
  | _ => cases hfits

variable (hacyclic : h.Acyclic)
include hacyclic

theorem joinReference_eq_or_rank_lt {t u : Descriptor} (ht : t.dims ≤ depth) :
    (joinReference h.oracle t u = reference t ∨
      (joinReference h.oracle t u).rank h depth < (reference t).rank h depth) ∧
      (joinReference h.oracle t u).dims ≤ depth := by
  unfold joinReference
  split
  · exact ⟨.inl rfl, ht⟩
  · cases hv : h.commonSupertype? t u with
    | none =>
      rw [show h.oracle.commonSupertype? t u = none from hv]
      exact ⟨.inr (rank_pos hh (by simp)), Nat.zero_le _⟩
    | some v =>
      rw [show h.oracle.commonSupertype? t u = some v from hv]
      rcases Hierarchy.typeRank_commonSupertype? hh hacyclic hv with rfl | hlt
      · exact ⟨.inl rfl, ht⟩
      · exact ⟨.inr hlt, (Hierarchy.dims_le_of_typeRank_le hh hlt.le).trans ht⟩

/-- A join is its first operand or ranks below it, and has no deeper arrays than those it joins. -/
theorem join_eq_or_rank_lt (ha : a.dims ≤ depth) (hb : b.dims ≤ depth) :
    (a.join h.oracle b = a ∨ (a.join h.oracle b).rank h depth < a.rank h depth) ∧ (a.join h.oracle b).dims ≤ depth := by
  have hconflict : ∀ {x : RegisterType}, x ≠ conflict →
      (conflict = x ∨ conflict.rank h depth < x.rank h depth) ∧ conflict.dims ≤ depth :=
    fun hx => ⟨.inr (rank_pos hh hx), Nat.zero_le _⟩
  fun_cases join h.oracle a b
  case case1 => exact ⟨.inl rfl, ha⟩
  case case2 hne => exact hconflict hne
  case case3 =>
    by_cases hne : b = unknown
    · exact ⟨.inl hne, hb⟩
    · exact ⟨.inr (rank_lt_unknown hh hb hne), hb⟩
  case case4 => exact ⟨.inl rfl, ha⟩
  case case5 =>
    unfold joinZero
    split
    · next hfits =>
      by_cases hne : b = zero
      · exact ⟨.inl hne, hb⟩
      · exact ⟨.inr (rank_lt_zero hh hb hfits hne), hb⟩
    · exact hconflict (by simp)
  case case6 hne _ _ =>
    unfold joinZero
    split
    · exact ⟨.inl rfl, ha⟩
    · exact hconflict hne
  case case7 k₁ k₂ =>
    cases hk : k₁.join k₂ with
    | none => exact hconflict (by simp)
    | some k =>
      rcases (PrimitiveKind.wideningRank_join hk).1 with rfl | hlt
      · exact ⟨.inl rfl, Nat.zero_le _⟩
      · exact ⟨.inr hlt, Nat.zero_le _⟩
  case case8 k₁ k₂ =>
    cases hk : k₁.join k₂ with
    | none => exact hconflict (by simp)
    | some k =>
      rcases (PrimitiveKind.wideningRank_join hk).1 with rfl | hlt
      · exact ⟨.inl rfl, Nat.zero_le _⟩
      · exact ⟨.inr (Nat.add_lt_add_right hlt 4), Nat.zero_le _⟩
  case case9 k₁ k₂ =>
    rcases joinLiteral_cases k₁ k₂ with heq | ⟨k, heq, -⟩
    · exact heq ▸ hconflict (by simp)
    · rw [heq]
      have hk := k.wideningRank_le
      have hk₁ := k₁.wideningRank_le
      exact ⟨.inr (by simp only [rank]; omega), Nat.zero_le _⟩
  case case10 k₂ k₁ =>
    rcases joinLiteral_cases k₁ k₂ with heq | ⟨k, heq, rfl | hlt⟩
    · exact heq ▸ hconflict (by simp)
    · exact ⟨.inl heq, heq ▸ Nat.zero_le _⟩
    · rw [heq]
      exact ⟨.inr hlt, Nat.zero_le _⟩
  case case11 => exact ⟨.inl rfl, ha⟩
  case case12 k hwide =>
    have hk : k.wideningRank < 2 := by cases k <;> first | decide | cases hwide
    exact ⟨.inr hk, Nat.zero_le _⟩
  case case13 => exact hconflict (by simp)
  case case14 => exact ⟨.inl rfl, ha⟩
  case case15 => exact hconflict (by simp)
  case case16 => exact ⟨.inl rfl, ha⟩
  case case17 => exact ⟨.inr (rank_reference_lt hh hb), hb⟩
  case case18 => exact ⟨.inl rfl, ha⟩
  case case19 => exact joinReference_eq_or_rank_lt hh hacyclic ha
  case case20 => exact ⟨.inl rfl, ha⟩
  case case21 => exact hconflict (by simp)
  case case22 => exact ⟨.inl rfl, ha⟩
  case case23 => exact hconflict (by simp)
  case case24 => exact hconflict (by simpa)

end

end RegisterType

/-! ### States -/

namespace TypeState
variable {h : Hierarchy} {depth : Nat} {s t e : TypeState}

/-- The types of all registers and pseudo-registers have a property. -/
structure All (P : RegisterType → Prop) (s : TypeState) : Prop where
  types : ∀ t ∈ s.types, P t
  exception : ∀ t ∈ s.exception, P t
  result : ∀ t ∈ s.result, P t

/-- No type in the state has more dimensions than the given number. -/
def Shallow (depth : Nat) (s : TypeState) : Prop := s.All fun t => t.dims ≤ depth

/-- A value in a pseudo-register can be lost altogether. -/
def pseudoRank (h : Hierarchy) (depth : Nat) (t : Option RegisterType) : Nat := t.elim 0 fun t => t.rank h depth + 1

def rank (h : Hierarchy) (depth : Nat) (s : TypeState) : Nat :=
  (s.types.map (·.rank h depth)).sum + pseudoRank h depth s.exception + pseudoRank h depth s.result

theorem types_join {o : ClassOracle} (he : s.join o t = .ok e) :
    e.types = List.zipWith (fun a b => a.join o b) s.types t.types := by
  unfold join at he
  split at he
  · cases he
    simp [types, List.map_zipWith, List.zipWith_map, Slot.join]
  · cases he

section
variable (hh : h.Closed) (hacyclic : h.Acyclic)
include hh

omit hh in
theorem pseudoRank_le_height {t : Option RegisterType} (ht : ∀ t' ∈ t, t'.rank h depth ≤ h.height depth) :
    pseudoRank h depth t ≤ h.height depth + 1 := by
  cases t with
  | none => exact Nat.zero_le _
  | some t => exact Nat.succ_le_succ (ht t rfl)

theorem rank_le_height (hs : s.Shallow depth) : s.rank h depth ≤ (s.size + 2) * (h.height depth + 1) := by
  have htypes : (s.types.map (·.rank h depth)).sum ≤ s.size * h.height depth := by
    have hsum := List.sum_le_card_nsmul (s.types.map (·.rank h depth)) (h.height depth) (by
      intro n hn
      obtain ⟨t, ht, rfl⟩ := List.mem_map.1 hn
      exact RegisterType.rank_le_height hh (hs.types t ht))
    rwa [List.length_map, length_types, smul_eq_mul] at hsum
  have hexception := pseudoRank_le_height fun t ht => RegisterType.rank_le_height hh (hs.exception t ht)
  have hresult := pseudoRank_le_height fun t ht => RegisterType.rank_le_height hh (hs.result t ht)
  have hsplit : (s.size + 2) * (h.height depth + 1) =
      s.size * h.height depth + s.size + 2 * (h.height depth + 1) := by ring
  unfold rank
  omega

include hacyclic

theorem zipWith_join {l l' : List RegisterType} (hlen : l.length = l'.length) (hl : ∀ t ∈ l, t.dims ≤ depth)
    (hl' : ∀ t ∈ l', t.dims ≤ depth) :
    (List.zipWith (fun a b => a.join h.oracle b) l l' = l ∨
      ((List.zipWith (fun a b => a.join h.oracle b) l l').map (·.rank h depth)).sum < (l.map (·.rank h depth)).sum) ∧
      ∀ t ∈ List.zipWith (fun a b => a.join h.oracle b) l l', t.dims ≤ depth := by
  induction l generalizing l' with
  | nil => simp
  | cons a l ih =>
    cases l' with
    | nil => cases hlen
    | cons b l' =>
      obtain ⟨hchange, hdims⟩ := ih (Nat.succ.inj hlen) (fun t ht => hl t (List.mem_cons_of_mem _ ht))
        fun t ht => hl' t (List.mem_cons_of_mem _ ht)
      obtain ⟨hhead, hhdims⟩ := RegisterType.join_eq_or_rank_lt hh hacyclic (hl a List.mem_cons_self)
        (hl' b List.mem_cons_self)
      refine ⟨?_, fun t ht => ?_⟩
      · simp only [List.zipWith_cons_cons, List.map_cons, List.sum_cons, List.cons.injEq]
        rcases hhead with hhead | hhead
        · rcases hchange with hchange | hchange
          · exact .inl ⟨hhead, hchange⟩
          · rw [hhead]
            exact .inr (by omega)
        · rcases hchange with hchange | hchange
          · rw [hchange]
            exact .inr (by omega)
          · exact .inr (by omega)
      · rcases List.mem_cons.1 ht with rfl | ht
        · exact hhdims
        · exact hdims t ht

theorem joinPseudo_eq_or_rank_lt {x y : Option RegisterType} (hx : ∀ t ∈ x, t.dims ≤ depth)
    (hy : ∀ t ∈ y, t.dims ≤ depth) :
    (joinPseudo h.oracle x y = x ∨ pseudoRank h depth (joinPseudo h.oracle x y) < pseudoRank h depth x) ∧
      ∀ t ∈ joinPseudo h.oracle x y, t.dims ≤ depth := by
  cases x with
  | none => exact ⟨.inl rfl, by simp [joinPseudo]⟩
  | some a =>
    cases y with
    | none => exact ⟨.inr (Nat.succ_pos _), by simp [joinPseudo]⟩
    | some b =>
      obtain ⟨hchange, hdims⟩ := RegisterType.join_eq_or_rank_lt hh hacyclic (hx a rfl) (hy b rfl)
      refine ⟨?_, fun t ht => ?_⟩
      · rcases hchange with hchange | hchange
        · exact .inl (congrArg some hchange)
        · exact .inr (Nat.succ_lt_succ hchange)
      · cases ht
        exact hdims

/-- A join of states is the first state or ranks below it. -/
theorem join_beq_or_rank_lt (hs : s.Shallow depth) (ht : t.Shallow depth) (he : s.join h.oracle t = .ok e) :
    ((e == s) = true ∧ e.rank h depth = s.rank h depth ∨ e.rank h depth < s.rank h depth) ∧ e.Shallow depth := by
  obtain ⟨hsize, -, -, hexpected, hexception, hresult⟩ := join_eq_ok he
  have hlen : s.types.length = t.types.length := by rw [length_types, length_types, hsize]
  obtain ⟨htypes', hdims⟩ := zipWith_join hh hacyclic hlen hs.types ht.types
  obtain ⟨hexception', hdims'⟩ := joinPseudo_eq_or_rank_lt hh hacyclic hs.exception ht.exception
  obtain ⟨hresult', hdims''⟩ := joinPseudo_eq_or_rank_lt hh hacyclic hs.result ht.result
  rw [← types_join he] at htypes' hdims
  rw [← hexception] at hexception' hdims'
  rw [← hresult] at hresult' hdims''
  refine ⟨?_, hdims, hdims', hdims''⟩
  unfold rank
  -- any part that changes ranks lower, and no part ranks higher
  have htypesLe : (e.types.map (·.rank h depth)).sum ≤ (s.types.map (·.rank h depth)).sum :=
    htypes'.elim (fun heq => by rw [heq]) Nat.le_of_lt
  have hexceptionLe : pseudoRank h depth e.exception ≤ pseudoRank h depth s.exception :=
    hexception'.elim (fun heq => by rw [heq]) Nat.le_of_lt
  have hresultLe : pseudoRank h depth e.result ≤ pseudoRank h depth s.result :=
    hresult'.elim (fun heq => by rw [heq]) Nat.le_of_lt
  rcases htypes' with h₁ | h₁
  · rcases hexception' with h₂ | h₂
    · rcases hresult' with h₃ | h₃
      · exact .inl ⟨beq_iff_unlabeled.2 ⟨by rw [h₁], by rw [h₂], by rw [h₃], by rw [hexpected]⟩, by rw [h₁, h₂, h₃]⟩
      · exact .inr (by omega)
    · exact .inr (by omega)
  · exact .inr (by omega)

end

end TypeState
end Dalvik
