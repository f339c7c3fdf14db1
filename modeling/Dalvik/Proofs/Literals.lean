import Dalvik.Proofs.Lattice

/-!
# Literals by value

The type of a literal keeps nothing of its value but the narrowest kind that holds it. That is enough to tell where the
value fits, with one exception: a value between 2 and 0x7fff is a `char`, but its narrowest kind is `byte` or `short`,
and these do not widen to `char` (`PrimitiveKind.Admits`).

Literal types are `zero` and the literals of integral kinds. Their joins are least upper bounds over every oracle, so
the join of the types of several values is assignable to what all of these types are assignable to.
-/

namespace Dalvik

namespace PrimitiveKind

/-- The values of an integral kind. -/
def Holds : PrimitiveKind → Int → Prop
  | boolean, v => 0 ≤ v ∧ v ≤ 1
  | byte, v => -0x80 ≤ v ∧ v ≤ 0x7f
  | short, v => -0x8000 ≤ v ∧ v ≤ 0x7fff
  | char, v => 0 ≤ v ∧ v ≤ 0xffff
  | int, v => -0x80000000 ≤ v ∧ v ≤ 0x7fffffff
  | float, _ | long, _ | double, _ => False

/-- The values of the kind whose literals are taken for it: as a `char`, only those that are not a `byte` or a `short`
other than 0 and 1. -/
def Admits (k : PrimitiveKind) (v : Int) : Prop := k.Holds v ∧ (k = char → v ≤ 1 ∨ 0x8000 ≤ v)

instance (k : PrimitiveKind) (v : Int) : Decidable (k.Holds v) :=
  match k with
  | boolean | byte | short | char | int => inferInstanceAs (Decidable (_ ∧ _))
  | float | long | double => inferInstanceAs (Decidable False)

instance (k : PrimitiveKind) (v : Int) : Decidable (k.Admits v) := inferInstanceAs (Decidable (_ ∧ _))

variable {k k₁ k₂ k' : PrimitiveKind}

theorem join_widensTo_iff (h : k₁.join k₂ = some k') :
    k'.widensTo k = true ↔ k₁.widensTo k = true ∧ k₂.widensTo k = true := by
  obtain ⟨h₁, h₂⟩ := widensTo_join h
  constructor
  · intro hk
    exact ⟨widensTo_trans h₁ hk, widensTo_trans h₂ hk⟩
  · rintro ⟨hk₁, hk₂⟩
    obtain ⟨least, hleast, hk⟩ := join_least hk₁ hk₂
    cases h.symm.trans hleast
    exact hk

end PrimitiveKind

namespace RegisterType
variable {o : ClassOracle} {k : PrimitiveKind} {t t₁ t₂ : RegisterType}

/-! ### Literal types -/

/-- Types of literals that have a value. -/
inductive IsLiteral : RegisterType → Prop
  | zero : IsLiteral zero
  | literal {k : PrimitiveKind} : k.isIntegral = true → IsLiteral (literal k)

theorem isLiteral_ofLiteral (value : Int) : (ofLiteral value).IsLiteral := by
  fun_cases ofLiteral value <;> first | exact .zero | exact .literal rfl

theorem isAssignable_zero (hk : k.isIntegral = true) : zero.isAssignable o (primitive k) = true := by
  simp [isAssignable, isSingleWord, PrimitiveKind.isWide_of_isIntegral hk]

theorem isAssignable_literal {k' : PrimitiveKind} (hk : k.isIntegral = true) :
    (literal k').isAssignable o (primitive k) = k'.widensTo k := by
  have hfloat : k ≠ .float := by rintro rfl; cases hk
  simp [isAssignable, hfloat]

theorem IsLiteral.join (h₁ : t₁.IsLiteral) (h₂ : t₂.IsLiteral) : (t₁.join o t₂).IsLiteral := by
  cases h₁ with
  | zero =>
    cases h₂ with
    | zero => exact .zero
    | literal hk => exact .literal hk
  | literal hk₁ =>
    cases h₂ with
    | zero => exact .literal hk₁
    | literal hk₂ =>
      obtain ⟨k', hjoin, hk'⟩ := PrimitiveKind.exists_join hk₁ hk₂
      rw [RegisterType.join, hjoin]
      exact .literal hk'

/-- The join of literal types fits where both of them fit. -/
theorem IsLiteral.isAssignable_join_iff (h₁ : t₁.IsLiteral) (h₂ : t₂.IsLiteral) (hk : k.isIntegral = true) :
    (t₁.join o t₂).isAssignable o (primitive k) = true ↔
      t₁.isAssignable o (primitive k) = true ∧ t₂.isAssignable o (primitive k) = true := by
  have hzero := isAssignable_zero (o := o) hk
  cases h₁ with
  | zero => cases h₂ <;> exact (and_iff_right hzero).symm
  | @literal k₁ hk₁ =>
    cases h₂ with
    | zero => exact (and_iff_left hzero).symm
    | @literal k₂ hk₂ =>
      obtain ⟨k', hjoin, -⟩ := PrimitiveKind.exists_join hk₁ hk₂
      have hjoined : (RegisterType.literal k₁).join o (.literal k₂) = .literal k' := by
        rw [RegisterType.join, hjoin]
        rfl
      rw [hjoined, isAssignable_literal hk, isAssignable_literal hk, isAssignable_literal hk]
      exact PrimitiveKind.join_widensTo_iff hjoin

/-! ### Values -/

/-- The join of the types of literals. -/
def ofLiterals (o : ClassOracle) (v : Int32) (vs : List Int32) : RegisterType :=
  vs.foldl (fun t w => t.join o (ofLiteral w.toInt)) (ofLiteral v.toInt)

theorem IsLiteral.isAssignable_foldl_iff {vs : List Int32} (h : t.IsLiteral) (hk : k.isIntegral = true) :
    (vs.foldl (fun t w => t.join o (ofLiteral w.toInt)) t).isAssignable o (primitive k) = true ↔
      t.isAssignable o (primitive k) = true ∧
        ∀ w ∈ vs, (ofLiteral w.toInt).isAssignable o (primitive k) = true := by
  induction vs generalizing t with
  | nil => simp
  | cons w vs ih =>
    have hw := isLiteral_ofLiteral w.toInt
    rw [List.foldl_cons, ih (h.join hw), h.isAssignable_join_iff hw hk, List.forall_mem_cons, and_assoc]

/-- A literal fits the kinds that its narrowest kind widens to. -/
theorem isAssignable_ofLiteral_iff (v : Int32) (hk : k.isIntegral = true) :
    (ofLiteral v.toInt).isAssignable o (primitive k) = true ↔ k.Admits v.toInt := by
  have hlow : -0x80000000 ≤ v.toInt := v.le_toInt
  have hhigh : v.toInt < 0x80000000 := v.toInt_lt
  generalize v.toInt = value at hlow hhigh
  fun_cases ofLiteral value
  case case1 =>
    subst_vars
    rw [isAssignable_zero hk]
    revert hk
    cases k <;> simp [PrimitiveKind.Admits, PrimitiveKind.Holds, PrimitiveKind.isIntegral]
  all_goals
    rw [isAssignable_literal hk]
    revert hk
    cases k <;>
      simp only [PrimitiveKind.Admits, PrimitiveKind.Holds, PrimitiveKind.isIntegral, PrimitiveKind.widensTo] <;>
      simp <;> omega

example : PrimitiveKind.short.Admits 5 ∧ ¬ PrimitiveKind.char.Admits 5 ∧ PrimitiveKind.char.Holds 5 := by decide

/-- A literal is taken for a kind that admits its value, and a join of literals for one that admits all values. -/
theorem literals_admitted_iff (hk : k.isIntegral = true) :
    (∀ v : Int32, (ofLiteral v.toInt).isAssignable o (primitive k) = true ↔ k.Admits v.toInt) ∧
      ∀ (v : Int32) (vs : List Int32), (ofLiterals o v vs).isAssignable o (primitive k) = true ↔
        ∀ w ∈ v :: vs, k.Admits w.toInt := by
  refine ⟨fun v => isAssignable_ofLiteral_iff v hk, fun v vs => ?_⟩
  rw [ofLiterals, (isLiteral_ofLiteral _).isAssignable_foldl_iff hk, List.forall_mem_cons]
  simp only [isAssignable_ofLiteral_iff _ hk]

theorem literals_admitted_char : PrimitiveKind.char.isIntegral = true ∧
    (ofLiterals .silent 1 [0, 0xffff]).isAssignable .silent (primitive .char) = true ∧
    ¬ (ofLiterals .silent 0xffff [-1]).isAssignable .silent (primitive .char) = true := by
  obtain ⟨-, hjoin⟩ := literals_admitted_iff (o := .silent) (k := .char) rfl
  refine ⟨rfl, (hjoin 1 [0, 0xffff]).2 ?_, fun h => ?_⟩
  · simp [PrimitiveKind.Admits, PrimitiveKind.Holds]
  · have hvalue := (hjoin 0xffff [-1]).1 h (-1) (by simp)
    simp [PrimitiveKind.Admits, PrimitiveKind.Holds] at hvalue

/-- The values 5 and 0x8000 are both a `char`, but the literal 5 is not taken for one, and nor is its join with the
other one. -/
theorem literal_in_range_refused : PrimitiveKind.char.isIntegral = true ∧
    PrimitiveKind.char.Holds (5 : Int32).toInt ∧ PrimitiveKind.char.Holds (0x8000 : Int32).toInt ∧
    (ofLiteral (5 : Int32).toInt).isAssignable .silent (primitive .char) = false ∧
    (ofLiterals .silent 0x8000 [5]).isAssignable .silent (primitive .char) = false := by
  have hfive : ofLiteral (5 : Int32).toInt = literal .byte := by simp [ofLiteral]
  have hchar : ofLiteral (0x8000 : Int32).toInt = literal .char := by simp [ofLiteral]
  refine ⟨rfl, by simp [PrimitiveKind.Holds], by simp [PrimitiveKind.Holds], ?_, ?_⟩
  · rw [hfive]
    rfl
  · rw [ofLiterals, List.foldl_cons, List.foldl_nil, hfive, hchar]
    rfl

end RegisterType
end Dalvik
