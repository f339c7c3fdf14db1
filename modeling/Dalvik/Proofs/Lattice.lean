import Dalvik.Proofs.PostFixpoint

/-!
# Register types as a semilattice

A join of two types is the larger one when they are comparable. Otherwise it is a bound that is least among some bounds
only: over an oracle that knows least upper bounds, among all of them; over class tables, among those that are not
interfaces. Both are instances of one notion (`TrunkJoin`), in which joins do not depend on the order of the operands,
and depend on their grouping exactly when a third operand bounds two others that have a larger join
(`TrunkJoin.assoc_iff`).

Over an oracle that knows least upper bounds (`ClassOracle.LeastBounds`), assignability makes the types whose literals
are integral a semilattice, up to the labels of pending objects, and joins are its least upper bounds
(`RegisterType.joinSemilattice`).
-/

namespace Dalvik

/-- The join of two elements is the larger of them, or the least of their bounds in `T`, which it is in. -/
structure TrunkJoin {α : Type} (le : α → α → Prop) (join : α → α → α) (T : α → Prop) : Prop where
  refl : ∀ a, le a a
  trans : ∀ a b c, le a b → le b c → le a c
  left : ∀ a b, le a (join a b)
  right : ∀ a b, le b (join a b)
  of_le : ∀ a b, le a b → le (join a b) b
  of_ge : ∀ a b, le b a → le (join a b) a
  trunk : ∀ a b, ¬ le a b → ¬ le b a → T (join a b)
  least : ∀ a b c, T c → le a c → le b c → le (join a b) c

namespace TrunkJoin
variable {α : Type} {le : α → α → Prop} {join : α → α → α} {T : α → Prop} {a b c : α}

theorem flip (h : TrunkJoin le join T) : TrunkJoin le (fun a b => join b a) T where
  refl := h.refl
  trans := h.trans
  left a b := h.right b a
  right a b := h.left b a
  of_le a b := h.of_ge b a
  of_ge a b := h.of_le b a
  trunk a b hab hba := h.trunk b a hba hab
  least a b c hc ha hb := h.least b a c hc hb ha

theorem comm (h : TrunkJoin le join T) (a b : α) : le (join a b) (join b a) := by
  by_cases hab : le a b
  · exact h.trans _ _ _ (h.of_le a b hab) (h.left b a)
  by_cases hba : le b a
  · exact h.trans _ _ _ (h.of_ge a b hba) (h.right b a)
  · exact h.least _ _ _ (h.trunk b a hba hab) (h.right b a) (h.left b a)

theorem le_iff (h : TrunkJoin le join T) : le a b ↔ le (join a b) b :=
  ⟨h.of_le a b, h.trans _ _ _ (h.left a b)⟩

/-- One half of associativity: the last operand is all that can come between. -/
theorem assoc_le (h : TrunkJoin le join T) (hc : le a c → le b c → le (join a b) c) :
    le (join (join a b) c) (join a (join b c)) := by
  have ha : le a (join a (join b c)) := h.left _ _
  have hbc : le (join b c) (join a (join b c)) := h.right _ _
  have hb : le b (join a (join b c)) := h.trans _ _ _ (h.left b c) hbc
  by_cases hle : le a (join b c)
  · by_cases hbc' : le b c
    · have hmax : le (join b c) c := h.of_le b c hbc'
      have hab : le (join a b) c := hc (h.trans _ _ _ hle hmax) hbc'
      exact h.trans _ _ _ (h.of_le _ _ hab) (h.trans _ _ _ (h.right b c) hbc)
    by_cases hcb : le c b
    · have hmax : le (join b c) b := h.of_ge b c hcb
      have hab : le (join a b) b := h.of_le a b (h.trans _ _ _ hle hmax)
      have hcab : le c (join a b) := h.trans _ _ _ hcb (h.right a b)
      exact h.trans _ _ _ (h.of_ge _ _ hcab) (h.trans _ _ _ hab hb)
    · -- the bound of the last two operands is in the trunk, and bounds the first one as well
      have htrunk := h.trunk b c hbc' hcb
      have hab : le (join a b) (join b c) := h.least _ _ _ htrunk hle (h.left b c)
      exact h.trans _ _ _ (h.least _ _ _ htrunk hab (h.right b c)) hbc
  by_cases hge : le (join b c) a
  · have hab : le (join a b) a := h.of_ge a b (h.trans _ _ _ (h.left b c) hge)
    have hcab : le c (join a b) := h.trans _ _ _ (h.trans _ _ _ (h.right b c) hge) (h.left a b)
    exact h.trans _ _ _ (h.of_ge _ _ hcab) (h.trans _ _ _ hab ha)
  · have htrunk := h.trunk a (join b c) hle hge
    have hab := h.least _ _ _ htrunk ha hb
    exact h.least _ _ _ htrunk hab (h.trans _ _ _ (h.right b c) hbc)

/-- Joins depend on grouping exactly when an outer operand bounds the two others and not their join. -/
theorem assoc_iff (h : TrunkJoin le join T) (a b c : α) :
    (le (join (join a b) c) (join a (join b c)) ∧ le (join a (join b c)) (join (join a b) c)) ↔
      (le a c → le b c → le (join a b) c) ∧ (le b a → le c a → le (join b c) a) := by
  constructor
  · rintro ⟨hlr, hrl⟩
    constructor
    · intro ha hb
      have hmax : le (join b c) c := h.of_le b c hb
      have htop : le (join a (join b c)) (join b c) := h.of_le _ _ (h.trans _ _ _ ha (h.right b c))
      have hall := h.trans _ _ _ hlr (h.trans _ _ _ htop hmax)
      exact h.trans _ _ _ (h.left (join a b) c) hall
    · intro hb hc
      have hmax : le (join a b) a := h.of_ge a b hb
      have htop : le (join (join a b) c) (join a b) := h.of_ge _ _ (h.trans _ _ _ hc (h.left a b))
      have hall := h.trans _ _ _ hrl (h.trans _ _ _ htop hmax)
      exact h.trans _ _ _ (h.right a (join b c)) hall
  · rintro ⟨hc, ha⟩
    exact ⟨h.assoc_le hc, h.flip.assoc_le fun hca hba => ha hba hca⟩

end TrunkJoin

namespace PrimitiveKind
variable {k k₁ k₂ k₃ : PrimitiveKind}

theorem widensTo_antisymm (h₁ : k₁.widensTo k₂ = true) (h₂ : k₂.widensTo k₁ = true) : k₁ = k₂ := by
  cases k₁ <;> cases k₂ <;> first | rfl | exact absurd h₁ (by decide) | exact absurd h₂ (by decide)

theorem join_least (h₁ : k₁.widensTo k = true) (h₂ : k₂.widensTo k = true) :
    ∃ k', k₁.join k₂ = some k' ∧ k'.widensTo k = true := by
  unfold join
  split
  · exact ⟨k₂, rfl, h₂⟩
  split
  · exact ⟨k₁, rfl, h₁⟩
  · -- kinds that are not comparable and widen to one kind are integral, and that kind is `int`
    cases k <;> cases k₁ <;> cases k₂ <;> simp_all [widensTo, isIntegral]

theorem exists_join (h₁ : k₁.isIntegral = true) (h₂ : k₂.isIntegral = true) :
    ∃ k, k₁.join k₂ = some k ∧ k.isIntegral = true := by
  have int : ∀ k : PrimitiveKind, k.isIntegral = true → k.widensTo .int = true := by
    intro k hk
    cases k <;> first | rfl | exact absurd hk (by decide)
  obtain ⟨k, hk, hint⟩ := join_least (int k₁ h₁) (int k₂ h₂)
  exact ⟨k, hk, isIntegral_of_widensTo hint⟩

end PrimitiveKind

/-- References in `C` are ordered by `ρ`, and the common supertype of two of them is the larger one, or the least of
their bounds in `T`. -/
structure ClassOracle.TrunkOver (o : ClassOracle) (ρ : Descriptor → Descriptor → Prop) (C T : Descriptor → Prop) :
    Prop where
  refl : ∀ t, ρ t t
  trans : ∀ t u v, ρ t u → ρ u v → ρ t v
  antisymm : ∀ t u, ρ t u → ρ u t → t = u
  bound : ∀ t u v, C t → C u → t ≠ u → o.commonSupertype? t u = some v → C v ∧ ρ t v ∧ ρ u v
  larger : ∀ t u, C t → C u → t ≠ u → ρ t u → o.commonSupertype? t u = some u ∧ o.commonSupertype? u t = some u
  trunk : ∀ t u v, C t → C u → ¬ ρ t u → ¬ ρ u t → o.commonSupertype? t u = some v → T v
  least : ∀ t u w, C t → C u → C w → t ≠ u → T w → ρ t w → ρ u w → ∃ v, o.commonSupertype? t u = some v ∧ ρ v w

/-- An oracle that knows no common supertypes. -/
def ClassOracle.silent : ClassOracle where
  classDef? _ := none
  isAssignable _ _ := false
  commonSupertype? _ _ := none

namespace RegisterType
variable {o : ClassOracle} {ρ : Descriptor → Descriptor → Prop} {C T : Descriptor → Prop} {a b c : RegisterType}

/-- Literals are integral, and references are in `C`. -/
def Over (C : Descriptor → Prop) : RegisterType → Prop
  | literal k => k.isIntegral = true
  | reference t => C t
  | _ => True

/-- The only question that a join asks is about two references. -/
theorem join_silent (h : ¬ ∃ t u, a = reference t ∧ b = reference u) : a.join o b = a.join .silent b := by
  cases a <;> cases b <;> first | rfl | exact absurd ⟨_, _, rfl, rfl⟩ h

namespace Widens
variable (ho : o.TrunkOver ρ C T)
include ho

theorem bounds_silent : ClassOracle.silent.Bounds ρ :=
  ⟨ho.refl, ho.trans, fun _ _ _ h => (nomatch h)⟩

theorem beq_iff : (a == b) = true ↔ Widens ρ a b ∧ Widens ρ b a := by
  constructor
  · intro h
    have hsymm : (b == a) = true := beq_iff_unlabeled.2 (beq_iff_unlabeled.1 h).symm
    exact ⟨of_beq (bounds_silent ho) h, of_beq (bounds_silent ho) hsymm⟩
  · rintro ⟨hab, hba⟩
    cases hab with
    | unknown | conflict | zero => cases hba <;> first | rfl | simp_all [isSingleWord, isReferenceLike]
    | primitive h => cases hba with
      | primitive h' => rw [PrimitiveKind.widensTo_antisymm h h']; exact beq_iff_unlabeled.2 rfl
    | literal h => cases hba with
      | literal h' => rw [PrimitiveKind.widensTo_antisymm h h']; exact beq_iff_unlabeled.2 rfl
    | reference h => cases hba with
      | reference h' => rw [ho.antisymm _ _ h h']; exact beq_iff_unlabeled.2 rfl
    | pending h => exact h
    | wideLiteral | null | pendingThis => exact beq_iff_unlabeled.2 rfl
    | literalFloat | literalPrimitive | widePrimitive | nullReference => cases hba

theorem over_join (ha : a.Over C) (hb : b.Over C) : (a.join o b).Over C := by
  fun_cases RegisterType.join o a b
  case case3 => exact hb
  case case4 => exact ha
  case case5 => unfold RegisterType.joinZero; split <;> first | exact hb | trivial
  case case6 => unfold RegisterType.joinZero; split <;> first | exact ha | trivial
  case case7 k₁ k₂ => cases k₁.join k₂ <;> trivial
  case case8 k₁ k₂ =>
    obtain ⟨k, hk, hint⟩ := PrimitiveKind.exists_join ha hb
    rw [hk]
    exact hint
  case case9 k₁ k₂ | case10 k₂ k₁ =>
    unfold RegisterType.joinLiteral
    split
    · trivial
    split
    · cases k₁.join k₂ <;> trivial
    · trivial
  case case17 => exact hb
  case case18 => exact ha
  case case19 t u =>
    unfold RegisterType.joinReference
    split
    · exact ha
    · next hne =>
      cases hv : o.commonSupertype? t u with
      | none => trivial
      | some v => exact (ho.bound t u v ha hb hne hv).1
  all_goals trivial

theorem le_join (ha : a.Over C) (hb : b.Over C) : Widens ρ a (a.join o b) ∧ Widens ρ b (a.join o b) := by
  by_cases href : ∃ t u, a = RegisterType.reference t ∧ b = RegisterType.reference u
  · obtain ⟨t, u, rfl, rfl⟩ := href
    show Widens ρ _ (RegisterType.joinReference o t u) ∧ Widens ρ _ (RegisterType.joinReference o t u)
    unfold RegisterType.joinReference
    split
    · next heq => subst heq; exact ⟨.reference (ho.refl t), .reference (ho.refl t)⟩
    · next hne =>
      cases hv : o.commonSupertype? t u with
      | none => exact ⟨.conflict _, .conflict _⟩
      | some v =>
        obtain ⟨-, ht, hu⟩ := ho.bound t u v ha hb hne hv
        exact ⟨.reference ht, .reference hu⟩
  · rw [join_silent href]
    exact join (bounds_silent ho) a b

omit ho in
theorem joinZero_le (hne : a ≠ RegisterType.unknown) (hz : Widens ρ RegisterType.zero c) (ha : Widens ρ a c) :
    Widens ρ (RegisterType.joinZero a) c := by
  unfold RegisterType.joinZero
  split
  · exact ha
  · next hfits =>
    rw [Bool.not_eq_true, Bool.or_eq_false_iff] at hfits
    cases hz with
    | conflict => exact .conflict _
    | zero h => cases ha with
      | unknown => exact absurd rfl hne
      | conflict => exact .conflict _
      | primitive hk => simp_all [isSingleWord, isReferenceLike, PrimitiveKind.isWide_of_widensTo hk]
      | _ => simp_all [isSingleWord, isReferenceLike]

omit ho in
theorem joinLiteral_le {k₁ k₂ : PrimitiveKind} (h₁ : Widens ρ (RegisterType.literal k₁) c)
    (h₂ : Widens ρ (RegisterType.primitive k₂) c) : Widens ρ (RegisterType.joinLiteral k₁ k₂) c := by
  cases h₂ with
  | conflict => exact .conflict _
  | primitive hk₂ =>
    unfold RegisterType.joinLiteral
    split
    · next hfloat => subst hfloat; exact .primitive hk₂
    · next hfloat =>
      cases h₁ with
      | literalFloat => cases k₂ <;> simp_all [PrimitiveKind.widensTo]
      | literalPrimitive hint hk₁ =>
        obtain ⟨k, hk, hle⟩ := PrimitiveKind.join_least hk₁ hk₂
        rw [if_pos ((PrimitiveKind.isIntegral_of_widensTo hk₂).trans hint), hk]
        exact .primitive hle

omit ho in
/-- A bound of two types is above their join, if this is so for references that are not the same. -/
theorem join_le (ha : a.Over C) (hb : b.Over C) (hac : Widens ρ a c) (hbc : Widens ρ b c)
    (href : ∀ t u w, a = RegisterType.reference t → b = RegisterType.reference u → c = RegisterType.reference w →
      t ≠ u → ∃ v, o.commonSupertype? t u = some v ∧ ρ v w) : Widens ρ (a.join o b) c := by
  fun_cases RegisterType.join o a b
  case case1 => exact hac
  case case2 => exact hbc
  case case3 => exact hbc
  case case4 => exact hac
  case case5 hne => exact joinZero_le hne hac hbc
  case case6 hne _ => exact joinZero_le hne hbc hac
  case case7 k₁ k₂ =>
    cases hac with
    | conflict => exact .conflict _
    | primitive h₁ => cases hbc with
      | primitive h₂ =>
        obtain ⟨k, hk, hle⟩ := PrimitiveKind.join_least h₁ h₂
        rw [hk]
        exact .primitive hle
  case case8 k₁ k₂ =>
    cases hac with
    | conflict => exact .conflict _
    | literal h₁ => cases hbc with
      | literal h₂ =>
        obtain ⟨k, hk, hle⟩ := PrimitiveKind.join_least h₁ h₂
        rw [hk]
        exact .literal hle
    | literalFloat =>
      obtain ⟨k, hk, -⟩ := PrimitiveKind.exists_join ha hb
      rw [hk]
      exact .literalFloat k
    | literalPrimitive hint h₁ => cases hbc with
      | literalFloat => cases hint
      | literalPrimitive _ h₂ =>
        obtain ⟨k, hk, hle⟩ := PrimitiveKind.join_least h₁ h₂
        rw [hk]
        exact .literalPrimitive hint hle
  case case9 => exact joinLiteral_le hac hbc
  case case10 => exact joinLiteral_le hbc hac
  case case11 => exact hac
  case case12 => exact hbc
  case case13 hwide =>
    cases hac with
    | conflict => exact .conflict _
    | wideLiteral => cases hbc
    | widePrimitive h => cases hbc with
      | primitive h' => exact absurd ((PrimitiveKind.isWide_of_widensTo h').trans h) hwide
  case case14 => exact hac
  case case15 hwide =>
    cases hbc with
    | conflict => exact .conflict _
    | wideLiteral => cases hac
    | widePrimitive h => cases hac with
      | primitive h' => exact absurd ((PrimitiveKind.isWide_of_widensTo h').trans h) hwide
  case case16 => exact hac
  case case17 => exact hbc
  case case18 => exact hac
  case case19 t u =>
    unfold RegisterType.joinReference
    split
    · exact hac
    · next hne =>
      cases hac with
      | conflict => exact .conflict _
      | reference ht => cases hbc with
        | reference hu =>
          obtain ⟨v, hv, hle⟩ := href t u _ rfl rfl rfl hne
          rw [hv]
          exact .reference hle
  case case20 => exact hac
  case case21 u v hne =>
    cases hac with
    | conflict => exact .conflict _
    | pending hu => cases hbc with
      | pending hv =>
        rw [PendingObject.same_iff] at hu hv hne
        exact absurd ⟨hu.1.trans hv.1.symm, hu.2.trans hv.2.symm⟩ hne
  case case22 => exact hac
  case case23 hne =>
    cases hac with
    | conflict => exact .conflict _
    | pendingThis => cases hbc; exact absurd rfl hne
  case case24 =>
    -- the two types have nothing above them but a conflict
    have hfloat : PrimitiveKind.float.isWide = false := rfl
    cases hac with
    | conflict => exact .conflict _
    | _ => cases hbc <;> simp_all [PrimitiveKind.isWide_of_isIntegral]

/-- Types that are not comparable have a reference as their join only when both are references. -/
theorem trunk_join (ha : a.Over C) (hb : b.Over C) (hab : ¬ Widens ρ a b) (hba : ¬ Widens ρ b a) {v : Descriptor}
    (hv : a.join o b = RegisterType.reference v) : T v := by
  by_cases href : ∃ t u, a = RegisterType.reference t ∧ b = RegisterType.reference u
  · obtain ⟨t, u, rfl, rfl⟩ := href
    have htu : ¬ ρ t u := fun h => hab (.reference h)
    have hut : ¬ ρ u t := fun h => hba (.reference h)
    have hne : t ≠ u := by rintro rfl; exact htu (ho.refl t)
    change RegisterType.joinReference o t u = _ at hv
    rw [RegisterType.joinReference, if_neg hne] at hv
    cases hw : o.commonSupertype? t u with
    | none => rw [hw] at hv; cases hv
    | some w =>
      rw [hw] at hv
      cases hv
      exact ho.trunk t u v ha hb htu hut hw
  · -- a reference that is the join of other types is one of the two, and above the other one
    revert hv
    fun_cases RegisterType.join o a b <;> intro hv
    case case3 => exact absurd (.unknown _) hab
    case case4 => exact absurd (.unknown _) hba
    case case5 =>
      unfold RegisterType.joinZero at hv
      split at hv
      · subst hv; exact absurd (.zero (.inr rfl)) hab
      · cases hv
    case case6 =>
      unfold RegisterType.joinZero at hv
      split at hv
      · subst hv; exact absurd (.zero (.inr rfl)) hba
      · cases hv
    case case7 k₁ k₂ | case8 k₁ k₂ => cases hk : k₁.join k₂ <;> rw [hk] at hv <;> cases hv
    case case9 k₁ k₂ | case10 k₂ k₁ =>
      unfold RegisterType.joinLiteral at hv
      split at hv
      · cases hv
      split at hv
      · cases hk : k₁.join k₂ <;> rw [hk] at hv <;> cases hv
      · cases hv
    case case17 => exact absurd (.nullReference _) hab
    case case18 => exact absurd (.nullReference _) hba
    case case19 t u => exact absurd ⟨t, u, rfl, rfl⟩ href
    all_goals cases hv

/-- Register types over `C`, ordered by widening. -/
theorem trunkJoin : TrunkJoin (α := { t : RegisterType // t.Over C }) (fun a b => Widens ρ a.1 b.1)
    (fun a b => ⟨a.1.join o b.1, over_join ho a.2 b.2⟩) (fun a => ∀ v, a.1 = RegisterType.reference v → T v) where
  refl a := refl (bounds_silent ho) a.1
  trans a b c := trans ho.trans
  left a b := (le_join ho a.2 b.2).1
  right a b := (le_join ho a.2 b.2).2
  of_le a b hab := by
    refine join_le a.2 b.2 hab (refl (bounds_silent ho) b.1) fun t u w ht hu hw hne => ?_
    obtain ⟨a, ha⟩ := a
    obtain ⟨b, hb⟩ := b
    simp only at ht hu hw hab
    subst ht hu
    cases hw
    cases hab with
    | reference h => exact ⟨u, (ho.larger t u ha hb hne h).1, ho.refl u⟩
  of_ge a b hba := by
    refine join_le a.2 b.2 (refl (bounds_silent ho) a.1) hba fun t u w ht hu hw hne => ?_
    obtain ⟨a, ha⟩ := a
    obtain ⟨b, hb⟩ := b
    simp only at ht hu hw hba
    subst ht hu
    cases hw
    cases hba with
    | reference h => exact ⟨t, (ho.larger u t hb ha hne.symm h).2, ho.refl t⟩
  trunk a b hab hba v hv := trunk_join ho a.2 b.2 hab hba hv
  least a b c hc hac hbc := by
    refine join_le a.2 b.2 hac hbc fun t u w ht hu hw hne => ?_
    obtain ⟨a, ha⟩ := a
    obtain ⟨b, hb⟩ := b
    obtain ⟨c, hc'⟩ := c
    simp only at ht hu hw hac hbc hc
    subst ht hu hw
    cases hac with
    | reference hac => cases hbc with
      | reference hbc => exact ho.least t u w ha hb hc' hne (hc w rfl) hac hbc

end Widens

/-! ### Assignability -/

theorem Widens.imp {σ : Descriptor → Descriptor → Prop} (h : Widens ρ a b)
    (hσ : ∀ t u, a = .reference t → b = .reference u → ρ t u → σ t u) : Widens σ a b := by
  cases h with
  | reference h => exact .reference (hσ _ _ rfl rfl h)
  | zero h => exact .zero h
  | primitive h => exact .primitive h
  | literal h => exact .literal h
  | literalPrimitive hint h => exact .literalPrimitive hint h
  | widePrimitive h => exact .widePrimitive h
  | pending h => exact .pending h
  | _ => constructor

theorem widens_of_isAssignable (ha : a.Over C) (h : a.isAssignable o b = true) :
    Widens (fun t u => o.isAssignable t u = true) a b := by
  refine (widens_or_literal h).resolve_right ?_
  rintro ⟨k₁, k₂, rfl, rfl, hwide, hk⟩
  -- an integral kind widens to integral kinds only
  have hint : k₂.isIntegral = true := (PrimitiveKind.isIntegral_of_widensTo hk).symm.trans ha
  rw [PrimitiveKind.isWide_of_isIntegral hint] at hwide
  cases hwide

/-- Over types in `C`, assignability is widening. -/
theorem isAssignable_iff (hC : ∀ t u, C t → C u → (ρ t u ↔ o.isAssignable t u = true)) (ha : a.Over C) (hb : b.Over C) :
    a.isAssignable o b = true ↔ Widens ρ a b := by
  constructor
  · intro h
    refine (widens_of_isAssignable ha h).imp fun t u ht hu htu => ?_
    subst ht hu
    exact (hC t u ha hb).2 htu
  · intro h
    refine (h.imp fun t u ht hu htu => ?_).isAssignable
    subst ht hu
    exact (hC t u ha hb).1 htu

end RegisterType

/-! ### Least upper bounds -/

/-- Assignability of references is a partial order, and the common supertype of two types is their least upper bound;
it is missing when they have no upper bound. -/
structure ClassOracle.LeastBounds (o : ClassOracle) : Prop where
  refl : ∀ t, o.isAssignable t t = true
  trans : ∀ t u v, o.isAssignable t u = true → o.isAssignable u v = true → o.isAssignable t v = true
  antisymm : ∀ t u, o.isAssignable t u = true → o.isAssignable u t = true → t = u
  bound : ∀ t u v, t ≠ u → o.commonSupertype? t u = some v → o.isAssignable t v = true ∧ o.isAssignable u v = true
  least : ∀ t u v w, t ≠ u → o.commonSupertype? t u = some v → o.isAssignable t w = true → o.isAssignable u w = true →
    o.isAssignable v w = true
  eq_none_iff : ∀ t u, t ≠ u →
    (o.commonSupertype? t u = none ↔ ¬ ∃ w, o.isAssignable t w = true ∧ o.isAssignable u w = true)

namespace ClassOracle.LeastBounds
variable {o : ClassOracle} {t u w : Descriptor}

theorem exists_least (h : o.LeastBounds) (hne : t ≠ u) (ht : o.isAssignable t w = true)
    (hu : o.isAssignable u w = true) :
    ∃ v, o.commonSupertype? t u = some v ∧ o.isAssignable v w = true := by
  cases hv : o.commonSupertype? t u with
  | none => exact absurd ⟨w, ht, hu⟩ ((h.eq_none_iff t u hne).1 hv)
  | some v => exact ⟨v, rfl, h.least t u v w hne hv ht hu⟩

theorem trunkOver (h : o.LeastBounds) :
    o.TrunkOver (fun t u => o.isAssignable t u = true) (fun _ => True) (fun _ => True) where
  refl := h.refl
  trans := h.trans
  antisymm := h.antisymm
  bound t u v _ _ hne hv := ⟨trivial, h.bound t u v hne hv⟩
  larger t u _ _ hne htu := by
    obtain ⟨v, hv, hvu⟩ := h.exists_least hne htu (h.refl u)
    obtain ⟨v', hv', hvu'⟩ := h.exists_least hne.symm (h.refl u) htu
    rw [hv, hv', h.antisymm v u hvu (h.bound t u v hne hv).2, h.antisymm v' u hvu' (h.bound u t v' hne.symm hv').1]
    exact ⟨rfl, rfl⟩
  trunk _ _ _ _ _ _ _ _ := trivial
  least t u w _ _ _ hne _ ht hu := h.exists_least hne ht hu

end ClassOracle.LeastBounds

namespace RegisterType
variable {o : ClassOracle}

/-- Literals are integral, as all literals are that come from a value. -/
def Proper (a : RegisterType) : Prop := a.Over fun _ => True

/-- Proper types are partially ordered by assignability, up to labels, from `unknown` to `conflict`, and joins are least
upper bounds. -/
structure JoinSemilattice (o : ClassOracle) : Prop where
  refl : ∀ a : RegisterType, a.Proper → a.isAssignable o a = true
  of_beq : ∀ a b : RegisterType, a.Proper → b.Proper → (a == b) = true → a.isAssignable o b = true
  trans : ∀ a b c : RegisterType, a.Proper → b.Proper → c.Proper → a.isAssignable o b = true →
    b.isAssignable o c = true → a.isAssignable o c = true
  antisymm : ∀ a b : RegisterType, a.Proper → b.Proper → a.isAssignable o b = true → b.isAssignable o a = true →
    (a == b) = true
  bot : ∀ a : RegisterType, unknown.isAssignable o a = true
  top : ∀ a : RegisterType, a.isAssignable o conflict = true
  proper_ofLiteral : ∀ value, (ofLiteral value).Proper
  proper_join : ∀ a b : RegisterType, a.Proper → b.Proper → (a.join o b).Proper
  left : ∀ a b : RegisterType, a.Proper → b.Proper → a.isAssignable o (a.join o b) = true
  right : ∀ a b : RegisterType, a.Proper → b.Proper → b.isAssignable o (a.join o b) = true
  least : ∀ a b c : RegisterType, a.Proper → b.Proper → c.Proper → a.isAssignable o c = true →
    b.isAssignable o c = true → (a.join o b).isAssignable o c = true
  comm : ∀ a b : RegisterType, a.Proper → b.Proper → (a.join o b == b.join o a) = true
  assoc : ∀ a b c : RegisterType, a.Proper → b.Proper → c.Proper →
    ((a.join o b).join o c == a.join o (b.join o c)) = true
  idem : ∀ a : RegisterType, a.Proper → (a.join o a == a) = true
  isAssignable_iff : ∀ a b : RegisterType, a.Proper → b.Proper →
    (a.isAssignable o b = true ↔ (a.join o b == b) = true)

theorem over_ofLiteral (C : Descriptor → Prop) (value : Int) : (ofLiteral value).Over C := by
  fun_cases ofLiteral value <;> trivial

/-- Over an oracle that knows least upper bounds, register types are a semilattice. -/
theorem joinSemilattice (ho : o.LeastBounds) : JoinSemilattice o := by
  have hlaws := Widens.trunkJoin ho.trunkOver
  have hle : ∀ {a b : RegisterType}, a.Proper → b.Proper →
      (a.isAssignable o b = true ↔ Widens (fun t u => o.isAssignable t u = true) a b) :=
    fun ha hb => isAssignable_iff (fun _ _ _ _ => Iff.rfl) ha hb
  have hbeq : ∀ {a b : RegisterType}, (a == b) = true ↔ _ := Widens.beq_iff ho.trunkOver
  have hjoin : ∀ {a b : RegisterType}, a.Proper → b.Proper → (a.join o b).Proper :=
    fun ha hb => Widens.over_join ho.trunkOver ha hb
  exact {
    refl := fun a ha => (hle ha ha).2 (hlaws.refl ⟨a, ha⟩)
    of_beq := fun a b ha hb h => (hle ha hb).2 (hbeq.1 h).1
    trans := fun a b c ha hb hc hab hbc =>
      (hle ha hc).2 (hlaws.trans ⟨a, ha⟩ ⟨b, hb⟩ ⟨c, hc⟩ ((hle ha hb).1 hab) ((hle hb hc).1 hbc))
    antisymm := fun a b ha hb hab hba => hbeq.2 ⟨(hle ha hb).1 hab, (hle hb ha).1 hba⟩
    bot := fun a => rfl
    top := fun a => by cases a <;> rfl
    proper_ofLiteral := over_ofLiteral _
    proper_join := fun a b ha hb => hjoin ha hb
    left := fun a b ha hb => (hle ha (hjoin ha hb)).2 (hlaws.left ⟨a, ha⟩ ⟨b, hb⟩)
    right := fun a b ha hb => (hle hb (hjoin ha hb)).2 (hlaws.right ⟨a, ha⟩ ⟨b, hb⟩)
    least := fun a b c ha hb hc hac hbc => (hle (hjoin ha hb) hc).2
      (hlaws.least ⟨a, ha⟩ ⟨b, hb⟩ ⟨c, hc⟩ (fun _ _ => trivial) ((hle ha hc).1 hac) ((hle hb hc).1 hbc))
    comm := fun a b ha hb => hbeq.2 ⟨hlaws.comm ⟨a, ha⟩ ⟨b, hb⟩, hlaws.comm ⟨b, hb⟩ ⟨a, ha⟩⟩
    assoc := fun a b c ha hb hc => hbeq.2 ((hlaws.assoc_iff ⟨a, ha⟩ ⟨b, hb⟩ ⟨c, hc⟩).2
      ⟨hlaws.least _ _ _ fun _ _ => trivial, hlaws.least _ _ _ fun _ _ => trivial⟩)
    idem := fun a ha => hbeq.2 ⟨hlaws.of_le ⟨a, ha⟩ ⟨a, ha⟩ (hlaws.refl _), hlaws.left ⟨a, ha⟩ ⟨a, ha⟩⟩
    isAssignable_iff := fun a b ha hb => (hle ha hb).trans ((hlaws.le_iff (a := ⟨a, ha⟩) (b := ⟨b, hb⟩)).trans
      ⟨fun h => hbeq.2 ⟨h, hlaws.right ⟨a, ha⟩ ⟨b, hb⟩⟩, fun h => (hbeq.1 h).1⟩) }

end RegisterType

/-! References under `java.lang.Object`, with nothing else between types. -/

def ClassOracle.shallow : ClassOracle where
  classDef? _ := none
  isAssignable t u := t = u || t.isReference && u = .javaLangObject
  commonSupertype? t u := if t.isReference && u.isReference then some .javaLangObject else none

theorem ClassOracle.leastBounds_shallow : ClassOracle.shallow.LeastBounds := by
  have hle : ∀ t u, shallow.isAssignable t u = true ↔ t = u ∨ t.isReference = true ∧ u = .javaLangObject := by
    intro t u
    simp [shallow]
  have hcommon : ∀ t u, shallow.commonSupertype? t u =
      if t.isReference = true ∧ u.isReference = true then some .javaLangObject else none := by
    intro t u
    simp [shallow]
  have hobject : Descriptor.javaLangObject.isReference = true := rfl
  constructor
  · intro t
    exact (hle t t).2 (.inl rfl)
  · intro t u v htu huv
    rw [hle] at htu huv ⊢
    grind
  · intro t u htu hut
    rw [hle] at htu hut
    grind
  · intro t u v hne hv
    rw [hcommon] at hv
    rw [hle, hle]
    grind
  · intro t u v w hne hv ht hu
    rw [hcommon] at hv
    rw [hle] at ht hu ⊢
    grind
  · intro t u hne
    rw [hcommon]
    constructor
    · rintro hnone ⟨w, ht, hu⟩
      rw [hle] at ht hu
      grind
    · intro hbound
      refine if_neg fun href => hbound ⟨.javaLangObject, ?_, ?_⟩
      · exact (hle _ _).2 (.inr ⟨href.1, rfl⟩)
      · exact (hle _ _).2 (.inr ⟨href.2, rfl⟩)

theorem RegisterType.joinSemilattice_shallow : ClassOracle.shallow.LeastBounds ∧ JoinSemilattice .shallow :=
  ⟨ClassOracle.leastBounds_shallow, joinSemilattice ClassOracle.leastBounds_shallow⟩

end Dalvik
