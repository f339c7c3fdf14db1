import Dalvik.Proofs.StateOrder

/-!
# Widening

The order of register types over an order of references (`RegisterType.Widens`). When common supertypes are upper bounds
of references (`ClassOracle.Bounds`), joins are upper bounds of types (`Widens.joinOrder`).

Assignability itself is not transitive at literals of a kind that no literal has, which is why widening leaves those
out. Over the assignability of a lawful oracle, a type widens to types it is assignable to only.
-/

namespace Dalvik

/-- Common supertypes are upper bounds in a preorder. -/
structure ClassOracle.Bounds (o : ClassOracle) (ρ : Descriptor → Descriptor → Prop) : Prop where
  refl : ∀ t, ρ t t
  trans : ∀ t u v, ρ t u → ρ u v → ρ t v
  common : ∀ t u v, o.commonSupertype? t u = some v → ρ t v ∧ ρ u v

/-! ### Kinds -/

namespace PrimitiveKind
variable {k k₁ k₂ k₃ : PrimitiveKind}

theorem widensTo_refl (k : PrimitiveKind) : k.widensTo k = true := by simp [widensTo]

theorem widensTo_trans (h₁ : k₁.widensTo k₂ = true) (h₂ : k₂.widensTo k₃ = true) : k₁.widensTo k₃ = true := by
  cases k₁ <;> cases k₂ <;> first
    | exact absurd h₁ (by decide)
    | cases k₃ <;> first | rfl | exact absurd h₂ (by decide)

theorem isWide_of_widensTo (h : k₁.widensTo k₂ = true) : k₁.isWide = k₂.isWide := by
  cases k₁ <;> cases k₂ <;> first | rfl | exact absurd h (by decide)

theorem isIntegral_of_widensTo (h : k₁.widensTo k₂ = true) : k₁.isIntegral = k₂.isIntegral := by
  cases k₁ <;> cases k₂ <;> first | rfl | exact absurd h (by decide)

theorem eq_float_of_widensTo (h : float.widensTo k = true) : k = .float := by
  cases k <;> first | rfl | exact absurd h (by decide)

theorem isWide_of_isIntegral (h : k.isIntegral = true) : k.isWide = false := by
  cases k <;> first | rfl | exact absurd h (by decide)

theorem eq_float_or_isWide (h : k.isIntegral = false) : k = .float ∨ k.isWide = true := by
  revert h
  cases k <;> decide

theorem widensTo_join (h : k₁.join k₂ = some k) : k₁.widensTo k = true ∧ k₂.widensTo k = true := by
  unfold join at h
  split at h
  · next h₁₂ => cases h; exact ⟨h₁₂, widensTo_refl _⟩
  split at h
  · next h₂₁ => cases h; exact ⟨widensTo_refl _, h₂₁⟩
  split at h
  · next hint =>
    cases h
    rw [Bool.and_eq_true] at hint
    have int : ∀ k : PrimitiveKind, k.isIntegral = true → k.widensTo .int = true := by
      intro k hk; cases k <;> first | rfl | exact absurd hk (by decide)
    exact ⟨int _ hint.1, int _ hint.2⟩
  · cases h

end PrimitiveKind

/-! ### Types -/

namespace RegisterType
variable {o : ClassOracle} {ρ : Descriptor → Descriptor → Prop} {a b c : RegisterType}

/-- Assignability over an order of references, without the widening of literals to kinds that no literal has. -/
inductive Widens (ρ : Descriptor → Descriptor → Prop) : RegisterType → RegisterType → Prop
  | unknown (t : RegisterType) : Widens ρ unknown t
  | conflict (t : RegisterType) : Widens ρ t conflict
  | zero {t : RegisterType} : t.isSingleWord = true ∨ t.isReferenceLike = true → Widens ρ zero t
  | primitive {k₁ k₂ : PrimitiveKind} : k₁.widensTo k₂ = true → Widens ρ (primitive k₁) (primitive k₂)
  | literal {k₁ k₂ : PrimitiveKind} : k₁.widensTo k₂ = true → Widens ρ (literal k₁) (literal k₂)
  | literalFloat (k : PrimitiveKind) : Widens ρ (RegisterType.literal k) (RegisterType.primitive .float)
  | literalPrimitive {k₁ k₂ : PrimitiveKind} : k₂.isIntegral = true → k₁.widensTo k₂ = true →
      Widens ρ (RegisterType.literal k₁) (RegisterType.primitive k₂)
  | wideLiteral : Widens ρ wideLiteral wideLiteral
  | widePrimitive {k : PrimitiveKind} : k.isWide = true → Widens ρ RegisterType.wideLiteral (RegisterType.primitive k)
  | null : Widens ρ null null
  | nullReference (t : Descriptor) : Widens ρ RegisterType.null (RegisterType.reference t)
  | reference {t₁ t₂ : Descriptor} : ρ t₁ t₂ → Widens ρ (reference t₁) (reference t₂)
  | pending {u v : PendingObject} : u.same v = true → Widens ρ (pending u) (pending v)
  | pendingThis (t : Descriptor) : Widens ρ (pendingThis t) (pendingThis t)

namespace Widens

theorem of_beq (hρ : o.Bounds ρ) (h : (a == b) = true) : Widens ρ a b := by
  change a.same b = true at h
  cases a <;> cases b <;> simp only [same, decide_eq_true_eq, Bool.false_eq_true] at h
  case unknown.unknown => exact .unknown _
  case primitive.primitive => exact .primitive (h ▸ PrimitiveKind.widensTo_refl _)
  case zero.zero => exact .zero (.inl rfl)
  case literal.literal => exact .literal (h ▸ PrimitiveKind.widensTo_refl _)
  case wideLiteral.wideLiteral => exact .wideLiteral
  case null.null => exact .null
  case reference.reference => exact .reference (h ▸ hρ.refl _)
  case pending.pending => exact .pending h
  case pendingThis.pendingThis => exact h ▸ .pendingThis _
  case conflict.conflict => exact .conflict _

theorem refl (hρ : o.Bounds ρ) (a : RegisterType) : Widens ρ a a :=
  of_beq hρ (beq_iff_unlabeled.2 rfl)

/-- Zero widens to all that a type above it widens to. -/
theorem zero_trans (h₁ : Widens ρ RegisterType.zero b) (h₂ : Widens ρ b c) : Widens ρ RegisterType.zero c := by
  cases h₂ with
  | conflict => exact .conflict _
  | unknown => cases h₁ with | zero h => simp [isSingleWord, isReferenceLike] at h
  | zero h => exact .zero h
  | primitive h => cases h₁ with | zero h₁ =>
    refine .zero (.inl ?_)
    simpa [isSingleWord, isReferenceLike, PrimitiveKind.isWide_of_widensTo h] using h₁
  | literal => exact .zero (.inl rfl)
  | literalFloat => exact .zero (.inl rfl)
  | literalPrimitive hint => exact .zero (.inl (by simp [isSingleWord, PrimitiveKind.isWide_of_isIntegral hint]))
  | wideLiteral => exact h₁
  | widePrimitive => cases h₁ with | zero h => simp [isSingleWord, isReferenceLike] at h
  | null => exact h₁
  | nullReference => exact .zero (.inr rfl)
  | reference => exact .zero (.inr rfl)
  | pending => cases h₁ with | zero h => simp [isSingleWord, isReferenceLike] at h
  | pendingThis => exact h₁

theorem trans (hρ : ∀ t u v, ρ t u → ρ u v → ρ t v) (h₁ : Widens ρ a b) (h₂ : Widens ρ b c) : Widens ρ a c := by
  cases h₁ with
  | unknown => exact .unknown _
  | conflict => cases h₂; exact .conflict _
  | zero h => exact zero_trans (.zero h) h₂
  | primitive h => cases h₂ with
    | conflict => exact .conflict _
    | primitive h' => exact .primitive (PrimitiveKind.widensTo_trans h h')
  | literal h => cases h₂ with
    | conflict => exact .conflict _
    | literal h' => exact .literal (PrimitiveKind.widensTo_trans h h')
    | literalFloat => exact .literalFloat _
    | literalPrimitive hint h' => exact .literalPrimitive hint (PrimitiveKind.widensTo_trans h h')
  | literalFloat => cases h₂ with
    | conflict => exact .conflict _
    | primitive h' => cases PrimitiveKind.eq_float_of_widensTo h'; exact .literalFloat _
  | literalPrimitive hint h => cases h₂ with
    | conflict => exact .conflict _
    | primitive h' =>
      exact .literalPrimitive (PrimitiveKind.isIntegral_of_widensTo h' ▸ hint) (PrimitiveKind.widensTo_trans h h')
  | wideLiteral => exact h₂
  | widePrimitive h => cases h₂ with
    | conflict => exact .conflict _
    | primitive h' => exact .widePrimitive (PrimitiveKind.isWide_of_widensTo h' ▸ h)
  | null => exact h₂
  | nullReference => cases h₂ with
    | conflict => exact .conflict _
    | reference => exact .nullReference _
  | reference h => cases h₂ with
    | conflict => exact .conflict _
    | reference h' => exact .reference (hρ _ _ _ h h')
  | pending h => cases h₂ with
    | conflict => exact .conflict _
    | pending h' =>
      rw [PendingObject.same_iff] at h h'
      exact .pending (PendingObject.same_iff.2 ⟨h.1.trans h'.1, h.2.trans h'.2⟩)
  | pendingThis => exact h₂

/-! Joins are upper bounds. -/

theorem getD_map {f : PrimitiveKind → RegisterType} {k : Option PrimitiveKind}
    (h : ∀ k', k = some k' → Widens ρ a (f k')) : Widens ρ a ((k.map f).getD .conflict) := by
  cases k with
  | none => exact .conflict _
  | some k => exact h k rfl

theorem joinLiteral (k₁ k₂ : PrimitiveKind) : Widens ρ (RegisterType.literal k₁) (joinLiteral k₁ k₂) ∧
    Widens ρ (RegisterType.primitive k₂) (joinLiteral k₁ k₂) := by
  unfold RegisterType.joinLiteral
  split
  · next h => subst h; exact ⟨.literalFloat _, .primitive rfl⟩
  split
  · next hint =>
    constructor
    · refine getD_map fun k hk => ?_
      obtain ⟨h₁, h₂⟩ := PrimitiveKind.widensTo_join hk
      exact .literalPrimitive (PrimitiveKind.isIntegral_of_widensTo h₂ ▸ hint) h₁
    · exact getD_map fun k hk => .primitive (PrimitiveKind.widensTo_join hk).2
  · exact ⟨.conflict _, .conflict _⟩

theorem joinZero (hρ : o.Bounds ρ) (t : RegisterType) :
    Widens ρ RegisterType.zero (joinZero t) ∧ Widens ρ t (joinZero t) := by
  unfold RegisterType.joinZero
  split
  · next h =>
    rw [Bool.or_eq_true] at h
    exact ⟨.zero h, .refl hρ t⟩
  · exact ⟨.conflict _, .conflict _⟩

theorem joinReference (hρ : o.Bounds ρ) (t₁ t₂ : Descriptor) :
    Widens ρ (RegisterType.reference t₁) (joinReference o t₁ t₂) ∧
      Widens ρ (RegisterType.reference t₂) (joinReference o t₁ t₂) := by
  unfold RegisterType.joinReference
  split
  · next h => subst h; exact ⟨.refl hρ _, .refl hρ _⟩
  · cases h : o.commonSupertype? t₁ t₂ with
    | none => exact ⟨.conflict _, .conflict _⟩
    | some t =>
      obtain ⟨h₁, h₂⟩ := hρ.common t₁ t₂ t h
      exact ⟨.reference h₁, .reference h₂⟩

theorem join (hρ : o.Bounds ρ) (a b : RegisterType) : Widens ρ a (a.join o b) ∧ Widens ρ b (a.join o b) := by
  fun_cases RegisterType.join o a b
  case case3 => exact ⟨.unknown _, .refl hρ _⟩
  case case4 => exact ⟨.refl hρ _, .unknown _⟩
  case case5 => exact joinZero hρ b
  case case6 => exact (joinZero hρ a).symm
  case case7 =>
    exact ⟨getD_map fun k hk => .primitive (PrimitiveKind.widensTo_join hk).1,
      getD_map fun k hk => .primitive (PrimitiveKind.widensTo_join hk).2⟩
  case case8 =>
    exact ⟨getD_map fun k hk => .literal (PrimitiveKind.widensTo_join hk).1,
      getD_map fun k hk => .literal (PrimitiveKind.widensTo_join hk).2⟩
  case case9 k₁ k₂ => exact joinLiteral k₁ k₂
  case case10 k₂ k₁ => exact (joinLiteral k₁ k₂).symm
  case case11 => exact ⟨.wideLiteral, .wideLiteral⟩
  case case12 h => exact ⟨.widePrimitive h, .refl hρ _⟩
  case case14 h => exact ⟨.refl hρ _, .widePrimitive h⟩
  case case16 => exact ⟨.null, .null⟩
  case case17 => exact ⟨.nullReference _, .refl hρ _⟩
  case case18 => exact ⟨.refl hρ _, .nullReference _⟩
  case case19 t₁ t₂ => exact joinReference hρ t₁ t₂
  case case20 u v h =>
    rw [PendingObject.same_iff] at h
    exact ⟨.refl hρ _, .pending (PendingObject.same_iff.2 ⟨h.1.symm, h.2.symm⟩)⟩
  case case22 => exact ⟨.pendingThis _, .pendingThis _⟩
  all_goals exact ⟨.conflict _, .conflict _⟩

theorem joinOrder (hρ : o.Bounds ρ) : TypeState.JoinOrder o (Widens ρ) where
  of_beq _ _ := of_beq hρ
  trans _ _ _ := trans hρ.trans
  left a b := (join hρ a b).1
  right a b := (join hρ a b).2

end Widens

/-- Assignability is widening, but for literals of a kind that no literal has. -/
theorem widens_or_literal (h : a.isAssignable o b = true) : Widens (fun t u => o.isAssignable t u = true) a b ∨
    ∃ k₁ k₂, a = literal k₁ ∧ b = primitive k₂ ∧ k₂.isWide = true ∧ k₁.widensTo k₂ = true := by
  revert h
  fun_cases isAssignable o a b <;> intro h
  case case3 => exact .inl (.zero (by simpa using h))
  case case4 => exact .inl (.primitive h)
  case case5 => exact .inl (.literal h)
  case case6 k₁ k₂ =>
    rw [Bool.or_eq_true, decide_eq_true_eq] at h
    rcases h with rfl | h
    · exact .inl (.literalFloat k₁)
    cases hint : k₂.isIntegral with
    | true => exact .inl (.literalPrimitive hint h)
    | false =>
      rcases PrimitiveKind.eq_float_or_isWide hint with rfl | hwide
      · exact .inl (.literalFloat k₁)
      · exact .inr ⟨k₁, k₂, rfl, rfl, hwide, h⟩
  case case8 => exact .inl (.widePrimitive h)
  case case11 => exact .inl (.reference h)
  case case12 => exact .inl (.pending h)
  case case13 => rw [decide_eq_true_eq] at h; subst h; exact .inl (.pendingThis _)
  case case14 => cases h
  all_goals exact .inl (by constructor)

end RegisterType

end Dalvik
