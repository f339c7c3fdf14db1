import Dalvik.Proofs.Blocks
import Dalvik.TypeState

/-!
# Orders on typing states

A state *flows into* another one when the second was made from the first by joins, up to labels of pending objects. The
fixpoint computation only ever makes recorded states grow this way, whatever the class oracle answers.

An order on register types for which `RegisterType.join` is an upper bound (`JoinOrder`) gives an order on states
(`TypeState.Below`), and a state is below every state that it flows into (`Below.of_flowsInto`). Widening is one such
order when common supertypes are upper bounds; what a type says about pending objects gives another one for every
oracle.
-/

namespace Dalvik

namespace RegisterType

/-- The type without the labels of a pending object, which `==` ignores. -/
def unlabeled : RegisterType → RegisterType
  | pending u => pending { u with id := 0, known := true }
  | t => t

theorem beq_iff_unlabeled {a b : RegisterType} : (a == b) = true ↔ a.unlabeled = b.unlabeled := by
  change a.same b = true ↔ _
  cases a <;> cases b <;> simp [same, unlabeled, PendingObject.same_iff]
  constructor
  · rintro ⟨hsite, htype⟩; exact ⟨htype, hsite⟩
  · rintro ⟨htype, hsite⟩; exact ⟨hsite, htype⟩

theorem option_beq_iff {x y : Option RegisterType} :
    (x == y) = true ↔ x.map unlabeled = y.map unlabeled := by
  cases x <;> cases y <;> simp [beq_iff_unlabeled]

theorem list_beq_iff {l l' : List RegisterType} : (l == l') = true ↔ l.map unlabeled = l'.map unlabeled := by
  induction l generalizing l' with
  | nil => cases l' <;> simp
  | cons a l ih => cases l' <;> simp [ih, beq_iff_unlabeled]

end RegisterType

namespace TypeState
variable {o : ClassOracle} {R : RegisterType → RegisterType → Prop} {s t u e e' : TypeState} {r : Reg}

theorem type?_eq_types (s : TypeState) (r : Reg) : s.type? r = s.types[r]? := by simp [type?, types]

theorem length_types (s : TypeState) : s.types.length = s.size := by simp [types, size]

theorem lt_size_of_type? {a : RegisterType} (h : s.type? r = some a) : r < s.size := by
  rw [type?_eq_types] at h
  exact s.length_types ▸ (List.getElem?_eq_some_iff.1 h).1

theorem exists_type? (h : r < s.size) : ∃ a, s.type? r = some a := by
  rw [type?_eq_types]
  exact ⟨_, List.getElem?_eq_getElem (s.length_types ▸ h)⟩

theorem beq_iff_unlabeled : (s == t) = true ↔
    s.types.map RegisterType.unlabeled = t.types.map RegisterType.unlabeled ∧
      s.exception.map RegisterType.unlabeled = t.exception.map RegisterType.unlabeled ∧
      s.result.map RegisterType.unlabeled = t.result.map RegisterType.unlabeled ∧
      s.expected.map RegisterType.unlabeled = t.expected.map RegisterType.unlabeled := by
  change s.same t = true ↔ _
  simp [same, RegisterType.list_beq_iff, RegisterType.option_beq_iff, and_assoc]

theorem beq_refl (s : TypeState) : (s == s) = true := beq_iff_unlabeled.2 ⟨rfl, rfl, rfl, rfl⟩

theorem beq_trans (h₁ : (s == t) = true) (h₂ : (t == u) = true) : (s == u) = true := by
  obtain ⟨htypes, hexc, hres, hexp⟩ := beq_iff_unlabeled.1 h₁
  obtain ⟨htypes', hexc', hres', hexp'⟩ := beq_iff_unlabeled.1 h₂
  exact beq_iff_unlabeled.2 ⟨htypes.trans htypes', hexc.trans hexc', hres.trans hres', hexp.trans hexp'⟩

/-! ### Joins of states -/

theorem join_eq_ok (h : s.join o t = .ok e) :
    s.size = t.size ∧ (s.expected == t.expected) = true ∧ e.size = s.size ∧ e.expected = s.expected ∧
      e.exception = joinPseudo o s.exception t.exception ∧ e.result = joinPseudo o s.result t.result := by
  unfold join at h
  split at h
  · next hst =>
    simp only [Bool.and_eq_true, decide_eq_true_eq] at hst
    cases h
    refine ⟨hst.1, hst.2, ?_, rfl, rfl, rfl⟩
    have := hst.1
    simp only [size] at this ⊢
    simp [this]
  · cases h

theorem type?_join (h : s.join o t = .ok e) {a b : RegisterType} (ha : s.type? r = some a) (hb : t.type? r = some b) :
    e.type? r = some (a.join o b) := by
  unfold join at h
  split at h
  · cases h
    simp only [type?, Option.map_eq_some_iff] at ha hb ⊢
    obtain ⟨x, hx, rfl⟩ := ha
    obtain ⟨y, hy, rfl⟩ := hb
    exact ⟨Slot.join o x y, by simp [Array.getElem?_zipWith, hx, hy], rfl⟩
  · cases h

theorem joinPseudo_eq_some {x y : Option RegisterType} {b : RegisterType} (h : joinPseudo o x y = some b) :
    ∃ a a', x = some a ∧ y = some a' ∧ b = a.join o a' := by
  cases x <;> cases y <;> simp_all [joinPseudo]

/-! ### Flowing into a state -/

/-- The second state was made from the first one by joins, up to labels. -/
inductive FlowsInto (o : ClassOracle) : TypeState → TypeState → Prop
  | refl (s : TypeState) : FlowsInto o s s
  | joined {s t e : TypeState} : t.join o s = .ok e → FlowsInto o s e
  | grown {s t e e' : TypeState} : FlowsInto o s e → e.join o t = .ok e' → FlowsInto o s e'
  | relabeled {s e e' : TypeState} : FlowsInto o s e → (e == e') = true → FlowsInto o s e'

/-- The first state says at least as much as the second one: its types are below, and it has what the second one has in
the pseudo-registers. -/
structure Below (R : RegisterType → RegisterType → Prop) (s t : TypeState) : Prop where
  size : s.size = t.size
  expected : (s.expected == t.expected) = true
  types : ∀ r a b, s.type? r = some a → t.type? r = some b → R a b
  exception : ∀ b, t.exception = some b → ∃ a, s.exception = some a ∧ R a b
  result : ∀ b, t.result = some b → ∃ a, s.result = some a ∧ R a b

/-- An order on types, up to labels, in which the join of two types is above both. -/
structure JoinOrder (o : ClassOracle) (R : RegisterType → RegisterType → Prop) : Prop where
  of_beq : ∀ a b : RegisterType, (a == b) = true → R a b
  trans : ∀ a b c, R a b → R b c → R a c
  left : ∀ a b : RegisterType, R a (a.join o b)
  right : ∀ a b : RegisterType, R b (a.join o b)

namespace Below

theorem mono {R' : RegisterType → RegisterType → Prop} (h : s.Below R t) (hR : ∀ a b, R a b → R' a b) :
    s.Below R' t where
  size := h.size
  expected := h.expected
  types r a b ha hb := hR a b (h.types r a b ha hb)
  exception b hb := (h.exception b hb).imp fun a ha => ⟨ha.1, hR a b ha.2⟩
  result b hb := (h.result b hb).imp fun a ha => ⟨ha.1, hR a b ha.2⟩

theorem exists_type? (h : s.Below R t) {a : RegisterType} (ha : s.type? r = some a) :
    ∃ b, t.type? r = some b ∧ R a b := by
  obtain ⟨b, hb⟩ := TypeState.exists_type? (h.size ▸ lt_size_of_type? ha)
  exact ⟨b, hb, h.types r a b ha hb⟩

variable (hR : JoinOrder o R)
include hR

theorem of_beq (h : (s == t) = true) : s.Below R t := by
  obtain ⟨htypes, hexc, hres, hexp⟩ := beq_iff_unlabeled.1 h
  have pseudo : ∀ x y : Option RegisterType, x.map RegisterType.unlabeled = y.map RegisterType.unlabeled →
      ∀ b, y = some b → ∃ a, x = some a ∧ R a b := by
    rintro x _ hxy b rfl
    obtain ⟨a, rfl, hab⟩ := Option.map_eq_some_iff.1 hxy
    exact ⟨a, rfl, hR.of_beq a b (RegisterType.beq_iff_unlabeled.2 hab)⟩
  refine ⟨?_, RegisterType.option_beq_iff.2 hexp, fun r a b ha hb => ?_, pseudo _ _ hexc, pseudo _ _ hres⟩
  · simpa [length_types] using congrArg List.length htypes
  · have hr := congrArg (·[r]?) htypes
    simp only [List.getElem?_map, ← type?_eq_types, ha, hb, Option.map_some, Option.some.injEq] at hr
    exact hR.of_beq a b (RegisterType.beq_iff_unlabeled.2 hr)

theorem trans (h₁ : s.Below R t) (h₂ : t.Below R u) : s.Below R u := by
  refine ⟨h₁.size.trans h₂.size, ?_, fun r a c ha hc => ?_, fun c hc => ?_, fun c hc => ?_⟩
  · exact RegisterType.option_beq_iff.2
      ((RegisterType.option_beq_iff.1 h₁.expected).trans (RegisterType.option_beq_iff.1 h₂.expected))
  · obtain ⟨b, hb, hab⟩ := h₁.exists_type? ha
    exact hR.trans a b c hab (h₂.types r b c hb hc)
  · obtain ⟨b, hb, hbc⟩ := h₂.exception c hc
    obtain ⟨a, ha, hab⟩ := h₁.exception b hb
    exact ⟨a, ha, hR.trans a b c hab hbc⟩
  · obtain ⟨b, hb, hbc⟩ := h₂.result c hc
    obtain ⟨a, ha, hab⟩ := h₁.result b hb
    exact ⟨a, ha, hR.trans a b c hab hbc⟩

theorem refl (s : TypeState) : s.Below R s := of_beq hR s.beq_refl

theorem join_left (h : s.join o t = .ok e) : s.Below R e := by
  obtain ⟨hsize, -, hsize', hexp, hexc, hres⟩ := join_eq_ok h
  have hexpected := RegisterType.option_beq_iff.2 (congrArg (Option.map RegisterType.unlabeled) hexp.symm)
  refine ⟨hsize'.symm, hexpected, fun r a c ha hc => ?_, fun c hc => ?_, fun c hc => ?_⟩
  · obtain ⟨b, hb⟩ := TypeState.exists_type? (hsize ▸ lt_size_of_type? ha)
    obtain rfl := Option.some.inj (hc.symm.trans (type?_join h ha hb))
    exact hR.left a b
  · obtain ⟨a, b, ha, -, rfl⟩ := joinPseudo_eq_some (hexc ▸ hc)
    exact ⟨a, ha, hR.left a b⟩
  · obtain ⟨a, b, ha, -, rfl⟩ := joinPseudo_eq_some (hres ▸ hc)
    exact ⟨a, ha, hR.left a b⟩

theorem join_right (h : s.join o t = .ok e) : t.Below R e := by
  obtain ⟨hsize, hexp', hsize', hexp, hexc, hres⟩ := join_eq_ok h
  refine ⟨hsize.symm.trans hsize'.symm, ?_, fun r b c hb hc => ?_, fun c hc => ?_, fun c hc => ?_⟩
  · rw [hexp]
    exact RegisterType.option_beq_iff.2 (RegisterType.option_beq_iff.1 hexp').symm
  · obtain ⟨a, ha⟩ := TypeState.exists_type? (hsize ▸ lt_size_of_type? hb)
    obtain rfl := Option.some.inj (hc.symm.trans (type?_join h ha hb))
    exact hR.right a b
  · obtain ⟨a, b, -, hb, rfl⟩ := joinPseudo_eq_some (hexc ▸ hc)
    exact ⟨b, hb, hR.right a b⟩
  · obtain ⟨a, b, -, hb, rfl⟩ := joinPseudo_eq_some (hres ▸ hc)
    exact ⟨b, hb, hR.right a b⟩

end Below

theorem Below.of_flowsInto (hR : JoinOrder o R) (h : FlowsInto o s e) : s.Below R e := by
  induction h with
  | refl => exact .refl hR _
  | joined h => exact .join_right hR h
  | grown _ h ih => exact ih.trans hR (.join_left hR h)
  | relabeled _ h ih => exact ih.trans hR (.of_beq hR h)

end TypeState
end Dalvik
