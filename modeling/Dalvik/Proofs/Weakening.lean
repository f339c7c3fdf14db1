import Dalvik.Proofs.Errors
import Dalvik.Proofs.PostFixpoint
import Dalvik.Proofs.Wide

/-!
# Checks in a state that says less

One state coarsens another when it says less about the registers that are assigned: their types are above
(`TypeState.Coarsens`). A check of an operand in the coarser state weakens the same check in the other one
(`Check.Weakens`): it complains wherever the other one does. Three complaints may be lost (`TypeState.Loses`). A pending
object that is in conflict in the coarser state is not seen to escape. The halves of a pair may be below one wide type
without being equal. And a result may have a type that no instruction leaves.
-/

namespace Dalvik

namespace RegisterType
variable {o : ClassOracle} {a b c : RegisterType}

theorem isWide_unlabeled (a : RegisterType) : a.unlabeled.isWide = a.isWide := by cases a <;> rfl

theorem isReferenceLike_unlabeled (a : RegisterType) : a.unlabeled.isReferenceLike = a.isReferenceLike := by
  cases a <;> rfl

theorem isAssignable_unlabeled (a b : RegisterType) : a.isAssignable o b.unlabeled = a.isAssignable o b := by
  cases b with
  | pending u => cases a <;> rfl
  | _ => rfl

/-- The type of a register that is assigned, below the other one. -/
def Refines (o : ClassOracle) (a b : RegisterType) : Prop := a.isAssignable o b = true ∧ a ≠ .unknown

namespace Refines

theorem inv (h : a.Refines o b) : (Widens (fun t u => o.isAssignable t u = true) a b ∧ a ≠ .unknown) ∨
    ∃ k₁ k₂, a = .literal k₁ ∧ b = .primitive k₂ ∧ k₂.isWide = true ∧ k₁.widensTo k₂ = true :=
  (widens_or_literal h.1).imp_left fun hw => ⟨hw, h.2⟩

theorem isSingleWord (h : a.Refines o b) (hb : b.isSingleWord = true) : a.isSingleWord = true := by
  rcases h.inv with ⟨hw, hne⟩ | ⟨k₁, k₂, rfl, -, -⟩
  · cases hw with
    | unknown => exact absurd rfl hne
    | primitive hk => simpa [RegisterType.isSingleWord, PrimitiveKind.isWide_of_widensTo hk] using hb
    | widePrimitive hk => simp [RegisterType.isSingleWord, hk] at hb
    | _ => first | rfl | cases hb
  · rfl

theorem isReferenceLike (h : a.Refines o b) (hb : b.isReferenceLike = true) : a.isReferenceLike = true := by
  rcases h.inv with ⟨hw, hne⟩ | ⟨k₁, k₂, -, rfl, -⟩
  · cases hw with
    | unknown => exact absurd rfl hne
    | _ => first | rfl | cases hb
  · cases hb

theorem isIntegral (h : a.Refines o b) (hb : b.isIntegral = true) : a.isIntegral = true := by
  rcases h.inv with ⟨hw, hne⟩ | ⟨k₁, k₂, rfl, -, -⟩
  · cases hw with
    | unknown => exact absurd rfl hne
    | primitive hk => exact (PrimitiveKind.isIntegral_of_widensTo hk).trans hb
    | widePrimitive hk =>
      rw [PrimitiveKind.isWide_of_isIntegral hb] at hk
      cases hk
    | _ => first | rfl | cases hb
  · rfl

theorem isWide (h : a.Refines o b) (hb : b.isWide = true) :
    a.isWide = true ∨ ∃ k, a = .literal k ∧ k.isWide = true := by
  rcases h.inv with ⟨hw, hne⟩ | ⟨k₁, k₂, rfl, -, hwide, hk⟩
  · exact .inl ((hw.isWide hb).resolve_left hne)
  · exact .inr ⟨k₁, rfl, (PrimitiveKind.isWide_of_widensTo hk).trans hwide⟩

/-- Pending objects are only below themselves, and values only below values, as long as there is no conflict. -/
theorem content (h : a.Refines o b) : b.content = a.content ∨ b = .conflict := by
  rcases h.inv with ⟨hw, hne⟩ | ⟨k₁, k₂, rfl, rfl, -⟩
  · have hle := (Content.le_of_widens hw).ne_nothing fun hnothing => hne (content_eq_nothing.1 hnothing)
    exact hle.imp_right content_eq_lost.1
  · exact .inl rfl

/-- Assignability is transitive, but for zero, which is below literals of wide kinds. -/
theorem trans (ho : ∀ t u v, o.isAssignable t u = true → o.isAssignable u v = true → o.isAssignable t v = true)
    (h : a.Refines o b) (hbc : b.isAssignable o c = true) (hwide : c.isWide = true → a.isWide = true) :
    a.isAssignable o c = true := by
  rcases h.inv with ⟨hab, hne⟩ | ⟨k₁, k₂, rfl, rfl, hk₂, hk⟩
  · rcases widens_or_literal hbc with hbc | ⟨k₁, k₂, rfl, rfl, hk₂, hk⟩
    · exact (hab.trans ho hbc).isAssignable
    · cases hab with
      | unknown => exact absurd rfl hne
      | zero => exact absurd (hwide hk₂) (by decide)
      | literal hk' => simp [RegisterType.isAssignable, PrimitiveKind.widensTo_trans hk' hk]
  · rcases widens_or_literal hbc with hbc | ⟨_, _, hb, -⟩
    · cases hbc with
      | conflict => rfl
      | primitive hk' => simp [RegisterType.isAssignable, PrimitiveKind.widensTo_trans hk hk']
    · cases hb

end Refines
end RegisterType

theorem RegisterType.ofDescriptor_of_isReference {d : Descriptor} (h : d.isReference = true) :
    ofDescriptor d = .ok (.reference d) := by
  unfold ofDescriptor
  split
  · cases h
  · cases h
  · rfl

namespace Access
variable {access : Access} {d : Descriptor}

theorem exists_ofDescriptor (h : access.fits d = true) : ∃ t, RegisterType.ofDescriptor d = .ok t := by
  cases hd : RegisterType.ofDescriptor d with
  | ok t => exact ⟨t, rfl⟩
  | error e =>
    obtain ⟨rfl, -⟩ := RegisterType.ofDescriptor_eq_error hd
    rw [access.fits_void] at h
    cases h

theorem prim_of_fits (h : access.fits d = true) (hobject : access ≠ .object) : ∃ kind, d = .prim kind := by
  have hprim : ∀ kind, d.kind? = some kind → ∃ kind, d = .prim kind := by
    intro kind hkind
    unfold Descriptor.kind? at hkind
    split at hkind
    · exact ⟨_, rfl⟩
    · cases hkind
  cases access with
  | plain =>
    simp only [fits, Bool.or_eq_true, decide_eq_true_eq] at h
    rcases h with rfl | rfl <;> exact ⟨_, rfl⟩
  | wide =>
    obtain ⟨kind, hkind, -⟩ := (Option.any_eq_true _ _).1 h
    exact hprim kind hkind
  | object => exact absurd rfl hobject
  | boolean | byte | char | short => exact hprim _ (of_decide_eq_true h)

theorem fits_iff_of_isReference (h : d.isReference = true) : access.fits d = true ↔ access = .object := by
  constructor
  · intro hfits
    by_contra hobject
    obtain ⟨kind, rfl⟩ := prim_of_fits hfits hobject
    cases h
  · rintro rfl
    exact h

end Access

/-- Where the second type is an array type, the first one is too, with the same components or references in both. -/
def Descriptor.Covariant (d d' : Descriptor) : Prop := ∀ c', d'.component? = some c' →
  ∃ c, d.component? = some c ∧ (c = c' ∨ c.isReference = true ∧ c'.isReference = true)

namespace TypeState
variable {o : ClassOracle} {s s' : TypeState} {r : Reg} {t t' : RegisterType}

/-- The second state says less than the first one, about registers that are assigned in both or in none. -/
structure Coarsens (o : ClassOracle) (s s' : TypeState) : Prop where
  below : s.BelowOver o s'
  unknown : ∀ r, s.type? r = some .unknown ↔ s'.type? r = some .unknown

/-- The register holds an array in both states, or in none, as far as its components matter. -/
def CovariantAt (s s' : TypeState) (r : Reg) : Prop :=
  ∀ d d', s.type? r = some (.reference d) → s'.type? r = some (.reference d') → d.Covariant d'

/-- The complaints about the first state that need not be made about the second one. -/
inductive Loses (s s' : TypeState) : Complaint → Prop
  /-- The objects that escape are in conflict. -/
  | escape (live : List (Reg × RegisterType)) :
      (∀ r t, s.type? r = some t → t.isPending = true → s'.type? r = some .conflict) → Loses s s' (.escape live)
  /-- The halves are below one wide type, and differ or are not wide themselves. -/
  | pair {r : Reg} {t t' : RegisterType} (low high : RegisterType) : s'.type? r = some t →
      s'.type? (Reg.next r) = some t' → (t == t') = true → t.isWide = true → Loses s s' (.brokenPair r low high)
  /-- The result has a type that no instruction leaves. -/
  | result {t : RegisterType} {c : Complaint} : s.result = some t →
      t = .unknown ∨ (∃ k, t = .literal k ∧ k.isWide = true) →
      c = .notSingleWord t ∨ c = .notWide t ∨ c = .notReference t → Loses s s' c

theorem Coarsens.refines (h : s.Coarsens o s') (ht : s.type? r = some t) (ht' : s'.type? r = some t')
    (hne : t' ≠ .unknown) : t.Refines o t' := by
  refine ⟨h.below.types r t t' ht ht', ?_⟩
  rintro rfl
  have hunknown := (h.unknown r).1 ht
  rw [ht'] at hunknown
  exact hne (Option.some.inj hunknown)

end TypeState

/-! ### Checks, one against the other -/

/-- The second check complains where the first one does, unless the complaint is one of those that may be lost; and what
they end with otherwise is related. -/
inductive Check.Weakens {α : Type} (L : Complaint → Prop) (R : α → α → Prop) : Check α → Check α → Prop
  | ok {a b : α} : R a b → Weakens L R (.ok a) (.ok b)
  | error (e : TypingError) : Weakens L R (.error (.error e)) (.error (.error e))
  | complains (x : Check α) (c : Complaint) : Weakens L R x (.error (.complaint c))
  | lost {c : Complaint} (y : Check α) : L c → Weakens L R (.error (.complaint c)) y

namespace Check.Weakens
variable {α β : Type} {L : Complaint → Prop} {R : α → α → Prop} {Q : β → β → Prop} {x y : Check α} {f g : α → Check β}

theorem bind (h : Weakens L R x y) (hf : ∀ a b, R a b → Weakens L Q (f a) (g b)) :
    Weakens L Q (x >>= f) (y >>= g) := by
  cases h with
  | ok hR => exact hf _ _ hR
  | error e => exact .error e
  | complains x c => exact .complains _ c
  | lost y hL => exact .lost _ hL

theorem imp {R' : α → α → Prop} (h : Weakens L R x y) (hR : ∀ a b, R a b → R' a b) : Weakens L R' x y := by
  cases h with
  | ok h => exact .ok (hR _ _ h)
  | error e => exact .error e
  | complains x c => exact .complains _ c
  | lost y hL => exact .lost _ hL

theorem complaint {c : Complaint} (h : Weakens L R x y) (hx : x = .error (.complaint c)) :
    (∃ c', y = .error (.complaint c')) ∨ L c := by
  cases h with
  | ok | error => cases hx
  | complains x c' => exact .inl ⟨c', rfl⟩
  | lost y hL =>
    cases hx
    exact .inr hL

/-- A check that does not depend on the state. -/
theorem same (x : Check α) (hf : ∀ a, x = .ok a → Weakens L Q (f a) (g a)) : Weakens L Q (x >>= f) (x >>= g) := by
  cases x with
  | ok a => exact hf a rfl
  | error fault =>
    cases fault with
    | error e => exact .error e
    | complaint c => exact .complains _ c

theorem pure {a b : α} : Weakens L (fun _ _ => True) (.ok a) (.ok b) := .ok trivial

theorem refl (x : Check α) : Weakens L (fun _ _ => True) x x := by
  cases x with
  | ok a => exact .pure
  | error fault =>
    cases fault with
    | error e => exact .error e
    | complaint c => exact .complains _ c

theorem require {b b' : Bool} {c c' : Complaint} (h : b' = true → b = true ∨ L c) :
    Weakens L (fun _ _ => b = true) (Check.require b c) (Check.require b' c') := by
  cases b' with
  | false => exact .complains _ c'
  | true =>
    cases b with
    | true => exact .ok rfl
    | false => exact .lost _ ((h rfl).resolve_left Bool.false_ne_true)

theorem require_right (b : Bool) (c : Complaint) : Weakens L (fun _ _ => True) (.ok ()) (Check.require b c) := by
  cases b with
  | false => exact .complains _ c
  | true => exact .pure

theorem forM {l : List α} {f g : α → Check PUnit} (h : ∀ a ∈ l, Weakens L (fun _ _ => True) (f a) (g a)) :
    Weakens L (fun _ _ => True) (l.forM f) (l.forM g) := by
  induction l with
  | nil => exact .pure
  | cons a l ih =>
    rw [List.forM_eq_forM, List.forM_cons, List.forM_cons]
    exact (h a List.mem_cons_self).bind fun _ _ _ => ih fun b hb => h b (List.mem_cons_of_mem _ hb)

end Check.Weakens

/-! ### Checks of operands -/

namespace TypeState
open Check

section
variable {o : ClassOracle} {s s' : TypeState} {r : Reg} {t : RegisterType}

/-- A register that holds no value is complained about. -/
theorem use_cases (ht : s.type? r = some t) :
    t.content = .plain ∧ s.use r = .ok t ∨ t.content ≠ .plain ∧ ∃ c, s.use r = .error (.complaint c) := by
  have hpeek : s.peek r = .ok t := peek_eq_ok.2 ht
  by_cases hplain : t.content = .plain
  · exact .inl ⟨hplain, use_eq_ok.2 ⟨ht, hplain⟩⟩
  · refine .inr ⟨hplain, ?_⟩
    unfold use
    rw [hpeek]
    cases t <;> first | exact ⟨_, rfl⟩ | exact absurd rfl hplain

variable (h : s.Coarsens o s')
include h

theorem Coarsens.type?_cases (r : Reg) : (∃ t t', s.type? r = some t ∧ s'.type? r = some t') ∨
    s.peek r = .error (.error (.outOfBounds r)) ∧ s'.peek r = .error (.error (.outOfBounds r)) := by
  rcases Nat.lt_or_ge r s.size with hr | hr
  · obtain ⟨t, ht⟩ := exists_type? hr
    obtain ⟨t', ht'⟩ := exists_type? (h.below.size ▸ hr)
    exact .inl ⟨t, t', ht, ht'⟩
  · have hr' : s'.size ≤ r := h.below.size ▸ hr
    unfold TypeState.peek read type?
    rw [Array.getElem?_eq_none hr, Array.getElem?_eq_none hr']
    exact .inr ⟨rfl, rfl⟩

theorem Coarsens.peek (r : Reg) : Weakens (s.Loses s') (fun t t' => s.type? r = some t ∧ s'.type? r = some t')
    (s.peek r) (s'.peek r) := by
  rcases h.type?_cases r with ⟨t, t', ht, ht'⟩ | ⟨hpeek, hpeek'⟩
  · rw [peek_eq_ok.2 ht, peek_eq_ok.2 ht']
    exact .ok ⟨ht, ht'⟩
  · rw [hpeek, hpeek']
    exact .error _

theorem Coarsens.use (r : Reg) : Weakens (s.Loses s')
    (fun t t' => s.type? r = some t ∧ s'.type? r = some t' ∧ t.Refines o t') (s.use r) (s'.use r) := by
  rcases h.type?_cases r with ⟨t, t', ht, ht'⟩ | ⟨hpeek, hpeek'⟩
  · rcases use_cases ht' with ⟨hplain', huse'⟩ | ⟨-, c, huse'⟩
    · have hrefines : t.Refines o t' := by
        refine h.refines ht ht' ?_
        rintro rfl
        cases hplain'
      have hplain : t.content = .plain := by
        rcases hrefines.content with hcontent | rfl
        · exact hcontent ▸ hplain'
        · cases hplain'
      rw [huse', use_eq_ok.2 ⟨ht, hplain⟩]
      exact .ok ⟨ht, ht', hrefines⟩
    · rw [huse']
      exact .complains _ c
  · unfold TypeState.use
    rw [hpeek, hpeek']
    exact .error _

theorem Coarsens.usePair (r : Reg) : Weakens (s.Loses s') (fun t t' => t.Refines o t' ∧ t.isWide = true)
    (s.usePair r) (s'.usePair r) := by
  refine (h.use r).bind fun low low' hlow => (h.use (Reg.next r)).bind fun high high' hhigh => ?_
  refine (Weakens.require fun hpair' => ?_).bind fun _ _ hpair => .ok ⟨hlow.2.2, (Bool.and_eq_true_iff.1 hpair).2⟩
  rw [Bool.and_eq_true] at hpair'
  exact .inr (.pair low high hlow.2.1 hhigh.2.1 hpair'.1 hpair'.2)

theorem Coarsens.useWidth (wide : Bool) (r : Reg) :
    Weakens (s.Loses s') (fun t t' => t.Refines o t' ∧ (wide = true → t.isWide = true)) (s.useWidth wide r)
      (s'.useWidth wide r) := by
  cases wide with
  | true => exact (h.usePair r).imp fun t t' ht => ⟨ht.1, fun _ => ht.2⟩
  | false => exact (h.use r).imp fun t t' ht => ⟨ht.2.2, fun hwide => absurd hwide Bool.false_ne_true⟩

/-- A wide operand is checked for no less when its kind is known. -/
theorem Coarsens.usePair_useTyped (r : Reg) {kind : PrimitiveKind} (hwide : kind.isWide = true) :
    Weakens (s.Loses s') (fun _ _ => True) (s.usePair r >>= fun _ => pure ())
      (s'.useTyped o r (.primitive kind)) := by
  unfold TypeState.useTyped TypeState.useWidth
  rw [RegisterType.isWide, hwide, if_pos rfl]
  exact (h.usePair r).bind fun t t' ht => .require_right _ _

/-- The components of an array, which may be null in the first state only. -/
inductive Elements : Option Descriptor → Option Descriptor → Prop
  | null (e' : Option Descriptor) : Elements none e'
  | same (c : Descriptor) : Elements (some c) (some c)
  | references {c c' : Descriptor} : c.isReference = true → c'.isReference = true → Elements (some c) (some c')

theorem Coarsens.useArray (hr : s.CovariantAt s' r) : Weakens (s.Loses s') Elements (s.useArray r) (s'.useArray r) := by
  refine (h.use r).bind fun t t' hr' => ?_
  obtain ⟨ht, ht', hrefines⟩ := hr'
  cases t' with
  | null | zero =>
    have hlike := hrefines.isReferenceLike rfl
    cases t with
    | null | zero => exact .ok (.null none)
    | reference d => exact absurd hrefines.1 Bool.false_ne_true
    | _ => cases hlike
  | reference d' =>
    have hlike := hrefines.isReferenceLike rfl
    dsimp only
    cases hd' : d'.component? with
    | none => exact .complains _ _
    | some c' =>
      cases t with
      | null | zero => exact .ok (.null (some c'))
      | reference d =>
        obtain ⟨c, hc, helement⟩ := hr d d' ht ht' c' hd'
        dsimp only
        rw [hc]
        rcases helement with rfl | ⟨href, href'⟩
        · exact .ok (.same c)
        · exact .ok (.references href href')
      | _ => cases hlike
  | _ => exact .complains _ _

/-- A pending object stays where it is, or is in conflict. -/
theorem Coarsens.exists_of_isPending (ht : s.type? r = some t) (hpending : t.isPending = true) :
    ∃ t', s'.type? r = some t' ∧ (t'.content = t.content ∨ t' = .conflict) := by
  obtain ⟨t', ht'⟩ := exists_type? (h.below.size ▸ lt_size_of_type? ht)
  have hrefines : t.Refines o t' := by
    refine ⟨h.below.types r t t' ht ht', ?_⟩
    rintro rfl
    cases hpending
  exact ⟨t', ht', hrefines.content⟩

theorem Coarsens.use_of_isPending (ht : s.type? r = some t) (hpending : t.isPending = true) :
    ∃ c, s'.use r = .error (.complaint c) := by
  obtain ⟨t', ht', hcontent⟩ := h.exists_of_isPending ht hpending
  rcases use_cases ht' with ⟨hplain, -⟩ | ⟨-, huse⟩
  · rcases hcontent with hcontent | rfl
    · rw [RegisterType.isPending_of_plain (hcontent ▸ hplain)] at hpending
      cases hpending
    · cases hplain
  · exact huse

theorem Coarsens.checkEscape : Weakens (s.Loses s') (fun _ _ => True) s.checkEscape s'.checkEscape := by
  refine (Weakens.require fun hnone => ?_).imp fun _ _ _ => trivial
  refine .inr (.escape _ fun r t ht hpending => ?_)
  obtain ⟨t', ht', hcontent | rfl⟩ := h.exists_of_isPending ht hpending
  · have hescape : s'.checkEscape = .ok () := require_eq_ok.2 hnone
    have hpending' := not_isPending_of_checkEscape hescape ht'
    rw [RegisterType.isPending_congr hcontent, hpending] at hpending'
    cases hpending'
  · exact ht'

theorem Coarsens.takeResult : Weakens (s.Loses s') (fun t t' => s.result = some t ∧ t.isAssignable o t' = true)
    s.takeResult s'.takeResult := by
  unfold TypeState.takeResult
  cases hresult' : s'.result with
  | none => exact .complains _ _
  | some t' =>
    obtain ⟨t, hresult, hle⟩ := h.below.result t' hresult'
    rw [hresult]
    exact .ok ⟨rfl, hle⟩

theorem Coarsens.constructed (r : Reg) (m : MethodRef) :
    Weakens (s.Loses s') (fun _ _ => True) (s.constructed o r m) (s'.constructed o r m) := by
  refine (h.peek r).bind fun t t' hr => ?_
  obtain ⟨ht, ht'⟩ := hr
  cases t' with
  | pending u' =>
    have hcontent := (h.refines ht ht' (by simp)).content.resolve_right (by simp)
    obtain ⟨u, rfl, -, htype⟩ := RegisterType.content_eq_object.1 hcontent.symm
    dsimp only
    rw [htype]
    exact (Weakens.require .inl).bind fun _ _ _ => .pure
  | pendingThis d =>
    have hcontent := (h.refines ht ht' (by simp)).content.resolve_right (by simp)
    obtain rfl := RegisterType.content_eq_receiver.1 hcontent.symm
    exact (Weakens.require .inl).bind fun _ _ _ => .pure
  | reference d => exact .complains _ _
  | _ =>
    rcases use_cases ht' with ⟨-, huse⟩ | ⟨-, c, huse⟩
    · simp only [huse]
      exact .complains _ _
    · simp only [huse]
      exact .complains _ _

variable (ho : ∀ t u v, o.isAssignable t u = true → o.isAssignable u v = true → o.isAssignable t v = true)
include ho

theorem Coarsens.useKind (r : Reg) (kind : PrimitiveKind) :
    Weakens (s.Loses s') (fun _ _ => True) (s.useKind o r kind) (s'.useKind o r kind) := by
  refine (h.useWidth kind.isWide r).bind fun t t' ht => ?_
  refine (Weakens.require fun hle => .inl ?_).imp fun _ _ _ => trivial
  exact ht.1.trans ho hle ht.2

theorem Coarsens.useTyped (r : Reg) {e e' : RegisterType} (he : e.unlabeled = e'.unlabeled) :
    Weakens (s.Loses s') (fun _ _ => True) (s.useTyped o r e) (s'.useTyped o r e') := by
  have hwide : e.isWide = e'.isWide := by rw [← e.isWide_unlabeled, he, RegisterType.isWide_unlabeled]
  have href : e.isReferenceLike = e'.isReferenceLike := by
    rw [← e.isReferenceLike_unlabeled, he, RegisterType.isReferenceLike_unlabeled]
  unfold TypeState.useTyped
  rw [← hwide, ← href]
  refine (h.useWidth e.isWide r).bind fun t t' ht => ?_
  have hassign : t'.isAssignable o e' = true → t.isAssignable o e = true := by
    intro hle
    refine ht.1.trans ho ?_ ht.2
    rwa [← RegisterType.isAssignable_unlabeled, he, RegisterType.isAssignable_unlabeled]
  cases hlike : e.isReferenceLike with
  | true =>
    refine (Weakens.require fun hlike' => .inl (ht.1.isReferenceLike hlike')).bind fun _ _ _ => ?_
    exact (Weakens.require fun hle => .inl (hassign hle)).imp fun _ _ _ => trivial
  | false => exact (Weakens.require fun hle => .inl (hassign hle)).imp fun _ _ _ => trivial

/-- An operand of one register is checked for no less when its kind is known. -/
theorem Coarsens.use_useTyped (r : Reg) {kind : PrimitiveKind} (hwide : kind.isWide = false) :
    Weakens (s.Loses s') (fun _ _ => True) (s.use r >>= expectSingleWord) (s'.useTyped o r (.primitive kind)) := by
  unfold TypeState.useTyped TypeState.useWidth
  rw [RegisterType.isWide, hwide, if_neg Bool.false_ne_true]
  refine (h.use r).bind fun t t' ht => (Weakens.require fun hle => .inl ?_).imp fun _ _ _ => trivial
  have hrefines : t.Refines o (.primitive kind) := by
    refine ⟨ht.2.2.trans ho hle fun h => ?_, ht.2.2.2⟩
    rw [RegisterType.isWide, hwide] at h
    cases h
  exact hrefines.isSingleWord (by simp [RegisterType.isSingleWord, hwide])

theorem Coarsens.useObject (r : Reg) :
    Weakens (s.Loses s') (fun _ _ => True) (s.useObject o r) (s'.useObject o r) := h.useTyped ho r rfl

theorem Coarsens.checkParams (ps : List Descriptor) (args : List Reg) :
    Weakens (s.Loses s') (fun _ _ => True) (s.checkParams o ps args) (s'.checkParams o ps args) := by
  induction ps generalizing args with
  | nil => exact .pure
  | cons p ps ih =>
    refine .same _ fun t _ => ?_
    generalize t.isWide = wide
    cases wide with
    | false =>
      cases args with
      | nil => exact .pure
      | cons r rest => exact (h.useTyped ho r rfl).bind fun _ _ _ => ih rest
    | true =>
      rcases args with _ | ⟨low, _ | ⟨high, rest⟩⟩
      · exact .pure
      · exact .pure
      · exact .same _ fun _ _ => (h.useTyped ho low rfl).bind fun _ _ _ => ih rest

theorem Coarsens.checkArguments (m : MethodRef) (args : List Reg) (hasReceiver : Bool) :
    Weakens (s.Loses s') (fun _ _ => True) (s.checkArguments o m args hasReceiver)
      (s'.checkArguments o m args hasReceiver) :=
  .same _ fun _ _ => h.checkParams ho m.params _

theorem Coarsens.checkReturn (i : Instr) (r : Reg) {fits : RegisterType → Bool}
    (hfits : ∀ t : RegisterType, fits t.unlabeled = fits t) :
    Weakens (s.Loses s') (fun _ _ => True) (s.checkReturn o i r fits) (s'.checkReturn o i r fits) := by
  have hexpected := RegisterType.option_beq_iff.1 h.below.expected
  unfold TypeState.checkReturn
  cases he' : s'.expected with
  | none => exact .complains _ _
  | some e' =>
    rw [he'] at hexpected
    obtain ⟨e, he, hlabel⟩ := Option.map_eq_some_iff.1 hexpected
    rw [he]
    refine (Weakens.require fun hfits' => .inl ?_).bind fun _ _ _ => h.useTyped ho r hlabel
    rw [← hfits, hlabel, hfits]
    exact hfits'

end
end TypeState

end Dalvik
