import Dalvik.Proofs.Errors
import Dalvik.Proofs.Runs

/-!
# Origins of conflicts

A register in conflict may remember the two types that clashed there. They are not part of the type, and instructions,
branches and joins all have to keep them in step with it: a register that is written forgets them, a join records them
where two types clash and hands on what either side remembers of an older conflict. So they are always the types of a
real clash, in a register that is in conflict now (`TypeState.Explained`), and a complaint that names two types names
types that have no join.
-/

namespace Dalvik

namespace RegisterType
variable {o : ClassOracle} {t₁ t₂ : RegisterType}

/-- Two types that are known, and that a register cannot have both. -/
structure Clash (o : ClassOracle) (t₁ t₂ : RegisterType) : Prop where
  left : t₁ ≠ conflict ∧ t₁ ≠ unknown
  right : t₂ ≠ conflict ∧ t₂ ≠ unknown
  join : t₁.join o t₂ = conflict

theorem isConflict_iff {t : RegisterType} : t.isConflict = true ↔ t = conflict := by
  cases t <;> simp [isConflict]

theorem conflict_join (t : RegisterType) : conflict.join o t = conflict := by
  cases t <;> rfl

theorem join_conflict (t : RegisterType) : t.join o conflict = conflict := by
  cases t <;> rfl

theorem unknown_join (t : RegisterType) : unknown.join o t = t := by
  cases t <;> rfl

theorem join_unknown (t : RegisterType) : t.join o unknown = t := by
  cases t <;> rfl

/-- What is known clashes when its join is a conflict that was none before. -/
theorem clash_of_join (h : t₁.join o t₂ = conflict) (h₁ : t₁ ≠ conflict) (h₂ : t₂ ≠ conflict) : t₁.Clash o t₂ := by
  refine ⟨⟨h₁, ?_⟩, ⟨h₂, ?_⟩, h⟩
  · rintro rfl
    exact h₂ ((unknown_join t₂).symm.trans h)
  · rintro rfl
    exact h₁ ((join_unknown t₁).symm.trans h)

end RegisterType

namespace Slot
variable {o : ClassOracle} {s t : Slot}

/-- What the register remembers is a clash, which it still is in conflict over. -/
def Explained (o : ClassOracle) (s : Slot) : Prop :=
  ∀ t₁ t₂, s.origin = some (t₁, t₂) → s.type = .conflict ∧ t₁.Clash o t₂

theorem explained_of_origin (h : s.origin = none) : s.Explained o := by
  intro t₁ t₂ horigin
  rw [h] at horigin
  cases horigin

/-- What a join remembers was remembered on either side, or has clashed just now. -/
theorem origin_join {origin : RegisterType × RegisterType} (h : (s.join o t).origin = some origin) :
    s.origin = some origin ∨ t.origin = some origin ∨ origin = (s.type, t.type) ∧
      s.type.join o t.type = .conflict ∧ s.type ≠ .conflict ∧ t.type ≠ .conflict := by
  simp only [Slot.join] at h
  split at h
  · next hjoined =>
    split at h
    · cases hold : s.origin with
      | some old =>
        rw [hold] at h
        exact .inl h
      | none =>
        rw [hold] at h
        exact .inr (.inl h)
    · next hnew =>
      cases h
      simp only [Bool.or_eq_true, RegisterType.isConflict_iff, not_or] at hnew hjoined
      exact .inr (.inr ⟨rfl, hjoined, hnew⟩)
  · exact .inl h

/-- A register in conflict stays so when it is joined with another one. -/
theorem Explained.join (hs : s.Explained o) (ht : t.Explained o) : (s.join o t).Explained o := by
  intro t₁ t₂ h
  rcases origin_join h with hold | hold | ⟨horigin, hjoined, hnew⟩
  · obtain ⟨hconflict, hclash⟩ := hs t₁ t₂ hold
    refine ⟨?_, hclash⟩
    rw [Slot.join, hconflict, RegisterType.conflict_join]
  · obtain ⟨hconflict, hclash⟩ := ht t₁ t₂ hold
    refine ⟨?_, hclash⟩
    rw [Slot.join, hconflict, RegisterType.join_conflict]
  · cases horigin
    exact ⟨hjoined, RegisterType.clash_of_join hjoined hnew.1 hnew.2⟩

end Slot

/-! ### Changes of states -/

namespace TypeState
variable {o : ClassOracle} {s s' s'' t : TypeState}

/-- Registers of the second state remember nothing that those of the first one did not. -/
def Inherits (s s' : TypeState) : Prop := ∀ slot ∈ s'.slots, slot ∈ s.slots ∨ slot.origin = none

theorem Inherits.refl (s : TypeState) : s.Inherits s := fun _ h => .inl h

theorem Inherits.trans (h : s.Inherits s') (h' : s'.Inherits s'') : s.Inherits s'' :=
  fun slot hslot => (h' slot hslot).elim (h slot) .inr

theorem inherits_write (s : TypeState) (r : Reg) (t : RegisterType) : s.Inherits (s.write r t).state := by
  unfold write
  split
  · intro slot hslot
    rcases Array.mem_or_eq_of_mem_setIfInBounds hslot with hslot | rfl
    · exact .inl hslot
    · exact .inr rfl
  · exact .refl s

theorem inherits_writePair (s : TypeState) (r : Reg) (t : RegisterType) : s.Inherits (s.writePair r t).state := by
  unfold writePair
  dsimp only
  split
  · exact s.inherits_write r t
  · exact (s.inherits_write r t).trans (inherits_write _ _ t)

theorem inherits_replace (s : TypeState) (old new : RegisterType) : s.Inherits (s.replace old new) := by
  intro slot hslot
  obtain ⟨slot', hslot', rfl⟩ := Array.mem_map.1 hslot
  unfold Slot.replace
  split
  · exact .inr rfl
  · exact .inl hslot'

theorem inherits_follow (s : TypeState) (b : Branch) : s.Inherits (s.follow b).state := by
  unfold follow
  split
  · dsimp only
    split <;> exact .refl s
  · exact .refl s
  · split
    · exact s.inherits_write _ _
    · exact .refl s
    · exact .refl s
  · exact .refl s

theorem mem_slots_join {e : TypeState} (h : s.join o t = .ok e) {slot : Slot} (hslot : slot ∈ e.slots) :
    ∃ x ∈ s.slots, ∃ y ∈ t.slots, slot = x.join o y := by
  unfold join at h
  split at h
  · cases h
    obtain ⟨n, hn⟩ := Array.mem_iff_getElem?.1 hslot
    rw [Array.getElem?_zipWith] at hn
    split at hn
    · next x y hx hy =>
      cases hn
      exact ⟨x, Array.mem_of_getElem? hx, y, Array.mem_of_getElem? hy, rfl⟩
    · cases hn
  · cases h

end TypeState

theorem Context.inherits_perform {ctx : Context} {sites : AllocationSites} {s : TypeState} (pc : Address) (e : Effect) :
    s.Inherits (ctx.perform sites pc s e).state := by
  cases e with
  | skip | yield => exact .refl s
  | write r t => exact s.inherits_write r t
  | writePair r t => exact s.inherits_writePair r t
  | allocate dst type => exact (s.inherits_replace _ _).trans (TypeState.inherits_write _ _ _)
  | construct object type result => exact s.inherits_replace _ _

theorem Context.inherits_transfer {ctx : Context} {sites : AllocationSites} (s : TypeState) (i : LabeledInstr) :
    s.Inherits (ctx.transfer sites s i).state := by
  unfold transfer
  split
  · exact inherits_perform (s := s.clearPseudo) _ _
  · exact .refl s
  · exact inherits_perform (s := s.clearPseudo) _ _

namespace TypeState
variable {o : ClassOracle} {s s' t : TypeState}

def Explained (o : ClassOracle) (s : TypeState) : Prop := ∀ slot ∈ s.slots, slot.Explained o

theorem Explained.inherit (hs : s.Explained o) (h : s.Inherits s') : s'.Explained o :=
  fun slot hslot => (h slot hslot).elim (hs slot) Slot.explained_of_origin

theorem Explained.join {e : TypeState} (hs : s.Explained o) (ht : t.Explained o) (h : s.join o t = .ok e) :
    e.Explained o := by
  intro slot hslot
  obtain ⟨x, hx, y, hy, rfl⟩ := mem_slots_join h hslot
  exact (hs x hx).join (ht y hy)

theorem origin_initial {m : Method} {c : Code} (h : initial m c = .ok s) : ∀ slot ∈ s.slots, slot.origin = none := by
  unfold initial at h
  split at h
  · cases h
  · simp only [bind_eq_ok, pure_eq_ok] at h
    obtain ⟨ts, -, rfl⟩ := h
    intro slot hslot
    obtain ⟨t, -, rfl⟩ := List.mem_map.1 (List.mem_toArray.1 hslot)
    rfl

theorem explained_initial {m : Method} {c : Code} (h : initial m c = .ok s) : s.Explained o :=
  fun slot hslot => Slot.explained_of_origin (origin_initial h slot hslot)

theorem Explained.conflictOrigin? (hs : s.Explained o) {r : Reg} {t₁ t₂ : RegisterType}
    (h : s.conflictOrigin? r = some (t₁, t₂)) : s.type? r = some .conflict ∧ t₁.Clash o t₂ := by
  obtain ⟨slot, hslot, horigin⟩ := Option.bind_eq_some_iff.1 h
  obtain ⟨htype, hclash⟩ := hs slot (Array.mem_of_getElem? hslot) t₁ t₂ horigin
  exact ⟨by rw [type?, hslot, Option.map_some, htype], hclash⟩

/-- States that come from initial states by transfers, branches and joins, with one oracle. -/
inductive Derived (o : ClassOracle) : TypeState → Prop
  | initial {m : Method} {c : Code} {s : TypeState} : TypeState.initial m c = .ok s → Derived o s
  | transfer {s : TypeState} (method : MethodRef) (sites : AllocationSites) (i : LabeledInstr) : Derived o s →
      Derived o (Context.transfer ⟨o, method⟩ sites s i).state
  | follow {s : TypeState} (b : Branch) : Derived o s → Derived o (s.follow b).state
  | join {s t e : TypeState} : Derived o s → Derived o t → s.join o t = .ok e → Derived o e

theorem Derived.explained (h : Derived o s) : s.Explained o := by
  induction h with
  | initial hs => exact explained_initial hs
  | transfer method sites i _ ih => exact ih.inherit (Context.inherits_transfer _ i)
  | follow b _ ih => exact ih.inherit (inherits_follow _ b)
  | join _ _ hjoin ih ih' => exact ih.join ih' hjoin

end TypeState

/-! ### Complaints -/

/-- The message tells of a conflict, and the types it names, if there are any, clash. -/
def Violation.NamesClash (o : ClassOracle) (x : Violation) : Prop :=
  ∃ r : Reg, x.message = r.text ++ " holds conflicting types" ∨
    ∃ t₁ t₂ : RegisterType,
      x.message = r.text ++ " holds incompatible types " ++ t₁.text ++ " and " ++ t₂.text ∧ t₁.Clash o t₂

theorem Context.namesClash_of_violation {ctx : Context} {sites : AllocationSites} {s : TypeState} {i : LabeledInstr}
    {x : Violation} (hs : s.Explained ctx.oracle) (h : (ctx.transfer sites s i).violation = some x)
    (hkind : x.kind = .conflictUse) : x.NamesClash ctx.oracle := by
  obtain ⟨c, hc, rfl⟩ := violation_eq_some_iff.1 h
  cases i.instr.faultsOnly_effect (List.Subset.refl _) id _ hc with
  | other hother =>
    rw [Complaint.isConflictRead_of_kind hkind] at hother
    cases hother
  | @conflict r =>
    cases horigin : s.conflictOrigin? r with
    | none => exact ⟨r, .inl rfl⟩
    | some origin =>
      obtain ⟨t₁, t₂⟩ := origin
      exact ⟨r, .inr ⟨t₁, t₂, rfl, (hs.conflictOrigin? horigin).2⟩⟩

theorem Context.keeps_derived (ctx : Context) (c : Code) : ctx.Keeps c fun _ s => TypeState.Derived ctx.oracle s where
  more hs _ := hs
  transfer _ hs _ := hs.transfer _ _ _
  follow hs _ := hs.follow _
  join hs ht hjoin := hs.join ht hjoin

theorem Verification.derived_of_within {o : ClassOracle} {limit : Nat} {m : Method} {v : Verification}
    (hv : within o limit m = .ok v) : ∀ st ∈ v.flow.steps, TypeState.Derived o st.before := by
  obtain ⟨c, hc, -⟩ := within_eq_ok hv
  have hholds := holds_of_within (Context.keeps_derived ⟨o, m.descriptor⟩ c) hv hc fun _ hs => .initial hs
  exact fun st hst => (hholds.1 st hst).1

/-- Origins explain the conflicts they belong to, and complaints about conflicts name types that clash. -/
theorem conflict_origins_clash (o : ClassOracle) :
    (∀ s, TypeState.Derived o s → ∀ r t₁ t₂, s.conflictOrigin? r = some (t₁, t₂) →
      s.type? r = some .conflict ∧ t₁.Clash o t₂) ∧
    (∀ s, TypeState.Derived o s → ∀ method sites i x, (Context.transfer ⟨o, method⟩ sites s i).violation = some x →
      x.kind = .conflictUse → x.NamesClash o) ∧
    ∀ limit m v, Verification.within o limit m = .ok v → ∀ x ∈ v.violations, x.kind = .conflictUse →
      x.NamesClash o := by
  refine ⟨fun s hs r t₁ t₂ => hs.explained.conflictOrigin?, fun s hs method sites i x hx hkind => ?_,
    fun limit m v hv x hx hkind => ?_⟩
  · exact Context.namesClash_of_violation hs.explained hx hkind
  · obtain ⟨st, hst, hviolation⟩ := List.mem_filterMap.1 hx
    obtain ⟨c, -, hflow⟩ := Verification.within_eq_ok hv
    obtain ⟨g, s₀, -, -, hsol⟩ := Dataflow.solution_of_compute hflow
    obtain ⟨sites, -, -, hsame⟩ := hsol.performs st hst
    have hderived := Verification.derived_of_within hv st hst
    exact Context.namesClash_of_violation hderived.explained (hsame.trans hviolation) hkind

/-! A register holds a number on one path and null on the other, and is copied where the paths meet. -/

def clashingCode : Code :=
  .ofInstrs 1 1 (.const 0 1) [.ifTestZero .eq 1 6, .constNull 0, .move 1 0, .returnVoid]

def clashingMethod : Method := ⟨⟨.object "Zoo", "run", [.prim .int], .void⟩, Flags.static, some clashingCode⟩

def clashingState (t : RegisterType) : TypeState :=
  { slots := #[⟨t, none⟩, ⟨.primitive .int, none⟩], expected := none }

def clashedState : TypeState :=
  { slots := #[⟨.conflict, some (.literal .boolean, .null)⟩, ⟨.primitive .int, none⟩], expected := none }

theorem derived_clashedState (o : ClassOracle) : TypeState.Derived o clashedState := by
  have hinitial : TypeState.Derived o (clashingState .unknown) := .initial (m := clashingMethod) (c := clashingCode) rfl
  have hnumber : TypeState.Derived o (clashingState (.literal .boolean)) :=
    hinitial.transfer clashingMethod.descriptor {} (.plain 0 3 (.const 0 1))
  have hnull : TypeState.Derived o (clashingState .null) :=
    hnumber.transfer clashingMethod.descriptor {} (.plain 5 6 (.constNull 0))
  exact .join hnumber hnull (by cbv)

theorem conflict_origins_clash_copied :
    TypeState.Derived Hierarchy.empty.oracle clashedState ∧
      clashedState.conflictOrigin? 0 = some (.literal .boolean, .null) ∧
      clashedState.type? 0 = some .conflict ∧ RegisterType.Clash Hierarchy.empty.oracle (.literal .boolean) .null ∧
      ∃ v x, Verification.within Hierarchy.empty.oracle 9 clashingMethod = .ok v ∧ v.violations = [x] ∧
        x.kind = .conflictUse ∧ x.NamesClash Hierarchy.empty.oracle := by
  have hderived := derived_clashedState Hierarchy.empty.oracle
  obtain ⟨hconflict, hclash⟩ := (conflict_origins_clash _).1 _ hderived 0 _ _ rfl
  refine ⟨hderived, rfl, hconflict, hclash, ?_⟩
  have hrun : (Verification.within Hierarchy.empty.oracle 9 clashingMethod).toOption.map
      (·.violations.map Violation.kind) = some [.conflictUse] := by cbv
  obtain ⟨v, hv, hviolations⟩ := exists_ok_of_toOption hrun
  obtain ⟨x, rest, hx, hkind, hrest⟩ := List.map_eq_cons_iff.1 hviolations
  obtain rfl := List.map_eq_nil_iff.1 hrest
  refine ⟨v, x, hv, hx, hkind, ?_⟩
  exact (conflict_origins_clash _).2.2 9 clashingMethod v hv x (by rw [hx]; exact List.mem_singleton_self x) hkind

end Dalvik
