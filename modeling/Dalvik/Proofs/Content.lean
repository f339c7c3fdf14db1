import Dalvik.Proofs.Widening

/-!
# What a type says about pending objects

Whether a register may be read, and which pending object it holds, depends on little of its type (`Content`): it holds
nothing yet, a value, a pending object of some allocation, the pending receiver, or one of several of these. Values
are all alike here, so the order of contents is the same for all oracles, and joins are upper bounds in it
(`Content.joinOrder`).
-/

namespace Dalvik

inductive Content where
  | nothing
  /-- A value: a constructed object or no object at all. -/
  | plain
  /-- The pending object of an allocation. -/
  | object (site : AllocationSite) (type : Descriptor)
  /-- The pending receiver of a constructor. -/
  | receiver (type : Descriptor)
  /-- What different paths do not agree on. -/
  | lost
deriving DecidableEq

namespace RegisterType
variable {o : ClassOracle} {a b : RegisterType}

def content : RegisterType → Content
  | unknown => .nothing
  | pending u => .object u.site u.type
  | pendingThis t => .receiver t
  | conflict => .lost
  | _ => .plain

theorem content_eq_nothing : a.content = .nothing ↔ a = unknown := by cases a <;> simp [content]

theorem content_eq_lost : a.content = .lost ↔ a = conflict := by cases a <;> simp [content]

theorem content_eq_object {site : AllocationSite} {t : Descriptor} :
    a.content = .object site t ↔ ∃ u, a = pending u ∧ u.site = site ∧ u.type = t := by
  cases a <;> simp [content]

theorem content_eq_receiver {t : Descriptor} : a.content = .receiver t ↔ a = pendingThis t := by
  cases a <;> simp [content]

theorem content_unlabeled (a : RegisterType) : a.unlabeled.content = a.content := by
  cases a <;> rfl

theorem content_eq_of_beq (h : (a == b) = true) : a.content = b.content := by
  rw [← content_unlabeled a, beq_iff_unlabeled.1 h, content_unlabeled]

/-- Pending objects are told apart by their contents. -/
theorem beq_iff_content (h : b.isPending = true) : (a == b) = true ↔ a.content = b.content := by
  refine ⟨content_eq_of_beq, fun hc => ?_⟩
  cases b with
  | pending v =>
    obtain ⟨u, rfl, hsite, htype⟩ := content_eq_object.1 hc
    exact PendingObject.same_iff.2 ⟨hsite, htype⟩
  | pendingThis t =>
    obtain rfl := content_eq_receiver.1 hc
    exact beq_iff_unlabeled.2 rfl
  | _ => cases h

theorem isPending_iff : a.isPending = true ↔
    (∃ site t, a.content = .object site t) ∨ ∃ t, a.content = .receiver t := by
  cases a <;> simp [content, isPending]

theorem isPending_congr (h : a.content = b.content) : a.isPending = b.isPending := by
  rw [Bool.eq_iff_iff, isPending_iff, isPending_iff, h]

theorem ofResult_eq_some {d : Descriptor} : ofResult d = some a ↔ ofDescriptor d = .ok a := by
  unfold ofResult
  cases ofDescriptor d <;> simp [Except.toOption]

theorem isPending_of_plain (h : a.content = .plain) : a.isPending = false := by
  cases a <;> first | rfl | cases h

/-- Values have no labels. -/
theorem eq_of_beq_of_plain (h : (a == b) = true) (ha : a.content = .plain) : a = b := by
  have hunlabeled : ∀ t : RegisterType, t.content = .plain → t.unlabeled = t := by
    intro t ht
    cases t <;> first | rfl | cases ht
  have hb : b.content = .plain := (content_eq_of_beq h).symm.trans ha
  rw [← hunlabeled a ha, beq_iff_unlabeled.1 h, hunlabeled b hb]

theorem content_ofDescriptor {d : Descriptor} (h : ofDescriptor d = .ok a) : a.content = .plain := by
  unfold ofDescriptor at h
  split at h <;> cases h <;> rfl

theorem content_declared (d : Descriptor) : (declared d).content = .plain ∨ (declared d).content = .lost := by
  unfold declared
  cases h : ofDescriptor d with
  | error e => exact .inr rfl
  | ok t => exact .inl (content_ofDescriptor h)

end RegisterType

/-! ### The order -/

namespace Content
variable {o : ClassOracle} {a b c : Content}

/-- Nothing is below everything, and what is lost is above. -/
def Le (a b : Content) : Prop := a = b ∨ a = nothing ∨ b = lost

theorem Le.trans (h₁ : a.Le b) (h₂ : b.Le c) : a.Le c := by
  rcases h₁ with rfl | h₁ | rfl
  · exact h₂
  · exact .inr (.inl h₁)
  · rcases h₂ with rfl | h₂ | h₂
    · exact .inr (.inr rfl)
    · cases h₂
    · exact .inr (.inr h₂)

theorem Le.ne_nothing (h : a.Le b) (ha : a ≠ nothing) : b = a ∨ b = lost := by
  rcases h with rfl | h | h
  · exact .inl rfl
  · exact absurd h ha
  · exact .inr h

/-- A type that widens keeps its content, whatever the order of references is. -/
theorem le_of_widens {ρ : Descriptor → Descriptor → Prop} {a b : RegisterType} (h : a.Widens ρ b) :
    a.content.Le b.content := by
  cases h with
  | unknown => exact .inr (.inl rfl)
  | conflict => exact .inr (.inr rfl)
  | zero h => cases b <;> simp_all [Le, RegisterType.content, RegisterType.isSingleWord, RegisterType.isReferenceLike]
  | pending h =>
    rw [PendingObject.same_iff] at h
    exact .inl (by simp [RegisterType.content, h])
  | _ => exact .inl rfl

theorem bounds_true (o : ClassOracle) : o.Bounds fun _ _ => True :=
  ⟨fun _ => trivial, fun _ _ _ _ _ => trivial, fun _ _ _ _ => ⟨trivial, trivial⟩⟩

theorem joinOrder (o : ClassOracle) : TypeState.JoinOrder o fun a b => a.content.Le b.content where
  of_beq _ _ h := .inl (RegisterType.content_eq_of_beq h)
  trans _ _ _ := Le.trans
  left a b := le_of_widens (RegisterType.Widens.join (bounds_true o) a b).1
  right a b := le_of_widens (RegisterType.Widens.join (bounds_true o) a b).2

end Content

/-! ### Contents of registers -/

namespace TypeState
variable {o : ClassOracle} {s t : TypeState} {r : Reg} {a b : Content}

def content? (s : TypeState) (r : Reg) : Option Content := (s.type? r).map RegisterType.content

theorem content?_eq_some : s.content? r = some a ↔ ∃ t, s.type? r = some t ∧ t.content = a := Option.map_eq_some_iff

/-- What flows into a state keeps its contents, or they are lost. -/
theorem FlowsInto.contents (h : s.FlowsInto o t) : s.Below (fun a b => a.content.Le b.content) t :=
  .of_flowsInto (Content.joinOrder o) h

end TypeState
end Dalvik
