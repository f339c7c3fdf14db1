import Dalvik.Proofs.Origins
import Dalvik.Proofs.PseudoRegisters

/-!
# Numbers of allocation sites

The sites where a method allocates objects are numbered as they are found, and every pending object carries the number
of its site. The comparison of types does not look at it, so no join or replacement would notice a wrong one. There is
none: whatever states have come up in a run, their pending objects come from `new-instance` instructions of the method
and have the numbers that the final table gives to those (`TypeState.Numbered`). Numbers of different sites are
different, as long as the method has no more than 2³² instructions.
-/

namespace Dalvik

namespace AllocationSites
variable {s s' : AllocationSites} {pc pc' : Address}

theorem mem_discover : pc' ∈ (s.discover pc).pcs ↔ pc' ∈ s.pcs ∨ pc' = pc := by
  unfold discover
  split
  · next h => exact ⟨.inl, fun hpc => hpc.elim id fun heq => heq ▸ h⟩
  · simp

theorem nodup_discover (h : s.pcs.Nodup) : (s.discover pc).pcs.Nodup := by
  unfold discover
  split
  · exact h
  · next hpc =>
    refine List.nodup_append.2 ⟨h, List.nodup_singleton pc, ?_⟩
    rintro a ha b hb rfl
    exact hpc (List.mem_singleton.1 hb ▸ ha)

/-- A site that is found keeps its number. -/
theorem idOf_of_isPrefix (hpc : pc ∈ s.pcs) (h : s.pcs <+: s'.pcs) : s'.idOf pc = s.idOf pc := by
  refine idOf_of_discover ?_
  rwa [discover, if_pos hpc]

/-- The largest number is not needed twice. -/
theorem idOf_eq_idxOf (hsize : s.size ≤ maxId) (hpc : pc ∈ s.pcs) : s.idOf pc = s.pcs.idxOf pc := by
  have hlt : s.pcs.idxOf pc < s.size := List.idxOf_lt_length_iff.2 hpc
  rw [idOf]
  omega

end AllocationSites

namespace TypeState
variable {P Q : RegisterType → Prop} {o : ClassOracle} {s s' t : TypeState}

/-- The type is in a register or a pseudo-register, or a register in conflict remembers it. -/
def Mentions (s : TypeState) (t : RegisterType) : Prop :=
  t ∈ s.types ∨ s.exception = some t ∨ s.result = some t ∨
    ∃ slot ∈ s.slots, ∃ t₁ t₂, slot.origin = some (t₁, t₂) ∧ (t = t₁ ∨ t = t₂)

theorem mentions_of_conflictOrigin? {r : Reg} {t₁ t₂ : RegisterType} (h : s.conflictOrigin? r = some (t₁, t₂)) :
    s.Mentions t₁ ∧ s.Mentions t₂ := by
  obtain ⟨slot, hslot, horigin⟩ := Option.bind_eq_some_iff.1 h
  have hmem := Array.mem_of_getElem? hslot
  exact ⟨.inr (.inr (.inr ⟨slot, hmem, t₁, t₂, horigin, .inl rfl⟩)),
    .inr (.inr (.inr ⟨slot, hmem, t₁, t₂, horigin, .inr rfl⟩))⟩

/-- The property holds of all types that the state mentions. -/
structure Everywhere (P : RegisterType → Prop) (s : TypeState) : Prop extends All P s where
  origins : ∀ slot ∈ s.slots, ∀ t₁ t₂, slot.origin = some (t₁, t₂) → P t₁ ∧ P t₂

namespace Everywhere

theorem of_mentions (h : s.Everywhere P) {t : RegisterType} (ht : s.Mentions t) : P t := by
  rcases ht with ht | ht | ht | ⟨slot, hslot, t₁, t₂, horigin, rfl | rfl⟩
  · exact h.types t ht
  · exact h.exception t ht
  · exact h.result t ht
  · exact (h.origins slot hslot _ _ horigin).1
  · exact (h.origins slot hslot _ _ horigin).2

theorem of_slot (h : s.Everywhere P) {slot : Slot} (hslot : slot ∈ s.slots) : P slot.type :=
  h.types _ (List.mem_map_of_mem (Array.mem_toList_iff.2 hslot))

theorem imp (h : s.Everywhere P) (hPQ : ∀ t, P t → Q t) : s.Everywhere Q where
  types t ht := hPQ t (h.types t ht)
  exception t ht := hPQ t (h.exception t ht)
  result t ht := hPQ t (h.result t ht)
  origins slot hslot t₁ t₂ horigin := (h.origins slot hslot t₁ t₂ horigin).imp (hPQ t₁) (hPQ t₂)

/-- Where no origin is new, the registers and pseudo-registers are all there is to look at. -/
theorem inherit (h : s.Everywhere P) (hinherits : s.Inherits s') (hall : s'.All P) : s'.Everywhere P := by
  refine ⟨hall, fun slot hslot t₁ t₂ horigin => ?_⟩
  rcases hinherits slot hslot with hold | hnone
  · exact h.origins slot hold t₁ t₂ horigin
  · rw [hnone] at horigin
    cases horigin

/-- A join mentions what the two states mention, and joins of that. -/
theorem join {e : TypeState} (hs : s.Everywhere P) (ht : t.Everywhere P) (hP : ∀ a b, P a → P b → P (a.join o b))
    (h : s.join o t = .ok e) : e.Everywhere P := by
  have hpseudo : ∀ {x y : Option RegisterType}, (∀ a ∈ x, P a) → (∀ b ∈ y, P b) → ∀ c ∈ joinPseudo o x y, P c := by
    intro x y hx hy c hc
    obtain ⟨a, b, rfl, rfl, rfl⟩ := joinPseudo_eq_some hc
    exact hP a b (hx a rfl) (hy b rfl)
  obtain ⟨-, -, -, -, hexception, hresult⟩ := join_eq_ok h
  refine ⟨⟨fun a ha => ?_, ?_, ?_⟩, fun slot hslot t₁ t₂ horigin => ?_⟩
  · obtain ⟨slot, hslot, rfl⟩ := List.mem_map.1 ha
    obtain ⟨x, hx, y, hy, rfl⟩ := mem_slots_join h (Array.mem_toList_iff.1 hslot)
    exact hP _ _ (hs.of_slot hx) (ht.of_slot hy)
  · rw [hexception]
    exact hpseudo hs.exception ht.exception
  · rw [hresult]
    exact hpseudo hs.result ht.result
  · obtain ⟨x, hx, y, hy, rfl⟩ := mem_slots_join h hslot
    rcases Slot.origin_join horigin with hold | hold | ⟨hnew, -⟩
    · exact hs.origins x hx t₁ t₂ hold
    · exact ht.origins y hy t₁ t₂ hold
    · cases hnew
      exact ⟨hs.of_slot hx, ht.of_slot hy⟩

end Everywhere
end TypeState

namespace RegisterType
variable {o : ClassOracle} {a b : RegisterType} {u : PendingObject}

theorem isPending_declared (d : Descriptor) : (declared d).isPending = false := by
  rcases content_declared d with h | h
  · exact isPending_of_plain h
  · rw [content_eq_lost.1 h]
    rfl

/-- A join is a pending object only when one of the types is. -/
theorem eq_pending_of_join (h : a.join o b = pending u) : a = pending u ∨ b = pending u := by
  obtain ⟨ha, hb⟩ := Widens.join (Content.bounds_true o) a b
  rw [h] at ha hb
  -- nothing widens to a pending object but the unknown and the same object, with whatever number
  cases ha with
  | unknown => exact .inr ((unknown_join b).symm.trans h)
  | zero hvalue => simp [isSingleWord, isReferenceLike] at hvalue
  | pending =>
    cases hb with
    | unknown => exact .inl ((join_unknown _).symm.trans h)
    | zero hvalue => simp [isSingleWord, isReferenceLike] at hvalue
    | pending =>
      simp only [join] at h
      split at h
      · exact .inl h
      · cases h

end RegisterType

namespace Instr
variable {o : ClassOracle} {s : TypeState} {i : Instr} {e : Effect} {allocated : Descriptor → RegisterType}
  {P : RegisterType → Prop}

open TypeState

/-- Whether the instruction allocates objects, when it is executed. -/
def allocates : Instr → Bool
  | newInstance _ type => type.isClass
  | _ => false

theorem newInstance_eq_ok {dst : Reg} {type : Descriptor} (h : (newInstance dst type).effect o s = .ok e) :
    type.isClass = true ∧ e = .allocate dst type := by
  simp only [effect, bind_eq_ok, pure_eq_ok, require_eq_ok] at h
  obtain ⟨_, hclass, rfl⟩ := h
  exact ⟨hclass, rfl⟩

theorem plain_of_leaves (he : i.effect o s = .ok e) {t : RegisterType} (ht : e.leaves .result = some t) :
    t.content = .plain := by
  rw [Outcome.leaves_of_effect (effect_eq_ok he).2] at ht
  cases i with
  | filledNewArray args type =>
    cases ht
    rfl
  | invoke kind m args =>
    rw [leaves_invoke] at ht
    exact RegisterType.content_ofDescriptor (RegisterType.ofResult_eq_some.1 ht)
  | _ => cases ht

/-- Recovery neither allocates nor leaves a pending object anywhere. -/
theorem recovery_all (hP : ∀ t : RegisterType, t.isPending = false → P t) : i.recovery.All allocated P := by
  have hdeclared : ∀ d, P (.declared d) := fun d => hP _ (RegisterType.isPending_declared d)
  cases i with
  | checkCast r t | newArray r size t => exact hdeclared t
  | filledNewArray args t =>
    rintro _ ⟨⟩
    exact hdeclared t
  | aget access dst array index => cases access <;> exact hP _ rfl
  | iget access dst object field | sget access dst field => exact .writeTyped (hdeclared _) dst
  | invoke kind m args =>
    intro t ht
    have hplain := RegisterType.content_ofDescriptor (RegisterType.ofResult_eq_some.1 ht)
    exact hP t (RegisterType.isPending_of_plain hplain)
  | unary op kind dst src | binary op kind dst src right => exact .writeTyped (hP _ rfl) dst
  | convert dst src source target => exact .writeTyped (hdeclared _) dst
  | _ => first | trivial | exact hP _ rfl

/-- A pending object that an effect puts in a state is in the state before, or it is a new one. -/
theorem effect_all (he : i.effect o s = .ok e) (hs : s.All P) (hP : ∀ t : RegisterType, t.isPending = false → P t)
    (hallocated : ∀ dst type, e = .allocate dst type → i = newInstance dst type → P (allocated type)) :
    e.All allocated P := by
  have hplain : ∀ t : RegisterType, t.content = .plain → P t := fun t ht => hP t (RegisterType.isPending_of_plain ht)
  have haction := (checked_of_effect he).action
  generalize ha : i.action = a at haction
  cases haction with
  | allocate dst type => exact hallocated dst type rfl (eq_newInstance_of_action ha)
  | copy ht => exact hs.of_type? ht
  | construct => exact ⟨hP _ rfl, fun t ht => hplain t (plain_of_leaves he ht)⟩
  | skip => trivial
  | yield => exact fun t ht => hplain t (plain_of_leaves he ht)
  | write ht => exact ht.elim (hplain _) (hs.exception _)
  | writePair ht => exact hplain _ ht

end Instr

namespace Context
variable {ctx : Context} {sites : AllocationSites} {s : TypeState} {i : LabeledInstr} {P : RegisterType → Prop}

/-- Sites are found by instructions that allocate. -/
theorem sites_transfer (ctx : Context) (sites : AllocationSites) (s : TypeState) (i : LabeledInstr) :
    (ctx.transfer sites s i).sites = sites ∨
      i.instr.allocates = true ∧ (ctx.transfer sites s i).sites = sites.discover i.address := by
  unfold transfer
  split
  · next e he =>
    cases e with
    | allocate dst type =>
      have haction := (Instr.checked_of_effect he).action
      generalize ha : i.instr.action = a at haction
      cases haction
      have hi := Instr.eq_newInstance_of_action ha
      rw [hi] at he ⊢
      exact .inr ⟨(Instr.newInstance_eq_ok he).1, rfl⟩
    | _ => exact .inl rfl
  · exact .inl rfl
  · have hrecovery : i.instr.recovery.All (fun type => .pendingThis type) (·.isPending = false) :=
      Instr.recovery_all fun _ ht => ht
    generalize i.instr.recovery = e at hrecovery
    cases e with
    | allocate dst type => cases hrecovery
    | _ => exact .inl rfl

theorem everywhere_transfer (hs : s.Everywhere P) (hP : ∀ t : RegisterType, t.isPending = false → P t)
    (hallocated : ∀ dst type, i.instr = .newInstance dst type →
      (ctx.transfer sites s i).sites = sites.discover i.address → P (ctx.allocated sites i.address type)) :
    (ctx.transfer sites s i).state.Everywhere P := by
  refine hs.inherit (inherits_transfer s i) ?_
  unfold transfer at hallocated ⊢
  split
  · next e he =>
    rw [he] at hallocated
    refine perform_all hs.toAll.clearPseudo (hP _ rfl) (Instr.effect_all he hs.toAll hP ?_)
    rintro dst type rfl hi
    exact hallocated dst type hi rfl
  · exact hs.toAll.clearPseudo
  · exact perform_all hs.toAll.clearPseudo (hP _ rfl) (Instr.recovery_all hP)

end Context

/-! ### Numbered states -/

/-- The object comes from an instruction of the code, and has the number of its site. -/
structure PendingObject.Numbered (ctx : Context) (c : Code) (sites : AllocationSites) (u : PendingObject) : Prop where
  method : u.site.method = ctx.method
  found : u.site.pc ∈ sites.pcs
  id : u.id = sites.idOf u.site.pc
  allocated : ∃ i ∈ c.instrs, i.address = u.site.pc ∧ ∃ dst, i.instr = .newInstance dst u.type

/-- All pending objects of the state have the numbers of their sites. -/
def TypeState.Numbered (ctx : Context) (c : Code) (sites : AllocationSites) (s : TypeState) : Prop :=
  s.Everywhere fun t => ∀ u, t = .pending u → u.Numbered ctx c sites

section
variable {ctx : Context} {c : Code} {sites sites' : AllocationSites} {s : TypeState}

theorem PendingObject.Numbered.mono {u : PendingObject} (h : u.Numbered ctx c sites)
    (hsites : sites.pcs <+: sites'.pcs) : u.Numbered ctx c sites' where
  method := h.method
  found := hsites.subset h.found
  id := h.id.trans (AllocationSites.idOf_of_isPrefix h.found hsites).symm
  allocated := h.allocated

/-- There is one object for a site: its type is named by the instruction. -/
theorem PendingObject.Numbered.same_of_pc {u u' : PendingObject} (h : u.Numbered ctx c sites)
    (h' : u'.Numbered ctx c sites) (hpc : u.site.pc = u'.site.pc) : u.same u' = true := by
  obtain ⟨i, hi, haddr, dst, hinstr⟩ := h.allocated
  obtain ⟨j, hj, haddr', dst', hinstr'⟩ := h'.allocated
  obtain rfl := Code.eq_of_address hi hj (haddr.trans (hpc.trans haddr'.symm))
  have htype : u.type = u'.type := (Instr.newInstance.inj (hinstr.symm.trans hinstr')).2
  have hsite : u.site = u'.site := by
    calc u.site = ⟨u.site.method, u.site.pc⟩ := rfl
      _ = ⟨u'.site.method, u'.site.pc⟩ := by rw [h.method, h'.method, hpc]
  exact same_iff.2 ⟨hsite, htype⟩

theorem PendingObject.numbered_of_isPending {t : RegisterType} (ht : t.isPending = false) :
    ∀ u, t = .pending u → u.Numbered ctx c sites := by
  rintro u rfl
  cases ht

theorem TypeState.Numbered.mono (h : s.Numbered ctx c sites) (hsites : sites.pcs <+: sites'.pcs) :
    s.Numbered ctx c sites' :=
  h.imp fun _ ht u hu => (ht u hu).mono hsites

/-- Initially there is no allocated object: the receiver of a constructor is pending, but comes from no site. -/
theorem TypeState.numbered_initial {m : Method} (h : initial m c = .ok s) : s.Numbered ctx c sites := by
  have hdeclared : ∀ d u, RegisterType.declared d = .pending u → u.Numbered ctx c sites :=
    fun d => PendingObject.numbered_of_isPending (RegisterType.isPending_declared d)
  refine ⟨All.initial h ?_ ?_ ?_ fun d _ => hdeclared d, fun slot hslot t₁ t₂ horigin => ?_⟩
  · exact PendingObject.numbered_of_isPending rfl
  · rintro _ ⟨⟩
  · exact PendingObject.numbered_of_isPending rfl
  · rw [origin_initial h slot hslot] at horigin
    cases horigin

end

namespace Context
variable {ctx : Context} {c : Code}

open PendingObject

theorem keeps_numbered (ctx : Context) (c : Code) : ctx.Keeps c fun sites s => s.Numbered ctx c sites where
  more hs hsites := hs.mono hsites
  transfer {sites s i} hi hs _ := by
    have hsites : sites.pcs <+: (ctx.transfer sites s i).sites.pcs := prefix_transfer i
    have hmore := hs.mono hsites
    refine everywhere_transfer hmore (fun _ => numbered_of_isPending) fun dst type hinstr hfound => ?_
    rintro u ⟨⟩
    rw [hfound]
    refine ⟨rfl, AllocationSites.mem_discover.2 (.inr rfl), ?_, i, hi, rfl, dst, hinstr⟩
    exact (AllocationSites.idOf_of_discover (List.prefix_refl _)).symm
  follow {sites s b} hs _ := by
    refine hs.inherit (s.inherits_follow b) (hs.toAll.follow (fun d _ => ?_) (numbered_of_isPending rfl))
    exact numbered_of_isPending (RegisterType.isPending_declared d)
  join hs ht hjoin := by
    refine hs.join ht (fun a b ha hb u hu => ?_) hjoin
    rcases RegisterType.eq_pending_of_join hu with ha' | hb'
    · exact ha u ha'
    · exact hb u hb'

/-- A new object is where the instruction has put it. -/
theorem Performs.allocated {st : Step} (h : ctx.Performs st) (hst : st.instr.instr.allocates = true) :
    ∃ u, st.after.Mentions (.pending u) ∧ u.site.pc = st.instr.address := by
  obtain ⟨sites, hfail, hstate, -⟩ := h
  generalize hi : st.instr.instr = i at hst
  cases i with
  | newInstance dst type =>
    have heffect : st.instr.instr.effect ctx.oracle st.before = .ok (.allocate dst type) := by
      have hclass : type.isClass = true := hst
      simp only [hi, Instr.effect, hclass]
      rfl
    rw [transfer, heffect] at hfail hstate
    have htype := (TypeState.write_eq_ok hfail).2 dst
    rw [if_pos rfl, TypeState.type?_eq_types] at htype
    rw [← hstate]
    exact ⟨_, .inl (List.mem_of_getElem? htype), rfl⟩
  | _ => cases hst

end Context

/-! ### Sites of a run -/

theorem Context.sites_of_pass {ctx : Context} {sites : AllocationSites} {notes : Array Note} {s : TypeState}
    {is : List LabeledInstr} {r : Pass} (h : ctx.pass sites notes s is = .ok r) (hnodup : sites.pcs.Nodup) :
    r.sites.pcs.Nodup ∧ ∀ pc ∈ r.sites.pcs, pc ∈ sites.pcs ∨ ∃ i ∈ is, i.address = pc ∧ i.instr.allocates = true := by
  induction is generalizing sites notes s r with
  | nil =>
    cases h
    exact ⟨hnodup, fun _ hpc => .inl hpc⟩
  | cons i rest ih =>
    simp only [pass] at h
    split at h
    · cases h
    · simp only [bind_eq_ok, pure_eq_ok] at h
      obtain ⟨p, hp, rfl⟩ := h
      have hstep : (ctx.transfer sites s i).sites.pcs.Nodup ∧ ∀ pc ∈ (ctx.transfer sites s i).sites.pcs,
          pc ∈ sites.pcs ∨ pc = i.address ∧ i.instr.allocates = true := by
        rcases ctx.sites_transfer sites s i with hsame | ⟨hi, hfound⟩
        · rw [hsame]
          exact ⟨hnodup, fun _ hpc => .inl hpc⟩
        · rw [hfound]
          refine ⟨AllocationSites.nodup_discover hnodup, fun pc hpc => ?_⟩
          exact (AllocationSites.mem_discover.1 hpc).imp id fun heq => ⟨heq, hi⟩
      obtain ⟨hnodup', hrest⟩ := ih hp hstep.1
      refine ⟨hnodup', fun pc hpc => ?_⟩
      rcases hrest pc hpc with hpc | ⟨j, hj, hfound⟩
      · refine (hstep.2 pc hpc).imp id ?_
        rintro ⟨rfl, hi⟩
        exact ⟨i, List.mem_cons_self, rfl, hi⟩
      · exact .inr ⟨j, List.mem_cons_of_mem _ hj, hfound⟩

namespace Progress
variable {ctx : Context} {g : FlowGraph} {p p' : Progress} {n k : Nat} {node node' : Node}

/-- The last pass over the block is recorded. -/
def Recorded (g : FlowGraph) (p : Progress) (n : Nat) (node : Node) : Prop :=
  g.nodes[n]? = some node ∧ ∃ b, p.blocks[n]? = some b ∧ b.steps.map Step.instr = node.block.instrs

theorem Recorded.passed {b : BlockState} {r : Pass} (h : p.Recorded g k node') (hnode : g.nodes[n]? = some node)
    (hinstrs : r.steps.map Step.instr = node.block.instrs) : (p.passed n b r).Recorded g k node' := by
  obtain ⟨hnode', b', hb', hinstrs'⟩ := h
  refine ⟨hnode', ?_⟩
  by_cases hk : n = k
  · subst hk
    cases hnode.symm.trans hnode'
    have hn := (Array.getElem?_eq_some_iff.1 hb').1
    exact ⟨b.passed r.steps, by simp [Progress.passed, hn], hinstrs⟩
  · exact ⟨b', by simpa [Progress.passed, Array.getElem?_setIfInBounds_ne hk] using hb', hinstrs'⟩

theorem Recorded.propagate {entry exit : TypeState} {e : Edge} (h : p.Recorded g k node)
    (hp : p.propagate ctx entry exit e = .ok p') : p'.Recorded g k node := by
  obtain ⟨hnode, b, hb, hinstrs⟩ := h
  obtain ⟨b', hb', hgrow⟩ := (Grows.of_propagate hp).block k b hb
  exact ⟨hnode, b', hb', by rw [hgrow.steps]; exact hinstrs⟩

/-- The sites that are found are different, and each is that of an instruction in a block that was passed over. -/
structure Sourced (g : FlowGraph) (p : Progress) : Prop where
  nodup : p.sites.pcs.Nodup
  recorded : ∀ pc ∈ p.sites.pcs, ∃ n node, p.Recorded g n node ∧
    ∃ i ∈ node.block.instrs, i.address = pc ∧ i.instr.allocates = true

theorem Sourced.propagate {entry exit : TypeState} {e : Edge} (hp : p.Sourced g)
    (h : p.propagate ctx entry exit e = .ok p') : p'.Sourced g := by
  obtain ⟨hnodup, hrecorded⟩ := hp
  rw [← sites_propagate h] at hnodup hrecorded
  refine ⟨hnodup, fun pc hpc => ?_⟩
  obtain ⟨k, node, hrec, hi⟩ := hrecorded pc hpc
  exact ⟨k, node, hrec.propagate h, hi⟩

theorem Sourced.visit (hp : p.Sourced g) (h : p.visit ctx g n = .ok p') : p'.Sourced g := by
  obtain ⟨rfl, -⟩ | ⟨node, b, e, r, hnode, hb, he, hpass, h⟩ := visit_cases h
  · exact hp
  obtain ⟨hnodup, hfound⟩ := Context.sites_of_pass hpass hp.nodup
  have hinstrs := (Context.chain_of_pass hpass).2
  have hn := (Array.getElem?_eq_some_iff.1 hb).1
  have hblock : (p.passed n b r).Recorded g n node :=
    ⟨hnode, b.passed r.steps, by simp [Progress.passed, hn], hinstrs⟩
  -- a pass over the same block again records the same instructions, so no site loses its source
  have hpassed : (p.passed n b r).Sourced g := by
    refine ⟨hnodup, fun pc hpc => ?_⟩
    rcases hfound pc hpc with hpc | hi
    · obtain ⟨k, node', hrec, hi⟩ := hp.recorded pc hpc
      exact ⟨k, node', hrec.passed hnode hinstrs, hi⟩
    · exact ⟨n, node, hblock, hi⟩
  exact foldlM_preserves (fun _ _ _ _ hp₁ hp₂ => hp₁.propagate hp₂) hpassed h

end Progress

namespace Dataflow

/-- The steps over instructions that allocate. -/
def allocations (d : Dataflow) : List Step := d.steps.filter (·.instr.instr.allocates)

/-- The state is recorded before or after an instruction. -/
def HasState (d : Dataflow) (s : TypeState) : Prop := ∃ st ∈ d.steps, s = st.before ∨ s = st.after

end Dataflow

theorem Dataflow.Solution.nodup_allocations {ctx : Context} {c : Code} {g : FlowGraph} {s₀ : TypeState} {d : Dataflow}
    (h : Solution ctx c g s₀ d) : (d.allocations.map (·.instr.address)).Nodup := by
  have hordered := c.linked.pairwise.sublist h.recorded
  rw [List.pairwise_map] at hordered
  rw [List.Nodup, List.pairwise_map]
  exact (hordered.sublist List.filter_sublist).imp Nat.ne_of_lt

namespace Verification
variable {o : ClassOracle} {limit : Nat} {m : Method} {v : Verification} {c : Code}

theorem numbered_of_within (hv : within o limit m = .ok v) (hc : m.code = some c) :
    (∀ st ∈ v.flow.steps,
      st.Holds (fun sites s => s.Numbered ⟨o, m.descriptor⟩ c sites) v.flow.sites v.flow.notes) ∧
      AllNoted (·.Numbered ⟨o, m.descriptor⟩ c v.flow.sites) v.flow.notes :=
  holds_of_within (Context.keeps_numbered _ c) hv hc fun _ hs => TypeState.numbered_initial hs

/-- After an instruction that allocates there is an object with the number of its site. -/
theorem exists_numbered (hv : within o limit m = .ok v) (hc : m.code = some c) {st : Step}
    (hst : st ∈ v.flow.allocations) :
    .after st.after ∈ v.flow.notes ∧ ∃ u, st.after.Mentions (.pending u) ∧ u.site.pc = st.instr.address ∧
      u.Numbered ⟨o, m.descriptor⟩ c v.flow.sites := by
  obtain ⟨hst, hallocates⟩ := List.mem_filter.1 hst
  obtain ⟨c', g, s₀, hc', -, -, hsol⟩ := solution hv
  obtain ⟨u, hu, hpc⟩ := (hsol.performs st hst).allocated hallocates
  obtain ⟨-, hafter, hnote⟩ := (numbered_of_within hv hc).1 st hst
  exact ⟨hnote, u, hu, hpc, hafter.of_mentions hu u rfl⟩

/-- The sites that are found over all passes are those of the instructions that are recorded in the end. -/
theorem sites_perm (hv : within o limit m = .ok v) :
    v.flow.sites.pcs.Perm (v.flow.allocations.map (·.instr.address)) := by
  obtain ⟨c, hc, hflow⟩ := within_eq_ok hv
  obtain ⟨g, entry, s₀, p, hg, hentry, hs₀, hp, hd⟩ := Dataflow.compute_eq_ok hflow
  obtain ⟨hf, hrec⟩ := Dataflow.finished_of_solve hg hentry hp hd
  have hsol := Dataflow.Solution.of_finished hg hentry hf hrec
  have hstart : (Progress.start g entry s₀).Sourced g := ⟨.nil, fun _ hpc => absurd hpc List.not_mem_nil⟩
  have hsourced := Progress.solve_preserves (fun _ _ _ hp _ hvisit => hp.visit hvisit) hstart hp
  rw [List.perm_ext_iff_of_nodup (Dataflow.sites_ofProgress hd ▸ hsourced.nodup) hsol.nodup_allocations]
  intro pc
  rw [List.mem_map]
  constructor
  · intro hpc
    rw [Dataflow.sites_ofProgress hd] at hpc
    obtain ⟨n, node, ⟨hnode, b, hb, hinstrs⟩, i, hi, rfl, hallocates⟩ := hsourced.recorded pc hpc
    rw [← hinstrs] at hi
    obtain ⟨st, hst, rfl⟩ := List.mem_map.1 hi
    exact ⟨st, List.mem_filter.2 ⟨hrec.mem_steps.2 ⟨n, node, b, hnode, hb, hst⟩, hallocates⟩, rfl⟩
  · rintro ⟨st, hst, rfl⟩
    obtain ⟨-, u, -, hpc, hnumbered⟩ := exists_numbered hv hc hst
    exact hpc ▸ hnumbered.found

theorem nodup_sites (hv : within o limit m = .ok v) : v.flow.sites.pcs.Nodup := by
  obtain ⟨_, _, _, -, -, -, hsol⟩ := solution hv
  exact (sites_perm hv).nodup_iff.2 hsol.nodup_allocations

/-- Numbers tell the sites apart, as there are no more of them than instructions. -/
theorem idOf_eq_idxOf (hv : within o limit m = .ok v) (hc : m.code = some c) (hsize : c.instrs.length < 2 ^ 32)
    {pc : Address} (hpc : pc ∈ v.flow.sites.pcs) : v.flow.sites.idOf pc = v.flow.sites.pcs.idxOf pc := by
  refine AllocationSites.idOf_eq_idxOf ?_ hpc
  obtain ⟨c', g, s₀, hc', -, -, hsol⟩ := solution hv
  cases hc.symm.trans hc'
  have hsteps := hsol.recorded.length_le
  have hallocations : v.flow.allocations.length ≤ v.flow.steps.length := List.length_filter_le _ _
  have hsites := (sites_perm hv).length_eq
  rw [List.length_map] at hsites hsteps
  rw [AllocationSites.size, AllocationSites.maxId]
  omega

/-- Pending objects are the same exactly when they have the same number, in whatever states they are recorded. The
numbers that are ever given count the reached instructions that allocate. -/
theorem site_numbers_identify (hv : within o limit m = .ok v) (hc : m.code = some c)
    (hsize : c.instrs.length < 2 ^ 32) :
    (∀ s s', v.flow.HasState s → v.flow.HasState s' → ∀ u u', s.Mentions (.pending u) → s'.Mentions (.pending u') →
      (u.id = u'.id ↔ u.same u' = true)) ∧
    ∀ k, (∃ note ∈ v.flow.notes, ∃ s ∈ note.state?, ∃ u, s.Mentions (.pending u) ∧ u.id = k) ↔
      k < v.flow.allocations.length := by
  obtain ⟨hsteps, hnotes⟩ := numbered_of_within hv hc
  have hstate : ∀ s, v.flow.HasState s → s.Numbered ⟨o, m.descriptor⟩ c v.flow.sites := by
    rintro s ⟨st, hst, rfl | rfl⟩
    · exact (hsteps st hst).1
    · exact (hsteps st hst).2.1
  have hid : ∀ {u : PendingObject}, u.Numbered ⟨o, m.descriptor⟩ c v.flow.sites →
      u.id = v.flow.sites.pcs.idxOf u.site.pc :=
    fun hu => hu.id.trans (idOf_eq_idxOf hv hc hsize hu.found)
  have hperm := sites_perm hv
  have hlength : v.flow.sites.pcs.length = v.flow.allocations.length := by
    rw [hperm.length_eq, List.length_map]
  -- a number is the index of its site in the final table, which has no site twice
  refine ⟨fun s s' hs hs' u u' hu hu' => ?_, fun k => ⟨?_, fun hk => ?_⟩⟩
  · have hn := (hstate s hs).of_mentions hu u rfl
    have hn' := (hstate s' hs').of_mentions hu' u' rfl
    refine ⟨fun heq => hn.same_of_pc hn' ?_, fun hsame => ?_⟩
    · rw [hid hn, hid hn'] at heq
      exact (List.idxOf_inj hn.found).1 heq
    · rw [hid hn, hid hn', (PendingObject.same_iff.1 hsame).1]
  · rintro ⟨note, hnote, s, hs, u, hu, rfl⟩
    have hn := (hnotes note hnote s hs).of_mentions hu u rfl
    rw [hid hn, ← hlength]
    exact List.idxOf_lt_length_iff.2 hn.found
  · rw [← hlength] at hk
    obtain ⟨st, hst, hpc⟩ := List.mem_map.1 (hperm.subset (List.getElem_mem hk))
    obtain ⟨hnote, u, hu, hsite, hn⟩ := exists_numbered hv hc hst
    refine ⟨_, hnote, st.after, rfl, u, hu, ?_⟩
    rw [hid hn, hsite, hpc]
    exact (nodup_sites hv).idxOf_getElem k hk

end Verification

/-! A register holds one new object or another, after a branch. -/

def adoptingCode : Code :=
  .ofInstrs 1 1 (.newInstance 0 (.object "Dog")) [.ifTestZero .eq 1 6, .newInstance 0 (.object "Cat"), .returnVoid]

def adoptingMethod : Method := ⟨⟨.object "Zoo", "adopt", [.prim .int], .void⟩, Flags.static, some adoptingCode⟩

def adopted (id : Nat) (name : String) (pc : Address) : PendingObject :=
  ⟨id, .object name, false, ⟨adoptingMethod.descriptor, pc⟩⟩

theorem site_numbers_identify_adopting :
    ∃ v, Verification.within Hierarchy.empty.oracle 9 adoptingMethod = .ok v ∧
      adoptingMethod.code = some adoptingCode ∧ adoptingCode.instrs.length < 2 ^ 32 ∧
      (∃ s, v.flow.HasState s ∧ s.Mentions (.pending (adopted 0 "Dog" 0)) ∧ s.Mentions (.pending (adopted 1 "Cat" 4)) ∧
        (adopted 0 "Dog" 0).same (adopted 1 "Cat" 4) = false) ∧
      ∀ k, (∃ note ∈ v.flow.notes, ∃ s ∈ note.state?, ∃ u, s.Mentions (.pending u) ∧ u.id = k) ↔ k < 2 := by
  have hrun : (Verification.within Hierarchy.empty.oracle 9 adoptingMethod).toOption.map
      (fun v => (v.flow.allocations.length, v.flow.steps.map fun st => st.before.conflictOrigin? 0)) =
      some (2, [none, none, none, some (.pending (adopted 0 "Dog" 0), .pending (adopted 1 "Cat" 4))]) := by cbv
  obtain ⟨v, hv, hresult⟩ := exists_ok_of_toOption hrun
  obtain ⟨hlength, horigins⟩ := Prod.mk.inj hresult
  have hsize : adoptingCode.instrs.length < 2 ^ 32 := by decide
  obtain ⟨hidentify, hnumbers⟩ := Verification.site_numbers_identify hv rfl hsize
  have hlast : some (RegisterType.pending (adopted 0 "Dog" 0), RegisterType.pending (adopted 1 "Cat" 4)) ∈
      v.flow.steps.map fun st => st.before.conflictOrigin? 0 := by
    rw [horigins]
    simp
  obtain ⟨st, hst, horigin⟩ := List.mem_map.1 hlast
  obtain ⟨hdog, hcat⟩ := TypeState.mentions_of_conflictOrigin? horigin
  have hstate : v.flow.HasState st.before := ⟨st, hst, .inl rfl⟩
  refine ⟨v, hv, rfl, hsize, ⟨st.before, hstate, hdog, hcat, ?_⟩, hlength ▸ hnumbers⟩
  refine Bool.eq_false_iff.2 fun hsame => ?_
  have hid := (hidentify _ _ hstate hstate _ _ hdog hcat).2 hsame
  exact absurd hid (by decide)

end Dalvik
