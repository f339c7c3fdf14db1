import Dalvik.Proofs.Replay

/-!
# The states of a run

All states that come up while a method is verified are made from its initial state, by transfers over its instructions,
along branches and by joins, while more and more allocation sites are found. A property that these keep
(`Context.Keeps`) holds of every state that is recorded, and of every state that was ever reported, whichever passes
were needed (`Verification.holds_of_within`).
-/

namespace Dalvik

/-- The state that is reported. -/
def Note.state? : Note → Option TypeState
  | entryState s | exitState s | before s | after s => some s
  | _ => none

/-- The property of a state, when so many sites are found, is kept by all that makes states. -/
structure Context.Keeps (ctx : Context) (c : Code) (P : AllocationSites → TypeState → Prop) : Prop where
  more : ∀ {sites sites' s}, P sites s → sites.pcs <+: sites'.pcs → P sites' s
  transfer : ∀ {sites s i}, i ∈ c.instrs → P sites s → (ctx.transfer sites s i).failure = none →
    P (ctx.transfer sites s i).sites (ctx.transfer sites s i).state
  follow : ∀ {sites s b}, P sites s → (s.follow b).failure = none → P sites (s.follow b).state
  join : ∀ {sites s t u}, P sites s → P sites t → s.join ctx.oracle t = .ok u → P sites u

theorem Note.mem_append {note : Note} {notes : Array Note} {rest : List Note} :
    note ∈ notes ++ rest ↔ note ∈ notes ∨ note ∈ rest := by
  rw [← Array.mem_toList_iff, Array.toList_appendList, List.mem_append, Array.mem_toList_iff]

/-- The property holds of all states that were reported. -/
def AllNoted (P : TypeState → Prop) (notes : Array Note) : Prop := ∀ note ∈ notes, ∀ s ∈ note.state?, P s

namespace AllNoted
variable {P Q : TypeState → Prop} {notes : Array Note}

theorem imp (h : AllNoted P notes) (hPQ : ∀ s, P s → Q s) : AllNoted Q notes :=
  fun note hnote s hs => hPQ s (h note hnote s hs)

theorem push (h : AllNoted P notes) {note : Note} (hnote : ∀ s ∈ note.state?, P s) : AllNoted P (notes.push note) := by
  intro note' hmem
  rcases Array.mem_push.1 hmem with hmem | rfl
  · exact h note' hmem
  · exact hnote

/-- Other reports make no difference. -/
theorem append (h : AllNoted P notes) {rest : List Note} (hrest : ∀ note ∈ rest, note.state? = none) :
    AllNoted P (notes ++ rest) := by
  intro note hmem
  rcases Note.mem_append.1 hmem with hmem | hmem
  · exact h note hmem
  · rw [hrest note hmem]
    exact fun s hs => absurd hs (Option.not_mem_none s)

/-- What a transfer reports. -/
theorem step (h : AllNoted P notes) {s s' : TypeState} (hbefore : P s) (hafter : P s') {rest : List Note}
    (hrest : ∀ note ∈ rest, note.state? = none) (i : LabeledInstr) :
    AllNoted P (((notes.push (.instr i)).push (.before s) ++ rest).push (.after s')) := by
  have hinstr : AllNoted P (notes.push (.instr i)) := h.push fun _ hs => absurd hs (Option.not_mem_none _)
  have hopened : AllNoted P ((notes.push (.instr i)).push (.before s)) := hinstr.push (by rintro _ ⟨⟩; exact hbefore)
  exact (hopened.append hrest).push (by rintro _ ⟨⟩; exact hafter)

end AllNoted

/-- The property holds of what the step records, and its outcome is reported. -/
def Step.Holds (P : AllocationSites → TypeState → Prop) (sites : AllocationSites) (notes : Array Note) (st : Step) :
    Prop :=
  P sites st.before ∧ P sites st.after ∧ .after st.after ∈ notes

theorem Step.Holds.mono {ctx : Context} {c : Code} {P : AllocationSites → TypeState → Prop}
    {sites sites' : AllocationSites} {notes notes' : Array Note} {st : Step} (hP : ctx.Keeps c P)
    (h : st.Holds P sites notes) (hsites : sites.pcs <+: sites'.pcs) (hnotes : ∀ note ∈ notes, note ∈ notes') :
    st.Holds P sites' notes' :=
  ⟨hP.more h.1 hsites, hP.more h.2.1 hsites, hnotes _ h.2.2⟩

/-! ### Passes -/

namespace Context
variable {ctx : Context} {c : Code} {P : AllocationSites → TypeState → Prop} {sites : AllocationSites} {s : TypeState}
  {is : List LabeledInstr} {notes : Array Note} {r : Pass}

theorem state?_of_mem_perform {pc : Address} {e : Effect} {note : Note}
    (h : note ∈ (ctx.perform sites pc s e).notes) : note.state? = none := by
  cases e with
  | allocate dst type =>
    simp only [perform] at h
    split at h
    · cases h
    · rw [List.mem_singleton.1 h]
      rfl
  | construct object type result =>
    rw [List.mem_singleton.1 h]
    rfl
  | _ => cases h

theorem state?_of_mem_transfer {i : LabeledInstr} {note : Note} (h : note ∈ (ctx.transfer sites s i).notes) :
    note.state? = none := by
  unfold transfer at h
  split at h
  · exact state?_of_mem_perform h
  · cases h
  · rw [List.mem_singleton.1 h]
    rfl

/-- What is reported stays reported. -/
theorem mem_notes_of_pass (h : ctx.pass sites notes s is = .ok r) : ∀ note ∈ notes, note ∈ r.notes := by
  induction is generalizing sites notes s r with
  | nil =>
    cases h
    exact fun _ hnote => hnote
  | cons i rest ih =>
    simp only [pass] at h
    split at h
    · cases h
    · simp only [bind_eq_ok, pure_eq_ok] at h
      obtain ⟨p, hp, rfl⟩ := h
      exact fun note hnote => ih hp note (by simp [Note.mem_append, hnote])

theorem Keeps.pass (hP : ctx.Keeps c P) (his : ∀ i ∈ is, i ∈ c.instrs) (hs : P sites s)
    (hnotes : AllNoted (P sites) notes) (h : ctx.pass sites notes s is = .ok r) :
    P r.sites r.exit ∧ AllNoted (P r.sites) r.notes ∧ ∀ st ∈ r.steps, st.Holds P r.sites r.notes := by
  induction is generalizing sites notes s r with
  | nil =>
    cases h
    exact ⟨hs, hnotes, fun _ hst => absurd hst List.not_mem_nil⟩
  | cons i rest ih =>
    simp only [Context.pass] at h
    split at h
    · cases h
    · next hfail =>
      simp only [bind_eq_ok, pure_eq_ok] at h
      obtain ⟨p, hp, rfl⟩ := h
      have hmore : sites.pcs <+: (ctx.transfer sites s i).sites.pcs := prefix_transfer i
      have hbefore : P (ctx.transfer sites s i).sites s := hP.more hs hmore
      have hafter := hP.transfer (his i List.mem_cons_self) hs hfail
      have hnoted := hnotes.imp fun _ hs' => hP.more hs' hmore
      have hquiet : ∀ note ∈ (ctx.transfer sites s i).notes, note.state? = none := fun _ => state?_of_mem_transfer
      have hreported := hnoted.step hbefore hafter hquiet i
      obtain ⟨hexit, hall, hsteps⟩ := ih (fun j hj => his j (List.mem_cons_of_mem _ hj)) hafter hreported hp
      refine ⟨hexit, hall, fun st hst => ?_⟩
      rcases List.mem_cons.1 hst with rfl | hst
      · have hrest := (lasts_pass hp).1
        exact ⟨hP.more hbefore hrest, hP.more hafter hrest, mem_notes_of_pass hp _ (by simp)⟩
      · exact hsteps st hst

end Context

/-! ### Runs -/

namespace Progress
variable {ctx : Context} {c : Code} {g : FlowGraph} {P : AllocationSites → TypeState → Prop} {p p' : Progress} {n : Nat}

structure Holds (P : AllocationSites → TypeState → Prop) (p : Progress) : Prop where
  entries : p.All fun _ b => ∀ e ∈ b.entry, P p.sites e
  steps : p.AllSteps (Step.Holds P p.sites p.notes)
  notes : AllNoted (P p.sites) p.notes

namespace Holds

theorem start {entry : Nat} {s : TypeState} (hs : P {} s) : (start g entry s).Holds P where
  entries := by
    refine All.start ?_ fun n => ?_
    · rintro _ ⟨⟩
      exact hs
    · exact fun _ he => absurd he (Option.not_mem_none _)
  steps := All.start (fun _ hst => absurd hst List.not_mem_nil) fun _ _ hst => absurd hst List.not_mem_nil
  notes _ hnote := absurd hnote (Array.not_mem_empty _)

theorem propagate (hP : ctx.Keeps c P) {entry exit : TypeState} {e : Edge} (hp : p.Holds P) (hentry : P p.sites entry)
    (hexit : P p.sites exit) (h : p.propagate ctx entry exit e = .ok p') : p'.Holds P := by
  obtain ⟨hfail, ⟨rfl, -⟩ | ⟨b, b', hb, hreceive, hblocks, hsites, notes, hnotes⟩⟩ := propagate_cases h
  · exact hp
  have hcarried : P p.sites (e.branch.carry entry exit).state := by
    unfold Branch.carry at hfail ⊢
    split at hfail
    · next hb => rw [if_pos hb]; exact hP.follow hentry hfail
    · next hb => rw [if_neg hb]; exact hP.follow hexit hfail
  have hreceived : ∀ e ∈ b'.entry, P p.sites e := by
    obtain ⟨-, rfl⟩ | ⟨old, joined, hold, hjoin, rfl⟩ := BlockState.receive_cases hreceive
    · rintro _ ⟨⟩
      exact hcarried
    · rintro _ ⟨⟩
      exact hP.join (hp.entries _ b hb old hold) hcarried hjoin
  refine ⟨?_, fun k b₁ hb₁ st hst => ?_, ?_⟩
  · rw [hsites]
    exact hp.entries.set hreceived hblocks
  · have hold := hp.steps.propagate h k b₁ hb₁ st hst
    rw [hsites]
    exact hold.mono hP (List.prefix_refl _) fun note hnote => hnotes ▸ Note.mem_append.2 (.inl hnote)
  · rw [hsites, hnotes]
    refine hp.notes.append fun note hnote => ?_
    obtain ⟨_, -, rfl⟩ := List.mem_map.1 hnote
    rfl

theorem visit (hP : ctx.Keeps c P) (hg : FlowGraph.ofCode c = .ok g) (hp : p.Holds P) (h : p.visit ctx g n = .ok p') :
    p'.Holds P := by
  obtain ⟨rfl, -⟩ | ⟨node, b, e, r, hnode, hb, he, hpass, h⟩ := visit_cases h
  · exact hp
  have hentry : P p.sites e := hp.entries n b hb e he
  have hblock : AllNoted (P p.sites) (p.notes.push (.block node.block.start)) :=
    hp.notes.push fun _ hs => absurd hs (Option.not_mem_none _)
  have hopened : AllNoted (P p.sites) ((p.notes.push (.block node.block.start)).push (.entryState e)) :=
    hblock.push (by rintro _ ⟨⟩; exact hentry)
  obtain ⟨hexit, hnotes, hsteps⟩ := hP.pass (fun i hi => FlowGraph.mem_instrs hg hnode hi) hentry hopened hpass
  have hsites := (Context.lasts_pass hpass).1
  have hkept : ∀ note ∈ p.notes, note ∈ (p.passed n b r).notes := by
    intro note hnote
    exact Array.mem_push_of_mem _ (Context.mem_notes_of_pass hpass note (by simp [hnote]))
  have hpassed : (p.passed n b r).Holds P := by
    refine ⟨?_, ?_, hnotes.push (by rintro _ ⟨⟩; exact hexit)⟩
    · refine All.set (p := p) (fun k b' hb' e' he' => ?_) (fun e' he' => ?_) rfl
      · exact hP.more (hp.entries k b' hb' e' he') hsites
      · exact hP.more (hp.entries n b hb e' he') hsites
    · refine All.set (p := p) (fun k b' hb' st hst => ?_) (fun st hst => ?_) rfl
      · exact (hp.steps k b' hb' st hst).mono hP hsites hkept
      · exact (hsteps st hst).mono hP (List.prefix_refl _) fun note hnote => Array.mem_push_of_mem _ hnote
  -- along edges no site is found, so the entry and exit states of the block keep the property
  have hfold : p'.Holds P ∧ p'.sites = r.sites := by
    refine foldlM_preserves (P := fun p₁ => p₁.Holds P ∧ p₁.sites = r.sites) ?_ ⟨hpassed, rfl⟩ h
    rintro edge - p₁ p₂ ⟨hp₁, hsame⟩ hp₂
    have hentry₁ : P p₁.sites e := hsame ▸ hP.more hentry hsites
    exact ⟨hp₁.propagate hP hentry₁ (hsame ▸ hexit) hp₂, (sites_propagate hp₂).trans hsame⟩
  exact hfold.1

end Holds
end Progress

theorem Dataflow.notes_ofProgress {g : FlowGraph} {p : Progress} {d : Dataflow} (h : ofProgress g p = .ok d) :
    d.notes = p.notes ++ unreachableNotes (p.table g) := by
  simp only [ofProgress] at h
  split at h
  · cases h
  · cases h
    rfl

namespace Verification
variable {o : ClassOracle} {limit : Nat} {m : Method} {v : Verification} {c : Code}
  {P : AllocationSites → TypeState → Prop}

/-- What holds initially and is kept holds of every state of a run. -/
theorem holds_of_within (hP : Context.Keeps ⟨o, m.descriptor⟩ c P) (hv : within o limit m = .ok v)
    (hc : m.code = some c) (hinitial : ∀ s, TypeState.initial m c = .ok s → P {} s) :
    (∀ st ∈ v.flow.steps, st.Holds P v.flow.sites v.flow.notes) ∧
      AllNoted (P v.flow.sites) v.flow.notes := by
  obtain ⟨c', hc', hflow⟩ := within_eq_ok hv
  cases hc.symm.trans hc'
  obtain ⟨g, entry, s₀, p, hg, hentry, hs₀, hp, hd⟩ := Dataflow.compute_eq_ok hflow
  obtain ⟨hf, hrec⟩ := Dataflow.finished_of_solve hg hentry hp hd
  have hholds : p.Holds P :=
    Progress.solve_preserves (fun _ _ _ hp _ hvisit => hp.visit hP hg hvisit) (.start (hinitial s₀ hs₀)) hp
  refine ⟨fun st hst => ?_, ?_⟩
  · obtain ⟨n, node, b, -, hb, hst⟩ := hrec.mem_steps.1 hst
    have hrecords := hholds.steps n b hb st hst
    rw [Dataflow.sites_ofProgress hd]
    refine hrecords.mono hP (List.prefix_refl _) fun note hnote => ?_
    rw [Dataflow.notes_ofProgress hd]
    exact Note.mem_append.2 (.inl hnote)
  · rw [Dataflow.sites_ofProgress hd, Dataflow.notes_ofProgress hd]
    refine hholds.notes.append fun note hnote => ?_
    obtain ⟨⟨block, b⟩, -, hnote⟩ := List.mem_filterMap.1 hnote
    dsimp only at hnote
    split at hnote
    · cases hnote
      rfl
    · cases hnote

end Verification
end Dalvik
