import Dalvik.Proofs.Reachability

/-!
# Replaying a verified method

The states of a method are gathered over many passes, and so are the numbers of its allocation sites. What is left at
the end can be computed again in one go: the transfer over an instruction, from its recorded entry state and with the
final numbers, gives its recorded exit state and its violation (`Verification.replay_of_within`). For this a site must
keep its number while more of them are found, so the table of sites only ever grows at its end.
-/

namespace Dalvik

/-- A site that is recorded keeps its number. -/
theorem AllocationSites.idOf_of_discover {s t : AllocationSites} {pc : Address} (h : (s.discover pc).pcs <+: t.pcs) :
    t.idOf pc = s.idOf pc := by
  obtain ⟨rest, hrest⟩ := h
  have hidx : t.pcs.idxOf pc = s.pcs.idxOf pc := by
    unfold discover at hrest
    rw [← hrest]
    split
    · next hpc => exact List.idxOf_append_of_mem hpc
    · next hpc =>
      rw [List.idxOf_append_of_mem (by simp), List.idxOf_append_of_notMem hpc, List.idxOf_of_notMem hpc]
      simp
  rw [idOf, idOf, hidx]

theorem AllocationSites.prefix_discover (s : AllocationSites) (pc : Address) : s.pcs <+: (s.discover pc).pcs := by
  unfold discover
  split
  · exact List.prefix_refl _
  · exact List.prefix_append _ _

namespace Context
variable {ctx : Context} {sites sites' : AllocationSites} {s : TypeState} {i : LabeledInstr} {st : Step}

theorem prefix_perform (pc : Address) (e : Effect) : sites.pcs <+: (ctx.perform sites pc s e).sites.pcs := by
  cases e with
  | allocate dst type => exact sites.prefix_discover pc
  | _ => exact List.prefix_refl _

theorem perform_of_isPrefix {pc : Address} {e : Effect} (h : (ctx.perform sites pc s e).sites.pcs <+: sites'.pcs) :
    (ctx.perform sites' pc s e).state = (ctx.perform sites pc s e).state ∧
      (ctx.perform sites' pc s e).failure = (ctx.perform sites pc s e).failure := by
  cases e with
  | allocate dst type =>
    have hobject : ctx.allocated sites' pc type = ctx.allocated sites pc type := by
      rw [allocated, allocated, AllocationSites.idOf_of_discover h]
    simp only [perform, hobject, and_self]
  | _ => exact ⟨rfl, rfl⟩

theorem prefix_transfer (i : LabeledInstr) : sites.pcs <+: (ctx.transfer sites s i).sites.pcs := by
  unfold transfer
  split
  · exact prefix_perform _ _
  · exact List.prefix_refl _
  · exact prefix_perform _ _

/-- The transfer over the instruction gives what the step records, with these numbers of sites. -/
def Replays (ctx : Context) (sites : AllocationSites) (st : Step) : Prop :=
  (ctx.transfer sites st.before st.instr).failure = none ∧
    (ctx.transfer sites st.before st.instr).state = st.after ∧
    (ctx.transfer sites st.before st.instr).violation = st.violation

/-- The step can be replayed whatever sites are found later. -/
def Lasts (ctx : Context) (sites : AllocationSites) (st : Step) : Prop :=
  ∀ sites', sites.pcs <+: sites'.pcs → ctx.Replays sites' st

theorem Lasts.mono (h : ctx.Lasts sites st) (hsites : sites.pcs <+: sites'.pcs) : ctx.Lasts sites' st :=
  fun sites'' hsites' => h sites'' (hsites.trans hsites')

/-- Sites that are found later make no difference. -/
theorem transfer_of_isPrefix (h : (ctx.transfer sites s i).sites.pcs <+: sites'.pcs) :
    (ctx.transfer sites' s i).failure = (ctx.transfer sites s i).failure ∧
      (ctx.transfer sites' s i).state = (ctx.transfer sites s i).state ∧
      (ctx.transfer sites' s i).violation = (ctx.transfer sites s i).violation := by
  unfold transfer at h ⊢
  cases heffect : i.instr.effect ctx.oracle s with
  | ok e =>
    rw [heffect] at h
    obtain ⟨hstate, hfailure⟩ := perform_of_isPrefix h
    exact ⟨hfailure, hstate, by rw [violation_perform, violation_perform]⟩
  | error fault =>
    rw [heffect] at h
    cases fault with
    | error err => exact ⟨rfl, rfl, rfl⟩
    | complaint complaint =>
      obtain ⟨hstate, hfailure⟩ := perform_of_isPrefix h
      exact ⟨hfailure, hstate, rfl⟩

theorem Replays.lasts (h : ctx.Replays sites st) : ctx.Lasts (ctx.transfer sites st.before st.instr).sites st := by
  intro sites' hsites
  obtain ⟨hfailure, hstate, hviolation⟩ := h
  obtain ⟨hfailure', hstate', hviolation'⟩ := transfer_of_isPrefix hsites
  exact ⟨hfailure'.trans hfailure, hstate'.trans hstate, hviolation'.trans hviolation⟩

/-- The steps of a pass can be replayed from then on. -/
theorem lasts_pass {is : List LabeledInstr} {notes : Array Note} {r : Pass} (h : ctx.pass sites notes s is = .ok r) :
    sites.pcs <+: r.sites.pcs ∧ ∀ st ∈ r.steps, ctx.Lasts r.sites st := by
  induction is generalizing sites notes s r with
  | nil =>
    cases h
    exact ⟨List.prefix_refl _, fun _ hst => absurd hst List.not_mem_nil⟩
  | cons i rest ih =>
    simp only [pass] at h
    split at h
    · cases h
    · next hfail =>
      simp only [bind_eq_ok, pure_eq_ok] at h
      obtain ⟨p, hp, rfl⟩ := h
      obtain ⟨hsites, hsteps⟩ := ih hp
      refine ⟨(prefix_transfer i).trans hsites, fun st hst => ?_⟩
      rcases List.mem_cons.1 hst with rfl | hst
      · have hreplays : ctx.Replays sites ⟨i, s, (ctx.transfer sites s i).state, (ctx.transfer sites s i).violation⟩ :=
          ⟨hfail, rfl, rfl⟩
        exact hreplays.lasts.mono hsites
      · exact hsteps st hst

theorem violation_transfer {x : Violation} (h : (ctx.transfer sites s i).violation = some x) :
    x.address = i.address ∧ x.position = i.position := by
  obtain ⟨c, -, rfl⟩ := violation_eq_some_iff.1 h
  exact ⟨rfl, rfl⟩

/-- Nothing is wrong with an instruction that has an effect. -/
theorem violation_eq_none_iff (h : (ctx.transfer sites s i).failure = none) :
    (ctx.transfer sites s i).violation = none ↔ ∃ e, i.instr.effect ctx.oracle s = .ok e := by
  unfold transfer at h ⊢
  split
  · next e he => simp [violation_perform, he]
  · next err he =>
    rw [he] at h
    cases h
  · next c hc => simp [hc]

end Context

/-! ### Passes -/

namespace Progress
variable {ctx : Context} {g : FlowGraph} {p p' : Progress} {n : Nat} {Q : Step → Prop}

/-- The property holds of all steps of the last passes. -/
def AllSteps (Q : Step → Prop) (p : Progress) : Prop := p.All fun _ b => ∀ st ∈ b.steps, Q st

theorem AllSteps.propagate {entry exit : TypeState} {e : Edge} (hp : p.AllSteps Q)
    (h : p.propagate ctx entry exit e = .ok p') : p'.AllSteps Q := by
  intro n b' hb'
  obtain ⟨b, hb, hgrow⟩ := (Grows.of_propagate h).block' hb'
  rw [hgrow.steps]
  exact hp n b hb

/-- All steps of the last passes can be replayed from now on. -/
def Lasting (ctx : Context) (p : Progress) : Prop := p.AllSteps (ctx.Lasts p.sites)

theorem Lasting.visit (hp : p.Lasting ctx) (h : p.visit ctx g n = .ok p') : p'.Lasting ctx := by
  obtain ⟨rfl, -⟩ | ⟨node, b, e, r, hnode, hb, he, hpass, h⟩ := visit_cases h
  · exact hp
  · obtain ⟨hsites, hsteps⟩ := Context.lasts_pass hpass
    have hold : p.AllSteps (ctx.Lasts r.sites) := fun k b' hb' st hst => (hp k b' hb' st hst).mono hsites
    have hpassed : (p.passed n b r).Lasting ctx := All.set hold hsteps rfl
    refine foldlM_preserves (fun edge _ p₁ p₂ hp₁ hp₂ => ?_) hpassed h
    rw [Lasting, sites_propagate hp₂]
    exact AllSteps.propagate hp₁ hp₂

theorem lasting_of_solve {order : List Nat} {limit entry : Nat} {s₀ : TypeState}
    (h : solve ctx g order limit (.start g entry s₀) = .ok p) : p.Lasting ctx := by
  have hstart : (start g entry s₀).Lasting ctx := by
    refine All.start ?_ fun n => ?_
    · exact fun _ hst => absurd hst List.not_mem_nil
    · exact fun _ hst => absurd hst List.not_mem_nil
  exact solve_preserves (fun _ _ _ hp _ hvisit => hp.visit hvisit) hstart h

end Progress

/-! ### Results -/

namespace Dataflow
variable {ctx : Context} {c : Code} {g : FlowGraph} {s₀ : TypeState} {p : Progress} {d : Dataflow} {i j : LabeledInstr}

theorem sites_ofProgress (h : ofProgress g p = .ok d) : d.sites = p.sites := by
  simp only [ofProgress] at h
  split at h
  · cases h
  · cases h
    rfl

namespace Solution

theorem entryState?_eq_some (h : Solution ctx c g s₀ d) (hi : i ∈ c.instrs) {s : TypeState} :
    d.entryState? i.address = some s ↔ ∃ st ∈ d.steps, st.instr = i ∧ st.before = s := by
  rw [entryState?, Option.map_eq_some_iff]
  refine exists_congr fun st => ?_
  rw [h.at?_eq_some, and_assoc]
  refine and_congr_right fun hst => and_congr_left fun _ => ⟨fun haddr => ?_, fun hinstr => by rw [hinstr]⟩
  exact Code.eq_of_address (h.mem_instrs hst) hi haddr

theorem exitState?_of_mem (h : Solution ctx c g s₀ d) {st : Step} (hst : st ∈ d.steps) :
    d.exitState? st.instr.address = some st.after := by
  rw [exitState?, h.at?_eq_some.2 ⟨hst, rfl⟩]
  rfl

end Solution

/-- What is listed for the steps in turn is listed for the instructions in turn, those without a step left out. -/
theorem filterMap_of_sublist {α : Type} {steps : List Step} {is : List LabeledInstr} {f : Step → Option α}
    {f' : LabeledInstr → Option α} (h : (steps.map Step.instr).Sublist is) (hnodup : is.Nodup)
    (hstep : ∀ st ∈ steps, f' st.instr = f st) (hother : ∀ i ∈ is, i ∉ steps.map Step.instr → f' i = none) :
    is.filterMap f' = steps.filterMap f := by
  induction is generalizing steps with
  | nil =>
    obtain rfl : steps = [] := by simpa using h
    rfl
  | cons i is ih =>
    obtain ⟨hi, hnodup'⟩ := List.nodup_cons.1 hnodup
    cases steps with
    | nil =>
      rw [List.filterMap_cons_none (hother i List.mem_cons_self List.not_mem_nil)]
      exact ih (List.nil_sublist _) hnodup' hstep fun j hj => hother j (List.mem_cons_of_mem _ hj)
    | cons st steps =>
      rw [List.map_cons] at h
      cases h with
      | cons _ h =>
        have hnone : i ∉ (st :: steps).map Step.instr := fun hmem => hi (h.subset hmem)
        rw [List.filterMap_cons_none (hother i List.mem_cons_self hnone)]
        exact ih h hnodup' hstep fun j hj => hother j (List.mem_cons_of_mem _ hj)
      | cons_cons _ h =>
        have hrest : is.filterMap f' = steps.filterMap f := by
          refine ih h hnodup' (fun st' hst' => hstep st' (List.mem_cons_of_mem _ hst')) fun j hj hmem => ?_
          refine hother j (List.mem_cons_of_mem _ hj) fun hmem' => ?_
          rcases List.mem_cons.1 hmem' with rfl | hmem'
          · exact hi hj
          · exact hmem hmem'
        rw [List.filterMap_cons, List.filterMap_cons, hstep st List.mem_cons_self, hrest]

end Dataflow

/-- Neighbours in the listing that are in one block are neighbours there. -/
theorem Code.Follows.split_block {c : Code} {b : Block} {i j : LabeledInstr} (h : c.Follows i j) (hb : b ∈ c.blocks)
    (hi : i ∈ b.instrs) (hj : j ∈ b.instrs) : ∃ is js, b.instrs = is ++ i :: j :: js := by
  rcases h.cases with ⟨b', hb', is, js, hsplit⟩ | ⟨b₁, hb₁, b₂, hb₂, rfl, rfl⟩
  · obtain rfl : b' = b := block_unique hb' hb (hsplit ▸ by simp) hi
    exact ⟨is, js, hsplit⟩
  · obtain rfl := block_unique hb₁ hb b₁.last_mem hi
    exact absurd (address_le_last hb hj) (Nat.not_le_of_lt h.address_lt)

/-- What was recorded of a method is what one walk through its listing computes from the recorded entry states. -/
structure Verification.Replay (ctx : Context) (c : Code) (v : Verification) : Prop where
  transfer : ∀ i ∈ c.instrs, ∀ s, v.flow.entryState? i.address = some s →
    (ctx.transfer v.flow.sites s i).failure = none ∧
      v.flow.exitState? i.address = some (ctx.transfer v.flow.sites s i).state ∧
      ∀ x, (ctx.transfer v.flow.sites s i).violation = some x → x.address = i.address ∧ x.position = i.position
  /-- Inside a block, an instruction starts where the one before it ends. -/
  next : ∀ i j b, c.Follows i j → b ∈ c.blocks → i ∈ b.instrs → j ∈ b.instrs → ∀ s,
    v.flow.exitState? i.address = some s → v.flow.entryState? j.address = some s
  violations : v.violations = c.instrs.filterMap fun i =>
    (v.flow.entryState? i.address).bind fun s => (ctx.transfer v.flow.sites s i).violation
  increasing : v.violations.Pairwise fun x y => x.address < y.address
  isOk : v.isOk = true ↔ ∀ i ∈ c.instrs, ∀ s, v.flow.entryState? i.address = some s →
    ∃ e, i.instr.effect ctx.oracle s = .ok e

namespace Dataflow.Solution
variable {ctx : Context} {c : Code} {g : FlowGraph} {s₀ : TypeState} {d : Dataflow}

theorem next_in_block (h : Solution ctx c g s₀ d) (hg : FlowGraph.ofCode c = .ok g) {i j : LabeledInstr} {b : Block}
    (hfollows : c.Follows i j) (hb : b ∈ c.blocks) (hi : i ∈ b.instrs) (hj : j ∈ b.instrs) {s : TypeState}
    (hs : d.exitState? i.address = some s) : d.entryState? j.address = some s := by
  obtain ⟨is, js, hsplit⟩ := hfollows.split_block hb hi hj
  obtain ⟨st, hat, hafter⟩ := Option.map_eq_some_iff.1 hs
  obtain ⟨hst, haddr⟩ := h.at?_eq_some.1 hat
  obtain rfl := Code.eq_of_address (h.mem_instrs hst) hfollows.mem_left haddr
  obtain ⟨n, node, hn, hmem⟩ := FlowGraph.exists_node hg hfollows.mem_left
  obtain rfl := Code.block_unique (FlowGraph.block_mem hg hn) hb hmem hi
  obtain ⟨st', hst', hinstr, hbefore⟩ := h.within node (Array.mem_of_getElem? hn) is _ j js hsplit st hst rfl
  exact (h.entryState?_eq_some hfollows.mem_right).2 ⟨st', hst', hinstr, hbefore.trans hafter⟩

section
variable (h : Solution ctx c g s₀ d) (hreplays : ∀ st ∈ d.steps, ctx.Replays d.sites st)
include h hreplays

theorem violations_eq_filterMap : d.violations = c.instrs.filterMap fun i =>
    (d.entryState? i.address).bind fun s => (ctx.transfer d.sites s i).violation := by
  have hnodup : c.instrs.Nodup := by
    refine c.linked.pairwise.imp ?_
    rintro i _ hlt rfl
    exact Nat.lt_irrefl _ hlt
  refine (filterMap_of_sublist h.recorded hnodup (fun st hst => ?_) fun i hi hno => ?_).symm
  · obtain ⟨-, -, hviolation⟩ := hreplays st hst
    rw [(h.entryState?_eq_some (h.mem_instrs hst)).2 ⟨st, hst, rfl, rfl⟩]
    exact hviolation
  · cases hs : d.entryState? i.address with
    | none => rfl
    | some s =>
      obtain ⟨st, hst, hinstr, -⟩ := (h.entryState?_eq_some hi).1 hs
      exact absurd (List.mem_map.2 ⟨st, hst, hinstr⟩) hno

theorem pairwise_violations : d.violations.Pairwise fun x y => x.address < y.address := by
  have hplaced : ∀ st ∈ d.steps, ∀ x, st.violation = some x → x.address = st.instr.address := by
    intro st hst x hx
    obtain ⟨-, -, hviolation⟩ := hreplays st hst
    exact (Context.violation_transfer (hviolation.trans hx)).1
  have hsteps : d.steps.Pairwise fun st st' => st ∈ d.steps ∧ st' ∈ d.steps ∧ st.instr.address < st'.instr.address := by
    have hp := c.linked.pairwise.sublist h.recorded
    rw [List.pairwise_map] at hp
    exact List.Pairwise.and_mem.1 hp
  refine hsteps.filterMap _ ?_
  rintro st st' ⟨hst, hst', hlt⟩ x hx y hy
  rwa [hplaced st hst x hx, hplaced st' hst' y hy]

theorem violations_eq_nil_iff : d.violations = [] ↔ ∀ i ∈ c.instrs, ∀ s, d.entryState? i.address = some s →
    ∃ e, i.instr.effect ctx.oracle s = .ok e := by
  rw [Dataflow.violations, List.filterMap_eq_nil_iff]
  constructor
  · intro hnone i hi s hs
    obtain ⟨st, hst, rfl, rfl⟩ := (h.entryState?_eq_some hi).1 hs
    obtain ⟨hfailure, -, hviolation⟩ := hreplays st hst
    exact (Context.violation_eq_none_iff hfailure).1 (hviolation.trans (hnone st hst))
  · intro heffect st hst
    obtain ⟨hfailure, -, hviolation⟩ := hreplays st hst
    rw [← hviolation, Context.violation_eq_none_iff hfailure]
    have hi := h.mem_instrs hst
    exact heffect _ hi _ ((h.entryState?_eq_some hi).2 ⟨st, hst, rfl, rfl⟩)

end

end Dataflow.Solution

namespace Verification

theorem replay_of_within {o : ClassOracle} {limit : Nat} {m : Method} {v : Verification} {c : Code}
    (hv : within o limit m = .ok v) (hc : m.code = some c) : v.Replay ⟨o, m.descriptor⟩ c := by
  obtain ⟨c', hc', hflow⟩ := within_eq_ok hv
  cases hc.symm.trans hc'
  obtain ⟨g, entry, s₀, p, hg, hentry, -, hp, hd⟩ := Dataflow.compute_eq_ok hflow
  obtain ⟨hf, hrec⟩ := Dataflow.finished_of_solve hg hentry hp hd
  have hsol := Dataflow.Solution.of_finished hg hentry hf hrec
  have hreplays : ∀ st ∈ v.flow.steps, Context.Replays ⟨o, m.descriptor⟩ v.flow.sites st := by
    intro st hst
    obtain ⟨n, node, b, -, hb, hst⟩ := hrec.mem_steps.1 hst
    rw [Dataflow.sites_ofProgress hd]
    exact Progress.lasting_of_solve hp n b hb st hst _ (List.prefix_refl _)
  refine ⟨fun i hi s hs => ?_, fun i j b hfollows hb hi hj s hs => hsol.next_in_block hg hfollows hb hi hj hs,
    hsol.violations_eq_filterMap hreplays, hsol.pairwise_violations hreplays, ?_⟩
  · obtain ⟨st, hst, rfl, rfl⟩ := (hsol.entryState?_eq_some hi).1 hs
    obtain ⟨hfailure, hstate, -⟩ := hreplays st hst
    refine ⟨hfailure, ?_, fun x => Context.violation_transfer⟩
    rw [hsol.exitState?_of_mem hst, hstate]
  · rw [Verification.isOk, List.isEmpty_iff]
    exact hsol.violations_eq_nil_iff hreplays

/-! The first pass over a loop complains about a register without a value; the second one finds the `int` that the first
has left there. -/

def countingCode : Code := Code.ofInstrs 1 1 (.binaryLit .add 0 0 1) [.ifTestZero .eq 1 0, .returnValue 0]

def countingMethod : Method where
  descriptor := ⟨.object "Kennel", "count", [.prim .int], .void⟩
  flags := Flags.static
  code := some countingCode

theorem replay_of_within_counting :
    ∃ v, within Hierarchy.empty.oracle 9 countingMethod = .ok v ∧ v.violations.map (·.address) = [4] ∧
      v.Replay ⟨Hierarchy.empty.oracle, countingMethod.descriptor⟩ countingCode := by
  have hrun : (within Hierarchy.empty.oracle 9 countingMethod).toOption.map (·.violations.map (·.address)) =
      some [4] := by cbv
  obtain ⟨v, hv, hviolations⟩ := exists_ok_of_toOption hrun
  exact ⟨v, hv, hviolations, replay_of_within hv rfl⟩

end Verification
end Dalvik
