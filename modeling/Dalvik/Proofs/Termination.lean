import Dalvik.Proofs.Depth

/-!
# The fixpoint computation ends

The loop of passes over blocks has no limit of its own. Over an acyclic hierarchy every pass uses up some of a potential
(`Progress.potential`): a block counts with the rank of its entry state, with one more while it is pending, and with the
highest rank there is while no state has reached it. A state that comes in and changes the entry state makes it rank
lower, which pays for the block being pending again, and a pass makes its own block stable. So the loop ends, after no
more passes than `Hierarchy.passLimit` gives, and what it leaves is what `Hierarchy.verify` looks at
(`Hierarchy.verify_terminates`).
-/

namespace Dalvik

namespace TypeState

/-- What no instruction changes: the number of registers and the declared result. -/
def frame (s : TypeState) : Nat × Option RegisterType := (s.size, s.expected)

theorem frame_write (s : TypeState) (r : Reg) (t : RegisterType) : (s.write r t).state.frame = s.frame := by
  refine Prod.ext (s.size_write r t) ?_
  simp only [frame, write]
  split <;> rfl

theorem frame_writePair (s : TypeState) (r : Reg) (t : RegisterType) : (s.writePair r t).state.frame = s.frame := by
  unfold writePair
  dsimp only
  split
  · exact s.frame_write r t
  · rw [frame_write, frame_write]

theorem frame_replace (s : TypeState) (old new : RegisterType) : (s.replace old new).frame = s.frame :=
  Prod.ext (s.size_replace old new) rfl

theorem frame_follow (s : TypeState) (b : Branch) : (s.follow b).state.frame = s.frame := by
  unfold follow
  split
  · dsimp only
    split <;> rfl
  · rfl
  · split
    · exact s.frame_write _ _
    · rfl
    · rfl
  · rfl

end TypeState

namespace Context
variable {ctx : Context} {s exit : TypeState} {sites : AllocationSites} {steps : List Step}

theorem frame_perform (pc : Address) (e : Effect) : (ctx.perform sites pc s e).state.frame = s.frame := by
  cases e with
  | skip | yield => rfl
  | write r t => exact s.frame_write r t
  | writePair r t => exact s.frame_writePair r t
  | allocate dst type => exact (TypeState.frame_write _ _ _).trans (s.frame_replace _ _)
  | construct object type result => exact s.frame_replace _ _

theorem frame_transfer (i : LabeledInstr) : (ctx.transfer sites s i).state.frame = s.frame := by
  unfold transfer
  split
  · exact frame_perform _ _
  · rfl
  · exact frame_perform _ _

theorem Chain.frame_eq (hchain : ctx.Chain s steps exit) : exit.frame = s.frame := by
  induction hchain with
  | nil => rfl
  | cons hbefore hperforms _ ih =>
    obtain ⟨sites, -, hafter, -⟩ := hperforms
    rw [ih, ← hafter, frame_transfer, hbefore]

end Context

/-! ### Potentials -/

section
variable {h : Hierarchy} {size depth : Nat}

/-- A state of so many registers, with arrays of at most so many dimensions. -/
def TypeState.Within (size depth : Nat) (s : TypeState) : Prop := s.size = size ∧ s.Shallow depth

/-- The types that a graph names have at most so many dimensions. -/
structure FlowGraph.Shallow (depth : Nat) (g : FlowGraph) : Prop where
  instrs : ∀ node ∈ g.nodes, ∀ i ∈ node.block.instrs, ∀ t ∈ i.instr.types, t.dims ≤ depth
  edges : ∀ node ∈ g.nodes, ∀ e ∈ node.edges, ∀ t ∈ e.branch.types, t.dims ≤ depth

namespace BlockState
variable {b b' : BlockState} {s : TypeState}

def potential (h : Hierarchy) (size depth : Nat) (b : BlockState) : Nat :=
  match b.entry with
  | none => (size + 2) * (h.height depth + 1) + 1
  | some e => e.rank h depth + if b.status = .pending then 1 else 0

theorem potential_of_entry {e : TypeState} (he : b.entry = some e) :
    b.potential h size depth = e.rank h depth + if b.status = .pending then 1 else 0 := by
  unfold potential
  rw [he]

theorem potential_le (hh : h.Closed) (hb : ∀ e ∈ b.entry, e.Within size depth) :
    b.potential h size depth ≤ (size + 2) * (h.height depth + 1) + 1 := by
  unfold potential
  split
  · exact Nat.le_refl _
  · next e he =>
    obtain ⟨rfl, hshallow⟩ := hb e he
    have hrank := TypeState.rank_le_height hh hshallow
    split <;> omega

theorem potential_pos (hb : b.status = .pending) : 0 < b.potential h size depth := by
  unfold potential
  split
  · exact Nat.succ_pos _
  · rw [if_pos hb]
    exact Nat.succ_pos _

/-- A state that comes in does not raise the potential of a block. -/
theorem potential_receive (hh : h.Closed) (hacyclic : h.Acyclic) (hb : ∀ e ∈ b.entry, e.Within size depth)
    (hs : s.Within size depth) (hreceive : b.receive h.oracle s = .ok b') :
    b'.potential h size depth ≤ b.potential h size depth ∧ ∀ e ∈ b'.entry, e.Within size depth := by
  obtain ⟨hnone, rfl⟩ | ⟨entry, joined, hentry, hjoin, rfl⟩ := receive_cases hreceive
  · have hin : ∀ e ∈ some s, e.Within size depth := by rintro e ⟨⟩; exact hs
    refine ⟨?_, hin⟩
    rw [show b.potential h size depth = (size + 2) * (h.height depth + 1) + 1 by unfold potential; rw [hnone]]
    exact potential_le hh hin
  · obtain ⟨hsize, hshallow⟩ := hb entry hentry
    obtain ⟨hchange, hshallow'⟩ := TypeState.join_beq_or_rank_lt hh hacyclic hshallow hs.2 hjoin
    refine ⟨?_, ?_⟩
    · rw [potential_of_entry hentry, potential_of_entry rfl]
      dsimp only
      rcases hchange with ⟨hbeq, hrank⟩ | hrank
      · rw [if_pos hbeq, hrank]
      · split <;> split <;> omega
    · rintro e ⟨⟩
      exact ⟨(TypeState.join_eq_ok hjoin).2.2.1.trans hsize, hshallow'⟩

end BlockState

theorem sum_set_add {l : List Nat} {n x : Nat} (hx : l[n]? = some x) (y : Nat) : (l.set n y).sum + x = l.sum + y := by
  induction l generalizing n with
  | nil => cases hx
  | cons a l ih =>
    cases n with
    | zero =>
      cases hx
      simp only [List.set_cons_zero, List.sum_cons]
      omega
    | succ n =>
      have hrest := ih hx
      simp only [List.set_cons_succ, List.sum_cons]
      omega

namespace Progress
variable {m : MethodRef} {g : FlowGraph} {p p' : Progress} {n : Nat} {entry exit : TypeState}

def potential (h : Hierarchy) (size depth : Nat) (p : Progress) : Nat :=
  (p.blocks.toList.map (·.potential h size depth)).sum

structure Bounded (g : FlowGraph) (size depth : Nat) (p : Progress) : Prop where
  blocks : p.blocks.size = g.size
  entry : ∀ (n : Nat) b, p.blocks[n]? = some b → ∀ e ∈ b.entry, e.Within size depth

theorem potential_set {b b' : BlockState} (hb : p.blocks[n]? = some b)
    (hblocks : p'.blocks = p.blocks.setIfInBounds n b') :
    p'.potential h size depth + b.potential h size depth = p.potential h size depth + b'.potential h size depth := by
  unfold potential
  rw [hblocks, Array.toList_setIfInBounds, List.map_set]
  refine sum_set_add ?_ _
  rw [List.getElem?_map, Array.getElem?_toList, hb]
  rfl

theorem Bounded.set {b' : BlockState} (hp : p.Bounded g size depth) (hb' : ∀ e ∈ b'.entry, e.Within size depth)
    (hblocks : p'.blocks = p.blocks.setIfInBounds n b') : p'.Bounded g size depth := by
  refine ⟨by rw [hblocks, Array.size_setIfInBounds, hp.blocks], fun k b hb e he => ?_⟩
  rw [hblocks, Array.getElem?_setIfInBounds] at hb
  split at hb
  · split at hb
    · cases hb
      exact hb' e he
    · cases hb
  · exact hp.entry k b hb e he

theorem potential_pos (hpending : p.isPending n = true) : 0 < p.potential h size depth := by
  obtain ⟨b, hb, hstatus⟩ := isPending_iff.1 hpending
  have hmem : b.potential h size depth ∈ p.blocks.toList.map (·.potential h size depth) :=
    List.mem_map_of_mem (Array.mem_of_getElem? hb).val
  exact (BlockState.potential_pos hstatus).trans_le (List.single_le_sum (fun _ _ => Nat.zero_le _) _ hmem)

section
variable (hh : h.Closed) (hacyclic : h.Acyclic)
include hh hacyclic

theorem potential_propagate {e : Edge} (hentry : entry.Within size depth) (hexit : exit.Within size depth)
    (he : ∀ t ∈ e.branch.types, t.dims ≤ depth) (hp : p.Bounded g size depth)
    (hpropagate : p.propagate ⟨h.oracle, m⟩ entry exit e = .ok p') :
    p'.potential h size depth ≤ p.potential h size depth ∧ p'.Bounded g size depth := by
  have hcarried : (e.branch.carry entry exit).state.Within size depth := by
    have hfrom : (if e.branch.isExceptional then entry else exit).Within size depth := by
      split
      · exact hentry
      · exact hexit
    exact ⟨(congrArg Prod.fst (TypeState.frame_follow _ _)).trans hfrom.1, TypeState.follow_shallow hfrom.2 he⟩
  obtain ⟨-, ⟨rfl, -⟩ | ⟨b, b', hb, hreceive, hblocks, -⟩⟩ := propagate_cases hpropagate
  · exact ⟨Nat.le_refl _, hp⟩
  · obtain ⟨hle, hin⟩ := BlockState.potential_receive hh hacyclic (hp.entry _ b hb) hcarried hreceive
    have hset : p'.potential h size depth + b.potential h size depth = _ := potential_set hb hblocks
    exact ⟨by omega, hp.set hin hblocks⟩

theorem potential_propagateAll {edges : List Edge} (hentry : entry.Within size depth) (hexit : exit.Within size depth)
    (hedges : ∀ e ∈ edges, ∀ t ∈ e.branch.types, t.dims ≤ depth) (hp : p.Bounded g size depth)
    (hpropagate : edges.foldlM (propagate ⟨h.oracle, m⟩ entry exit) p = .ok p') :
    p'.potential h size depth ≤ p.potential h size depth ∧ p'.Bounded g size depth := by
  refine foldlM_preserves (P := fun q => q.potential h size depth ≤ p.potential h size depth ∧ q.Bounded g size depth)
    (fun e he p₁ p₂ hp₁ hp₂ => ?_) ⟨Nat.le_refl _, hp⟩ hpropagate
  obtain ⟨hle, hbounded⟩ := hp₁
  obtain ⟨hle', hbounded'⟩ := potential_propagate hh hacyclic hentry hexit (hedges e he) hbounded hp₂
  exact ⟨hle'.trans hle, hbounded'⟩

/-- A pass over a pending block uses up some of the potential. -/
theorem potential_visit (hg : g.Shallow depth) (hp : p.Bounded g size depth) (hpending : p.isPending n = true)
    (hvisit : p.visit ⟨h.oracle, m⟩ g n = .ok p') :
    p'.potential h size depth < p.potential h size depth ∧ p'.Bounded g size depth := by
  obtain ⟨b, hb, hstatus⟩ := isPending_iff.1 hpending
  have hn : n < p.blocks.size := (Array.getElem?_eq_some_iff.1 hb).1
  obtain ⟨-, hnone | hnone⟩ | ⟨node, b', b₁, e, exit, p₁, hnode, hb', hblocks, he, he₁, hstatus₁, hchain, hinstrs,
    hfold⟩ := visit_eq_ok hvisit
  · rw [hp.blocks] at hn
    rw [Array.getElem?_eq_getElem hn] at hnone
    cases hnone
  · rw [hb] at hnone
    cases hnone
  obtain rfl : b = b' := Option.some.inj (hb.symm.trans hb')
  have hmem := Array.mem_of_getElem? hnode
  have hin : e.Within size depth := hp.entry n b hb e he
  have hin₁ : ∀ e' ∈ b₁.entry, e'.Within size depth := by
    rw [he₁]
    rintro e' ⟨⟩
    exact hin
  have hexit : exit.Within size depth := by
    refine ⟨(congrArg Prod.fst hchain.frame_eq).trans hin.1,
      hchain.shallow hin.2 fun st hst => hg.instrs node hmem _ ?_⟩
    rw [← hinstrs]
    exact List.mem_map_of_mem hst
  have hedges : ∀ edge ∈ g.outgoing n, ∀ t ∈ edge.branch.types, t.dims ≤ depth := by
    intro edge hedge
    exact hg.edges node hmem edge (by simpa [FlowGraph.outgoing, hnode] using hedge)
  -- the block is stable now, and the edges raise nothing
  have hset : p₁.potential h size depth + b.potential h size depth = _ := potential_set hb hblocks
  rw [BlockState.potential_of_entry he, BlockState.potential_of_entry he₁, hstatus, hstatus₁] at hset
  obtain ⟨hle, hbounded⟩ :=
    potential_propagateAll hh hacyclic hin hexit hedges (hp.set hin₁ hblocks) hfold
  simp only [reduceCtorEq, if_true, if_false] at hset
  exact ⟨by omega, hbounded⟩

end

/-- The loop of passes: pending blocks are visited until none is left or a visit fails, and the visits are counted. -/
inductive Runs (ctx : Context) (g : FlowGraph) (order : List Nat) : Progress → Nat → Except Failure Progress → Prop
  | done {p : Progress} : order.find? p.isPending = none → Runs ctx g order p 0 (.ok p)
  | failed {p : Progress} {n : Nat} {f : Failure} : order.find? p.isPending = some n → p.visit ctx g n = .error f →
      Runs ctx g order p 1 (.error f)
  | next {p p' : Progress} {n visits : Nat} {r : Except Failure Progress} : order.find? p.isPending = some n →
      p.visit ctx g n = .ok p' → Runs ctx g order p' visits r → Runs ctx g order p (visits + 1) r

/-- A limit that is not below the number of visits makes no difference. -/
theorem Runs.solve_eq {ctx : Context} {order : List Nat} {visits : Nat} {r : Except Failure Progress}
    (hruns : Runs ctx g order p visits r) {limit : Nat} (hlimit : visits ≤ limit) :
    solve ctx g order limit p = r := by
  induction hruns generalizing limit with
  | done hnone =>
    cases limit with
    | zero => rfl
    | succ limit => rw [solve, hnone]
  | failed hsome hvisit =>
    cases limit with
    | zero => cases hlimit
    | succ limit =>
      rw [solve, hsome]
      dsimp only
      rw [hvisit]
      rfl
  | next hsome hvisit _ ih =>
    cases limit with
    | zero => cases hlimit
    | succ limit =>
      rw [solve, hsome]
      dsimp only
      rw [hvisit]
      exact ih (Nat.le_of_succ_le_succ hlimit)

theorem exists_runs (hh : h.Closed) (hacyclic : h.Acyclic) (hg : g.Shallow depth) (order : List Nat)
    (hp : p.Bounded g size depth) :
    ∃ visits ≤ p.potential h size depth, ∃ r, Runs ⟨h.oracle, m⟩ g order p visits r := by
  induction hpot : p.potential h size depth using Nat.strong_induction_on generalizing p with
  | _ k ih =>
    subst hpot
    cases hfind : order.find? p.isPending with
    | none => exact ⟨0, Nat.zero_le _, _, .done hfind⟩
    | some n =>
      have hpending : p.isPending n = true := by simpa using List.find?_some hfind
      cases hvisit : p.visit ⟨h.oracle, m⟩ g n with
      | error f => exact ⟨1, potential_pos hpending, _, .failed hfind hvisit⟩
      | ok p' =>
        obtain ⟨hlt, hp'⟩ := potential_visit hh hacyclic hg hp hpending hvisit
        obtain ⟨visits, hvisits, r, hruns⟩ := ih _ hlt hp' rfl
        exact ⟨visits + 1, by omega, r, .next hfind hvisit hruns⟩

theorem Bounded.start {s : TypeState} (hs : s.Within size depth) (n : Nat) : (start g n s).Bounded g size depth := by
  let unvisited : Progress := ⟨Array.replicate g.size {}, {}, #[]⟩
  have hunvisited : unvisited.Bounded g size depth := by
    refine ⟨Array.size_replicate, fun k b hb e he => ?_⟩
    rw [Array.getElem?_replicate] at hb
    split at hb
    · cases hb
      cases he
    · cases hb
  have hentry : ∀ e ∈ (⟨some s, .pending, 0, []⟩ : BlockState).entry, e.Within size depth := by
    rintro e ⟨⟩
    exact hs
  exact hunvisited.set hentry rfl

theorem potential_le (hh : h.Closed) (hp : p.Bounded g size depth) :
    p.potential h size depth ≤ g.size * ((size + 2) * (h.height depth + 1) + 1) := by
  have hsum := List.sum_le_card_nsmul (p.blocks.toList.map (·.potential h size depth))
    ((size + 2) * (h.height depth + 1) + 1) (by
      intro k hk
      obtain ⟨b, hb, rfl⟩ := List.mem_map.1 hk
      obtain ⟨n, hn⟩ := Array.mem_iff_getElem?.1 (Array.mem_def.2 hb)
      exact BlockState.potential_le hh (hp.entry n b hn))
  rwa [List.length_map, Array.length_toList, hp.blocks, smul_eq_mul] at hsum

end Progress

end

/-! ### Methods -/

theorem Code.length_blocks_le (c : Code) : c.blocks.length ≤ c.instrs.length := by
  rw [← c.flatMap_instrs_blocks, List.length_flatMap]
  have hsum := List.card_nsmul_le_sum (c.blocks.map fun b => b.instrs.length) 1 (by
    intro k hk
    obtain ⟨b, -, rfl⟩ := List.mem_map.1 hk
    exact Nat.succ_pos _)
  simpa using hsum

theorem TypeState.size_initial {m : Method} {c : Code} {s : TypeState} (hs : initial m c = .ok s) :
    s.size = c.registersSize := by
  obtain ⟨-, args, htypes, hlen, -⟩ := initial_eq_ok hs
  rw [← length_types, htypes, List.length_append, hlen, List.length_replicate]
  have := c.insSize_le
  omega

theorem Method.shallow_graph {m : Method} {c : Code} {g : FlowGraph} (hc : m.code = some c)
    (hg : FlowGraph.ofCode c = .ok g) : g.Shallow m.depth := by
  refine ⟨fun node hnode i hi t ht => ?_, fun node hnode e he t ht => ?_⟩
  · obtain ⟨n, hn⟩ := Array.mem_iff_getElem?.1 hnode
    exact dims_le_depth (types_of_instr hc (FlowGraph.mem_instrs hg hn hi) t ht)
  · obtain ⟨n, hn⟩ := Array.mem_iff_getElem?.1 hnode
    exact dims_le_depth (types_of_edge hc hg hn he t ht)

theorem Method.within_initial {m : Method} {c : Code} {s : TypeState} (hs : TypeState.initial m c = .ok s) :
    s.Within c.registersSize m.depth := by
  refine ⟨TypeState.size_initial hs, TypeState.initial_shallow hs (dims_le_depth ?_) fun t ht => dims_le_depth ?_⟩
  · exact List.mem_append_left _ List.mem_cons_self
  · exact List.mem_append_left _ (List.mem_cons_of_mem _ (List.mem_cons_of_mem _ ht))

namespace Dataflow
variable {o : ClassOracle} {m : Method} {c : Code} {g : FlowGraph} {entry : Nat} {s : TypeState}

theorem compute_eq (hg : FlowGraph.ofCode c = .ok g) (hentry : g.entry = .ok entry)
    (hs : TypeState.initial m c = .ok s) (limit : Nat) :
    compute o limit m c =
      Progress.solve ⟨o, m.descriptor⟩ g (g.reversePostorder entry) limit (.start g entry s) >>= ofProgress g := by
  have hparts : (do
      let g ← FlowGraph.ofCode c
      let entry ← g.entry
      let s ← (TypeState.initial m c).mapError .typing
      return (g, entry, s) : Except AnalysisError (FlowGraph × Nat × TypeState)) = .ok (g, entry, s) := by
    rw [hg]
    show (g.entry >>= _) = _
    rw [hentry, hs]
    rfl
  have hlt := FlowGraph.entry_lt hentry
  rw [← Worklist.run_start hg hlt (FlowGraph.depthFirst_reversePostorder hg hlt)]
  unfold compute
  dsimp only
  rw [hparts]

/-- The method is refused before the first pass. -/
def Refused (m : Method) (c : Code) (e : AnalysisError) : Prop :=
  FlowGraph.ofCode c = .error e ∨ (∃ g, FlowGraph.ofCode c = .ok g ∧ g.entry = .error e) ∨
    ∃ cause, TypeState.initial m c = .error cause ∧ e = .typing cause

theorem refused_or_parts (o : ClassOracle) (m : Method) (c : Code) :
    (∃ e, Refused m c e ∧ ∀ limit, compute o limit m c = .error ⟨e, #[]⟩) ∨
      ∃ g entry s, FlowGraph.ofCode c = .ok g ∧ g.entry = .ok entry ∧ TypeState.initial m c = .ok s := by
  unfold compute
  cases hg : FlowGraph.ofCode c with
  | error e => exact .inl ⟨e, .inl hg, fun _ => rfl⟩
  | ok g =>
    cases hentry : g.entry with
    | error e => exact .inl ⟨e, .inr (.inl ⟨g, hg, hentry⟩), fun _ => by simp only [bind, Except.bind, hentry]⟩
    | ok entry =>
      cases hs : TypeState.initial m c with
      | error cause =>
        refine .inl ⟨.typing cause, .inr (.inr ⟨cause, hs, rfl⟩), fun _ => ?_⟩
        simp only [bind, Except.bind, hentry, Except.mapError]
      | ok s => exact .inr ⟨g, entry, s, rfl, hentry, rfl⟩

/-- Passes are made over a graph from an initial state; without one of them the limit does not matter. -/
theorem compute_cases (o : ClassOracle) (m : Method) (c : Code) :
    (∃ f, ∀ limit, compute o limit m c = .error f) ∨
      ∃ g entry s, FlowGraph.ofCode c = .ok g ∧ g.entry = .ok entry ∧ TypeState.initial m c = .ok s :=
  (refused_or_parts o m c).imp_left fun ⟨e, _, hrefused⟩ => ⟨⟨e, #[]⟩, hrefused⟩

end Dataflow

namespace Hierarchy
variable {h : Hierarchy} {m : Method} {c : Code} {g : FlowGraph} {s : TypeState}

/-- The loop ends for every method, after no more passes than the limit allows. -/
theorem exists_runs_start (hh : h.Closed) (hacyclic : h.Acyclic) (hc : m.code = some c)
    (hg : FlowGraph.ofCode c = .ok g) (hs : TypeState.initial m c = .ok s) (order : List Nat) (entry : Nat) :
    ∃ visits ≤ h.passLimit m, ∃ r, Progress.Runs ⟨h.oracle, m.descriptor⟩ g order (.start g entry s) visits r := by
  have hbounded : (Progress.start g entry s).Bounded g c.registersSize m.depth :=
    .start (Method.within_initial hs) entry
  obtain ⟨visits, hvisits, r, hruns⟩ :=
    Progress.exists_runs (m := m.descriptor) hh hacyclic (Method.shallow_graph hc hg) order hbounded
  have hsize : g.size ≤ c.instrs.length := by
    rw [FlowGraph.size_ofCode hg]
    exact c.length_blocks_le
  refine ⟨visits, ?_, r, hruns⟩
  calc visits ≤ (Progress.start g entry s).potential h c.registersSize m.depth := hvisits
    _ ≤ g.size * ((c.registersSize + 2) * (h.height m.depth + 1) + 1) := Progress.potential_le hh hbounded
    _ ≤ c.instrs.length * ((c.registersSize + 2) * (h.height m.depth + 1) + 1) := Nat.mul_le_mul_right _ hsize
    _ = h.passLimit m := by rw [passLimit, hc, Option.elim_some, Nat.add_comm 1]

/-- Over an acyclic hierarchy, the loop of passes ends and verification looks at what it leaves, so that a higher limit
on the passes makes no difference. -/
theorem verify_terminates {classes : List ClassDef} (hh : ofClasses classes = .ok h) (hacyclic : h.Acyclic)
    (m : Method) :
    (∀ limit, h.passLimit m ≤ limit → Verification.within h.oracle limit m = h.verify m) ∧
      ∀ c g entry s, m.code = some c → FlowGraph.ofCode c = .ok g → g.entry = .ok entry →
        TypeState.initial m c = .ok s → ∃ visits ≤ h.passLimit m, ∃ r,
          Progress.Runs ⟨h.oracle, m.descriptor⟩ g (g.reversePostorder entry) (.start g entry s) visits r ∧
            Dataflow.compute h.oracle (h.passLimit m) m c = r >>= Dataflow.ofProgress g := by
  have hclosed := closed_ofClasses hh
  refine ⟨fun limit hlimit => ?_, fun c g entry s hc hg hentry hs => ?_⟩
  · unfold verify Verification.within
    split
    · rfl
    · next c hc =>
      obtain ⟨f, hf⟩ | ⟨g, entry, s, hg, hentry, hs⟩ := Dataflow.compute_cases h.oracle m c
      · rw [hf, hf]
      · obtain ⟨visits, hvisits, r, hruns⟩ :=
          exists_runs_start hclosed hacyclic hc hg hs (g.reversePostorder entry) entry
        rw [Dataflow.compute_eq hg hentry hs, Dataflow.compute_eq hg hentry hs, hruns.solve_eq hvisits,
          hruns.solve_eq (hvisits.trans hlimit)]
  · obtain ⟨visits, hvisits, r, hruns⟩ :=
      exists_runs_start hclosed hacyclic hc hg hs (g.reversePostorder entry) entry
    refine ⟨visits, hvisits, r, hruns, ?_⟩
    rw [Dataflow.compute_eq hg hentry hs, hruns.solve_eq hvisits]

/-! A loop that goes down into an array of arrays, and is entered again when it goes too far. The superclass of the
elements is not registered. -/

def kennel : Hierarchy where
  classes := [⟨.object "Dog", 1, some (.object "Animal"), [], [], none⟩, ⟨.javaLangObject, 1, none, [], [], none⟩]
  links := [⟨.object "Dog", .javaLangObject⟩]

theorem acyclic_kennel : kennel.Acyclic := by
  have hlinks : kennel.links.all (fun l => l.source ∉ kennel.ancestors l.target) = true := by cbv
  rw [acyclic_iff]
  simpa using hlinks

def descendingCode : Code where
  __ := Code.ofInstrs 0 2 (.ifTestZero .eq 1 6) [.aget .object 0 0 1, .goto 0, .returnVoid]
  tries := [⟨2, 4, [⟨.object "java/lang/RuntimeException", 0⟩], none⟩]
  try_nonempty := by simp

def descendingMethod : Method where
  descriptor := ⟨.object "Kennel", "descend", [⟨2, .object "Dog"⟩, .prim .int], .void⟩
  flags := Flags.static
  code := some descendingCode

def descendingGraph : FlowGraph where
  nodes := #[
    ⟨⟨.plain 0 2 (.ifTestZero .eq 1 6), []⟩, [⟨.ifTrue 1 .eq .zero, 3⟩, ⟨.ifFalse 1 .eq .zero, 1⟩]⟩,
    ⟨⟨.plain 2 4 (.aget .object 0 0 1), []⟩,
      [⟨.arrayAccessSuccess, 2⟩, ⟨.caught (.object "java/lang/RuntimeException"), 0⟩]⟩,
    ⟨⟨.plain 4 6 (.goto 0), []⟩, [⟨.jump, 0⟩]⟩,
    ⟨⟨.plain 6 7 .returnVoid, []⟩, []⟩]

theorem ofCode_descendingCode : FlowGraph.ofCode descendingCode = .ok descendingGraph := rfl

theorem verify_terminates_descending :
    ∃ s, TypeState.initial descendingMethod descendingCode = .ok s ∧ ∃ visits ≤ 436, ∃ r,
      Progress.Runs ⟨kennel.oracle, descendingMethod.descriptor⟩ descendingGraph (descendingGraph.reversePostorder 0)
        (.start descendingGraph 0 s) visits r ∧
          Dataflow.compute kennel.oracle 436 descendingMethod descendingCode =
            r >>= Dataflow.ofProgress descendingGraph := by
  have hclasses : ofClasses [⟨.object "Dog", 1, some (.object "Animal"), [], [], none⟩] = .ok kennel := rfl
  obtain ⟨-, hruns⟩ := verify_terminates hclasses acyclic_kennel descendingMethod
  exact ⟨_, rfl, hruns descendingCode descendingGraph 0 _ rfl ofCode_descendingCode rfl rfl⟩

end Hierarchy
end Dalvik
