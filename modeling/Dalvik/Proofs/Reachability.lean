import Dalvik.Proofs.Edges
import Dalvik.Proofs.Passes
import Dalvik.Proofs.Worklist

/-!
# Reachable code

Which instructions are reached is decided by the listing alone (`Code.Flow`): an instruction leads to the next one, to
the targets of its branches and to its handlers. The flow graph has the same flow between blocks, and states come to
the blocks that it leads to and to no other ones, whatever the states are. So states are recorded for the
reachable instructions exactly (`Verification.reaches_exactly`).
-/

namespace Dalvik

/-- The second instruction may be executed right after the first one. -/
inductive Code.Flow (c : Code) : LabeledInstr → LabeledInstr → Prop
  | next {i j : LabeledInstr} : i.branching = [] → i.instr.doesReturn = false → i.instr.isThrow = false →
      c.Follows i j → Flow c i j
  | branch {i j : LabeledInstr} {b : Branch} : i ∈ c.instrs → j ∈ c.instrs → (b, j.address) ∈ i.branching → Flow c i j
  | handler {i j : LabeledInstr} {t : TryItem} {h : Handler} : i ∈ c.instrs → j ∈ c.instrs → i.instr.canThrow = true →
      c.FirstCovering i.address t → h ∈ t.handlers → h.target = j.address → Flow c i j
  | catchAll {i j : LabeledInstr} {t : TryItem} : i ∈ c.instrs → j ∈ c.instrs → i.instr.canThrow = true →
      c.FirstCovering i.address t → t.catchAll = some j.address → Flow c i j

/-- The instruction may be executed, if the method is. -/
def Code.Reaches (c : Code) (i : LabeledInstr) : Prop :=
  ∃ i₀ ∈ c.instrs, i₀.address = Address.entry ∧ Relation.ReflTransGen c.Flow i₀ i

namespace Code
variable {c : Code} {i j : LabeledInstr} {b : Block}

theorem mem_sequel {x : Branch × Address} : x ∈ c.sequel i ↔
    (i.branching.isEmpty ∧ i.instr.doesReturn = false ∧ i.instr.isThrow = false ∧
      i.address ≠ (c.instrs.getLast c.instrs_ne_nil).address) ∧ x = (.sequence, i.next) := by
  unfold sequel
  split
  · next h => rw [List.mem_singleton, and_iff_right h]
  · next h => exact ⟨fun hx => absurd hx List.not_mem_nil, fun hx => absurd hx.1 h⟩

theorem flow_iff : c.Flow i j ↔ i ∈ c.instrs ∧ j ∈ c.instrs ∧ ∃ x ∈ c.exits i, x.2 = j.address := by
  simp only [exits, List.mem_append]
  constructor
  · intro h
    cases h with
    | next hbranching hreturn hthrow hfollows =>
      refine ⟨hfollows.mem_left, hfollows.mem_right, (.sequence, i.next), .inl (.inl ?_), hfollows.next_eq⟩
      exact mem_sequel.2 ⟨⟨by simp [hbranching], hreturn, hthrow, hfollows.address_ne_getLast⟩, rfl⟩
    | branch hi hj hb => exact ⟨hi, hj, _, .inl (.inr hb), rfl⟩
    | @handler _ h hi hj ht hcov hh haddr =>
      refine ⟨hi, hj, (.caught h.type, h.target), .inr ?_, haddr⟩
      rw [catches_eq ht hcov]
      exact TryItem.mem_branches.2 (.inl ⟨h, hh, rfl⟩)
    | catchAll hi hj ht hcov ha =>
      refine ⟨hi, hj, (.caughtAny, j.address), .inr ?_, rfl⟩
      rw [catches_eq ht hcov]
      exact TryItem.mem_branches.2 (.inr ⟨_, ha, rfl⟩)
  · rintro ⟨hi, hj, x, (hx | hx) | hx, haddr⟩
    · obtain ⟨⟨hbranching, hreturn, hthrow, -⟩, rfl⟩ := mem_sequel.1 hx
      exact .next (by simpa using hbranching) hreturn hthrow (.of_next hi hj haddr)
    · exact .branch (b := x.1) hi hj (haddr ▸ hx)
    · have hraises := c.raises_catches i
      generalize c.catches i = raised at hraises hx
      cases hraises with
      | never | uncaught => exact absurd hx List.not_mem_nil
      | caught ht hcov =>
        rcases TryItem.mem_branches.1 hx with ⟨h, hh, rfl⟩ | ⟨a, ha, rfl⟩
        · exact .handler hi hj ht hcov hh haddr
        · exact .catchAll hi hj ht hcov (haddr ▸ ha)

/-- Inside a block, control goes on to the next instruction and nowhere else. -/
theorem flow_of_block (hb : b ∈ c.blocks) {is js : List LabeledInstr} (h : b.instrs = is ++ i :: j :: js) :
    c.Flow i j := by
  obtain ⟨hbranching, hcan, hreturn⟩ := LabeledInstr.endsBlock_eq_false_iff.1 (endsBlock_eq_false hb h)
  refine .next hbranching hreturn ?_ (follows_of_block hb h)
  cases hi : i.instr <;> simp_all [Instr.isThrow, Instr.canThrow]

theorem exits_of_block (hb : b ∈ c.blocks) {is js : List LabeledInstr} (h : b.instrs = is ++ i :: j :: js) :
    c.exits i = [(.sequence, j.address)] := by
  have hexits : c.exits i = c.sequel i := by
    rw [exits, List.append_assoc, branches_eq_nil (endsBlock_eq_false hb h), List.append_nil]
  obtain ⟨-, -, x, hx, -⟩ := flow_iff.1 (flow_of_block hb h)
  rw [hexits] at hx ⊢
  rw [sequel, if_pos (mem_sequel.1 hx).1, (follows_of_block hb h).next_eq]

theorem flow_first (hb : b ∈ c.blocks) (hi : i ∈ b.instrs) : Relation.ReflTransGen c.Flow b.first i := by
  -- from the first instruction on, one after the other
  have hbefore : ∀ is js, b.instrs = is ++ js → ∀ k ∈ is, Relation.ReflTransGen c.Flow b.first k := by
    intro is
    induction is using List.reverseRecOn with
    | nil => simp
    | append_singleton is k ih =>
      intro js hsplit k' hk'
      rw [List.append_assoc] at hsplit
      rcases List.mem_append.1 hk' with hk' | hk'
      · exact ih _ hsplit k' hk'
      · rw [List.mem_singleton.1 hk']
        rcases List.eq_nil_or_concat is with rfl | ⟨is', l, rfl⟩
        · rw [Block.instrs, List.nil_append, List.singleton_append, List.cons.injEq] at hsplit
          rw [hsplit.1]
        · have hl := ih _ hsplit l (by simp)
          have hsplit' : b.instrs = is' ++ l :: k :: js := by
            rw [hsplit]
            simp
          exact hl.tail (flow_of_block hb hsplit')
  exact hbefore b.instrs [] (List.append_nil _).symm i hi

end Code

namespace FlowGraph
variable {c : Code} {g : FlowGraph} {n n' entry : Nat} {node target : Node} {i j : LabeledInstr}

/-- An edge of a block is an exit of its last instruction. -/
theorem exit_of_edge (hg : ofCode c = .ok g) (hn : g.nodes[n]? = some node) {e : Edge} (he : e ∈ node.edges)
    (htarget : g.nodes[e.target]? = some target) : (e.branch, target.block.start) ∈ c.exits node.block.last := by
  have harrival : g.arrival e ∈ node.edges.map g.arrival := List.mem_map_of_mem he
  rw [arrival_edges hg hn, List.mem_map] at harrival
  obtain ⟨⟨b, a⟩, hx, heq⟩ := harrival
  rw [arrival, htarget] at heq
  cases heq
  exact hx

theorem edge_of_exit (hg : ofCode c = .ok g) (hn : g.nodes[n]? = some node) {b : Branch} {a : Address}
    (h : (b, a) ∈ c.exits node.block.last) :
    ∃ e ∈ node.edges, e.branch = b ∧ ∃ target, g.nodes[e.target]? = some target ∧ target.block.start = a := by
  have harrival : (b, some a) ∈ node.edges.map g.arrival := by
    rw [arrival_edges hg hn]
    exact List.mem_map_of_mem h
  obtain ⟨e, he, heq⟩ := List.mem_map.1 harrival
  obtain ⟨target, htarget, hstart⟩ := Option.map_eq_some_iff.1 (congrArg Prod.snd heq)
  exact ⟨e, he, congrArg Prod.fst heq, target, htarget, hstart⟩

theorem flow_of_edge (hg : ofCode c = .ok g) (hn : g.nodes[n]? = some node) {e : Edge} (he : e ∈ node.edges)
    (htarget : g.nodes[e.target]? = some target) : c.Flow node.block.last target.block.first := by
  have hexit := exit_of_edge hg hn he htarget
  rw [Code.flow_iff]
  exact ⟨mem_instrs hg hn node.block.last_mem, mem_instrs hg htarget target.block.first_mem, _, hexit, rfl⟩

theorem exists_node (hg : ofCode c = .ok g) (hi : i ∈ c.instrs) :
    ∃ (n : Nat) (node : Node), g.nodes[n]? = some node ∧ i ∈ node.block.instrs := by
  obtain ⟨b, hb, hib⟩ := Code.exists_block hi
  rw [← blocks_ofCode hg, blocks, List.mem_map] at hb
  obtain ⟨node, hnode, rfl⟩ := hb
  obtain ⟨n, hn⟩ := Array.mem_iff_getElem?.1 (Array.mem_def.2 hnode)
  exact ⟨n, node, hn, hib⟩

theorem reaches_of_first (hg : ofCode c = .ok g) (hn : g.nodes[n]? = some node) (hfirst : c.Reaches node.block.first)
    (hi : i ∈ node.block.instrs) : c.Reaches i := by
  obtain ⟨i₀, hi₀, haddr, hflow⟩ := hfirst
  exact ⟨i₀, hi₀, haddr, hflow.trans (Code.flow_first (block_mem hg hn) hi)⟩

/-- The instructions of the blocks that the graph leads to are reachable. -/
theorem reaches_of_leads (hg : ofCode c = .ok g) (hentry : g.entry = .ok entry)
    (h : Relation.ReflTransGen g.Leads entry n) (hn : g.nodes[n]? = some node) (hi : i ∈ node.block.instrs) :
    c.Reaches i := by
  induction h generalizing node i with
  | refl =>
    obtain ⟨node', hn', hstart⟩ := entry_eq_ok hentry
    cases hn.symm.trans hn'
    exact reaches_of_first hg hn ⟨_, mem_instrs hg hn node.block.first_mem, hstart, .refl⟩ hi
  | @tail k k' _ hlead ih =>
    obtain ⟨e, he, rfl⟩ := hlead
    obtain ⟨source, hsource⟩ : ∃ source, g.nodes[k]? = some source := by
      cases hk : g.nodes[k]? with
      | none => simp [outgoing, hk] at he
      | some source => exact ⟨source, rfl⟩
    obtain ⟨i₀, hi₀, haddr, hflow⟩ := ih hsource source.block.last_mem
    have hstep := flow_of_edge hg hsource ((mem_outgoing hsource).1 he) hn
    exact reaches_of_first hg hn ⟨i₀, hi₀, haddr, hflow.tail hstep⟩ hi

end FlowGraph

/-- The block is reached if a state has come to it, and has been passed over if it is stable. -/
structure BlockState.Visited (g : FlowGraph) (entry n : Nat) (b : BlockState) : Prop where
  leads : b.entry.isSome = true → Relation.ReflTransGen g.Leads entry n
  unvisited : b.status = .unvisited ↔ b.entry = none
  counted : b.status = .stable → 1 ≤ b.visits

theorem BlockState.Visited.reached (g : FlowGraph) (entry : Nat) (s : TypeState) :
    Visited g entry entry { entry := some s, status := .pending } := ⟨fun _ => .refl, by simp, fun h => (nomatch h)⟩

theorem BlockState.Visited.fresh (g : FlowGraph) (entry n : Nat) : Visited g entry n {} :=
  ⟨fun h => (nomatch h), by simp, fun h => (nomatch h)⟩

theorem BlockState.Visited.kept (ctx : Context) (g : FlowGraph) (entry : Nat) :
    Progress.Kept ctx g (BlockState.Visited g entry) where
  pass n b steps he hb := by
    refine ⟨hb.leads, ?_, fun _ => Nat.succ_pos _⟩
    rw [Option.isSome_iff_ne_none] at he
    simp [passed, he]
  receive n b₀ s exit hb₀ hs _ e he _ b b' hb hreceive := by
    have hleads := (hb₀.leads (by rw [hs]; rfl)).tail ⟨e, he, rfl⟩
    obtain ⟨-, rfl⟩ | ⟨old, joined, hold, -, rfl⟩ := receive_cases hreceive
    · exact ⟨fun _ => hleads, by simp, fun h => (nomatch h)⟩
    · have hstatus : b.status ≠ .unvisited := by simp [hb.unvisited, hold]
      refine ⟨fun _ => hleads, ?_, fun h => hb.counted ?_⟩
      · dsimp only
        split <;> simp [hstatus]
      · dsimp only at h
        split at h
        · exact h
        · cases h

theorem Progress.visited_of_solve {ctx : Context} {g : FlowGraph} {entry limit : Nat} {s₀ : TypeState}
    {order : List Nat} {p : Progress} (h : solve ctx g order limit (.start g entry s₀) = .ok p) :
    p.All (BlockState.Visited g entry) :=
  (BlockState.Visited.kept ctx g entry).solve (.start (.reached g entry s₀) (.fresh g entry)) h

/-! ### Recorded instructions -/

namespace Dataflow
variable {ctx : Context} {c : Code} {g : FlowGraph} {s₀ : TypeState} {p : Progress} {d : Dataflow} {entry n : Nat}
  {node : Node} {b : BlockState} {i : LabeledInstr} {st : Step}

def entryState? (d : Dataflow) (a : Address) : Option TypeState := (d.at? a).map Step.before

def exitState? (d : Dataflow) (a : Address) : Option TypeState := (d.at? a).map Step.after

/-- What a recorded instruction carries along a branch has flowed into what is recorded where the branch leads. -/
theorem Solution.along_exit (h : Solution ctx c g s₀ d) (hg : FlowGraph.ofCode c = .ok g) (hst : st ∈ d.steps)
    {b : Branch} {a : Address} (hexit : (b, a) ∈ c.exits st.instr) :
    (b.carry st.before st.after).failure = none ∧ ∃ st' ∈ d.steps, st'.instr.address = a ∧
      (b.carry st.before st.after).state.FlowsInto ctx.oracle st'.before := by
  obtain ⟨n, node, hn, hmem⟩ := FlowGraph.exists_node hg (h.mem_instrs hst)
  have hnode := Array.mem_of_getElem? hn
  obtain ⟨is, js, hsplit⟩ := List.append_of_mem hmem
  cases js with
  | nil =>
    have hlast := Block.eq_last_of_split hsplit
    rw [hlast] at hexit
    obtain ⟨e, he, rfl, target, htarget, rfl⟩ := FlowGraph.edge_of_exit hg hn hexit
    obtain ⟨target', s, htarget', hcarry, st', hst', hinstr, hflow⟩ := h.along node hnode e he st hst hlast
    cases htarget.symm.trans htarget'
    rw [hcarry]
    exact ⟨rfl, st', hst', by rw [hinstr]; rfl, hflow⟩
  | cons j js =>
    -- inside a block, the state goes on as it is
    rw [Code.exits_of_block (FlowGraph.block_mem hg hn) hsplit, List.mem_singleton] at hexit
    cases hexit
    obtain ⟨st', hst', hinstr, hbefore⟩ := h.within node hnode is _ j js hsplit st hst rfl
    exact ⟨rfl, st', hst', by rw [hinstr], hbefore ▸ .refl _⟩

/-- States come to every instruction that is reachable. -/
theorem Solution.recorded_of_reaches (h : Solution ctx c g s₀ d) (hg : FlowGraph.ofCode c = .ok g) (hi : c.Reaches i) :
    ∃ st ∈ d.steps, st.instr = i := by
  obtain ⟨i₀, hi₀, haddr, hflow⟩ := hi
  induction hflow with
  | refl =>
    obtain ⟨st, hst, hentry, -⟩ := h.start
    exact ⟨st, hst, Code.eq_of_address (h.mem_instrs hst) hi₀ (hentry.trans haddr.symm)⟩
  | tail _ hstep ih =>
    obtain ⟨st, hst, rfl⟩ := ih
    obtain ⟨-, hk, ⟨b, a⟩, hexit, haddr⟩ := Code.flow_iff.1 hstep
    obtain ⟨-, st', hst', haddr', -⟩ := h.along_exit hg hst hexit
    exact ⟨st', hst', Code.eq_of_address (h.mem_instrs hst') hk (haddr'.trans haddr)⟩

theorem reaches_of_entry (hg : FlowGraph.ofCode c = .ok g) (hentry : g.entry = .ok entry)
    (hvisited : p.All (BlockState.Visited g entry)) (hn : g.nodes[n]? = some node) (hb : p.blocks[n]? = some b)
    (hstatus : b.status ≠ .unvisited) (hi : i ∈ node.block.instrs) : c.Reaches i := by
  have hb := hvisited n b hb
  have hsome : b.entry.isSome = true := by
    rw [Option.isSome_iff_ne_none]
    exact fun hnone => hstatus (hb.unvisited.2 hnone)
  exact FlowGraph.reaches_of_leads hg hentry (hb.leads hsome) hn hi

/-- The steps of a block are recorded when it is stable, and only then. -/
theorem stable_iff_recorded (hg : FlowGraph.ofCode c = .ok g) (hf : p.Finished ctx g entry s₀) (hrec : d.Records g p)
    (hn : g.nodes[n]? = some node) (hb : p.blocks[n]? = some b) (hi : i ∈ node.block.instrs) :
    b.status = .stable ↔ ∃ st ∈ d.steps, st.instr = i := by
  constructor
  · intro hstatus
    obtain ⟨_, _, _, -, -, -, hinstrs, -⟩ := hf.settled n b node hb hn hstatus
    rw [← hinstrs] at hi
    obtain ⟨st, hst, hinstr⟩ := List.mem_map.1 hi
    exact ⟨st, hrec.mem_steps.2 ⟨n, node, b, hn, hb, hst⟩, hinstr⟩
  · rintro ⟨st, hst, rfl⟩
    obtain ⟨n', node', b', hn', hb', hst'⟩ := hrec.mem_steps.1 hst
    obtain ⟨_, _, _, -, -, -, hinstrs, -⟩ := hf.settled_of_mem hn' hb' hst'
    obtain rfl : n' = n := FlowGraph.eq_of_mem_instrs hg hn' hn (hinstrs ▸ List.mem_map_of_mem hst') hi
    cases hb.symm.trans hb'
    cases hstatus : b.status with
    | unvisited =>
      rw [(hf.fresh n' b hb hstatus).2] at hst'
      cases hst'
    | pending => exact absurd hstatus (hf.done n' b hb)
    | stable => rfl

theorem recorded_iff_reaches (hg : FlowGraph.ofCode c = .ok g) (hentry : g.entry = .ok entry)
    (hf : p.Finished ctx g entry s₀) (hrec : d.Records g p) (hvisited : p.All (BlockState.Visited g entry)) :
    (∃ st ∈ d.steps, st.instr = i) ↔ c.Reaches i := by
  constructor
  · rintro ⟨st, hst, rfl⟩
    obtain ⟨n, node, b, hn, hb, hmem⟩ := hrec.mem_steps.1 hst
    obtain ⟨_, _, _, -, -, -, hinstrs, -⟩ := hf.settled_of_mem hn hb hmem
    have hi : st.instr ∈ node.block.instrs := hinstrs ▸ List.mem_map_of_mem hmem
    have hstable := (stable_iff_recorded hg hf hrec hn hb hi).2 ⟨st, hst, rfl⟩
    exact reaches_of_entry hg hentry hvisited hn hb (by simp [hstable]) hi
  · exact (Solution.of_finished hg hentry hf hrec).recorded_of_reaches hg

theorem at?_isSome (h : Solution ctx c g s₀ d) {a : Address} :
    (d.at? a).isSome = true ↔ ∃ st ∈ d.steps, st.instr.address = a := by
  rw [Option.isSome_iff_exists]
  exact exists_congr fun st => h.at?_eq_some

/-! ### Counted blocks -/

theorem visits_ofProgress (h : ofProgress g p = .ok d) : d.visits = (p.table g).filterMap fun x =>
    if x.2.status = .stable then some (x.1.start, x.2.visits) else none := by
  simp only [ofProgress] at h
  split at h
  · cases h
  · cases h
    rfl

theorem mem_visits (h : ofProgress g p = .ok d) {a : Address} {k : Nat} : (a, k) ∈ d.visits ↔
    ∃ (n : Nat) (node : Node) (b : BlockState), g.nodes[n]? = some node ∧ p.blocks[n]? = some b ∧
      b.status = .stable ∧ node.block.start = a ∧ b.visits = k := by
  rw [visits_ofProgress h, List.mem_filterMap]
  constructor
  · rintro ⟨⟨block, b⟩, hx, hsome⟩
    obtain ⟨n, node, hn, hb, rfl⟩ := Progress.mem_table.1 hx
    split at hsome
    · next hstable =>
      cases hsome
      exact ⟨n, node, b, hn, hb, hstable, rfl, rfl⟩
    · cases hsome
  · rintro ⟨n, node, b, hn, hb, hstable, rfl, rfl⟩
    exact ⟨_, Progress.mem_table.2 ⟨n, node, hn, hb, rfl⟩, if_pos hstable⟩

theorem sublist_map_filterMap {α β γ : Type} {f : α → Option β} {p : β → γ} {q : α → γ} {l : List α}
    (h : ∀ x y, f x = some y → p y = q x) : ((l.filterMap f).map p).Sublist (l.map q) := by
  induction l with
  | nil => simp
  | cons x l ih =>
    cases hx : f x with
    | none =>
      rw [List.filterMap_cons_none hx]
      exact ih.cons _
    | some y =>
      rw [List.filterMap_cons_some hx, List.map_cons, List.map_cons, h x y hx]
      exact ih.cons_cons _

/-- Counted blocks are blocks of the listing in its order, each counted once. -/
theorem sublist_visits (hg : FlowGraph.ofCode c = .ok g) (hsize : p.blocks.size = g.size) (h : ofProgress g p = .ok d) :
    (d.visits.map Prod.fst).Sublist (c.blocks.map Block.start) := by
  have hblocks : c.blocks.map Block.start = (p.table g).map fun x => x.1.start := by
    have hlen : g.blocks.length ≤ p.blocks.toList.length := by
      simp [FlowGraph.blocks, hsize, FlowGraph.size]
    rw [← FlowGraph.blocks_ofCode hg, ← List.map_fst_zip hlen, List.map_map]
    rfl
  rw [visits_ofProgress h, hblocks]
  refine sublist_map_filterMap fun x y hx => ?_
  split at hx
  · cases hx
    rfl
  · cases hx

/-- A block is counted when it is stable. -/
theorem start_mem_visits (hg : FlowGraph.ofCode c = .ok g) (h : ofProgress g p = .ok d) (hn : g.nodes[n]? = some node)
    (hb : p.blocks[n]? = some b) : node.block.start ∈ d.visits.map Prod.fst ↔ b.status = .stable := by
  rw [List.mem_map]
  constructor
  · rintro ⟨⟨a, k⟩, hx, haddr⟩
    obtain ⟨n', node', b', hn', hb', hstable, hstart, -⟩ := (mem_visits h).1 hx
    have hfirst : node'.block.first = node.block.first :=
      Code.eq_of_address (FlowGraph.mem_instrs hg hn' node'.block.first_mem)
        (FlowGraph.mem_instrs hg hn node.block.first_mem) (hstart.trans haddr)
    have hmem : node'.block.first ∈ node.block.instrs := hfirst ▸ node.block.first_mem
    obtain rfl : n' = n := FlowGraph.eq_of_mem_instrs hg hn' hn node'.block.first_mem hmem
    cases hb.symm.trans hb'
    exact hstable
  · intro hstable
    exact ⟨_, (mem_visits h).2 ⟨n, node, b, hn, hb, hstable, rfl, rfl⟩, rfl⟩

/-- States are recorded for the reachable instructions and no other ones, and a block is counted when it is made of
them. -/
structure ReachesExactly (c : Code) (d : Dataflow) : Prop where
  entries : ∀ a, (d.entryState? a).isSome = true ↔ ∃ i, c.Reaches i ∧ i.address = a
  exits : ∀ a, (d.exitState? a).isSome = true ↔ ∃ i, c.Reaches i ∧ i.address = a
  /-- Counted blocks are blocks of the listing in its order, none of them twice. -/
  counted : (d.visits.map Prod.fst).Sublist (c.blocks.map Block.start)
  positive : ∀ x ∈ d.visits, 1 ≤ x.2
  whole : ∀ b ∈ c.blocks, b.start ∈ d.visits.map Prod.fst ↔ ∀ i ∈ b.instrs, c.Reaches i
  part : ∀ b ∈ c.blocks, b.start ∈ d.visits.map Prod.fst ↔ ∃ i ∈ b.instrs, c.Reaches i

theorem reachesExactly_of_finished (hg : FlowGraph.ofCode c = .ok g) (hentry : g.entry = .ok entry)
    (hf : p.Finished ctx g entry s₀) (hvisited : p.All (BlockState.Visited g entry)) (h : ofProgress g p = .ok d) :
    d.ReachesExactly c := by
  have hrec := (ofProgress_eq_ok hf.toInv h).2
  have hsol := Solution.of_finished hg hentry hf hrec
  have hreach : ∀ i, (∃ st ∈ d.steps, st.instr = i) ↔ c.Reaches i := fun i =>
    recorded_iff_reaches hg hentry hf hrec hvisited
  have hat : ∀ a, (d.at? a).isSome = true ↔ ∃ i, c.Reaches i ∧ i.address = a := by
    intro a
    rw [at?_isSome hsol]
    constructor
    · rintro ⟨st, hst, haddr⟩
      exact ⟨st.instr, (hreach _).1 ⟨st, hst, rfl⟩, haddr⟩
    · rintro ⟨i, hi, haddr⟩
      obtain ⟨st, hst, rfl⟩ := (hreach i).2 hi
      exact ⟨st, hst, haddr⟩
  -- one instruction of a block decides about the block
  have hblock : ∀ b ∈ c.blocks, ∀ i ∈ b.instrs, b.start ∈ d.visits.map Prod.fst ↔ c.Reaches i := by
    intro b hb i hi
    obtain ⟨n, node, hn, hmem⟩ := FlowGraph.exists_node hg (Code.mem_instrs_of_block hb hi)
    obtain rfl : node.block = b := Code.block_unique (FlowGraph.block_mem hg hn) hb hmem hi
    obtain ⟨state, hstate⟩ := hf.exists_block hn
    rw [start_mem_visits hg h hn hstate, stable_iff_recorded hg hf hrec hn hstate hi, hreach]
  refine ⟨fun a => ?_, fun a => ?_, sublist_visits hg hf.size h, fun x hx => ?_, fun b hb => ?_, fun b hb => ?_⟩
  · rw [entryState?, Option.isSome_map, hat]
  · rw [exitState?, Option.isSome_map, hat]
  · obtain ⟨n, node, b, -, hb, hstable, -, hk⟩ := (mem_visits h).1 hx
    rw [← hk]
    exact (hvisited n b hb).counted hstable
  · refine ⟨fun h i hi => (hblock b hb i hi).1 h, fun h => ?_⟩
    exact (hblock b hb _ b.first_mem).2 (h _ b.first_mem)
  · refine ⟨fun h => ⟨_, b.first_mem, (hblock b hb _ b.first_mem).1 h⟩, ?_⟩
    rintro ⟨i, hi, hreaches⟩
    exact (hblock b hb i hi).2 hreaches

end Dataflow

namespace Verification

theorem reaches_exactly {o : ClassOracle} {limit : Nat} {m : Method} {v : Verification} {c : Code}
    (hv : within o limit m = .ok v) (hc : m.code = some c) : v.flow.ReachesExactly c := by
  obtain ⟨c', hc', hflow⟩ := within_eq_ok hv
  cases hc.symm.trans hc'
  obtain ⟨g, entry, s₀, p, hg, hentry, -, hp, hd⟩ := Dataflow.compute_eq_ok hflow
  have hf := (Dataflow.finished_of_solve hg hentry hp hd).1
  exact Dataflow.reachesExactly_of_finished hg hentry hf (Progress.visited_of_solve hp) hd

/-! A handler that only an exception leads to, a loop of one instruction, and another one that is not reached. -/

def waitingCode : Code where
  __ := Code.ofInstrs 0 1 (.binaryLit .div 0 0 2) [.goto 2, .goto 4, .moveException 0, .returnVoid]
  tries := [⟨0, 2, [], some 6⟩]
  try_nonempty := by simp

def waitingMethod : Method where
  descriptor := ⟨.object "Kennel", "wait", [.prim .int], .void⟩
  flags := Flags.static
  code := some waitingCode

theorem reaches_exactly_waiting :
    ∃ v, within Hierarchy.empty.oracle 9 waitingMethod = .ok v ∧ v.flow.visits = [(0, 1), (2, 1), (6, 1)] ∧
      v.flow.ReachesExactly waitingCode := by
  have hrun : (within Hierarchy.empty.oracle 9 waitingMethod).toOption.map (·.flow.visits) =
      some [(0, 1), (2, 1), (6, 1)] := by cbv
  obtain ⟨v, hv, hvisits⟩ := exists_ok_of_toOption hrun
  exact ⟨v, hv, hvisits, reaches_exactly hv rfl⟩

end Verification
end Dalvik
