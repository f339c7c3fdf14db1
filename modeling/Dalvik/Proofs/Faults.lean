import Dalvik.Proofs.Errors
import Dalvik.Proofs.Indexing
import Dalvik.Proofs.Reachability

/-!
# The analysis fails for reasons of the method only

Every error of the analysis is one of the method (`AnalysisError.Explained`), and no index that the computation uses is
out of range (`Verification.Blameless`). The loop of passes keeps what this rests on (`Progress.Healthy`): a pending
block has an entry state, so that the entry block leads to it and the order holds it; and all states have the register
file and the declared result that the first one has, so that they can be joined.
-/

namespace Dalvik

/-- A value is declared `void`: an argument of a call, an element of an array or what a handler catches. -/
def Code.DeclaresVoid (c : Code) : Prop :=
  (∃ i ∈ c.instrs, .void ∈ i.instr.valueTypes) ∨ ∃ t ∈ c.tries, ∃ h ∈ t.handlers, h.type = .void

/-- What is wrong with a method that cannot be analysed. -/
def AnalysisError.Explained (m : Method) : AnalysisError → Prop
  | noCode => m.code = none
  | noEntryPoint => ∃ c, m.code = some c ∧ ¬c.HasInstr Address.entry
  | missingTarget branch target source => ∃ c, m.code = some c ∧ ∃ i ∈ c.instrs, i.address = source ∧
      (branch, target) ∈ i.branching ++ c.catches i ∧ ¬c.HasInstr target
  | typing (.badInsSize needed available) => ∃ c, m.code = some c ∧ needed = TypeState.insNeeded m ∧
      available = c.insSize ∧ needed ≠ available
  | typing .voidRegister => .void ∈ m.descriptor.params ∨ ∃ c, m.code = some c ∧ c.DeclaresVoid
  | typing (.outOfBounds r) => ∃ c, m.code = some c ∧ c.registersSize ≤ r
  | typing .incompatibleStates | internal _ | duplicateClass _ => False

theorem Failure.DueTo.explained {m : Method} {c : Code} {f : Failure} (hc : m.code = some c)
    (h : f.DueTo c.registersSize c.DeclaresVoid) : f.error.Explained m := by
  obtain ⟨e, he, h⟩ := h
  rw [he]
  cases e with
  | outOfBounds r => exact ⟨c, hc, h⟩
  | voidRegister => exact .inr ⟨c, hc, h⟩
  | badInsSize | incompatibleStates => exact h.elim

namespace FlowGraph
variable {c : Code} {g : FlowGraph} {e : AnalysisError}

theorem resolve_eq_error {blocks : List Block} {source : Address} {x : Branch × Address}
    (h : resolve blocks source x = .error e) : e = .missingTarget x.1 x.2 source := by
  obtain ⟨branch, target⟩ := x
  rw [resolve] at h
  cases hn : blockIndex? blocks target with
  | some n =>
    rw [hn] at h
    cases h
  | none =>
    rw [hn] at h
    cases h
    rfl

theorem ofCode_eq_error (h : ofCode c = .error e) : ∃ i ∈ c.instrs, ∃ x ∈ i.branching ++ c.catches i,
    e = .missingTarget x.1 x.2 i.address ∧ ¬c.HasInstr x.2 := by
  rcases bind_eq_error.1 h with h | ⟨_, -, h⟩
  swap
  · cases h
  obtain ⟨b, hb, h⟩ := mapM_eq_error h
  rcases bind_eq_error.1 h with h | ⟨_, -, h⟩
  swap
  · cases h
  rcases bind_eq_error.1 h with h | ⟨_, -, h⟩
  swap
  · cases h
  obtain ⟨x, hx, h⟩ := mapM_eq_error h
  have hlast := Code.mem_instrs_of_block hb b.last_mem
  refine ⟨b.last, hlast, x, hx, resolve_eq_error h, fun hinstr => ?_⟩
  obtain ⟨edge, hedge⟩ := (exists_resolve hlast hx).2 hinstr
  cases h.symm.trans hedge

theorem entry_eq_error (hg : ofCode c = .ok g) (h : g.entry = .error e) :
    e = .noEntryPoint ∧ ¬c.HasInstr Address.entry := by
  unfold entry find? at h
  rw [blocks_ofCode hg] at h
  split at h
  · cases h
  · next hnone =>
    cases h
    refine ⟨rfl, ?_⟩
    rintro ⟨i, hi, haddr⟩
    obtain ⟨b, hb, hi⟩ := Code.exists_block hi
    -- nothing stands before the entry address, in no block
    have hfirst : b.first = i := by
      rcases List.mem_cons.1 hi with rfl | hi
      · rfl
      · have hlt := Code.first_lt hb hi
        rw [haddr] at hlt
        exact absurd hlt (Nat.not_lt_zero _)
    obtain ⟨n, hn⟩ := exists_blockIndex? hb
    rw [Block.start, hfirst, haddr, hnone] at hn
    cases hn

/-- An edge for a type of exceptions goes to a handler for it. -/
theorem exists_handler {n : Nat} {node : Node} {edge : Edge} {d : Descriptor} (hg : ofCode c = .ok g)
    (hn : g.nodes[n]? = some node) (hedge : edge ∈ node.edges) (hbranch : edge.branch = .caught d) :
    ∃ t ∈ c.tries, ∃ h ∈ t.handlers, h.type = d := by
  obtain ⟨-, hseq | ⟨x, hx, heq⟩⟩ := mem_edgesOf (getElem?_nodes hg hn).2 hedge
  · cases hbranch.symm.trans hseq
  · rw [hbranch] at heq
    rcases List.mem_append.1 hx with hx | hx
    · have hno := isExceptional_branching hx
      rw [← heq] at hno
      cases hno
    · obtain ⟨t, ht, hx⟩ := Code.mem_branches_of_catches hx
      rcases TryItem.mem_branches.1 hx with ⟨h, hh, rfl⟩ | ⟨a, -, rfl⟩
      · exact ⟨t, ht, h, hh, (Branch.caught.inj heq).symm⟩
      · cases heq

end FlowGraph

theorem TypeState.initial_eq_error {m : Method} {c : Code} {e : TypingError} (h : initial m c = .error e) :
    e = .badInsSize (insNeeded m) c.insSize ∧ insNeeded m ≠ c.insSize ∨
      e = .voidRegister ∧ .void ∈ m.descriptor.params := by
  unfold initial at h
  split at h
  · next hins =>
    cases h
    exact .inl ⟨rfl, hins⟩
  · rcases bind_eq_error.1 h with h | ⟨_, -, h⟩
    · obtain ⟨d, hd, h⟩ := mapM_eq_error h
      obtain ⟨rfl, rfl⟩ := RegisterType.ofDescriptor_eq_error h
      exact .inr ⟨rfl, hd⟩
    · cases h

theorem TypeState.exists_join (o : ClassOracle) {s t : TypeState} (h : s.frame = t.frame) :
    ∃ e, s.join o t = .ok e ∧ e.frame = s.frame := by
  have hsize : s.size = t.size := congrArg Prod.fst h
  have hexpected : s.expected = t.expected := congrArg Prod.snd h
  have hjoin : ∃ e, s.join o t = .ok e := by
    unfold join
    rw [if_pos]
    · exact ⟨_, rfl⟩
    · simp [hsize, hexpected, RegisterType.option_beq_iff]
  obtain ⟨e, he⟩ := hjoin
  obtain ⟨-, -, hsize', hexpected', -⟩ := join_eq_ok he
  exact ⟨e, he, Prod.ext hsize' hexpected'⟩

namespace BlockState
variable {o : ClassOracle} {b : BlockState} {s : TypeState} {frame : Nat × Option RegisterType}

def Framed (frame : Nat × Option RegisterType) (b : BlockState) : Prop := ∀ e ∈ b.entry, e.frame = frame

theorem Framed.exists_receive (o : ClassOracle) (hb : b.Framed frame) (hs : s.frame = frame) :
    ∃ b', b.receive o s = .ok b' ∧ b'.Framed frame := by
  unfold receive incoming
  cases he : b.entry with
  | none =>
    refine ⟨_, rfl, ?_⟩
    rintro e ⟨⟩
    exact hs
  | some entry =>
    have hentry := hb entry he
    obtain ⟨joined, hjoin, hframe⟩ := TypeState.exists_join o (hentry.trans hs.symm)
    dsimp only
    rw [hjoin]
    refine ⟨_, rfl, ?_⟩
    rintro e ⟨⟩
    exact hframe.trans hentry

end BlockState

theorem Branch.frame_carry (b : Branch) {entry exit : TypeState} (h : exit.frame = entry.frame) :
    (b.carry entry exit).state.frame = entry.frame := by
  unfold carry
  rw [TypeState.frame_follow]
  split
  · rfl
  · exact h

theorem BlockState.Framed.kept (ctx : Context) (g : FlowGraph) (frame : Nat × Option RegisterType) :
    Progress.Kept ctx g fun _ b => b.Framed frame where
  pass n b steps _ hb := hb
  receive n b₀ entry exit hb₀ he₀ hcross e _ _ b b' hb hreceive := by
    obtain ⟨_, _, -, -, hchain⟩ := hcross
    have hcarry := (e.branch.frame_carry hchain.frame_eq).trans (hb₀ entry he₀)
    obtain ⟨b₁, hb₁, hframed⟩ := Framed.exists_receive ctx.oracle hb hcarry
    cases hreceive.symm.trans hb₁
    exact hframed

/-! ### Errors of passes -/

namespace Progress
variable {ctx : Context} {c : Code} {g : FlowGraph} {order : List Nat} {p p' : Progress} {n entry : Nat}
  {s₀ : TypeState} {f : Failure}

theorem propagate_eq_error {frame : Nat × Option RegisterType} {e exit : TypeState} {edge : Edge}
    (hp : p.All fun _ b => b.Framed frame) (he : e.frame = frame) (hexit : exit.frame = e.frame)
    (h : p.propagate ctx e exit edge = .error f) : f.DueTo frame.1 (edge.branch = .caught .void) := by
  have hcarry : (if edge.branch.isExceptional then e else exit).follow edge.branch = edge.branch.carry e exit := rfl
  rcases bind_eq_error.1 h with h | ⟨_, -, h⟩
  swap
  · cases h
  simp only [deliver, hcarry] at h
  split at h
  · next err hfail =>
    cases h
    have hsize : (if edge.branch.isExceptional then e else exit).size = frame.1 := by
      split
      · exact congrArg Prod.fst he
      · exact congrArg Prod.fst (hexit.trans he)
    rw [← hsize]
    exact ⟨err, rfl, TypeState.dueTo_of_follow hfail⟩
  · cases h
  · next b _ hb =>
    obtain ⟨b', hb', -⟩ := (hp _ b hb).exists_receive ctx.oracle ((edge.branch.frame_carry hexit).trans he)
    obtain ⟨_, hincoming, -⟩ := bind_eq_ok.1 hb'
    rw [hincoming] at h
    cases h

theorem propagateAll_eq_error {frame : Nat × Option RegisterType} {b₀ : BlockState} {e exit : TypeState}
    (hb₀ : b₀.Framed frame) (he₀ : b₀.entry = some e) (hcross : Crosses ctx g n e exit) {edges : List Edge}
    (hedges : ∀ edge ∈ edges, edge ∈ g.outgoing n) (hp : p.All fun _ b => b.Framed frame)
    (h : edges.foldlM (propagate ctx e exit) p = .error f) :
    f.DueTo frame.1 (∃ edge ∈ g.outgoing n, edge.branch = .caught .void) := by
  induction edges generalizing p with
  | nil => cases h
  | cons edge edges ih =>
    have hedge := hedges edge List.mem_cons_self
    rw [List.foldlM_cons] at h
    rcases bind_eq_error.1 h with h | ⟨p₁, hp₁, h⟩
    · obtain ⟨_, _, -, -, hchain⟩ := hcross
      have hdue := propagate_eq_error hp (hb₀ e he₀) hchain.frame_eq h
      exact hdue.imp fun hvoid => ⟨edge, hedge, hvoid⟩
    · have hkept := (BlockState.Framed.kept ctx g frame).propagate hb₀ he₀ hcross hedge hp hp₁
      exact ih (fun edge hedge => hedges edge (List.mem_cons_of_mem _ hedge)) hkept h

theorem visit_eq {node : Node} {b : BlockState} {e : TypeState} (hnode : g.nodes[n]? = some node)
    (hb : p.blocks[n]? = some b) (he : b.entry = some e) :
    p.visit ctx g n =
      ctx.pass p.sites ((p.notes.push (.block node.block.start)).push (.entryState e)) e node.block.instrs >>= fun r =>
        (g.outgoing n).foldlM (propagate ctx e r.exit) (p.passed n b r) := by
  obtain ⟨_, status, visits, steps⟩ := b
  cases he
  unfold visit cross
  rw [hnode, hb]
  dsimp only
  rw [bind_assoc]
  rfl

/-- What the loop of passes keeps. -/
structure Healthy (ctx : Context) (g : FlowGraph) (entry : Nat) (s₀ : TypeState) (p : Progress) : Prop extends
    Inv ctx g entry s₀ p where
  visited : p.All (BlockState.Visited g entry)
  framed : p.All fun _ b => b.Framed s₀.frame

namespace Healthy

theorem of_start (hentry : entry < g.size) : Healthy ctx g entry s₀ (.start g entry s₀) where
  toInv := .of_start hentry
  visited := .start (.reached g entry s₀) (.fresh g entry)
  framed := by
    refine .start ?_ fun n => ?_
    · rintro e ⟨⟩
      rfl
    · rintro e ⟨⟩

theorem visit (hg : FlowGraph.ofCode c = .ok g) (h : Healthy ctx g entry s₀ p) (hp' : p.visit ctx g n = .ok p') :
    Healthy ctx g entry s₀ p' where
  toInv := h.toInv.visit (fun _ _ hn _ he => FlowGraph.target_lt hg hn he) hp'
  visited := (BlockState.Visited.kept ctx g entry).visit h.visited hp'
  framed := (BlockState.Framed.kept ctx g s₀.frame).visit h.framed hp'

theorem exists_entry (h : Healthy ctx g entry s₀ p) (hn : p.isPending n = true) :
    ∃ node b e, g.nodes[n]? = some node ∧ p.blocks[n]? = some b ∧ b.entry = some e := by
  obtain ⟨b, hb, hstatus⟩ := isPending_iff.1 hn
  have hlt : n < g.size := h.size ▸ (Array.getElem?_eq_some_iff.1 hb).1
  have hentry : b.entry ≠ none := by
    rw [ne_eq, ← (h.visited n b hb).unvisited, hstatus]
    exact nofun
  obtain ⟨e, he⟩ := Option.ne_none_iff_exists'.1 hentry
  exact ⟨_, b, e, Array.getElem?_eq_getElem hlt, hb, he⟩

theorem mem_order (horder : g.DepthFirst entry [] order) (h : Healthy ctx g entry s₀ p) (hn : p.isPending n = true) :
    n ∈ order := by
  obtain ⟨node, b, e, -, hb, he⟩ := h.exists_entry hn
  rw [horder.mem_iff]
  exact (h.visited n b hb).leads (by rw [he]; rfl)

theorem visit_eq_error (hg : FlowGraph.ofCode c = .ok g) (h : Healthy ctx g entry s₀ p) (hn : p.isPending n = true)
    (hvisit : p.visit ctx g n = .error f) : f.DueTo s₀.size c.DeclaresVoid := by
  obtain ⟨node, b, e, hnode, hb, he⟩ := h.exists_entry hn
  have hframed := h.framed n b hb
  rw [visit_eq hnode hb he] at hvisit
  rcases bind_eq_error.1 hvisit with hpass | ⟨r, hpass, hfold⟩
  · have hdue := Context.dueTo_of_pass hpass
    rw [show e.size = s₀.size from congrArg Prod.fst (hframed e he)] at hdue
    refine hdue.imp ?_
    rintro ⟨i, hi, hvoid⟩
    exact .inl ⟨i, FlowGraph.mem_instrs hg hnode hi, hvoid⟩
  · have hpassed : (b.passed r.steps).Framed s₀.frame := hframed
    have hall : (p.passed n b r).All fun _ b => b.Framed s₀.frame := h.framed.set hpassed rfl
    obtain ⟨hchain, hinstrs⟩ := Context.chain_of_pass hpass
    have hcross : Crosses ctx g n e r.exit := ⟨node, r.steps, hnode, hinstrs, hchain⟩
    refine (propagateAll_eq_error hframed he hcross (fun _ hedge => hedge) hall hfold).imp ?_
    rintro ⟨edge, hedge, hvoid⟩
    exact .inr (FlowGraph.exists_handler hg hnode ((FlowGraph.mem_outgoing hnode).1 hedge) hvoid)

/-- A run that ends has visited all pending blocks, or fails for a reason of the code. -/
theorem of_runs {visits : Nat} {r : Except Failure Progress} (hg : FlowGraph.ofCode c = .ok g)
    (h : Healthy ctx g entry s₀ p) (hruns : Runs ctx g order p visits r) :
    (∀ f, r = .error f → f.DueTo s₀.size c.DeclaresVoid) ∧
      ∀ p', r = .ok p' → Healthy ctx g entry s₀ p' ∧ order.find? p'.isPending = none := by
  induction hruns with
  | done hnone =>
    refine ⟨nofun, ?_⟩
    rintro p' ⟨⟩
    exact ⟨h, hnone⟩
  | failed hsome hvisit =>
    refine ⟨?_, nofun⟩
    rintro f ⟨⟩
    exact h.visit_eq_error hg (List.find?_some hsome) hvisit
  | next hsome hvisit _ ih => exact ih (h.visit hg hvisit)

/-- Nothing is pending in the end. -/
theorem exists_ofProgress (horder : g.DepthFirst entry [] order) (h : Healthy ctx g entry s₀ p)
    (hdone : order.find? p.isPending = none) : ∃ d, Dataflow.ofProgress g p = .ok d := by
  unfold Dataflow.ofProgress
  dsimp only
  split
  · next block b hfind =>
    obtain ⟨n, node, -, hb, -⟩ := mem_table.1 (List.mem_of_find?_eq_some hfind)
    have hn : p.isPending n = true := isPending_iff.2 ⟨b, hb, by simpa using List.find?_some hfind⟩
    exact absurd hn (List.find?_eq_none.1 hdone n (h.mem_order horder hn))
  · exact ⟨_, rfl⟩

end Healthy

/-- The loop goes on with the first pending block. -/
def Next (ctx : Context) (g : FlowGraph) (order : List Nat) (p p' : Progress) : Prop :=
  ∃ n, order.find? p.isPending = some n ∧ p.visit ctx g n = .ok p'

/-- Whatever is looked up by the index of a block is there: what is known of the block and its place in the order. -/
structure InRange (g : FlowGraph) (order : List Nat) (p : Progress) : Prop where
  size : p.blocks.size = g.size
  pending : ∀ n, p.isPending n = true →
    n ∈ order ∧ ∃ node b e, g.nodes[n]? = some node ∧ p.blocks[n]? = some b ∧ b.entry = some e
  targets : ∀ n ∈ order, ∀ e ∈ g.outgoing n, e.target ∈ order ∧ e.target < p.blocks.size

theorem Healthy.of_next (hg : FlowGraph.ofCode c = .ok g) (h : Healthy ctx g entry s₀ p)
    (hsteps : Relation.ReflTransGen (Next ctx g order) p p') : Healthy ctx g entry s₀ p' := by
  induction hsteps with
  | refl => exact h
  | tail _ hstep ih =>
    obtain ⟨n, -, hvisit⟩ := hstep
    exact ih.visit hg hvisit

theorem Healthy.inRange (hg : FlowGraph.ofCode c = .ok g) (horder : g.DepthFirst entry [] order)
    (h : Healthy ctx g entry s₀ p) : p.InRange g order where
  size := h.size
  pending n hn := ⟨h.mem_order horder hn, h.exists_entry hn⟩
  targets n hn e he := by
    have hlead : g.Leads n e.target := ⟨e, he, rfl⟩
    exact ⟨horder.mem_of_leads hn hlead, h.size ▸ hlead.lt hg⟩

end Progress

/-! ### Methods -/

theorem Dataflow.Refused.explained {m : Method} {c : Code} {e : AnalysisError} (hc : m.code = some c)
    (h : Refused m c e) : e.Explained m := by
  rcases h with hg | ⟨g, hg, hentry⟩ | ⟨cause, hs, rfl⟩
  · obtain ⟨i, hi, x, hx, rfl, hmissing⟩ := FlowGraph.ofCode_eq_error hg
    exact ⟨c, hc, i, hi, rfl, hx, hmissing⟩
  · obtain ⟨rfl, hmissing⟩ := FlowGraph.entry_eq_error hg hentry
    exact ⟨c, hc, hmissing⟩
  · obtain ⟨rfl, hins⟩ | ⟨rfl, hvoid⟩ := TypeState.initial_eq_error hs
    · exact ⟨c, hc, rfl, rfl, hins⟩
    · exact .inl hvoid

namespace Verification
variable {o : ClassOracle} {limit : Nat} {m : Method}

/-- The loop of passes ends before the limit. -/
def Ends (o : ClassOracle) (limit : Nat) (m : Method) : Prop :=
  ∀ c g entry s, m.code = some c → FlowGraph.ofCode c = .ok g → g.entry = .ok entry → TypeState.initial m c = .ok s →
    ∃ visits ≤ limit, ∃ r,
      Progress.Runs ⟨o, m.descriptor⟩ g (g.reversePostorder entry) (.start g entry s) visits r

/-- Nothing goes wrong in the analysis itself. -/
structure Blameless (o : ClassOracle) (limit : Nat) (m : Method) : Prop where
  errors : ∀ f, within o limit m = .error f → f.error.Explained m
  /-- The order of blocks starts with the entry block, and no index of a block is out of range at any time. -/
  blocks : ∀ c g entry s, m.code = some c → FlowGraph.ofCode c = .ok g → g.entry = .ok entry →
    TypeState.initial m c = .ok s →
      (g.reversePostorder entry)[0]? = some entry ∧ (g.reversePostorder entry).Nodup ∧
        ∀ p, Relation.ReflTransGen (Progress.Next ⟨o, m.descriptor⟩ g (g.reversePostorder entry)) (.start g entry s) p →
          p.InRange g (g.reversePostorder entry)
  /-- At any time the queue holds the pending blocks, and the heap their ranks in the order. -/
  queue : ∀ c g entry s, m.code = some c → FlowGraph.ofCode c = .ok g → g.entry = .ok entry →
    TypeState.initial m c = .ok s →
      ∀ w, Relation.ReflTransGen (Worklist.Next ⟨o, m.descriptor⟩ g (g.reversePostorder entry)) (.start g entry s) w →
        w.Tracks g (g.reversePostorder entry)
  registers : ∀ c, m.code = some c → TypeState.fillInitial m c = some ((TypeState.initial m c).map TypeState.types)
  arguments : ∀ s callee args hasReceiver,
    TypeState.checkArgumentsAt o s callee args hasReceiver = some (s.checkArguments o callee args hasReceiver)

/-- Over an acyclic hierarchy, every method is analysed before the limit. -/
theorem ends_passLimit {h : Hierarchy} (hh : h.Closed) (hacyclic : h.Acyclic) (m : Method) :
    Ends h.oracle (h.passLimit m) m :=
  fun _ _ entry _ hc hg _ hs => Hierarchy.exists_runs_start hh hacyclic hc hg hs _ entry

theorem explained_of_within (hends : Ends o limit m) {f : Failure} (h : within o limit m = .error f) :
    f.error.Explained m := by
  unfold within at h
  split at h
  · next hc =>
    cases h
    exact hc
  next c hc =>
  rcases bind_eq_error.1 h with h | ⟨_, -, h⟩
  swap
  · cases h
  obtain ⟨e, hrefused, hall⟩ | ⟨g, entry, s, hg, hentry, hs⟩ := Dataflow.refused_or_parts o m c
  · cases h.symm.trans (hall limit)
    exact hrefused.explained hc
  · have hlt := FlowGraph.entry_lt hentry
    obtain ⟨visits, hvisits, r, hruns⟩ := hends c g entry s hc hg hentry hs
    obtain ⟨hfailed, hdone⟩ := (Progress.Healthy.of_start hlt).of_runs hg hruns
    rw [Dataflow.compute_eq hg hentry hs, hruns.solve_eq hvisits] at h
    rcases bind_eq_error.1 h with h | ⟨p, hp, h⟩
    · have hdue := hfailed f h
      rw [TypeState.size_initial hs] at hdue
      exact hdue.explained hc
    · obtain ⟨hhealthy, hnone⟩ := hdone p hp
      obtain ⟨d, hd⟩ := hhealthy.exists_ofProgress (FlowGraph.depthFirst_reversePostorder hg hlt) hnone
      cases h.symm.trans hd

theorem blameless_of_ends (hends : Ends o limit m) : Blameless o limit m where
  errors _ h := explained_of_within hends h
  blocks c g entry s _ hg hentry _ := by
    have hlt := FlowGraph.entry_lt hentry
    have horder := FlowGraph.depthFirst_reversePostorder hg hlt
    refine ⟨?_, horder.nodup, fun p hsteps => ?_⟩
    · rw [← List.head?_eq_getElem?]
      exact horder.head?_eq
    · exact ((Progress.Healthy.of_start hlt).of_next hg hsteps).inRange hg horder
  queue c g entry s _ hg hentry _ w hsteps := by
    have hlt := FlowGraph.entry_lt hentry
    exact Worklist.tracks_of_next hg hlt (FlowGraph.depthFirst_reversePostorder hg hlt) hsteps
  registers c _ := TypeState.fillInitial_eq m c
  arguments _ callee args hasReceiver := TypeState.checkArgumentsAt_eq callee args hasReceiver

/-! A branch leads to a write outside of the register file. -/

def strayingCode : Code := .ofInstrs 0 1 (.ifTestZero .eq 0 5) [.const 1 7, .returnVoid]

def strayingMethod : Method where
  descriptor := ⟨.object "Kennel", "stray", [.prim .int], .void⟩
  flags := Flags.static
  code := some strayingCode

theorem blameless_of_ends_straying :
    Ends Hierarchy.kennel.oracle (Hierarchy.kennel.passLimit strayingMethod) strayingMethod ∧
      ((Hierarchy.kennel.verify strayingMethod).mapError Failure.error).map isOk = .error (.typing (.outOfBounds 1)) ∧
      Blameless Hierarchy.kennel.oracle (Hierarchy.kennel.passLimit strayingMethod) strayingMethod := by
  have hclasses : Hierarchy.ofClasses [⟨.object "Dog", 1, some (.object "Animal"), [], [], none⟩] =
      .ok Hierarchy.kennel := rfl
  have hends : Ends _ _ strayingMethod :=
    ends_passLimit (Hierarchy.closed_ofClasses hclasses) Hierarchy.acyclic_kennel strayingMethod
  exact ⟨hends, by cbv, blameless_of_ends hends⟩

end Verification
end Dalvik
