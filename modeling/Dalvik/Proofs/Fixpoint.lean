import Dalvik.Proofs.StateOrder
import Dalvik.Verification

/-!
# What the fixpoint computation leaves

The passes over blocks keep one invariant (`Progress.Inv`): a block that is not pending has been carried through from a
state that equals its entry state up to labels, and what its edges carry has flowed into the entry states of their
targets. A state that has flowed into an entry state stays in it, since entry states only grow by joins; so an edge
need not be looked at again until the block it leaves is pending again.

When no block is pending, the recorded steps solve the flow equations of the graph (`Dataflow.Solution`): every
instruction is recorded once, consecutive instructions of a block share a state, and the states carried by edges have
flowed into the states recorded where the edges lead. Nothing is assumed about the class oracle.
-/

namespace Dalvik

/-- The state that an edge carries, from the entry and exit states of the block it leaves. -/
def Branch.carry (b : Branch) (entry exit : TypeState) : TypeState.Change :=
  (if b.isExceptional then entry else exit).follow b

namespace Context
variable {ctx : Context} {sites : AllocationSites} {s : TypeState} {i : LabeledInstr}

theorem violation_perform (pc : Address) (e : Effect) : (ctx.perform sites pc s e).violation = none := by
  cases e <;> rfl

theorem violation_eq_some_iff {x : Violation} : (ctx.transfer sites s i).violation = some x ↔
    ∃ c, i.instr.effect ctx.oracle s = .error (.complaint c) ∧ x = ⟨i.address, i.position, c⟩ := by
  unfold transfer
  split
  · next e he => simp [violation_perform, he]
  · next err he => simp [he]
  · next c hc => simp [hc, eq_comm]

/-- A transfer that does not fail applies the effect of the instruction, or recovers. -/
theorem applies_of_failure (h : (ctx.transfer sites s i).failure = none) :
    ∃ e, (ctx.perform sites i.address s.clearPseudo e).failure = none ∧
      (ctx.transfer sites s i).state = (ctx.perform sites i.address s.clearPseudo e).state ∧
      (i.instr.effect ctx.oracle s = .ok e ∧ (ctx.transfer sites s i).violation = none ∨
        e = i.instr.recovery ∧ (ctx.transfer sites s i).violation ≠ none) := by
  unfold transfer at h ⊢
  split at h
  · next e he => exact ⟨e, h, rfl, .inl ⟨he, violation_perform _ e⟩⟩
  · cases h
  · exact ⟨i.instr.recovery, h, rfl, .inr ⟨rfl, Option.some_ne_none _⟩⟩

theorem applies_of_violation (h : (ctx.transfer sites s i).failure = none)
    (hv : (ctx.transfer sites s i).violation = none) :
    ∃ e, i.instr.effect ctx.oracle s = .ok e ∧
      (ctx.perform sites i.address s.clearPseudo e).failure = none ∧
      (ctx.transfer sites s i).state = (ctx.perform sites i.address s.clearPseudo e).state := by
  obtain ⟨e, hfail, hstate, ⟨he, -⟩ | ⟨-, hne⟩⟩ := applies_of_failure h
  · exact ⟨e, he, hfail, hstate⟩
  · exact absurd hv hne

/-- The transfer over the instruction gives what the step records. -/
def Performs (ctx : Context) (st : Step) : Prop :=
  ∃ sites, (ctx.transfer sites st.before st.instr).failure = none ∧
    (ctx.transfer sites st.before st.instr).state = st.after ∧
    (ctx.transfer sites st.before st.instr).violation = st.violation

inductive Chain (ctx : Context) : TypeState → List Step → TypeState → Prop
  | nil (s : TypeState) : Chain ctx s [] s
  | cons {s : TypeState} {st : Step} {steps : List Step} {exit : TypeState} :
      st.before = s → ctx.Performs st → Chain ctx st.after steps exit → Chain ctx s (st :: steps) exit

theorem chain_of_pass {is : List LabeledInstr} {sites : AllocationSites} {notes : Array Note} {s : TypeState} {r : Pass}
    (h : ctx.pass sites notes s is = .ok r) : ctx.Chain s r.steps r.exit ∧ r.steps.map Step.instr = is := by
  induction is generalizing sites notes s r with
  | nil =>
    cases h
    exact ⟨.nil s, rfl⟩
  | cons i rest ih =>
    simp only [pass] at h
    split at h
    · cases h
    · next hfail =>
      simp only [bind_eq_ok, pure_eq_ok] at h
      obtain ⟨p, hp, rfl⟩ := h
      obtain ⟨hchain, hinstrs⟩ := ih hp
      exact ⟨.cons rfl ⟨sites, hfail, rfl, rfl⟩ hchain, by simp [hinstrs]⟩

namespace Chain
variable {s s' : TypeState} {steps steps' : List Step} {st st' : Step}

theorem performs (h : ctx.Chain s steps s') (hst : st ∈ steps) : ctx.Performs st := by
  induction h with
  | nil => cases hst
  | cons _ hp _ ih =>
    rcases List.mem_cons.1 hst with rfl | hst
    · exact hp
    · exact ih hst

theorem append (h : ctx.Chain s (steps ++ steps') s') : ∃ t, ctx.Chain s steps t ∧ ctx.Chain t steps' s' := by
  induction steps generalizing s with
  | nil => exact ⟨s, .nil s, h⟩
  | cons st steps ih =>
    cases h with
    | cons hs hp h =>
      obtain ⟨t, h₁, h₂⟩ := ih h
      exact ⟨t, .cons hs hp h₁, h₂⟩

theorem before_head (h : ctx.Chain s (st :: steps) s') : st.before = s := by
  cases h with
  | cons hs _ _ => exact hs

theorem after_last (h : ctx.Chain s (steps ++ [st]) s') : st.after = s' := by
  obtain ⟨t, -, h⟩ := h.append
  cases h with
  | cons _ _ h => cases h; rfl

theorem before_next (h : ctx.Chain s (steps ++ st :: st' :: steps') s') : st'.before = st.after := by
  obtain ⟨t, -, h⟩ := h.append
  cases h with
  | cons _ _ h => exact h.before_head

end Chain
end Context

namespace BlockState
variable {o : ClassOracle} {b b' b'' : BlockState} {s : TypeState}

/-- The block after a state has come in along an edge: it is pending when its entry state has changed. -/
def receive (o : ClassOracle) (b : BlockState) (s : TypeState) : Except TypingError BlockState := do
  let (entry, changed) ← b.incoming o s
  return { b with entry := some entry, status := if changed then .pending else b.status }

/-- The state has flowed into the entry state of the block. -/
def Covers (o : ClassOracle) (b : BlockState) (s : TypeState) : Prop :=
  ∃ e, b.entry = some e ∧ s.FlowsInto o e

/-- The block after a pass over it. -/
def passed (b : BlockState) (steps : List Step) : BlockState :=
  { b with status := .stable, visits := b.visits + 1, steps }

/-- Nothing is known about a block that no state has reached. -/
def Fresh (b : BlockState) : Prop := b.status = .unvisited → b.entry = none ∧ b.steps = []

/-- What receiving states does to a block. -/
structure Grows (o : ClassOracle) (b b' : BlockState) : Prop where
  steps : b'.steps = b.steps
  covers : ∀ s, b.Covers o s → b'.Covers o s
  stable : b'.status = .stable →
    b.status = .stable ∧ ∀ e, b.entry = some e → ∃ e', b'.entry = some e' ∧ (e' == e) = true
  fresh : b.Fresh → b'.Fresh

theorem Grows.refl (b : BlockState) : b.Grows o b :=
  ⟨rfl, fun _ h => h, fun h => ⟨h, fun e he => ⟨e, he, e.beq_refl⟩⟩, id⟩

theorem Grows.trans (h : b.Grows o b') (h' : b'.Grows o b'') : b.Grows o b'' where
  steps := h'.steps.trans h.steps
  covers s hs := h'.covers s (h.covers s hs)
  stable hst := by
    obtain ⟨hst', hsame'⟩ := h'.stable hst
    obtain ⟨hst, hsame⟩ := h.stable hst'
    refine ⟨hst, fun e he => ?_⟩
    obtain ⟨e', he', heq⟩ := hsame e he
    obtain ⟨e'', he'', heq'⟩ := hsame' e' he'
    exact ⟨e'', he'', TypeState.beq_trans heq' heq⟩
  fresh := h'.fresh ∘ h.fresh

/-- The first state that comes to a block is its entry state, and later ones are joined into that. -/
theorem receive_cases (h : b.receive o s = .ok b') :
    b.entry = none ∧ b' = { b with entry := some s, status := .pending } ∨
      ∃ entry joined, b.entry = some entry ∧ entry.join o s = .ok joined ∧
        b' = { b with entry := some joined, status := if joined == entry then b.status else .pending } := by
  simp only [receive, bind_eq_ok, pure_eq_ok] at h
  obtain ⟨⟨entry', changed⟩, hincoming, rfl⟩ := h
  unfold incoming at hincoming
  split at hincoming
  · next hnone =>
    cases hincoming
    exact .inl ⟨hnone, rfl⟩
  · next entry hentry =>
    simp only [bind_eq_ok, pure_eq_ok] at hincoming
    obtain ⟨_, hjoin, ⟨⟩⟩ := hincoming
    refine .inr ⟨entry, entry', hentry, hjoin, ?_⟩
    cases hsame : entry' == entry <;> simp [bne, hsame]

theorem receive_eq_ok (h : b.receive o s = .ok b') : b.Grows o b' ∧ b'.Covers o s := by
  obtain ⟨hnone, rfl⟩ | ⟨entry, joined, hentry, hjoin, rfl⟩ := receive_cases h
  · refine ⟨⟨rfl, fun s' hs' => ?_, fun hst => (nomatch hst), fun _ hst => (nomatch hst)⟩, s, rfl, .refl s⟩
    obtain ⟨e, he, -⟩ := hs'
    rw [hnone] at he
    cases he
  · -- the join stands for the old entry state from now on; the block stays stable only if the two are the same
    refine ⟨⟨rfl, fun s' hs' => ?_, fun hst => ?_, fun hfresh hst => ?_⟩, joined, rfl, .joined hjoin⟩
    · obtain ⟨e, he, hflow⟩ := hs'
      cases he.symm.trans hentry
      exact ⟨joined, rfl, hflow.grown hjoin⟩
    · simp only at hst
      split at hst
      · next heq =>
        refine ⟨hst, fun e he => ⟨joined, rfl, ?_⟩⟩
        cases he.symm.trans hentry
        exact heq
      · cases hst
    · simp only at hst
      split at hst
      · cases (hfresh hst).1.symm.trans hentry
      · cases hst

end BlockState

namespace Progress
variable {ctx : Context} {o : ClassOracle} {g : FlowGraph} {p p' p'' : Progress} {n : Nat} {s : TypeState}

def isPending (p : Progress) (n : Nat) : Bool := p.blocks[n]?.any (·.status = .pending)

/-- Carries a state along an edge; the target is pending when its entry state has changed. -/
def propagate (ctx : Context) (entry exit : TypeState) (p : Progress) (e : Edge) : Except Failure Progress := do
  let (p, changed) ← p.deliver ctx entry exit e
  return if changed then p.wake e.target else p

/-- A pass over the block `n`, and along its edges. -/
def visit (ctx : Context) (g : FlowGraph) (p : Progress) (n : Nat) : Except Failure Progress := do
  match ← p.cross ctx g n with
  | none => return p
  | some (p, entry, exit) => (g.outgoing n).foldlM (propagate ctx entry exit) p

/-- Visits pending blocks, the first one of `order` each time, at most `limit` times. -/
def solve (ctx : Context) (g : FlowGraph) (order : List Nat) : Nat → Progress → Except Failure Progress
  | 0, p => .ok p
  | limit + 1, p =>
    match order.find? p.isPending with
    | none => .ok p
    | some n => do solve ctx g order limit (← p.visit ctx g n)

def Covers (o : ClassOracle) (p : Progress) (n : Nat) (s : TypeState) : Prop :=
  ∃ b, p.blocks[n]? = some b ∧ b.Covers o s

structure Grows (o : ClassOracle) (p p' : Progress) : Prop where
  size : p'.blocks.size = p.blocks.size
  block : ∀ (n : Nat) b, p.blocks[n]? = some b → ∃ b', p'.blocks[n]? = some b' ∧ b.Grows o b'

namespace Grows

theorem refl (p : Progress) : p.Grows o p := ⟨rfl, fun _ b hb => ⟨b, hb, .refl b⟩⟩

theorem trans (h : p.Grows o p') (h' : p'.Grows o p'') : p.Grows o p'' := by
  refine ⟨h'.size.trans h.size, fun n b hb => ?_⟩
  obtain ⟨b', hb', hgrow⟩ := h.block n b hb
  obtain ⟨b'', hb'', hgrow'⟩ := h'.block n b' hb'
  exact ⟨b'', hb'', hgrow.trans hgrow'⟩

theorem covers (h : p.Grows o p') (hs : p.Covers o n s) : p'.Covers o n s := by
  obtain ⟨b, hb, hcov⟩ := hs
  obtain ⟨b', hb', hgrow⟩ := h.block n b hb
  exact ⟨b', hb', hgrow.covers s hcov⟩

theorem block' (h : p.Grows o p') {b' : BlockState} (hb' : p'.blocks[n]? = some b') :
    ∃ b, p.blocks[n]? = some b ∧ b.Grows o b' := by
  have hn : n < p.blocks.size := h.size ▸ (Array.getElem?_eq_some_iff.1 hb').1
  obtain ⟨b'', hb'', hgrow⟩ := h.block n _ (Array.getElem?_eq_getElem hn)
  cases hb''.symm.trans hb'
  exact ⟨_, Array.getElem?_eq_getElem hn, hgrow⟩

end Grows

/-- What bringing a state to the target of an edge does. -/
theorem deliver_cases {entry exit : TypeState} {e : Edge} {changed : Bool}
    (h : p.deliver ctx entry exit e = .ok (p', changed)) :
    (e.branch.carry entry exit).failure = none ∧ (p' = p ∧ changed = false ∧ p.blocks[e.target]? = none ∨
      ∃ b joined, p.blocks[e.target]? = some b ∧
        b.incoming ctx.oracle (e.branch.carry entry exit).state = .ok (joined, changed) ∧
        p'.blocks = p.blocks.setIfInBounds e.target { b with entry := some joined } ∧ p'.sites = p.sites ∧
        ∃ notes : List InheritanceNote, p'.notes = p.notes ++ notes.map Note.inheritance) := by
  have hcarry : (if e.branch.isExceptional then entry else exit).follow e.branch = e.branch.carry entry exit := rfl
  simp only [deliver, hcarry] at h
  split at h
  · cases h
  · next hfail hnone =>
    cases h
    exact ⟨hfail, .inl ⟨rfl, rfl, hnone⟩⟩
  · next b hfail hb =>
    split at h
    · cases h
    · next joined changed' hincoming =>
      cases h
      exact ⟨hfail, .inr ⟨b, joined, hb, hincoming, rfl, rfl, _, rfl⟩⟩

theorem wake_setIfInBounds {b : BlockState} (hblocks : p'.blocks = p.blocks.setIfInBounds n b) :
    (p'.wake n).blocks = p.blocks.setIfInBounds n { b with status := .pending } := by
  refine Array.ext_getElem? fun k => ?_
  simp only [wake, hblocks, Array.getElem?_modify, Array.getElem?_setIfInBounds]
  split
  · split <;> rfl
  · rfl

/-- What carrying a state along an edge does. -/
theorem propagate_cases {entry exit : TypeState} {e : Edge} (h : p.propagate ctx entry exit e = .ok p') :
    (e.branch.carry entry exit).failure = none ∧ (p' = p ∧ p.blocks[e.target]? = none ∨
      ∃ b b', p.blocks[e.target]? = some b ∧ b.receive ctx.oracle (e.branch.carry entry exit).state = .ok b' ∧
        p'.blocks = p.blocks.setIfInBounds e.target b' ∧ p'.sites = p.sites ∧
        ∃ notes : List InheritanceNote, p'.notes = p.notes ++ notes.map Note.inheritance) := by
  simp only [propagate, bind_eq_ok, pure_eq_ok] at h
  obtain ⟨⟨p₁, changed⟩, hdeliver, rfl⟩ := h
  obtain ⟨hfail, ⟨rfl, rfl, hnone⟩ | ⟨b, joined, hb, hincoming, hblocks, hsites, hnotes⟩⟩ := deliver_cases hdeliver
  · exact ⟨hfail, .inl ⟨rfl, hnone⟩⟩
  · refine ⟨hfail, .inr ⟨b, { b with entry := some joined, status := if changed then .pending else b.status }, hb, ?_⟩⟩
    have hreceive : b.receive ctx.oracle (e.branch.carry entry exit).state =
        .ok { b with entry := some joined, status := if changed then .pending else b.status } := by
      rw [BlockState.receive, hincoming]
      rfl
    cases changed with
    | false => exact ⟨hreceive, hblocks, hsites, hnotes⟩
    | true => exact ⟨hreceive, wake_setIfInBounds hblocks, hsites, hnotes⟩

/-- Along edges no site is found. -/
theorem sites_propagate {entry exit : TypeState} {e : Edge} (h : p.propagate ctx entry exit e = .ok p') :
    p'.sites = p.sites := by
  obtain ⟨-, ⟨rfl, -⟩ | ⟨b, b', -, -, -, hsites, -⟩⟩ := propagate_cases h
  · rfl
  · exact hsites

theorem Grows.of_propagate {entry exit : TypeState} {e : Edge} (h : p.propagate ctx entry exit e = .ok p') :
    p.Grows ctx.oracle p' := by
  obtain ⟨-, ⟨rfl, -⟩ | ⟨b, b', hb, hreceive, hblocks, -⟩⟩ := propagate_cases h
  · exact .refl _
  refine ⟨by simp [hblocks], fun n b₁ hb₁ => ?_⟩
  rw [hblocks]
  by_cases hn : e.target = n
  · subst hn
    cases hb.symm.trans hb₁
    have ht := (Array.getElem?_eq_some_iff.1 hb).1
    exact ⟨b', by simp [ht], (BlockState.receive_eq_ok hreceive).1⟩
  · exact ⟨b₁, by simpa [Array.getElem?_setIfInBounds_ne hn] using hb₁, .refl b₁⟩

theorem propagate_eq_ok {entry exit : TypeState} {e : Edge} (ht : e.target < p.blocks.size)
    (h : p.propagate ctx entry exit e = .ok p') :
    p.Grows ctx.oracle p' ∧ ∃ s, e.branch.carry entry exit = ⟨s, none⟩ ∧ p'.Covers ctx.oracle e.target s := by
  refine ⟨.of_propagate h, ?_⟩
  obtain ⟨hfail, ⟨-, hnone⟩ | ⟨b, b', hb, hreceive, hblocks, -⟩⟩ := propagate_cases h
  · simp [Array.getElem?_eq_getElem ht] at hnone
  · have hself : p'.blocks[e.target]? = some b' := by simp [hblocks, ht]
    exact ⟨(e.branch.carry entry exit).state, by rw [← hfail], b', hself, (BlockState.receive_eq_ok hreceive).2⟩

theorem propagateAll_eq_ok {entry exit : TypeState} {edges : List Edge} (ht : ∀ e ∈ edges, e.target < p.blocks.size)
    (h : edges.foldlM (propagate ctx entry exit) p = .ok p') :
    p.Grows ctx.oracle p' ∧
      ∀ e ∈ edges, ∃ s, e.branch.carry entry exit = ⟨s, none⟩ ∧ p'.Covers ctx.oracle e.target s := by
  induction edges generalizing p with
  | nil =>
    obtain rfl : p = p' := by simpa [pure_eq_ok] using h
    exact ⟨.refl p, fun _ he => (nomatch he)⟩
  | cons e edges ih =>
    simp only [List.foldlM_cons, bind_eq_ok] at h
    obtain ⟨p₁, hp₁, h⟩ := h
    obtain ⟨hgrow₁, s, hs, hcov⟩ := propagate_eq_ok (ht e List.mem_cons_self) hp₁
    obtain ⟨hgrow, hall⟩ := ih (fun e he => hgrow₁.size ▸ ht e (List.mem_cons_of_mem _ he)) h
    refine ⟨hgrow₁.trans hgrow, fun e' he' => ?_⟩
    rcases List.mem_cons.1 he' with rfl | he'
    · exact ⟨s, hs, hgrow.covers hcov⟩
    · exact hall e' he'

/-! ### The invariant of passes -/

/-- The block has been carried through from its entry state, up to labels, and its edges need no second look. -/
def Settled (ctx : Context) (p : Progress) (node : Node) (b : BlockState) : Prop :=
  ∃ e e' exit, b.entry = some e ∧ (e == e') = true ∧ ctx.Chain e' b.steps exit ∧
    b.steps.map Step.instr = node.block.instrs ∧
    ∀ edge ∈ node.edges, ∃ s, edge.branch.carry e' exit = ⟨s, none⟩ ∧ p.Covers ctx.oracle edge.target s

/-- A settled block stays settled while entry states grow, unless its own becomes another one. -/
theorem Settled.grow {node : Node} {b b' : BlockState} (h : p.Settled ctx node b) (hb : b.Grows ctx.oracle b')
    (hst : b'.status = .stable) (hp : ∀ k s, p.Covers ctx.oracle k s → p'.Covers ctx.oracle k s) :
    p'.Settled ctx node b' := by
  obtain ⟨e, e₀, exit, he, heq, hchain, hinstrs, hedges⟩ := h
  obtain ⟨e', he', heq'⟩ := (hb.stable hst).2 e he
  rw [← hb.steps] at hchain hinstrs
  refine ⟨e', e₀, exit, he', TypeState.beq_trans heq' heq, hchain, hinstrs, fun edge hedge => ?_⟩
  obtain ⟨s, hs, hcov⟩ := hedges edge hedge
  exact ⟨s, hs, hp _ _ hcov⟩

/-- What a pass leaves, before the edges are followed. -/
def passed (p : Progress) (n : Nat) (b : BlockState) (r : Pass) : Progress where
  blocks := p.blocks.setIfInBounds n (b.passed r.steps)
  sites := r.sites
  notes := r.notes.push (.exitState r.exit)

/-- A pass replaces the steps of its block, and then follows the edges. -/
theorem visit_cases (h : p.visit ctx g n = .ok p') : p' = p ∧ (g.nodes[n]? = none ∨ p.blocks[n]? = none) ∨
    ∃ node b e r, g.nodes[n]? = some node ∧ p.blocks[n]? = some b ∧ b.entry = some e ∧
      ctx.pass p.sites ((p.notes.push (.block node.block.start)).push (.entryState e)) e node.block.instrs = .ok r ∧
      (g.outgoing n).foldlM (propagate ctx e r.exit) (p.passed n b r) = .ok p' := by
  simp only [visit, bind_eq_ok] at h
  obtain ⟨crossed, hcross, h⟩ := h
  unfold cross at hcross
  split at hcross
  case h_2 hnone =>
    cases hcross
    cases h
    cases hnode : g.nodes[n]? with
    | none => exact .inl ⟨rfl, .inl rfl⟩
    | some node =>
      cases hb : p.blocks[n]? with
      | none => exact .inl ⟨rfl, .inr rfl⟩
      | some b => exact (hnone node b hnode hb).elim
  next node b hnode hb =>
  split at hcross
  · cases hcross
  next e he =>
  simp only [bind_eq_ok, pure_eq_ok] at hcross
  obtain ⟨r, hpass, rfl⟩ := hcross
  exact .inr ⟨node, b, e, r, hnode, hb, he, hpass, h⟩

theorem visit_eq_ok (h : p.visit ctx g n = .ok p') : p' = p ∧ (g.nodes[n]? = none ∨ p.blocks[n]? = none) ∨
    ∃ node b b₁ e exit p₁, g.nodes[n]? = some node ∧ p.blocks[n]? = some b ∧ p₁.blocks = p.blocks.setIfInBounds n b₁ ∧
      b.entry = some e ∧ b₁.entry = some e ∧ b₁.status = .stable ∧ ctx.Chain e b₁.steps exit ∧
      b₁.steps.map Step.instr = node.block.instrs ∧ (g.outgoing n).foldlM (propagate ctx e exit) p₁ = .ok p' := by
  obtain hsame | ⟨node, b, e, r, hnode, hb, he, hpass, h⟩ := visit_cases h
  · exact .inl hsame
  · obtain ⟨hchain, hinstrs⟩ := Context.chain_of_pass hpass
    exact .inr ⟨node, b, b.passed r.steps, e, r.exit, p.passed n b r, hnode, hb, rfl, he, he, rfl, hchain, hinstrs, h⟩

theorem isPending_iff : p.isPending n = true ↔ ∃ b, p.blocks[n]? = some b ∧ b.status = .pending := by
  simp [isPending, Option.any_eq_true]

/-- What a visit of the first pending block keeps is kept until the passes end. -/
theorem solve_preserves {P : Progress → Prop} {order : List Nat} {limit : Nat}
    (hvisit : ∀ p n p', P p → order.find? p.isPending = some n → p.visit ctx g n = .ok p' → P p') (hp : P p)
    (h : solve ctx g order limit p = .ok p') : P p' := by
  induction limit generalizing p with
  | zero =>
    cases h
    exact hp
  | succ limit ih =>
    rw [solve] at h
    split at h
    · cases h
      exact hp
    · next n hfind =>
      rw [bind_eq_ok] at h
      obtain ⟨p₁, hp₁, h⟩ := h
      exact ih (hvisit p n p₁ hp hfind hp₁) h

structure Inv (ctx : Context) (g : FlowGraph) (entry : Nat) (s₀ : TypeState) (p : Progress) : Prop where
  size : p.blocks.size = g.size
  start : p.Covers ctx.oracle entry s₀
  fresh : ∀ (n : Nat) b, p.blocks[n]? = some b → b.Fresh
  settled : ∀ (n : Nat) b node, p.blocks[n]? = some b → g.nodes[n]? = some node → b.status = .stable →
    p.Settled ctx node b

namespace Inv
variable {entry : Nat} {s₀ : TypeState}

theorem exists_block {node : Node} (h : Inv ctx g entry s₀ p) (hn : g.nodes[n]? = some node) :
    ∃ b, p.blocks[n]? = some b := by
  have hlt : n < p.blocks.size := h.size ▸ (Array.getElem?_eq_some_iff.1 hn).1
  exact ⟨_, Array.getElem?_eq_getElem hlt⟩

theorem of_start (he : entry < g.size) : Inv ctx g entry s₀ (.start g entry s₀) := by
  have hget : ∀ (n : Nat) b, (Progress.start g entry s₀).blocks[n]? = some b →
      b = { entry := some s₀, status := .pending } ∨ b = {} := by
    intro n b hb
    simp only [Progress.start, Array.getElem?_setIfInBounds, Array.size_replicate, Array.getElem?_replicate] at hb
    split at hb
    · exact .inl (by simpa [he] using hb.symm)
    · split at hb
      · exact .inr (Option.some.inj hb).symm
      · cases hb
  refine ⟨by simp [Progress.start], ⟨{ entry := some s₀, status := .pending }, ?_, s₀, rfl, .refl s₀⟩,
    fun n b hb => ?_, fun n b node hb _ hst => ?_⟩
  · simp [Progress.start, he]
  · rcases hget n b hb with rfl | rfl
    · exact fun hst => (nomatch hst)
    · exact fun _ => ⟨rfl, rfl⟩
  · rcases hget n b hb with rfl | rfl <;> cases hst

theorem visit (hg : ∀ (n : Nat) node, g.nodes[n]? = some node → ∀ e ∈ node.edges, e.target < g.size)
    (hi : Inv ctx g entry s₀ p) (h : p.visit ctx g n = .ok p') : Inv ctx g entry s₀ p' := by
  obtain ⟨rfl, -⟩ | ⟨node, b, b₁, e, exit, p₁, hnode, hb, hblocks, he, he₁, hst₁, hchain, hinstrs, hfold⟩ :=
    visit_eq_ok h
  · exact hi
  have hn : n < p.blocks.size := (Array.getElem?_eq_some_iff.1 hb).1
  have hsize₁ : p₁.blocks.size = g.size := by rw [hblocks, Array.size_setIfInBounds, hi.size]
  have hself : p₁.blocks[n]? = some b₁ := by simp [hblocks, hn]
  have hother : ∀ k : Nat, n ≠ k → p₁.blocks[k]? = p.blocks[k]? := by
    intro k hk
    rw [hblocks, Array.getElem?_setIfInBounds_ne hk]
  -- entry states are left alone by the pass, and grow when the edges are followed
  have hcov₁ : ∀ k s, p.Covers ctx.oracle k s → p₁.Covers ctx.oracle k s := by
    rintro k s ⟨b', hb', e', he', hs⟩
    by_cases hk : n = k
    · subst hk
      cases hb.symm.trans hb'
      exact ⟨b₁, hself, e', he₁.trans (he.symm.trans he'), hs⟩
    · exact ⟨b', by rw [hother k hk]; exact hb', e', he', hs⟩
  have hout : ∀ edge, edge ∈ g.outgoing n ↔ edge ∈ node.edges := by simp [FlowGraph.outgoing, hnode]
  obtain ⟨hgrow, hedges⟩ := propagateAll_eq_ok
    (fun edge hedge => by rw [hsize₁]; exact hg n node hnode edge ((hout edge).1 hedge)) hfold
  have hsettled : p'.Settled ctx node b₁ :=
    ⟨e, e, exit, he₁, e.beq_refl, hchain, hinstrs, fun edge hedge => hedges edge ((hout edge).2 hedge)⟩
  refine ⟨hgrow.size.trans hsize₁, hgrow.covers (hcov₁ _ _ hi.start), fun k b' hb' => ?_,
    fun k b' node' hb' hnode' hst => ?_⟩
  · obtain ⟨b₀, hb₀, hgrow'⟩ := hgrow.block' hb'
    refine hgrow'.fresh ?_
    by_cases hk : n = k
    · subst hk
      cases hself.symm.trans hb₀
      intro hst
      cases hst₁.symm.trans hst
    · exact hi.fresh k b₀ (hother k hk ▸ hb₀)
  · obtain ⟨b₀, hb₀, hgrow'⟩ := hgrow.block' hb'
    by_cases hk : n = k
    · subst hk
      cases hself.symm.trans hb₀
      cases hnode.symm.trans hnode'
      exact hsettled.grow hgrow' hst fun _ _ hcov => hcov
    · have hold := hi.settled k b₀ node' (hother k hk ▸ hb₀) hnode' (hgrow'.stable hst).1
      exact hold.grow hgrow' hst fun j s hcov => hgrow.covers (hcov₁ j s hcov)

theorem solve (hg : ∀ (n : Nat) node, g.nodes[n]? = some node → ∀ e ∈ node.edges, e.target < g.size)
    {order : List Nat} {limit : Nat} (hi : Inv ctx g entry s₀ p) (h : Progress.solve ctx g order limit p = .ok p') :
    Inv ctx g entry s₀ p' :=
  solve_preserves (fun _ _ _ hi _ hvisit => hi.visit hg hvisit) hi h

end Inv

structure Finished (ctx : Context) (g : FlowGraph) (entry : Nat) (s₀ : TypeState) (p : Progress) : Prop extends
    Inv ctx g entry s₀ p where
  done : ∀ (n : Nat) b, p.blocks[n]? = some b → b.status ≠ .pending

namespace Finished
variable {entry : Nat} {s₀ : TypeState} {node : Node} {b : BlockState} {st st' : Step}

theorem settled_of_mem (h : Finished ctx g entry s₀ p) (hn : g.nodes[n]? = some node) (hb : p.blocks[n]? = some b)
    (hst : st ∈ b.steps) : p.Settled ctx node b := by
  refine h.settled n b node hb hn ?_
  cases hstatus : b.status with
  | unvisited => rw [(h.fresh n b hb hstatus).2] at hst; cases hst
  | pending => exact absurd hstatus (h.done n b hb)
  | stable => rfl

/-- A block that a state has flowed into has been carried through from it. -/
theorem reached (h : Finished ctx g entry s₀ p) (hn : g.nodes[n]? = some node) (hs : p.Covers ctx.oracle n s) :
    ∃ b st rest, p.blocks[n]? = some b ∧ b.steps = st :: rest ∧ st.instr = node.block.first ∧
      s.FlowsInto ctx.oracle st.before := by
  obtain ⟨b, hb, e, he, hflow⟩ := hs
  have hst : b.status = .stable := by
    cases hst : b.status with
    | unvisited => cases (h.fresh n b hb hst).1.symm.trans he
    | pending => exact absurd hst (h.done n b hb)
    | stable => rfl
  obtain ⟨_, e', exit, he₁, heq, hchain, hinstrs, -⟩ := h.settled n b node hb hn hst
  cases he₁.symm.trans he
  obtain ⟨st, rest, hsteps, hfirst, -⟩ := List.map_eq_cons_iff.1 hinstrs
  rw [hsteps] at hchain
  exact ⟨b, st, rest, hb, hsteps, hfirst, hchain.before_head ▸ hflow.relabeled heq⟩

end Finished

theorem mem_table {p : Progress} {block : Block} {b : BlockState} : (block, b) ∈ p.table g ↔
    ∃ (n : Nat) (node : Node), g.nodes[n]? = some node ∧ p.blocks[n]? = some b ∧ node.block = block := by
  simp only [table, FlowGraph.blocks, List.mem_iff_getElem?, List.getElem?_zip_eq_some, List.getElem?_map,
    Option.map_eq_some_iff, Array.getElem?_toList]
  constructor
  · rintro ⟨n, ⟨node, hn, hblock⟩, hb⟩; exact ⟨n, node, hn, hb, hblock⟩
  · rintro ⟨n, node, hn, hb, hblock⟩; exact ⟨n, ⟨node, hn, hblock⟩, hb⟩

end Progress

/-! ### Solutions -/

namespace Dataflow
variable {ctx : Context} {c : Code} {g : FlowGraph} {s₀ : TypeState} {p : Progress} {d : Dataflow} {entry n : Nat}
  {node : Node} {st st' : Step}

def at? (d : Dataflow) (a : Address) : Option Step := d.steps.find? (·.instr.address == a)

/-- The recorded steps solve the flow equations of the graph. -/
structure Solution (ctx : Context) (c : Code) (g : FlowGraph) (s₀ : TypeState) (d : Dataflow) : Prop where
  /-- Instructions are recorded in code order, none of them twice. -/
  recorded : (d.steps.map Step.instr).Sublist c.instrs
  /-- A block is reached as a whole. -/
  whole : ∀ node ∈ g.nodes, ∀ st ∈ d.steps, st.instr ∈ node.block.instrs → ∀ i ∈ node.block.instrs,
    ∃ st' ∈ d.steps, st'.instr = i
  performs : ∀ st ∈ d.steps, ctx.Performs st
  start : ∃ st ∈ d.steps, st.instr.address = Address.entry ∧ s₀.FlowsInto ctx.oracle st.before
  within : ∀ node ∈ g.nodes, ∀ is i j js, node.block.instrs = is ++ i :: j :: js → ∀ st ∈ d.steps, st.instr = i →
    ∃ st' ∈ d.steps, st'.instr = j ∧ st'.before = st.after
  along : ∀ node ∈ g.nodes, ∀ e ∈ node.edges, ∀ st ∈ d.steps, st.instr = node.block.last →
    ∃ target s, g.nodes[e.target]? = some target ∧ e.branch.carry st.before st.after = ⟨s, none⟩ ∧
      ∃ st' ∈ d.steps, st'.instr = target.block.first ∧ s.FlowsInto ctx.oracle st'.before

theorem eq_of_recorded (h : (d.steps.map Step.instr).Sublist c.instrs) (hst : st ∈ d.steps) (hst' : st' ∈ d.steps)
    (heq : st.instr.address = st'.instr.address) : st = st' := by
  have hp := c.linked.pairwise.sublist h
  rw [List.pairwise_map] at hp
  exact eq_of_pairwise_address hp hst hst' heq

theorem sublist_flatMap_instrs {bs : List Block} {states : List BlockState}
    (h : ∀ x ∈ bs.zip states, (x.2.steps.map Step.instr).Sublist x.1.instrs) :
    (((bs.zip states).flatMap fun x => x.2.steps).map Step.instr).Sublist (bs.flatMap Block.instrs) := by
  induction bs generalizing states with
  | nil => simp
  | cons b bs ih =>
    cases states with
    | nil => simp
    | cons x states =>
      simp only [List.zip_cons_cons, List.flatMap_cons, List.map_append]
      exact (h (b, x) List.mem_cons_self).append (ih fun y hy => h y (List.mem_cons_of_mem _ hy))

def Records (g : FlowGraph) (p : Progress) (d : Dataflow) : Prop := d.steps = (p.table g).flatMap fun x => x.2.steps

theorem ofProgress_eq_ok (hi : p.Inv ctx g entry s₀) (h : ofProgress g p = .ok d) :
    p.Finished ctx g entry s₀ ∧ d.Records g p := by
  simp only [ofProgress] at h
  split at h
  · cases h
  · next hnone =>
    cases h
    refine ⟨⟨hi, fun n b hb => ?_⟩, rfl⟩
    have hn : n < g.nodes.size := Nat.lt_of_lt_of_eq (Array.getElem?_eq_some_iff.1 hb).1 hi.size
    have hx := Progress.mem_table.2 ⟨n, g.nodes[n], Array.getElem?_eq_getElem hn, hb, rfl⟩
    simpa using List.find?_eq_none.1 hnone _ hx

namespace Records

theorem mem_steps (h : d.Records g p) : st ∈ d.steps ↔
    ∃ (n : Nat) (node : Node) (b : BlockState), g.nodes[n]? = some node ∧ p.blocks[n]? = some b ∧ st ∈ b.steps := by
  rw [h, List.mem_flatMap]
  constructor
  · rintro ⟨⟨block, b⟩, hx, hst⟩
    obtain ⟨n, node, hn, hb, -⟩ := Progress.mem_table.1 hx
    exact ⟨n, node, b, hn, hb, hst⟩
  · rintro ⟨n, node, b, hn, hb, hst⟩
    exact ⟨_, Progress.mem_table.2 ⟨n, node, hn, hb, rfl⟩, hst⟩

theorem sublist (h : d.Records g p) (hg : FlowGraph.ofCode c = .ok g) (hf : p.Finished ctx g entry s₀) :
    (d.steps.map Step.instr).Sublist c.instrs := by
  -- the listing is its blocks one after the other, and so are the steps
  rw [h, Progress.table, ← c.flatMap_instrs_blocks, ← FlowGraph.blocks_ofCode hg]
  refine sublist_flatMap_instrs fun x hx => ?_
  obtain ⟨n, node, hn, hb, hblock⟩ := Progress.mem_table.1 hx
  cases hsteps : x.2.steps with
  | nil => exact List.nil_sublist _
  | cons st rest =>
    obtain ⟨_, _, _, -, -, -, hinstrs, -⟩ := hf.settled_of_mem hn hb (hsteps ▸ List.mem_cons_self)
    have heq : (st :: rest).map Step.instr = x.1.instrs := by rw [← hsteps, hinstrs, hblock]
    simp only [heq, List.Sublist.refl]

/-- A step over an instruction of a block is a step of that block. -/
theorem block_of_mem (h : d.Records g p) (hg : FlowGraph.ofCode c = .ok g) (hf : p.Finished ctx g entry s₀)
    (hn : g.nodes[n]? = some node) (hst : st ∈ d.steps) (hinstr : st.instr ∈ node.block.instrs) :
    ∃ b, p.blocks[n]? = some b ∧ p.Settled ctx node b := by
  obtain ⟨n', node', b, hn', hb, hst⟩ := h.mem_steps.1 hst
  have hset := hf.settled_of_mem hn' hb hst
  obtain ⟨_, _, _, -, -, -, hinstrs, -⟩ := id hset
  obtain rfl : n' = n := FlowGraph.eq_of_mem_instrs hg hn' hn (hinstrs ▸ List.mem_map_of_mem hst) hinstr
  cases hn.symm.trans hn'
  exact ⟨b, hb, hset⟩

theorem whole (h : d.Records g p) (hg : FlowGraph.ofCode c = .ok g) (hf : p.Finished ctx g entry s₀)
    (hn : g.nodes[n]? = some node) (hst : st ∈ d.steps) (hinstr : st.instr ∈ node.block.instrs) {i : LabeledInstr}
    (hi : i ∈ node.block.instrs) : ∃ st' ∈ d.steps, st'.instr = i := by
  obtain ⟨b, hb, _, _, _, -, -, -, hinstrs, -⟩ := h.block_of_mem hg hf hn hst hinstr
  rw [← hinstrs] at hi
  obtain ⟨st', hst', rfl⟩ := List.mem_map.1 hi
  exact ⟨st', h.mem_steps.2 ⟨n, node, b, hn, hb, hst'⟩, rfl⟩

theorem within (h : d.Records g p) (hg : FlowGraph.ofCode c = .ok g) (hf : p.Finished ctx g entry s₀)
    (hn : g.nodes[n]? = some node) {is js : List LabeledInstr} {j : LabeledInstr}
    (hsplit : node.block.instrs = is ++ st.instr :: j :: js) (hst : st ∈ d.steps) :
    ∃ st' ∈ d.steps, st'.instr = j ∧ st'.before = st.after := by
  obtain ⟨b, hb, _, _, _, -, -, hchain, hinstrs, -⟩ :=
    h.block_of_mem hg hf hn hst (hsplit ▸ List.mem_append_right _ List.mem_cons_self)
  obtain ⟨l, _, hl, -, htail⟩ := List.map_eq_append_iff.1 (hinstrs.trans hsplit)
  obtain ⟨x, _, rfl, hx, htail⟩ := List.map_eq_cons_iff.1 htail
  obtain ⟨y, rest, rfl, hy, -⟩ := List.map_eq_cons_iff.1 htail
  have hmem : ∀ z ∈ b.steps, z ∈ d.steps := fun z hz => h.mem_steps.2 ⟨n, node, b, hn, hb, hz⟩
  obtain rfl : x = st := eq_of_recorded (h.sublist hg hf) (hmem x (by simp [hl])) hst (by rw [hx])
  rw [hl] at hchain
  exact ⟨y, hmem y (by simp [hl]), hy, hchain.before_next⟩

/-- What an edge carries from the block it leaves, seen from the last instruction of the block. -/
theorem along (h : d.Records g p) (hg : FlowGraph.ofCode c = .ok g) (hf : p.Finished ctx g entry s₀)
    (hn : g.nodes[n]? = some node) {e : Edge} (he : e ∈ node.edges) (hst : st ∈ d.steps)
    (hlast : st.instr = node.block.last) :
    ∃ s, e.branch.carry st.before st.after = ⟨s, none⟩ ∧ p.Covers ctx.oracle e.target s := by
  obtain ⟨b, hb, _, e', exit, -, -, hchain, hinstrs, hedges⟩ :=
    h.block_of_mem hg hf hn hst (hlast ▸ node.block.last_mem)
  obtain ⟨s, hs, hcov⟩ := hedges e he
  refine ⟨s, ?_, hcov⟩
  rw [node.block.instrs_eq_append, ← hlast] at hinstrs
  obtain ⟨l, _, hl, hinit, htail⟩ := List.map_eq_append_iff.1 hinstrs
  obtain ⟨x, rfl, hx⟩ := List.map_eq_singleton_iff.1 htail
  have hxd : x ∈ d.steps := h.mem_steps.2 ⟨n, node, b, hn, hb, by simp [hl]⟩
  obtain rfl : x = st := eq_of_recorded (h.sublist hg hf) hxd hst (by rw [hx])
  rw [hl] at hchain
  rw [hchain.after_last]
  -- an edge to a handler leaves a block of one instruction, whose entry state is the state before it
  by_cases hx : e.branch.isExceptional
  · have hrest := FlowGraph.rest_eq_nil_of_isExceptional hg hn he hx
    obtain rfl : l = [] := by simpa [Block.instrs, hrest] using hinit
    rw [hchain.before_head, hs]
  · simpa [Branch.carry, hx] using hs

end Records

theorem Solution.of_finished (hg : FlowGraph.ofCode c = .ok g) (hentry : g.entry = .ok entry)
    (hf : p.Finished ctx g entry s₀) (h : d.Records g p) : Solution ctx c g s₀ d where
  recorded := h.sublist hg hf
  whole node hnode st hst hinstr i hi := by
    obtain ⟨n, hn⟩ := Array.mem_iff_getElem?.1 hnode
    exact h.whole hg hf hn hst hinstr hi
  performs st hst := by
    obtain ⟨n, node, b, hn, hb, hst⟩ := h.mem_steps.1 hst
    obtain ⟨_, _, _, -, -, hchain, -, -⟩ := hf.settled_of_mem hn hb hst
    exact hchain.performs hst
  start := by
    obtain ⟨node, hn, hstart⟩ := FlowGraph.entry_eq_ok hentry
    obtain ⟨b, st, rest, hb, hst, hfirst, hflow⟩ := hf.reached hn hf.start
    exact ⟨st, h.mem_steps.2 ⟨entry, node, b, hn, hb, by simp [hst]⟩, hfirst ▸ hstart, hflow⟩
  within node hnode is i j js hsplit st hst hi := by
    obtain ⟨n, hn⟩ := Array.mem_iff_getElem?.1 hnode
    exact h.within hg hf hn (hi ▸ hsplit) hst
  along node hnode e he st hst hlast := by
    obtain ⟨n, hn⟩ := Array.mem_iff_getElem?.1 hnode
    obtain ⟨s, hs, hcov⟩ := h.along hg hf hn he hst hlast
    have htarget := Array.getElem?_eq_getElem (FlowGraph.target_lt hg hn he)
    obtain ⟨b, st', rest, hb, hst', hfirst, hflow⟩ := hf.reached htarget hcov
    exact ⟨_, s, htarget, hs, st', h.mem_steps.2 ⟨_, _, b, htarget, hb, by simp [hst']⟩, hfirst, hflow⟩

theorem finished_of_solve {order : List Nat} {limit : Nat} (hg : FlowGraph.ofCode c = .ok g)
    (hentry : g.entry = .ok entry)
    (hp : Progress.solve ctx g order limit (.start g entry s₀) = .ok p) (h : ofProgress g p = .ok d) :
    p.Finished ctx g entry s₀ ∧ d.Records g p := by
  refine ofProgress_eq_ok ?_ h
  have hstart : Progress.Inv ctx g entry s₀ (.start g entry s₀) := .of_start (FlowGraph.entry_lt hentry)
  exact hstart.solve (fun n node hn e he => FlowGraph.target_lt hg hn he) hp

namespace Solution

theorem mem_instrs (h : Solution ctx c g s₀ d) (hst : st ∈ d.steps) : st.instr ∈ c.instrs :=
  h.recorded.subset (List.mem_map_of_mem hst)

theorem eq_of_address (h : Solution ctx c g s₀ d) (hst : st ∈ d.steps) (hst' : st' ∈ d.steps)
    (heq : st.instr.address = st'.instr.address) : st = st' :=
  eq_of_recorded h.recorded hst hst' heq

theorem at?_eq_some (h : Solution ctx c g s₀ d) {a : Address} :
    d.at? a = some st ↔ st ∈ d.steps ∧ st.instr.address = a := by
  constructor
  · intro hst
    exact ⟨List.mem_of_find?_eq_some hst, by simpa using List.find?_some hst⟩
  · rintro ⟨hst, rfl⟩
    cases hfind : d.at? st.instr.address with
    | none => simpa using List.find?_eq_none.1 hfind st hst
    | some st' =>
      rw [h.eq_of_address (List.mem_of_find?_eq_some hfind) hst (by simpa using List.find?_some hfind)]

end Solution
end Dataflow
end Dalvik
