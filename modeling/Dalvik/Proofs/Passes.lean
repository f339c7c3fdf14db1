import Dalvik.Proofs.Fixpoint

/-!
# What passes keep

A block changes in two ways only: a pass over it replaces its steps, and a state comes in along an edge from a block
that was just passed over. What both keep (`Progress.Kept`) holds of every block at every time, once it holds at the
start.
-/

namespace Dalvik.Progress
variable {ctx : Context} {g : FlowGraph} {p p' : Progress} {n : Nat} {P : Nat → BlockState → Prop}

/-- The property holds of every block. -/
def All (P : Nat → BlockState → Prop) (p : Progress) : Prop := ∀ (n : Nat) b, p.blocks[n]? = some b → P n b

theorem All.set {b' : BlockState} (h : p.All P) (hb' : P n b') (hblocks : p'.blocks = p.blocks.setIfInBounds n b') :
    p'.All P := by
  intro k b hb
  rw [hblocks, Array.getElem?_setIfInBounds] at hb
  split at hb
  · next hk =>
    subst hk
    split at hb
    · cases hb
      exact hb'
    · cases hb
  · exact h k b hb

theorem All.start {entry : Nat} {s : TypeState} (hentry : P entry { entry := some s, status := .pending })
    (hother : ∀ n, P n {}) : (start g entry s).All P := by
  let unvisited : Progress := ⟨Array.replicate g.size {}, {}, #[]⟩
  have hunvisited : unvisited.All P := by
    intro k b hb
    rw [Array.getElem?_replicate] at hb
    split at hb
    · cases hb
      exact hother k
    · cases hb
  exact hunvisited.set hentry rfl

/-- Carrying the first state through the instructions of the block gives the second one. -/
def Crosses (ctx : Context) (g : FlowGraph) (n : Nat) (entry exit : TypeState) : Prop :=
  ∃ node steps, g.nodes[n]? = some node ∧ steps.map Step.instr = node.block.instrs ∧ ctx.Chain entry steps exit

/-- The property is kept by passes and by what comes in along edges. -/
structure Kept (ctx : Context) (g : FlowGraph) (P : Nat → BlockState → Prop) : Prop where
  pass : ∀ n b steps, b.entry.isSome = true → P n b → P n (b.passed steps)
  receive : ∀ n b₀ entry exit, P n b₀ → b₀.entry = some entry → Crosses ctx g n entry exit →
    ∀ e ∈ g.outgoing n, (e.branch.carry entry exit).failure = none → ∀ b b', P e.target b →
      b.receive ctx.oracle (e.branch.carry entry exit).state = .ok b' → P e.target b'

namespace Kept
variable {entry exit : TypeState} {b₀ : BlockState}

theorem propagate (hP : Kept ctx g P) (hb₀ : P n b₀) (he₀ : b₀.entry = some entry) (hcross : Crosses ctx g n entry exit)
    {e : Edge} (he : e ∈ g.outgoing n) (hp : p.All P) (h : p.propagate ctx entry exit e = .ok p') : p'.All P := by
  obtain ⟨hfail, ⟨rfl, -⟩ | ⟨b, b', hb, hreceive, hblocks, -⟩⟩ := propagate_cases h
  · exact hp
  · exact hp.set (hP.receive n b₀ entry exit hb₀ he₀ hcross e he hfail b b' (hp _ b hb) hreceive) hblocks

theorem visit (hP : Kept ctx g P) (hp : p.All P) (h : p.visit ctx g n = .ok p') : p'.All P := by
  obtain ⟨rfl, -⟩ | ⟨node, b, e, r, hnode, hb, he, hpass, h⟩ := visit_cases h
  · exact hp
  · have hPb := hp n b hb
    have hpassed : (p.passed n b r).All P := hp.set (hP.pass n b r.steps (by rw [he]; rfl) hPb) rfl
    obtain ⟨hchain, hinstrs⟩ := Context.chain_of_pass hpass
    have hcross : Crosses ctx g n e r.exit := ⟨node, r.steps, hnode, hinstrs, hchain⟩
    exact foldlM_preserves (fun _ hedge _ _ hp h => hP.propagate hPb he hcross hedge hp h) hpassed h

theorem solve (hP : Kept ctx g P) {order : List Nat} {limit : Nat} (hp : p.All P)
    (h : Progress.solve ctx g order limit p = .ok p') : p'.All P :=
  solve_preserves (fun _ _ _ hp _ hvisit => hP.visit hp hvisit) hp h

end Kept
end Dalvik.Progress
