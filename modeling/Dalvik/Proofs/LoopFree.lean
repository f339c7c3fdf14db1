import Dalvik.Proofs.Reachability

/-!
# Passes over code without loops

The finishing order of a depth-first search, taken backwards, puts a block before all blocks that it leads to, when no
block leads back to itself (`FlowGraph.DepthFirst.sorted`). A pass over the first pending block makes only later blocks
pending, so the passes sweep over the order once (`Progress.Swept`): a block is passed over after all blocks that lead
to it, and never again (`Verification.passes_once`).
-/

namespace Dalvik

namespace FlowGraph
variable {g : FlowGraph} {start n k : Nat} {opened finished order : List Nat}

/-- No block that the start leads to leads back to itself. -/
def LoopFree (g : FlowGraph) (start : Nat) : Prop :=
  ∀ n, Relation.ReflTransGen g.Leads start n → ¬ Relation.TransGen g.Leads n n

theorem LoopFree.of_lt (h : ∀ n k, g.Leads n k → n < k) : g.LoopFree start := by
  intro n _ hloop
  have hlt : Relation.TransGen (· < ·) n n := Relation.TransGen.mono h _ _ hloop
  rw [Relation.transGen_eq_self] at hlt
  exact hlt.false

/-- All that a block leads to stands after it. -/
def Sorted (g : FlowGraph) (order : List Nat) : Prop :=
  ∀ before n after, order = before ++ n :: after → ∀ k, g.Leads n k → k ∈ after

theorem Sorted.cons (h : g.Sorted order) (hn : ∀ k, g.Leads n k → k ∈ order) : g.Sorted (n :: order) := by
  intro before m after hsplit k hlead
  rcases List.cons_eq_append_iff.1 hsplit with ⟨-, heq⟩ | ⟨before', -, heq⟩
  · cases heq
    exact hn k hlead
  · exact h before' m after heq k hlead

/-- Without loops, a depth-first search finishes a block after all that it leads to. -/
theorem DepthFirst.sorted (hloop : g.LoopFree start) (h : g.DepthFirst start opened finished) :
    g.Sorted finished := by
  induction h with
  | init =>
    intro before n after hsplit
    simp at hsplit
  | discover _ _ _ _ ih => exact ih
  | @finish n opened finished h hall ih =>
    refine ih.cons fun k hlead => (hall k hlead).resolve_left fun hk => ?_
    -- a block that is still open leads to the one on top
    have hcycle := hloop n (h.reached (.inl List.mem_cons_self))
    rcases List.mem_cons.1 hk with rfl | hk
    · exact hcycle (.single hlead)
    · exact hcycle (.head hlead (List.rel_of_pairwise_cons h.pairwise_opened hk))

end FlowGraph

/-! ### Sweeps -/

/-- The block is passed over at most once, as one of `swept`; it can be pending as one of `rest` only. -/
structure BlockState.Once (swept rest : List Nat) (n : Nat) (b : BlockState) : Prop where
  pending : b.status = .pending → n ∈ rest
  passed : b.visits ≠ 0 → n ∈ swept
  once : b.visits ≤ 1

theorem BlockState.Once.receive {swept rest : List Nat} {n : Nat} {b b' : BlockState} {o : ClassOracle} {s : TypeState}
    (h : Once swept rest n b) (hn : n ∈ rest) (hreceive : b.receive o s = .ok b') : Once swept rest n b' := by
  have hvisits : b'.visits = b.visits := by
    obtain ⟨-, rfl⟩ | ⟨_, _, -, -, rfl⟩ := receive_cases hreceive <;> rfl
  exact ⟨fun _ => hn, hvisits ▸ h.passed, hvisits ▸ h.once⟩

namespace Progress
variable {ctx : Context} {g : FlowGraph} {order : List Nat} {p p' : Progress} {n : Nat}

/-- The passes have gone over a first part of the order, in which no block is pending. -/
def Swept (order : List Nat) (p : Progress) : Prop :=
  ∃ swept rest, order = swept ++ rest ∧ p.All (BlockState.Once swept rest)

theorem Swept.start {entry : Nat} {s : TypeState} (hentry : entry ∈ order) : (start g entry s).Swept order := by
  refine ⟨[], order, rfl, .start ?_ fun n => ?_⟩
  · exact ⟨fun _ => hentry, fun h => absurd rfl h, Nat.zero_le 1⟩
  · exact ⟨fun h => (nomatch h), fun h => absurd rfl h, Nat.zero_le 1⟩

/-- The sweep goes on up to the first pending block; blocks that it skips are not pending. -/
theorem all_once_passed {swept rest before after : List Nat} {b : BlockState} {r : Pass}
    (hnodup : (swept ++ rest).Nodup) (hall : p.All (BlockState.Once swept rest))
    (hsplit : swept ++ rest = before ++ n :: after) (hbefore : ∀ k ∈ before, p.isPending k = false)
    (hpending : p.isPending n = true) (hb : p.blocks[n]? = some b) :
    (p.passed n b r).All (BlockState.Once (before ++ [n]) after) := by
  have hn : n ∉ swept := by
    obtain ⟨b', hb', hstatus⟩ := isPending_iff.1 hpending
    intro hn
    exact List.disjoint_of_nodup_append hnodup hn ((hall n b' hb').pending hstatus)
  have hswept : ∀ k ∈ swept, k ∈ before ++ [n] := by
    have hleft : swept <+: before ++ n :: after := ⟨rest, hsplit⟩
    have hright : before ++ [n] <+: before ++ n :: after := ⟨after, by simp⟩
    intro k hk
    rcases List.prefix_or_prefix_of_prefix hleft hright with hle | hle
    · exact hle.subset hk
    · exact absurd (hle.subset (List.mem_append_right _ List.mem_cons_self)) hn
  intro k b' hb'
  rw [Progress.passed, Array.getElem?_setIfInBounds] at hb'
  split at hb'
  · next hk =>
    subst hk
    split at hb'
    · cases hb'
      have hvisits : b.visits = 0 := by
        by_contra hvisits
        exact hn ((hall n b hb).passed hvisits)
      refine ⟨fun h => (nomatch h), fun _ => List.mem_append_right _ List.mem_cons_self, ?_⟩
      show b.visits + 1 ≤ 1
      omega
    · cases hb'
  · next hk =>
    have hk' := hall k b' hb'
    refine ⟨fun hstatus => ?_, fun hvisits => hswept k (hk'.passed hvisits), hk'.once⟩
    have hmem : k ∈ before ++ n :: after := hsplit ▸ List.mem_append_right _ (hk'.pending hstatus)
    rcases List.mem_append.1 hmem with hmem | hmem
    · have hstill := isPending_iff.2 ⟨b', hb', hstatus⟩
      rw [hbefore k hmem] at hstill
      cases hstill
    · rcases List.mem_cons.1 hmem with rfl | hmem
      · exact absurd rfl hk
      · exact hmem

theorem Swept.visit (hnodup : order.Nodup) (hsorted : g.Sorted order) (hp : p.Swept order)
    (hfind : order.find? p.isPending = some n) (h : p.visit ctx g n = .ok p') : p'.Swept order := by
  obtain ⟨rfl, -⟩ | ⟨node, b, e, r, hnode, hb, he, hpass, h⟩ := visit_cases h
  · exact hp
  obtain ⟨swept, rest, rfl, hall⟩ := hp
  obtain ⟨hpending, before, after, hsplit, hbefore⟩ := List.find?_eq_some_iff_append.1 hfind
  have hpassed : (p.passed n b r).All (BlockState.Once (before ++ [n]) after) :=
    all_once_passed hnodup hall hsplit (fun k hk => by simpa using hbefore k hk) hpending hb
  refine ⟨before ++ [n], after, by simp [hsplit], ?_⟩
  -- what the block leads to is still ahead of the sweep
  refine foldlM_preserves (fun edge hedge p₁ p₂ hp₁ hp₂ => ?_) hpassed h
  obtain ⟨-, ⟨rfl, -⟩ | ⟨b₁, b₂, hb₁, hreceive, hblocks, -⟩⟩ := propagate_cases hp₂
  · exact hp₁
  · have hafter := hsorted before n after hsplit edge.target ⟨edge, hedge, rfl⟩
    exact hp₁.set ((hp₁ _ b₁ hb₁).receive hafter hreceive) hblocks

theorem swept_of_solve {entry limit : Nat} {s₀ : TypeState} (horder : g.DepthFirst entry [] order)
    (hloop : g.LoopFree entry) (h : solve ctx g order limit (.start g entry s₀) = .ok p) : p.Swept order := by
  have hmem : entry ∈ order := horder.mem_iff.2 .refl
  exact solve_preserves (fun _ _ _ hp hfind hvisit => hp.visit horder.nodup (horder.sorted hloop) hfind hvisit)
    (.start hmem) h

end Progress

/-! ### Counted passes -/

theorem Dataflow.stable_iff_leads {ctx : Context} {c : Code} {g : FlowGraph} {entry n : Nat} {s₀ : TypeState}
    {p : Progress} {d : Dataflow} {node : Node} {b : BlockState} (hg : FlowGraph.ofCode c = .ok g)
    (hentry : g.entry = .ok entry) (hf : p.Finished ctx g entry s₀) (hrec : d.Records g p)
    (hvisited : p.All (BlockState.Visited g entry)) (hn : g.nodes[n]? = some node) (hb : p.blocks[n]? = some b) :
    b.status = .stable ↔ Relation.ReflTransGen g.Leads entry n := by
  constructor
  · intro hstable
    refine (hvisited n b hb).leads ?_
    rw [Option.isSome_iff_ne_none, ne_eq, ← (hvisited n b hb).unvisited, hstable]
    exact nofun
  · intro hleads
    have hfirst := node.block.first_mem
    rw [stable_iff_recorded hg hf hrec hn hb hfirst, recorded_iff_reaches hg hentry hf hrec hvisited]
    exact FlowGraph.reaches_of_leads hg hentry hleads hn hfirst

namespace Verification

/-- In code without loops, every block that can be reached is passed over once. -/
theorem passes_once {o : ClassOracle} {limit entry : Nat} {m : Method} {v : Verification} {c : Code} {g : FlowGraph}
    (hv : within o limit m = .ok v) (hc : m.code = some c) (hg : FlowGraph.ofCode c = .ok g)
    (hentry : g.entry = .ok entry) (hloop : g.LoopFree entry) (a : Address) (k : Nat) :
    (a, k) ∈ v.flow.visits ↔ k = 1 ∧ ∃ (n : Nat) (node : Node), g.nodes[n]? = some node ∧ node.block.start = a ∧
      Relation.ReflTransGen g.Leads entry n := by
  obtain ⟨c', hc', hflow⟩ := within_eq_ok hv
  cases hc.symm.trans hc'
  obtain ⟨g', entry', s₀, p, hg', hentry', -, hp, hd⟩ := Dataflow.compute_eq_ok hflow
  cases hg.symm.trans hg'
  cases hentry.symm.trans hentry'
  have hvisited := Progress.visited_of_solve hp
  obtain ⟨hf, hrec⟩ := Dataflow.finished_of_solve hg hentry hp hd
  have horder := FlowGraph.depthFirst_reversePostorder hg (FlowGraph.entry_lt hentry)
  obtain ⟨swept, rest, -, honce⟩ := Progress.swept_of_solve horder hloop hp
  have hcount : ∀ (n : Nat) b, p.blocks[n]? = some b → b.status = .stable → b.visits = 1 := by
    intro n b hb hstable
    exact Nat.le_antisymm (honce n b hb).once ((hvisited n b hb).counted hstable)
  rw [Dataflow.mem_visits hd]
  constructor
  · rintro ⟨n, node, b, hn, hb, hstable, hstart, rfl⟩
    have hleads := (Dataflow.stable_iff_leads hg hentry hf hrec hvisited hn hb).1 hstable
    exact ⟨hcount n b hb hstable, n, node, hn, hstart, hleads⟩
  · rintro ⟨rfl, n, node, hn, hstart, hleads⟩
    obtain ⟨b, hb⟩ := hf.exists_block hn
    have hstable := (Dataflow.stable_iff_leads hg hentry hf hrec hvisited hn hb).2 hleads
    exact ⟨n, node, b, hn, hb, hstable, hstart, hcount n b hb hstable⟩

/-! A block that is reached in three ways: past a division, around it, and when it fails. -/

def dividingCode : Code where
  __ := Code.ofInstrs 1 1 (.ifTestZero .eq 1 7) [.binaryLit .div 0 1 2, .goto 7, .moveException 0, .returnVoid]
  tries := [⟨2, 4, [], some 6⟩]
  try_nonempty := by simp

def dividingMethod : Method where
  descriptor := ⟨.object "Kennel", "divide", [.prim .int], .void⟩
  flags := Flags.static
  code := some dividingCode

def dividingGraph : FlowGraph where
  nodes := #[
    ⟨⟨.plain 0 2 (.ifTestZero .eq 1 7), []⟩, [⟨.ifTrue 1 .eq .zero, 4⟩, ⟨.ifFalse 1 .eq .zero, 1⟩]⟩,
    ⟨⟨.plain 2 4 (.binaryLit .div 0 1 2), []⟩, [⟨.divSuccess, 2⟩, ⟨.caughtAny, 3⟩]⟩,
    ⟨⟨.plain 4 6 (.goto 7), []⟩, [⟨.jump, 4⟩]⟩,
    ⟨⟨.plain 6 7 (.moveException 0), []⟩, [⟨.sequence, 4⟩]⟩,
    ⟨⟨.plain 7 8 .returnVoid, []⟩, []⟩]

theorem ofCode_dividingCode : FlowGraph.ofCode dividingCode = .ok dividingGraph := rfl

theorem loopFree_dividingGraph : dividingGraph.LoopFree 0 := by
  refine .of_lt fun n k hlead => ?_
  have hn : n < 5 := by
    by_contra hn
    obtain ⟨e, he, -⟩ := hlead
    have hnone : dividingGraph.nodes[n]? = none := Array.getElem?_eq_none (by simpa [dividingGraph] using hn)
    simp [FlowGraph.outgoing, hnone] at he
  have hedges : ∀ n < 5, ∀ e ∈ dividingGraph.outgoing n, n < e.target := by decide
  obtain ⟨e, he, rfl⟩ := hlead
  exact hedges n hn e he

theorem passes_once_dividing :
    dividingGraph.LoopFree 0 ∧ ∃ v, within Hierarchy.empty.oracle 9 dividingMethod = .ok v ∧
      v.flow.visits = [(0, 1), (2, 1), (4, 1), (6, 1), (7, 1)] ∧
        ∀ a k, (a, k) ∈ v.flow.visits ↔ k = 1 ∧ ∃ (n : Nat) (node : Node), dividingGraph.nodes[n]? = some node ∧
          node.block.start = a ∧ Relation.ReflTransGen dividingGraph.Leads 0 n := by
  have hrun : (within Hierarchy.empty.oracle 9 dividingMethod).toOption.map (·.flow.visits) =
      some [(0, 1), (2, 1), (4, 1), (6, 1), (7, 1)] := by cbv
  obtain ⟨v, hv, hvisits⟩ := exists_ok_of_toOption hrun
  exact ⟨loopFree_dividingGraph, v, hv, hvisits, passes_once hv rfl ofCode_dividingCode rfl loopFree_dividingGraph⟩

end Verification
end Dalvik
