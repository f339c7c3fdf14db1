import Dalvik.Proofs.Edges
import Dalvik.Proofs.Fixpoint

/-!
# Leaders and blocks

The blocks of a flow graph are the pieces of the listing between its leaders: one starts at the first instruction,
leader or not, and one at every other instruction that is a leader (`Block.map_first_split`). An instruction that may
throw is a leader and makes the next one a leader, so nothing else is in its block, and a pass over the block sees the
entry state before it. Leaders at addresses where no instruction stands do not count.

`FlowGraph.partitions_of_ofCode` puts this together.
-/

namespace Dalvik

/-- Blocks start at the first instruction, and then at the leaders. -/
theorem Block.map_first_split (isLeader : Address → Bool) (i : LabeledInstr) (is : List LabeledInstr) :
    (split isLeader (i :: is)).map first = i :: is.filter (isLeader ·.address) := by
  induction is generalizing i with
  | nil => rfl
  | cons j is ih =>
    have hrest := ih j
    rw [split]
    cases hsplit : split isLeader (j :: is) with
    | nil =>
      rw [hsplit] at hrest
      cases hrest
    | cons b bs =>
      rw [hsplit, List.map_cons, List.cons.injEq] at hrest
      obtain ⟨hfirst, hbs⟩ := hrest
      have hstart : b.start = j.address := by rw [start, hfirst]
      dsimp only
      by_cases hleader : isLeader j.address = true
      · rw [hstart, if_pos hleader]
        simp [hfirst, hbs, hleader]
      · rw [hstart, if_neg hleader]
        simp [hbs, hleader]

/-! ### Blocks -/

namespace Code
variable {c : Code} {i : LabeledInstr} {b : Block}

theorem first_iff : (∃ b ∈ c.blocks, b.first = i) ↔
    c.instrs.head? = some i ∨ i ∈ c.instrs ∧ c.IsLeader i.address := by
  obtain ⟨i₀, is, hinstrs⟩ := List.exists_cons_of_ne_nil c.instrs_ne_nil
  have hfirst : c.blocks.map Block.first = i₀ :: is.filter (c.leaders.contains ·.address) := by
    rw [blocks, hinstrs, Block.map_first_split]
  rw [← List.mem_map, hfirst, List.mem_cons, List.mem_filter, List.contains_iff_mem, mem_leaders_iff, hinstrs,
    List.head?_cons, Option.some.injEq, List.mem_cons, eq_comm (a := i₀)]
  constructor
  · rintro (h | ⟨hi, hleader⟩)
    · exact .inl h
    · exact .inr ⟨.inr hi, hleader⟩
  · rintro (h | ⟨h | hi, hleader⟩)
    · exact .inl h
    · exact .inl h
    · exact .inr ⟨hi, hleader⟩

theorem pairwise_start (c : Code) : c.blocks.Pairwise fun b b' => b.start < b'.start :=
  c.pairwise_blocks.2.imp fun h => h _ (Block.first_mem _) _ (Block.first_mem _)

/-- An instruction that may throw is alone in its block. -/
theorem instrs_eq_singleton (hb : b ∈ c.blocks) (hi : i ∈ b.instrs) (ht : i.instr.canThrow = true) :
    b.instrs = [i] := by
  have hlast : i = b.last := by
    rcases eq_last_or_endsBlock_eq_false hb hi with hlast | hends
    · exact hlast
    · rw [(LabeledInstr.endsBlock_eq_false_iff.1 hends).2.1] at ht
      cases ht
  have hrest : b.rest = [] := rest_eq_nil hb (hlast ▸ ht)
  rw [Block.instrs, hrest] at hi ⊢
  rw [List.mem_singleton.1 hi]

theorem canThrow_iff (hb : b ∈ c.blocks) : b.canThrow = true ↔ ∃ i ∈ b.instrs, i.instr.canThrow = true := by
  constructor
  · intro h
    exact ⟨b.first, b.first_mem, h⟩
  · rintro ⟨i, hi, ht⟩
    have hfirst := b.first_mem
    rw [instrs_eq_singleton hb hi ht, List.mem_singleton] at hfirst
    rw [Block.canThrow, hfirst]
    exact ht

/-- A pass over a block sees the entry state before an instruction that may throw. -/
theorem before_eq_entry (hb : b ∈ c.blocks) {ctx : Context} {sites : AllocationSites} {notes : Array Note}
    {s : TypeState} {p : Pass} (hp : ctx.pass sites notes s b.instrs = .ok p) {st : Step} (hst : st ∈ p.steps)
    (ht : st.instr.instr.canThrow = true) : st.before = s := by
  obtain ⟨hchain, hinstrs⟩ := Context.chain_of_pass hp
  have hmem : st.instr ∈ b.instrs := hinstrs ▸ List.mem_map_of_mem hst
  rw [instrs_eq_singleton hb hmem ht, List.map_eq_singleton_iff] at hinstrs
  obtain ⟨st', hsteps, -⟩ := hinstrs
  rw [hsteps] at hchain hst
  obtain rfl := List.mem_singleton.1 hst
  cases hchain with
  | cons hbefore _ _ => exact hbefore

end Code

/-! ### The graph -/

namespace FlowGraph
variable {c : Code} {g : FlowGraph}

/-- The blocks are the listing, cut before its leaders. -/
structure Partitions (g : FlowGraph) (c : Code) : Prop where
  increasing : g.blocks.Pairwise fun b b' => b.start < b'.start
  listing : g.blocks.flatMap Block.instrs = c.instrs
  start : ∀ b ∈ g.blocks, b.instrs.head?.map LabeledInstr.address = some b.start
  /-- Blocks start at the first instruction and at the leaders. -/
  first : ∀ i, (∃ b ∈ g.blocks, b.first = i) ↔ c.instrs.head? = some i ∨ i ∈ c.instrs ∧ c.IsLeader i.address
  alone : ∀ b ∈ g.blocks, ∀ i ∈ b.instrs, i.instr.canThrow = true → b.instrs = [i]
  canThrow : ∀ b ∈ g.blocks, b.canThrow = true ↔ ∃ i ∈ b.instrs, i.instr.canThrow = true
  /-- The state before an instruction that may throw is the one in which its block is entered. -/
  before : ∀ b ∈ g.blocks, ∀ (ctx : Context) sites notes s p, ctx.pass sites notes s b.instrs = .ok p →
    ∀ st ∈ p.steps, st.instr.instr.canThrow = true → st.before = s
  branches : ∀ i ∈ c.instrs, ∀ x ∈ i.branching, ∃ b ∈ g.blocks, b.start = x.2
  handlers : ∀ i ∈ c.instrs, i.instr.canThrow = true → ∀ t, c.FirstCovering i.address t →
    (∀ h ∈ t.handlers, ∃ b ∈ g.blocks, b.start = h.target) ∧ ∀ a ∈ t.catchAll, ∃ b ∈ g.blocks, b.start = a
  /-- Every edge leads to the start of a block, by one of the ways out of the block it leaves. -/
  edges : ∀ node ∈ g.nodes, ∀ e ∈ node.edges, ∃ b, g.blocks[e.target]? = some b ∧
    (e.branch, b.start) ∈ c.exits node.block.last

/-- A block starts wherever an instruction leads. -/
theorem exists_start (hg : ofCode c = .ok g) {i : LabeledInstr} (hi : i ∈ c.instrs) {x : Branch × Address}
    (hx : x ∈ i.branching ++ c.catches i) : ∃ b ∈ c.blocks, b.start = x.2 := by
  have hinstr : c.HasInstr x.2 := Code.targeted_iff.1 (exists_ofCode_iff.1 ⟨g, hg⟩) i hi x hx
  obtain ⟨n, hn⟩ := exists_blockIndex?_of_leader (Code.target_mem_leaders hi hx) hinstr
  obtain ⟨b, hb, hstart⟩ := blockIndex?_eq_some hn
  exact ⟨b, List.mem_of_getElem? hb, hstart⟩

theorem start_of_edge (hg : ofCode c = .ok g) {node : Node} (hnode : node ∈ g.nodes) {e : Edge} (he : e ∈ node.edges) :
    ∃ b, g.blocks[e.target]? = some b ∧ (e.branch, b.start) ∈ c.exits node.block.last := by
  obtain ⟨n, hn⟩ := Array.mem_iff_getElem?.1 hnode
  have harrival : g.arrival e ∈ node.edges.map g.arrival := List.mem_map_of_mem he
  rw [arrival_edges hg hn] at harrival
  obtain ⟨x, hx, heq⟩ := List.mem_map.1 harrival
  obtain ⟨hbranch, hstart⟩ := Prod.mk.inj heq
  obtain ⟨node', hnode', hstart'⟩ := Option.map_eq_some_iff.1 hstart.symm
  refine ⟨node'.block, ?_, ?_⟩
  · rw [blocks, List.getElem?_map, Array.getElem?_toList, hnode']
    rfl
  · rwa [hstart', ← hbranch]

theorem partitions_of_ofCode (hg : ofCode c = .ok g) : g.Partitions c where
  increasing := blocks_ofCode hg ▸ c.pairwise_start
  listing := blocks_ofCode hg ▸ c.flatMap_instrs_blocks
  start := fun _ _ => rfl
  first := fun _ => blocks_ofCode hg ▸ Code.first_iff
  alone := by
    rw [blocks_ofCode hg]
    exact fun _ hb _ hi ht => Code.instrs_eq_singleton hb hi ht
  canThrow := by
    rw [blocks_ofCode hg]
    exact fun _ hb => Code.canThrow_iff hb
  before := by
    rw [blocks_ofCode hg]
    exact fun _ hb _ _ _ _ _ hp _ hst ht => Code.before_eq_entry hb hp hst ht
  branches := by
    intro i hi x hx
    rw [blocks_ofCode hg]
    exact exists_start hg hi (List.mem_append_left _ hx)
  handlers := by
    intro i hi ht t hcov
    have hstart : ∀ x ∈ t.branches, ∃ b ∈ c.blocks, b.start = x.2 := by
      intro x hx
      refine exists_start hg hi (List.mem_append_right _ ?_)
      rwa [Code.catches_eq ht hcov]
    rw [blocks_ofCode hg]
    exact ⟨fun h hh => hstart _ (TryItem.mem_branches.2 (.inl ⟨h, hh, rfl⟩)),
      fun a ha => hstart _ (TryItem.mem_branches.2 (.inr ⟨a, ha, rfl⟩))⟩
  edges := fun _ hnode _ he => start_of_edge hg hnode he

/-! The first instruction is no leader, and no instruction is where the try range ends. -/

def halvingCode : Code where
  __ := Code.ofInstrs 1 0 (.const 0 7) [.binaryLit .div 0 0 2, .nop, .returnVoid, .moveException 0, .goto 5]
  tries := [⟨3, 4, [], some 7⟩]
  try_nonempty := by simp

def halvingGraph : FlowGraph where
  nodes := #[
    ⟨⟨.plain 0 3 (.const 0 7), []⟩, [⟨.sequence, 1⟩]⟩,
    ⟨⟨.plain 3 5 (.binaryLit .div 0 0 2), []⟩, [⟨.divSuccess, 2⟩, ⟨.caughtAny, 3⟩]⟩,
    ⟨⟨.plain 5 6 .nop, [.plain 6 7 .returnVoid]⟩, []⟩,
    ⟨⟨.plain 7 8 (.moveException 0), [.plain 8 10 (.goto 5)]⟩, [⟨.jump, 2⟩]⟩]

theorem partitions_halving : ofCode halvingCode = .ok halvingGraph ∧ halvingGraph.Partitions halvingCode := by
  have hg : ofCode halvingCode = .ok halvingGraph := rfl
  exact ⟨hg, partitions_of_ofCode hg⟩

end FlowGraph
end Dalvik
