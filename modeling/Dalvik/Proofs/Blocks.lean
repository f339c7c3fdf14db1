import Dalvik.FlowGraph
import Mathlib

/-!
# Blocks of a listing

What the flow graph of a listing keeps of it. The blocks, one after the other, are the listing
(`flatMap_instrs_blocks`), and addresses increase along it, so an instruction is known by its address and a block by its
start. No instruction but the first one of a block is a leader; a block that ends with an instruction that may throw is
therefore this instruction alone (`rest_eq_nil`), and edges to handlers leave such blocks only. Every edge leads to a
block.
-/

namespace Dalvik

section
variable {ε α β : Type}

theorem bind_eq_ok {x : Except ε α} {f : α → Except ε β} {b : β} :
    (x >>= f) = .ok b ↔ ∃ a, x = .ok a ∧ f a = .ok b := by
  cases x with
  | error e => simp [bind, Except.bind]
  | ok a => simp [bind, Except.bind]

theorem bind_eq_error {x : Except ε α} {f : α → Except ε β} {e : ε} :
    (x >>= f) = .error e ↔ x = .error e ∨ ∃ a, x = .ok a ∧ f a = .error e := by
  cases x with
  | error e => simp [bind, Except.bind]
  | ok a => simp [bind, Except.bind]

theorem pure_eq_ok {a b : α} : (pure a : Except ε α) = .ok b ↔ a = b := by simp [pure, Except.pure]

/-- A computation whose result was looked at has not failed. -/
theorem exists_ok_of_toOption {x : Except ε α} {f : α → β} {b : β} (h : x.toOption.map f = some b) :
    ∃ a, x = .ok a ∧ f a = b := by
  cases x with
  | error e => cases h
  | ok a => exact ⟨a, rfl, Option.some.inj h⟩

theorem mapM_eq_ok {f : α → Except ε β} {l : List α} {l' : List β} (h : l.mapM f = .ok l') :
    l'.length = l.length ∧ ∀ (n : Nat) b, l'[n]? = some b → ∃ a, l[n]? = some a ∧ f a = .ok b := by
  induction l generalizing l' with
  | nil =>
    obtain rfl : [] = l' := by simpa [pure_eq_ok] using h
    simp
  | cons a l ih =>
    simp only [List.mapM_cons, bind_eq_ok, pure_eq_ok] at h
    obtain ⟨b, hb, bs, hbs, rfl⟩ := h
    obtain ⟨hlen, hget⟩ := ih hbs
    refine ⟨by simp [hlen], fun n b' hn => ?_⟩
    cases n with
    | zero =>
      obtain rfl : b = b' := by simpa using hn
      exact ⟨a, rfl, hb⟩
    | succ n => exact hget n b' (by simpa using hn)

theorem mapM_eq_error {l : List α} {f : α → Except ε β} {e : ε} (h : l.mapM f = .error e) :
    ∃ a ∈ l, f a = .error e := by
  induction l with
  | nil => cases h
  | cons a l ih =>
    rw [List.mapM_cons, bind_eq_error] at h
    rcases h with h | ⟨b, -, h⟩
    · exact ⟨a, List.mem_cons_self, h⟩
    · rcases bind_eq_error.1 h with h | ⟨bs, -, h⟩
      · obtain ⟨a', ha', h⟩ := ih h
        exact ⟨a', List.mem_cons_of_mem _ ha', h⟩
      · cases h

/-- What every step keeps is kept by all of them. -/
theorem foldlM_preserves {f : β → α → Except ε β} {P : β → Prop} {l : List α} {b b' : β}
    (hf : ∀ a ∈ l, ∀ b b', P b → f b a = .ok b' → P b') (hb : P b) (h : l.foldlM f b = .ok b') : P b' := by
  induction l generalizing b with
  | nil => exact pure_eq_ok.1 h ▸ hb
  | cons a l ih =>
    rw [List.foldlM_cons, bind_eq_ok] at h
    obtain ⟨b₁, hb₁, h⟩ := h
    exact ih (fun a ha => hf a (List.mem_cons_of_mem _ ha)) (hf a List.mem_cons_self b b₁ hb hb₁) h

end

theorem Linked.pairwise {is : List LabeledInstr} (h : Linked is) :
    is.Pairwise fun i j => i.address < j.address := by
  induction is with
  | nil => exact .nil
  | cons i rest ih =>
    cases rest with
    | nil => exact List.pairwise_singleton _ _
    | cons j rest =>
      obtain ⟨-, hij, hrest⟩ := h
      have hp := ih hrest
      refine List.pairwise_cons.2 ⟨fun k hk => ?_, hp⟩
      rcases List.mem_cons.1 hk with rfl | hk
      · exact hij
      · exact Nat.lt_trans hij ((List.pairwise_cons.1 hp).1 k hk)

/-- In a list with increasing addresses, an entry is known by its address. -/
theorem eq_of_pairwise_address {α : Type} {l : List α} {address : α → Address}
    (hl : l.Pairwise fun a b => address a < address b) {a b : α} (ha : a ∈ l) (hb : b ∈ l) (h : address a = address b) :
    a = b := by
  obtain ⟨m, hm, rfl⟩ := List.getElem_of_mem ha
  obtain ⟨n, hn, rfl⟩ := List.getElem_of_mem hb
  rw [List.pairwise_iff_getElem] at hl
  rcases Nat.lt_trichotomy m n with hmn | rfl | hmn
  · exact absurd h (Nat.ne_of_lt (hl m n hm hn hmn))
  · rfl
  · exact absurd h.symm (Nat.ne_of_lt (hl n m hn hm hmn))

theorem Code.eq_of_address {c : Code} {i j : LabeledInstr} (hi : i ∈ c.instrs) (hj : j ∈ c.instrs)
    (h : i.address = j.address) : i = j :=
  eq_of_pairwise_address c.linked.pairwise hi hj h

theorem LocatedInstr.firstDisorder_assemble (start : Address) (instrs : List Instr) :
    firstDisorder (assemble start instrs) = none := by
  induction instrs generalizing start with
  | nil => rfl
  | cons i rest ih =>
    cases rest with
    | nil => rfl
    | cons j rest =>
      have hlt : start < start + i.size := Nat.lt_add_of_pos_right i.size_pos
      rw [assemble, assemble, firstDisorder, if_pos hlt]
      exact ih (start + i.size)

/-- An instruction of a plain listing. -/
def LabeledInstr.plain (a next : Address) (i : Instr) : LabeledInstr := ⟨a, next, i, ⟨none, a, .single (-1)⟩⟩

/-- Code without handlers, in which every instruction starts where the one before it ends. -/
def Code.ofInstrs (localsSize insSize : Nat) (first : Instr) (rest : List Instr) : Code where
  registersSize := localsSize + insSize
  insSize := insSize
  instrs := LocatedInstr.link (LocatedInstr.assemble Address.entry (first :: rest))
  tries := []
  instrs_ne_nil := LocatedInstr.link_ne_nil (List.cons_ne_nil _ _)
  insSize_le := Nat.le_add_left insSize localsSize
  linked := LocatedInstr.linked_link (LocatedInstr.firstDisorder_assemble _ _)
  try_nonempty := fun _ ht => absurd ht List.not_mem_nil

/-! ### Splitting -/

namespace Block
variable {isLeader : Address → Bool} {is : List LabeledInstr} {b : Block}

theorem first_mem (b : Block) : b.first ∈ b.instrs := List.mem_cons_self

theorem instrs_eq_append (b : Block) : b.instrs = b.instrs.dropLast ++ [b.last] := by
  have h : b.instrs ≠ [] := List.cons_ne_nil _ _
  rw [last, ← List.getLast_eq_getLastD h]
  exact (List.dropLast_concat_getLast h).symm

theorem last_mem (b : Block) : b.last ∈ b.instrs := by
  rw [b.instrs_eq_append]
  simp

theorem flatMap_instrs_split (isLeader : Address → Bool) (is : List LabeledInstr) :
    (split isLeader is).flatMap instrs = is := by
  induction is with
  | nil => rfl
  | cons i rest ih =>
    rw [split]
    split
    · next h => rw [h] at ih; simp [instrs, ← ih]
    · next b bs h =>
      rw [h] at ih
      split <;> simp [instrs, ← ih]

theorem isLeader_of_mem_rest (hb : b ∈ split isLeader is) {i : LabeledInstr} (hi : i ∈ b.rest) :
    isLeader i.address = false := by
  induction is generalizing b with
  | nil => simp [split] at hb
  | cons j rest ih =>
    rw [split] at hb
    split at hb
    · obtain rfl : b = ⟨j, []⟩ := by simpa using hb
      simp at hi
    · next b' bs h =>
      rw [h] at ih
      split at hb
      · rcases List.mem_cons.1 hb with rfl | hb
        · simp at hi
        · exact ih hb hi
      · next hlead =>
        rcases List.mem_cons.1 hb with rfl | hb
        · rcases List.mem_cons.1 hi with rfl | hi
          · exact Bool.eq_false_iff.2 hlead
          · exact ih List.mem_cons_self hi
        · exact ih (List.mem_cons_of_mem _ hb) hi

end Block

namespace Code
variable {c : Code} {b : Block}

theorem flatMap_instrs_blocks (c : Code) : c.blocks.flatMap Block.instrs = c.instrs :=
  Block.flatMap_instrs_split _ _

/-- Addresses increase inside blocks, and from a block to the next one. -/
theorem pairwise_blocks (c : Code) : (∀ b ∈ c.blocks, b.instrs.Pairwise fun i j => i.address < j.address) ∧
    c.blocks.Pairwise fun b b' => ∀ i ∈ b.instrs, ∀ j ∈ b'.instrs, i.address < j.address := by
  have hp := c.linked.pairwise
  rwa [← c.flatMap_instrs_blocks, List.pairwise_flatMap] at hp

theorem mem_instrs_of_block (hb : b ∈ c.blocks) {i : LabeledInstr} (hi : i ∈ b.instrs) : i ∈ c.instrs :=
  c.flatMap_instrs_blocks ▸ List.mem_flatMap.2 ⟨b, hb, hi⟩

/-- A block that ends with an instruction that may throw holds nothing else. -/
theorem rest_eq_nil (hb : b ∈ c.blocks) (ht : b.last.instr.canThrow) : b.rest = [] := by
  cases hr : b.rest with
  | nil => rfl
  | cons i rest =>
    have hlast : b.last ∈ b.rest := by
      rw [Block.last, hr, List.getLastD_cons]
      cases hl : rest.getLast? with
      | none => simp [List.getLastD_eq_getLast?, hl]
      | some j => simp [List.getLastD_eq_getLast?, hl, List.mem_of_getLast? hl]
    have hlead : b.last.address ∈ c.leaders :=
      List.mem_append_left _ (List.mem_flatMap.2 ⟨b.last, mem_instrs_of_block hb b.last_mem, by simp [leadersOf, ht]⟩)
    have hno := Block.isLeader_of_mem_rest hb hlast
    simp [hlead] at hno

theorem mem_branches_of_catches {i : LabeledInstr} {x : Branch × Address} (h : x ∈ c.catches i) :
    ∃ item ∈ c.tries, x ∈ item.branches := by
  unfold catches at h
  split at h
  · cases htry : c.tries.find? (·.covers i.address) with
    | none =>
      rw [htry] at h
      cases h
    | some item =>
      rw [htry] at h
      exact ⟨item, List.mem_of_find?_eq_some htry, h⟩
  · cases h

end Code

/-! ### The graph of a listing -/

namespace FlowGraph
variable {c : Code} {g : FlowGraph} {n n' : Nat} {node node' : Node}

theorem resolve_eq_ok {blocks : List Block} {source : Address} {b : Branch × Address} {e : Edge}
    (h : resolve blocks source b = .ok e) : e.branch = b.1 ∧ blockIndex? blocks b.2 = some e.target := by
  obtain ⟨branch, target⟩ := b
  rw [resolve] at h
  split at h
  · next n hn => cases h; exact ⟨rfl, hn⟩
  · cases h

theorem blockIndex?_eq_some {blocks : List Block} {a : Address} (h : blockIndex? blocks a = some n) :
    ∃ b, blocks[n]? = some b ∧ b.start = a := by
  obtain ⟨hn, ha, -⟩ := List.findIdx?_eq_some_iff_getElem.1 h
  exact ⟨blocks[n], List.getElem?_eq_getElem hn, by simpa using ha⟩

/-- An edge is a branch of the last instruction of its block, or goes on to the next block. -/
theorem mem_edgesOf {blocks : List Block} {i : LabeledInstr} {edges : List Edge} {e : Edge}
    (h : edgesOf c blocks i = .ok edges) (he : e ∈ edges) :
    (∃ a, blockIndex? blocks a = some e.target) ∧
      (e.branch = .sequence ∨ ∃ b ∈ i.branching ++ c.catches i, e.branch = b.1) := by
  simp only [edgesOf, bind_eq_ok, pure_eq_ok] at h
  obtain ⟨resolved, hres, rfl⟩ := h
  rcases List.mem_append.1 he with he | he
  · unfold sequenceEdge at he
    split at he
    · obtain ⟨n, hn, rfl⟩ := List.mem_map.1 he
      exact ⟨⟨i.next, by simpa using hn⟩, .inl rfl⟩
    · cases he
  · obtain ⟨k, hk⟩ := List.mem_iff_getElem?.1 he
    obtain ⟨b, hb, hr⟩ := (mapM_eq_ok hres).2 k e hk
    obtain ⟨hbr, htarget⟩ := resolve_eq_ok hr
    exact ⟨⟨b.2, htarget⟩, .inr ⟨b, List.mem_of_getElem? hb, hbr⟩⟩

theorem ofCode_eq_ok (hg : ofCode c = .ok g) : c.blocks.mapM (nodeOf c c.blocks) = .ok g.nodes.toList := by
  simp only [ofCode, bind_eq_ok, pure_eq_ok] at hg
  obtain ⟨nodes, hnodes, rfl⟩ := hg
  exact hnodes

/-- The nodes are the blocks of the listing, in order, each with the edges of its last instruction. -/
theorem getElem?_nodes (hg : ofCode c = .ok g) (hn : g.nodes[n]? = some node) :
    c.blocks[n]? = some node.block ∧ edgesOf c c.blocks node.block.last = .ok node.edges := by
  obtain ⟨b, hb, hnode⟩ := (mapM_eq_ok (ofCode_eq_ok hg)).2 n node (by simpa using hn)
  simp only [nodeOf, bind_eq_ok, pure_eq_ok] at hnode
  obtain ⟨edges, hedges, rfl⟩ := hnode
  exact ⟨hb, hedges⟩

theorem block_mem (hg : ofCode c = .ok g) (hn : g.nodes[n]? = some node) : node.block ∈ c.blocks :=
  List.mem_of_getElem? (getElem?_nodes hg hn).1

theorem size_ofCode (hg : ofCode c = .ok g) : g.size = c.blocks.length :=
  (mapM_eq_ok (ofCode_eq_ok hg)).1

theorem blocks_ofCode (hg : ofCode c = .ok g) : g.blocks = c.blocks := by
  have hlen : g.blocks.length = c.blocks.length := by rw [← size_ofCode hg]; simp [blocks, size]
  refine List.ext_getElem hlen fun n h₁ h₂ => ?_
  have hn : n < g.nodes.size := by simpa [blocks] using h₁
  have hb := (getElem?_nodes hg (Array.getElem?_eq_getElem hn)).1
  rw [List.getElem?_eq_getElem h₂] at hb
  simpa [blocks] using (Option.some.inj hb).symm

theorem mem_instrs (hg : ofCode c = .ok g) (hn : g.nodes[n]? = some node) {i : LabeledInstr}
    (hi : i ∈ node.block.instrs) : i ∈ c.instrs :=
  Code.mem_instrs_of_block (block_mem hg hn) hi

theorem target_lt (hg : ofCode c = .ok g) (hn : g.nodes[n]? = some node) {e : Edge} (he : e ∈ node.edges) :
    e.target < g.size := by
  obtain ⟨⟨a, ha⟩, -⟩ := mem_edgesOf (getElem?_nodes hg hn).2 he
  obtain ⟨b, hb, -⟩ := blockIndex?_eq_some ha
  rw [size_ofCode hg]
  exact (List.getElem?_eq_some_iff.1 hb).1

theorem isExceptional_branching {i : LabeledInstr} {b : Branch × Address} (hb : b ∈ i.branching) :
    b.1.isExceptional = false := by
  unfold LabeledInstr.branching at hb
  split at hb
  case h_2 | h_3 =>
    simp only [List.mem_cons, List.not_mem_nil, or_false] at hb
    rcases hb with rfl | rfl <;> rfl
  case h_4 =>
    simp only [List.mem_cons, List.mem_map] at hb
    rcases hb with rfl | ⟨_, -, rfl⟩ <;> rfl
  case h_10 | h_11 =>
    split at hb
    · obtain rfl := List.mem_singleton.1 hb; rfl
    · cases hb
  case h_13 => cases hb
  all_goals obtain rfl := List.mem_singleton.1 hb; rfl

/-- Edges to handlers leave blocks of one instruction only. -/
theorem rest_eq_nil_of_isExceptional (hg : ofCode c = .ok g) (hn : g.nodes[n]? = some node) {e : Edge}
    (he : e ∈ node.edges) (hx : e.branch.isExceptional) : node.block.rest = [] := by
  refine Code.rest_eq_nil (block_mem hg hn) ?_
  obtain ⟨-, hseq | ⟨b, hb, hbr⟩⟩ := mem_edgesOf (getElem?_nodes hg hn).2 he
  · rw [hseq] at hx; cases hx
  · rw [hbr] at hx
    rcases List.mem_append.1 hb with hb | hb
    · rw [isExceptional_branching hb] at hx; cases hx
    · unfold Code.catches at hb
      split at hb
      · assumption
      · cases hb

/-- An instruction is in one block only. -/
theorem eq_of_mem_instrs (hg : ofCode c = .ok g) (hn : g.nodes[n]? = some node) (hn' : g.nodes[n']? = some node')
    {i : LabeledInstr} (hi : i ∈ node.block.instrs) (hi' : i ∈ node'.block.instrs) : n = n' := by
  have hp := List.pairwise_iff_getElem.1 c.pairwise_blocks.2
  obtain ⟨hlt, hget⟩ := List.getElem?_eq_some_iff.1 (getElem?_nodes hg hn).1
  obtain ⟨hlt', hget'⟩ := List.getElem?_eq_some_iff.1 (getElem?_nodes hg hn').1
  rcases Nat.lt_trichotomy n n' with h | h | h
  · exact absurd (hp n n' hlt hlt' h i (hget ▸ hi) i (hget' ▸ hi')) (Nat.lt_irrefl _)
  · exact h
  · exact absurd (hp n' n hlt' hlt h i (hget' ▸ hi') i (hget ▸ hi)) (Nat.lt_irrefl _)

theorem entry_eq_ok (h : g.entry = .ok n) : ∃ node, g.nodes[n]? = some node ∧ node.block.start = Address.entry := by
  unfold entry at h
  split at h
  · next m hm =>
    cases h
    obtain ⟨b, hb, hstart⟩ := blockIndex?_eq_some hm
    rw [blocks, List.getElem?_map, Option.map_eq_some_iff] at hb
    obtain ⟨node, hnode, rfl⟩ := hb
    exact ⟨node, by simpa using hnode, hstart⟩
  · cases h

theorem entry_lt (h : g.entry = .ok n) : n < g.size := by
  obtain ⟨node, hn, -⟩ := entry_eq_ok h
  exact (Array.getElem?_eq_some_iff.1 hn).1

theorem mem_outgoing (hn : g.nodes[n]? = some node) {e : Edge} : e ∈ g.outgoing n ↔ e ∈ node.edges := by
  simp [outgoing, hn]

/-- An edge goes from the first block to the second one. -/
def Leads (g : FlowGraph) (n n' : Nat) : Prop := ∃ e ∈ g.outgoing n, e.target = n'

theorem Leads.lt (hg : ofCode c = .ok g) (h : g.Leads n n') : n' < g.size := by
  obtain ⟨e, he, rfl⟩ := h
  cases hn : g.nodes[n]? with
  | none => simp [outgoing, hn] at he
  | some node => exact target_lt hg hn ((mem_outgoing hn).1 he)

end FlowGraph
end Dalvik
