import Dalvik.FlowGraph.Order
import Dalvik.Proofs.Blocks

/-!
# Depth-first orders

A depth-first search opens a block from the one on top of the open ones, and finishes the one on top when all that it
leads to is open or finished (`FlowGraph.DepthFirst`). In which order the successors of a block are looked at is left
open. However it is chosen, when no block is open any more the finished ones, the last one first, are the blocks that
the start leads to, each once, with the start in front (`DepthFirst.mem_iff`, `nodup`, `head?_eq`).

The order of blocks is one of these orders (`FlowGraph.depthFirst_reversePostorder`): the stack of the search holds the
open blocks, and on top of each of them successors of it that are still to be looked at (`FlowGraph.Layers`).
-/

namespace Dalvik.FlowGraph
variable {c : Code} {g : FlowGraph} {start n k : Nat} {opened finished discovered stack order : List Nat}

/-- A depth-first search from a block comes to have these blocks open and finished, the last ones first. -/
inductive DepthFirst (g : FlowGraph) (start : Nat) : List Nat → List Nat → Prop
  | init : DepthFirst g start [start] []
  | discover {n k : Nat} {opened finished : List Nat} : DepthFirst g start (n :: opened) finished → g.Leads n k →
      k ∉ n :: opened → k ∉ finished → DepthFirst g start (k :: n :: opened) finished
  | finish {n : Nat} {opened finished : List Nat} : DepthFirst g start (n :: opened) finished →
      (∀ k, g.Leads n k → k ∈ n :: opened ∨ k ∈ finished) → DepthFirst g start opened (n :: finished)

namespace DepthFirst

-- a block that is finished keeps its place in the list of the open blocks, lowest first, and the finished ones
theorem nodup_reverse_append (h : g.DepthFirst start opened finished) : (opened.reverse ++ finished).Nodup := by
  induction h with
  | init => exact List.nodup_singleton start
  | discover _ _ hopened hfinished ih =>
    rw [List.reverse_cons, List.append_assoc, List.singleton_append, List.nodup_middle, List.nodup_cons,
      List.mem_append, List.mem_reverse, not_or]
    exact ⟨⟨hopened, hfinished⟩, ih⟩
  | finish _ _ ih => simpa using ih

theorem head?_reverse_append (h : g.DepthFirst start opened finished) :
    (opened.reverse ++ finished).head? = some start := by
  induction h with
  | init => rfl
  | discover _ _ _ _ ih => simpa [List.head?_append] using ih
  | finish _ _ ih => simpa using ih

theorem reached (h : g.DepthFirst start opened finished) (hn : n ∈ opened ∨ n ∈ finished) :
    Relation.ReflTransGen g.Leads start n := by
  induction h generalizing n with
  | init =>
    obtain rfl : n = start := by simpa using hn
    exact .refl
  | discover _ hlead _ _ ih =>
    rcases hn with hn | hn
    · rcases List.mem_cons.1 hn with rfl | hn
      · exact (ih (.inl List.mem_cons_self)).tail hlead
      · exact ih (.inl hn)
    · exact ih (.inr hn)
  | finish _ _ ih =>
    rcases hn with hn | hn
    · exact ih (.inl (List.mem_cons_of_mem _ hn))
    · rcases List.mem_cons.1 hn with rfl | hn
      · exact ih (.inl List.mem_cons_self)
      · exact ih (.inr hn)

theorem successor (h : g.DepthFirst start opened finished) (hn : n ∈ finished) (hlead : g.Leads n k) :
    k ∈ opened ∨ k ∈ finished := by
  induction h with
  | init => exact absurd hn List.not_mem_nil
  | discover _ _ _ _ ih => exact (ih hn).imp_left (List.mem_cons_of_mem _)
  | finish _ hall ih =>
    have hk := (List.mem_cons.1 hn).elim (fun heq => hall k (heq ▸ hlead)) ih
    rcases hk with hk | hk
    · exact (List.mem_cons.1 hk).elim (fun heq => .inr (heq ▸ List.mem_cons_self)) .inl
    · exact .inr (List.mem_cons_of_mem _ hk)

/-- A block that is open leads to those that are open above it. -/
theorem pairwise_opened (h : g.DepthFirst start opened finished) :
    opened.Pairwise fun n k => Relation.TransGen g.Leads k n := by
  induction h with
  | init => exact List.pairwise_singleton _ start
  | discover _ hlead _ _ ih =>
    refine List.pairwise_cons.2 ⟨fun m hm => ?_, ih⟩
    rcases List.mem_cons.1 hm with rfl | hm
    · exact .single hlead
    · exact (List.rel_of_pairwise_cons ih hm).tail hlead
  | finish _ _ ih => exact ih.of_cons

theorem nodup (h : g.DepthFirst start [] order) : order.Nodup := h.nodup_reverse_append

theorem head?_eq (h : g.DepthFirst start [] order) : order.head? = some start := h.head?_reverse_append

theorem mem_of_leads (h : g.DepthFirst start [] order) (hn : n ∈ order) (hlead : g.Leads n k) : k ∈ order :=
  (h.successor hn hlead).resolve_left List.not_mem_nil

/-- The order holds exactly the blocks that the start leads to. -/
theorem mem_iff (h : g.DepthFirst start [] order) : n ∈ order ↔ Relation.ReflTransGen g.Leads start n := by
  refine ⟨fun hn => h.reached (.inr hn), fun hn => ?_⟩
  induction hn with
  | refl => exact List.mem_of_head? h.head?_eq
  | tail _ hlead ih => exact h.mem_of_leads ih hlead

end DepthFirst

/-- The blocks that go on top of a block when it is discovered. -/
theorem mem_next : k ∈ (((g.outgoing n).map Edge.target).filter (· ∉ n :: discovered)).reverse ↔
    g.Leads n k ∧ k ∉ n :: discovered := by
  rw [List.mem_reverse, List.mem_filter, List.mem_map, decide_eq_true_iff]
  rfl

/-- The stack of a search: on top of every open block stand some of its successors, and the other ones are
discovered. -/
inductive Layers (g : FlowGraph) (discovered : List Nat) : List Nat → List Nat → Prop
  | nil : Layers g discovered [] []
  | layer {n : Nat} {opened next stack : List Nat} : Layers g discovered opened stack →
      (∀ k ∈ next, g.Leads n k ∧ k ∉ n :: opened) → (∀ k, g.Leads n k → k ∈ next ∨ k ∈ discovered) →
      Layers g discovered (n :: opened) (next ++ n :: stack)

namespace Layers

theorem mono {discovered' : List Nat} (h : g.Layers discovered opened stack)
    (hsub : ∀ k ∈ discovered, k ∈ discovered') : g.Layers discovered' opened stack := by
  induction h with
  | nil => exact .nil
  | layer _ hnext hleads ih => exact .layer ih hnext fun k hlead => (hleads k hlead).imp_right (hsub k)

theorem eq_nil (h : g.Layers discovered opened []) : opened = [] := by
  generalize hstack : [] = stack at h
  cases h with
  | nil => rfl
  | layer => simp at hstack

/-- On top of the stack is the open block on top, with all its successors discovered, or one of its successors. -/
theorem top (h : g.Layers discovered opened (n :: stack)) :
    (∃ rest, opened = n :: rest ∧ g.Layers discovered rest stack ∧ ∀ k, g.Leads n k → k ∈ discovered) ∨
      ∃ m rest, opened = m :: rest ∧ g.Leads m n ∧ n ∉ opened ∧
        ∀ discovered', n ∈ discovered' → (∀ k ∈ discovered, k ∈ discovered') → g.Layers discovered' opened stack := by
  generalize hstack : n :: stack = whole at h
  cases h with
  | nil => cases hstack
  | @layer m opened next rest hrest hnext hleads =>
    cases next with
    | nil =>
      cases hstack
      exact .inl ⟨opened, rfl, hrest, fun k hlead => (hleads k hlead).resolve_left List.not_mem_nil⟩
    | cons k next =>
      cases hstack
      refine .inr ⟨m, opened, rfl, (hnext n List.mem_cons_self).1, (hnext n List.mem_cons_self).2, ?_⟩
      intro discovered' hn hsub
      refine .layer (hrest.mono hsub) (fun k hk => hnext k (List.mem_cons_of_mem _ hk)) fun k hlead => ?_
      rcases hleads k hlead with hk | hk
      · exact (List.mem_cons.1 hk).elim (fun heq => .inr (heq ▸ hn)) .inl
      · exact .inr (hsub k hk)

end Layers

/-- The search goes on like a depth-first search until no block is open. -/
theorem DepthFirst.search (hg : ofCode c = .ok g) (h : g.DepthFirst start opened finished)
    (hlayers : g.Layers discovered opened stack) (hmem : ∀ k, k ∈ discovered ↔ k ∈ opened ∨ k ∈ finished) :
    g.DepthFirst start [] (g.search discovered stack finished) := by
  fun_induction FlowGraph.search g discovered stack finished generalizing opened with
  | case1 discovered finished =>
    rw [hlayers.eq_nil] at h
    exact h
  | case2 discovered finished n stack hn ih =>
    obtain ⟨rest, rfl, hrest, hsuccessors⟩ | ⟨m, rest, rfl, hlead, hopened, hrest⟩ := hlayers.top
    · have hunfinished : n ∉ finished := by
        intro hfinished
        exact List.disjoint_of_nodup_append h.nodup_reverse_append (by simp) hfinished
      rw [dif_neg hunfinished] at ih
      rw [if_neg hunfinished]
      refine ih (h.finish fun k hlead => (hmem k).1 (hsuccessors k hlead)) hrest fun k => ?_
      rw [hmem, List.mem_cons, List.mem_cons]
      exact or_assoc.trans or_left_comm
    · have hfinished : n ∈ finished := ((hmem n).1 hn).resolve_left hopened
      rw [dif_pos hfinished] at ih
      rw [if_pos hfinished]
      exact ih h (hrest discovered hn fun _ hk => hk) hmem
  | case3 discovered finished n stack hn hlt next =>
    rename_i ih
    obtain ⟨rest, rfl, -⟩ | ⟨m, rest, rfl, hlead, hopened, hrest⟩ := hlayers.top
    · exact absurd ((hmem n).2 (.inl List.mem_cons_self)) hn
    · have hunfinished : n ∉ finished := fun hfinished => hn ((hmem n).2 (.inr hfinished))
      refine ih (h.discover hlead hopened hunfinished) (.layer (hrest _ List.mem_cons_self fun k hk => ?_) ?_ ?_) ?_
      · exact List.mem_cons_of_mem _ hk
      · intro k hk
        obtain ⟨hlead', hnew⟩ := mem_next.1 hk
        refine ⟨hlead', fun hk' => hnew ?_⟩
        exact (List.mem_cons.1 hk').elim (fun heq => heq ▸ List.mem_cons_self)
          fun hk' => List.mem_cons_of_mem _ ((hmem k).2 (.inl hk'))
      · intro k hlead'
        by_cases hk : k ∈ n :: discovered
        · exact .inr hk
        · exact .inl (mem_next.2 ⟨hlead', hk⟩)
      · intro k
        rw [List.mem_cons, List.mem_cons, hmem, or_assoc]
  | case4 discovered finished n stack hn hlt ih =>
    obtain ⟨rest, rfl, -⟩ | ⟨m, rest, rfl, hlead, -⟩ := hlayers.top
    · exact absurd ((hmem n).2 (.inl List.mem_cons_self)) hn
    · exact absurd (hlead.lt hg) hlt

/-- The order of blocks is the finishing order of a depth-first search, backwards. -/
theorem depthFirst_reversePostorder (hg : ofCode c = .ok g) (hstart : start < g.size) :
    g.DepthFirst start [] (g.reversePostorder start) := by
  rw [reversePostorder, FlowGraph.search, if_neg List.not_mem_nil, if_pos hstart]
  refine DepthFirst.init.search hg (.layer .nil (fun k hk => mem_next.1 hk) fun k hlead => ?_) (by simp)
  by_cases hk : k ∈ [start]
  · exact .inr hk
  · exact .inl (mem_next.2 ⟨hlead, hk⟩)

end Dalvik.FlowGraph
