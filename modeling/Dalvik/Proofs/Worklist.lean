import Dalvik.Proofs.DepthFirst
import Dalvik.Proofs.Fixpoint

/-!
# The queue of pending blocks

A block is pending exactly when it waits in the queue, and its rank is then in the heap (`Worklist.Tracks`). So the
block of least rank is the first pending one of the order, and the loop that takes blocks from the queue is the one that
visits the first pending block each time (`Worklist.run_eq_solve`). This holds for the finishing order of any
depth-first search from the entry block.
-/

namespace Dalvik

/-- A fold that another one follows step by step, as long as the property holds. -/
theorem foldlM_simulates {σ τ α ε : Type} {f : σ → α → Except ε σ} {f' : τ → α → Except ε τ} {view : σ → τ}
    {P : σ → Prop} {l : List α}
    (hstep : ∀ a ∈ l, ∀ x, P x → (f x a).map view = f' (view x) a ∧ ∀ y, f x a = .ok y → P y) {x : σ} (hx : P x) :
    (l.foldlM f x).map view = l.foldlM f' (view x) ∧ ∀ y, l.foldlM f x = .ok y → P y := by
  induction l generalizing x with
  | nil =>
    refine ⟨rfl, ?_⟩
    rintro y ⟨⟩
    exact hx
  | cons a l ih =>
    obtain ⟨hview, hP⟩ := hstep a List.mem_cons_self x hx
    rw [List.foldlM_cons, List.foldlM_cons, ← hview]
    cases hy : f x a with
    | error e => exact ⟨rfl, fun _ h => (nomatch h)⟩
    | ok y => exact ih (fun b hb => hstep b (List.mem_cons_of_mem _ hb)) (hP y hy)

namespace Progress
variable {ctx : Context} {g : FlowGraph} {p p' : Progress} {n k : Nat}

theorem isPending_of_set {b : BlockState} (hn : n < p.blocks.size)
    (hblocks : p'.blocks = p.blocks.setIfInBounds n b) :
    p'.isPending k = if n = k then decide (b.status = .pending) else p.isPending k := by
  unfold isPending
  rw [hblocks, Array.getElem?_setIfInBounds]
  split
  · next hk =>
    subst hk
    simp
  · rfl

theorem isPending_wake (hn : n < p.blocks.size) : (p.wake n).isPending k = if n = k then true else p.isPending k := by
  unfold isPending wake
  rw [Array.getElem?_modify]
  split
  · next hk =>
    subst hk
    rw [Array.getElem?_eq_getElem hn]
    rfl
  · rfl

/-- A block that is pending need not be woken. -/
theorem wake_eq_self (h : p.isPending n = true) : p.wake n = p := by
  obtain ⟨b, hb, hstatus⟩ := isPending_iff.1 h
  have hblocks : (p.wake n).blocks = p.blocks := by
    refine Array.ext_getElem? fun k => ?_
    simp only [wake, Array.getElem?_modify]
    split
    · next hk =>
      subst hk
      rw [hb, Option.map_some, ← hstatus]
    · rfl
  exact congrArg (fun blocks => { p with blocks }) hblocks

/-- Bringing a state to a block leaves alone which blocks are pending. -/
theorem isPending_deliver {entry exit : TypeState} {e : Edge} {changed : Bool}
    (h : p.deliver ctx entry exit e = .ok (p', changed)) :
    p'.blocks.size = p.blocks.size ∧ ∀ k, p'.isPending k = p.isPending k := by
  obtain ⟨-, ⟨rfl, -, -⟩ | ⟨b, joined, hb, -, hblocks, -⟩⟩ := deliver_cases h
  · exact ⟨rfl, fun _ => rfl⟩
  · refine ⟨by rw [hblocks, Array.size_setIfInBounds], fun k => ?_⟩
    rw [isPending_of_set (Array.getElem?_eq_some_iff.1 hb).1 hblocks]
    split
    · next hk =>
      subst hk
      rw [isPending, hb]
      rfl
    · rfl

/-- The block that was passed over is not pending any more. -/
theorem isPending_cross {entry exit : TypeState} (h : p.cross ctx g n = .ok (some (p', entry, exit))) :
    p'.blocks.size = p.blocks.size ∧ ∀ k, p'.isPending k = if n = k then false else p.isPending k := by
  unfold cross at h
  split at h
  case h_2 => cases h
  next node b hnode hb =>
  split at h
  · cases h
  · simp only [bind_eq_ok, pure_eq_ok] at h
    obtain ⟨r, -, ⟨⟩⟩ := h
    refine ⟨Array.size_setIfInBounds, fun k => ?_⟩
    rw [isPending_of_set (Array.getElem?_eq_some_iff.1 hb).1 rfl]
    rfl

theorem cross_ne_none (hnode : n < g.size) (hb : n < p.blocks.size) : p.cross ctx g n ≠ .ok none := by
  have hsome : g.nodes[n]? = some g.nodes[n] := Array.getElem?_eq_getElem hnode
  unfold cross
  rw [hsome, Array.getElem?_eq_getElem hb]
  dsimp only
  split
  · nofun
  · intro h
    simp only [bind_eq_ok, pure_eq_ok] at h
    obtain ⟨_, -, ⟨⟩⟩ := h

end Progress

namespace Worklist
variable {ctx : Context} {g : FlowGraph} {order : List Nat} {w w' : Worklist} {n entry limit : Nat} {s : TypeState}

/-- The queue holds the pending blocks, all of them blocks of the order, and the heap holds their ranks. -/
structure Tracks (g : FlowGraph) (order : List Nat) (w : Worklist) : Prop where
  size : w.progress.blocks.size = g.size
  mem_queued : ∀ n, n ∈ w.queued ↔ w.progress.isPending n = true
  mem_order : ∀ n ∈ w.queued, n ∈ order
  nodup : w.queued.Nodup
  heap : w.heap.Perm (w.queued.map order.idxOf)
  sorted : w.heap.Pairwise (· ≤ ·)

namespace Tracks

theorem start (hentry : entry < g.size) (horder : order.head? = some entry) : (start g entry s).Tracks g order where
  size := by simp [Worklist.start, Progress.start]
  mem_queued n := by
    have hsize : entry < (Array.replicate g.size ({} : BlockState)).size := by simpa using hentry
    rw [Worklist.start, Progress.isPending_of_set (p := ⟨Array.replicate g.size {}, {}, #[]⟩) hsize rfl,
      List.mem_singleton]
    split
    · next heq => simp [heq]
    · next hne => simp [Progress.isPending, Array.getElem?_replicate, Ne.symm hne, apply_ite]
  mem_order n hn := by
    rw [List.mem_singleton.1 hn]
    exact List.mem_of_head? horder
  nodup := List.nodup_singleton entry
  heap := by
    obtain ⟨rest, rfl⟩ : ∃ rest, order = entry :: rest := ⟨_, List.eq_cons_of_mem_head? horder⟩
    simp [Worklist.start]
  sorted := List.pairwise_singleton _ 0

/-- The block of least rank is the first pending one of the order. -/
theorem pop (h : w.Tracks g order) :
    w.pop order = none ∧ order.find? w.progress.isPending = none ∨
      ∃ n heap, w.pop order = some (n, { w with heap, queued := w.queued.erase n }) ∧
        order.find? w.progress.isPending = some n ∧ w.heap = order.idxOf n :: heap := by
  cases hheap : w.heap with
  | nil =>
    have hempty : w.queued = [] := by
      have hperm := h.heap
      rw [hheap, List.nil_perm] at hperm
      exact List.map_eq_nil_iff.1 hperm
    refine .inl ⟨by rw [Worklist.pop, hheap], List.find?_eq_none.2 fun k _ hk => ?_⟩
    rw [← h.mem_queued, hempty] at hk
    exact List.not_mem_nil hk
  | cons rank heap =>
    have hperm := h.heap
    have hsorted := h.sorted
    rw [hheap] at hperm hsorted
    obtain ⟨n, hn, rfl⟩ := List.mem_map.1 (hperm.subset List.mem_cons_self)
    have hget := List.getElem?_idxOf (h.mem_order n hn)
    refine .inr ⟨n, heap, by rw [Worklist.pop, hheap]; simp [hget], ?_, rfl⟩
    obtain ⟨hlt, hget⟩ := List.getElem?_eq_some_iff.1 hget
    refine List.find?_eq_some_iff_getElem.2 ⟨(h.mem_queued n).1 hn, order.idxOf n, hlt, hget, fun j hj => ?_⟩
    -- a pending block further to the front would have a smaller rank in the heap
    by_contra hpending
    have hmem := (h.mem_queued _).2 (by simpa using hpending)
    have hrank := hperm.symm.subset (List.mem_map_of_mem (f := order.idxOf) hmem)
    have hle : order.idxOf n ≤ order.idxOf order[j] := by
      rcases List.mem_cons.1 hrank with heq | hrank
      · exact heq.ge
      · exact List.rel_of_pairwise_cons hsorted hrank
    have hself : (order[j] == order[j]) = false := List.not_of_lt_findIdx (hj.trans_le hle)
    simp at hself

theorem push (h : w.Tracks g order) (hlt : n < g.size) (hmem : n ∈ order) (hnew : n ∉ w.queued) :
    (w.push order n).Tracks g order where
  size := by simpa [Worklist.push, Progress.wake] using h.size
  mem_queued k := by
    rw [Worklist.push, Progress.isPending_wake (h.size ▸ hlt), List.mem_cons, h.mem_queued]
    split
    · next heq => simp [heq]
    · next hne => simp [Ne.symm hne]
  mem_order k hk := by
    rcases List.mem_cons.1 hk with rfl | hk
    · exact hmem
    · exact h.mem_order k hk
  nodup := List.nodup_cons.2 ⟨hnew, h.nodup⟩
  heap := (List.merge_perm_append _).trans (h.heap.cons _)
  sorted := by
    have htrans (a b c : Nat) : decide (a ≤ b) = true → decide (b ≤ c) = true → decide (a ≤ c) = true := by
      simpa using Nat.le_trans
    have htotal (a b : Nat) : (decide (a ≤ b) || decide (b ≤ a)) = true := by simpa using Nat.le_total a b
    have hmerge := List.pairwise_merge htrans htotal [order.idxOf n] w.heap (List.pairwise_singleton _ _)
      (by simpa using h.sorted)
    simpa [Worklist.push] using hmerge

/-- Along an edge, a block is queued when it becomes pending. -/
theorem propagate {entry exit : TypeState} {e : Edge} (hlt : e.target < g.size) (hmem : e.target ∈ order)
    (h : w.Tracks g order) :
    (w.propagate ctx order entry exit e).map Worklist.progress = w.progress.propagate ctx entry exit e ∧
      ∀ w', w.propagate ctx order entry exit e = .ok w' → w'.Tracks g order := by
  unfold Worklist.propagate Progress.propagate
  cases hdeliver : w.progress.deliver ctx entry exit e with
  | error f => exact ⟨rfl, fun _ h => (nomatch h)⟩
  | ok result =>
    obtain ⟨p, changed⟩ := result
    obtain ⟨hsize, hpending⟩ := Progress.isPending_deliver hdeliver
    have hdelivered : Tracks g order { w with progress := p } :=
      ⟨hsize.trans h.size, fun n => by rw [h.mem_queued, hpending], h.mem_order, h.nodup, h.heap, h.sorted⟩
    cases changed with
    | false =>
      refine ⟨rfl, ?_⟩
      rintro w' ⟨⟩
      exact hdelivered
    | true =>
      by_cases hqueued : e.target ∈ w.queued
      · simp only [hqueued, not_true_eq_false, decide_false, Bool.and_false, Bool.false_eq_true, if_false]
        refine ⟨congrArg Except.ok (Progress.wake_eq_self ((hdelivered.mem_queued _).1 hqueued)).symm, ?_⟩
        rintro w' ⟨⟩
        exact hdelivered
      · simp only [hqueued, not_false_eq_true, decide_true]
        refine ⟨rfl, ?_⟩
        rintro w' ⟨⟩
        exact hdelivered.push hlt hmem hqueued

/-- A visit of the first pending block, which was taken from the queue. -/
theorem visit (ctx : Context) (hg : ∀ n k, g.Leads n k → k < g.size)
    (horder : ∀ n ∈ order, ∀ k, g.Leads n k → k ∈ order) (h : w.Tracks g order) {heap : List Nat}
    (hfind : order.find? w.progress.isPending = some n) (hheap : w.heap = order.idxOf n :: heap) :
    (Worklist.visit ctx g order { w with heap, queued := w.queued.erase n } n).map Worklist.progress =
        w.progress.visit ctx g n ∧
      ∀ w', Worklist.visit ctx g order { w with heap, queued := w.queued.erase n } n = .ok w' → w'.Tracks g order := by
  have hpending := List.find?_some hfind
  have hn : n ∈ w.queued := (h.mem_queued n).2 hpending
  have hlt : n < w.progress.blocks.size := by
    obtain ⟨b, hb, -⟩ := Progress.isPending_iff.1 hpending
    exact (Array.getElem?_eq_some_iff.1 hb).1
  unfold Worklist.visit Progress.visit
  cases hcross : w.progress.cross ctx g n with
  | error f => exact ⟨rfl, fun _ h => (nomatch h)⟩
  | ok crossed =>
    cases crossed with
    | none => exact absurd hcross (Progress.cross_ne_none (h.size ▸ hlt) hlt)
    | some crossed =>
      obtain ⟨p, entry, exit⟩ := crossed
      obtain ⟨hsize, hstill⟩ := Progress.isPending_cross hcross
      refine foldlM_simulates (fun e he w hw => ?_) (P := Tracks g order) ?_
      · have hlead : g.Leads n e.target := ⟨e, he, rfl⟩
        exact hw.propagate (hg n _ hlead) (horder n (h.mem_order n hn) _ hlead)
      · -- the block has left the queue, the heap and the pending blocks
        refine ⟨hsize.trans h.size, fun k => ?_, fun k hk => h.mem_order k (List.mem_of_mem_erase hk), h.nodup.erase n,
          ?_, ?_⟩
        · rw [h.nodup.mem_erase_iff, hstill, h.mem_queued]
          split
          · next heq => simp [heq]
          · next hne => simp [Ne.symm hne]
        · have hperm := h.heap.trans ((List.perm_cons_erase hn).map order.idxOf)
          rw [hheap] at hperm
          exact hperm.cons_inv
        · have hsorted := h.sorted
          rw [hheap] at hsorted
          exact hsorted.of_cons

end Tracks

/-- The queue chooses the first pending block each time. -/
theorem run_eq_solve (hg : ∀ n k, g.Leads n k → k < g.size) (horder : ∀ n ∈ order, ∀ k, g.Leads n k → k ∈ order)
    (h : w.Tracks g order) : run ctx g order limit w = Progress.solve ctx g order limit w.progress := by
  induction limit generalizing w with
  | zero => rfl
  | succ limit ih =>
    rw [run, Progress.solve]
    obtain ⟨hpop, hfind⟩ | ⟨n, heap, hpop, hfind, hheap⟩ := h.pop
    · rw [hpop, hfind]
    · obtain ⟨hview, htracks⟩ := h.visit ctx hg horder hfind hheap
      rw [hpop, hfind]
      dsimp only
      rw [← hview]
      cases hvisit : Worklist.visit ctx g order { w with heap, queued := w.queued.erase n } n with
      | error f => rfl
      | ok w' => exact ih (htracks w' hvisit)

/-- The loop goes on with the block of least rank. -/
def Next (ctx : Context) (g : FlowGraph) (order : List Nat) (w w' : Worklist) : Prop :=
  ∃ n w₁, w.pop order = some (n, w₁) ∧ w₁.visit ctx g order n = .ok w'

theorem Tracks.next (hg : ∀ n k, g.Leads n k → k < g.size) (horder : ∀ n ∈ order, ∀ k, g.Leads n k → k ∈ order)
    (h : w.Tracks g order) (hnext : Next ctx g order w w') : w'.Tracks g order := by
  obtain ⟨n, w₁, hpop', hvisit⟩ := hnext
  obtain ⟨hpop, -⟩ | ⟨n', heap, hpop, hfind, hheap⟩ := h.pop
  · cases hpop'.symm.trans hpop
  · cases hpop'.symm.trans hpop
    exact (h.visit ctx hg horder hfind hheap).2 w' hvisit

section DepthFirst
variable {c : Code} (hg : FlowGraph.ofCode c = .ok g) (hentry : entry < g.size) (horder : g.DepthFirst entry [] order)
include hg hentry horder

/-- Started with the entry block, the loop visits the first pending block of a depth-first order each time. -/
theorem run_start : run ctx g order limit (.start g entry s) = Progress.solve ctx g order limit (.start g entry s) :=
  run_eq_solve (fun _ _ hlead => hlead.lt hg) (fun _ hn _ hlead => horder.mem_of_leads hn hlead)
    (.start hentry horder.head?_eq)

/-- The queue holds the pending blocks at any time. -/
theorem tracks_of_next (h : Relation.ReflTransGen (Next ctx g order) (.start g entry s) w) : w.Tracks g order := by
  induction h with
  | refl => exact .start hentry horder.head?_eq
  | tail _ hnext ih =>
    exact ih.next (fun _ _ hlead => hlead.lt hg) (fun _ hn _ hlead => horder.mem_of_leads hn hlead) hnext

end DepthFirst

end Worklist

namespace Dataflow
variable {o : ClassOracle} {limit : Nat} {m : Method} {c : Code} {d : Dataflow}

theorem compute_eq_ok (h : compute o limit m c = .ok d) :
    ∃ g entry s₀ p, FlowGraph.ofCode c = .ok g ∧ g.entry = .ok entry ∧ TypeState.initial m c = .ok s₀ ∧
      Progress.solve ⟨o, m.descriptor⟩ g (g.reversePostorder entry) limit (.start g entry s₀) = .ok p ∧
      ofProgress g p = .ok d := by
  simp only [compute] at h
  split at h
  · cases h
  · next g entry s₀ hsetup =>
    simp only [bind_eq_ok, pure_eq_ok] at hsetup h
    obtain ⟨g', hg, entry', hentry, s', hs, heq⟩ := hsetup
    cases heq
    obtain ⟨p, hp, h⟩ := h
    have hlt := FlowGraph.entry_lt hentry
    rw [Worklist.run_start hg hlt (FlowGraph.depthFirst_reversePostorder hg hlt)] at hp
    refine ⟨g, entry, s₀, p, hg, hentry, ?_, hp, h⟩
    cases hi : TypeState.initial m c with
    | error e => rw [hi] at hs; cases hs
    | ok s => rw [hi] at hs; cases hs; rfl

theorem solution_of_compute (h : compute o limit m c = .ok d) :
    ∃ g s₀, FlowGraph.ofCode c = .ok g ∧ TypeState.initial m c = .ok s₀ ∧
      Solution ⟨o, m.descriptor⟩ c g s₀ d := by
  obtain ⟨g, entry, s₀, p, hg, hentry, hs₀, hp, h⟩ := compute_eq_ok h
  obtain ⟨hf, hrec⟩ := finished_of_solve hg hentry hp h
  exact ⟨g, s₀, hg, hs₀, .of_finished hg hentry hf hrec⟩

end Dataflow

theorem Verification.within_eq_ok {o : ClassOracle} {limit : Nat} {m : Method} {v : Verification}
    (h : within o limit m = .ok v) : ∃ c, m.code = some c ∧ Dataflow.compute o limit m c = .ok v.flow := by
  unfold within at h
  split at h
  · cases h
  · next c hc =>
    simp only [bind_eq_ok, pure_eq_ok] at h
    obtain ⟨flow, hflow, rfl⟩ := h
    exact ⟨c, hc, hflow⟩

/-- The states of a verified method solve the flow equations of its graph. -/
theorem Verification.solution {o : ClassOracle} {limit : Nat} {m : Method} {v : Verification}
    (h : within o limit m = .ok v) :
    ∃ c g s₀, m.code = some c ∧ FlowGraph.ofCode c = .ok g ∧ TypeState.initial m c = .ok s₀ ∧
      Dataflow.Solution ⟨o, m.descriptor⟩ c g s₀ v.flow := by
  obtain ⟨c, hc, hflow⟩ := within_eq_ok h
  obtain ⟨g, s₀, hg, hs₀, hsol⟩ := Dataflow.solution_of_compute hflow
  exact ⟨c, g, s₀, hc, hg, hs₀, hsol⟩

end Dalvik
