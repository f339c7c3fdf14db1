import Dalvik.Proofs.Widening
import Dalvik.Proofs.Worklist

/-!
# The states of a method are a post-fixpoint

Over an oracle whose assignability is a preorder with upper bounds (`ClassOracle.Lawful`), the states of a method that
was verified are closed under its flow graph: the initial state is below the state recorded at the entry address, and
what an edge carries is below the state recorded where it leads.
-/

namespace Dalvik

/-- Assignability is a preorder, and common supertypes are upper bounds in it. -/
def ClassOracle.Lawful (o : ClassOracle) : Prop := o.Bounds fun t u => o.isAssignable t u = true

theorem RegisterType.Widens.isAssignable {o : ClassOracle} {a b : RegisterType}
    (h : Widens (fun t u => o.isAssignable t u = true) a b) : a.isAssignable o b = true := by
  cases h with
  | conflict t => cases a <;> rfl
  | zero h => rcases h with h | h <;> cases b <;> simp_all [RegisterType.isAssignable, isSingleWord, isReferenceLike]
  | _ => simp_all [RegisterType.isAssignable]

/-- States compared by assignability. -/
def TypeState.BelowOver (o : ClassOracle) (s t : TypeState) : Prop := s.Below (fun a b => a.isAssignable o b = true) t

theorem TypeState.FlowsInto.belowOver {o : ClassOracle} (ho : o.Lawful) {s t : TypeState} (h : s.FlowsInto o t) :
    s.BelowOver o t :=
  (Below.of_flowsInto (RegisterType.Widens.joinOrder ho) h).mono fun _ _ => RegisterType.Widens.isAssignable

/-- The recorded states are closed under the graph, from the initial state on. -/
structure Dataflow.PostFixpoint (o : ClassOracle) (g : FlowGraph) (s₀ : TypeState) (d : Dataflow) : Prop where
  start : ∃ st, d.at? Address.entry = some st ∧ s₀.BelowOver o st.before
  along : ∀ node ∈ g.nodes, ∀ last, d.at? node.block.last.address = some last → ∀ e ∈ node.edges,
    ∃ first target st s, d.at? node.block.start = some first ∧ g.nodes[e.target]? = some target ∧
      d.at? target.block.start = some st ∧ e.branch.carry first.before last.after = ⟨s, none⟩ ∧ s.BelowOver o st.before

theorem Dataflow.Solution.postFixpoint {o : ClassOracle} (ho : o.Lawful) {m : MethodRef} {c : Code} {g : FlowGraph}
    {s₀ : TypeState} {d : Dataflow} (hg : FlowGraph.ofCode c = .ok g) (h : Solution ⟨o, m⟩ c g s₀ d) :
    d.PostFixpoint o g s₀ := by
  refine ⟨?_, fun node hnode last hlast e he => ?_⟩
  · obtain ⟨st, hst, haddr, hflow⟩ := h.start
    exact ⟨st, h.at?_eq_some.2 ⟨hst, haddr⟩, hflow.belowOver ho⟩
  · obtain ⟨n, hn⟩ := Array.mem_iff_getElem?.1 hnode
    obtain ⟨hlast, haddr⟩ := h.at?_eq_some.1 hlast
    have hinstr : last.instr = node.block.last :=
      Code.eq_of_address (h.mem_instrs hlast) (FlowGraph.mem_instrs hg hn node.block.last_mem) haddr
    obtain ⟨first, hfirst, hfinstr⟩ :=
      h.whole node hnode last hlast (hinstr ▸ node.block.last_mem) _ node.block.first_mem
    obtain ⟨target, s, htarget, hcarry, st, hst, hstinstr, hflow⟩ := h.along node hnode e he last hlast hinstr
    refine ⟨first, target, st, s, h.at?_eq_some.2 ⟨hfirst, by rw [hfinstr]; rfl⟩, htarget,
      h.at?_eq_some.2 ⟨hst, by rw [hstinstr]; rfl⟩, ?_, hflow.belowOver ho⟩
    -- only edges to handlers carry the entry state, and the block they leave is one instruction
    by_cases hx : e.branch.isExceptional
    · have hrest := FlowGraph.rest_eq_nil_of_isExceptional hg hn he hx
      obtain rfl : first = last := h.eq_of_address hfirst hlast (by rw [hfinstr, hinstr, Block.last, hrest]; rfl)
      exact hcarry
    · simpa [Branch.carry, hx] using hcarry

/-- Over a lawful oracle, the states of a verified method are a post-fixpoint of its flow graph. -/
theorem Verification.postFixpoint_of_within {o : ClassOracle} (ho : o.Lawful) {limit : Nat} {m : Method}
    {v : Verification} (hv : within o limit m = .ok v) :
    ∃ c g s₀, m.code = some c ∧ FlowGraph.ofCode c = .ok g ∧ TypeState.initial m c = .ok s₀ ∧
      v.flow.PostFixpoint o g s₀ := by
  obtain ⟨c, g, s₀, hc, hg, hs₀, hsol⟩ := solution hv
  exact ⟨c, g, s₀, hc, hg, hs₀, hsol.postFixpoint ho hg⟩

/-! A loop over a counter: the literal zero and an `int` meet at its head. -/

/-- The oracle for which all types are unrelated, but below `java.lang.Object`. -/
def ClassOracle.flat : ClassOracle where
  classDef? _ := none
  isAssignable t u := t = u || u = .javaLangObject
  commonSupertype? _ _ := some .javaLangObject

theorem ClassOracle.lawful_flat : ClassOracle.flat.Lawful where
  refl t := by simp [flat]
  trans t u v htu huv := by
    simp only [flat, Bool.or_eq_true, decide_eq_true_eq] at htu huv ⊢
    rcases huv with rfl | rfl
    · exact htu
    · exact .inr rfl
  common t u v h := by
    obtain rfl : Descriptor.javaLangObject = v := by simpa [flat] using h
    simp [flat]

def countingLoop : Method where
  descriptor := ⟨.object "Counter", "run", [.prim .int], .void⟩
  flags := Flags.static
  code := some (.ofInstrs 1 1 (.const 0 0)
    [.ifTestZero .eq 1 9, .binaryLit .add 0 0 1, .goto 3, .returnVoid])

theorem Verification.postFixpoint_countingLoop :
    ∃ v, within .flat 9 countingLoop = .ok v ∧ v.flow.steps.map (·.instr.address) = [0, 3, 5, 7, 9] ∧
      ∃ c g s₀, countingLoop.code = some c ∧ FlowGraph.ofCode c = .ok g ∧
        TypeState.initial countingLoop c = .ok s₀ ∧ v.flow.PostFixpoint .flat g s₀ := by
  have hrun : (within .flat 9 countingLoop).toOption.map (fun v => v.flow.steps.map (·.instr.address)) =
      some [0, 3, 5, 7, 9] := by cbv
  obtain ⟨v, hv, hsteps⟩ := exists_ok_of_toOption hrun
  exact ⟨v, hv, hsteps, postFixpoint_of_within ClassOracle.lawful_flat hv⟩

end Dalvik
