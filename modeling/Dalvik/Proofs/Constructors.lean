import Dalvik.Proofs.Initialization

/-!
# Constructors and their receiver

A constructor starts with a pending receiver and may only be left when no register is pending. That does not make it
construct the receiver: it may lose the receiver instead. A register that holds it is overwritten, or a branch past the
call of another constructor is joined with the one that made the call, and the join of a pending object with a
constructed one is a conflict.

Nothing else is possible: on a path that reads assigned registers only, another constructor is called on the receiver
before a return, or every register that still holds the receiver is in conflict
(`Verification.constructs_receiver_or_conflict`).
-/

namespace Dalvik

namespace Objects
variable {m : Method} {c : Code} {moves : List Move} {move : Move} {h : Objects} {i : LabeledInstr} {x : Obj}

/-- The path has called a constructor on a register that held the pending object, and the call was not interrupted. -/
def Constructs (m : Method) (c : Code) (moves : List Move) (x : Obj) : Prop :=
  ∃ later move earlier callee receiver args, moves = later ++ move :: earlier ∧ move.raised = false ∧
    move.instr.instr = .invoke .direct callee (receiver :: args) ∧ callee.isConstructor = true ∧
    (after m c earlier).pending? receiver = some x

theorem Constructs.cons (h : Constructs m c moves x) : Constructs m c (move :: moves) x := by
  obtain ⟨later, call, earlier, callee, receiver, args, rfl, hrest⟩ := h
  exact ⟨move :: later, call, earlier, callee, receiver, args, rfl, hrest⟩

/-- Only a constructor that is called on a pending object constructs it. -/
theorem pending_of_mem_constructed_act (hx : x ∈ (h.act i).constructed) (hnot : x ∉ h.constructed) :
    ∃ receiver, i.instr.action = .construct receiver ∧ h.pending? receiver = some x := by
  cases hact : i.instr.action with
  | construct receiver =>
    rw [act, hact] at hx
    rcases List.mem_append.1 hx with hx | hx
    · exact ⟨receiver, rfl, pending?_eq_some.2 ⟨by simpa using hx, hnot⟩⟩
    · exact absurd hx hnot
  | allocate | copy | overwrite =>
    rw [act, hact] at hx
    exact absurd hx hnot

theorem constructs_of_mem (hx : x ∈ (after m c moves).constructed) : Constructs m c moves x := by
  induction moves with
  | nil => cases hx
  | cons move moves ih =>
    -- constructed before the last move, or by it
    by_cases hbefore : x ∈ (after m c moves).constructed
    · exact (ih hbefore).cons
    · rw [after] at hx
      split at hx
      · exact absurd hx hbefore
      · next hraised =>
        obtain ⟨receiver, hact, hpending⟩ := pending_of_mem_constructed_act hx hbefore
        obtain ⟨callee, args, hinvoke, hcallee⟩ := Instr.eq_invoke_of_action hact
        exact ⟨[], move, moves, callee, receiver, args, rfl, Bool.eq_false_iff.2 hraised, hinvoke, hcallee, hpending⟩

end Objects

namespace Verification

/-- At a return, a constructor has run on the receiver or no register that can be read holds it. -/
theorem constructs_receiver_or_conflict {o : ClassOracle} {limit : Nat} {m : Method} {c : Code} {g : FlowGraph}
    {v : Verification} {moves : List Move} {i : LabeledInstr} (hv : within o limit m = .ok v) (hok : v.isOk = true)
    (hc : m.code = some c) (hg : FlowGraph.ofCode c = .ok g) (hp : g.Path moves i) (hreads : c.ReadsAssigned moves)
    (hreturn : i.instr.doesReturn = true) :
    ∃ st, v.flow.at? i.address = some st ∧ st.instr = i ∧ (Objects.Constructs m c moves .receiver ∨
      ∀ r, (Objects.after m c moves).held r = some .receiver → st.before.type? r = some .conflict) := by
  obtain ⟨st, e, hst, hinstr, he, ht⟩ := tracks_of_path hv hok hc hg hp hreads
  refine ⟨st, hst, hinstr, ?_⟩
  by_cases hconstructed : .receiver ∈ (Objects.after m c moves).constructed
  · exact .inl (Objects.constructs_of_mem hconstructed)
  · refine .inr fun r hr => ?_
    have hpending := Objects.pending?_eq_some.2 ⟨hr, hconstructed⟩
    exact (ht.discipline he).leaving (.inl (hinstr ▸ hreturn)) r .receiver hpending

/-! A constructor that delegates to another one, through a copy of its receiver. -/

def delegatingCode : Code :=
  .ofInstrs 1 2 (.moveObject 0 1) [.invoke .direct ⟨.object "Dog", "<init>", [], .void⟩ [0], .returnVoid]

def delegatingMethod : Method := ⟨⟨.object "Dog", "<init>", [.prim .int], .void⟩, 0, some delegatingCode⟩

def delegatingGraph : FlowGraph where
  nodes := #[
    ⟨⟨.plain 0 1 (.moveObject 0 1), []⟩, [⟨.sequence, 1⟩]⟩,
    ⟨⟨.plain 1 4 (.invoke .direct ⟨.object "Dog", "<init>", [], .void⟩ [0]), []⟩, [⟨.invokeSuccess, 2⟩]⟩,
    ⟨⟨.plain 4 5 .returnVoid, []⟩, []⟩]

theorem ofCode_delegatingCode : FlowGraph.ofCode delegatingCode = .ok delegatingGraph := rfl

def delegatingMoves : List Move :=
  [⟨.plain 1 4 (.invoke .direct ⟨.object "Dog", "<init>", [], .void⟩ [0]), some .invokeSuccess⟩,
   ⟨.plain 0 1 (.moveObject 0 1), some .sequence⟩]

theorem path_delegatingGraph : delegatingGraph.Path delegatingMoves (.plain 4 5 .returnVoid) := by
  have hcopy : delegatingGraph.nodes[0]? = some ⟨⟨.plain 0 1 (.moveObject 0 1), []⟩, [⟨.sequence, 1⟩]⟩ := rfl
  have hcall : delegatingGraph.nodes[1]? =
      some ⟨⟨.plain 1 4 (.invoke .direct ⟨.object "Dog", "<init>", [], .void⟩ [0]), []⟩, [⟨.invokeSuccess, 2⟩]⟩ := rfl
  have hreturn : delegatingGraph.nodes[2]? = some ⟨⟨.plain 4 5 .returnVoid, []⟩, []⟩ := rfl
  have hcopy' := Array.mem_of_getElem? hcopy
  have hcall' := Array.mem_of_getElem? hcall
  exact .branch (.branch (.start hcopy' rfl) hcopy' List.mem_cons_self hcall) hcall' List.mem_cons_self hreturn

theorem constructs_receiver_delegating :
    ∃ v, Hierarchy.empty.close.verify delegatingMethod = .ok v ∧ v.isOk = true ∧
      (Objects.after delegatingMethod delegatingCode delegatingMoves).held 1 = some .receiver ∧
      Objects.Constructs delegatingMethod delegatingCode delegatingMoves .receiver := by
  have hrun : (Hierarchy.empty.close.verify delegatingMethod).toOption.map
      (fun v => (v.isOk, (v.flow.at? 4).bind (·.before.type? 1))) =
        some (true, some (.reference (.object "Dog"))) := by cbv
  obtain ⟨v, hv, hresult⟩ := exists_ok_of_toOption hrun
  obtain ⟨hok, htype⟩ := Prod.mk.inj hresult
  have hreads : delegatingCode.ReadsAssigned delegatingMoves := by decide
  obtain ⟨st, hst, -, hconstructs | hconflict⟩ :=
    constructs_receiver_or_conflict hv hok rfl ofCode_delegatingCode path_delegatingGraph hreads rfl
  · exact ⟨v, hv, hok, rfl, hconstructs⟩
  · have hst : v.flow.at? 4 = some st := hst
    rw [hst, Option.bind_some, hconflict 1 rfl] at htype
    cases htype

/-! A constructor that skips the call of another one when its argument is zero. -/

def carelessCode : Code :=
  .ofInstrs 0 2 (.ifTestZero .eq 1 5)
    [.invoke .direct ⟨.object "Dog", "<init>", [], .void⟩ [0], .returnVoid]

def carelessMethod : Method := ⟨⟨.object "Dog", "<init>", [.prim .int], .void⟩, 0, some carelessCode⟩

def carelessGraph : FlowGraph where
  nodes := #[
    ⟨⟨.plain 0 2 (.ifTestZero .eq 1 5), []⟩, [⟨.ifTrue 1 .eq .zero, 2⟩, ⟨.ifFalse 1 .eq .zero, 1⟩]⟩,
    ⟨⟨.plain 2 5 (.invoke .direct ⟨.object "Dog", "<init>", [], .void⟩ [0]), []⟩, [⟨.invokeSuccess, 2⟩]⟩,
    ⟨⟨.plain 5 6 .returnVoid, []⟩, []⟩]

theorem ofCode_carelessCode : FlowGraph.ofCode carelessCode = .ok carelessGraph := rfl

def carelessMoves : List Move := [⟨.plain 0 2 (.ifTestZero .eq 1 5), some (.ifTrue 1 .eq .zero)⟩]

theorem path_carelessGraph : carelessGraph.Path carelessMoves (.plain 5 6 .returnVoid) := by
  have hentry : carelessGraph.nodes[0]? = some ⟨⟨.plain 0 2 (.ifTestZero .eq 1 5), []⟩,
      [⟨.ifTrue 1 .eq .zero, 2⟩, ⟨.ifFalse 1 .eq .zero, 1⟩]⟩ := rfl
  have hreturn : carelessGraph.nodes[2]? = some ⟨⟨.plain 5 6 .returnVoid, []⟩, []⟩ := rfl
  have hnode := Array.mem_of_getElem? hentry
  exact .branch (.start hnode rfl) hnode List.mem_cons_self hreturn

/-- A constructor returns without a call of another one on its receiver, and nothing is found wrong. -/
theorem receiver_not_constructed : ∃ h v c g moves i, Hierarchy.ofClasses [] = .ok h ∧
    carelessMethod.isConstructor = true ∧ carelessMethod.descriptor.definer ≠ .javaLangObject ∧
    h.verify carelessMethod = .ok v ∧ v.isOk = true ∧ carelessMethod.code = some c ∧ FlowGraph.ofCode c = .ok g ∧
    g.Path moves i ∧ i.instr.doesReturn = true ∧ c.ReadsAssigned moves ∧
    ¬ Objects.Constructs carelessMethod c moves .receiver := by
  have hrun : (Hierarchy.empty.close.verify carelessMethod).toOption.map Verification.isOk = some true := by cbv
  obtain ⟨v, hv, hok⟩ := exists_ok_of_toOption hrun
  have hreads : carelessCode.ReadsAssigned carelessMoves := by decide
  refine ⟨_, v, _, _, _, _, rfl, rfl, by decide, hv, hok, rfl, ofCode_carelessCode, path_carelessGraph, rfl, hreads, ?_⟩
  rintro ⟨later, move, earlier, callee, receiver, args, hmoves, -, hinvoke, -⟩
  have hmove : move ∈ carelessMoves := by rw [hmoves]; simp
  obtain rfl := List.mem_singleton.1 hmove
  cases hinvoke

end Verification
end Dalvik
