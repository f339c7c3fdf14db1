import Dalvik.Proofs.Path
import Dalvik.Proofs.Replay

/-!
# Pseudo-registers

An instruction empties the pseudo-registers before it takes effect, so what is in them was put there on the last step: a
result by a call or by `filled-new-array`, unless an exception was raised, and an exception by a branch to a handler. A
join keeps what both sides have. So a pseudo-register is filled before an instruction when all steps to the instruction
fill it, as far as they come from reachable instructions (`Verification.filled_iff_fills`).
-/

namespace Dalvik

inductive Pseudo where
  | result
  | exception

/-- Whether the instruction leaves a result when it raises no exception. -/
def Instr.leavesResult : Instr → Bool
  | filledNewArray .. => true
  | invoke _ m _ => m.result ≠ .void
  | _ => false

namespace Pseudo

def get : Pseudo → TypeState → Option RegisterType
  | result, s => s.result
  | exception, s => s.exception

/-- Whether the pseudo-register is filled on the way from the instruction along the branch. -/
def filledBy : Pseudo → Instr → Branch → Bool
  | result, i, b => i.leavesResult && !b.isExceptional
  | exception, _, b => b.isExceptional

/-- Whether the instruction takes what is in the pseudo-register. -/
def takenBy : Pseudo → Instr → Bool
  | result, .moveResult _ | result, .moveResultWide _ | result, .moveResultObject _ => true
  | exception, .moveException _ => true
  | _, _ => false

/-- What is wrong with an instruction that finds the pseudo-register empty. -/
def missing : Pseudo → ViolationKind
  | result => .missingResult
  | exception => .missingException

end Pseudo

/-- All steps to the address fill the pseudo-register, and the method is not entered there. -/
structure Code.Fills (c : Code) (q : Pseudo) (a : Address) : Prop where
  ne_entry : a ≠ Address.entry
  steps : ∀ i, c.Reaches i → ∀ b, (b, a) ∈ c.exits i → q.filledBy i.instr b = true

namespace Pseudo
variable {q : Pseudo} {o : ClassOracle} {s t e : TypeState} {b : Branch} {i : Instr}

theorem get_write (q : Pseudo) (s : TypeState) (r : Reg) (t : RegisterType) :
    q.get (s.write r t).state = q.get s := by
  unfold TypeState.write
  split <;> cases q <;> rfl

theorem get_writePair (q : Pseudo) (s : TypeState) (r : Reg) (t : RegisterType) :
    q.get (s.writePair r t).state = q.get s := by
  simp only [TypeState.writePair]
  split
  · exact q.get_write s r t
  · rw [get_write, get_write]

theorem get_replace (q : Pseudo) (s : TypeState) (old new : RegisterType) :
    q.get (s.replace old new) = (q.get s).map fun t => if t == old then new else t := by
  cases q <;> rfl

theorem get_clearPseudo (q : Pseudo) (s : TypeState) : q.get s.clearPseudo = none := by
  cases q <;> rfl

theorem isSome_join (h : s.join o t = .ok e) : (q.get e).isSome = ((q.get s).isSome && (q.get t).isSome) := by
  have hget : q.get e = TypeState.joinPseudo o (q.get s) (q.get t) := by
    obtain ⟨-, -, -, -, hexception, hresult⟩ := TypeState.join_eq_ok h
    cases q with
    | result => exact hresult
    | exception => exact hexception
  rw [hget]
  cases q.get s <;> cases q.get t <;> rfl

theorem isSome_of_beq (h : (s == t) = true) : (q.get s).isSome = (q.get t).isSome := by
  obtain ⟨-, hexception, hresult, -⟩ := TypeState.beq_iff_unlabeled.1 h
  cases q with
  | result => simpa [get] using congrArg Option.isSome hresult
  | exception => simpa [get] using congrArg Option.isSome hexception

/-- A state is emptied by what flows into it, and never filled. -/
theorem isSome_of_flowsInto (h : s.FlowsInto o t) (ht : (q.get t).isSome = true) : (q.get s).isSome = true := by
  induction h with
  | refl => exact ht
  | joined hjoin =>
    rw [isSome_join hjoin, Bool.and_eq_true] at ht
    exact ht.2
  | grown _ hjoin ih =>
    rw [isSome_join hjoin, Bool.and_eq_true] at ht
    exact ih ht.1
  | relabeled _ heq ih => exact ih (isSome_of_beq heq ▸ ht)

theorem get_follow (q : Pseudo) (s : TypeState) (hb : b.isExceptional = false) :
    q.get (s.follow b).state = q.get s := by
  unfold TypeState.follow
  split
  · cases hb
  · cases hb
  · split
    · exact q.get_write s _ _
    · rfl
    · rfl
  · rfl

theorem isSome_follow (i : Instr) (hb : b.isExceptional = true) (h : (s.follow b).failure = none) :
    (q.get (s.follow b).state).isSome = q.filledBy i b := by
  cases b with
  | caught t =>
    simp only [TypeState.follow] at h ⊢
    split at h
    · cases q <;> simp [get, filledBy, Branch.isExceptional]
    · cases h
  | caughtAny => cases q <;> simp [get, filledBy, Branch.isExceptional, TypeState.follow]
  | _ => cases hb

theorem isSome_carry {entry exit : TypeState} (h : (b.carry entry exit).failure = none)
    (hexit : b.isExceptional = false → (q.get exit).isSome = q.filledBy i b) :
    (q.get (b.carry entry exit).state).isSome = q.filledBy i b := by
  unfold Branch.carry at h ⊢
  cases hb : b.isExceptional with
  | false =>
    rw [get_follow q _ hb]
    exact hexit hb
  | true =>
    rw [hb] at h
    exact isSome_follow i hb h

end Pseudo

/-- What the effect leaves in a pseudo-register. -/
def Effect.leaves : Effect → Pseudo → Option RegisterType
  | yield result, .result | construct _ _ result, .result => result
  | _, _ => none

theorem RegisterType.isSome_ofResult (d : Descriptor) : (ofResult d).isSome = decide (d ≠ .void) := by
  unfold ofResult ofDescriptor
  split
  · rfl
  · rfl
  · next hvoid _ =>
    have hne : d ≠ .void := hvoid
    exact (decide_eq_true hne).symm

def Outcome.leaves : Outcome → Option RegisterType
  | yield result => result
  | construct _ m => RegisterType.ofResult m.result
  | _ => none

theorem Outcome.leaves_of_effect {o : ClassOracle} {s : TypeState} {x : Outcome} {e : Effect}
    (h : x.effect o s = .ok e) : e.leaves .result = x.leaves := by
  cases x with
  | put dst x =>
    simp only [effect, bind_eq_ok, pure_eq_ok] at h
    obtain ⟨t, -, rfl⟩ := h
    split <;> rfl
  | construct receiver m =>
    simp only [effect, bind_eq_ok, pure_eq_ok] at h
    obtain ⟨_, -, rfl⟩ := h
    rfl
  | _ =>
    cases h
    rfl

namespace Instr

theorem leaves_invoke (kind : InvokeKind) (m : MethodRef) (args : List Reg) :
    (invoke kind m args).outcome.leaves = RegisterType.ofResult m.result := by
  rcases outcome_invoke kind m args with ⟨receiver, h, -⟩ | ⟨h, -⟩ <;>
    · rw [h]
      rfl

theorem leaves_effect {o : ClassOracle} {s : TypeState} {i : Instr} {e : Effect} (h : i.effect o s = .ok e) :
    (e.leaves .result).isSome = i.leavesResult := by
  rw [Outcome.leaves_of_effect (effect_eq_ok h).2]
  cases i with
  | invoke kind m args => rw [leaves_invoke, RegisterType.isSome_ofResult, leavesResult]
  | _ => rfl

theorem leaves_recovery (i : Instr) : (i.recovery.leaves .result).isSome = i.leavesResult := by
  have hwrite : ∀ r t, ((Effect.writeTyped r t).leaves .result).isSome = false := by
    intro r t
    unfold Effect.writeTyped
    split <;> rfl
  cases i with
  | aget access => cases access <;> rfl
  | iget | sget | unary | binary | convert => exact hwrite _ _
  | invoke kind m args => exact RegisterType.isSome_ofResult m.result
  | _ => rfl

end Instr

namespace Context
variable {ctx : Context} {sites : AllocationSites} {s : TypeState} {q : Pseudo} {b : Branch} {st : Step}

theorem get_perform (pc : Address) (e : Effect) :
    q.get (ctx.perform sites pc s.clearPseudo e).state = e.leaves q := by
  have hclear := q.get_clearPseudo s
  cases e with
  | skip => cases q <;> rfl
  | write r t => exact (q.get_write _ r t).trans (by cases q <;> rfl)
  | writePair r t => exact (q.get_writePair _ r t).trans (by cases q <;> rfl)
  | yield => cases q <;> rfl
  | allocate dst type =>
    refine (q.get_write _ dst _).trans ?_
    rw [Pseudo.get_replace, hclear]
    cases q <;> rfl
  | construct => cases q <;> rfl

/-- After an instruction, there is what it leaves and nothing else. -/
theorem Performs.isSome_after (h : ctx.Performs st) (hb : b.isExceptional = false) :
    (q.get st.after).isSome = q.filledBy st.instr.instr b := by
  obtain ⟨sites, hfailure, hstate, -⟩ := h
  have hleaves : ∀ e : Effect, (e.leaves .result).isSome = st.instr.instr.leavesResult →
      (e.leaves q).isSome = q.filledBy st.instr.instr b := by
    intro e he
    cases q with
    | result => simp [Pseudo.filledBy, hb, he]
    | exception =>
      rw [Pseudo.filledBy, hb]
      cases e <;> rfl
  obtain ⟨e, -, happly, ⟨he, -⟩ | ⟨rfl, -⟩⟩ := applies_of_failure hfailure
  · rw [← hstate, happly, get_perform]
    exact hleaves e (Instr.leaves_effect he)
  · rw [← hstate, happly, get_perform]
    exact hleaves _ (Instr.leaves_recovery _)

end Context

namespace Dataflow.Solution
variable {ctx : Context} {c : Code} {g : FlowGraph} {s₀ : TypeState} {d : Dataflow} {st : Step} {q : Pseudo}

/-- A pseudo-register that is filled has been filled on all steps. -/
theorem fills_of_isSome (h : Solution ctx c g s₀ d) (hg : FlowGraph.ofCode c = .ok g) (hs₀ : q.get s₀ = none)
    (hst : st ∈ d.steps) (hsome : (q.get st.before).isSome = true) : c.Fills q st.instr.address where
  ne_entry haddr := by
    obtain ⟨st₀, hst₀, haddr₀, hflow⟩ := h.start
    obtain rfl := h.eq_of_address hst₀ hst (haddr₀.trans haddr.symm)
    have hsome₀ := Pseudo.isSome_of_flowsInto hflow hsome
    rw [hs₀] at hsome₀
    cases hsome₀
  steps i hi b hexit := by
    obtain ⟨st', hst', rfl⟩ := h.recorded_of_reaches hg hi
    obtain ⟨hfail, st₁, hst₁, haddr, hflow⟩ := h.along_exit hg hst' hexit
    obtain rfl := h.eq_of_address hst₁ hst haddr
    rw [← Pseudo.isSome_carry hfail fun hb => (h.performs st' hst').isSome_after hb]
    exact Pseudo.isSome_of_flowsInto hflow hsome

end Dataflow.Solution

/-! ### Blocks -/

/-- The pseudo-register is filled in the entry state of the block, if all steps to the block fill it. -/
structure BlockState.Filled (c : Code) (g : FlowGraph) (entry : Nat) (q : Pseudo) (n : Nat) (b : BlockState) : Prop
    extends Visited g entry n b where
  filled : ∀ e ∈ b.entry, ∀ node, g.nodes[n]? = some node → c.Fills q node.block.start → (q.get e).isSome = true

theorem BlockState.isSome_of_receive {o : ClassOracle} {b b' : BlockState} {s e : TypeState} {q : Pseudo}
    (h : b.receive o s = .ok b') (hs : (q.get s).isSome = true) (hb : ∀ e ∈ b.entry, (q.get e).isSome = true)
    (he : e ∈ b'.entry) : (q.get e).isSome = true := by
  obtain ⟨-, rfl⟩ | ⟨old, joined, hold, hjoin, rfl⟩ := receive_cases h
  · cases he
    exact hs
  · cases he
    rw [Pseudo.isSome_join hjoin, hb old hold, hs]
    rfl

/-- At the end of a block, there is what its last instruction leaves. -/
theorem Progress.Crosses.isSome_exit {ctx : Context} {g : FlowGraph} {n : Nat} {entry exit : TypeState} (q : Pseudo)
    (h : Crosses ctx g n entry exit) : ∃ node, g.nodes[n]? = some node ∧ ∀ b : Branch, b.isExceptional = false →
      (q.get exit).isSome = q.filledBy node.block.last.instr b := by
  obtain ⟨node, steps, hn, hinstrs, hchain⟩ := h
  refine ⟨node, hn, fun b hb => ?_⟩
  rw [node.block.instrs_eq_append, List.map_eq_append_iff] at hinstrs
  obtain ⟨steps, last, rfl, -, hlast⟩ := hinstrs
  obtain ⟨st, rfl, hst⟩ := List.map_eq_singleton_iff.1 hlast
  rw [← hst, ← hchain.after_last]
  exact (hchain.performs (by simp)).isSome_after hb

theorem BlockState.Filled.kept (ctx : Context) {c : Code} {g : FlowGraph} {entry : Nat} (q : Pseudo)
    (hg : FlowGraph.ofCode c = .ok g) (hentry : g.entry = .ok entry) :
    Progress.Kept ctx g (BlockState.Filled c g entry q) where
  pass n b steps he hb := ⟨(Visited.kept ctx g entry).pass n b steps he hb.toVisited, hb.filled⟩
  receive n b₀ s exit hb₀ hs hcross e he hfail b b' hb hreceive := by
    have hvisited := (Visited.kept ctx g entry).receive n b₀ s exit hb₀.toVisited hs hcross e he hfail b b'
      hb.toVisited hreceive
    refine ⟨hvisited, fun s' hs' target htarget hfills => ?_⟩
    refine isSome_of_receive hreceive ?_ (fun s'' hs'' => hb.filled s'' hs'' target htarget hfills) hs'
    obtain ⟨node, hn, hleaves⟩ := hcross.isSome_exit q
    have hreaches : c.Reaches node.block.last :=
      FlowGraph.reaches_of_leads hg hentry (hb₀.leads (by rw [hs]; rfl)) hn node.block.last_mem
    have hexit := FlowGraph.exit_of_edge hg hn ((FlowGraph.mem_outgoing hn).1 he) htarget
    rw [Pseudo.isSome_carry hfail fun hb => hleaves e.branch hb]
    exact hfills.steps _ hreaches _ hexit

theorem Progress.filled_of_solve {ctx : Context} {c : Code} {g : FlowGraph} {entry limit : Nat} {s₀ : TypeState}
    {order : List Nat} {p : Progress} (q : Pseudo) (hg : FlowGraph.ofCode c = .ok g) (hentry : g.entry = .ok entry)
    (h : solve ctx g order limit (.start g entry s₀) = .ok p) : p.All (BlockState.Filled c g entry q) := by
  refine (BlockState.Filled.kept ctx q hg hentry).solve (.start ?_ fun n => ?_) h
  · refine ⟨.reached g entry s₀, fun e _ node hn hfills => ?_⟩
    obtain ⟨node', hn', hstart⟩ := FlowGraph.entry_eq_ok hentry
    cases hn.symm.trans hn'
    exact absurd hstart hfills.ne_entry
  · exact ⟨.fresh g entry n, fun e he => (nomatch he)⟩

namespace Dataflow
variable {ctx : Context} {c : Code} {g : FlowGraph} {s₀ : TypeState} {p : Progress} {d : Dataflow} {entry : Nat}
  {st : Step} {q : Pseudo}

/-- A pseudo-register that all steps fill is filled. -/
theorem isSome_of_fills (hg : FlowGraph.ofCode c = .ok g) (hentry : g.entry = .ok entry)
    (hf : p.Finished ctx g entry s₀) (hrec : d.Records g p) (hfilled : p.All (BlockState.Filled c g entry q))
    (hst : st ∈ d.steps) (hfills : c.Fills q st.instr.address) : (q.get st.before).isSome = true := by
  obtain ⟨n, node, b, hn, hb, hmem⟩ := hrec.mem_steps.1 hst
  obtain ⟨e, e', exit, he, heq, hchain, hinstrs, -⟩ := hf.settled_of_mem hn hb hmem
  obtain ⟨steps, steps', hsplit⟩ := List.append_of_mem hmem
  rw [hsplit] at hchain hinstrs
  rcases List.eq_nil_or_concat' steps with rfl | ⟨steps, st', rfl⟩
  · have hfirst : st.instr = node.block.first := (List.cons.inj hinstrs).1
    rw [hfirst] at hfills
    rw [hchain.before_head, ← Pseudo.isSome_of_beq heq]
    exact (hfilled n b hb).filled e he node hn hfills
  · -- inside a block, the state is that after the instruction before
    rw [List.append_assoc, List.singleton_append] at hchain hinstrs
    rw [List.map_append, List.map_cons, List.map_cons] at hinstrs
    have hst' : st' ∈ d.steps := hrec.mem_steps.2 ⟨n, node, b, hn, hb, by simp [hsplit]⟩
    have hvisited : p.All (BlockState.Visited g entry) := fun n b hb => (hfilled n b hb).toVisited
    have hreaches := (recorded_iff_reaches hg hentry hf hrec hvisited).1 ⟨st', hst', rfl⟩
    have hexits := Code.exits_of_block (FlowGraph.block_mem hg hn) hinstrs.symm
    rw [hchain.before_next, (hchain.performs (by simp)).isSome_after (b := .sequence) rfl]
    exact hfills.steps _ hreaches _ (hexits ▸ List.mem_singleton.2 rfl)

end Dataflow

/-! ### Violations -/

/-- Whatever else is asked of a result, a result that is missing is complained about first. -/
theorem TypeState.result_eq_none_iff (s : TypeState) (check : RegisterType → Bool)
    (complaint : RegisterType → Complaint) (e : RegisterType → Effect)
    (hother : ∀ t, (complaint t).kind ≠ .missingResult) :
    s.result = none ↔ ∃ k, (do let t ← s.takeResult; Check.require (check t) (complaint t); return e t : Check Effect) =
      .error (.complaint k) ∧ k.kind = .missingResult := by
  unfold takeResult
  cases s.result with
  | none => exact ⟨fun _ => ⟨_, rfl, rfl⟩, fun _ => rfl⟩
  | some t =>
    constructor
    · rintro ⟨⟩
    · rintro ⟨k, heq, hkind⟩
      cases hcheck : check t with
      | false =>
        simp only [pure_bind, Check.require, hcheck] at heq
        cases heq
        exact absurd hkind (hother t)
      | true =>
        simp only [pure_bind, Check.require, hcheck] at heq
        cases heq

namespace Pseudo
variable {q : Pseudo} {o : ClassOracle} {s : TypeState} {i : Instr}

open RegisterType in
/-- An instruction that takes what is not there is wrong for that reason, and otherwise not for that reason. -/
theorem get_eq_none_iff (h : q.takenBy i = true) :
    q.get s = none ↔ ∃ k, i.effect o s = .error (.complaint k) ∧ k.kind = q.missing := by
  cases q with
  | result =>
    cases i with
    | moveResult dst =>
      refine s.result_eq_none_iff isSingleWord .notSingleWord (.write dst) ?_
      rintro t ⟨⟩
    | moveResultWide dst =>
      refine s.result_eq_none_iff isWide .notWide (.writePair dst) ?_
      rintro t ⟨⟩
    | moveResultObject dst =>
      refine s.result_eq_none_iff isReferenceLike .notReference (.write dst) ?_
      rintro t ⟨⟩
    | _ => cases h
  | exception =>
    cases i with
    | moveException dst =>
      simp only [get, Instr.effect, TypeState.takeException]
      cases s.exception with
      | none => exact ⟨fun _ => ⟨_, rfl, rfl⟩, fun _ => rfl⟩
      | some t =>
        constructor
        · rintro ⟨⟩
        · rintro ⟨k, ⟨⟩, -⟩
    | _ => cases h

end Pseudo

theorem Context.kind_violation_iff {ctx : Context} {sites : AllocationSites} {s : TypeState} {i : LabeledInstr}
    {kind : ViolationKind} : (∃ x, (ctx.transfer sites s i).violation = some x ∧ x.kind = kind) ↔
      ∃ k, i.instr.effect ctx.oracle s = .error (.complaint k) ∧ k.kind = kind := by
  constructor
  · rintro ⟨x, hx, hkind⟩
    obtain ⟨k, hk, rfl⟩ := violation_eq_some_iff.1 hx
    exact ⟨k, hk, hkind⟩
  · rintro ⟨k, hk, hkind⟩
    exact ⟨_, violation_eq_some_iff.2 ⟨k, hk, rfl⟩, hkind⟩

theorem Dataflow.Solution.mem_violations {ctx : Context} {c : Code} {g : FlowGraph} {s₀ : TypeState} {d : Dataflow}
    {st : Step} (h : Solution ctx c g s₀ d) (hst : st ∈ d.steps) {x : Violation} :
    x ∈ d.violations ∧ x.address = st.instr.address ↔ st.violation = some x := by
  have haddress : ∀ st ∈ d.steps, st.violation = some x → x.address = st.instr.address := by
    intro st hst hx
    obtain ⟨sites, -, -, hviolation⟩ := h.performs st hst
    exact (Context.violation_transfer (hviolation.trans hx)).1
  rw [violations, List.mem_filterMap]
  constructor
  · rintro ⟨⟨st', hst', hx⟩, haddr⟩
    obtain rfl := h.eq_of_address hst' hst ((haddress st' hst' hx).symm.trans haddr)
    exact hx
  · intro hx
    exact ⟨⟨st, hst, hx⟩, haddress st hst hx⟩

namespace Verification

/-- A pseudo-register is filled at an address that is reached when all steps to it fill the pseudo-register, and just
then an instruction there that takes what is in it does not miss it. -/
theorem filled_iff_fills {o : ClassOracle} {limit : Nat} {m : Method} {v : Verification} {c : Code}
    (hv : within o limit m = .ok v) (hc : m.code = some c) (q : Pseudo) {a : Address} {s : TypeState}
    (hs : v.flow.entryState? a = some s) :
    ((q.get s).isSome = true ↔ c.Fills q a) ∧ ∀ i ∈ c.instrs, i.address = a → q.takenBy i.instr = true →
      ((∀ x ∈ v.violations, x.address = a → x.kind ≠ q.missing) ↔ c.Fills q a) := by
  obtain ⟨c', hc', hflow⟩ := within_eq_ok hv
  cases hc.symm.trans hc'
  obtain ⟨g, entry, s₀, p, hg, hentry, hs₀, hp, hd⟩ := Dataflow.compute_eq_ok hflow
  obtain ⟨hf, hrec⟩ := Dataflow.finished_of_solve hg hentry hp hd
  have hsol := Dataflow.Solution.of_finished hg hentry hf hrec
  obtain ⟨st, hat, rfl⟩ := Option.map_eq_some_iff.1 hs
  obtain ⟨hst, rfl⟩ := hsol.at?_eq_some.1 hat
  have hinitial : q.get s₀ = none := by
    obtain ⟨-, hexception, hresult, -⟩ := TypeState.types_initial hs₀
    cases q with
    | result => exact hresult
    | exception => exact hexception
  have hfilled : (q.get st.before).isSome = true ↔ c.Fills q st.instr.address :=
    ⟨hsol.fills_of_isSome hg hinitial hst,
      Dataflow.isSome_of_fills hg hentry hf hrec (Progress.filled_of_solve q hg hentry hp) hst⟩
  refine ⟨hfilled, fun i hi haddr htaken => ?_⟩
  obtain rfl := Code.eq_of_address hi (hsol.mem_instrs hst) haddr
  obtain ⟨sites, -, -, hviolation⟩ := hsol.performs st hst
  rw [← hfilled, Option.isSome_iff_ne_none, ne_eq, Pseudo.get_eq_none_iff htaken, ← Context.kind_violation_iff,
    hviolation, not_exists]
  refine forall_congr' fun x => ?_
  rw [not_and, ← hsol.mem_violations hst, and_imp]
  rfl

/-! A handler that is also reached without an exception. -/

def countCall : Instr := .invoke .static ⟨.object "Kennel", "count", [.prim .int], .prim .int⟩ [1]

def callingCode : Code where
  __ := Code.ofInstrs 1 1 countCall [.moveResult 0, .ifTestZero .eq 0 7, .moveException 0, .returnVoid]
  tries := [⟨0, 3, [], some 6⟩]
  try_nonempty := by simp

def callingMethod : Method where
  descriptor := ⟨.object "Kennel", "call", [.prim .int], .void⟩
  flags := Flags.static
  code := some callingCode

theorem filled_iff_fills_calling :
    ∃ v s s', within Hierarchy.empty.oracle 9 callingMethod = .ok v ∧ v.flow.entryState? 3 = some s ∧
      v.flow.entryState? 6 = some s' ∧ callingCode.Fills .result 3 ∧ ¬ callingCode.Fills .exception 6 ∧
        ∃ x ∈ v.violations, x.address = 6 ∧ x.kind = .missingException := by
  have hrun : (within Hierarchy.empty.oracle 9 callingMethod).toOption.map (fun v =>
      ((v.flow.entryState? 3).map (·.result.isSome), (v.flow.entryState? 6).map (·.exception.isSome))) =
        some (some true, some false) := by cbv
  obtain ⟨v, hv, hstates⟩ := exists_ok_of_toOption hrun
  obtain ⟨hresult, hexception⟩ := Prod.ext_iff.1 hstates
  obtain ⟨s, hs, hfilled⟩ := Option.map_eq_some_iff.1 hresult
  obtain ⟨s', hs', hempty⟩ := Option.map_eq_some_iff.1 hexception
  obtain ⟨hiff, hviolation⟩ := filled_iff_fills hv rfl .exception hs'
  have hnot : ¬ callingCode.Fills .exception 6 := by
    intro hfills
    cases (hiff.2 hfills).symm.trans hempty
  have hmem : .plain 6 7 (.moveException 0) ∈ callingCode.instrs := .tail _ (.tail _ (.tail _ (.head _)))
  refine ⟨v, s, s', hv, hs, hs', (filled_iff_fills hv rfl .result hs).1.1 hfilled, hnot, ?_⟩
  by_contra hnone
  refine hnot ((hviolation _ hmem rfl rfl).1 fun x hx haddr hkind => ?_)
  exact hnone ⟨x, hx, haddr, hkind⟩

end Verification
end Dalvik
