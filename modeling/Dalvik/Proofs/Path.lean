import Dalvik.Proofs.Rules
import Dalvik.Proofs.Worklist

/-!
# Paths through a method

A path follows the flow graph from the entry address, inside blocks and along edges; it is known by the moves made and
the instruction it has come to (`FlowGraph.Path`). A move that leaves an instruction by an edge to a handler was
interrupted by an exception, and what the instruction would have written is not written.

When nothing was found wrong with a method, each recorded step does to the contents of registers what the effect of the
instruction says (`Context.Clean`), so what holds initially and is kept by effects, branches and joins holds along
every path (`Dataflow.Solution.along_path`).
-/

namespace Dalvik

namespace TypeState
variable {s s' : TypeState} {r r' : Reg} {t : RegisterType}

theorem write_eq_ok (h : (s.write r t).failure = none) :
    r < s.size ∧ ∀ r', (s.write r t).state.type? r' = if r' = r then some t else s.type? r' := by
  unfold write at h ⊢
  split at h
  · next hr =>
    rw [if_pos hr]
    refine ⟨hr, fun r' => ?_⟩
    simp only [type?, Array.getElem?_setIfInBounds]
    by_cases hr' : r' = r
    · subst hr'
      simp only [size] at hr
      simp [hr]
    · simp [hr', Ne.symm hr']
  · cases h

theorem size_write (s : TypeState) (r : Reg) (t : RegisterType) : (s.write r t).state.size = s.size := by
  unfold write
  split <;> simp [size]

theorem exception_write (s : TypeState) (r : Reg) (t : RegisterType) :
    (s.write r t).state.exception = s.exception := by
  unfold write
  split <;> rfl

theorem writePair_eq_ok (h : (s.writePair r t).failure = none) :
    (∀ r' ∈ Reg.span true r, r' < s.size) ∧
      ∀ r', (s.writePair r t).state.type? r' = if r' ∈ Reg.span true r then some t else s.type? r' := by
  simp only [writePair] at h ⊢
  split at h
  · next hlow => rw [h] at hlow; cases hlow
  · next hlow =>
    rw [if_neg hlow]
    rw [Option.isSome_iff_ne_none, Decidable.not_not] at hlow
    obtain ⟨hr, htypes⟩ := write_eq_ok hlow
    obtain ⟨hnext, htypes'⟩ := write_eq_ok h
    rw [size_write] at hnext
    refine ⟨by simpa [Reg.span] using ⟨hr, hnext⟩, fun r' => ?_⟩
    rw [htypes', htypes]
    by_cases h₁ : r' = Reg.next r
    · simp [h₁, Reg.span]
    · by_cases h₂ : r' = r <;> simp [h₁, h₂, Reg.span]

theorem type?_replace (s : TypeState) (old new : RegisterType) (r : Reg) :
    (s.replace old new).type? r = (s.type? r).map fun t => if t == old then new else t := by
  simp only [type?, replace, Array.getElem?_map, Option.map_map]
  congr 1
  funext slot
  simp only [Function.comp_apply, Slot.replace]
  split <;> rfl

theorem size_replace (s : TypeState) (old new : RegisterType) : (s.replace old new).size = s.size := by
  simp [size, replace]

theorem content?_of_type? {f : RegisterType → RegisterType} {f' : Content → Content}
    (h : s'.type? r = (s.type? r).map f) (hf : ∀ t, (f t).content = f' t.content) :
    s'.content? r = (s.content? r).map f' := by
  rw [content?, content?, h, Option.map_map, Option.map_map]
  congr 1
  funext t
  exact hf t

theorem map_ite_of_lt {p : Prop} [Decidable p] (h : p → r < s.size) :
    (if p then some t else s.type? r) = (s.type? r).map fun t' => if p then t else t' := by
  split
  · next hp =>
    obtain ⟨t', ht'⟩ := exists_type? (h hp)
    simp [ht']
  · simp

end TypeState

/-- The content of a register after an effect at an allocation site, from the content before. -/
def Effect.image (site : AllocationSite) (r : Reg) (a : Content) : Effect → Content
  | skip | yield _ => a
  | write r' t => if r = r' then t.content else a
  | writePair r' t => if r ∈ Reg.span true r' then t.content else a
  | allocate dst type => if r = dst then .object site type else if a = .object site type then .lost else a
  | construct object _ _ => if a = object.content then .plain else a

/-- The step applies an effect that the checks allow. -/
structure Context.Clean (ctx : Context) (st : Step) (e : Effect) : Prop where
  checked : st.instr.instr.Checked st.before e
  contents : ∀ r, st.after.content? r = (st.before.content? r).map (e.image ⟨ctx.method, st.instr.address⟩ r)
  bounded : ∀ r ∈ e.writes, r < st.before.size
  exception : st.after.exception = none

namespace Context
variable {ctx : Context} {s : TypeState} {st : Step} {e : Effect} {sites : AllocationSites} {pc : Address}

theorem beq_allocated {type : Descriptor} {t : RegisterType} :
    (t == ctx.allocated sites pc type) = true ↔ t.content = .object ⟨ctx.method, pc⟩ type :=
  RegisterType.beq_iff_content rfl

theorem perform_eq_ok (hpending : ∀ object type result, e = .construct object type result → object.isPending = true)
    (hexc : s.exception = none) (h : (ctx.perform sites pc s e).failure = none) :
    (∀ r, (ctx.perform sites pc s e).state.content? r = (s.content? r).map (e.image ⟨ctx.method, pc⟩ r)) ∧
      (∀ r ∈ e.writes, r < s.size) ∧ (ctx.perform sites pc s e).state.exception = none := by
  cases e with
  | skip | yield =>
    refine ⟨fun r => ?_, by simp [Effect.writes], hexc⟩
    exact TypeState.content?_of_type? (f := id) (by rw [Option.map_id_fun]; rfl) fun _ => rfl
  | write r t =>
    obtain ⟨hr, htypes⟩ := TypeState.write_eq_ok h
    refine ⟨fun r' => ?_, by simpa [Effect.writes] using hr, (s.exception_write r t).trans hexc⟩
    refine TypeState.content?_of_type? (f := fun t' => if r' = r then t else t') ?_ fun t' => apply_ite _ _ _ _
    exact (htypes r').trans (TypeState.map_ite_of_lt fun hr' => hr' ▸ hr)
  | writePair r t =>
    obtain ⟨hr, htypes⟩ := TypeState.writePair_eq_ok h
    refine ⟨fun r' => ?_, hr, ?_⟩
    · refine TypeState.content?_of_type? (f := fun t' => if r' ∈ Reg.span true r then t else t') ?_ fun t' => ?_
      · exact (htypes r').trans (TypeState.map_ite_of_lt fun hr' => hr r' hr')
      · exact apply_ite _ _ _ _
    · simp only [perform, TypeState.writePair]
      split <;> simp [TypeState.exception_write, hexc]
  | allocate dst type =>
    obtain ⟨hr, htypes⟩ := TypeState.write_eq_ok h
    refine ⟨fun r => ?_, by simpa [Effect.writes, TypeState.size_replace] using hr, ?_⟩
    · -- older objects of the site are in conflict now, whichever register holds them
      refine TypeState.content?_of_type? (f := fun t => if r = dst then ctx.allocated sites pc type else
        if t == ctx.allocated sites pc type then .conflict else t) ?_ fun t => ?_
      · refine (htypes r).trans ((TypeState.map_ite_of_lt fun hr' => hr' ▸ hr).trans ?_)
        rw [TypeState.type?_replace, Option.map_map]
        rfl
      · simp only [Effect.image, beq_allocated]
        split
        · rfl
        · split <;> rfl
    · simp [perform, TypeState.exception_write, TypeState.replace, hexc]
  | construct object type result =>
    refine ⟨fun r => ?_, by simp [Effect.writes], by simp [perform, TypeState.replace, hexc]⟩
    refine TypeState.content?_of_type? (f := fun t => if t == object then .reference type else t)
      (s.type?_replace object (.reference type) r) fun t => ?_
    simp only [Effect.image, RegisterType.beq_iff_content (hpending object type result rfl)]
    split <;> rfl

/-- A step with which nothing is wrong applies the effect of its instruction. -/
theorem Performs.effect_eq_ok (h : ctx.Performs st) (hv : st.violation = none) :
    ∃ e sites, st.instr.instr.effect ctx.oracle st.before = .ok e ∧
      (ctx.perform sites st.instr.address st.before.clearPseudo e).failure = none ∧
      (ctx.perform sites st.instr.address st.before.clearPseudo e).state = st.after := by
  obtain ⟨sites, hfail, hstate, hviolation⟩ := h
  obtain ⟨e, he, hperform, happly⟩ := applies_of_violation hfail (hviolation.trans hv)
  exact ⟨e, sites, he, hperform, happly.symm.trans hstate⟩

theorem Performs.clean (h : ctx.Performs st) (hv : st.violation = none) : ∃ e, ctx.Clean st e := by
  obtain ⟨e, sites, he, hfail, hstate⟩ := h.effect_eq_ok hv
  have hchecked := Instr.checked_of_effect he
  have hpending : ∀ object type result, e = .construct object type result → object.isPending = true := by
    rintro object type result rfl
    have haction := hchecked.action
    generalize st.instr.instr.action = a at haction
    cases haction with
    | construct _ hp => exact hp
  obtain ⟨hcontents, hbounded, hexc⟩ := perform_eq_ok hpending rfl hfail
  rw [hstate] at hcontents hexc
  exact ⟨e, hchecked, hcontents, hbounded, hexc⟩

end Context

namespace TypeState
variable {m : Method} {c : Code} {s : TypeState}

theorem eq_of_mem_argument {t u : RegisterType} (h : t ∈ argument u) : t = u := by
  unfold argument at h
  split at h <;> simpa using h

theorem length_argument {d : Descriptor} {t : RegisterType} (h : RegisterType.ofDescriptor d = .ok t) :
    (argument t).length = d.width := by
  have hvoid : d ≠ .void := by rintro rfl; cases h
  rw [Descriptor.width, if_neg hvoid, ← isWide_ofDescriptor h, argument]
  split <;> rfl

/-- The registers of the parameters are as many as the parameters need, and hold values. -/
theorem arguments_of_params {ds : List Descriptor} {ts : List RegisterType}
    (h : ds.mapM RegisterType.ofDescriptor = .ok ts) :
    (ts.flatMap argument).length = ds.foldr (·.width + ·) 0 ∧ ∀ t ∈ ts.flatMap argument, t.content = .plain := by
  induction ds generalizing ts with
  | nil =>
    obtain rfl : [] = ts := by simpa [pure_eq_ok] using h
    simp
  | cons d ds ih =>
    simp only [List.mapM_cons, bind_eq_ok, pure_eq_ok] at h
    obtain ⟨t, ht, ts, hts, rfl⟩ := h
    obtain ⟨hlen, hplain⟩ := ih hts
    rw [List.flatMap_cons, List.length_append, hlen, List.foldr_cons, length_argument ht]
    refine ⟨rfl, fun t' ht' => ?_⟩
    rcases List.mem_append.1 ht' with ht' | ht'
    · rw [eq_of_mem_argument ht']
      exact RegisterType.content_ofDescriptor ht
    · exact hplain t' ht'

theorem length_receiver (m : Method) : (receiver m).length = if m.isStatic then 0 else 1 := by
  unfold receiver
  split
  · rfl
  · split <;> rfl

/-- Locals are unknown; then come the receiver and the parameters. -/
theorem types_initial (h : initial m c = .ok s) :
    insNeeded m = c.insSize ∧ s.exception = none ∧ s.result = none ∧
      ∃ ts, m.descriptor.params.mapM RegisterType.ofDescriptor = .ok ts ∧
        s.types = List.replicate (c.registersSize - c.insSize) .unknown ++ (receiver m ++ ts.flatMap argument) := by
  unfold initial at h
  split at h
  · cases h
  · next hins =>
    simp only [bind_eq_ok, pure_eq_ok] at h
    obtain ⟨ts, hts, rfl⟩ := h
    refine ⟨Decidable.not_not.1 hins, rfl, rfl, ts, hts, ?_⟩
    simp [types, Function.comp_def]

theorem initial_eq_ok (h : initial m c = .ok s) :
    s.exception = none ∧ ∃ args,
      s.types = List.replicate (c.registersSize - c.insSize) .unknown ++ (receiver m ++ args) ∧
      (receiver m ++ args).length = c.insSize ∧ ∀ t ∈ args, t.content = .plain := by
  obtain ⟨hins, hexc, -, ts, hts, htypes⟩ := types_initial h
  obtain ⟨hlen, hplain⟩ := arguments_of_params hts
  refine ⟨hexc, ts.flatMap argument, htypes, ?_, hplain⟩
  rw [List.length_append, hlen, length_receiver, Nat.add_comm]
  exact hins

end TypeState

namespace TypeState
variable {s s' : TypeState} {b : Branch}

/-- Only a cast changes the content of a register, which may be lost after it. -/
theorem content?_follow (h : s.follow b = ⟨s', none⟩) (r : Reg) :
    s'.content? r = s.content? r ∨ s.content? r = some .plain ∧ s'.content? r = some .lost := by
  unfold follow at h
  split at h
  · split at h
    · cases h; exact .inl rfl
    · cases h
  · cases h; exact .inl rfl
  · next r' t =>
    split at h
    · next u hu =>
      have hfail : (s.write r' (.declared t)).failure = none := by rw [h]
      obtain ⟨-, htypes⟩ := write_eq_ok hfail
      rw [h] at htypes
      by_cases hr : r = r'
      · subst hr
        rw [content?, content?, htypes, hu, if_pos rfl]
        rcases RegisterType.content_declared t with ht | ht
        · exact .inl (congrArg some ht)
        · exact .inr ⟨rfl, congrArg some ht⟩
      · exact .inl (by rw [content?, content?, htypes, if_neg hr])
    · cases h; exact .inl rfl
    · cases h
  · cases h; exact .inl rfl

theorem exception_follow (h : s.follow b = ⟨s', none⟩) :
    s'.exception = s.exception ∨ ∃ t, s'.exception = some t ∧ t.content = .plain := by
  unfold follow at h
  split at h
  · split at h
    · next t ht => cases h; exact .inr ⟨t, rfl, RegisterType.content_ofDescriptor ht⟩
    · cases h
  · cases h; exact .inr ⟨_, rfl, rfl⟩
  · next r' t =>
    split at h
    · have hexc := s.exception_write r' (.declared t)
      rw [h] at hexc
      exact .inl hexc
    · cases h; exact .inl rfl
    · cases h
  · cases h; exact .inl rfl

end TypeState

/-! ### Paths -/

/-- An instruction that was left, along an edge or for the next instruction of its block. -/
structure Move where
  instr : LabeledInstr
  exit : Option Branch

/-- Whether the instruction was left for a handler. -/
def Move.raised (m : Move) : Bool := m.exit.any Branch.isExceptional

/-- The moves, the last one first, lead from the entry address to the instruction. -/
inductive FlowGraph.Path (g : FlowGraph) : List Move → LabeledInstr → Prop
  | start {node : Node} : node ∈ g.nodes → node.block.start = Address.entry → Path g [] node.block.first
  | next {moves : List Move} {node : Node} {is js : List LabeledInstr} {i j : LabeledInstr} :
      Path g moves i → node ∈ g.nodes → node.block.instrs = is ++ i :: j :: js → Path g (⟨i, none⟩ :: moves) j
  | branch {moves : List Move} {node target : Node} {e : Edge} :
      Path g moves node.block.last → node ∈ g.nodes → e ∈ node.edges → g.nodes[e.target]? = some target →
      Path g (⟨node.block.last, some e.branch⟩ :: moves) target.block.first

namespace Code

def IsArgument (c : Code) (r : Nat) : Prop := c.registersSize - c.insSize ≤ r ∧ r < c.registersSize

/-- The register is an argument, or has been written by an instruction that was not interrupted. -/
def Assigned (c : Code) (moves : List Move) (r : Reg) : Prop :=
  c.IsArgument r ∨ ∃ move ∈ moves, move.raised = false ∧ r ∈ move.instr.instr.writes

/-- Every instruction left was reading assigned registers only. -/
def ReadsAssigned (c : Code) : List Move → Prop
  | [] => True
  | move :: moves => (∀ r ∈ move.instr.instr.reads, c.Assigned moves r) ∧ c.ReadsAssigned moves

instance (c : Code) (r : Nat) : Decidable (c.IsArgument r) := inferInstanceAs (Decidable (_ ∧ _))

instance (c : Code) (moves : List Move) (r : Reg) : Decidable (c.Assigned moves r) :=
  inferInstanceAs (Decidable (_ ∨ _))

instance decidableReadsAssigned (c : Code) : (moves : List Move) → Decidable (c.ReadsAssigned moves)
  | [] => .isTrue trivial
  | _ :: moves =>
    have := decidableReadsAssigned c moves
    inferInstanceAs (Decidable (_ ∧ _))

variable {c : Code} {moves : List Move} {move : Move} {r : Reg}

theorem assigned_cons :
    c.Assigned (move :: moves) r ↔ c.Assigned moves r ∨ move.raised = false ∧ r ∈ move.instr.instr.writes := by
  simp only [Assigned, List.mem_cons, exists_eq_or_imp, or_assoc]
  exact or_congr_right or_comm

end Code

/-- The instruction may be left by the branch. -/
def Code.LeftBy (c : Code) (i : LabeledInstr) (b : Branch) : Prop :=
  b = .sequence ∨ ∃ target, (b, target) ∈ i.branching ++ c.catches i

theorem FlowGraph.leftBy_of_edge {c : Code} {g : FlowGraph} {node : Node} {e : Edge} (hg : ofCode c = .ok g)
    (hnode : node ∈ g.nodes) (he : e ∈ node.edges) : c.LeftBy node.block.last e.branch := by
  obtain ⟨n, hn⟩ := Array.mem_iff_getElem?.1 hnode
  obtain ⟨-, hseq | ⟨b, hb, hbranch⟩⟩ := mem_edgesOf (getElem?_nodes hg hn).2 he
  · exact .inl hseq
  · exact .inr ⟨b.2, hbranch ▸ hb⟩

namespace Dataflow.Solution
variable {ctx : Context} {c : Code} {g : FlowGraph} {s₀ : TypeState} {d : Dataflow} {moves : List Move}
  {i : LabeledInstr}

theorem at_entry (h : Solution ctx c g s₀ d) (hg : FlowGraph.ofCode c = .ok g) {node : Node} (hnode : node ∈ g.nodes)
    (hentry : node.block.start = Address.entry) :
    ∃ st ∈ d.steps, st.instr = node.block.first ∧ s₀.FlowsInto ctx.oracle st.before := by
  obtain ⟨st, hst, haddr, hflow⟩ := h.start
  obtain ⟨n, hn⟩ := Array.mem_iff_getElem?.1 hnode
  refine ⟨st, hst, ?_, hflow⟩
  have hfirst := FlowGraph.mem_instrs hg hn node.block.first_mem
  exact Code.eq_of_address (h.mem_instrs hst) hfirst (haddr.trans hentry.symm)

/-- What holds of the initial state and is kept by instructions, branches and joins holds along every path. -/
theorem along_path (h : Solution ctx c g s₀ d) (hg : FlowGraph.ofCode c = .ok g) {P : List Move → TypeState → Prop}
    (hstart : P [] s₀)
    (hflow : ∀ moves s t, P moves s → s.FlowsInto ctx.oracle t → P moves t)
    (hfollow : ∀ moves st b s t, st ∈ d.steps → c.LeftBy st.instr b → P moves s → s.follow b = ⟨t, none⟩ → P moves t)
    (hperform : ∀ moves st exit, st ∈ d.steps → P moves st.before → Move.raised ⟨st.instr, exit⟩ = false →
      P (⟨st.instr, exit⟩ :: moves) st.after)
    (hraise : ∀ moves st exit, st ∈ d.steps → P moves st.before → Move.raised ⟨st.instr, exit⟩ = true →
      P (⟨st.instr, exit⟩ :: moves) st.before)
    (hp : g.Path moves i) : ∃ st ∈ d.steps, st.instr = i ∧ P moves st.before := by
  induction hp with
  | start hnode hentry =>
    obtain ⟨st, hst, hinstr, hfl⟩ := h.at_entry hg hnode hentry
    exact ⟨st, hst, hinstr, hflow _ _ _ hstart hfl⟩
  | next _ hnode hsplit ih =>
    obtain ⟨st, hst, rfl, hP⟩ := ih
    obtain ⟨st', hst', hinstr, hbefore⟩ := h.within _ hnode _ _ _ _ hsplit st hst rfl
    exact ⟨st', hst', hinstr, hbefore ▸ hperform _ st none hst hP rfl⟩
  | @branch moves node target e _ hnode he htarget ih =>
    obtain ⟨st, hst, hinstr, hP⟩ := ih
    obtain ⟨target', s, htarget', hcarry, st', hst', hinstr', hfl⟩ := h.along node hnode e he st hst hinstr
    cases htarget.symm.trans htarget'
    have hleft : c.LeftBy st.instr e.branch := hinstr ▸ FlowGraph.leftBy_of_edge hg hnode he
    refine ⟨st', hst', hinstr', hflow _ _ _ (hfollow _ st e.branch _ _ hst hleft ?_ hcarry) hfl⟩
    -- an edge to a handler carries the state before the instruction, any other one the state after it
    rw [← hinstr]
    by_cases hx : e.branch.isExceptional
    · rw [if_pos hx]
      exact hraise _ st _ hst hP hx
    · rw [if_neg hx]
      exact hperform _ st _ hst hP (Bool.eq_false_iff.2 hx)

end Dataflow.Solution

theorem Verification.violation_eq_none {v : Verification} (hok : v.isOk = true) :
    ∀ st ∈ v.flow.steps, st.violation = none := by
  rw [isOk, violations, Dataflow.violations, List.isEmpty_iff, List.filterMap_eq_nil_iff] at hok
  exact hok

/-- What the theorems about paths start from: the recorded steps of a method in which nothing was found wrong are a
solution, and clean. -/
theorem Verification.clean_solution {o : ClassOracle} {limit : Nat} {m : Method} {c : Code} {g : FlowGraph}
    {v : Verification} (hv : within o limit m = .ok v) (hok : v.isOk = true) (hc : m.code = some c)
    (hg : FlowGraph.ofCode c = .ok g) :
    ∃ s₀, TypeState.initial m c = .ok s₀ ∧ Dataflow.Solution ⟨o, m.descriptor⟩ c g s₀ v.flow ∧
      ∀ st ∈ v.flow.steps, ∃ e, Context.Clean ⟨o, m.descriptor⟩ st e := by
  obtain ⟨c', g', s₀, hc', hg', hs₀, hsol⟩ := solution hv
  cases hc.symm.trans hc'
  cases hg.symm.trans hg'
  exact ⟨s₀, hs₀, hsol, fun st hst => (hsol.performs st hst).clean (violation_eq_none hok st hst)⟩

/-! ### Caught exceptions -/

/-- A caught exception is a value, or different paths do not agree on it. -/
def TypeState.CatchesValue (s : TypeState) : Prop :=
  ∀ t, s.exception = some t → t.content = .plain ∨ t.content = .lost

theorem TypeState.catchesValue_of_none {s : TypeState} (h : s.exception = none) : s.CatchesValue := by
  intro t ht
  rw [h] at ht
  cases ht

theorem Context.Clean.catchesValue_after {ctx : Context} {st : Step} {e : Effect} (h : ctx.Clean st e) :
    st.after.CatchesValue :=
  TypeState.catchesValue_of_none h.exception

theorem TypeState.FlowsInto.catchesValue {o : ClassOracle} {s t : TypeState} (h : s.CatchesValue)
    (hf : s.FlowsInto o t) : t.CatchesValue := by
  intro u hu
  obtain ⟨u', hu', hle⟩ := hf.contents.exception u hu
  rcases h u' hu' with hu' | hu'
  · rcases hle.ne_nothing (by simp [hu']) with hle | hle
    · exact .inl (hle.trans hu')
    · exact .inr hle
  · rcases hle.ne_nothing (by simp [hu']) with hle | hle
    · exact .inr (hle.trans hu')
    · exact .inr hle

theorem TypeState.catchesValue_follow {s s' : TypeState} {b : Branch} (h : s.CatchesValue)
    (hf : s.follow b = ⟨s', none⟩) : s'.CatchesValue := by
  intro t ht
  rcases exception_follow hf with hexc | ⟨u, hu, hplain⟩
  · exact h t (hexc ▸ ht)
  · cases ht.symm.trans hu
    exact .inl hplain

end Dalvik
