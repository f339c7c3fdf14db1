import Dalvik.Proofs.Frame

/-!
# Assignment of registers

A register that a path has assigned has a known type in the states recorded along it. The converse fails at joins: the
join of `unknown` and another type is the other type, so where paths meet, one that has not assigned the register is
hidden by another one along which its type is known (`Dataflow.Hides`). Nothing else makes a type known: a register is
known before an instruction just when one of the states that come there knows it, the initial one at the entry included
(`Dataflow.Accepted.known_iff_arrives`).

So a method in which nothing was found wrong may still read a register that a path has not assigned, but only past a
point of this path where it is met by a state that knows the register (`Verification.reads_assigned_or_hidden`). That
state need not come from an assignment: `check-cast` recovers from a register that is not assigned by giving it the type
of the cast, and around a loop this type hides the very gap that was complained about.
-/

namespace Dalvik

/-- The type of the register is not `unknown`. -/
def TypeState.Known (s : TypeState) (r : Reg) : Prop := ∃ t, s.type? r = some t ∧ t ≠ .unknown

namespace TypeState
variable {o : ClassOracle} {s s' : TypeState} {r : Reg} {b : Branch}

theorem known_iff_content : s.Known r ↔ ∃ a, s.content? r = some a ∧ a ≠ .nothing := by
  constructor
  · rintro ⟨t, ht, hne⟩
    exact ⟨_, content?_eq_some.2 ⟨t, ht, rfl⟩, fun h => hne (RegisterType.content_eq_nothing.1 h)⟩
  · rintro ⟨a, ha, hne⟩
    obtain ⟨t, ht, rfl⟩ := content?_eq_some.1 ha
    exact ⟨t, ht, fun h => hne (RegisterType.content_eq_nothing.2 h)⟩

theorem Ready.known (h : s.Ready r) : s.Known r := by
  obtain ⟨t, ht, hplain⟩ := h
  exact ⟨t, ht, by rintro rfl; cases hplain⟩

theorem HoldsPending.known (h : s.HoldsPending r) : s.Known r := by
  obtain ⟨t, ht, hp⟩ := h
  exact ⟨t, ht, by rintro rfl; cases hp⟩

theorem FlowsInto.known (h : s.FlowsInto o s') (hk : s.Known r) : s'.Known r := by
  obtain ⟨t, ht, hne⟩ := hk
  obtain ⟨t', ht', hle⟩ := h.contents.exists_type? ht
  refine ⟨t', ht', fun hu => ?_⟩
  rcases hle.ne_nothing (fun h => hne (RegisterType.content_eq_nothing.1 h)) with heq | heq
  · rw [hu] at heq
    exact hne (RegisterType.content_eq_nothing.1 heq.symm)
  · rw [hu] at heq
    cases heq

theorem known_of_beq (h : (s == s') = true) (hk : s'.Known r) : s.Known r := by
  obtain ⟨htypes, hexception, hresult, hexpected⟩ := beq_iff_unlabeled.1 h
  have hsymm : (s' == s) = true := beq_iff_unlabeled.2 ⟨htypes.symm, hexception.symm, hresult.symm, hexpected.symm⟩
  exact ((FlowsInto.refl (o := .flat) s').relabeled hsymm).known hk

/-- A join makes nothing known. -/
theorem known_of_join {t : TypeState} (h : s.join o t = .ok s') (hk : s'.Known r) : s.Known r ∨ t.Known r := by
  obtain ⟨a', ha', hne⟩ := hk
  obtain ⟨hsize, -, hsize', -⟩ := join_eq_ok h
  obtain ⟨a, ha⟩ := exists_type? (hsize' ▸ lt_size_of_type? ha')
  obtain ⟨b, hb⟩ := exists_type? (hsize ▸ lt_size_of_type? ha)
  cases ha'.symm.trans (type?_join h ha hb)
  by_cases hunknown : a = .unknown
  · refine .inr ⟨b, hb, ?_⟩
    rintro rfl
    rw [hunknown] at hne
    exact hne rfl
  · exact .inl ⟨a, ha, hunknown⟩

theorem known_follow (h : s.follow b = ⟨s', none⟩) : s'.Known r ↔ s.Known r := by
  rw [known_iff_content, known_iff_content]
  rcases content?_follow h r with heq | ⟨hplain, hlost⟩
  · rw [heq]
  · simp [hplain, hlost]

/-- Arguments are all that is known initially. -/
theorem known_initial {m : Method} {c : Code} {r : Nat} (h : initial m c = .ok s) : s.Known r ↔ c.IsArgument r := by
  obtain ⟨-, args, htypes, hlen, hplain⟩ := initial_eq_ok h
  have hins := c.insSize_le
  rw [Known, type?_eq_types, htypes, Code.IsArgument]
  rcases Nat.lt_or_ge r (c.registersSize - c.insSize) with hr | hr
  · rw [List.getElem?_append_left (by simpa using hr)]
    constructor
    · rintro ⟨t, ht, hne⟩
      rw [List.getElem?_replicate, if_pos hr] at ht
      exact absurd (Option.some.inj ht).symm hne
    · rintro ⟨hr', -⟩
      omega
  · rw [List.getElem?_append_right (by simpa using hr), List.length_replicate]
    constructor
    · rintro ⟨t, ht, -⟩
      have := (List.getElem?_eq_some_iff.1 ht).1
      exact ⟨hr, by omega⟩
    · rintro ⟨-, hr'⟩
      have hlt : r - (c.registersSize - c.insSize) < (receiver m ++ args).length := by omega
      refine ⟨_, List.getElem?_eq_getElem hlt, fun hu => ?_⟩
      have hmem := List.getElem_mem hlt
      rw [hu] at hmem
      rcases List.mem_append.1 hmem with hmem | hmem
      · unfold receiver at hmem
        split at hmem
        · cases hmem
        · split at hmem <;> simp at hmem
      · cases hplain _ hmem

end TypeState

/-- An effect makes known what it writes, and keeps what is known. -/
theorem Effect.image_ne_nothing {s : TypeState} {action : Action} {e : Effect} (h : action.Effects s e)
    (hcatch : s.CatchesValue) (site : AllocationSite) (r : Reg) (a : Content) :
    e.image site r a ≠ .nothing ↔ a ≠ .nothing ∨ r ∈ e.writes := by
  have hwrite : ∀ t : RegisterType, t.content ≠ .nothing → ∀ rs : List Reg,
      (if r ∈ rs then t.content else a) ≠ .nothing ↔ a ≠ .nothing ∨ r ∈ rs := by
    intro t ht rs
    split
    · next hr => simp [hr, ht]
    · next hr => simp [hr]
  cases h with
  | allocate dst type =>
    simp only [image, writes, List.mem_singleton]
    split
    · next hr => simp [hr]
    · split
      · next ha => simp [ha]
      · next hr _ => simp [hr]
  | @copy dst src t ht hcontent =>
    simp only [image, writes, ← List.mem_singleton]
    refine hwrite t ?_ _
    rcases hcontent with hp | hplain
    · cases t <;> simp_all [RegisterType.isPending, RegisterType.content]
    · simp [hplain]
  | @construct receiver t type result ht hp =>
    simp only [image, writes, List.not_mem_nil, or_false]
    split
    · next ha => cases t <;> simp_all [RegisterType.isPending, RegisterType.content]
    · rfl
  | skip | yield => simp [image, writes]
  | @write r' t ht =>
    simp only [image, writes, ← List.mem_singleton]
    refine hwrite t ?_ _
    rcases ht with ht | ht
    · simp [ht]
    · rcases hcatch t ht with ht | ht <;> simp [ht]
  | writePair ht => exact hwrite _ (by simp [ht]) _

namespace Context.Clean
variable {ctx : Context} {st : Step} {e : Effect} {r : Reg}

theorem known_after (h : ctx.Clean st e) (hcatch : st.before.CatchesValue) :
    st.after.Known r ↔ st.before.Known r ∨ r ∈ st.instr.instr.writes := by
  rw [TypeState.known_iff_content, h.contents, TypeState.known_iff_content, ← h.checked.writes]
  cases hr : st.before.content? r with
  | none =>
    -- a register out of bounds is not written
    have hout : r ∉ e.writes := by
      intro hw
      obtain ⟨t, ht⟩ := TypeState.exists_type? (h.bounded r hw)
      simp [TypeState.content?, ht] at hr
    simp [hout]
  | some a =>
    have hne := Effect.image_ne_nothing h.checked.action hcatch ⟨ctx.method, st.instr.address⟩ r a
    simpa using hne

theorem known_carry (h : ctx.Clean st e) (hcatch : st.before.CatchesValue) {b : Branch} {s : TypeState}
    (hcarry : b.carry st.before st.after = ⟨s, none⟩) :
    s.CatchesValue ∧
      ∀ r, s.Known r ↔ st.before.Known r ∨ Move.raised ⟨st.instr, some b⟩ = false ∧ r ∈ st.instr.instr.writes := by
  unfold Branch.carry at hcarry
  rw [Move.raised, Option.any_some]
  cases hx : b.isExceptional with
  | true =>
    rw [hx, if_pos rfl] at hcarry
    exact ⟨TypeState.catchesValue_follow hcatch hcarry, fun r => by rw [TypeState.known_follow hcarry]; simp⟩
  | false =>
    rw [hx, if_neg Bool.false_ne_true] at hcarry
    refine ⟨TypeState.catchesValue_follow h.catchesValue_after hcarry, fun r => ?_⟩
    rw [TypeState.known_follow hcarry, h.known_after hcatch]
    simp

theorem known_reads (h : ctx.Clean st e) (hr : r ∈ st.instr.instr.reads) : st.before.Known r := by
  rcases List.mem_append.1 hr with hr | hr
  · rcases h.checked.object r (by simpa using hr) with hready | hp
    · exact hready.known
    · exact hp.known
  · exact (h.checked.values r hr).known

end Context.Clean

theorem Action.Effects.spread_unknown {s : TypeState} {action : Action} {e : Effect} (h : action.Effects s e)
    (ctx : Context) (sites : AllocationSites) (pc : Address) :
    e.spread (ctx.allocated sites pc) .unknown = .unknown := by
  cases h with
  | @construct _ t type result _ hp => cases t <;> first | rfl | cases hp
  | _ => rfl

/-- An instruction makes nothing known but its destination, right or wrong. -/
theorem Context.Performs.known_before {ctx : Context} {st : Step} {r : Reg} (h : ctx.Performs st)
    (hk : st.after.Known r) : st.before.Known r ∨ r ∈ st.instr.instr.destination := by
  by_cases hr : r ∈ st.instr.instr.destination
  · exact .inr hr
  obtain ⟨sites, hfail, hstate, -⟩ := h
  obtain ⟨e, hperform, happly, heffect⟩ := applies_of_failure hfail
  have hspread : r ∉ e.writes ∧ e.spread (ctx.allocated sites st.instr.address) .unknown = .unknown := by
    rcases heffect with ⟨he, -⟩ | ⟨rfl, -⟩
    · have hchecked := Instr.checked_of_effect he
      have hwrites := st.instr.instr.writes_subset
      exact ⟨fun hw => hr (hwrites (hchecked.writes ▸ hw)), hchecked.action.spread_unknown ctx sites _⟩
    · exact ⟨fun hw => hr (st.instr.instr.writes_recovery hw), by rw [Instr.spread_recovery]; rfl⟩
  obtain ⟨t, ht, hne⟩ := hk
  rw [← hstate, happly, type?_perform hperform hspread.1] at ht
  obtain ⟨u, hu, rfl⟩ := Option.map_eq_some_iff.1 ht
  refine .inl ⟨u, hu, ?_⟩
  rintro rfl
  exact hne hspread.2

theorem Context.Chain.known_start {ctx : Context} {s exit : TypeState} {steps : List Step} {r : Reg}
    (h : ctx.Chain s steps exit) (hk : exit.Known r) :
    s.Known r ∨ ∃ st ∈ steps, r ∈ st.instr.instr.destination := by
  induction h with
  | nil => exact .inl hk
  | @cons s st steps exit hbefore hperforms _ ih =>
    rcases ih hk with hafter | ⟨st', hst', hr⟩
    · rcases hperforms.known_before hafter with hs | hr
      · exact .inl (hbefore ▸ hs)
      · exact .inr ⟨st, List.mem_cons_self, hr⟩
    · exact .inr ⟨st', List.mem_cons_of_mem _ hst', hr⟩

/-- The register is an argument, or an instruction that was not interrupted gives it a type, right or wrong. -/
def Code.Supplied (c : Code) (moves : List Move) (r : Reg) : Prop :=
  c.IsArgument r ∨ ∃ move ∈ moves, move.raised = false ∧ r ∈ move.instr.instr.destination

/-- The register is assigned, or an instruction that was not interrupted has cast it. -/
def Code.AssignedOrCast (c : Code) (moves : List Move) (r : Reg) : Prop :=
  c.Assigned moves r ∨ ∃ move ∈ moves, move.raised = false ∧ ∃ type, move.instr.instr = .checkCast r type

namespace Code
variable {c : Code} {moves moves' : List Move} {move : Move} {r : Reg}

theorem Supplied.mono (h : c.Supplied moves r) (hsub : moves ⊆ moves') : c.Supplied moves' r :=
  h.imp_right fun ⟨move, hmove, hr⟩ => ⟨move, hsub hmove, hr⟩

theorem supplied_cons :
    c.Supplied (move :: moves) r ↔ c.Supplied moves r ∨ move.raised = false ∧ r ∈ move.instr.instr.destination := by
  simp only [Supplied, List.mem_cons, exists_eq_or_imp, or_assoc]
  exact or_congr_right or_comm

theorem AssignedOrCast.supplied (h : c.AssignedOrCast moves r) : c.Supplied moves r := by
  rcases h with (h | ⟨move, hmove, hraised, hr⟩) | ⟨move, hmove, hraised, type, hinstr⟩
  · exact .inl h
  · exact .inr ⟨move, hmove, hraised, move.instr.instr.writes_subset hr⟩
  · exact .inr ⟨move, hmove, hraised, by rw [hinstr]; exact List.mem_cons_self⟩

end Code

/-- A path to a block goes on through the block. -/
theorem FlowGraph.Path.through {g : FlowGraph} {moves : List Move} {node : Node} {is js : List LabeledInstr}
    {i : LabeledInstr} (hp : g.Path moves node.block.first) (hnode : node ∈ g.nodes)
    (hsplit : node.block.instrs = is ++ i :: js) : g.Path (is.reverse.map (⟨·, none⟩) ++ moves) i := by
  induction is using List.reverseRecOn generalizing i js with
  | nil =>
    obtain rfl : node.block.first = i := (List.cons.inj hsplit).1
    exact hp
  | append_singleton is j ih =>
    rw [List.append_assoc, List.singleton_append] at hsplit
    simpa using (ih hsplit).next hnode hsplit

/-- On some path to the instruction, the register is supplied. -/
def FlowGraph.Supplies (g : FlowGraph) (c : Code) (i : LabeledInstr) (r : Reg) : Prop :=
  ∃ moves, g.Path moves i ∧ c.Supplied moves r

namespace FlowGraph.Supplies
variable {g : FlowGraph} {c : Code} {node target : Node} {is js : List LabeledInstr} {i j : LabeledInstr} {r : Reg}

/-- Inside a block, a register is supplied before an instruction when it is at the start of the block, or when an
instruction in between has it for a destination. -/
theorem through (hnode : node ∈ g.nodes) (hsplit : node.block.instrs = is ++ i :: js)
    (hreached : ∃ moves, g.Path moves node.block.first)
    (h : g.Supplies c node.block.first r ∨ ∃ j ∈ is, r ∈ j.instr.destination) : g.Supplies c i r := by
  rcases h with ⟨moves, hp, hr⟩ | ⟨j, hj, hr⟩
  · exact ⟨_, hp.through hnode hsplit, hr.mono (List.subset_append_right _ _)⟩
  · obtain ⟨moves, hp⟩ := hreached
    refine ⟨_, hp.through hnode hsplit, .inr ⟨⟨j, none⟩, ?_, rfl, hr⟩⟩
    exact List.mem_append_left _ (List.mem_map_of_mem (List.mem_reverse.2 hj))

theorem branch (hnode : node ∈ g.nodes) {e : Edge} (he : e ∈ node.edges) (htarget : g.nodes[e.target]? = some target)
    (hreached : ∃ moves, g.Path moves node.block.last)
    (h : g.Supplies c node.block.last r ∨ e.branch.isExceptional = false ∧ r ∈ node.block.last.instr.destination) :
    g.Supplies c target.block.first r := by
  rcases h with ⟨moves, hp, hr⟩ | ⟨hraised, hr⟩
  · exact ⟨_, hp.branch hnode he htarget, hr.mono (List.subset_cons_self _ _)⟩
  · obtain ⟨moves, hp⟩ := hreached
    exact ⟨_, hp.branch hnode he htarget, .inr ⟨_, List.mem_cons_self, hraised, hr⟩⟩

end FlowGraph.Supplies

/-- What is known in the entry state of a block is supplied on some path to the block. -/
structure BlockState.Grounded (c : Code) (g : FlowGraph) (n : Nat) (b : BlockState) : Prop where
  reached : ∀ e ∈ b.entry, ∀ node, g.nodes[n]? = some node → ∃ moves, g.Path moves node.block.first
  supplied : ∀ e ∈ b.entry, ∀ node, g.nodes[n]? = some node → ∀ r, e.Known r → g.Supplies c node.block.first r

namespace BlockState
variable {o : ClassOracle} {b b' : BlockState} {s e : TypeState} {r : Reg}

theorem known_of_receive (h : b.receive o s = .ok b') (he : e ∈ b'.entry) (hk : e.Known r) :
    s.Known r ∨ ∃ e' ∈ b.entry, e'.Known r := by
  obtain ⟨-, rfl⟩ | ⟨old, joined, hold, hjoin, rfl⟩ := receive_cases h
  · cases he
    exact .inl hk
  · cases he
    rcases TypeState.known_of_join hjoin hk with hk | hk
    · exact .inr ⟨old, hold, hk⟩
    · exact .inl hk

theorem Grounded.kept (ctx : Context) (c : Code) (g : FlowGraph) : Progress.Kept ctx g (Grounded c g) where
  pass n b steps _ hb := ⟨hb.reached, hb.supplied⟩
  receive n b₀ entry exit hb₀ hentry hcross e he hfail b b' hb hreceive := by
    obtain ⟨node, steps, hn, hinstrs, hchain⟩ := hcross
    have hnode := Array.mem_of_getElem? hn
    have hedge := (FlowGraph.mem_outgoing hn).1 he
    have hsplit : node.block.instrs = node.block.instrs.dropLast ++ node.block.last :: [] := node.block.instrs_eq_append
    obtain ⟨moves, hp⟩ := hb₀.reached entry hentry node hn
    have hlast := hp.through hnode hsplit
    refine ⟨fun _ _ target htarget => ⟨_, hlast.branch hnode hedge htarget⟩, fun s hs target htarget r hk => ?_⟩
    rcases known_of_receive hreceive hs hk with hcarried | ⟨e', he', hk⟩
    · -- what the edge carries was known at the entry of the block it leaves, or is the destination of an instruction
      have hfollow : (if e.branch.isExceptional then entry else exit).follow e.branch =
          ⟨(e.branch.carry entry exit).state, none⟩ := by rw [← hfail]; rfl
      rw [TypeState.known_follow hfollow] at hcarried
      have hsupplies := fun h => FlowGraph.Supplies.through (c := c) (r := r) hnode hsplit ⟨moves, hp⟩ h
      refine .branch hnode hedge htarget ⟨_, hlast⟩ ?_
      cases hx : e.branch.isExceptional with
      | true =>
        rw [hx, if_pos rfl] at hcarried
        exact .inl (hsupplies (.inl (hb₀.supplied entry hentry node hn r hcarried)))
      | false =>
        rw [hx, if_neg Bool.false_ne_true] at hcarried
        rcases hchain.known_start hcarried with hstart | ⟨st, hst, hr⟩
        · exact .inl (hsupplies (.inl (hb₀.supplied entry hentry node hn r hstart)))
        · have hmem : st.instr ∈ node.block.instrs := hinstrs ▸ List.mem_map_of_mem hst
          rw [node.block.instrs_eq_append] at hmem
          rcases List.mem_append.1 hmem with hmem | hmem
          · exact .inl (hsupplies (.inr ⟨_, hmem, hr⟩))
          · exact .inr ⟨rfl, List.mem_singleton.1 hmem ▸ hr⟩
    · exact hb.supplied e' he' target htarget r hk

end BlockState

theorem Progress.grounded_of_solve {ctx : Context} {c : Code} {g : FlowGraph} {entry limit : Nat} {s₀ : TypeState}
    {order : List Nat} {p : Progress} (hentry : g.entry = .ok entry) (hs₀ : ∀ r, s₀.Known r → c.IsArgument r)
    (h : solve ctx g order limit (.start g entry s₀) = .ok p) : p.All (BlockState.Grounded c g) := by
  refine (BlockState.Grounded.kept ctx c g).solve (.start ?_ fun n => ?_) h
  · have hstart : ∀ node, g.nodes[entry]? = some node → g.Path [] node.block.first := by
      intro node hn
      obtain ⟨node', hn', hstart⟩ := FlowGraph.entry_eq_ok hentry
      cases hn.symm.trans hn'
      exact .start (Array.mem_of_getElem? hn) hstart
    refine ⟨fun _ _ node hn => ⟨[], hstart node hn⟩, fun e he node hn r hk => ⟨[], hstart node hn, .inl ?_⟩⟩
    cases he
    exact hs₀ r hk
  · exact ⟨fun _ he => (nomatch he), fun _ he => (nomatch he)⟩

/-- What is known before an instruction is supplied on some path to it. -/
theorem Dataflow.supplies_of_known {ctx : Context} {c : Code} {g : FlowGraph} {s₀ : TypeState} {p : Progress}
    {d : Dataflow} {entry : Nat} {st : Step} {r : Reg} (hf : p.Finished ctx g entry s₀) (hrec : d.Records g p)
    (hgrounded : p.All (BlockState.Grounded c g)) (hst : st ∈ d.steps) (hk : st.before.Known r) :
    g.Supplies c st.instr r := by
  obtain ⟨n, node, b, hn, hb, hmem⟩ := hrec.mem_steps.1 hst
  obtain ⟨e, e', exit, he, heq, hchain, hinstrs, -⟩ := hf.settled_of_mem hn hb hmem
  obtain ⟨steps, steps', hsplit⟩ := List.append_of_mem hmem
  rw [hsplit] at hchain hinstrs
  rw [List.map_append, List.map_cons] at hinstrs
  obtain ⟨t, hchain, hrest⟩ := hchain.append
  obtain rfl := hrest.before_head
  have hb := hgrounded n b hb
  refine .through (Array.mem_of_getElem? hn) hinstrs.symm (hb.reached e he node hn) ?_
  rcases hchain.known_start hk with hstart | ⟨st', hst', hr⟩
  · exact .inl (hb.supplied e he node hn r (TypeState.known_of_beq heq hstart))
  · exact .inr ⟨st'.instr, List.mem_map_of_mem hst', hr⟩

/-! ### Gaps that are hidden -/

/-- The state comes to the instruction: it is the initial one, or it is carried out of a recorded instruction. -/
inductive Dataflow.Arrives (d : Dataflow) (c : Code) (s₀ : TypeState) (i : LabeledInstr) : TypeState → Prop
  | entry : i.address = Address.entry → Arrives d c s₀ i s₀
  | exit {st : Step} {b : Branch} {s : TypeState} : st ∈ d.steps → (b, i.address) ∈ c.exits st.instr →
      b.carry st.before st.after = ⟨s, none⟩ → Arrives d c s₀ i s

/-- The last move of a path, or its start, has come to the instruction with a state in which the register is unknown,
and another state that comes there knows it. -/
def Dataflow.Hides (d : Dataflow) (c : Code) (s₀ : TypeState) (r : Reg) : List Move → LabeledInstr → Prop
  | [], i => ¬ s₀.Known r ∧ ∃ s, d.Arrives c s₀ i s ∧ s.Known r
  -- inside a block one state goes on
  | ⟨_, none⟩ :: _, _ => False
  | ⟨j, some b⟩ :: _, i => ∃ st ∈ d.steps, st.instr = j ∧ ∃ s, b.carry st.before st.after = ⟨s, none⟩ ∧ ¬ s.Known r ∧
      ∃ s', d.Arrives c s₀ i s' ∧ s'.Known r

/-- Somewhere on a path it is hidden that the register was not assigned before. -/
def Dataflow.Hidden (d : Dataflow) (c : Code) (s₀ : TypeState) (r : Reg) : List Move → LabeledInstr → Prop
  | [], i => d.Hides c s₀ r [] i
  | move :: moves, i => d.Hides c s₀ r (move :: moves) i ∨ d.Hidden c s₀ r moves move.instr

/-- What is recorded of a method in which nothing was found wrong. -/
structure Dataflow.Accepted (ctx : Context) (c : Code) (g : FlowGraph) (s₀ : TypeState) (d : Dataflow) : Prop extends
    Solution ctx c g s₀ d where
  graph : FlowGraph.ofCode c = .ok g
  exception : s₀.exception = none
  arguments : ∀ r, s₀.Known r ↔ c.IsArgument r
  violation : ∀ st ∈ d.steps, st.violation = none
  supplies : ∀ st ∈ d.steps, ∀ r, st.before.Known r → g.Supplies c st.instr r

namespace Dataflow.Accepted
variable {ctx : Context} {c : Code} {g : FlowGraph} {s₀ : TypeState} {d : Dataflow} {moves : List Move}
  {i : LabeledInstr} {st : Step} {r : Reg}

theorem clean (h : Accepted ctx c g s₀ d) (hst : st ∈ d.steps) : ∃ e, ctx.Clean st e :=
  (h.performs st hst).clean (h.violation st hst)

/-- What an instruction with which nothing is wrong gives a type is written by it, or cast. -/
theorem mem_destination (h : Accepted ctx c g s₀ d) (hst : st ∈ d.steps) (hr : r ∈ st.instr.instr.destination) :
    r ∈ st.instr.instr.writes ∨ r ∈ st.instr.instr.reads ∧ ∃ type, st.instr.instr = .checkCast r type := by
  obtain ⟨e, sites, he, -⟩ := (h.performs st hst).effect_eq_ok (h.violation st hst)
  have hoverhang := Instr.overhang?_of_effect he
  unfold Instr.destination at hr
  split at hr
  · next r' type hinstr =>
    obtain rfl := List.mem_singleton.1 hr
    exact .inr ⟨by rw [hinstr]; exact List.mem_cons_self, type, hinstr⟩
  · rw [hoverhang] at hr
    exact .inl (by simpa using hr)

theorem recorded_of_move (h : Accepted ctx c g s₀ d) (hp : g.Path moves i) {move : Move} (hmove : move ∈ moves) :
    ∃ st ∈ d.steps, st.instr = move.instr := by
  let P (moves : List Move) (_ : TypeState) : Prop := ∀ move ∈ moves, ∃ st ∈ d.steps, st.instr = move.instr
  have hcons : ∀ moves st exit, st ∈ d.steps → P moves st.before → P (⟨st.instr, exit⟩ :: moves) st.after := by
    intro moves st exit hst hmoves move hmove
    rcases List.mem_cons.1 hmove with rfl | hmove
    · exact ⟨st, hst, rfl⟩
    · exact hmoves move hmove
  obtain ⟨_, -, -, hmoves⟩ := h.along_path (P := P) h.graph (fun _ hmem => absurd hmem List.not_mem_nil)
    (fun _ _ _ hs _ => hs) (fun _ _ _ _ _ _ _ hs _ => hs) (fun moves st exit hst hs _ => hcons moves st exit hst hs)
    (fun moves st exit hst hs _ => hcons moves st exit hst hs) hp
  exact hmoves move hmove

/-- Where a register is supplied, it is known before the last move, or written by it. -/
theorem known_or_writes (h : Accepted ctx c g s₀ d) (hst : st ∈ d.steps) {exit : Option Branch}
    (hs : c.Supplied moves r → st.before.Known r) (hr : c.Supplied (⟨st.instr, exit⟩ :: moves) r) :
    st.before.Known r ∨ Move.raised ⟨st.instr, exit⟩ = false ∧ r ∈ st.instr.instr.writes := by
  rcases Code.supplied_cons.1 hr with hr | ⟨hraised, hr⟩
  · exact .inl (hs hr)
  · rcases h.mem_destination hst hr with hw | ⟨hread, -⟩
    · exact .inr ⟨hraised, hw⟩
    · obtain ⟨e, he⟩ := h.clean hst
      exact .inl (he.known_reads hread)

/-- A register that is supplied on a path is known at its end. -/
theorem known_of_supplied (h : Accepted ctx c g s₀ d) (hp : g.Path moves i) :
    ∃ st ∈ d.steps, st.instr = i ∧ st.before.CatchesValue ∧ ∀ r, c.Supplied moves r → st.before.Known r := by
  let P (moves : List Move) (s : TypeState) : Prop := s.CatchesValue ∧ ∀ r, c.Supplied moves r → s.Known r
  refine h.along_path (P := P) h.graph ⟨TypeState.catchesValue_of_none h.exception, fun r hr => ?_⟩
    (fun moves s t hs hf => ⟨hf.catchesValue hs.1, fun r hr => hf.known (hs.2 r hr)⟩)
    (fun moves st b s t _ _ hs hf => ?_) (fun moves st exit hst hs hexit => ?_)
    (fun moves st exit hst hs hexit => ⟨hs.1, fun r hr => ?_⟩) hp
  · exact (h.arguments r).2 (hr.resolve_right fun ⟨_, hmem, _⟩ => absurd hmem List.not_mem_nil)
  · exact ⟨TypeState.catchesValue_follow hs.1 hf, fun r hr => (TypeState.known_follow hf).2 (hs.2 r hr)⟩
  · obtain ⟨e, he⟩ := h.clean hst
    refine ⟨he.catchesValue_after, fun r hr => (he.known_after hs.1).2 ?_⟩
    exact (h.known_or_writes hst (hs.2 r) hr).imp_right And.right
  · refine (h.known_or_writes hst (hs.2 r) hr).resolve_right fun hnot => ?_
    rw [hexit] at hnot
    cases hnot.1

/-- What has supplied a register on a path is an assignment or a cast. -/
theorem assignedOrCast_of_supplied (h : Accepted ctx c g s₀ d) (hp : g.Path moves i) (hr : c.Supplied moves r) :
    c.AssignedOrCast moves r := by
  rcases hr with harg | ⟨move, hmove, hraised, hr⟩
  · exact .inl (.inl harg)
  · obtain ⟨st, hst, hinstr⟩ := h.recorded_of_move hp hmove
    rw [← hinstr] at hr
    rcases h.mem_destination hst hr with hw | ⟨-, type, hcast⟩
    · exact .inl (.inr ⟨move, hmove, hraised, hinstr ▸ hw⟩)
    · exact .inr ⟨move, hmove, hraised, type, hinstr ▸ hcast⟩

/-- A register is known before an instruction just when it is assigned or cast on some path to it. -/
theorem known_iff_path (h : Accepted ctx c g s₀ d) (hst : st ∈ d.steps) :
    st.before.Known r ↔ ∃ moves, g.Path moves st.instr ∧ c.AssignedOrCast moves r := by
  constructor
  · intro hk
    obtain ⟨moves, hp, hr⟩ := h.supplies st hst r hk
    exact ⟨moves, hp, h.assignedOrCast_of_supplied hp hr⟩
  · rintro ⟨moves, hp, hr⟩
    obtain ⟨st', hst', hinstr, -, hknown⟩ := h.known_of_supplied hp
    rw [← h.eq_of_address hst' hst (by rw [hinstr])]
    exact hknown r hr.supplied

/-- The last move of a path on which a register is supplied carries it known. -/
theorem arrives_of_supplied (h : Accepted ctx c g s₀ d) (hp : g.Path moves i) (hr : c.Supplied moves r) :
    ∃ s, d.Arrives c s₀ i s ∧ s.Known r := by
  cases hp with
  | start hnode hentry =>
    have harg : c.IsArgument r := hr.resolve_right fun ⟨_, hmem, _⟩ => absurd hmem List.not_mem_nil
    exact ⟨s₀, .entry hentry, (h.arguments r).2 harg⟩
  | @next moves node is js i j hp hnode hsplit =>
    obtain ⟨st, hst, rfl, hcatch, hknown⟩ := h.known_of_supplied hp
    obtain ⟨e, he⟩ := h.clean hst
    obtain ⟨n, hn⟩ := Array.mem_iff_getElem?.1 hnode
    have hexits := Code.exits_of_block (FlowGraph.block_mem h.graph hn) hsplit
    refine ⟨st.after, .exit hst (hexits ▸ List.mem_singleton.2 rfl) rfl, (he.known_after hcatch).2 ?_⟩
    exact (h.known_or_writes hst (hknown r) hr).imp_right And.right
  | @branch moves node target e hp hnode hedge htarget =>
    obtain ⟨st, hst, hinstr, hcatch, hknown⟩ := h.known_of_supplied hp
    obtain ⟨f, hf⟩ := h.clean hst
    obtain ⟨n, hn⟩ := Array.mem_iff_getElem?.1 hnode
    obtain ⟨_, s, -, hcarry, -⟩ := h.along node hnode e hedge st hst hinstr
    have hexit := FlowGraph.exit_of_edge h.graph hn hedge htarget
    rw [← hinstr] at hexit hr
    exact ⟨s, .exit hst hexit hcarry, ((hf.known_carry hcatch hcarry).2 r).2 (h.known_or_writes hst (hknown r) hr)⟩

/-- A register is known before an instruction just when one of the states that come there knows it. -/
theorem known_iff_arrives (h : Accepted ctx c g s₀ d) (hst : st ∈ d.steps) :
    st.before.Known r ↔ ∃ s, d.Arrives c s₀ st.instr s ∧ s.Known r := by
  constructor
  · intro hk
    obtain ⟨moves, hp, hr⟩ := h.supplies st hst r hk
    exact h.arrives_of_supplied hp hr
  · rintro ⟨s, harrives, hk⟩
    cases harrives with
    | entry haddr =>
      obtain ⟨st₀, hst₀, haddr₀, hflow⟩ := h.start
      obtain rfl := h.eq_of_address hst₀ hst (haddr₀.trans haddr.symm)
      exact hflow.known hk
    | exit hst' hexit hcarry =>
      obtain ⟨-, st₁, hst₁, haddr, hflow⟩ := h.along_exit h.graph hst' hexit
      obtain rfl := h.eq_of_address hst₁ hst haddr
      rw [hcarry] at hflow
      exact hflow.known hk

/-- Where a state that has come to an instruction does not know a register that is known there, another one does. -/
theorem known_join (h : Accepted ctx c g s₀ d) (hst : st ∈ d.steps) {s : TypeState}
    (hflow : s.FlowsInto ctx.oracle st.before) :
    st.before.Known r ↔ s.Known r ∨ ¬ s.Known r ∧ ∃ s', d.Arrives c s₀ st.instr s' ∧ s'.Known r := by
  rw [← h.known_iff_arrives hst]
  constructor
  · intro hk
    by_cases hs : s.Known r
    · exact .inl hs
    · exact .inr ⟨hs, hk⟩
  · rintro (hs | ⟨-, hk⟩)
    · exact hflow.known hs
    · exact hk

/-- A register is known on a path when it is assigned, or it is hidden that it is not. -/
theorem known_iff (h : Accepted ctx c g s₀ d) (hp : g.Path moves i) :
    ∃ st ∈ d.steps, st.instr = i ∧ st.before.CatchesValue ∧
      ∀ r, st.before.Known r ↔ c.Assigned moves r ∨ d.Hidden c s₀ r moves i := by
  -- inside a block nothing is joined; at the entry and at the end of an edge, `known_join` adds a gap that is hidden
  induction hp with
  | start hnode hentry =>
    obtain ⟨st, hst, hinstr, hflow⟩ := h.at_entry h.graph hnode hentry
    refine ⟨st, hst, hinstr, hflow.catchesValue (TypeState.catchesValue_of_none h.exception), fun r => ?_⟩
    rw [h.known_join hst hflow, h.arguments, hinstr, Hidden, Hides, h.arguments]
    simp [Code.Assigned]
  | @next moves node is js i j _ hnode hsplit ih =>
    obtain ⟨st, hst, rfl, hcatch, hknown⟩ := ih
    obtain ⟨st', hst', hinstr, hbefore⟩ := h.within node hnode _ _ _ _ hsplit st hst rfl
    obtain ⟨e, he⟩ := h.clean hst
    refine ⟨st', hst', hinstr, hbefore ▸ he.catchesValue_after, fun r => ?_⟩
    rw [hbefore, he.known_after hcatch, hknown, Code.assigned_cons, Hidden, Hides, false_or]
    simp only [Move.raised, Option.any_none, true_and]
    exact or_right_comm
  | @branch moves node target edge _ hnode hedge htarget ih =>
    obtain ⟨st, hst, hinstr, hcatch, hknown⟩ := ih
    obtain ⟨target', s, htarget', hcarry, st', hst', hinstr', hflow⟩ := h.along node hnode edge hedge st hst hinstr
    cases htarget.symm.trans htarget'
    obtain ⟨e, he⟩ := h.clean hst
    obtain ⟨hcatch', hs⟩ := he.known_carry hcatch hcarry
    refine ⟨st', hst', hinstr', hflow.catchesValue hcatch', fun r => ?_⟩
    have hhides : d.Hides c s₀ r (⟨node.block.last, some edge.branch⟩ :: moves) target.block.first ↔
        ¬ s.Known r ∧ ∃ s', d.Arrives c s₀ target.block.first s' ∧ s'.Known r := by
      rw [Hides]
      constructor
      · rintro ⟨st₁, hst₁, hinstr₁, s₁, hcarry₁, hrest⟩
        obtain rfl := h.eq_of_address hst₁ hst (by rw [hinstr₁, hinstr])
        cases hcarry.symm.trans hcarry₁
        exact hrest
      · exact fun hrest => ⟨st, hst, hinstr, s, hcarry, hrest⟩
    rw [h.known_join hst' hflow, hinstr', ← hhides, hs, hknown, Code.assigned_cons, ← hinstr, Hidden]
    constructor
    · rintro (((hassigned | hhidden) | hwrites) | hhides)
      · exact .inl (.inl hassigned)
      · exact .inr (.inr (hinstr ▸ hhidden))
      · exact .inl (.inr hwrites)
      · exact .inr (.inl (hinstr ▸ hhides))
    · rintro ((hassigned | hwrites) | (hhides | hhidden))
      · exact .inl (.inl (.inl hassigned))
      · exact .inl (.inr hwrites)
      · exact .inr (hinstr ▸ hhides)
      · exact .inl (.inl (.inr (hinstr ▸ hhidden)))

end Dataflow.Accepted

/-! ### Verified methods -/

namespace Verification

/-- What is recorded of a method in which nothing was found wrong. -/
theorem accepted {o : ClassOracle} {limit : Nat} {m : Method} {c : Code} {g : FlowGraph} {v : Verification}
    (hv : within o limit m = .ok v) (hok : v.isOk = true) (hc : m.code = some c) (hg : FlowGraph.ofCode c = .ok g) :
    ∃ s₀, TypeState.initial m c = .ok s₀ ∧ Dataflow.Accepted ⟨o, m.descriptor⟩ c g s₀ v.flow := by
  obtain ⟨c', hc', hflow⟩ := within_eq_ok hv
  cases hc.symm.trans hc'
  obtain ⟨g', entry, s₀, p, hg', hentry, hs₀, hp, hd⟩ := Dataflow.compute_eq_ok hflow
  cases hg.symm.trans hg'
  obtain ⟨hf, hrec⟩ := Dataflow.finished_of_solve hg hentry hp hd
  have hargs (r : Reg) : s₀.Known r ↔ c.IsArgument r := TypeState.known_initial hs₀
  have hgrounded := Progress.grounded_of_solve hentry (fun r => (hargs r).1) hp
  exact ⟨s₀, hs₀, .of_finished hg hentry hf hrec, hg, (TypeState.initial_eq_ok hs₀).1, hargs, violation_eq_none hok,
    fun st hst r hk => Dataflow.supplies_of_known hf hrec hgrounded hst hk⟩

/-- In a method in which nothing was found wrong, what is known on a path is assigned on it or hidden by a state that
meets the path, and nothing else is read. A register is known where one of the states that come there knows it, and
where some path assigns or casts it. -/
theorem reads_assigned_or_hidden {o : ClassOracle} {limit : Nat} {m : Method} {c : Code} {g : FlowGraph}
    {v : Verification} {moves : List Move} {i : LabeledInstr} (hv : within o limit m = .ok v) (hok : v.isOk = true)
    (hc : m.code = some c) (hg : FlowGraph.ofCode c = .ok g) (hp : g.Path moves i) :
    ∃ s₀ st, TypeState.initial m c = .ok s₀ ∧ v.flow.at? i.address = some st ∧
      (∀ r, st.before.Known r ↔ c.Assigned moves r ∨ v.flow.Hidden c s₀ r moves i) ∧
      (∀ r, st.before.Known r ↔ ∃ s, v.flow.Arrives c s₀ i s ∧ s.Known r) ∧
      (∀ r, st.before.Known r ↔ ∃ moves', g.Path moves' i ∧ c.AssignedOrCast moves' r) ∧
      ∀ r ∈ i.instr.reads, c.Assigned moves r ∨ v.flow.Hidden c s₀ r moves i := by
  obtain ⟨s₀, hs₀, hacc⟩ := accepted hv hok hc hg
  obtain ⟨st, hst, rfl, -, hknown⟩ := hacc.known_iff hp
  refine ⟨s₀, st, hs₀, hacc.at?_eq_some.2 ⟨hst, rfl⟩, hknown, fun r => hacc.known_iff_arrives hst,
    fun r => hacc.known_iff_path hst, fun r hr => (hknown r).1 ?_⟩
  obtain ⟨e, he⟩ := hacc.clean hst
  exact he.known_reads hr

/-! A branch skips the assignment of a register that is returned afterwards. -/

def skippingCode : Code :=
  .ofInstrs 1 1 (.ifTestZero .eq 1 5) [.const 0 1, .returnValue 0]

def skippingMethod : Method := ⟨⟨.object "Zoo", "run", [.prim .int], .prim .int⟩, Flags.static, some skippingCode⟩

def skippingGraph : FlowGraph where
  nodes := #[
    ⟨⟨.plain 0 2 (.ifTestZero .eq 1 5), []⟩, [⟨.ifTrue 1 .eq .zero, 2⟩, ⟨.ifFalse 1 .eq .zero, 1⟩]⟩,
    ⟨⟨.plain 2 5 (.const 0 1), []⟩, [⟨.sequence, 2⟩]⟩,
    ⟨⟨.plain 5 6 (.returnValue 0), []⟩, []⟩]

theorem ofCode_skippingCode : FlowGraph.ofCode skippingCode = .ok skippingGraph := rfl

def skippingMoves : List Move := [⟨.plain 0 2 (.ifTestZero .eq 1 5), some (.ifTrue 1 .eq .zero)⟩]

theorem path_skippingGraph : skippingGraph.Path skippingMoves (.plain 5 6 (.returnValue 0)) := by
  have hentry : skippingGraph.nodes[0]? = some ⟨⟨.plain 0 2 (.ifTestZero .eq 1 5), []⟩,
      [⟨.ifTrue 1 .eq .zero, 2⟩, ⟨.ifFalse 1 .eq .zero, 1⟩]⟩ := rfl
  have hreturn : skippingGraph.nodes[2]? = some ⟨⟨.plain 5 6 (.returnValue 0), []⟩, []⟩ := rfl
  have hnode := Array.mem_of_getElem? hentry
  exact .branch (.start hnode rfl) hnode List.mem_cons_self hreturn

theorem verify_skippingMethod : ∃ v, Hierarchy.empty.close.verify skippingMethod = .ok v ∧ v.isOk = true := by
  have hrun : (Hierarchy.empty.close.verify skippingMethod).toOption.map Verification.isOk = some true := by cbv
  exact exists_ok_of_toOption hrun

theorem reads_assigned_or_hidden_skipping :
    ∃ v s₀ st, Hierarchy.empty.close.verify skippingMethod = .ok v ∧ v.isOk = true ∧
      TypeState.initial skippingMethod skippingCode = .ok s₀ ∧ v.flow.at? 5 = some st ∧ st.before.Known 0 ∧
      v.flow.Hidden skippingCode s₀ 0 skippingMoves (.plain 5 6 (.returnValue 0)) ∧
      ∃ moves, skippingGraph.Path moves (.plain 5 6 (.returnValue 0)) ∧ skippingCode.AssignedOrCast moves 0 := by
  obtain ⟨v, hv, hok⟩ := verify_skippingMethod
  obtain ⟨s₀, st, hs₀, hst, hknown, -, hpath, hreads⟩ :=
    reads_assigned_or_hidden hv hok rfl ofCode_skippingCode path_skippingGraph
  have hread := hreads 0 (List.mem_singleton.2 rfl)
  have hunassigned : ¬ skippingCode.Assigned skippingMoves 0 := by decide
  have hk := (hknown 0).2 hread
  exact ⟨v, s₀, st, hv, hok, hs₀, hst, hk, hread.resolve_left hunassigned, (hpath 0).1 hk⟩

/-- A register is read that the path has not assigned, and nothing is found wrong. -/
theorem unassigned_read : ∃ h v c g moves i, Hierarchy.ofClasses [] = .ok h ∧ h.verify skippingMethod = .ok v ∧
    v.isOk = true ∧ skippingMethod.code = some c ∧ FlowGraph.ofCode c = .ok g ∧ g.Path moves i ∧
    ∃ r ∈ i.instr.reads, ¬ c.Assigned moves r := by
  obtain ⟨v, hv, hok⟩ := verify_skippingMethod
  have hread : 0 ∈ (Instr.returnValue 0).reads := List.mem_singleton.2 rfl
  have hunassigned : ¬ skippingCode.Assigned skippingMoves 0 := by decide
  exact ⟨_, v, _, _, _, _, rfl, hv, hok, rfl, ofCode_skippingCode, path_skippingGraph, 0, hread, hunassigned⟩

end Verification
end Dalvik
