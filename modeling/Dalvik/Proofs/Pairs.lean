import Dalvik.Proofs.Wide

/-!
# Register pairs

A wide value takes a register and the next one. When a wide operand is read, both registers have to hold the same wide
type. That does not make them the two halves of one value: types do not tell halves apart, so two values written next to
each other leave a pair between them, the high half of the one and the low half of the other.

Otherwise the check is enough. On a path to a wide operand, a register of its pair was last written as a half of a wide
value, unless a handler declares a wide type for what it catches, or a join hides that the register was not assigned
(`TypeState.Traces`). So the pair is intact, written as a whole by one instruction or as one parameter, exactly when
neither register has gone astray in one of these ways or into another pair (`Verification.intact_iff_not_stray`).
-/

namespace Dalvik

/-- The low register of the wide parameter that takes the register, with the parameters laid out from `base` on. -/
def Reg.paramPair? (r : Reg) : Reg → List Descriptor → Option Reg
  | _, [] => none
  | base, p :: ps => if p.isWide ∧ r ∈ Reg.span true base then some base else paramPair? r (base + p.width) ps

/-- A write to a register: an argument, of which the pair is given when it is wide, or by an instruction, after so many
moves. -/
inductive Write where
  | argument (low : Option Reg)
  | instr (time : Nat) (i : Instr)

/-- Both registers of the pair were written, as the halves of one wide value. -/
def Write.PairAt (low : Reg) : Write → Prop
  | argument low' => low' = some low
  | instr _ i => i.writes = Reg.span true low

def Write.IsCaught (w : Write) : Prop := ∃ time dst, w = .instr time (.moveException dst)

namespace Write
variable {w : Write} {low low' : Reg}

theorem PairAt.eq (h : w.PairAt low) (h' : w.PairAt low') : low' = low := by
  cases w with
  | argument low'' => exact (Option.some.inj (h.symm.trans h')).symm
  | instr time i => exact (List.cons.inj (h.symm.trans h')).1.symm

theorem PairAt.not_isCaught (h : w.PairAt low) : ¬ w.IsCaught := by
  rintro ⟨time, dst, rfl⟩
  exact List.cons_ne_nil _ _ (List.cons.inj h).2.symm

end Write

namespace Method

def paramsStart (m : Method) (c : Code) : Nat := c.registersSize - c.insSize + if m.isStatic then 0 else 1

/-- The last write to a register on a path. -/
def lastWrite (m : Method) (c : Code) : List Move → Reg → Option Write
  | [], r =>
    if c.IsArgument r then some (.argument (Reg.paramPair? r (m.paramsStart c) m.descriptor.params)) else none
  | move :: moves, r =>
    if move.raised = false ∧ r ∈ move.instr.instr.writes then some (.instr moves.length move.instr.instr)
    else m.lastWrite c moves r

/-- The pair was last written as a whole. -/
def Intact (m : Method) (c : Code) (moves : List Move) (low : Reg) : Prop :=
  ∃ w, m.lastWrite c moves low = some w ∧ m.lastWrite c moves (Reg.next low) = some w ∧ w.PairAt low

variable {m : Method} {c : Code} {moves : List Move} {r low : Reg} {w w' : Write}

theorem lastWrite_ne_none_iff : m.lastWrite c moves r ≠ none ↔ c.Assigned moves r := by
  induction moves with
  | nil => simp [lastWrite, Code.Assigned]
  | cons move moves ih =>
    rw [lastWrite, Code.assigned_cons, ← ih]
    split
    · next hmove => simp [hmove]
    · next hmove => simp [hmove]

/-- Writes of two halves of the pair at a register are one write. -/
theorem eq_of_pairAt (hlow : m.lastWrite c moves low = some w) (hw : w.PairAt low)
    (hhigh : m.lastWrite c moves (Reg.next low) = some w') (hw' : w'.PairAt low) : w = w' := by
  have hspan : ∀ i : Instr, i.writes = Reg.span true low → low ∈ i.writes ∧ Reg.next low ∈ i.writes := by
    intro i hi
    rw [hi]
    exact ⟨Reg.mem_span true low, Reg.mem_span_true.2 (.inr rfl)⟩
  induction moves with
  | nil =>
    rw [lastWrite] at hlow hhigh
    split at hlow
    · split at hhigh
      · cases hlow
        cases hhigh
        rw [Write.PairAt] at hw hw'
        rw [hw, hw']
      · cases hhigh
    · cases hlow
  | cons move moves ih =>
    rw [lastWrite] at hlow hhigh
    -- a move that writes one half writes both
    split at hlow
    · next hmove =>
      cases hlow
      rw [if_pos ⟨hmove.1, (hspan _ hw).2⟩] at hhigh
      exact Option.some.inj hhigh
    · next hmove =>
      split at hhigh
      · next hmove' =>
        cases hhigh
        exact absurd ⟨hmove'.1, (hspan _ hw').1⟩ hmove
      · exact ih hlow hhigh

theorem intact_iff :
    m.Intact c moves low ↔ ∀ r ∈ Reg.span true low, ∃ w, m.lastWrite c moves r = some w ∧ w.PairAt low := by
  constructor
  · rintro ⟨w, hlow, hhigh, hpair⟩ r hr
    rcases Reg.mem_span_true.1 hr with rfl | rfl
    · exact ⟨w, hlow, hpair⟩
    · exact ⟨w, hhigh, hpair⟩
  · intro h
    obtain ⟨w, hw, hpair⟩ := h low (Reg.mem_span true low)
    obtain ⟨w', hw', hpair'⟩ := h (Reg.next low) (Reg.mem_span_true.2 (.inr rfl))
    obtain rfl := eq_of_pairAt hw hpair hw' hpair'
    exact ⟨w, hw, hw', hpair⟩

end Method

/-! ### What wide types say of last writes -/

/-- On a path, what is assigned is known, and what has a wide type was last written as a half of a wide value, or was
caught. -/
structure TypeState.Traces (m : Method) (c : Code) (moves : List Move) (s : TypeState) : Prop where
  catches : s.CatchesValue
  exception : ∀ t, s.exception = some t → t.isWide = true → c.CatchesWide
  known : ∀ r, c.Assigned moves r → s.Known r
  wide : ∀ r w t, m.lastWrite c moves r = some w → s.type? r = some t → t.isWide = true →
    (∃ low, w.PairAt low ∧ r ∈ Reg.span true low) ∨ w.IsCaught ∧ c.CatchesWide

/-- A wide parameter takes the two registers of its pair. -/
theorem Reg.paramPair?_of_isWide (base : Nat) {ds : List Descriptor} {ts : List RegisterType} {k : Nat}
    {t : RegisterType} (h : ds.mapM RegisterType.ofDescriptor = .ok ts)
    (hk : (ts.flatMap TypeState.argument)[k]? = some t) (hwide : t.isWide = true) :
    ∃ low, paramPair? (base + k) base ds = some low ∧ base + k ∈ span true low := by
  induction ds generalizing ts base k with
  | nil =>
    obtain rfl : [] = ts := by simpa [pure_eq_ok] using h
    cases hk
  | cons d ds ih =>
    simp only [List.mapM_cons, bind_eq_ok, pure_eq_ok] at h
    obtain ⟨u, hu, us, hus, rfl⟩ := h
    have hwidth := TypeState.length_argument hu
    rw [List.flatMap_cons] at hk
    rw [paramPair?]
    split
    · next hd => exact ⟨base, rfl, hd.2⟩
    · next hd =>
      -- the register is past this parameter, or the parameter is not wide
      rcases Nat.lt_or_ge k (TypeState.argument u).length with hlt | hge
      · rw [List.getElem?_append_left hlt] at hk
        obtain rfl := TypeState.eq_of_mem_argument (List.mem_of_getElem? hk)
        refine absurd ⟨(TypeState.isWide_ofDescriptor hu).symm.trans hwide, ?_⟩ hd
        rw [TypeState.argument, if_pos hwide] at hlt
        have hhalf : k = 0 ∨ k = 1 := by simpa [Nat.lt_succ_iff, Nat.le_one_iff_eq_zero_or_eq_one] using hlt
        exact Reg.mem_span_true.2 (hhalf.imp (congrArg (base + ·)) (congrArg (base + ·)))
      · rw [List.getElem?_append_right hge] at hk
        obtain ⟨low, hlow, hmem⟩ := ih (base + d.width) hus hk
        rw [show base + d.width + (k - (TypeState.argument u).length) = base + k by omega] at hlow hmem
        exact ⟨low, hlow, hmem⟩

namespace TypeState.Traces
variable {o : ClassOracle} {m : Method} {c : Code} {moves : List Move} {s s' : TypeState} {st : Step} {b : Branch}
  {exit : Option Branch} {move : Move}

theorem initial (h : TypeState.initial m c = .ok s) : Traces m c [] s where
  catches := catchesValue_of_none (initial_eq_ok h).1
  exception t ht := by
    rw [(initial_eq_ok h).1] at ht
    cases ht
  known r hr := (known_initial h).2 (by simpa [Code.Assigned] using hr)
  wide r w t hw ht hwide := by
    obtain ⟨-, -, -, ts, hts, htypes⟩ := types_initial h
    rw [Method.lastWrite] at hw
    split at hw
    · next harg =>
      cases hw
      obtain ⟨k, rfl⟩ := Nat.exists_eq_add_of_le harg.1
      rw [type?_eq_types, htypes, List.getElem?_append_right (by simp), List.length_replicate,
        Nat.add_sub_cancel_left] at ht
      rcases Nat.lt_or_ge k (receiver m).length with hk | hk
      · -- the receiver is one register
        rw [List.getElem?_append_left hk] at ht
        have hmem := List.mem_of_getElem? ht
        unfold receiver at hmem
        split at hmem
        · cases hmem
        · split at hmem <;> cases List.mem_singleton.1 hmem <;> cases hwide
      · rw [List.getElem?_append_right hk] at ht
        obtain ⟨low, hlow, hmem⟩ := Reg.paramPair?_of_isWide (m.paramsStart c) hts ht hwide
        have hr : m.paramsStart c + (k - (receiver m).length) = c.registersSize - c.insSize + k := by
          rw [length_receiver] at hk ⊢
          unfold Method.paramsStart
          omega
        rw [hr] at hlow hmem
        exact .inl ⟨low, hlow, hmem⟩
    · cases hw

theorem flowsInto (h : Traces m c moves s) (hf : s.FlowsInto o s') : Traces m c moves s' where
  catches := hf.catchesValue h.catches
  exception t ht hwide := by
    obtain ⟨u, hu, hwide⟩ := hf.isWide_exception h.catches ht hwide
    exact h.exception u hu hwide
  known r hr := hf.known (h.known r hr)
  wide r w t hw ht hwide := by
    have hassigned := Method.lastWrite_ne_none_iff.1 (by rw [hw]; exact Option.some_ne_none _)
    obtain ⟨u, hu, hwide⟩ := hf.isWide (h.known r hassigned) ht hwide
    exact h.wide r w u hw hu hwide

theorem follow {i : LabeledInstr} (h : Traces m c moves s) (hf : s.follow b = ⟨s', none⟩) (hb : c.LeftBy i b)
    (hcast : ∀ r' d, b = .castSuccess r' d → d.isReference = true) : Traces m c moves s' where
  catches := catchesValue_follow h.catches hf
  exception t ht hwide := by
    rcases isWide_exception_follow hf ht hwide with ht | ⟨d, rfl, hd⟩
    · exact h.exception t ht hwide
    · obtain ⟨item, hitem, handler, hhandler, rfl⟩ := Code.exists_handler_of_leftBy hb
      exact ⟨item, hitem, handler, hhandler, hd⟩
  known r hr := (known_follow hf).2 (h.known r hr)
  wide r w t hw ht hwide := h.wide r w t hw (isWide_follow hf hcast ht hwide) hwide

theorem perform (h : Traces m c moves st.before) (hst : Context.Performs ⟨o, m.descriptor⟩ st)
    (hv : st.violation = none) (hexit : Move.raised ⟨st.instr, exit⟩ = false) :
    Traces m c (⟨st.instr, exit⟩ :: moves) st.after := by
  obtain ⟨_, hclean⟩ := hst.clean hv
  obtain ⟨e, sites, he, hfail, hafter⟩ := hst.effect_eq_ok hv
  have hwrites := (Instr.checked_of_effect he).writes
  refine ⟨hclean.catchesValue_after, fun t ht => ?_, fun r hr => ?_, fun r w t hw ht hwide => ?_⟩
  · rw [hclean.exception] at ht
    cases ht
  · rw [hclean.known_after h.catches]
    exact (Code.assigned_cons.1 hr).imp (h.known r) And.right
  · rw [← hafter] at ht
    rw [Method.lastWrite, ← hwrites] at hw
    rcases Context.isWide_perform hfail ht hwide with ⟨hr, ht⟩ | rfl | ⟨low, rfl, hr⟩
    · rw [if_neg fun hmove => hr hmove.2] at hw
      exact h.wide r w t hw ht hwide
    · rw [if_pos ⟨hexit, List.mem_singleton.2 rfl⟩] at hw
      cases hw
      rcases Instr.isWide_of_effect he with hword | ⟨hexc, dst, hi⟩
      · rw [hwide] at hword
        cases hword
      · exact .inr ⟨⟨_, dst, by rw [hi]⟩, h.exception t hexc hwide⟩
    · rw [if_pos ⟨hexit, hr⟩] at hw
      cases hw
      exact .inl ⟨low, hwrites.symm, hr⟩

theorem raise (h : Traces m c moves s) (hraised : move.raised = true) : Traces m c (move :: moves) s := by
  refine ⟨h.catches, h.exception, fun r hr => ?_, fun r w t hw => ?_⟩
  · rcases Code.assigned_cons.1 hr with hr | ⟨hnot, -⟩
    · exact h.known r hr
    · rw [hraised] at hnot
      cases hnot
  · rw [Method.lastWrite, if_neg (by simp [hraised])] at hw
    exact h.wide r w t hw

theorem along_path {g : FlowGraph} {s₀ : TypeState} {d : Dataflow} {i : LabeledInstr}
    (hsol : Dataflow.Solution ⟨o, m.descriptor⟩ c g s₀ d) (hg : FlowGraph.ofCode c = .ok g)
    (hok : ∀ st ∈ d.steps, st.violation = none) (hs₀ : TypeState.initial m c = .ok s₀) (hp : g.Path moves i) :
    ∃ st ∈ d.steps, st.instr = i ∧ Traces m c moves st.before := by
  refine hsol.along_path hg (.initial hs₀) (fun moves s t ht hf => ht.flowsInto hf)
    (fun moves st b s t hst hb ht hf => ht.follow hf hb fun r d hcast => ?_)
    (fun moves st exit hst ht hexit => ht.perform (hsol.performs st hst) (hok st hst) hexit)
    (fun moves st exit hst ht hexit => ht.raise hexit) hp
  subst hcast
  have hinstr := Code.eq_checkCast_of_leftBy hb
  obtain ⟨e, sites, he, -⟩ := (hsol.performs st hst).effect_eq_ok (hok st hst)
  rw [hinstr] at he
  exact Instr.isReference_of_checkCast he

end TypeState.Traces

/-! ### Verified methods -/

/-- A register of the pair at `low` that does not hold its half of a value written there. -/
inductive Dataflow.Stray (d : Dataflow) (m : Method) (c : Code) (s₀ : TypeState) (moves : List Move) (i : LabeledInstr)
    (low r : Reg) : Prop
  /-- It was not assigned, and a state that meets the path hides that. -/
  | hidden : m.lastWrite c moves r = none → d.Hidden c s₀ r moves i → Stray d m c s₀ moves i low r
  | caught {w : Write} : m.lastWrite c moves r = some w → w.IsCaught → c.CatchesWide → Stray d m c s₀ moves i low r
  /-- It holds half of another pair. -/
  | other {w : Write} {low' : Reg} : m.lastWrite c moves r = some w → w.PairAt low' → r ∈ Reg.span true low' →
      low' ≠ low → Stray d m c s₀ moves i low r

theorem Dataflow.not_stray_of_pairAt {d : Dataflow} {m : Method} {c : Code} {s₀ : TypeState} {moves : List Move}
    {i : LabeledInstr} {low r : Reg} {w : Write} (hw : m.lastWrite c moves r = some w) (hpair : w.PairAt low) :
    ¬ d.Stray m c s₀ moves i low r := by
  rintro (⟨hnone, -⟩ | ⟨hw', hcaught, -⟩ | ⟨hw', hpair', -, hne⟩)
  · rw [hw] at hnone
    cases hnone
  · cases hw.symm.trans hw'
    exact hpair.not_isCaught hcaught
  · cases hw.symm.trans hw'
    exact hne (hpair.eq hpair')

namespace Verification

/-- In a method in which nothing was found wrong, the pair of a wide operand is intact unless one of its registers is
stray. -/
theorem intact_iff_not_stray {o : ClassOracle} {limit : Nat} {m : Method} {c : Code} {g : FlowGraph}
    {v : Verification} {moves : List Move} {i : LabeledInstr} {low : Reg} (hv : within o limit m = .ok v)
    (hok : v.isOk = true) (hc : m.code = some c) (hg : FlowGraph.ofCode c = .ok g) (hp : g.Path moves i)
    (hlow : low ∈ i.instr.pairReads) :
    ∃ s₀, TypeState.initial m c = .ok s₀ ∧
      (m.Intact c moves low ↔ ∀ r ∈ Reg.span true low, ¬ v.flow.Stray m c s₀ moves i low r) := by
  obtain ⟨s₀, hs₀, hacc⟩ := accepted hv hok hc hg
  refine ⟨s₀, hs₀, Method.intact_iff.trans ⟨fun hpair r hr => ?_, fun hstray r hr => ?_⟩⟩
  · obtain ⟨w, hw, hpair⟩ := hpair r hr
    exact Dataflow.not_stray_of_pairAt hw hpair
  obtain ⟨st, hst, hinstr, htraces⟩ := TypeState.Traces.along_path hacc.toSolution hg hacc.violation hs₀ hp
  obtain ⟨e, sites, he, -⟩ := (hacc.performs st hst).effect_eq_ok (hacc.violation st hst)
  obtain ⟨t, ht, hwide⟩ := Instr.holdsPair_of_effect he low (hinstr ▸ hlow) r hr
  cases hw : m.lastWrite c moves r with
  | none =>
    obtain ⟨st', hst', hinstr', -, hknown⟩ := hacc.known_iff hp
    obtain rfl := hacc.eq_of_address hst' hst (by rw [hinstr', hinstr])
    rcases (hknown r).1 ⟨t, ht, by rintro rfl; cases hwide⟩ with hassigned | hhidden
    · exact absurd hw (Method.lastWrite_ne_none_iff.2 hassigned)
    · exact absurd (.hidden hw hhidden) (hstray r hr)
  | some w =>
    refine ⟨w, rfl, ?_⟩
    obtain ⟨low', hpair, hmem⟩ | ⟨hcaught, hwideCatch⟩ := htraces.wide r w t hw ht hwide
    · by_cases heq : low' = low
      · rw [← heq]
        exact hpair
      · exact absurd (.other hw hpair hmem heq) (hstray r hr)
    · exact absurd (.caught hw hcaught hwideCatch) (hstray r hr)

/-! A sum of a literal and a parameter. -/

def summingCode : Code := .ofInstrs 2 2 (.constWide 0 1) [.binary .add .long 0 0 2, .returnWide 0]

def summingMethod : Method := ⟨⟨.object "Zoo", "sum", [.prim .long], .prim .long⟩, Flags.static, some summingCode⟩

def summingNode : Node :=
  ⟨⟨.plain 0 5 (.constWide 0 1), [.plain 5 7 (.binary .add .long 0 0 2), .plain 7 8 (.returnWide 0)]⟩, []⟩

theorem ofCode_summingCode : FlowGraph.ofCode summingCode = .ok ⟨#[summingNode]⟩ := rfl

def summingMoves : List Move := [⟨.plain 0 5 (.constWide 0 1), none⟩]

theorem path_summingNode : FlowGraph.Path ⟨#[summingNode]⟩ summingMoves (.plain 5 7 (.binary .add .long 0 0 2)) := by
  have hnode : summingNode ∈ (⟨#[summingNode]⟩ : FlowGraph).nodes := Array.mem_singleton.2 rfl
  have hsplit : summingNode.block.instrs = [] ++ .plain 0 5 (.constWide 0 1) ::
      .plain 5 7 (.binary .add .long 0 0 2) :: [.plain 7 8 (.returnWide 0)] := rfl
  exact .next (.start hnode rfl) hnode hsplit

/-- Both operands are intact. -/
theorem intact_summing : ∃ v, Hierarchy.empty.close.verify summingMethod = .ok v ∧ v.isOk = true ∧
    ∀ low ∈ [0, 2], summingMethod.Intact summingCode summingMoves low := by
  have hrun : (Hierarchy.empty.close.verify summingMethod).toOption.map Verification.isOk = some true := by cbv
  obtain ⟨v, hv, hok⟩ := exists_ok_of_toOption hrun
  refine ⟨v, hv, hok, fun low hlow => ?_⟩
  obtain ⟨s₀, -, hiff⟩ := intact_iff_not_stray hv hok rfl ofCode_summingCode path_summingNode hlow
  refine hiff.2 fun r hr => ?_
  rw [Reg.mem_span_true] at hr
  simp only [List.mem_cons, List.not_mem_nil, or_false] at hlow
  rcases hlow with rfl | rfl
  · have hw : summingMethod.lastWrite summingCode summingMoves r = some (.instr 0 (.constWide 0 1)) := by
      rcases hr with rfl | rfl <;> rfl
    exact Dataflow.not_stray_of_pairAt hw rfl
  · have hw : summingMethod.lastWrite summingCode summingMoves r = some (.argument (some 2)) := by
      rcases hr with rfl | rfl <;> rfl
    exact Dataflow.not_stray_of_pairAt hw rfl

/-! Two literals next to each other, and the pair between them. -/

def straddlingCode : Code := .ofInstrs 4 0 (.constWide 0 1) [.constWide 2 2, .returnWide 1]

def straddlingMethod : Method := ⟨⟨.object "Zoo", "run", [], .prim .long⟩, Flags.static, some straddlingCode⟩

def straddlingNode : Node :=
  ⟨⟨.plain 0 5 (.constWide 0 1), [.plain 5 10 (.constWide 2 2), .plain 10 11 (.returnWide 1)]⟩, []⟩

theorem ofCode_straddlingCode : FlowGraph.ofCode straddlingCode = .ok ⟨#[straddlingNode]⟩ := rfl

def straddlingMoves : List Move := [⟨.plain 5 10 (.constWide 2 2), none⟩, ⟨.plain 0 5 (.constWide 0 1), none⟩]

theorem path_straddlingNode : FlowGraph.Path ⟨#[straddlingNode]⟩ straddlingMoves (.plain 10 11 (.returnWide 1)) := by
  have hnode : straddlingNode ∈ (⟨#[straddlingNode]⟩ : FlowGraph).nodes := Array.mem_singleton.2 rfl
  have hfirst : straddlingNode.block.instrs = [] ++ .plain 0 5 (.constWide 0 1) ::
      .plain 5 10 (.constWide 2 2) :: [.plain 10 11 (.returnWide 1)] := rfl
  have hsecond : straddlingNode.block.instrs = [.plain 0 5 (.constWide 0 1)] ++ .plain 5 10 (.constWide 2 2) ::
      .plain 10 11 (.returnWide 1) :: [] := rfl
  exact .next (.next (.start hnode rfl) hnode hfirst) hnode hsecond

/-- The high half of one literal and the low half of another are read as a pair, and nothing is found wrong. -/
theorem halves_of_two_writes : ∃ h v c g moves i, Hierarchy.ofClasses [] = .ok h ∧
    h.verify straddlingMethod = .ok v ∧ v.isOk = true ∧ straddlingMethod.code = some c ∧ FlowGraph.ofCode c = .ok g ∧
    g.Path moves i ∧ ∃ low ∈ i.instr.pairReads, ¬ straddlingMethod.Intact c moves low := by
  have hrun : (Hierarchy.empty.close.verify straddlingMethod).toOption.map Verification.isOk = some true := by cbv
  obtain ⟨v, hv, hok⟩ := exists_ok_of_toOption hrun
  refine ⟨_, v, _, _, _, _, rfl, hv, hok, rfl, ofCode_straddlingCode, path_straddlingNode, 1,
    List.mem_singleton.2 rfl, ?_⟩
  rintro ⟨w, hlow, hhigh, -⟩
  have hfirst : straddlingMethod.lastWrite straddlingCode straddlingMoves 1 = some (.instr 0 (.constWide 0 1)) := rfl
  have hsecond : straddlingMethod.lastWrite straddlingCode straddlingMoves 2 = some (.instr 1 (.constWide 2 2)) := rfl
  cases hlow.symm.trans hfirst
  cases hhigh.symm.trans hsecond

end Verification
end Dalvik
