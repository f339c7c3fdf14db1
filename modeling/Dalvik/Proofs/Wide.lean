import Dalvik.Proofs.Assignment

/-!
# Wide operands

Which operands of an instruction are wide, by their low registers, and where wide types come from: an instruction reads
a wide operand from two registers that both hold wide types, and a type that it writes to one register is not wide. The
exception is `move-exception`, as a handler may declare a wide type for what it catches. Neither branches nor joins make
a type wide that was not.
-/

namespace Dalvik

def Reg.lows (wide : Bool) (r : Reg) : List Reg := if wide then [r] else []

@[simp] theorem Reg.lows_true (r : Reg) : Reg.lows true r = [r] := rfl

@[simp] theorem Reg.lows_false (r : Reg) : Reg.lows false r = [] := rfl

/-- The low registers of the arguments for wide parameters. -/
def Reg.pairArguments : List Descriptor → List Reg → List Reg
  | [], _ => []
  | p :: ps, args =>
    match p.isWide, args with
    | false, _ :: rest => pairArguments ps rest
    | true, low :: _ :: rest => low :: pairArguments ps rest
    | _, _ => []

/-- The low registers of the wide operands. -/
def Instr.pairReads : Instr → List Reg
  | moveWide _ src | returnWide src => [src]
  | cmp kind _ left right => Reg.lows kind.isWide left ++ Reg.lows kind.isWide right
  | aput access src _ _ | iput access src _ _ | sput access src _ => Reg.lows access.isWide src
  | invoke kind m args => Reg.pairArguments m.params (args.drop kind.hasReceiver.toNat)
  | unary _ kind _ src => Reg.lows kind.isWide src
  | convert _ src source _ => Reg.lows source.isWide src
  | binary op kind _ left right => Reg.lows kind.isWide left ++ Reg.lows (!op.isShift && kind.isWide) right
  | _ => []

namespace TypeState
variable {o : ClassOracle} {s : TypeState} {r : Reg} {t : RegisterType}

/-- Both registers of the pair hold wide types. -/
def HoldsPair (s : TypeState) (r : Reg) : Prop := ∀ r' ∈ Reg.span true r, ∃ t, s.type? r' = some t ∧ t.isWide = true

theorem holdsPair_of_usePair (h : s.usePair r = .ok t) : s.HoldsPair r := by
  simp only [usePair, bind_eq_ok, pure_eq_ok, require_eq_ok, Bool.and_eq_true] at h
  obtain ⟨low, hlow, high, hhigh, _, ⟨hsame, hwide⟩, rfl⟩ := h
  obtain ⟨hlow, hplain⟩ := use_eq_ok.1 hlow
  obtain rfl := RegisterType.eq_of_beq_of_plain hsame hplain
  intro r' hr'
  rcases Reg.mem_span_true.1 hr' with rfl | rfl
  · exact ⟨low, hlow, hwide⟩
  · exact ⟨low, (use_eq_ok.1 hhigh).1, hwide⟩

theorem holdsPair_of_useWidth {wide : Bool} (h : s.useWidth wide r = .ok t) :
    ∀ r' ∈ Reg.lows wide r, s.HoldsPair r' := by
  cases wide with
  | false => simp
  | true => simpa using holdsPair_of_usePair h

theorem holdsPair_of_useKind {kind : PrimitiveKind} {u : Unit} (h : s.useKind o r kind = .ok u) :
    ∀ r' ∈ Reg.lows kind.isWide r, s.HoldsPair r' := by
  simp only [useKind, bind_eq_ok] at h
  obtain ⟨t, ht, -⟩ := h
  exact holdsPair_of_useWidth ht

theorem holdsPair_of_useTyped {u : Unit} (h : s.useTyped o r t = .ok u) :
    ∀ r' ∈ Reg.lows t.isWide r, s.HoldsPair r' := by
  simp only [useTyped, bind_eq_ok] at h
  obtain ⟨t', ht', -⟩ := h
  exact holdsPair_of_useWidth ht'

theorem holdsPair_of_checkParams {ps : List Descriptor} {args : List Reg} {u : Unit}
    (h : s.checkParams o ps args = .ok u) : ∀ r ∈ Reg.pairArguments ps args, s.HoldsPair r := by
  induction ps generalizing args with
  | nil => exact fun r hr => absurd hr List.not_mem_nil
  | cons p ps ih =>
    rw [checkParams, bind_eq_ok] at h
    obtain ⟨t, ht, h⟩ := h
    have hwide := isWide_ofDescriptor (declaredType_eq_ok.1 ht)
    cases hw : t.isWide with
    | false =>
      rw [hw] at h hwide
      rcases args with _ | ⟨r, rest⟩
      · simp [Reg.pairArguments, ← hwide]
      simp only [bind_eq_ok] at h
      obtain ⟨_, -, h⟩ := h
      simpa [Reg.pairArguments, ← hwide] using ih h
    | true =>
      rw [hw] at h hwide
      rcases args with _ | ⟨low, _ | ⟨high, rest⟩⟩
      · simp [Reg.pairArguments, ← hwide]
      · simp [Reg.pairArguments, ← hwide]
      simp only [bind_eq_ok] at h
      obtain ⟨_, -, _, huse, h⟩ := h
      have hlow := holdsPair_of_useTyped huse low (by simp [hw])
      simpa [Reg.pairArguments, ← hwide] using ⟨hlow, ih h⟩

end TypeState

section
variable {o : ClassOracle} {s : TypeState}

open TypeState

def Demand.pairs : Demand → List Reg
  | kind r k => Reg.lows k.isWide r
  | typed r t => Reg.lows t.isWide r
  | field _ access src _ | element _ access src _ => Reg.lows access.isWide src
  | arguments m args hasReceiver => Reg.pairArguments m.params (args.drop hasReceiver.toNat)
  | returns _ r form => Reg.lows form.isWide r
  | _ => []

theorem Demand.holdsPair {d : Demand} {u : Unit} (h : d.check o s = .ok u) : ∀ r ∈ d.pairs, s.HoldsPair r := by
  cases d with
  | kind r k => exact holdsPair_of_useKind h
  | typed r t => exact holdsPair_of_useTyped h
  | field i access src f =>
    simp only [check, bind_eq_ok, require_eq_ok, declaredType_eq_ok] at h
    obtain ⟨_, hfits, t, ht, huse⟩ := h
    rw [pairs, ← Access.isWide_of_fits hfits ht]
    exact holdsPair_of_useTyped huse
  | element i access src r =>
    obtain ⟨-, t, ht⟩ := useWidth_of_checkElement h
    exact holdsPair_of_useWidth ht
  | arguments m args hasReceiver =>
    simp only [check, checkArguments, bind_eq_ok] at h
    obtain ⟨_, -, hparams⟩ := h
    exact holdsPair_of_checkParams hparams
  | returns i r form =>
    obtain ⟨t, hform, huse⟩ := checkReturn_eq_ok h
    rw [pairs, ← Form.isWide_of_returns hform]
    exact holdsPair_of_useTyped huse
  | _ => exact fun r hr => absurd hr List.not_mem_nil

def Source.pairs : Source → List Reg
  | pair r => [r]
  | converted r source _ => Reg.lows source.isWide r
  | _ => []

theorem Source.holdsPair {x : Source} {t : RegisterType} (h : x.fetch o s = .ok t) :
    ∀ r ∈ x.pairs, s.HoldsPair r := by
  cases x with
  | pair r => exact List.forall_mem_singleton.2 (holdsPair_of_usePair h)
  | converted r source target =>
    obtain ⟨⟨kind, hkind, huse⟩, -⟩ := converted_eq_ok h
    simpa [pairs, Descriptor.isWide, hkind] using holdsPair_of_useKind huse
  | _ => exact fun r hr => absurd hr List.not_mem_nil

def Outcome.pairs : Outcome → List Reg
  | put _ x => x.pairs
  | _ => []

theorem Outcome.holdsPair {x : Outcome} {e : Effect} (h : x.effect o s = .ok e) : ∀ r ∈ x.pairs, s.HoldsPair r := by
  cases x with
  | put dst x =>
    simp only [effect, bind_eq_ok] at h
    obtain ⟨t, ht, -⟩ := h
    exact Source.holdsPair ht
  | _ => exact fun r hr => absurd hr List.not_mem_nil

theorem Outcome.isWide_of_effect {x : Outcome} {r : Reg} {t : RegisterType} (h : x.effect o s = .ok (.write r t)) :
    t.isWide = false ∨ s.exception = some t ∧ x = put r .exception := by
  cases x with
  | put dst x =>
    simp only [effect, bind_eq_ok, pure_eq_ok] at h
    obtain ⟨t, ht, h⟩ := h
    split at h
    · cases h
    · next hnarrow =>
      cases h
      by_cases hx : x = .exception
      · subst hx
        exact .inr ⟨takeException_eq_ok.1 ht, rfl⟩
      · exact .inl ((Source.isWide_of_fetch ht hx).trans (Bool.eq_false_iff.2 hnarrow))
  | construct receiver m =>
    simp only [effect, bind_eq_ok, pure_eq_ok] at h
    obtain ⟨_, -, h⟩ := h
    cases h
  | _ => cases h

end

namespace Instr
variable {o : ClassOracle} {s : TypeState} {i : Instr} {e : Effect} {r : Reg} {t : RegisterType}
  {d : Descriptor}

open TypeState

theorem pairReads_subset (i : Instr) : i.pairReads ⊆ i.demands.flatMap Demand.pairs ++ i.outcome.pairs := by
  cases i with
  | binary op kind dst left right =>
    cases hshift : op.isShift <;> simp [pairReads, demands, Demand.pairs, NumKind.isWide, hshift]
  | _ => simp [pairReads, demands, outcome, Demand.pairs, Outcome.pairs, Source.pairs, NumKind.isWide, Form.isWide]

theorem eq_moveException_of_outcome (h : i.outcome = .put r .exception) : i = .moveException r := by
  cases i with
  | moveException dst =>
    cases h
    rfl
  | invoke kind m args => exact absurd h (outcome_invoke_ne_put kind m args r _)
  | _ => cases h

/-- What is written to one register is not wide, unless it was caught. -/
theorem isWide_of_effect (h : i.effect o s = .ok (.write r t)) :
    t.isWide = false ∨ s.exception = some t ∧ ∃ dst, i = .moveException dst := by
  refine (Outcome.isWide_of_effect (effect_eq_ok h).2).imp id ?_
  rintro ⟨ht, houtcome⟩
  exact ⟨ht, r, eq_moveException_of_outcome houtcome⟩

/-- A wide operand is in two registers that hold wide types. -/
theorem holdsPair_of_effect (h : i.effect o s = .ok e) : ∀ r ∈ i.pairReads, s.HoldsPair r := by
  obtain ⟨hdemands, houtcome⟩ := effect_eq_ok h
  intro r hr
  rcases List.mem_append.1 (i.pairReads_subset hr) with hr | hr
  · obtain ⟨d, hd, hr⟩ := List.mem_flatMap.1 hr
    exact Demand.holdsPair (hdemands d hd) r hr
  · exact Outcome.holdsPair houtcome r hr

theorem isReference_of_checkCast (h : (checkCast r d).effect o s = .ok e) : d.isReference = true := by
  simp only [effect, bind_eq_ok, require_eq_ok] at h
  obtain ⟨_, href, -⟩ := h
  exact href

end Instr

theorem RegisterType.Widens.isWide {ρ : Descriptor → Descriptor → Prop} {a b : RegisterType} (h : Widens ρ a b)
    (hb : b.isWide = true) : a = .unknown ∨ a.isWide = true := by
  cases h with
  | unknown => exact .inl rfl
  | primitive hk => exact .inr ((PrimitiveKind.isWide_of_widensTo hk).trans hb)
  | wideLiteral | widePrimitive => exact .inr rfl
  | zero hz =>
    rcases hz with hz | hz
    · rw [isWide_of_isSingleWord hz] at hb
      cases hb
    · rw [isWide_of_isReferenceLike hz] at hb
      cases hb
  | literalPrimitive hk =>
    rw [RegisterType.isWide, PrimitiveKind.isWide_of_isIntegral hk] at hb
    cases hb
  | _ => cases hb

namespace TypeState
variable {o : ClassOracle} {s s' : TypeState} {r : Reg} {t : RegisterType}

theorem FlowsInto.widens (h : s.FlowsInto o s') : s.Below (RegisterType.Widens fun _ _ => True) s' :=
  .of_flowsInto (RegisterType.Widens.joinOrder (Content.bounds_true o)) h

theorem FlowsInto.isWide (h : s.FlowsInto o s') (hk : s.Known r) (ht : s'.type? r = some t) (hwide : t.isWide = true) :
    ∃ u, s.type? r = some u ∧ u.isWide = true := by
  obtain ⟨u, hu, hne⟩ := hk
  exact ⟨u, hu, ((h.widens.types r u t hu ht).isWide hwide).resolve_left hne⟩

theorem FlowsInto.isWide_exception (h : s.FlowsInto o s') (hcatch : s.CatchesValue) (ht : s'.exception = some t)
    (hwide : t.isWide = true) : ∃ u, s.exception = some u ∧ u.isWide = true := by
  obtain ⟨u, hu, hle⟩ := h.widens.exception t ht
  rcases hle.isWide hwide with rfl | hwide
  · rcases hcatch _ hu with hcontent | hcontent <;> cases hcontent
  · exact ⟨u, hu, hwide⟩

end TypeState

/-! ### Branches -/

/-- Some handler declares a wide type for what it catches. -/
def Code.CatchesWide (c : Code) : Prop := ∃ item ∈ c.tries, ∃ handler ∈ item.handlers, handler.type.isWide = true

namespace Code
variable {c : Code} {i : LabeledInstr} {r : Reg} {d : Descriptor}

theorem eq_checkCast_of_leftBy (h : c.LeftBy i (.castSuccess r d)) : i.instr = .checkCast r d := by
  obtain h | ⟨target, h⟩ := h
  · cases h
  rcases List.mem_append.1 h with h | h
  · unfold LabeledInstr.branching at h
    split at h <;> simp_all
  · obtain ⟨item, -, h⟩ := mem_branches_of_catches h
    simp [TryItem.branches] at h

theorem exists_handler_of_leftBy (h : c.LeftBy i (.caught d)) :
    ∃ item ∈ c.tries, ∃ handler ∈ item.handlers, handler.type = d := by
  obtain h | ⟨target, h⟩ := h
  · cases h
  rcases List.mem_append.1 h with h | h
  · cases FlowGraph.isExceptional_branching h
  · obtain ⟨item, hitem, h⟩ := mem_branches_of_catches h
    rcases List.mem_append.1 h with h | h
    · obtain ⟨handler, hhandler, heq⟩ := List.mem_map.1 h
      cases heq
      exact ⟨item, hitem, handler, hhandler, rfl⟩
    · obtain ⟨a, -, heq⟩ := List.mem_map.1 h
      cases heq

end Code

namespace TypeState
variable {s s' : TypeState} {r : Reg} {t : RegisterType} {b : Branch}

/-- Branches do not make the type of a register wide, except casts to a type that is. -/
theorem isWide_follow (h : s.follow b = ⟨s', none⟩) (hcast : ∀ r' d, b = .castSuccess r' d → d.isReference = true)
    (ht : s'.type? r = some t) (hwide : t.isWide = true) : s.type? r = some t := by
  unfold follow at h
  split at h
  · split at h
    · cases h
      exact ht
    · cases h
  · cases h
    exact ht
  · next r' d =>
    split at h
    · have hfail : (s.write r' (.declared d)).failure = none := by rw [h]
      have htypes := (write_eq_ok hfail).2 r
      rw [h, ht] at htypes
      split at htypes
      · cases htypes
        rw [RegisterType.isWide_declared, Descriptor.isWide_of_isReference (hcast r' d rfl)] at hwide
        cases hwide
      · exact htypes.symm
    · cases h
      exact ht
    · cases h
  · cases h
    exact ht

theorem isWide_exception_follow (h : s.follow b = ⟨s', none⟩) (ht : s'.exception = some t) (hwide : t.isWide = true) :
    s.exception = some t ∨ ∃ d, b = .caught d ∧ d.isWide = true := by
  unfold follow at h
  split at h
  · next d =>
    split at h
    · next u hu =>
      cases h
      cases ht
      exact .inr ⟨d, rfl, (isWide_ofDescriptor hu).symm.trans hwide⟩
    · cases h
  · cases h
    cases ht
    cases hwide
  · next r' d =>
    split at h
    · have hexc := s.exception_write r' (.declared d)
      rw [h] at hexc
      exact .inl (hexc.symm.trans ht)
    · cases h
      exact .inl ht
    · cases h
  · cases h
    exact .inl ht

end TypeState

/-! ### Effects -/

/-- A wide type was there before, or was written to the register or to a pair that it is in. -/
theorem Context.isWide_perform {ctx : Context} {s : TypeState} {e : Effect} {sites : AllocationSites} {pc : Address}
    {r : Reg} {t : RegisterType} (h : (ctx.perform sites pc s e).failure = none)
    (ht : (ctx.perform sites pc s e).state.type? r = some t) (hwide : t.isWide = true) :
    r ∉ e.writes ∧ s.type? r = some t ∨ e = .write r t ∨ ∃ low, e = .writePair low t ∧ r ∈ Reg.span true low := by
  have hreplace : ∀ {old new : RegisterType}, new.isWide = false → (s.replace old new).type? r = some t →
      s.type? r = some t := by
    intro old new hnew hr
    rw [TypeState.type?_replace, Option.map_eq_some_iff] at hr
    obtain ⟨u, hu, hr⟩ := hr
    split at hr
    · rw [← hr, hnew] at hwide
      cases hwide
    · rw [hu, hr]
  cases e with
  | skip | yield => exact .inl ⟨List.not_mem_nil, ht⟩
  | write r' t' =>
    have htypes := ht.symm.trans ((TypeState.write_eq_ok h).2 r)
    split at htypes
    · next hr =>
      cases htypes
      exact .inr (.inl (by rw [hr]))
    · next hr => exact .inl ⟨by simpa [Effect.writes] using hr, htypes.symm⟩
  | writePair low t' =>
    have htypes := ht.symm.trans ((TypeState.writePair_eq_ok h).2 r)
    split at htypes
    · next hr =>
      cases htypes
      exact .inr (.inr ⟨low, rfl, hr⟩)
    · next hr => exact .inl ⟨hr, htypes.symm⟩
  | allocate dst type =>
    have htypes := ht.symm.trans ((TypeState.write_eq_ok h).2 r)
    split at htypes
    · cases htypes
      cases hwide
    · next hr => exact .inl ⟨by simpa [Effect.writes] using hr, hreplace rfl htypes.symm⟩
  | construct object type result => exact .inl ⟨List.not_mem_nil, hreplace rfl ht⟩

end Dalvik
