import Dalvik.Proofs.Height
import Dalvik.Proofs.Path

/-!
# Depth of arrays

No instruction makes an array type deeper than those of the state before it and those it names, and neither does a
branch. So the states of a method have no deeper arrays than the method names (`Method.depth`), in its signature, in its
instructions and in its handlers.
-/

namespace Dalvik

namespace RegisterType
variable {d : Descriptor} {t : RegisterType}

theorem dims_ofDescriptor (ht : ofDescriptor d = .ok t) : t.dims ≤ d.dims := by
  unfold ofDescriptor at ht
  split at ht
  · cases ht
  · cases ht
    exact Nat.zero_le _
  · cases ht
    exact Nat.le_refl _

theorem dims_ofResult (ht : t ∈ ofResult d) : t.dims ≤ d.dims := dims_ofDescriptor (ofResult_eq_some.1 ht)

theorem declared_of_ofDescriptor (ht : ofDescriptor d = .ok t) : declared d = t := by
  unfold declared
  rw [ht]
  rfl

theorem dims_declared (d : Descriptor) : (declared d).dims ≤ d.dims := by
  unfold declared
  cases hd : ofDescriptor d with
  | error e => exact Nat.zero_le _
  | ok t => exact dims_ofDescriptor hd

theorem dims_ofLiteral (value : Int) : (ofLiteral value).dims = 0 := by
  fun_cases ofLiteral value <;> rfl

/-- A pending object is as deep as the type it is to be initialized at. -/
theorem dims_of_pendingType? {t : RegisterType} {d : Descriptor} (h : t.pendingType? = some d) :
    t.dims = d.dims := by
  cases t <;> cases h <;> rfl

end RegisterType

namespace TypeState
variable {P : RegisterType → Prop} {s : TypeState} {t : RegisterType}

namespace All

theorem of_type? (hs : s.All P) {r : Reg} (ht : s.type? r = some t) : P t := by
  rw [type?_eq_types] at ht
  exact hs.types t (List.mem_of_getElem? ht)

theorem clearPseudo (hs : s.All P) : s.clearPseudo.All P :=
  ⟨hs.types, fun _ ht => (nomatch ht), fun _ ht => (nomatch ht)⟩

theorem yield (hs : s.All P) {result : Option RegisterType} (hresult : ∀ t ∈ result, P t) :
    TypeState.All P { s with result } :=
  ⟨hs.types, hs.exception, hresult⟩

theorem write (hs : s.All P) (ht : P t) (r : Reg) : (s.write r t).state.All P := by
  unfold TypeState.write
  split
  · refine ⟨fun t' ht' => ?_, hs.exception, hs.result⟩
    simp only [TypeState.types, Array.toList_setIfInBounds, List.map_set] at ht'
    rcases List.mem_or_eq_of_mem_set ht' with ht' | rfl
    · exact hs.types t' ht'
    · exact ht
  · exact hs

theorem writePair (hs : s.All P) (ht : P t) (r : Reg) : (s.writePair r t).state.All P := by
  unfold TypeState.writePair
  dsimp only
  split
  · exact hs.write ht r
  · exact (hs.write ht r).write ht _

theorem replace (hs : s.All P) {old new : RegisterType} (hnew : P new) : (s.replace old new).All P := by
  have hswap : ∀ t, P t → P (if t == old then new else t) := by
    intro t ht
    split
    · exact hnew
    · exact ht
  refine ⟨fun t ht => ?_, fun t ht => ?_, fun t ht => ?_⟩
  · obtain ⟨r, hr⟩ := List.mem_iff_getElem?.1 ht
    rw [← type?_eq_types, type?_replace, Option.map_eq_some_iff] at hr
    obtain ⟨t', ht', rfl⟩ := hr
    exact hswap t' (hs.of_type? ht')
  · obtain ⟨t', ht', rfl⟩ := Option.map_eq_some_iff.1 ht
    exact hswap t' (hs.exception t' ht')
  · obtain ⟨t', ht', rfl⟩ := Option.map_eq_some_iff.1 ht
    exact hswap t' (hs.result t' ht')

end All
end TypeState

namespace TypeState
variable {o : ClassOracle} {s : TypeState} {r : Reg} {t : RegisterType}

theorem type?_of_usePair (ht : s.usePair r = .ok t) : s.type? r = some t := by
  simp only [usePair, bind_eq_ok, pure_eq_ok] at ht
  obtain ⟨low, hlow, high, -, _, -, rfl⟩ := ht
  exact (use_eq_ok.1 hlow).1

/-- Elements have one dimension less than their array. -/
theorem dims_of_useArray {d : Descriptor} (hd : s.useArray r = .ok (some d)) :
    ∃ u : RegisterType, s.type? r = some u ∧ u.dims = d.dims + 1 := by
  simp only [useArray, bind_eq_ok] at hd
  obtain ⟨t, ht, hd⟩ := hd
  split at hd
  · cases hd
  · cases hd
  · next u =>
    split at hd
    · next d' hcomponent =>
      cases hd
      refine ⟨.reference u, (use_eq_ok.1 ht).1, ?_⟩
      unfold Descriptor.component? at hcomponent
      split at hcomponent
      · cases hcomponent
      · next n hn =>
        cases hcomponent
        exact hn
    · cases hd
  · cases hd

end TypeState

namespace Effect

/-- Whatever type the effect puts in a state has the property, given the types of new objects. -/
def All (allocated : Descriptor → RegisterType) (P : RegisterType → Prop) : Effect → Prop
  | skip => True
  | write _ t | writePair _ t => P t
  | yield result => ∀ t ∈ result, P t
  | allocate _ type => P (allocated type)
  | construct _ type result => P (.reference type) ∧ ∀ t ∈ result, P t

theorem All.writeTyped {allocated : Descriptor → RegisterType} {P : RegisterType → Prop} {t : RegisterType} (ht : P t)
    (r : Reg) : (Effect.writeTyped r t).All allocated P := by
  unfold Effect.writeTyped
  split <;> exact ht

def Shallow (depth : Nat) : Effect → Prop
  | skip => True
  | write _ t | writePair _ t => t.dims ≤ depth
  | yield result => ∀ t ∈ result, t.dims ≤ depth
  | allocate _ type => type.dims ≤ depth
  | construct _ type result => type.dims ≤ depth ∧ ∀ t ∈ result, t.dims ≤ depth

theorem Shallow.writeTyped {depth : Nat} {t : RegisterType} (ht : t.dims ≤ depth) (r : Reg) :
    (Effect.writeTyped r t).Shallow depth := by
  unfold Effect.writeTyped
  split <;> exact ht

end Effect

/-- The types that the source names have no deeper arrays. -/
def Source.Shallow (depth : Nat) : Source → Prop
  | constant t => t.dims ≤ depth
  | field _ _ f => f.type.dims ≤ depth
  | _ => True

def Outcome.Shallow (depth : Nat) : Outcome → Prop
  | put _ x => x.Shallow depth
  | yield result => ∀ t ∈ result, t.dims ≤ depth
  | allocate _ type => type.dims ≤ depth
  | construct _ m => m.result.dims ≤ depth
  | skip => True

section
variable {o : ClassOracle} {depth : Nat} {s : TypeState}

open TypeState

theorem Source.dims_of_fetch {x : Source} {t : RegisterType} (h : x.fetch o s = .ok t) (hs : s.Shallow depth)
    (hx : x.Shallow depth) : t.dims ≤ depth := by
  cases x with
  | constant =>
    cases h
    exact hx
  | single r =>
    simp only [fetch, bind_eq_ok, pure_eq_ok] at h
    obtain ⟨t, ht, _, -, rfl⟩ := h
    exact hs.of_type? (use_eq_ok.1 ht).1
  | pair r => exact hs.of_type? (type?_of_usePair h)
  | object r => exact hs.of_type? (copied_eq_ok h).1
  | result form =>
    simp only [fetch, bind_eq_ok, pure_eq_ok] at h
    obtain ⟨t, ht, _, -, rfl⟩ := h
    exact hs.result t (takeResult_eq_ok.1 ht)
  | exception => exact hs.exception t (takeException_eq_ok.1 h)
  | field i access f =>
    simp only [fetch, bind_eq_ok, declaredType_eq_ok] at h
    obtain ⟨_, -, ht⟩ := h
    exact (RegisterType.dims_ofDescriptor ht).trans hx
  | element i access r =>
    simp only [fetch, TypeState.element, bind_eq_ok] at h
    obtain ⟨component, harray, h⟩ := h
    cases component with
    | some d =>
      simp only [bind_eq_ok, declaredType_eq_ok] at h
      obtain ⟨_, -, ht⟩ := h
      -- the array is in the state, so its elements are shallow though the instruction names no type
      obtain ⟨u, hu, hdims⟩ := dims_of_useArray harray
      have hdepth : u.dims ≤ depth := hs.of_type? hu
      have hle := RegisterType.dims_ofDescriptor ht
      omega
    | none =>
      cases h
      cases access <;> exact Nat.zero_le _
  | converted r source target =>
    obtain ⟨-, kind, -, rfl⟩ := converted_eq_ok h
    exact Nat.zero_le _

theorem Outcome.shallow {x : Outcome} {e : Effect} (h : x.effect o s = .ok e) (hs : s.Shallow depth)
    (hx : x.Shallow depth) : e.Shallow depth := by
  cases x with
  | put dst x =>
    simp only [effect, bind_eq_ok, pure_eq_ok] at h
    obtain ⟨t, ht, rfl⟩ := h
    have hdims := Source.dims_of_fetch ht hs hx
    split <;> exact hdims
  | construct receiver m =>
    simp only [effect, bind_eq_ok, pure_eq_ok] at h
    obtain ⟨⟨object, type⟩, hobject, rfl⟩ := h
    obtain ⟨ht, htype⟩ := constructed_eq_ok hobject
    refine ⟨(RegisterType.dims_of_pendingType? htype).symm.trans_le (hs.of_type? ht), fun t ht => ?_⟩
    exact (RegisterType.dims_ofResult ht).trans hx
  | _ =>
    cases h
    exact hx

end

namespace Instr
variable {o : ClassOracle} {depth : Nat} {s : TypeState} {i : Instr} {e : Effect}

theorem recovery_shallow (hi : ∀ t ∈ i.types, t.dims ≤ depth) : i.recovery.Shallow depth := by
  have hdeclared : ∀ d, d.dims ≤ depth → (RegisterType.declared d).dims ≤ depth :=
    fun d hd => (RegisterType.dims_declared d).trans hd
  cases i with
  | checkCast r t | newArray r size t => exact hdeclared t (hi t List.mem_cons_self)
  | filledNewArray args t =>
    intro t' ht'
    cases ht'
    exact hdeclared t (hi t List.mem_cons_self)
  | aget access dst array index =>
    cases access <;> exact Nat.zero_le _
  | iget access dst object field | sget access dst field =>
    exact .writeTyped (hdeclared _ (hi _ (by simp [types]))) dst
  | invoke kind m args =>
    intro t ht
    exact (RegisterType.dims_ofResult ht).trans (hi _ (by simp [types]))
  | unary op kind dst src | binary op kind dst src right => exact .writeTyped (Nat.zero_le _) dst
  | convert dst src source target => exact .writeTyped (hdeclared _ (hi _ (by simp [types]))) dst
  | _ => first | trivial | exact Nat.zero_le _

/-- The types that the rule of the instruction names are among those of the instruction. -/
theorem outcome_shallow (hi : ∀ t ∈ i.types, t.dims ≤ depth) : i.outcome.Shallow depth := by
  cases i with
  | const dst value => exact (RegisterType.dims_ofLiteral value).trans_le (Nat.zero_le _)
  | newInstance dst t | newArray dst size t => exact hi t List.mem_cons_self
  | filledNewArray args t =>
    rintro _ ⟨⟩
    exact hi t List.mem_cons_self
  | iget access dst object field | sget access dst field => exact hi field.type (by simp [types])
  | invoke kind m args =>
    have hm : m.result.dims ≤ depth := hi m.result (by simp [types])
    rcases outcome_invoke kind m args with ⟨receiver, h, -⟩ | ⟨h, -⟩
    · rw [h]
      exact hm
    · rw [h]
      exact fun t ht => (RegisterType.dims_ofResult ht).trans hm
  | _ => first | trivial | exact Nat.zero_le _

theorem effect_shallow (he : i.effect o s = .ok e) (hs : s.Shallow depth) (hi : ∀ t ∈ i.types, t.dims ≤ depth) :
    e.Shallow depth :=
  Outcome.shallow (effect_eq_ok he).2 hs (outcome_shallow hi)

end Instr

namespace Context
variable {ctx : Context} {depth : Nat} {s exit : TypeState} {sites : AllocationSites} {steps : List Step}

theorem perform_all {P : RegisterType → Prop} {pc : Address} {e : Effect} (hs : s.All P) (hconflict : P .conflict)
    (he : e.All (ctx.allocated sites pc) P) : (ctx.perform sites pc s e).state.All P := by
  cases e with
  | skip => exact hs
  | write r t => exact hs.write he r
  | writePair r t => exact hs.writePair he r
  | yield result => exact hs.yield he
  | allocate dst type => exact (hs.replace hconflict).write he dst
  | construct object type result => exact (hs.replace he.1).yield he.2

theorem perform_shallow {e : Effect} (hs : s.Shallow depth) (he : e.Shallow depth) (pc : Address) :
    (ctx.perform sites pc s e).state.Shallow depth :=
  perform_all hs (Nat.zero_le _) (by cases e <;> exact he)

theorem transfer_shallow {i : LabeledInstr} (hs : s.Shallow depth) (hi : ∀ t ∈ i.instr.types, t.dims ≤ depth) :
    (ctx.transfer sites s i).state.Shallow depth := by
  unfold transfer
  split
  · next e he => exact perform_shallow hs.clearPseudo (Instr.effect_shallow he hs hi) _
  · exact hs.clearPseudo
  · exact perform_shallow hs.clearPseudo (Instr.recovery_shallow hi) _

theorem Chain.shallow (hchain : ctx.Chain s steps exit) (hs : s.Shallow depth)
    (hsteps : ∀ st ∈ steps, ∀ t ∈ st.instr.instr.types, t.dims ≤ depth) : exit.Shallow depth := by
  induction hchain with
  | nil => exact hs
  | @cons s st steps exit hbefore hperforms _ ih =>
    refine ih ?_ fun st' hst' => hsteps st' (List.mem_cons_of_mem _ hst')
    obtain ⟨sites, -, hafter, -⟩ := hperforms
    rw [← hafter, hbefore]
    exact transfer_shallow hs (hsteps st List.mem_cons_self)

end Context

/-! ### Branches and initial states -/

def Branch.types : Branch → List Descriptor
  | caught type | castSuccess _ type => [type]
  | _ => []

namespace TypeState
variable {depth : Nat} {s : TypeState}

theorem All.follow {P : RegisterType → Prop} {b : Branch} (hs : s.All P) (hb : ∀ d ∈ b.types, P (.declared d))
    (hthrowable : P (.reference .javaLangThrowable)) : (s.follow b).state.All P := by
  cases b with
  | caught d =>
    unfold TypeState.follow
    dsimp only
    split
    · next t ht =>
      have hcaught : P t := RegisterType.declared_of_ofDescriptor ht ▸ hb d List.mem_cons_self
      exact ⟨hs.types, by rintro _ ⟨⟩; exact hcaught, fun _ h => (nomatch h)⟩
    · exact ⟨hs.types, hs.exception, fun _ h => (nomatch h)⟩
  | caughtAny => exact ⟨hs.types, by rintro _ ⟨⟩; exact hthrowable, fun _ h => (nomatch h)⟩
  | castSuccess r d =>
    unfold TypeState.follow
    dsimp only
    split
    · exact hs.write (hb d List.mem_cons_self) r
    · exact hs
    · exact hs
  | _ => exact hs

theorem follow_shallow {b : Branch} (hs : s.Shallow depth) (hb : ∀ t ∈ b.types, t.dims ≤ depth) :
    (s.follow b).state.Shallow depth :=
  hs.follow (fun d hd => (RegisterType.dims_declared d).trans (hb d hd)) (Nat.zero_le _)

/-- A method starts with its receiver and its parameters, and nothing else is known. -/
theorem All.initial {P : RegisterType → Prop} {m : Method} {c : Code} (h : initial m c = .ok s) (hunknown : P .unknown)
    (hthis : P (.pendingThis m.descriptor.definer)) (hdefiner : P (.reference m.descriptor.definer))
    (hparams : ∀ d ∈ m.descriptor.params, P (.declared d)) : s.All P := by
  obtain ⟨-, hexception, hresult, ts, hts, htypes⟩ := types_initial h
  refine ⟨fun t ht => ?_, by simp [hexception], by simp [hresult]⟩
  rw [htypes, List.mem_append, List.mem_append] at ht
  rcases ht with ht | ht | ht
  · rw [(List.mem_replicate.1 ht).2]
    exact hunknown
  · unfold receiver at ht
    split at ht
    · cases ht
    split at ht
    · rw [List.mem_singleton.1 ht]
      exact hthis
    · rw [List.mem_singleton.1 ht]
      exact hdefiner
  · obtain ⟨t', ht', harg⟩ := List.mem_flatMap.1 ht
    obtain ⟨n, hn⟩ := List.mem_iff_getElem?.1 ht'
    obtain ⟨d, hd, hof⟩ := (mapM_eq_ok hts).2 n t' hn
    rw [eq_of_mem_argument harg, ← RegisterType.declared_of_ofDescriptor hof]
    exact hparams d (List.mem_of_getElem? hd)

theorem initial_shallow {m : Method} {c : Code} (h : initial m c = .ok s)
    (hdefiner : m.descriptor.definer.dims ≤ depth) (hparams : ∀ t ∈ m.descriptor.params, t.dims ≤ depth) :
    s.Shallow depth :=
  .initial h (Nat.zero_le _) hdefiner hdefiner fun d hd => (RegisterType.dims_declared d).trans (hparams d hd)

end TypeState

/-! ### What a method names -/

theorem LabeledInstr.types_branching {i : LabeledInstr} {b : Branch × Address} (hb : b ∈ i.branching) :
    ∀ t ∈ b.1.types, t ∈ i.instr.types := by
  intro t ht
  unfold branching at hb
  split at hb
  case h_2 | h_3 =>
    simp only [List.mem_cons, List.not_mem_nil, or_false] at hb
    rcases hb with rfl | rfl <;> cases ht
  case h_4 =>
    rcases List.mem_cons.1 hb with rfl | hb
    · cases ht
    · obtain ⟨⟨key, target⟩, -, rfl⟩ := List.mem_map.1 hb
      cases ht
  case h_10 | h_11 =>
    split at hb
    · obtain rfl := List.mem_singleton.1 hb
      cases ht
    · cases hb
  case h_12 hinstr =>
    obtain rfl := List.mem_singleton.1 hb
    rw [hinstr]
    exact ht
  case h_13 => cases hb
  all_goals
    obtain rfl := List.mem_singleton.1 hb
    cases ht

namespace Method
variable {m : Method} {c : Code}

theorem dims_le_depth {t : Descriptor} (ht : t ∈ m.types) : t.dims ≤ m.depth := by
  unfold depth
  rw [List.foldl_max]
  exact (List.le_max?_getD_of_mem (List.mem_map_of_mem ht)).trans (Nat.le_max_right _ _)

theorem types_of_instr {i : LabeledInstr} (hc : m.code = some c) (hi : i ∈ c.instrs) :
    ∀ t ∈ i.instr.types, t ∈ m.types := by
  intro t ht
  unfold types
  rw [hc]
  exact List.mem_append_right _ (List.mem_append_left _ (List.mem_flatMap.2 ⟨i, hi, ht⟩))

/-- An edge is labelled with a type that its instruction names, or with the type of a handler. -/
theorem types_of_edge {g : FlowGraph} {n : Nat} {node : Node} {e : Edge} (hc : m.code = some c)
    (hg : FlowGraph.ofCode c = .ok g) (hn : g.nodes[n]? = some node) (he : e ∈ node.edges) :
    ∀ t ∈ e.branch.types, t ∈ m.types := by
  obtain ⟨-, hseq | ⟨b, hb, hbranch⟩⟩ := FlowGraph.mem_edgesOf (FlowGraph.getElem?_nodes hg hn).2 he
  · rw [hseq]
    exact fun t ht => (nomatch ht)
  rw [hbranch]
  intro t ht
  rcases List.mem_append.1 hb with hb | hb
  · exact types_of_instr hc (FlowGraph.mem_instrs hg hn node.block.last_mem) t (LabeledInstr.types_branching hb t ht)
  · obtain ⟨item, hitem, hb⟩ := Code.mem_branches_of_catches hb
    rcases List.mem_append.1 hb with hb | hb
    · obtain ⟨handler, hhandler, rfl⟩ := List.mem_map.1 hb
      obtain rfl := List.mem_singleton.1 ht
      unfold types
      rw [hc]
      refine List.mem_append_right _ (List.mem_append_right _ (List.mem_flatMap.2 ⟨item, hitem, ?_⟩))
      exact List.mem_map_of_mem hhandler
    · obtain ⟨a, -, rfl⟩ := List.mem_map.1 hb
      cases ht

end Method
end Dalvik
