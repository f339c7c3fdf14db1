import Dalvik.Proofs.ArrayBounds
import Dalvik.Proofs.Weakening

/-!
# Precision

What passes the checks of an instruction in a state passes them in every state that says more, so a state that says less
loses no violation, but for the complaints of `TypeState.Loses` (`Context.violation_of_coarsens`). It matters which
arrays are assignable to each other: a value is put in an array, and read from it, as the type of the components says.
Over a hierarchy nothing goes wrong there (`TypeState.Coarsens.covariantAt`).
-/

namespace Dalvik

/-! ### Instructions -/

/-- The register in which the instruction expects an array. -/
def Instr.array? : Instr → Option Reg
  | arrayLength _ array | aget _ _ array _ | aput _ _ array _ => some array
  | _ => none

def Demand.array? : Demand → Option Reg
  | array r | element _ _ _ r => some r
  | _ => none

def Source.array? : Source → Option Reg
  | element _ _ r => some r
  | _ => none

def Outcome.array? : Outcome → Option Reg
  | put _ x => x.array?
  | _ => none

namespace Instr
variable {i : Instr} {r : Reg}

theorem array?_of_demands (hr : r ∈ i.demands.filterMap Demand.array?) : i.array? = some r := by
  cases i with
  | arrayLength | aput =>
    cases List.mem_singleton.1 hr
    rfl
  | invoke kind m args =>
    rcases demands_invoke kind m args with h | ⟨receiver, -, h⟩ <;>
      · rw [h] at hr
        cases hr
  | _ => cases hr

theorem array?_of_outcome (hr : i.outcome.array? = some r) : i.array? = some r := by
  cases i with
  | invoke kind m args =>
    rcases outcome_invoke kind m args with ⟨receiver, h, -⟩ | ⟨h, -⟩ <;>
      · rw [h] at hr
        cases hr
  | aget => exact hr
  | _ => cases hr

end Instr

section
open Check TypeState

variable {o : ClassOracle} {s s' : TypeState}

/-- Only the complaint about a result that is unknown, or a wide literal, can be lost. -/
theorem Form.weakens_expect (f : Form) {t t' : RegisterType} (ht : s.result = some t)
    (hle : t.isAssignable o t' = true) : Weakens (s.Loses s') (fun _ _ => True) (f.expect t) (f.expect t') := by
  cases f with
  | word =>
    refine (Weakens.require fun hword => ?_).imp fun _ _ _ => trivial
    by_cases hne : t = .unknown
    · exact .inr (.result ht (.inl hne) (.inl rfl))
    · exact .inl (RegisterType.Refines.isSingleWord ⟨hle, hne⟩ hword)
  | wide =>
    refine (Weakens.require fun hwide => ?_).imp fun _ _ _ => trivial
    by_cases hne : t = .unknown
    · exact .inr (.result ht (.inl hne) (.inr (.inl rfl)))
    · exact (RegisterType.Refines.isWide ⟨hle, hne⟩ hwide).imp_right fun hliteral =>
        .result ht (.inr hliteral) (.inr (.inl rfl))
  | object =>
    refine (Weakens.require fun href => ?_).imp fun _ _ _ => trivial
    by_cases hne : t = .unknown
    · exact .inr (.result ht (.inl hne) (.inr (.inr rfl)))
    · exact .inl (RegisterType.Refines.isReferenceLike ⟨hle, hne⟩ href)

variable (h : s.Coarsens o s')
include h

namespace TypeState.Coarsens

theorem takeException : Weakens (s.Loses s') (fun _ _ => True) s.takeException s'.takeException := by
  unfold TypeState.takeException
  cases hexception' : s'.exception with
  | none => exact .complains _ _
  | some t' =>
    obtain ⟨t, hexception, -⟩ := h.below.exception t' hexception'
    rw [hexception]
    exact .pure

theorem checkReturnVoid : Weakens (s.Loses s') (fun _ _ => True) s.checkReturnVoid s'.checkReturnVoid := by
  have hexpected := RegisterType.option_beq_iff.1 h.below.expected
  unfold TypeState.checkReturnVoid
  cases he' : s'.expected with
  | some e' => exact .complains _ _
  | none =>
    rw [he', Option.map_none, Option.map_eq_none_iff] at hexpected
    rw [hexpected]
    exact .pure

theorem copied (r : Reg) : Weakens (s.Loses s') (fun _ _ => True) (s.copied r) (s'.copied r) := by
  refine (h.peek r).bind fun t t' ht => ?_
  obtain ⟨ht, ht'⟩ := ht
  cases hpending : t.isPending with
  | true =>
    cases hpending' : t'.isPending with
    | true => exact .pure
    | false =>
      obtain ⟨c, huse⟩ := h.use_of_isPending ht hpending
      simp only [huse]
      exact .complains _ c
  | false =>
    cases hpending' : t'.isPending with
    | true =>
      have hcontent := (h.refines ht ht' (by rintro rfl; cases hpending')).content.resolve_right
        (by rintro rfl; cases hpending')
      rw [RegisterType.isPending_congr hcontent, hpending] at hpending'
      cases hpending'
    | false =>
      refine (h.use r).bind fun u u' hu => ?_
      exact (Weakens.require fun href => .inl (hu.2.2.isReferenceLike href)).bind fun _ _ _ => .pure

theorem element (i : Instr) (access : Access) {array : Reg} (harray : s.CovariantAt s' array) :
    Weakens (s.Loses s') (fun _ _ => True) (s.element i access array) (s'.element i access array) := by
  refine (h.useArray harray).bind fun e e' he => ?_
  cases he with
  | null e' =>
    cases e' with
    | none => exact .pure
    | some c' =>
      dsimp only
      cases hfits : access.fits c' with
      | false => exact .complains _ _
      | true =>
        obtain ⟨t', ht'⟩ := Access.exists_ofDescriptor hfits
        rw [declaredType_eq_ok.2 ht']
        exact .pure
  | same c => exact .same _ fun _ _ => .refl _
  | references hc hc' =>
    dsimp only
    rw [declaredType_eq_ok.2 (RegisterType.ofDescriptor_of_isReference hc),
      declaredType_eq_ok.2 (RegisterType.ofDescriptor_of_isReference hc')]
    refine (Weakens.require fun hfits => .inl ?_).bind fun _ _ _ => .pure
    rwa [Access.fits_iff_of_isReference hc, ← Access.fits_iff_of_isReference hc']

theorem checkComparison (comp : Comparison) (left right : Reg) :
    Weakens (s.Loses s') (fun _ _ => True) (s.checkComparison comp left right)
      (s'.checkComparison comp left right) := by
  refine (h.use left).bind fun l l' hl => (h.use right).bind fun r r' hr => ?_
  refine (Weakens.require fun hcompare => .inl ?_).imp fun _ _ _ => trivial
  simp only [Bool.or_eq_true, Bool.and_eq_true] at hcompare ⊢
  rcases hcompare with ⟨hl', hr'⟩ | ⟨⟨hl', hr'⟩, hcomp⟩
  · exact .inl ⟨hl.2.2.isIntegral hl', hr.2.2.isIntegral hr'⟩
  · exact .inr ⟨⟨hl.2.2.isReferenceLike hl', hr.2.2.isReferenceLike hr'⟩, hcomp⟩

theorem checkZeroComparison (comp : Comparison) (r : Reg) :
    Weakens (s.Loses s') (fun _ _ => True) (s.checkZeroComparison comp r) (s'.checkZeroComparison comp r) := by
  refine (h.use r).bind fun t t' ht => ?_
  refine (Weakens.require fun hcompare => .inl ?_).imp fun _ _ _ => trivial
  simp only [Bool.or_eq_true, Bool.and_eq_true] at hcompare ⊢
  exact hcompare.imp ht.2.2.isIntegral fun href => ⟨ht.2.2.isReferenceLike href.1, href.2⟩

variable (ho : ∀ t u v, o.isAssignable t u = true → o.isAssignable u v = true → o.isAssignable t v = true)
include ho

theorem useOwner (r : Reg) (definer : Descriptor) :
    Weakens (s.Loses s') (fun _ _ => True) (s.useOwner o r definer) (s'.useOwner o r definer) := by
  refine (h.peek r).bind fun t t' hr => ?_
  obtain ⟨ht, ht'⟩ := hr
  cases hown : t == .pendingThis definer with
  | true =>
    cases hown' : t' == .pendingThis definer with
    | true => exact .pure
    | false =>
      have hpending : t.isPending = true := RegisterType.isPending_congr (RegisterType.content_eq_of_beq hown)
      obtain ⟨c, huse⟩ := h.use_of_isPending ht hpending
      simp only [TypeState.useTyped, TypeState.useWidth, RegisterType.isWide, huse]
      exact .complains _ c
  | false =>
    cases hown' : t' == .pendingThis definer with
    | true =>
      have hcontent' := RegisterType.content_eq_of_beq hown'
      obtain rfl := RegisterType.content_eq_receiver.1 hcontent'
      have hcontent := (h.refines ht ht' (by simp)).content.resolve_right (by simp)
      obtain rfl := RegisterType.content_eq_receiver.1 hcontent.symm
      rw [hown'] at hown
      cases hown
    | false => exact h.useTyped ho r rfl

theorem checkElement (i : Instr) (access : Access) (src : Reg) {array : Reg} (harray : s.CovariantAt s' array) :
    Weakens (s.Loses s') (fun _ _ => True) (s.checkElement o i access src array)
      (s'.checkElement o i access src array) := by
  refine (h.useArray harray).bind fun e e' he => ?_
  cases he with
  | null e' =>
    cases e' with
    | none =>
      cases access with
      | wide => exact (h.usePair src).bind fun _ _ _ => .pure
      | object => exact h.useObject ho src
      | _ =>
        refine (h.use src).bind fun t t' ht => ?_
        exact (Weakens.require fun hword => .inl (ht.2.2.isSingleWord hword)).imp fun _ _ _ => trivial
    | some c' =>
      dsimp only
      cases hfits : access.fits c' with
      | false => exact .complains _ _
      | true =>
        -- null takes any value that fits the access, and an array takes no others
        by_cases hobject : access = .object
        · subst hobject
          rw [declaredType_eq_ok.2 (RegisterType.ofDescriptor_of_isReference hfits)]
          exact h.useObject ho src
        · obtain ⟨kind, rfl⟩ := Access.prim_of_fits hfits hobject
          have hwide : kind.isWide = access.isWide := Access.isWide_of_fits (t := .primitive kind) hfits rfl
          cases access with
          | object => exact absurd rfl hobject
          | wide => exact h.usePair_useTyped src hwide
          | _ => exact h.use_useTyped ho src hwide
  | same c =>
    refine .same _ fun _ _ => .same _ fun t _ => ?_
    split
    · exact h.useObject ho src
    · exact h.useTyped ho src rfl
  | references hc hc' =>
    dsimp only
    rw [declaredType_eq_ok.2 (RegisterType.ofDescriptor_of_isReference hc),
      declaredType_eq_ok.2 (RegisterType.ofDescriptor_of_isReference hc')]
    refine (Weakens.require fun hfits => .inl ?_).bind fun _ _ _ => h.useObject ho src
    rwa [Access.fits_iff_of_isReference hc, ← Access.fits_iff_of_isReference hc']

theorem checkElements (args : List Reg) (d : Descriptor) :
    Weakens (s.Loses s') (fun _ _ => True) (s.checkElements o args d) (s'.checkElements o args d) := by
  unfold TypeState.checkElements
  split
  · exact .same _ fun _ _ => .same _ fun t _ => .forM fun r _ => h.useTyped ho r rfl
  · exact .complains _ _

theorem converted (r : Reg) (source target : Descriptor) :
    Weakens (s.Loses s') (fun _ _ => True) (s.converted o r source target) (s'.converted o r source target) := by
  unfold TypeState.converted
  split
  · exact (h.useKind ho r _).bind fun _ _ _ => .pure
  · exact .complains _ _

end TypeState.Coarsens

variable (ho : ∀ t u v, o.isAssignable t u = true → o.isAssignable u v = true → o.isAssignable t v = true)
include ho

theorem Demand.weakens (d : Demand) (harray : ∀ r, d.array? = some r → s.CovariantAt s' r) :
    Weakens (s.Loses s') (fun _ _ => True) (d.check o s) (d.check o s') := by
  cases d with
  | require b c => exact .refl _
  | kind r k => exact h.useKind ho r k
  | typed r t => exact h.useTyped ho r rfl
  | array r => exact (h.useArray (harray r rfl)).bind fun _ _ _ => .pure
  | field i access src f => exact .same _ fun _ _ => .same _ fun t _ => h.useTyped ho src rfl
  | owner object definer => exact h.useOwner ho object definer
  | element i access src r => exact h.checkElement ho i access src (harray r rfl)
  | elements args t => exact h.checkElements ho args t
  | comparable comp left right => exact h.checkComparison comp left right
  | comparableZero comp r => exact h.checkZeroComparison comp r
  | arguments m args hasReceiver => exact h.checkArguments ho m args hasReceiver
  | escape => exact h.checkEscape
  | returnsNothing => exact h.checkReturnVoid
  | returns i r form =>
    refine h.checkReturn ho i r fun t => ?_
    cases form <;> simp [Form.returns, t.isWide_unlabeled, t.isReferenceLike_unlabeled]

theorem Source.weakens (x : Source) (harray : ∀ r, x.array? = some r → s.CovariantAt s' r) :
    Weakens (s.Loses s') (fun _ _ => True) (x.fetch o s) (x.fetch o s') := by
  cases x with
  | constant => exact .pure
  | single r =>
    refine (h.use r).bind fun t t' ht => ?_
    exact (Weakens.require fun hword => .inl (ht.2.2.isSingleWord hword)).bind fun _ _ _ => .pure
  | pair r => exact (h.usePair r).imp fun _ _ _ => trivial
  | object r => exact h.copied r
  | result form =>
    exact h.takeResult.bind fun t t' ht => (form.weakens_expect ht.1 ht.2).bind fun _ _ _ => .pure
  | exception => exact h.takeException
  | field i access f => exact .refl _
  | element i access r => exact h.element i access (harray r rfl)
  | converted r source target => exact h.converted ho r source target

theorem Outcome.weakens (x : Outcome) (harray : ∀ r, x.array? = some r → s.CovariantAt s' r) :
    Weakens (s.Loses s') (fun _ _ => True) (x.effect o s) (x.effect o s') := by
  cases x with
  | put dst x => exact (Source.weakens h ho x harray).bind fun _ _ _ => .pure
  | construct receiver m => exact (h.constructed receiver m).bind fun _ _ _ => .pure
  | _ => exact .pure

/-- What passes the checks of an instruction in a state passes them in one that says more. -/
theorem Instr.weakens_effect (i : Instr) (harray : ∀ r, i.array? = some r → s.CovariantAt s' r) :
    Weakens (s.Loses s') (fun _ _ => True) (i.effect o s) (i.effect o s') := by
  rw [effect_eq, effect_eq]
  refine (Weakens.forM fun d hd => ?_).bind fun _ _ _ => ?_
  · exact Demand.weakens h ho d fun r hr => harray r (array?_of_demands (List.mem_filterMap.2 ⟨d, hd, hr⟩))
  · exact Outcome.weakens h ho i.outcome fun r hr => harray r (array?_of_outcome hr)

end

/-! ### Violations -/

/-- A violation in a state is one in every state that says less, too, unless it is lost. -/
theorem Context.violation_of_coarsens {ctx : Context} {sites sites' : AllocationSites} {s s' : TypeState}
    {i : LabeledInstr} {x : Violation}
    (ho : ∀ t u v, ctx.oracle.isAssignable t u = true → ctx.oracle.isAssignable u v = true →
      ctx.oracle.isAssignable t v = true)
    (h : s.Coarsens ctx.oracle s') (harray : ∀ r, i.instr.array? = some r → s.CovariantAt s' r)
    (hx : (ctx.transfer sites s i).violation = some x) :
    (∃ x', (ctx.transfer sites' s' i).violation = some x') ∨ s.Loses s' x.complaint := by
  obtain ⟨c, hc, rfl⟩ := violation_eq_some_iff.1 hx
  refine ((i.instr.weakens_effect h ho harray).complaint hc).imp_left fun hcomplains => ?_
  obtain ⟨c', hc'⟩ := hcomplains
  exact ⟨_, violation_eq_some_iff.2 ⟨c', hc', rfl⟩⟩

/-- In a hierarchy, only arrays are assignable to arrays, and no array of primitive values to another one. -/
theorem Hierarchy.covariant_of_isAssignable {h : Hierarchy} {d d' : Descriptor} (hle : h.isAssignable d d' = true) :
    d.Covariant d' := by
  intro c' hc'
  cases conforms_of_isAssignable hle with
  | refl => exact ⟨c', hc', .inl rfl⟩
  | element n _ =>
    cases n with
    | zero => cases hc'
    | succ n =>
      cases hc'
      exact ⟨_, rfl, .inr ⟨by cases n <;> rfl, by cases n <;> rfl⟩⟩
  | @deeper m n b y hlt _ =>
    cases n with
    | zero => cases hc'
    | succ n =>
      cases hc'
      obtain ⟨m, rfl⟩ : ∃ m', m = m' + 2 := ⟨m - 2, by omega⟩
      exact ⟨_, rfl, .inr ⟨rfl, by cases n <;> rfl⟩⟩

theorem TypeState.Coarsens.covariantAt {h : Hierarchy} {s s' : TypeState} (hs : s.Coarsens h.oracle s') (r : Reg) :
    s.CovariantAt s' r :=
  fun _ _ hd hd' => Hierarchy.covariant_of_isAssignable (hs.below.types r _ _ hd hd')

/-! A dog is thrown, which is an animal in the state that says less. -/

def holding (ts : List RegisterType) : TypeState :=
  { slots := (ts.map fun t => ⟨t, none⟩).toArray, expected := none }

theorem type?_holding (ts : List RegisterType) (r : Reg) : (holding ts).type? r = ts[r]? := by
  simp only [holding, TypeState.type?, List.getElem?_toArray, List.getElem?_map, Option.map_map]
  exact congrFun Option.map_id_fun _

theorem coarsens_holding {o : ClassOracle} {ts ts' : List RegisterType}
    (h : List.Forall₂ (fun t t' => t.isAssignable o t' = true ∧ (t = .unknown ↔ t' = .unknown)) ts ts') :
    (holding ts).Coarsens o (holding ts') where
  below := {
    size := by simp [holding, TypeState.size, h.length_eq]
    expected := rfl
    types := fun r a b ha hb => by
      rw [type?_holding] at ha hb
      obtain ⟨hr, rfl⟩ := List.getElem?_eq_some_iff.1 ha
      obtain ⟨hr', rfl⟩ := List.getElem?_eq_some_iff.1 hb
      exact (h.get hr hr').1
    exception := fun b hb => by cases hb
    result := fun b hb => by cases hb }
  unknown r := by
    rw [type?_holding, type?_holding]
    by_cases hr : r < ts.length
    · have hr' : r < ts'.length := h.length_eq ▸ hr
      rw [List.getElem?_eq_getElem hr, List.getElem?_eq_getElem hr', Option.some.injEq, Option.some.injEq]
      exact (h.get hr hr').2
    · have hr' : ¬ r < ts'.length := h.length_eq ▸ hr
      rw [List.getElem?_eq_none (Nat.not_lt.1 hr), List.getElem?_eq_none (Nat.not_lt.1 hr')]

def zoo : Context := ⟨Hierarchy.animals.oracle, ⟨.object "Zoo", "open", [], .void⟩⟩

def throws : LabeledInstr := .plain 0 1 (.throw 0)

theorem violation_thrown : ∃ dog animal : RegisterType, (holding [dog]).Coarsens zoo.oracle (holding [animal]) ∧
    (∃ x, (zoo.transfer {} (holding [dog]) throws).violation = some x) ∧
    ∃ x', (zoo.transfer {} (holding [animal]) throws).violation = some x' := by
  let dog : RegisterType := .reference (.object "Dog")
  let animal : RegisterType := .reference (.object "Animal")
  have hcoarsens : (holding [dog]).Coarsens zoo.oracle (holding [animal]) :=
    coarsens_holding (.cons ⟨by cbv, by simp [dog, animal]⟩ .nil)
  have hclosed := Hierarchy.closed_ofClasses Hierarchy.ofClasses_animalClasses
  have harrays : Hierarchy.animals.ArrayTypesClosed := by
    refine Hierarchy.arrayTypesClosed_of_links hclosed (fun d hd => ?_) fun d hd => ?_
    · exact absurd (show d ∈ [] from hd) List.not_mem_nil
    · exact absurd (show d ∈ [] from hd) List.not_mem_nil
  have hx : (zoo.transfer {} (holding [dog]) throws).violation =
      some ⟨0, throws.position, .notAssignable dog (.reference .javaLangThrowable)⟩ := by cbv
  refine ⟨dog, animal, hcoarsens, ⟨_, hx⟩, ?_⟩
  rcases Context.violation_of_coarsens ((Hierarchy.isAssignable_trans_iff hclosed).2 harrays) hcoarsens
    (fun r _ => hcoarsens.covariantAt r) hx with hx' | hlost
  · exact hx'
  · cases hlost with
    | result _ _ hc => rcases hc with hc | hc | hc <;> cases hc

/-- The complaint is made in the first state, and the instruction passes in the second one, which says less. -/
def Context.Misses (ctx : Context) (s s' : TypeState) (i : LabeledInstr) (c : Complaint) : Prop :=
  s.Coarsens ctx.oracle s' ∧ (ctx.transfer {} s i).violation = some ⟨i.address, i.position, c⟩ ∧
    (ctx.transfer {} s' i).violation = none ∧ (ctx.transfer {} s' i).failure = none

/-- Neither a pending object that is in conflict nor a pair whose halves are widened to one type is complained about. -/
theorem complaints_missed : ∃ ctx : Context, ctx.oracle.LeastBounds ∧
    (∃ s s' i live, ctx.Misses s s' i (.escape live)) ∧
    ∃ s s' i r low high, ctx.Misses s s' i (.brokenPair r low high) := by
  let ctx : Context := ⟨.shallow, ⟨.object "Dog", "<init>", [], .void⟩⟩
  let this : RegisterType := .pendingThis (.object "Dog")
  let long : RegisterType := .primitive .long
  have hescape : ctx.Misses (holding [this]) (holding [.conflict]) (.plain 0 1 .returnVoid) (.escape [(0, this)]) :=
    ⟨coarsens_holding (.cons ⟨rfl, by simp [this]⟩ .nil), rfl, rfl, rfl⟩
  have hpair : ctx.Misses (holding [.wideLiteral, long]) (holding [long, long]) (.plain 0 1 (.moveWide 0 0))
      (.brokenPair 0 .wideLiteral long) :=
    ⟨coarsens_holding (.cons ⟨rfl, by simp [long]⟩ (.cons ⟨rfl, Iff.rfl⟩ .nil)), rfl, rfl, rfl⟩
  exact ⟨ctx, ClassOracle.leastBounds_shallow, ⟨_, _, _, _, hescape⟩, _, _, _, _, _, _, hpair⟩

end Dalvik
