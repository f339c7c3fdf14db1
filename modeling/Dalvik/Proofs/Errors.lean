import Dalvik.Proofs.Termination

/-!
# Errors of instructions

An instruction that is wrong is complained about, and the analysis goes on. It ends with an error in two cases only: a
register is not in the register file, or a value that the instruction takes or collects is declared `void`
(`Context.dueTo_of_failure`). The types of fields and of the elements that are read from an array are looked at before:
no access fits `void`. Of the complaints, those about conflicts are told apart (`Fault.Of`): each is about a register
that is read and is in conflict, and says what the register remembers of it.
-/

namespace Dalvik

/-- A register that a file of so many has not, or a `void` value where there is one. -/
def TypingError.DueTo (size : Nat) (voidValue : Prop) : TypingError → Prop
  | outOfBounds r => size ≤ r
  | voidRegister => voidValue
  | badInsSize .. | incompatibleStates => False

theorem TypingError.DueTo.imp {size : Nat} {p q : Prop} {e : TypingError} (h : e.DueTo size p) (hpq : p → q) :
    e.DueTo size q := by
  cases e with
  | outOfBounds r => exact h
  | voidRegister => exact hpq h
  | badInsSize | incompatibleStates => exact h

/-- The analysis has ended with such an error. -/
def Failure.DueTo (size : Nat) (voidValue : Prop) (f : Failure) : Prop :=
  ∃ e, f.error = .typing e ∧ e.DueTo size voidValue

theorem Failure.DueTo.imp {size : Nat} {p q : Prop} {f : Failure} (h : f.DueTo size p) (hpq : p → q) :
    f.DueTo size q := by
  obtain ⟨e, he, hdue⟩ := h
  exact ⟨e, he, hdue.imp hpq⟩

def Complaint.isConflictRead : Complaint → Bool
  | conflictRead .. => true
  | _ => false

theorem Complaint.isConflictRead_of_kind {c : Complaint} (h : c.kind = .conflictUse) : c.isConflictRead = true := by
  cases c <;> first | rfl | cases h

/-- What checks that read the registers can end with: a register is not in the file or is in conflict, something is
declared `void`, or there is some other complaint. -/
inductive Fault.Of (s : TypeState) (rs : List Reg) (voidValue : Prop) : Fault → Prop
  | outOfBounds {r : Reg} : r ∈ rs → s.size ≤ r → Of s rs voidValue (.error (.outOfBounds r))
  | voidRegister : voidValue → Of s rs voidValue (.error .voidRegister)
  | conflict {r : Reg} : r ∈ rs → s.type? r = some .conflict →
      Of s rs voidValue (.complaint (.conflictRead r (s.conflictOrigin? r)))
  | other {c : Complaint} : c.isConflictRead = false → Of s rs voidValue (.complaint c)

/-- Whatever fault the check ends with is one of these. -/
def Check.FaultsOnly {α : Type} (s : TypeState) (rs : List Reg) (voidValue : Prop) (x : Check α) : Prop :=
  ∀ f, x = .error f → f.Of s rs voidValue

namespace Check.FaultsOnly
variable {α β : Type} {s : TypeState} {rs : List Reg} {voidValue : Prop} {x : Check α} {f : α → Check β}

theorem pure (a : α) : FaultsOnly s rs voidValue (Pure.pure a : Check α) := fun _ h => nomatch h

theorem complain {c : Complaint} (h : c.isConflictRead = false) :
    FaultsOnly s rs voidValue (Check.complain c : Check α) := by
  rintro _ ⟨⟩
  exact .other h

theorem require {b : Bool} {c : Complaint} (h : c.isConflictRead = false) :
    FaultsOnly s rs voidValue (Check.require b c) := by
  cases b with
  | false => exact .complain h
  | true => exact .pure ()

theorem bind (hx : FaultsOnly s rs voidValue x) (hf : ∀ a, x = .ok a → FaultsOnly s rs voidValue (f a)) :
    FaultsOnly s rs voidValue (x >>= f) := by
  intro e h
  cases x with
  | error fault =>
    cases h
    exact hx _ rfl
  | ok a => exact hf a rfl e h

theorem andThen {y : Check β} (hx : FaultsOnly s rs voidValue x) (hy : FaultsOnly s rs voidValue y) :
    FaultsOnly s rs voidValue (x >>= fun _ => y) :=
  hx.bind fun _ _ => hy

theorem forM {l : List α} {f : α → Check PUnit} (hf : ∀ a ∈ l, FaultsOnly s rs voidValue (f a)) :
    FaultsOnly s rs voidValue (l.forM f) := by
  induction l with
  | nil => exact .pure _
  | cons a l ih =>
    rw [List.forM_eq_forM, List.forM_cons]
    exact (hf a List.mem_cons_self).andThen (ih fun b hb => hf b (List.mem_cons_of_mem _ hb))

end Check.FaultsOnly

/-- Whatever error the check ends with has the property; complaints are none. -/
def Check.ErrsOnly {α : Type} (P : TypingError → Prop) (x : Check α) : Prop := ∀ e, x = .error (.error e) → P e

/-- The property holds of the errors about those registers of the list that the state has not. -/
def TypeState.Allows (s : TypeState) (P : TypingError → Prop) (rs : List Reg) : Prop :=
  ∀ r ∈ rs, s.size ≤ r → P (.outOfBounds r)

theorem RegisterType.ofDescriptor_eq_error {d : Descriptor} {e : TypingError} (h : ofDescriptor d = .error e) :
    d = .void ∧ e = .voidRegister := by
  unfold ofDescriptor at h
  split at h <;> cases h
  exact ⟨rfl, rfl⟩

theorem Access.fits_void (access : Access) : access.fits .void = false := by cases access <;> rfl

namespace TypeState
open Check

section
variable {o : ClassOracle} {s : TypeState} {rs : List Reg} {voidValue : Prop} {r : Reg}

theorem faultsOnly_declaredType {d : Descriptor} (hvoid : d = .void → voidValue) :
    FaultsOnly s rs voidValue (declaredType d) := by
  intro e h
  unfold declaredType Check.ofExcept at h
  split at h
  · cases h
  · next he =>
    cases h
    obtain ⟨rfl, rfl⟩ := RegisterType.ofDescriptor_eq_error he
    exact .voidRegister (hvoid rfl)

theorem faultsOnly_declaredType_of_fits {access : Access} {d : Descriptor} {c : Complaint} {u : Unit}
    (hfits : Check.require (access.fits d) c = .ok u) : FaultsOnly s rs voidValue (declaredType d) := by
  refine faultsOnly_declaredType ?_
  rintro rfl
  rw [require_eq_ok, access.fits_void] at hfits
  cases hfits

theorem faultsOnly_takeResult : FaultsOnly s rs voidValue s.takeResult := by
  unfold takeResult
  split
  · exact .pure _
  · exact .complain rfl

theorem faultsOnly_peek (h : [r] ⊆ rs) : FaultsOnly s rs voidValue (s.peek r) := by
  intro e he
  unfold peek read Check.ofExcept type? at he
  rcases Nat.lt_or_ge r s.size with hr | hr
  · rw [Array.getElem?_eq_getElem hr] at he
    cases he
  · rw [Array.getElem?_eq_none hr] at he
    cases he
    exact .outOfBounds (h List.mem_cons_self) hr

theorem faultsOnly_use (h : [r] ⊆ rs) : FaultsOnly s rs voidValue (s.use r) := by
  refine (faultsOnly_peek h).bind fun t ht => ?_
  split
  · exact .complain rfl
  · rintro _ ⟨⟩
    exact .conflict (h List.mem_cons_self) (peek_eq_ok.1 ht)
  · exact .complain rfl
  · exact .complain rfl
  · exact .pure _

theorem faultsOnly_usePair (h : Reg.span true r ⊆ rs) : FaultsOnly s rs voidValue (s.usePair r) := by
  obtain ⟨hlow, hhigh⟩ := List.append_subset.1 (show [r] ++ [Reg.next r] ⊆ rs from h)
  refine (faultsOnly_use hlow).bind fun _ _ => (faultsOnly_use hhigh).bind fun _ _ => ?_
  exact (FaultsOnly.require rfl).andThen (.pure _)

theorem faultsOnly_useWidth {wide : Bool} (h : Reg.span wide r ⊆ rs) :
    FaultsOnly s rs voidValue (s.useWidth wide r) := by
  cases wide with
  | false => exact faultsOnly_use h
  | true => exact faultsOnly_usePair h

theorem faultsOnly_useKind {kind : PrimitiveKind} (h : Reg.span kind.isWide r ⊆ rs) :
    FaultsOnly s rs voidValue (s.useKind o r kind) :=
  (faultsOnly_useWidth h).bind fun _ _ => .require rfl

theorem faultsOnly_useTyped {t : RegisterType} (h : Reg.span t.isWide r ⊆ rs) :
    FaultsOnly s rs voidValue (s.useTyped o r t) := by
  refine (faultsOnly_useWidth h).bind fun u _ => ?_
  split
  · exact (FaultsOnly.require rfl).andThen (FaultsOnly.require rfl)
  · exact .require rfl

theorem faultsOnly_useObject (h : [r] ⊆ rs) : FaultsOnly s rs voidValue (s.useObject o r) := faultsOnly_useTyped h

theorem faultsOnly_useArray (h : [r] ⊆ rs) : FaultsOnly s rs voidValue (s.useArray r) := by
  refine (faultsOnly_use h).bind fun t _ => ?_
  split
  · exact .pure _
  · exact .pure _
  · split
    · exact .pure _
    · exact .complain rfl
  · exact .complain rfl

theorem faultsOnly_checkParams {ps : List Descriptor} {args : List Reg} (h : args ⊆ rs)
    (hvoid : .void ∈ ps → voidValue) : FaultsOnly s rs voidValue (s.checkParams o ps args) := by
  induction ps generalizing args with
  | nil => exact .pure _
  | cons p ps ih =>
    have hps {rest : List Reg} (hrest : rest ⊆ rs) : FaultsOnly s rs voidValue (s.checkParams o ps rest) :=
      ih hrest fun hmem => hvoid (List.mem_cons_of_mem _ hmem)
    refine (faultsOnly_declaredType fun hp => hvoid (hp ▸ List.mem_cons_self)).bind fun t _ => ?_
    split
    · next r rest hwide =>
      obtain ⟨hr, hrest⟩ := List.append_subset.1 (show [r] ++ rest ⊆ rs from h)
      exact (faultsOnly_useTyped (by rw [hwide]; exact hr)).andThen (hps hrest)
    · next low high rest hwide =>
      obtain ⟨hpair, hrest⟩ := List.append_subset.1 (show [low, high] ++ rest ⊆ rs from h)
      refine (FaultsOnly.require rfl).bind fun _ hnext => (faultsOnly_useTyped ?_).andThen (hps hrest)
      rw [require_eq_ok, decide_eq_true_eq] at hnext
      rw [hwide, Reg.span, ← hnext]
      exact hpair
    · exact .pure _

theorem faultsOnly_checkArguments {m : MethodRef} {args : List Reg} {hasReceiver : Bool}
    (h : args.drop hasReceiver.toNat ⊆ rs) (hvoid : .void ∈ m.params → voidValue) :
    FaultsOnly s rs voidValue (s.checkArguments o m args hasReceiver) :=
  (FaultsOnly.require rfl).andThen (faultsOnly_checkParams h hvoid)

theorem faultsOnly_constructed (h : [r] ⊆ rs) (m : MethodRef) : FaultsOnly s rs voidValue (s.constructed o r m) := by
  refine (faultsOnly_peek h).bind fun t _ => ?_
  split
  · exact (FaultsOnly.require rfl).andThen (.pure _)
  · exact (FaultsOnly.require rfl).andThen (.pure _)
  · exact .complain rfl
  · exact (faultsOnly_use h).andThen (.complain rfl)

theorem faultsOnly_checkReturn (i : Instr) {fits : RegisterType → Bool}
    (h : ∀ t : RegisterType, fits t = true → Reg.span t.isWide r ⊆ rs) :
    FaultsOnly s rs voidValue (s.checkReturn o i r fits) := by
  unfold checkReturn
  split
  · exact .complain rfl
  · next t _ =>
    refine (FaultsOnly.require rfl).bind fun _ hfits => faultsOnly_useTyped ?_
    exact h t (require_eq_ok.1 hfits)

theorem faultsOnly_copied (h : [r] ⊆ rs) : FaultsOnly s rs voidValue (s.copied r) := by
  refine (faultsOnly_peek h).bind fun t _ => ?_
  split
  · exact .pure _
  · exact (faultsOnly_use h).bind fun _ _ => (FaultsOnly.require rfl).andThen (.pure _)

theorem faultsOnly_useOwner (h : [r] ⊆ rs) (definer : Descriptor) :
    FaultsOnly s rs voidValue (s.useOwner o r definer) := by
  refine (faultsOnly_peek h).bind fun t _ => ?_
  split
  · exact .pure _
  · exact faultsOnly_useTyped h

theorem faultsOnly_element (i : Instr) (access : Access) (h : [r] ⊆ rs) :
    FaultsOnly s rs voidValue (s.element i access r) := by
  refine (faultsOnly_useArray h).bind fun component _ => ?_
  split
  · exact (FaultsOnly.require rfl).bind fun _ hfits => faultsOnly_declaredType_of_fits hfits
  · exact .pure _

theorem faultsOnly_checkElement (i : Instr) {access : Access} {src : Reg}
    (h : r :: Reg.span access.isWide src ⊆ rs) : FaultsOnly s rs voidValue (s.checkElement o i access src r) := by
  obtain ⟨harray, hsrc⟩ := List.append_subset.1 (show [r] ++ Reg.span access.isWide src ⊆ rs from h)
  refine (faultsOnly_useArray harray).bind fun component _ => ?_
  split
  · refine (FaultsOnly.require rfl).bind fun _ hfits => (faultsOnly_declaredType_of_fits hfits).bind fun t ht => ?_
    rw [← Access.isWide_of_fits (require_eq_ok.1 hfits) (declaredType_eq_ok.1 ht)] at hsrc
    split
    · next href =>
      rw [RegisterType.isWide_of_isReferenceLike href] at hsrc
      exact faultsOnly_useObject hsrc
    · exact faultsOnly_useTyped hsrc
  · exact (faultsOnly_usePair hsrc).andThen (.pure _)
  · exact faultsOnly_useObject hsrc
  · have hlow := List.cons_subset.2 ⟨hsrc (Reg.mem_span _ src), List.nil_subset _⟩
    exact (faultsOnly_use hlow).bind fun _ _ => .require rfl

theorem faultsOnly_checkElements {args : List Reg} {d : Descriptor} (h : args ⊆ rs)
    (hvoid : .void ∈ d.component?.toList → voidValue) : FaultsOnly s rs voidValue (s.checkElements o args d) := by
  unfold checkElements
  split
  · next element helement =>
    refine (FaultsOnly.require rfl).bind fun _ hnarrow => ?_
    refine (faultsOnly_declaredType fun hd => hvoid (by simp [helement, hd])).bind fun t ht => ?_
    refine FaultsOnly.forM fun r hr => faultsOnly_useTyped ?_
    -- elements are not wide
    rw [require_eq_ok, Bool.not_eq_true'] at hnarrow
    rw [isWide_ofDescriptor (declaredType_eq_ok.1 ht), hnarrow]
    exact List.cons_subset.2 ⟨h hr, List.nil_subset _⟩
  · exact .complain rfl

theorem faultsOnly_converted {source target : Descriptor} (h : Reg.span source.isWide r ⊆ rs) :
    FaultsOnly s rs voidValue (s.converted o r source target) := by
  unfold converted
  split
  · next kind _ hkind _ =>
    rw [Descriptor.isWide, hkind] at h
    exact (faultsOnly_useKind h).andThen (.pure _)
  · exact .complain rfl

end
end TypeState

/-! ### Instructions -/

namespace Demand
open Check TypeState

def reads : Demand → List Reg
  | owner object _ => [object]
  | d => d.values

/-- The declared types of the values that are passed on or collected. -/
def valueTypes : Demand → List Descriptor
  | elements _ t => t.component?.toList
  | arguments m _ _ => m.params
  | _ => []

def blamesConflict : Demand → Bool
  | require _ c => c.isConflictRead
  | _ => false

theorem faultsOnly {o : ClassOracle} {s : TypeState} {rs : List Reg} {voidValue : Prop} {d : Demand}
    (h : d.reads ⊆ rs) (hvoid : .void ∈ d.valueTypes → voidValue)
    (hblame : d.blamesConflict = false) : FaultsOnly s rs voidValue (d.check o s) := by
  cases d with
  | require b c => exact .require hblame
  | kind r k => exact faultsOnly_useKind h
  | typed r t => exact faultsOnly_useTyped h
  | array r => exact (faultsOnly_useArray h).bind fun _ _ => .pure _
  | field i access src f =>
    refine (FaultsOnly.require rfl).bind fun _ hfits => (faultsOnly_declaredType_of_fits hfits).bind fun t ht => ?_
    refine faultsOnly_useTyped ?_
    rw [Access.isWide_of_fits (require_eq_ok.1 hfits) (declaredType_eq_ok.1 ht)]
    exact h
  | owner object definer => exact faultsOnly_useOwner h definer
  | element i access src r => exact faultsOnly_checkElement i h
  | elements args t => exact faultsOnly_checkElements h hvoid
  | comparable comp left right =>
    obtain ⟨hl, hr⟩ := List.append_subset.1 (show [left] ++ [right] ⊆ rs from h)
    exact (faultsOnly_use hl).bind fun _ _ => (faultsOnly_use hr).bind fun _ _ => .require rfl
  | comparableZero comp r => exact (faultsOnly_use h).bind fun _ _ => .require rfl
  | arguments m args hasReceiver => exact faultsOnly_checkArguments h hvoid
  | escape => exact .require rfl
  | returnsNothing =>
    rw [check, checkReturnVoid]
    split
    · exact .pure _
    · exact .complain rfl
  | returns i r form =>
    refine faultsOnly_checkReturn i fun t hform => ?_
    rw [Form.isWide_of_returns hform]
    exact h

end Demand

namespace Source
open Check TypeState

def reads : Source → List Reg
  | object r => [r]
  | x => x.values

theorem faultsOnly {o : ClassOracle} {s : TypeState} {rs : List Reg} {voidValue : Prop} {x : Source}
    (h : x.reads ⊆ rs) : FaultsOnly s rs voidValue (x.fetch o s) := by
  cases x with
  | constant => exact .pure _
  | single r => exact (faultsOnly_use h).bind fun _ _ => (FaultsOnly.require rfl).andThen (.pure _)
  | pair r => exact faultsOnly_usePair h
  | object r => exact faultsOnly_copied h
  | result form =>
    refine faultsOnly_takeResult.bind fun t _ => FaultsOnly.andThen ?_ (.pure _)
    cases form <;> exact .require rfl
  | exception =>
    rw [fetch, takeException]
    split
    · exact .pure _
    · exact .complain rfl
  | field i access f => exact (FaultsOnly.require rfl).bind fun _ hfits => faultsOnly_declaredType_of_fits hfits
  | element i access r => exact faultsOnly_element i access h
  | converted r source target => exact faultsOnly_converted h

end Source

namespace Outcome
open Check TypeState

def reads : Outcome → List Reg
  | put _ x => x.reads
  | construct receiver _ => [receiver]
  | _ => []

theorem faultsOnly {o : ClassOracle} {s : TypeState} {rs : List Reg} {voidValue : Prop} {x : Outcome}
    (h : x.reads ⊆ rs) : FaultsOnly s rs voidValue (x.effect o s) := by
  cases x with
  | put dst x => exact (Source.faultsOnly h).bind fun _ _ => .pure _
  | construct receiver m => exact (faultsOnly_constructed h m).bind fun _ _ => .pure _
  | _ => exact .pure _

end Outcome

namespace Instr
open Check TypeState

/-- The declared types of the values that an instruction passes on or collects. -/
def valueTypes : Instr → List Descriptor
  | filledNewArray _ t => t.component?.toList
  | invoke _ m _ => m.params
  | _ => []

variable {o : ClassOracle} {s : TypeState} {rs : List Reg} {voidValue : Prop}

theorem reads_subset (i : Instr) : i.demands.flatMap Demand.reads ++ i.outcome.reads ⊆ i.reads := by
  cases i with
  | invoke kind m args =>
    refine List.append_subset.2 ⟨?_, ?_⟩
    · rw [reads_invoke]
      rcases demands_invoke kind m args with h | ⟨receiver, hr, h⟩
      · simp [h, Demand.reads, Demand.values, List.drop_subset]
      · simp [h, Demand.reads, Demand.values, List.drop_subset, hr]
    · rcases outcome_invoke kind m args with ⟨receiver, h, haction⟩ | ⟨h, -⟩
      · simpa [h, Outcome.reads] using mem_reads_of_action (.inr haction)
      · simp [h, Outcome.reads]
  | binary op kind dst left right =>
    cases hshift : op.isShift <;> simp [reads, objectRead?, valueReads, demands, outcome, Demand.reads, Demand.values,
      Outcome.reads, Source.reads, Source.values, NumKind.isWide, hshift]
  | _ => simp [reads, objectRead?, valueReads, demands, outcome, Demand.reads, Demand.values, Outcome.reads,
      Source.reads, Source.values, NumKind.isWide, Form.isWide]

theorem valueTypes_demands (i : Instr) : i.demands.flatMap Demand.valueTypes = i.valueTypes := by
  cases i with
  | invoke kind m args =>
    rcases demands_invoke kind m args with h | ⟨receiver, -, h⟩ <;> simp [h, Demand.valueTypes, valueTypes]
  | _ => simp [demands, Demand.valueTypes, valueTypes]

theorem blamesConflict_demands (i : Instr) : i.demands.any Demand.blamesConflict = false := by
  cases i with
  | invoke kind m args =>
    rcases demands_invoke kind m args with h | ⟨receiver, -, h⟩ <;>
      · rw [h]
        rfl
  | _ => rfl

/-- The checks are about registers that are read, and about `void` values. -/
theorem faultsOnly_effect (i : Instr) (h : i.reads ⊆ rs) (hvoid : .void ∈ i.valueTypes → voidValue) :
    FaultsOnly s rs voidValue (i.effect o s) := by
  obtain ⟨hdemands, houtcome⟩ := List.append_subset.1 (List.Subset.trans i.reads_subset h)
  rw [← i.valueTypes_demands] at hvoid
  rw [effect_eq]
  refine (FaultsOnly.forM fun d hd => Demand.faultsOnly ?_ ?_ ?_).andThen (Outcome.faultsOnly houtcome)
  · exact fun r hr => hdemands (List.mem_flatMap.2 ⟨d, hd, hr⟩)
  · exact fun hmem => hvoid (List.mem_flatMap.2 ⟨d, hd, hmem⟩)
  · exact Bool.eq_false_iff.2 fun hc => List.any_eq_false.1 i.blamesConflict_demands d hd hc

/-- The checks end with an error only about a register that is read, or about a `void` value. -/
theorem errsOnly_effect {P : TypingError → Prop} (i : Instr) (h : s.Allows P i.reads)
    (hvoid : .void ∈ i.valueTypes → P .voidRegister) : ErrsOnly P (i.effect o s) := by
  intro e he
  cases i.faultsOnly_effect (List.Subset.refl _) id _ he with
  | outOfBounds hr hsize => exact h _ hr hsize
  | voidRegister hvalue => exact hvoid hvalue

end Instr

/-! ### Passes and branches -/

namespace TypeState
variable {s : TypeState} {r : Reg} {t : RegisterType} {e : TypingError} {p : Prop}

theorem dueTo_of_write (h : (s.write r t).failure = some e) : e.DueTo s.size p := by
  unfold write at h
  split at h
  · cases h
  · next hr =>
    cases h
    exact Nat.le_of_not_lt hr

theorem dueTo_of_writePair (h : (s.writePair r t).failure = some e) : e.DueTo s.size p := by
  unfold writePair at h
  dsimp only at h
  split at h
  · exact dueTo_of_write h
  · rw [← s.size_write r t]
    exact dueTo_of_write h

theorem dueTo_of_follow {b : Branch} (h : (s.follow b).failure = some e) : e.DueTo s.size (b = .caught .void) := by
  unfold follow at h
  split at h
  · dsimp only at h
    split at h
    · cases h
    · next he =>
      cases h
      obtain ⟨rfl, rfl⟩ := RegisterType.ofDescriptor_eq_error he
      rfl
  · cases h
  · next r t =>
    split at h
    · exact dueTo_of_write h
    · cases h
    · next hnone =>
      cases h
      rw [type?, Option.map_eq_none_iff, Array.getElem?_eq_none_iff] at hnone
      exact hnone
  · cases h

end TypeState

namespace Context
variable {ctx : Context} {sites : AllocationSites} {s : TypeState} {e : TypingError}

theorem dueTo_of_perform {pc : Address} {effect : Effect} {p : Prop}
    (h : (ctx.perform sites pc s effect).failure = some e) : e.DueTo s.size p := by
  cases effect with
  | skip | yield | construct => cases h
  | write r t => exact TypeState.dueTo_of_write h
  | writePair r t => exact TypeState.dueTo_of_writePair h
  | allocate dst type =>
    rw [← s.size_replace (ctx.allocated sites pc type) .conflict]
    exact TypeState.dueTo_of_write h

theorem dueTo_of_failure {i : LabeledInstr} (h : (ctx.transfer sites s i).failure = some e) :
    e.DueTo s.size (.void ∈ i.instr.valueTypes) := by
  unfold transfer at h
  split at h
  · exact dueTo_of_perform (s := s.clearPseudo) h
  · next he =>
    cases h
    exact i.instr.errsOnly_effect (fun _ _ hr => hr) (fun hvoid => hvoid) e he
  · exact dueTo_of_perform (s := s.clearPseudo) h

theorem dueTo_of_pass {is : List LabeledInstr} {notes : Array Note} {f : Failure}
    (h : ctx.pass sites notes s is = .error f) : f.DueTo s.size (∃ i ∈ is, .void ∈ i.instr.valueTypes) := by
  induction is generalizing sites notes s with
  | nil => cases h
  | cons i rest ih =>
    simp only [pass] at h
    split at h
    · next e he =>
      cases h
      exact ⟨e, rfl, (dueTo_of_failure he).imp fun hvoid => ⟨i, List.mem_cons_self, hvoid⟩⟩
    · rcases bind_eq_error.1 h with h | ⟨r, -, h⟩
      · have hdue := ih h
        rw [show (ctx.transfer sites s i).state.size = s.size from congrArg Prod.fst (frame_transfer i)] at hdue
        refine hdue.imp ?_
        rintro ⟨j, hj, hvoid⟩
        exact ⟨j, List.mem_cons_of_mem _ hj, hvoid⟩
      · cases h

end Context
end Dalvik
