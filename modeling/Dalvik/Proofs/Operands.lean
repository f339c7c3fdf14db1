import Dalvik.Effect
import Dalvik.Proofs.Content

/-!
# Operands

Which registers an instruction reads and writes, both halves of a wide value included, and what the checks of
operands make sure of: an operand holds a value, in both halves if it is wide, except where a pending object is allowed.
-/

namespace Dalvik

def Reg.span (wide : Bool) (r : Reg) : List Reg := if wide then [r, Reg.next r] else [r]

@[simp] theorem Reg.span_false (r : Reg) : Reg.span false r = [r] := rfl

@[simp] theorem PrimitiveKind.isWide_int : PrimitiveKind.int.isWide = false := rfl

@[simp] theorem RegisterType.isWide_reference (d : Descriptor) : (reference d).isWide = false := rfl

theorem Reg.mem_span (wide : Bool) (r : Reg) : r ∈ Reg.span wide r := by cases wide <;> simp [Reg.span]

theorem Reg.mem_span_true {r r' : Reg} : r' ∈ Reg.span true r ↔ r' = r ∨ r' = Reg.next r := by simp [Reg.span]

def Access.isWide : Access → Bool
  | wide => true
  | _ => false

/-- What an instruction does with the pending objects in registers. -/
inductive Action where
  | allocate (dst : Reg) (type : Descriptor)
  | copy (dst src : Reg)
  | construct (receiver : Reg)
  /-- Nothing; the registers it writes hold none afterwards. -/
  | overwrite

namespace Instr

/-- The registers that have to hold values. -/
def valueReads : Instr → List Reg
  | move _ src | returnValue src | returnObject src | monitorEnter src | monitorExit src | checkCast src _
  | instanceOf _ src _ | arrayLength _ src | newArray _ src _ | throw src | switch src _ | ifTestZero _ src _
  | iget _ _ src _ | binaryLit _ _ src _ => [src]
  | moveWide _ src | returnWide src => Reg.span true src
  | filledNewArray args _ => args
  | ifTest _ left right _ => [left, right]
  | cmp kind _ left right => Reg.span kind.isWide left ++ Reg.span kind.isWide right
  | aget _ _ array index => [array, index]
  | aput access src array index => [array, index] ++ Reg.span access.isWide src
  | iput access src _ _ | sput access src _ => Reg.span access.isWide src
  | invoke .direct m (receiver :: args) => if m.isConstructor then args else receiver :: args
  | invoke _ _ args => args
  | unary _ kind _ src => Reg.span kind.isWide src
  | convert _ src source _ => Reg.span source.isWide src
  | binary op kind _ left right => Reg.span kind.isWide left ++ Reg.span (!op.isShift && kind.isWide) right
  | _ => []

/-- The register that is read and may hold a pending object. -/
def objectRead? : Instr → Option Reg
  | moveObject _ src => some src
  | iput _ _ object _ => some object
  | invoke .direct m (receiver :: _) => if m.isConstructor then some receiver else none
  | _ => none

def reads (i : Instr) : List Reg := i.objectRead?.toList ++ i.valueReads

def writes : Instr → List Reg
  | move dst _ | moveObject dst _ | moveResult dst | moveResultObject dst | moveException dst | const dst _
  | constFloat dst _ | constNull dst | constString dst _ | constClass dst _ | instanceOf dst _ _ | arrayLength dst _
  | newInstance dst _ | newArray dst _ _ | cmp _ dst _ _ | binaryLit _ dst _ _ => [dst]
  | moveWide dst _ | moveResultWide dst | constWide dst _ | constDouble dst _ => Reg.span true dst
  | aget access dst _ _ | iget access dst _ _ | sget access dst _ => Reg.span access.isWide dst
  | unary _ kind dst _ | binary _ kind dst _ _ => Reg.span kind.isWide dst
  | convert dst _ _ target => Reg.span target.isWide dst
  | _ => []

def action : Instr → Action
  | newInstance dst type => .allocate dst type
  | moveObject dst src => .copy dst src
  | invoke .direct m (receiver :: _) => if m.isConstructor then .construct receiver else .overwrite
  | _ => .overwrite

variable {i : Instr}

theorem eq_newInstance_of_action {dst : Reg} {type : Descriptor} (h : i.action = .allocate dst type) :
    i = newInstance dst type := by
  unfold action at h
  split at h
  · cases h; rfl
  · cases h
  · split at h <;> cases h
  · cases h

theorem eq_moveObject_of_action {dst src : Reg} (h : i.action = .copy dst src) : i = moveObject dst src := by
  unfold action at h
  split at h
  · cases h
  · cases h; rfl
  · split at h <;> cases h
  · cases h

theorem eq_invoke_of_action {receiver : Reg} (h : i.action = .construct receiver) :
    ∃ m args, i = invoke .direct m (receiver :: args) ∧ m.isConstructor = true := by
  unfold action at h
  split at h
  · cases h
  · cases h
  · next m r args =>
    split at h
    · next hm => cases h; exact ⟨m, args, rfl, hm⟩
    · cases h
  · cases h

/-- A call reads its arguments, whichever of them may be pending. -/
theorem reads_invoke (kind : InvokeKind) (m : MethodRef) (args : List Reg) : (invoke kind m args).reads = args := by
  cases kind with
  | direct =>
    cases args with
    | nil => rfl
    | cons receiver rest => cases h : m.isConstructor <;> simp [reads, objectRead?, valueReads, h]
  | _ => cases args <;> rfl

/-- A copied object, and one that is constructed, are in the register that may hold a pending object. -/
theorem mem_reads_of_action {r : Reg} (h : (∃ dst, i.action = .copy dst r) ∨ i.action = .construct r) :
    r ∈ i.reads := by
  rcases h with ⟨dst, h⟩ | h
  · rw [eq_moveObject_of_action h]
    simp [reads, objectRead?]
  · obtain ⟨m, args, rfl, hm⟩ := eq_invoke_of_action h
    simp [reads, objectRead?, hm]

end Instr

def Effect.writes : Effect → List Reg
  | write r _ => [r]
  | writePair r _ => Reg.span true r
  | allocate dst _ => [dst]
  | _ => []

/-! ### Checks -/

/-- The class of a pending object. -/
def RegisterType.pendingType? : RegisterType → Option Descriptor
  | pending u => some u.type
  | pendingThis t => some t
  | _ => none

theorem RegisterType.isPending_of_pendingType? {t : RegisterType} {d : Descriptor} (h : t.pendingType? = some d) :
    t.isPending = true := by
  cases t <;> first | rfl | cases h

namespace TypeState
variable {o : ClassOracle} {s : TypeState} {r : Reg} {t : RegisterType}

def Ready (s : TypeState) (r : Reg) : Prop := ∃ t, s.type? r = some t ∧ t.content = .plain

def HoldsPending (s : TypeState) (r : Reg) : Prop := ∃ t, s.type? r = some t ∧ t.isPending = true

theorem require_eq_ok {b : Bool} {c : Complaint} {u : Unit} : Check.require b c = .ok u ↔ b = true := by
  cases b <;> simp [Check.require, Check.complain]

theorem complain_eq_ok {α : Type} {c : Complaint} {a : α} : Check.complain c = .ok a ↔ False := by
  simp [Check.complain]

theorem declaredType_eq_ok {d : Descriptor} :
    Check.declaredType d = .ok t ↔ RegisterType.ofDescriptor d = .ok t := by
  unfold Check.declaredType Check.ofExcept
  split <;> simp_all

theorem peek_eq_ok : s.peek r = .ok t ↔ s.type? r = some t := by
  unfold peek read
  cases s.type? r <;> simp [Check.ofExcept]

theorem use_eq_ok : s.use r = .ok t ↔ s.type? r = some t ∧ t.content = .plain := by
  unfold use
  rw [bind_eq_ok]
  constructor
  · rintro ⟨t', ht', h⟩
    rw [peek_eq_ok] at ht'
    cases t' <;> cases h <;> exact ⟨ht', rfl⟩
  · rintro ⟨ht, hc⟩
    refine ⟨t, peek_eq_ok.2 ht, ?_⟩
    cases t <;> cases hc <;> rfl

theorem forM_eq_ok {α : Type} {l : List α} {f : α → Check PUnit} {u : PUnit} (h : l.forM f = .ok u) :
    ∀ a ∈ l, f a = .ok () := by
  induction l with
  | nil => simp
  | cons a l ih =>
    rw [List.forM, bind_eq_ok] at h
    obtain ⟨_, ha, h⟩ := h
    intro b hb
    rcases List.mem_cons.1 hb with rfl | hb
    · exact ha
    · exact ih h b hb

theorem ready_of_use (h : s.use r = .ok t) : s.Ready r := ⟨t, use_eq_ok.1 h⟩

theorem ready_of_usePair (h : s.usePair r = .ok t) :
    (∀ r' ∈ Reg.span true r, s.Ready r') ∧ t.content = .plain ∧ t.isWide = true := by
  simp only [usePair, bind_eq_ok, pure_eq_ok, require_eq_ok] at h
  obtain ⟨low, hlow, high, hhigh, _, hwide, rfl⟩ := h
  refine ⟨fun r' hr' => ?_, (use_eq_ok.1 hlow).2, (Bool.and_eq_true _ _ ▸ hwide).2⟩
  rcases Reg.mem_span_true.1 hr' with rfl | rfl
  · exact ready_of_use hlow
  · exact ready_of_use hhigh

theorem ready_of_useWidth {wide : Bool} (h : s.useWidth wide r = .ok t) : ∀ r' ∈ Reg.span wide r, s.Ready r' := by
  unfold useWidth at h
  cases wide with
  | true => exact (ready_of_usePair h).1
  | false =>
    intro r' hr'
    obtain rfl : r' = r := by simpa [Reg.span] using hr'
    exact ready_of_use h

theorem ready_of_useKind {kind : PrimitiveKind} {u : Unit} (h : s.useKind o r kind = .ok u) :
    ∀ r' ∈ Reg.span kind.isWide r, s.Ready r' := by
  simp only [useKind, bind_eq_ok] at h
  obtain ⟨t, ht, -⟩ := h
  exact ready_of_useWidth ht

theorem ready_of_useTyped {u : Unit} (h : s.useTyped o r t = .ok u) : ∀ r' ∈ Reg.span t.isWide r, s.Ready r' := by
  simp only [useTyped, bind_eq_ok] at h
  obtain ⟨t', ht', -⟩ := h
  exact ready_of_useWidth ht'

theorem ready_of_useArray {d : Option Descriptor} (h : s.useArray r = .ok d) : s.Ready r := by
  simp only [useArray, bind_eq_ok] at h
  obtain ⟨t, ht, -⟩ := h
  exact ready_of_use ht

theorem not_isPending_of_checkEscape {u : Unit} (h : s.checkEscape = .ok u) (ht : s.type? r = some t) :
    t.isPending = false := by
  rw [checkEscape, require_eq_ok, List.isEmpty_iff, pendingRegisters, List.map_eq_nil_iff, List.filter_eq_nil_iff] at h
  rw [type?_eq_types] at ht
  simpa using h (t, r) (List.mk_mem_zipIdx_iff_getElem?.2 ht)

theorem isWide_ofDescriptor {d : Descriptor} (h : RegisterType.ofDescriptor d = .ok t) : t.isWide = d.isWide := by
  unfold RegisterType.ofDescriptor at h
  split at h
  · cases h
  · cases h; rfl
  · next h₁ h₂ =>
    cases h
    cases hk : d.kind? with
    | none => simp [RegisterType.isWide, Descriptor.isWide, hk]
    | some k =>
      unfold Descriptor.kind? at hk
      split at hk
      · exact absurd rfl (h₂ _)
      · cases hk

/-- The registers are checked as values of the parameters in turn, a wide one in two consecutive registers. -/
inductive Passed (o : ClassOracle) (s : TypeState) : List Descriptor → List Reg → Prop
  | nil : Passed o s [] []
  | narrow {d : Descriptor} {t : RegisterType} {r : Reg} {u : Unit} {ps : List Descriptor} {args : List Reg} :
      RegisterType.ofDescriptor d = .ok t → t.isWide = false → s.useTyped o r t = .ok u → Passed o s ps args →
      Passed o s (d :: ps) (r :: args)
  | wide {d : Descriptor} {t : RegisterType} {low : Reg} {u : Unit} {ps : List Descriptor} {args : List Reg} :
      RegisterType.ofDescriptor d = .ok t → t.isWide = true → s.useTyped o low t = .ok u → Passed o s ps args →
      Passed o s (d :: ps) (low :: Reg.next low :: args)

/-- Arguments as many as the parameters take registers are all checked. -/
theorem passed_of_checkParams {ps : List Descriptor} {args : List Reg} {u : Unit}
    (h : s.checkParams o ps args = .ok u) (hlen : args.length = ps.foldr (·.width + ·) 0) : Passed o s ps args := by
  induction ps generalizing args with
  | nil =>
    obtain rfl : args = [] := by simpa using hlen
    exact .nil
  | cons p ps ih =>
    rw [checkParams, bind_eq_ok] at h
    obtain ⟨t, ht, h⟩ := h
    rw [declaredType_eq_ok] at ht
    have hvoid : p ≠ .void := by rintro rfl; cases ht
    rw [List.foldr_cons, Descriptor.width, if_neg hvoid, ← isWide_ofDescriptor ht] at hlen
    -- the parameter takes one register or two; with too few left, `hlen` fails
    cases hw : t.isWide with
    | false =>
      rw [hw] at h hlen
      rcases args with _ | ⟨r, rest⟩
      · simp at hlen
        omega
      simp only [bind_eq_ok] at h
      obtain ⟨_, huse, h⟩ := h
      simp only [Bool.false_eq_true, if_false, List.length_cons] at hlen
      exact .narrow ht hw huse (ih h (by omega))
    | true =>
      rw [hw] at h hlen
      rcases args with _ | ⟨low, _ | ⟨high, rest⟩⟩
      · simp at hlen
        omega
      · simp at hlen
        omega
      simp only [bind_eq_ok, require_eq_ok, decide_eq_true_eq] at h
      obtain ⟨_, rfl, _, huse, h⟩ := h
      simp only [if_true, List.length_cons] at hlen
      exact .wide ht hw huse (ih h (by omega))

theorem Passed.ready {ps : List Descriptor} {args : List Reg} (h : Passed o s ps args) : ∀ r ∈ args, s.Ready r := by
  induction h with
  | nil => simp
  | narrow _ _ huse _ ih =>
    intro r hr
    rcases List.mem_cons.1 hr with rfl | hr
    · exact ready_of_useTyped huse r (Reg.mem_span _ r)
    · exact ih r hr
  | wide _ hw huse _ ih =>
    have hpair := ready_of_useTyped huse
    rw [hw] at hpair
    intro r hr
    rcases List.mem_cons.1 hr with rfl | hr
    · exact hpair r (by simp [Reg.span])
    rcases List.mem_cons.1 hr with rfl | hr
    · exact hpair _ (by simp [Reg.span])
    · exact ih r hr

theorem passed_of_checkArguments {m : MethodRef} {args : List Reg} {hasReceiver : Bool} {u : Unit}
    (h : s.checkArguments o m args hasReceiver = .ok u) :
    args.length = m.paramsWidth + hasReceiver.toNat ∧ Passed o s m.params (args.drop hasReceiver.toNat) := by
  simp only [checkArguments, bind_eq_ok, require_eq_ok, decide_eq_true_eq] at h
  obtain ⟨_, hlen, h⟩ := h
  refine ⟨hlen, passed_of_checkParams h ?_⟩
  rw [List.length_drop, hlen, MethodRef.paramsWidth]
  omega

theorem ready_of_checkArguments {m : MethodRef} {args : List Reg} {hasReceiver : Bool} {u : Unit}
    (h : s.checkArguments o m args hasReceiver = .ok u) : ∀ r ∈ args.drop hasReceiver.toNat, s.Ready r :=
  (passed_of_checkArguments h).2.ready

theorem constructed_eq_ok {m : MethodRef} {x : RegisterType × Descriptor} (h : s.constructed o r m = .ok x) :
    s.type? r = some x.1 ∧ x.1.pendingType? = some x.2 := by
  simp only [constructed, bind_eq_ok, peek_eq_ok] at h
  obtain ⟨t, ht, h⟩ := h
  split at h
  · simp only [bind_eq_ok, pure_eq_ok] at h
    obtain ⟨_, -, rfl⟩ := h
    exact ⟨ht, rfl⟩
  · simp only [bind_eq_ok, pure_eq_ok] at h
    obtain ⟨_, -, rfl⟩ := h
    exact ⟨ht, rfl⟩
  · exact absurd h (by simp [Check.complain])
  · simp only [bind_eq_ok, complain_eq_ok] at h
    obtain ⟨_, -, h⟩ := h
    exact h.elim

end TypeState

theorem Descriptor.isWide_of_isReference {d : Descriptor} (h : d.isReference = true) : d.isWide = false := by
  obtain ⟨dims, base⟩ := d
  cases dims with
  | zero =>
    cases base with
    | object name => rfl
    | _ => cases h
  | succ n => rfl

/-- Values of a type that an access fits are as wide as the access. -/
theorem Access.isWide_of_fits {access : Access} {d : Descriptor} {t : RegisterType} (h : access.fits d = true)
    (ht : RegisterType.ofDescriptor d = .ok t) : t.isWide = access.isWide := by
  rw [TypeState.isWide_ofDescriptor ht]
  cases access with
  | plain =>
    simp only [fits, Bool.or_eq_true, decide_eq_true_eq] at h
    rcases h with rfl | rfl <;> rfl
  | wide => exact h
  | object => exact Descriptor.isWide_of_isReference h
  | boolean | byte | char | short =>
    simp only [fits, decide_eq_true_eq] at h
    simp [Descriptor.isWide, h, kind?, isWide, PrimitiveKind.isWide]

namespace RegisterType
variable {t : RegisterType}

theorem content_of_isSingleWord (h : t.isSingleWord = true) : t.content = .plain := by
  cases t <;> first | rfl | cases h

theorem content_of_isWide (h : t.isWide = true) : t.content = .plain := by
  cases t <;> first | rfl | cases h

theorem content_of_isReferenceLike (h : t.isReferenceLike = true) : t.content = .plain := by
  cases t <;> first | rfl | cases h

theorem content_ofLiteral (value : Int) : (ofLiteral value).content = .plain := by
  fun_cases ofLiteral value <;> rfl

theorem isWide_ofLiteral (value : Int) : (ofLiteral value).isWide = false := by
  fun_cases ofLiteral value <;> rfl

theorem isWide_of_isSingleWord (h : t.isSingleWord = true) : t.isWide = false := by
  cases t with
  | primitive kind => exact Bool.not_eq_true' _ ▸ h
  | wideLiteral => cases h
  | _ => rfl

theorem isWide_of_isPending (h : t.isPending = true) : t.isWide = false := by
  cases t <;> first | rfl | cases h

theorem isWide_of_isReferenceLike (h : t.isReferenceLike = true) : t.isWide = false := by
  cases t <;> first | rfl | cases h

theorem isWide_declared (d : Descriptor) : (declared d).isWide = d.isWide := by
  unfold declared
  cases hd : ofDescriptor d with
  | ok t => exact TypeState.isWide_ofDescriptor hd
  | error e =>
    unfold ofDescriptor at hd
    split at hd
    · rfl
    · cases hd
    · cases hd

end RegisterType

theorem Access.ofNull_isWide (access : Access) : access.ofNull.isWide = access.isWide := by cases access <;> rfl

theorem Access.ofNull_content (access : Access) : access.ofNull.content = .plain := by cases access <;> rfl

theorem Effect.writes_writeTyped (r : Reg) (t : RegisterType) : (writeTyped r t).writes = Reg.span t.isWide r := by
  unfold writeTyped
  cases h : t.isWide <;> simp [Effect.writes, Reg.span]

namespace TypeState
variable {o : ClassOracle} {s : TypeState} {i : Instr} {access : Access} {r : Reg} {t : RegisterType}

theorem takeResult_eq_ok : s.takeResult = .ok t ↔ s.result = some t := by
  unfold takeResult
  cases s.result <;> simp [pure_eq_ok, complain_eq_ok]

theorem takeException_eq_ok : s.takeException = .ok t ↔ s.exception = some t := by
  unfold takeException
  cases s.exception <;> simp [pure_eq_ok, complain_eq_ok]

theorem copied_eq_ok (h : s.copied r = .ok t) :
    s.type? r = some t ∧ (t.isPending = true ∨ t.isReferenceLike = true) := by
  simp only [copied, bind_eq_ok, peek_eq_ok] at h
  obtain ⟨t', ht', h⟩ := h
  split at h
  · next hp =>
    cases h
    exact ⟨ht', .inl hp⟩
  · simp only [bind_eq_ok, pure_eq_ok, expectReference, require_eq_ok] at h
    obtain ⟨t'', ht'', _, href, rfl⟩ := h
    cases ht'.symm.trans (use_eq_ok.1 ht'').1
    exact ⟨ht', .inr href⟩

/-- A field of a pending object is only set by the constructor of the class that has the field. -/
theorem useOwner_eq_ok {definer : Descriptor} {u : Unit} (h : s.useOwner o r definer = .ok u) :
    s.Ready r ∨ s.type? r = some (.pendingThis definer) := by
  simp only [useOwner, bind_eq_ok, peek_eq_ok] at h
  obtain ⟨t, ht, h⟩ := h
  split at h
  · next hown =>
    rw [RegisterType.content_eq_receiver.1 (RegisterType.content_eq_of_beq hown)] at ht
    exact .inr ht
  · exact .inl (ready_of_useTyped h r (Reg.mem_span _ r))

theorem element_eq_ok {array : Reg} (h : s.element i access array = .ok t) :
    s.Ready array ∧ t.content = .plain ∧ t.isWide = access.isWide := by
  simp only [element, bind_eq_ok] at h
  obtain ⟨component, harray, h⟩ := h
  refine ⟨ready_of_useArray harray, ?_⟩
  cases component with
  | some d =>
    simp only [bind_eq_ok, require_eq_ok, declaredType_eq_ok] at h
    obtain ⟨_, hfits, ht⟩ := h
    exact ⟨RegisterType.content_ofDescriptor ht, Access.isWide_of_fits hfits ht⟩
  | none =>
    cases h
    exact ⟨access.ofNull_content, access.ofNull_isWide⟩

/-- What is put in an array is read as wide as the access is. -/
theorem useWidth_of_checkElement {src array : Reg} {u : Unit} (h : s.checkElement o i access src array = .ok u) :
    s.Ready array ∧ ∃ t, s.useWidth access.isWide src = .ok t := by
  simp only [checkElement, bind_eq_ok] at h
  obtain ⟨component, harray, h⟩ := h
  refine ⟨ready_of_useArray harray, ?_⟩
  split at h
  · simp only [bind_eq_ok, require_eq_ok, declaredType_eq_ok] at h
    obtain ⟨_, hfits, t, ht, h⟩ := h
    rw [← Access.isWide_of_fits hfits ht]
    split at h
    · next href =>
      rw [RegisterType.isWide_of_isReferenceLike href]
      simp only [useObject, useTyped, bind_eq_ok] at h
      exact ⟨_, h.choose_spec.1⟩
    · simp only [useTyped, bind_eq_ok] at h
      exact ⟨_, h.choose_spec.1⟩
  · simp only [bind_eq_ok] at h
    exact ⟨_, h.choose_spec.1⟩
  · simp only [useObject, useTyped, bind_eq_ok] at h
    exact ⟨_, h.choose_spec.1⟩
  · next hwide _ =>
    have hnarrow : access.isWide = false := by
      cases access <;> first | rfl | exact (hwide rfl).elim
    simp only [bind_eq_ok] at h
    rw [hnarrow]
    exact ⟨_, h.choose_spec.1⟩

theorem ready_of_checkElements {args : List Reg} {d : Descriptor} {u : Unit}
    (h : s.checkElements o args d = .ok u) : ∀ r ∈ args, s.Ready r := by
  unfold checkElements at h
  split at h
  · simp only [bind_eq_ok] at h
    obtain ⟨_, -, element, -, h⟩ := h
    intro r hr
    exact ready_of_useTyped (forM_eq_ok h r hr) r (Reg.mem_span _ r)
  · cases h

theorem ready_of_checkComparison {comp : Comparison} {left right : Reg} {u : Unit}
    (h : s.checkComparison comp left right = .ok u) : s.Ready left ∧ s.Ready right := by
  simp only [checkComparison, bind_eq_ok] at h
  obtain ⟨l, hl, r, hr, -⟩ := h
  exact ⟨ready_of_use hl, ready_of_use hr⟩

theorem ready_of_checkZeroComparison {comp : Comparison} {u : Unit} (h : s.checkZeroComparison comp r = .ok u) :
    s.Ready r := by
  simp only [checkZeroComparison, bind_eq_ok] at h
  obtain ⟨t, ht, -⟩ := h
  exact ready_of_use ht

theorem converted_eq_ok {source target : Descriptor} (h : s.converted o r source target = .ok t) :
    (∃ kind, source.kind? = some kind ∧ s.useKind o r kind = .ok ()) ∧
      ∃ kind, target.kind? = some kind ∧ t = .primitive kind := by
  unfold converted at h
  split at h
  · next kind kind' hkind hkind' =>
    simp only [bind_eq_ok, pure_eq_ok] at h
    obtain ⟨_, huse, rfl⟩ := h
    exact ⟨⟨kind, hkind, huse⟩, kind', hkind', rfl⟩
  · cases h

theorem checkReturn_eq_ok {fits : RegisterType → Bool} {u : Unit} (h : s.checkReturn o i r fits = .ok u) :
    ∃ t, fits t = true ∧ s.useTyped o r t = .ok () := by
  unfold checkReturn at h
  split at h
  · cases h
  · next t _ =>
    simp only [bind_eq_ok, require_eq_ok] at h
    obtain ⟨_, hfits, huse⟩ := h
    exact ⟨t, hfits, huse⟩

end TypeState
end Dalvik
