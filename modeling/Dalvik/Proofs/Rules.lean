import Dalvik.Proofs.Operands

/-!
# Rules of instructions

The rule of an instruction is a list of demands on the state and an outcome, which gives the effect: nothing, a value
from some source put in a register, a result left behind, an object allocated or constructed. `Instr.effect_eq` says
that the effect of every instruction is computed by its rule. There are far fewer kinds of demands, sources and outcomes
than instructions, so what holds of all effects is proved for each kind, and carried to instructions by a table of what
their rules are made of. `Instr.Checked` collects what the checks make sure of: operands hold values, except where a
pending object is allowed, and the effect writes the registers that the instruction names.
-/

namespace Dalvik

/-- The form of an instruction that returns a value or takes a result. -/
inductive Form where
  | word | wide | object

namespace Form

def isWide : Form → Bool
  | wide => true
  | _ => false

/-- Whether values of the type are returned in this form. -/
def returns : Form → RegisterType → Bool
  | word => fun t => !t.isWide && !t.isReferenceLike
  | wide => RegisterType.isWide
  | object => RegisterType.isReferenceLike

/-- A result of the type is taken in this form. -/
def expect : Form → RegisterType → Check Unit
  | word, t => TypeState.expectSingleWord t
  | wide, t => Check.require t.isWide (.notWide t)
  | object, t => TypeState.expectReference t

variable {f : Form} {t : RegisterType}

theorem isWide_of_returns (h : f.returns t = true) : t.isWide = f.isWide := by
  cases f with
  | word =>
    simp only [returns, Bool.and_eq_true, Bool.not_eq_true'] at h
    exact h.1
  | wide => exact h
  | object => exact RegisterType.isWide_of_isReferenceLike h

theorem expect_eq_ok {u : Unit} (h : f.expect t = .ok u) : t.content = .plain ∧ t.isWide = f.isWide := by
  cases f with
  | word =>
    have hword := TypeState.require_eq_ok.1 h
    exact ⟨RegisterType.content_of_isSingleWord hword, RegisterType.isWide_of_isSingleWord hword⟩
  | wide =>
    have hwide := TypeState.require_eq_ok.1 h
    exact ⟨RegisterType.content_of_isWide hwide, hwide⟩
  | object =>
    have href := TypeState.require_eq_ok.1 h
    exact ⟨RegisterType.content_of_isReferenceLike href, RegisterType.isWide_of_isReferenceLike href⟩

end Form

/-- What a rule asks of the state. -/
inductive Demand where
  | require (b : Bool) (c : Complaint)
  | kind (r : Reg) (k : PrimitiveKind)
  | typed (r : Reg) (t : RegisterType)
  | array (r : Reg)
  /-- A value for a field. -/
  | field (i : Instr) (access : Access) (src : Reg) (f : FieldRef)
  | owner (object : Reg) (definer : Descriptor)
  /-- A value for an element of an array. -/
  | element (i : Instr) (access : Access) (src array : Reg)
  | elements (args : List Reg) (type : Descriptor)
  | comparable (comp : Comparison) (left right : Reg)
  | comparableZero (comp : Comparison) (r : Reg)
  | arguments (m : MethodRef) (args : List Reg) (hasReceiver : Bool)
  /-- No pending object is left behind. -/
  | escape
  | returnsNothing
  | returns (i : Instr) (r : Reg) (form : Form)

/-- Where a value that an instruction writes comes from. -/
inductive Source where
  | constant (t : RegisterType)
  | single (r : Reg)
  | pair (r : Reg)
  | object (r : Reg)
  | result (form : Form)
  | exception
  | field (i : Instr) (access : Access) (f : FieldRef)
  | element (i : Instr) (access : Access) (array : Reg)
  | converted (r : Reg) (source target : Descriptor)

/-- What an instruction does when its demands are met. -/
inductive Outcome where
  | skip
  | put (dst : Reg) (x : Source)
  | yield (result : Option RegisterType)
  | allocate (dst : Reg) (type : Descriptor)
  | construct (receiver : Reg) (m : MethodRef)

section
variable (o : ClassOracle) (s : TypeState)

def Demand.check : Demand → Check Unit
  | require b c => Check.require b c
  | kind r k => s.useKind o r k
  | typed r t => s.useTyped o r t
  | array r => do let _ ← s.useArray r
  | field i access src f => do
    Check.require (access.fits f.type) (.cannotWriteField i f)
    s.useTyped o src (← Check.declaredType f.type)
  | owner object definer => s.useOwner o object definer
  | element i access src r => s.checkElement o i access src r
  | elements args type => s.checkElements o args type
  | comparable comp left right => s.checkComparison comp left right
  | comparableZero comp r => s.checkZeroComparison comp r
  | arguments m args hasReceiver => s.checkArguments o m args hasReceiver
  | escape => s.checkEscape
  | returnsNothing => s.checkReturnVoid
  | returns i r form => s.checkReturn o i r form.returns

def Source.fetch : Source → Check RegisterType
  | constant t => return t
  | single r => do
    let t ← s.use r
    TypeState.expectSingleWord t
    return t
  | pair r => s.usePair r
  | object r => s.copied r
  | result form => do
    let t ← s.takeResult
    form.expect t
    return t
  | exception => s.takeException
  | field i access f => do
    Check.require (access.fits f.type) (.cannotReadField i f)
    Check.declaredType f.type
  | element i access array => s.element i access array
  | converted r source target => s.converted o r source target

/-- Whether the value is written to a pair. -/
def Source.isWide : Source → Bool
  | constant t => t.isWide
  | pair _ => true
  | result form => form.isWide
  | field _ access _ | element _ access _ => access.isWide
  | converted _ _ target => target.isWide
  | single _ | object _ | exception => false

def Outcome.effect : Outcome → Check Effect
  | skip => return .skip
  | put dst x => do
    let t ← x.fetch o s
    return if x.isWide then .writePair dst t else .write dst t
  | yield result => return .yield result
  | allocate dst type => return .allocate dst type
  | construct receiver m => do
    let (object, t) ← s.constructed o receiver m
    return .construct object t (RegisterType.ofResult m.result)

end

namespace Instr

def demands (i : Instr) : List Demand :=
  match i with
  | returnVoid => [.escape, .returnsNothing]
  | returnValue r => [.escape, .returns i r .word]
  | returnWide r => [.escape, .returns i r .wide]
  | returnObject r => [.escape, .returns i r .object]
  | throw r => [.escape, .typed r (.reference .javaLangThrowable)]
  | monitorEnter r | monitorExit r => [.typed r (.reference .javaLangObject)]
  | checkCast r t => [.require t.isReference (.cannotCast t), .typed r (.reference .javaLangObject)]
  | instanceOf _ src t => [.require t.isReference (.cannotTest t), .typed src (.reference .javaLangObject)]
  | arrayLength _ array => [.array array]
  | newInstance _ t => [.require t.isClass (.cannotInstantiate t)]
  | newArray _ size t => [.kind size .int, .require t.isArray (.notArrayType t)]
  | filledNewArray args t => [.elements args t]
  | switch r _ => [.kind r .int]
  | ifTest comp left right _ => [.comparable comp left right]
  | ifTestZero comp src _ => [.comparableZero comp src]
  | cmp kind _ left right => [.kind left kind.kind, .kind right kind.kind]
  | aget _ _ _ index => [.kind index .int]
  | aput access src array index => [.kind index .int, .element i access src array]
  | iget access _ object field =>
    [.require (access.fits field.type) (.cannotReadField i field), .typed object (.reference field.definer)]
  | iput access src object field =>
    [.require (access.fits field.type) (.cannotWriteField i field), .owner object field.definer,
      .field i access src field]
  | sput access src field => [.field i access src field]
  | invoke kind m args =>
    .arguments m args kind.hasReceiver ::
      match kind.hasReceiver, args with
      | true, receiver :: _ =>
        if kind = .direct && m.isConstructor then [] else [.typed receiver (.reference m.definer)]
      | _, _ => []
  | unary op kind _ src => [.require (op = .neg || kind.isIntegral) (.undefinedNot kind), .kind src kind.kind]
  | binary op kind _ left right =>
    [.require (!op.isBitwise || kind.isIntegral) (.undefinedBinary op kind), .kind left kind.kind,
      .kind right (if op.isShift then .int else kind.kind)]
  | binaryLit _ _ src _ => [.kind src .int]
  | _ => []

def outcome (i : Instr) : Outcome :=
  match i with
  | move dst src => .put dst (.single src)
  | moveWide dst src => .put dst (.pair src)
  | moveObject dst src => .put dst (.object src)
  | moveResult dst => .put dst (.result .word)
  | moveResultWide dst => .put dst (.result .wide)
  | moveResultObject dst => .put dst (.result .object)
  | moveException dst => .put dst .exception
  | const dst value => .put dst (.constant (.ofLiteral value))
  | constFloat dst _ => .put dst (.constant (.primitive .float))
  | constWide dst _ => .put dst (.constant .wideLiteral)
  | constDouble dst _ => .put dst (.constant (.primitive .double))
  | constNull dst => .put dst (.constant .null)
  | constString dst _ => .put dst (.constant (.reference .javaLangString))
  | constClass dst _ => .put dst (.constant (.reference .javaLangClass))
  | instanceOf dst _ _ => .put dst (.constant (.primitive .boolean))
  | arrayLength dst _ | cmp _ dst _ _ | binaryLit _ dst _ _ => .put dst (.constant (.primitive .int))
  | newInstance dst t => .allocate dst t
  | newArray dst _ t => .put dst (.constant (.reference t))
  | filledNewArray _ t => .yield (some (.reference t))
  | aget access dst array _ => .put dst (.element i access array)
  | iget access dst _ field | sget access dst field => .put dst (.field i access field)
  | invoke .direct m (receiver :: _) =>
    if m.isConstructor then .construct receiver m else .yield (RegisterType.ofResult m.result)
  | invoke _ m _ => .yield (RegisterType.ofResult m.result)
  | unary _ kind dst _ | binary _ kind dst _ _ => .put dst (.constant (.primitive kind.kind))
  | convert dst src source target => .put dst (.converted src source target)
  | _ => .skip

end Instr

section
variable {o : ClassOracle} {s : TypeState}

open TypeState

theorem Source.isWide_of_fetch {x : Source} {t : RegisterType} (h : x.fetch o s = .ok t) (hx : x ≠ .exception) :
    t.isWide = x.isWide := by
  cases x with
  | constant => cases h; rfl
  | single r =>
    simp only [fetch, bind_eq_ok, pure_eq_ok, expectSingleWord, require_eq_ok] at h
    obtain ⟨t, -, _, hword, rfl⟩ := h
    exact RegisterType.isWide_of_isSingleWord hword
  | pair r => exact (ready_of_usePair h).2.2
  | object r =>
    rcases (copied_eq_ok h).2 with hp | href
    · exact RegisterType.isWide_of_isPending hp
    · exact RegisterType.isWide_of_isReferenceLike href
  | result form =>
    simp only [fetch, bind_eq_ok, pure_eq_ok] at h
    obtain ⟨t, -, _, hform, rfl⟩ := h
    exact (Form.expect_eq_ok hform).2
  | exception => exact absurd rfl hx
  | field i access f =>
    simp only [fetch, bind_eq_ok, require_eq_ok, declaredType_eq_ok] at h
    obtain ⟨_, hfits, ht⟩ := h
    exact Access.isWide_of_fits hfits ht
  | element i access array => exact (element_eq_ok h).2.2
  | converted r source target =>
    obtain ⟨-, kind, hkind, rfl⟩ := converted_eq_ok h
    simp [isWide, RegisterType.isWide, Descriptor.isWide, hkind]

/-- Only a caught exception may be written to one register though it is wide. -/
theorem Outcome.put_eq {x : Source} (dst : Reg) (hx : x ≠ .exception) :
    (put dst x).effect o s = (do return .writeTyped dst (← x.fetch o s)) := by
  rw [effect]
  cases h : x.fetch o s with
  | error f => rfl
  | ok t =>
    rw [← Source.isWide_of_fetch h hx]
    rfl

namespace Instr

theorem effect_invoke (kind : InvokeKind) (m : MethodRef) (args : List Reg) :
    (invoke kind m args).effect o s = (do
      (invoke kind m args).demands.forM (·.check o s)
      (invoke kind m args).outcome.effect o s) := by
  cases args with
  | nil => cases kind <;> simp [effect, demands, outcome, Demand.check, Outcome.effect]
  | cons receiver rest =>
    cases kind with
    | direct =>
      cases hctor : m.isConstructor <;>
        simp [effect, demands, outcome, Demand.check, Outcome.effect, InvokeKind.hasReceiver, hctor]
    | _ => simp [effect, demands, outcome, Demand.check, Outcome.effect, InvokeKind.hasReceiver]

/-- The effect of an instruction is what its rule says. -/
theorem effect_eq (i : Instr) :
    i.effect o s = (do i.demands.forM (·.check o s); i.outcome.effect o s) := by
  cases i with
  | invoke kind m args => exact effect_invoke kind m args
  | const dst value =>
    simp [effect, demands, outcome, Outcome.effect, Source.fetch, Source.isWide, RegisterType.isWide_ofLiteral]
  | aget | sget | convert =>
    rw [outcome, Outcome.put_eq _ (by simp)]
    simp only [demands, List.forM_eq_forM, List.forM_cons, List.forM_nil, bind_assoc, pure_bind, Source.fetch]
    rfl
  -- an access to an object asks whether it fits the field before it looks at the object, and the rule asks again after
  | iget access dst object field =>
    rw [outcome, Outcome.put_eq _ (by simp)]
    simp only [demands, List.forM_eq_forM, List.forM_cons, List.forM_nil, bind_assoc, pure_bind, Source.fetch]
    simp only [effect, Demand.check]
    cases access.fits field.type <;> rfl
  | iput access src object field =>
    simp only [demands, List.forM_eq_forM, List.forM_cons, List.forM_nil, bind_assoc, pure_bind]
    simp only [effect, Demand.check, bind_assoc]
    cases access.fits field.type <;> rfl
  | arrayLength | sput =>
    simp only [demands, List.forM_eq_forM, List.forM_cons, List.forM_nil, bind_assoc, pure_bind, Demand.check]
    rfl
  | move | moveResult | moveResultWide | moveResultObject =>
    simp only [demands, outcome, Outcome.effect, Source.fetch, List.forM_eq_forM, List.forM_nil, bind_assoc, pure_bind]
    rfl
  | _ =>
    simp only [demands, List.forM_eq_forM, List.forM_cons, List.forM_nil, bind_assoc, pure_bind]
    rfl

theorem effect_eq_ok {i : Instr} {e : Effect} (h : i.effect o s = .ok e) :
    (∀ d ∈ i.demands, d.check o s = .ok ()) ∧ i.outcome.effect o s = .ok e := by
  rw [effect_eq, bind_eq_ok] at h
  obtain ⟨_, hdemands, h⟩ := h
  exact ⟨forM_eq_ok hdemands, h⟩

end Instr
end

namespace Demand

/-- The registers that have to hold values. -/
def values : Demand → List Reg
  | kind r k => Reg.span k.isWide r
  | typed r t => Reg.span t.isWide r
  | array r | comparableZero _ r => [r]
  | field _ access src _ => Reg.span access.isWide src
  | element _ access src r => r :: Reg.span access.isWide src
  | elements args _ => args
  | comparable _ left right => [left, right]
  | arguments _ args hasReceiver => args.drop hasReceiver.toNat
  | returns _ r form => Reg.span form.isWide r
  | require _ _ | owner _ _ | escape | returnsNothing => []

open TypeState

theorem ready {o : ClassOracle} {s : TypeState} {d : Demand} {u : Unit} (h : d.check o s = .ok u) :
    ∀ r ∈ d.values, s.Ready r := by
  cases d with
  | kind r k => exact ready_of_useKind h
  | typed r t => exact ready_of_useTyped h
  | array r =>
    simp only [check, bind_eq_ok] at h
    obtain ⟨_, huse, -⟩ := h
    simpa [values] using ready_of_useArray huse
  | field i access src f =>
    simp only [check, bind_eq_ok, require_eq_ok, declaredType_eq_ok] at h
    obtain ⟨_, hfits, t, ht, huse⟩ := h
    have hready := ready_of_useTyped huse
    rwa [Access.isWide_of_fits hfits ht] at hready
  | element i access src r =>
    obtain ⟨harray, t, ht⟩ := useWidth_of_checkElement h
    exact List.forall_mem_cons.2 ⟨harray, ready_of_useWidth ht⟩
  | elements args type => exact ready_of_checkElements h
  | comparable comp left right => simpa [values] using ready_of_checkComparison h
  | comparableZero comp r => simpa [values] using ready_of_checkZeroComparison h
  | arguments m args hasReceiver => exact ready_of_checkArguments h
  | returns i r form =>
    obtain ⟨t, hform, huse⟩ := checkReturn_eq_ok h
    rw [values, ← Form.isWide_of_returns hform]
    exact ready_of_useTyped huse
  | require | owner | escape | returnsNothing => simp [values]

end Demand

namespace Source

def values : Source → List Reg
  | single r | element _ _ r => [r]
  | pair r => Reg.span true r
  | converted r source _ => Reg.span source.isWide r
  | constant _ | object _ | result _ | exception | field _ _ _ => []

open TypeState

variable {o : ClassOracle} {s : TypeState} {x : Source} {t : RegisterType}

theorem ready (h : x.fetch o s = .ok t) : ∀ r ∈ x.values, s.Ready r := by
  cases x with
  | single r =>
    simp only [fetch, bind_eq_ok] at h
    obtain ⟨t, ht, -⟩ := h
    simpa [values] using ready_of_use ht
  | pair r => exact (ready_of_usePair h).1
  | element i access r => simpa [values] using (element_eq_ok h).1
  | converted r source target =>
    obtain ⟨⟨kind, hkind, huse⟩, -⟩ := converted_eq_ok h
    simpa [values, Descriptor.isWide, hkind] using ready_of_useKind huse
  | constant | object | result | exception | field => simp [values]

/-- A value that is neither a copied object nor an exception is known to be one. -/
theorem content_of_fetch (h : x.fetch o s = .ok t) (hconstant : ∀ t, x = constant t → t.content = .plain)
    (hobject : ∀ r, x ≠ object r) (hexception : x ≠ exception) : t.content = .plain := by
  cases x with
  | constant =>
    cases h
    exact hconstant _ rfl
  | single r =>
    simp only [fetch, bind_eq_ok, pure_eq_ok] at h
    obtain ⟨t, ht, _, -, rfl⟩ := h
    exact (use_eq_ok.1 ht).2
  | pair r => exact (ready_of_usePair h).2.1
  | object r => exact absurd rfl (hobject r)
  | result form =>
    simp only [fetch, bind_eq_ok, pure_eq_ok] at h
    obtain ⟨t, -, _, hform, rfl⟩ := h
    exact (Form.expect_eq_ok hform).1
  | exception => exact absurd rfl hexception
  | field i access f =>
    simp only [fetch, bind_eq_ok, declaredType_eq_ok] at h
    obtain ⟨_, -, ht⟩ := h
    exact RegisterType.content_ofDescriptor ht
  | element i access r => exact (element_eq_ok h).2.1
  | converted r source target =>
    obtain ⟨-, kind, -, rfl⟩ := converted_eq_ok h
    rfl

end Source

inductive Action.Effects (s : TypeState) : Action → Effect → Prop
  | allocate (dst : Reg) (type : Descriptor) : Effects s (.allocate dst type) (.allocate dst type)
  | copy {dst src : Reg} {t : RegisterType} : s.type? src = some t → t.isPending = true ∨ t.content = .plain →
      Effects s (.copy dst src) (.write dst t)
  | construct {receiver : Reg} {t : RegisterType} {type : Descriptor} {result : Option RegisterType} :
      s.type? receiver = some t → t.isPending = true → Effects s (.construct receiver) (.construct t type result)
  | skip : Effects s .overwrite .skip
  | yield (result : Option RegisterType) : Effects s .overwrite (.yield result)
  | write {r : Reg} {t : RegisterType} : t.content = .plain ∨ s.exception = some t → Effects s .overwrite (.write r t)
  | writePair {r : Reg} {t : RegisterType} : t.content = .plain → Effects s .overwrite (.writePair r t)

namespace Outcome

def values : Outcome → List Reg
  | put _ x => x.values
  | _ => []

def writes : Outcome → List Reg
  | put dst x => Reg.span x.isWide dst
  | allocate dst _ => [dst]
  | _ => []

def action : Outcome → Action
  | put dst (.object src) => .copy dst src
  | allocate dst type => .allocate dst type
  | construct receiver _ => .construct receiver
  | _ => .overwrite

open TypeState

variable {o : ClassOracle} {s : TypeState} {x : Outcome} {e : Effect}

theorem ready (h : x.effect o s = .ok e) : ∀ r ∈ x.values, s.Ready r := by
  cases x with
  | put dst x =>
    simp only [effect, bind_eq_ok] at h
    obtain ⟨t, ht, -⟩ := h
    exact Source.ready ht
  | _ => simp [values]

theorem writes_of_effect (h : x.effect o s = .ok e) : e.writes = x.writes := by
  cases x with
  | put dst x =>
    simp only [effect, bind_eq_ok, pure_eq_ok] at h
    obtain ⟨t, -, rfl⟩ := h
    cases hx : x.isWide <;> simp [Effect.writes, writes, Reg.span, hx]
  | construct receiver m =>
    simp only [effect, bind_eq_ok, pure_eq_ok] at h
    obtain ⟨_, -, rfl⟩ := h
    rfl
  | _ => cases h; rfl

theorem effects (h : x.effect o s = .ok e) (hconstant : ∀ dst t, x = put dst (.constant t) → t.content = .plain) :
    x.action.Effects s e := by
  cases x with
  | put dst x =>
    simp only [effect, bind_eq_ok, pure_eq_ok] at h
    obtain ⟨t, ht, rfl⟩ := h
    cases x with
    | object src =>
      obtain ⟨ht, hcontent⟩ := copied_eq_ok ht
      exact .copy ht (hcontent.imp id RegisterType.content_of_isReferenceLike)
    | exception => exact .write (.inr (takeException_eq_ok.1 ht))
    | _ =>
      have hplain := Source.content_of_fetch ht (fun t hx => hconstant dst t (congrArg _ hx)) (by simp) (by simp)
      split
      · exact .writePair hplain
      · exact .write (.inl hplain)
  | construct receiver m =>
    simp only [effect, bind_eq_ok, pure_eq_ok] at h
    obtain ⟨⟨object, type⟩, hx, rfl⟩ := h
    obtain ⟨ht, htype⟩ := constructed_eq_ok hx
    exact .construct ht (RegisterType.isPending_of_pendingType? htype)
  | skip => cases h; exact .skip
  | yield result => cases h; exact .yield result
  | allocate dst type => cases h; exact .allocate dst type

end Outcome

namespace Instr

-- What follows is read off the tables of rules.

theorem valueReads_subset (i : Instr) : i.valueReads ⊆ i.demands.flatMap Demand.values ++ i.outcome.values := by
  cases i with
  | invoke kind m args =>
    rcases args with _ | ⟨receiver, rest⟩
    · cases kind <;> simp [valueReads]
    · cases kind <;> cases hctor : m.isConstructor <;>
        simp [valueReads, demands, InvokeKind.hasReceiver, hctor, Demand.values]
  | binary op kind dst left right =>
    cases hshift : op.isShift <;> simp [valueReads, demands, Demand.values, NumKind.isWide, hshift]
  | _ => simp [valueReads, demands, outcome, Demand.values, Outcome.values, Source.values, NumKind.isWide, Form.isWide]

theorem demands_invoke (kind : InvokeKind) (m : MethodRef) (args : List Reg) :
    (invoke kind m args).demands = [.arguments m args kind.hasReceiver] ∨
    ∃ receiver ∈ args, (invoke kind m args).demands =
      [.arguments m args kind.hasReceiver, .typed receiver (.reference m.definer)] := by
  simp only [demands]
  split
  · split
    · exact .inl rfl
    · exact .inr ⟨_, List.mem_cons_self, rfl⟩
  · exact .inl rfl

theorem outcome_invoke (kind : InvokeKind) (m : MethodRef) (args : List Reg) :
    (∃ receiver, (invoke kind m args).outcome = .construct receiver m ∧
      (invoke kind m args).action = .construct receiver) ∨
    (invoke kind m args).outcome = .yield (RegisterType.ofResult m.result) ∧
      (invoke kind m args).action = .overwrite := by
  rcases args with _ | ⟨receiver, rest⟩
  · cases kind <;> exact .inr ⟨rfl, rfl⟩
  · cases kind with
    | direct => cases hctor : m.isConstructor <;> simp [outcome, action, hctor]
    | _ => exact .inr ⟨rfl, rfl⟩

theorem outcome_invoke_ne_put (kind : InvokeKind) (m : MethodRef) (args : List Reg) (dst : Reg) (x : Source) :
    (invoke kind m args).outcome ≠ .put dst x := by
  rcases outcome_invoke kind m args with ⟨receiver, h, -⟩ | ⟨h, -⟩ <;> simp [h]

theorem writes_outcome (i : Instr) : i.outcome.writes = i.writes := by
  cases i with
  | invoke kind m args =>
    rcases outcome_invoke kind m args with ⟨receiver, h, -⟩ | ⟨h, -⟩ <;>
      · rw [h]
        rfl
  | const dst value => simp [outcome, Outcome.writes, Source.isWide, RegisterType.isWide_ofLiteral, writes, Reg.span]
  | _ => rfl

theorem action_outcome (i : Instr) : i.outcome.action = i.action := by
  cases i with
  | invoke kind m args =>
    rcases outcome_invoke kind m args with ⟨receiver, h, haction⟩ | ⟨h, haction⟩ <;>
      · rw [h, haction]
        rfl
  | _ => rfl

theorem content_of_outcome {i : Instr} {dst : Reg} {t : RegisterType} (h : i.outcome = .put dst (.constant t)) :
    t.content = .plain := by
  cases i with
  | invoke kind m args => exact absurd h (outcome_invoke_ne_put kind m args dst _)
  | const dst value =>
    cases h
    exact RegisterType.content_ofLiteral value
  | _ => cases h <;> rfl

theorem escape_mem_demands {i : Instr} (h : i.doesReturn = true ∨ i.isThrow = true) : .escape ∈ i.demands := by
  cases i <;> simp [doesReturn, isThrow] at h <;> simp [demands]

theorem rule_of_objectRead? {i : Instr} {r : Reg} (h : i.objectRead? = some r) :
    (∃ definer, .owner r definer ∈ i.demands) ∨ (∃ dst, i.action = .copy dst r) ∨ i.action = .construct r := by
  unfold objectRead? at h
  split at h
  · cases h
    exact .inr (.inl ⟨_, rfl⟩)
  · cases h
    exact .inl ⟨_, List.mem_cons_of_mem _ List.mem_cons_self⟩
  · split at h <;> cases h
    next hctor => exact .inr (.inr (by rw [action, if_pos hctor]))
  · cases h

end Instr

/-- What is known of an instruction that passes its checks with an effect. -/
structure Instr.Checked (s : TypeState) (i : Instr) (e : Effect) : Prop where
  values : ∀ r ∈ i.valueReads, s.Ready r
  object : ∀ r, i.objectRead? = some r → s.Ready r ∨ s.HoldsPending r
  /-- A field of a pending object is only set by the constructor of the class that has the field. -/
  own : ∀ access src object field, i = .iput access src object field →
    s.Ready object ∨ s.type? object = some (.pendingThis field.definer)
  escape : i.doesReturn = true ∨ i.isThrow = true → ∀ r t, s.type? r = some t → t.isPending = false
  writes : e.writes = i.writes
  action : i.action.Effects s e

namespace Instr
variable {o : ClassOracle} {s : TypeState} {i : Instr} {e : Effect}

open TypeState

theorem checked_of_effect (h : i.effect o s = .ok e) : i.Checked s e := by
  obtain ⟨hdemands, houtcome⟩ := effect_eq_ok h
  have haction : i.action.Effects s e :=
    i.action_outcome ▸ Outcome.effects houtcome fun _ _ => content_of_outcome
  refine ⟨fun r hr => ?_, fun r hr => ?_, ?_, fun hleaves r t ht => ?_, ?_, haction⟩
  · rcases List.mem_append.1 (i.valueReads_subset hr) with hr | hr
    · obtain ⟨d, hd, hr⟩ := List.mem_flatMap.1 hr
      exact Demand.ready (hdemands d hd) r hr
    · exact Outcome.ready houtcome r hr
  · rcases rule_of_objectRead? hr with ⟨definer, howner⟩ | ⟨dst, hcopy⟩ | hconstruct
    · exact (useOwner_eq_ok (hdemands _ howner)).imp id fun ht => ⟨_, ht, rfl⟩
    · rw [hcopy] at haction
      cases haction with
      | copy ht hcontent => exact hcontent.symm.imp (fun hplain => ⟨_, ht, hplain⟩) fun hp => ⟨_, ht, hp⟩
    · rw [hconstruct] at haction
      cases haction with
      | construct ht hp => exact .inr ⟨_, ht, hp⟩
  · rintro access src object field rfl
    exact useOwner_eq_ok (hdemands (.owner object field.definer) (by simp [demands]))
  · exact not_isPending_of_checkEscape (hdemands _ (escape_mem_demands hleaves)) ht
  · exact (Outcome.writes_of_effect houtcome).trans i.writes_outcome

/-- What a call asks of its receiver, and its effect. -/
inductive Called (o : ClassOracle) (s : TypeState) (kind : InvokeKind) (m : MethodRef) : List Reg → Effect → Prop
  | free (args : List Reg) : kind.hasReceiver = false → Called o s kind m args (.yield (RegisterType.ofResult m.result))
  | constructor {receiver : Reg} (rest : List Reg) {object : RegisterType} {type : Descriptor} : kind = .direct →
      m.isConstructor = true → s.constructed o receiver m = .ok (object, type) →
      Called o s kind m (receiver :: rest) (.construct object type (RegisterType.ofResult m.result))
  | method {receiver : Reg} (rest : List Reg) {u : Unit} : kind.hasReceiver = true →
      ¬ (kind = .direct ∧ m.isConstructor = true) → s.useTyped o receiver (.reference m.definer) = .ok u →
      Called o s kind m (receiver :: rest) (.yield (RegisterType.ofResult m.result))

theorem invoke_eq_ok {kind : InvokeKind} {m : MethodRef} {args : List Reg}
    (h : (invoke kind m args).effect o s = .ok e) :
    (∃ u, s.checkArguments o m args kind.hasReceiver = .ok u) ∧ Called o s kind m args e := by
  simp only [effect, bind_eq_ok] at h
  obtain ⟨u, hargs, h⟩ := h
  refine ⟨⟨u, hargs⟩, ?_⟩
  cases hk : kind.hasReceiver with
  | false =>
    rw [hk] at h
    cases h
    exact .free args hk
  | true =>
    rw [hk] at h hargs
    rcases args with _ | ⟨receiver, rest⟩
    · -- the receiver takes one register at least
      simp [checkArguments, bind_eq_ok, require_eq_ok] at hargs
    dsimp only at h
    split at h
    · next hctor =>
      simp only [Bool.and_eq_true, decide_eq_true_eq] at hctor
      simp only [bind_eq_ok, pure_eq_ok] at h
      obtain ⟨x, hx, rfl⟩ := h
      exact .constructor rest hctor.1 hctor.2 hx
    · next hctor =>
      simp only [bind_eq_ok, pure_eq_ok] at h
      obtain ⟨u, huse, rfl⟩ := h
      exact .method rest hk (by simpa using hctor) huse

end Instr
end Dalvik
