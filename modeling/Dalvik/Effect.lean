import Dalvik.TypeState.Check

/-!
# Effects of instructions

An instruction is checked first and takes effect afterwards. `Instr.effect` reads a state and either complains or
says what the instruction does to it; `Instr.recovery` says what is done instead after a complaint: the destination gets
the type the instruction declares for its result, or a conflict.
-/

namespace Dalvik

/-- What an instruction does to a state in which the pseudo-registers are empty. -/
inductive Effect where
  | skip
  | write (r : Reg) (t : RegisterType)
  | writePair (r : Reg) (t : RegisterType)
  /-- Leaves a result. -/
  | yield (result : Option RegisterType)
  /-- Puts a new pending object in a register. -/
  | allocate (dst : Reg) (type : Descriptor)
  /-- Makes every copy of a pending object a reference, and leaves a result. -/
  | construct (object : RegisterType) (type : Descriptor) (result : Option RegisterType)

/-- Writes one register, or a pair for a wide type. -/
def Effect.writeTyped (r : Reg) (t : RegisterType) : Effect := if t.isWide then .writePair r t else .write r t

/-- Equality and its opposite are the comparisons of references. -/
def Comparison.isEquality : Comparison → Bool
  | eq | ne => true
  | _ => false

/-- The type read from a null array, though the read never succeeds. -/
def Access.ofNull (access : Access) : RegisterType :=
  match access.kind?, access with
  | some kind, _ => .primitive kind
  | none, .wide => .primitive .long
  | none, .object => .null
  | none, _ => .primitive .int

namespace TypeState

open Check

variable (o : ClassOracle) (s : TypeState)

/-- The pending object in the receiver of a constructor, and the class that is constructed. A constructor of an
allocated object belongs to its class; the one called by another constructor belongs to the same class or to its
superclass, or to any class when nothing is known about the first. -/
def constructed (receiver : Reg) (m : MethodRef) : Check (RegisterType × Descriptor) := do
  match ← s.peek receiver with
  | .pending u =>
    require (o.isConstructorOf m u.type) (.constructsOther m u.type)
    return (.pending u, u.type)
  | .pendingThis t =>
    let delegates := m.definer = t || match o.superclass? t with
      | some superclass => superclass = m.definer
      | none => (o.classDef? t).isNone
    require (delegates && o.isConstructorOf m m.definer) (.cannotInitialize m t)
    return (.pendingThis t, t)
  | .reference t => complain (.alreadyConstructed receiver t)
  | t =>
    let _ ← s.use receiver
    complain (.notConstructible receiver t)

/-- The method returns nothing. -/
def checkReturnVoid : Check Unit :=
  match s.expected with
  | none => return ()
  | some expected => complain (.returnsNothing expected)

/-- The method returns a value that fits the instruction. -/
def checkReturn (i : Instr) (r : Reg) (fits : RegisterType → Bool) : Check Unit := do
  match s.expected with
  | none => complain .returnsValue
  | some expected =>
    require (fits expected) (.wrongReturn i expected)
    s.useTyped o r expected

/-- The result that the instruction before has left. -/
def takeResult : Check RegisterType :=
  match s.result with
  | some t => return t
  | none => complain .noResult

/-- The exception that was caught. -/
def takeException : Check RegisterType :=
  match s.exception with
  | some t => return t
  | none => complain .noException

/-- The type of an object that is copied. Pending objects are copied too. -/
def copied (r : Reg) : Check RegisterType := do
  let t ← s.peek r
  unless t.isPending do expectReference (← s.use r)
  return t

/-- The object whose field is set. A constructor may set its own fields before it calls another one. -/
def useOwner (r : Reg) (definer : Descriptor) : Check Unit := do
  unless (← s.peek r) == .pendingThis definer do s.useTyped o r (.reference definer)

/-- The type of an element that is read from an array. -/
def element (i : Instr) (access : Access) (array : Reg) : Check RegisterType := do
  match ← s.useArray array with
  | some element =>
    require (access.fits element) (.cannotReadElement i element)
    declaredType element
  | none => return access.ofNull

/-- The register holds a value that can be put in an array. -/
def checkElement (i : Instr) (access : Access) (src array : Reg) : Check Unit := do
  match ← s.useArray array, access with
  | some element, _ =>
    require (access.fits element) (.cannotWriteElement i element)
    let t ← declaredType element
    -- elements of reference arrays are checked when the code runs
    if t.isReferenceLike then s.useObject o src else s.useTyped o src t
  | none, .wide => let _ ← s.usePair src
  | none, .object => s.useObject o src
  | none, _ => expectSingleWord (← s.use src)

/-- The registers hold the elements of an array of the type. -/
def checkElements (args : List Reg) (t : Descriptor) : Check Unit :=
  match t.component? with
  | some element => do
    require (!element.isWide) (.cannotFill t)
    let element ← declaredType element
    args.forM fun r => s.useTyped o r element
  | none => complain (.cannotFill t)

/-- The registers hold values that can be compared. -/
def checkComparison (comp : Comparison) (left right : Reg) : Check Unit := do
  let l ← s.use left
  let r ← s.use right
  require (l.isIntegral && r.isIntegral || l.isReferenceLike && r.isReferenceLike && comp.isEquality)
    (.cannotCompare l r comp)

/-- The register holds a value that can be compared with zero. -/
def checkZeroComparison (comp : Comparison) (r : Reg) : Check Unit := do
  let t ← s.use r
  require (t.isIntegral || t.isReferenceLike && comp.isEquality) (.cannotCompareZero t comp)

/-- The type of a value that is converted from one primitive type to another. -/
def converted (r : Reg) (source target : Descriptor) : Check RegisterType :=
  match source.kind?, target.kind? with
  | some sourceKind, some targetKind => do
    s.useKind o r sourceKind
    return .primitive targetKind
  | _, _ => complain (.cannotConvert source target)

end TypeState

namespace Instr

open Check TypeState

/-- What the instruction does to the state, if nothing is wrong with it. -/
def effect (o : ClassOracle) (s : TypeState) (i : Instr) : Check Effect := do
  match i with
  | nop | goto _ => return .skip
  | move dst src =>
    let t ← s.use src
    expectSingleWord t
    return .write dst t
  | moveWide dst src =>
    let t ← s.usePair src
    return .writePair dst t
  | moveObject dst src => return .write dst (← s.copied src)
  | moveResult dst =>
    let t ← s.takeResult
    expectSingleWord t
    return .write dst t
  | moveResultWide dst =>
    let t ← s.takeResult
    require t.isWide (.notWide t)
    return .writePair dst t
  | moveResultObject dst =>
    let t ← s.takeResult
    expectReference t
    return .write dst t
  | moveException dst => return .write dst (← s.takeException)
  | returnVoid =>
    s.checkEscape
    s.checkReturnVoid
    return .skip
  | returnValue r =>
    s.checkEscape
    s.checkReturn o i r fun t => !t.isWide && !t.isReferenceLike
    return .skip
  | returnWide r =>
    s.checkEscape
    s.checkReturn o i r RegisterType.isWide
    return .skip
  | returnObject r =>
    s.checkEscape
    s.checkReturn o i r RegisterType.isReferenceLike
    return .skip
  | const dst value => return .write dst (.ofLiteral value)
  | constFloat dst _ => return .write dst (.primitive .float)
  | constWide dst _ => return .writePair dst .wideLiteral
  | constDouble dst _ => return .writePair dst (.primitive .double)
  | constNull dst => return .write dst .null
  | constString dst _ => return .write dst (.reference .javaLangString)
  | constClass dst _ => return .write dst (.reference .javaLangClass)
  | monitorEnter r | monitorExit r =>
    s.useObject o r
    return .skip
  | checkCast r t =>
    require t.isReference (.cannotCast t)
    s.useObject o r
    return .skip
  | instanceOf dst src t =>
    require t.isReference (.cannotTest t)
    s.useObject o src
    return .write dst (.primitive .boolean)
  | arrayLength dst array =>
    let _ ← s.useArray array
    return .write dst (.primitive .int)
  | newInstance dst t =>
    require t.isClass (.cannotInstantiate t)
    return .allocate dst t
  | newArray dst size t =>
    s.useKind o size .int
    require t.isArray (.notArrayType t)
    return .write dst (.reference t)
  | filledNewArray args t =>
    s.checkElements o args t
    return .yield (some (.reference t))
  | throw r =>
    s.checkEscape
    s.useTyped o r (.reference .javaLangThrowable)
    return .skip
  | switch r _ =>
    s.useKind o r .int
    return .skip
  | ifTest comp left right _ =>
    s.checkComparison comp left right
    return .skip
  | ifTestZero comp src _ =>
    s.checkZeroComparison comp src
    return .skip
  | cmp kind dst left right =>
    s.useKind o left kind.kind
    s.useKind o right kind.kind
    return .write dst (.primitive .int)
  | aget access dst array index =>
    s.useKind o index .int
    return .writeTyped dst (← s.element i access array)
  | aput access src array index =>
    s.useKind o index .int
    s.checkElement o i access src array
    return .skip
  | iget access dst object field =>
    require (access.fits field.type) (.cannotReadField i field)
    s.useTyped o object (.reference field.definer)
    return .writeTyped dst (← declaredType field.type)
  | iput access src object field =>
    require (access.fits field.type) (.cannotWriteField i field)
    s.useOwner o object field.definer
    s.useTyped o src (← declaredType field.type)
    return .skip
  | sget access dst field =>
    require (access.fits field.type) (.cannotReadField i field)
    return .writeTyped dst (← declaredType field.type)
  | sput access src field =>
    require (access.fits field.type) (.cannotWriteField i field)
    s.useTyped o src (← declaredType field.type)
    return .skip
  | invoke kind m args =>
    s.checkArguments o m args kind.hasReceiver
    match kind.hasReceiver, args with
    | true, receiver :: _ =>
      if kind = .direct && m.isConstructor then
        let (object, t) ← s.constructed o receiver m
        return .construct object t (RegisterType.ofResult m.result)
      else
        s.useTyped o receiver (.reference m.definer)
        return .yield (RegisterType.ofResult m.result)
    | _, _ => return .yield (RegisterType.ofResult m.result)
  | unary op kind dst src =>
    require (op = .neg || kind.isIntegral) (.undefinedNot kind)
    s.useKind o src kind.kind
    return .writeTyped dst (.primitive kind.kind)
  | convert dst src source target => return .writeTyped dst (← s.converted o src source target)
  | binary op kind dst left right =>
    require (!op.isBitwise || kind.isIntegral) (.undefinedBinary op kind)
    s.useKind o left kind.kind
    -- the distance of a shift is an `int`
    s.useKind o right (if op.isShift then .int else kind.kind)
    return .writeTyped dst (.primitive kind.kind)
  | binaryLit _ dst src _ =>
    s.useKind o src .int
    return .write dst (.primitive .int)

/-- What is done after a complaint about the instruction. -/
def recovery : Instr → Effect
  | move dst _ | moveObject dst _ | moveResult dst | moveResultObject dst | newInstance dst _ => .write dst .conflict
  | moveWide dst _ | moveResultWide dst => .writePair dst .conflict
  | moveException dst => .write dst (.reference .javaLangThrowable)
  | instanceOf dst _ _ => .write dst (.primitive .boolean)
  | arrayLength dst _ | cmp _ dst _ _ | binaryLit _ dst _ _ => .write dst (.primitive .int)
  | checkCast dst t | newArray dst _ t => .write dst (.declared t)
  | filledNewArray _ t => .yield (some (.declared t))
  | aget access dst _ _ =>
    match access.kind?, access with
    | some kind, _ => .write dst (.primitive kind)
    | none, .wide => .writePair dst .conflict
    | none, _ => .write dst .conflict
  | iget _ dst _ field | sget _ dst field => .writeTyped dst (.declared field.type)
  | invoke _ m _ => .yield (RegisterType.ofResult m.result)
  | unary _ kind dst _ | binary _ kind dst _ _ => .writeTyped dst (.primitive kind.kind)
  | convert dst _ _ target => .writeTyped dst (.declared target)
  | _ => .skip

end Instr
end Dalvik
