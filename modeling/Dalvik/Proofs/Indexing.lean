import Dalvik.Proofs.Path

/-!
# Registers by index

The receiver and the parameters of a method fill its register file from an index on, and the registers of a call are
taken one or two at a time. Here both are done by index, without a result as soon as an index is out of range
(`TypeState.fillInitial`, `TypeState.checkArgumentsAt`). That never happens: once the widths of the declared types add
up to what there is, every index is in range, and the results are those of `TypeState.initial` and
`TypeState.checkArguments`.
-/

namespace Dalvik.TypeState

/-! ### The register file of a method -/

/-- Puts types in registers, from an index on. -/
def fill (regs : List RegisterType) (i : Nat) : List RegisterType → Option (List RegisterType)
  | [] => some regs
  | t :: ts => if i < regs.length then fill (regs.set i t) (i + 1) ts else none

/-- Puts the values of parameters in registers, until one is declared `void`. -/
def fillParams (regs : List RegisterType) (i : Nat) :
    List Descriptor → Option (Except TypingError (List RegisterType))
  | [] => some (.ok regs)
  | d :: ds =>
    match RegisterType.ofDescriptor d with
    | .error e => some (.error e)
    | .ok t => (fill regs i (argument t)).bind fun regs => fillParams regs (i + (argument t).length) ds

/-- Puts the receiver and the parameters after the locals. -/
def fillInitial (m : Method) (c : Code) : Option (Except TypingError (List RegisterType)) :=
  if insNeeded m ≠ c.insSize then some (.error (.badInsSize (insNeeded m) c.insSize))
  else
    let locals := c.registersSize - c.insSize
    (fill (List.replicate c.registersSize .unknown) locals (receiver m)).bind fun regs =>
      fillParams regs (locals + (receiver m).length) m.descriptor.params

theorem fill_eq {regs ts : List RegisterType} {i : Nat} (h : i + ts.length ≤ regs.length) :
    fill regs i ts = some (regs.take i ++ ts ++ regs.drop (i + ts.length)) := by
  induction ts generalizing regs i with
  | nil => simp [fill]
  | cons t ts ih =>
    rw [List.length_cons] at h
    have hi : i < regs.length := by omega
    have hrest : i + 1 + ts.length ≤ (regs.set i t).length := by
      rw [List.length_set]
      omega
    have htake : (regs.set i t).take (i + 1) = regs.take i ++ [t] := by
      rw [List.take_add_one, List.take_set_of_le (Nat.le_refl i), List.getElem?_set_self hi]
      rfl
    have hdrop : (regs.set i t).drop (i + 1 + ts.length) = regs.drop (i + (t :: ts).length) := by
      rw [List.drop_set_of_lt (by omega), List.length_cons, Nat.add_right_comm, Nat.add_assoc i]
    rw [fill, if_pos hi, ih hrest, htake, hdrop]
    simp

/-- The parameters are in range if the registers that are left are as many as they need. -/
theorem fillParams_eq {regs : List RegisterType} {i : Nat} {ds : List Descriptor}
    (h : i + ds.foldr (·.width + ·) 0 = regs.length) :
    fillParams regs i ds =
      some ((ds.mapM RegisterType.ofDescriptor).map fun ts => regs.take i ++ ts.flatMap argument) := by
  induction ds generalizing regs i with
  | nil =>
    obtain rfl : i = regs.length := h
    rw [List.mapM_nil, List.take_length]
    simp [fillParams, pure, Except.pure, Except.map]
  | cons d ds ih =>
    rw [List.foldr_cons] at h
    rw [fillParams, List.mapM_cons]
    cases hd : RegisterType.ofDescriptor d with
    | error e => rfl
    | ok t =>
      have hlen := length_argument hd
      have hfill : fill regs i (argument t) =
          some (regs.take i ++ argument t ++ regs.drop (i + (argument t).length)) := fill_eq (by omega)
      have hlength : (regs.take i ++ argument t).length = i + (argument t).length := by
        rw [List.length_append, List.length_take]
        omega
      dsimp only
      rw [hfill, Option.bind_some, ih, ← hlength, List.take_left]
      · cases ds.mapM RegisterType.ofDescriptor with
        | error e => rfl
        | ok ts => simp [bind, Except.bind, pure, Except.pure, Except.map]
      · rw [List.length_append, hlength, List.length_drop]
        omega

theorem fillInitial_eq (m : Method) (c : Code) : fillInitial m c = some ((initial m c).map types) := by
  unfold fillInitial initial
  split
  · rfl
  · next hins =>
    rw [ne_eq, Decidable.not_not, insNeeded, MethodRef.paramsWidth, ← length_receiver] at hins
    have hle := c.insSize_le
    have hreceiver :
        fill (List.replicate c.registersSize .unknown) (c.registersSize - c.insSize) (receiver m) = some _ :=
      fill_eq (by rw [List.length_replicate]; omega)
    have hlocals : ((List.replicate c.registersSize RegisterType.unknown).take (c.registersSize - c.insSize)) =
        List.replicate (c.registersSize - c.insSize) .unknown := by
      rw [List.take_replicate, Nat.min_eq_left (Nat.sub_le _ _)]
    have hlength : (List.replicate (c.registersSize - c.insSize) RegisterType.unknown ++ receiver m).length =
        c.registersSize - c.insSize + (receiver m).length := by
      rw [List.length_append, List.length_replicate]
    dsimp only
    rw [hreceiver, Option.bind_some, hlocals, fillParams_eq, ← hlength, List.take_left]
    · cases m.descriptor.params.mapM RegisterType.ofDescriptor with
      | error e => rfl
      | ok ts => simp [bind, Except.bind, pure, Except.pure, Except.map, types, Function.comp_def]
    · rw [List.length_append, hlength, List.length_drop, List.length_replicate]
      omega

/-! ### The registers of a call -/

variable (o : ClassOracle) (s : TypeState)

/-- Goes on after a check, unless it fails. -/
def goOn (x : Check Unit) (rest : Option (Check Unit)) : Option (Check Unit) :=
  match x with
  | .error f => some (.error f)
  | .ok _ => rest

/-- Checks arguments from an index on. -/
def checkParamsAt (args : List Reg) (i : Nat) : List Descriptor → Option (Check Unit)
  | [] => some (.ok ())
  | p :: ps =>
    match RegisterType.ofDescriptor p with
    | .error e => some (.error (.error e))
    | .ok t => args[i]?.bind fun r =>
      if t.isWide then
        args[i + 1]?.bind fun high =>
          goOn (Check.require (high = Reg.next r) (.notAPair r high)) <|
            goOn (s.useTyped o r t) (checkParamsAt args (i + 2) ps)
      else goOn (s.useTyped o r t) (checkParamsAt args (i + 1) ps)

def checkArgumentsAt (m : MethodRef) (args : List Reg) (hasReceiver : Bool) : Option (Check Unit) :=
  let expected := m.paramsWidth + hasReceiver.toNat
  if args.length = expected then checkParamsAt o s args hasReceiver.toNat m.params
  else some (Check.complain (.wrongArity m expected args.length))

variable {o s}

theorem goOn_some (x y : Check Unit) : goOn x (some y) = some (x >>= fun _ => y) := by cases x <;> rfl

/-- The arguments are in range if the registers that are left are as many as the parameters need. -/
theorem checkParamsAt_eq {args : List Reg} {i : Nat} {ps : List Descriptor}
    (h : i + ps.foldr (·.width + ·) 0 = args.length) :
    checkParamsAt o s args i ps = some (s.checkParams o ps (args.drop i)) := by
  induction ps generalizing i with
  | nil => rfl
  | cons p ps ih =>
    rw [List.foldr_cons] at h
    rw [checkParamsAt, checkParams, Check.declaredType]
    cases hp : RegisterType.ofDescriptor p with
    | error e => rfl
    | ok t =>
      have hvoid : p ≠ .void := by rintro rfl; cases hp
      rw [Descriptor.width, if_neg hvoid, ← isWide_ofDescriptor hp] at h
      cases hwide : t.isWide with
      | false =>
        simp only [hwide, Bool.false_eq_true, if_false] at h
        have hi : i < args.length := by omega
        have hrest := ih (i := i + 1) (by omega)
        rw [List.drop_eq_getElem_cons hi, List.getElem?_eq_getElem hi]
        simp only [Option.bind_some, hwide, Bool.false_eq_true, if_false, hrest, goOn_some, Check.ofExcept, bind,
          Except.bind]
      | true =>
        simp only [hwide, if_true] at h
        have hi : i + 1 < args.length := by omega
        have hrest := ih (i := i + 2) (by omega)
        rw [List.drop_eq_getElem_cons (Nat.lt_of_succ_lt hi), List.drop_eq_getElem_cons hi, List.getElem?_eq_getElem hi,
          List.getElem?_eq_getElem (Nat.lt_of_succ_lt hi)]
        simp only [Option.bind_some, hwide, if_true, hrest, goOn_some, Check.ofExcept, bind, Except.bind]

theorem checkArgumentsAt_eq (m : MethodRef) (args : List Reg) (hasReceiver : Bool) :
    checkArgumentsAt o s m args hasReceiver = some (s.checkArguments o m args hasReceiver) := by
  unfold checkArgumentsAt checkArguments
  dsimp only
  split
  · next hlen =>
    have hwidth : hasReceiver.toNat + m.params.foldr (·.width + ·) 0 = args.length := by
      rw [Nat.add_comm, hlen]
      rfl
    rw [checkParamsAt_eq hwidth, Check.require, if_pos (by simpa using hlen)]
    rfl
  · next hlen =>
    rw [Check.require, if_neg (by simpa using hlen)]
    rfl

end Dalvik.TypeState
