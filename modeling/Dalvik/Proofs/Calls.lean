import Dalvik.Proofs.Frame

/-!
# Calls and the states that callees start in

A call is checked against the parameters of a method by one walk over its argument registers, and the state at the
entry of the method is laid out by another one. The two agree (`Method.Agrees`): a call that passes its checks gives as
many registers as the method has incoming ones, and what is in the register at a position can be used as what the method
finds at that position. A wide value takes two neighbouring positions on both sides.
-/

namespace Dalvik

namespace Descriptor

/-- Where a parameter starts, after the ones before it. -/
def offset (ps : List Descriptor) (n : Nat) : Nat := (ps.take n).foldr (·.width + ·) 0

@[simp] theorem offset_zero (ps : List Descriptor) : offset ps 0 = 0 := rfl

@[simp] theorem offset_cons_succ (d : Descriptor) (ps : List Descriptor) (n : Nat) :
    offset (d :: ps) (n + 1) = d.width + offset ps n := rfl

end Descriptor

namespace TypeState
variable {o : ClassOracle} {s : TypeState} {r : Reg} {t : RegisterType} {ps : List Descriptor} {args : List Reg}
  {ts : List RegisterType}

/-- The register holds a value that can be used where the type is expected. -/
def Holds (o : ClassOracle) (s : TypeState) (r : Reg) (expected : RegisterType) : Prop :=
  ∃ t, s.type? r = some t ∧ t.isAssignable o expected = true

theorem type?_of_useWidth {wide : Bool} (h : s.useWidth wide r = .ok t) :
    ∀ r' ∈ Reg.span wide r, s.type? r' = some t := by
  unfold useWidth at h
  cases wide with
  | false =>
    intro r' hr'
    obtain rfl : r' = r := by simpa [Reg.span] using hr'
    exact (use_eq_ok.1 h).1
  | true =>
    simp only [if_true, usePair, bind_eq_ok, pure_eq_ok, require_eq_ok, Bool.and_eq_true] at h
    obtain ⟨low, hlow, high, hhigh, _, ⟨hsame, -⟩, rfl⟩ := h
    obtain ⟨hlow, hplain⟩ := use_eq_ok.1 hlow
    obtain rfl := RegisterType.eq_of_beq_of_plain hsame hplain
    intro r' hr'
    rcases Reg.mem_span_true.1 hr' with rfl | rfl
    · exact hlow
    · exact (use_eq_ok.1 hhigh).1

theorem holds_of_useTyped {u : Unit} (h : s.useTyped o r t = .ok u) : ∀ r' ∈ Reg.span t.isWide r, s.Holds o r' t := by
  simp only [useTyped, bind_eq_ok] at h
  obtain ⟨t', ht', h⟩ := h
  have hassignable : t'.isAssignable o t = true := by
    split at h
    · rw [bind_eq_ok] at h
      obtain ⟨_, -, h⟩ := h
      exact require_eq_ok.1 h
    · exact require_eq_ok.1 h
  exact fun r' hr' => ⟨t', type?_of_useWidth ht' r' hr', hassignable⟩

namespace Passed

/-- What is passed, register by register, can be used as what the parameters need. -/
theorem forall₂_holds (h : Passed o s ps args) (hts : ps.mapM RegisterType.ofDescriptor = .ok ts) :
    List.Forall₂ (s.Holds o) args (ts.flatMap argument) := by
  induction h generalizing ts with
  | nil =>
    obtain rfl : [] = ts := by simpa [pure_eq_ok] using hts
    exact .nil
  | @narrow d t r u ps args ht hw huse _ ih =>
    simp only [List.mapM_cons, bind_eq_ok, pure_eq_ok, ht] at hts
    obtain ⟨_, ⟨⟩, ts, hts, rfl⟩ := hts
    have hr := holds_of_useTyped huse r (Reg.mem_span _ r)
    simp only [List.flatMap_cons, argument, hw]
    exact .cons hr (ih hts)
  | @wide d t low u ps args ht hw huse _ ih =>
    simp only [List.mapM_cons, bind_eq_ok, pure_eq_ok, ht] at hts
    obtain ⟨_, ⟨⟩, ts, hts, rfl⟩ := hts
    have hpair := holds_of_useTyped huse
    rw [hw] at hpair
    simp only [List.flatMap_cons, argument, hw]
    exact .cons (hpair low (by simp [Reg.span])) (.cons (hpair _ (by simp [Reg.span])) (ih hts))

/-- A parameter is found where the ones before it end, on both sides. -/
theorem at_param (h : Passed o s ps args) (hts : ps.mapM RegisterType.ofDescriptor = .ok ts) {n : Nat} {d : Descriptor}
    (hd : ps[n]? = some d) :
    ∃ a t, RegisterType.ofDescriptor d = .ok t ∧ args[Descriptor.offset ps n]? = some a ∧
      (ts.flatMap argument)[Descriptor.offset ps n]? = some t ∧
      (d.isWide = true → args[Descriptor.offset ps n + 1]? = some (Reg.next a) ∧
        (ts.flatMap argument)[Descriptor.offset ps n + 1]? = some t) := by
  induction h generalizing ts n with
  | nil => simp at hd
  | @narrow d' t r u ps args ht hw huse _ ih =>
    simp only [List.mapM_cons, bind_eq_ok, pure_eq_ok, ht] at hts
    obtain ⟨_, ⟨⟩, ts, hts, rfl⟩ := hts
    have hargument : argument t = [t] := by rw [argument, hw]; rfl
    have hwidth : d'.width = 1 := by rw [← length_argument ht, hargument]; rfl
    cases n with
    | zero =>
      obtain rfl : d' = d := by simpa using hd
      refine ⟨r, t, ht, rfl, by simp [hargument], fun hd => ?_⟩
      rw [← isWide_ofDescriptor ht, hw] at hd
      cases hd
    | succ n =>
      obtain ⟨a, t', ht', ha, htype, hpair⟩ := ih hts (by simpa using hd)
      refine ⟨a, t', ht', ?_, ?_, fun hd => ?_⟩
      · simpa [hwidth, Nat.add_comm 1] using ha
      · simpa [hwidth, Nat.add_comm 1, hargument] using htype
      · simpa [hwidth, Nat.add_comm 1, hargument] using hpair hd
  | @wide d' t low u ps args ht hw huse _ ih =>
    simp only [List.mapM_cons, bind_eq_ok, pure_eq_ok, ht] at hts
    obtain ⟨_, ⟨⟩, ts, hts, rfl⟩ := hts
    have hargument : argument t = [t, t] := by rw [argument, hw]; rfl
    have hwidth : d'.width = 2 := by rw [← length_argument ht, hargument]; rfl
    cases n with
    | zero =>
      obtain rfl : d' = d := by simpa using hd
      exact ⟨low, t, ht, rfl, by simp [hargument], fun _ => ⟨rfl, by simp [hargument]⟩⟩
    | succ n =>
      obtain ⟨a, t', ht', ha, htype, hpair⟩ := ih hts (by simpa using hd)
      refine ⟨a, t', ht', ?_, ?_, fun hd => ?_⟩
      · simpa [hwidth, Nat.add_comm 2] using ha
      · simpa [hwidth, Nat.add_comm 2, hargument] using htype
      · simpa [hwidth, Nat.add_comm 2, hargument, Nat.add_right_comm _ 2 1] using hpair hd

end Passed
end TypeState

/-! ### Registers of the callee -/

/-- The first register that holds an argument. -/
def Code.firstArgument (c : Code) : Reg := c.registersSize - c.insSize

namespace Method

/-- The position of the first parameter among the incoming registers, after the receiver. -/
def firstParam (m : Method) : Nat := if m.isStatic then 0 else 1

/-- The position of a parameter among the incoming registers. -/
def position (m : Method) (n : Nat) : Nat := m.firstParam + Descriptor.offset m.descriptor.params n

end Method

namespace TypeState
variable {m : Method} {c : Code} {σ : TypeState} {ts : List RegisterType}

theorem type?_initial_local (h : initial m c = .ok σ) {r : Reg} (hr : r < c.firstArgument) :
    σ.type? r = some .unknown := by
  obtain ⟨-, -, -, ts, -, htypes⟩ := types_initial h
  rw [Code.firstArgument] at hr
  rw [type?_eq_types, htypes, List.getElem?_append_left (by simpa using hr), List.getElem?_replicate, if_pos hr]

theorem type?_initial_argument (h : initial m c = .ok σ)
    (hts : m.descriptor.params.mapM RegisterType.ofDescriptor = .ok ts) (j : Nat) :
    σ.type? (c.firstArgument + j) = (receiver m ++ ts.flatMap argument)[j]? := by
  obtain ⟨-, -, -, ts', hts', htypes⟩ := types_initial h
  cases hts.symm.trans hts'
  have hj : c.firstArgument + j - (List.replicate (c.registersSize - c.insSize) RegisterType.unknown).length = j := by
    simp [Code.firstArgument]
  rw [type?_eq_types, htypes, List.getElem?_append_right (by simp [Code.firstArgument]), hj]

theorem type?_initial_param (h : initial m c = .ok σ)
    (hts : m.descriptor.params.mapM RegisterType.ofDescriptor = .ok ts) (k : Nat) :
    σ.type? (c.firstArgument + (m.firstParam + k)) = (ts.flatMap argument)[k]? := by
  have hreceiver : (receiver m).length = m.firstParam := length_receiver m
  rw [type?_initial_argument h hts, List.getElem?_append_right (by omega), hreceiver, Nat.add_sub_cancel_left]

/-- Nothing but locals is unknown. -/
theorem type?_initial_eq_unknown (h : initial m c = .ok σ) {r : Reg} :
    σ.type? r = some .unknown ↔ r < c.firstArgument := by
  refine ⟨fun hr => ?_, type?_initial_local h⟩
  by_contra hlt
  obtain ⟨j, rfl⟩ := Nat.exists_eq_add_of_le (Nat.le_of_not_lt hlt)
  obtain ⟨-, -, -, ts, hts, -⟩ := types_initial h
  rw [type?_initial_argument h hts] at hr
  rcases List.mem_append.1 (List.mem_of_getElem? hr) with hmem | hmem
  · unfold receiver at hmem
    split at hmem
    · simp at hmem
    · split at hmem <;> simp at hmem
  · have hplain := (arguments_of_params hts).2 _ hmem
    cases hplain

end TypeState

/-! ### Agreement -/

namespace Method

/-- What a caller has in the argument registers is what the method starts with. -/
structure Agrees (o : ClassOracle) (m : Method) (c : Code) (caller callee : TypeState) (args : List Reg) : Prop where
  arity : args.length = c.insSize
  size : callee.size = c.registersSize
  locals : ∀ r : Reg, callee.type? r = some .unknown ↔ r < c.firstArgument
  /-- Every register of the parameters can be used as what it is in the method. -/
  values : ∀ j a, m.firstParam ≤ j → args[j]? = some a →
    ∃ t, callee.type? (c.firstArgument + j) = some t ∧ caller.Holds o a t
  /-- Parameters are found at their positions; a wide one takes two, and neighbouring registers of the caller. -/
  params : ∀ n d, m.descriptor.params[n]? = some d → ∃ a t, RegisterType.ofDescriptor d = .ok t ∧
    args[m.position n]? = some a ∧ callee.type? (c.firstArgument + m.position n) = some t ∧
    (d.isWide = true → args[m.position n + 1]? = some (Reg.next a) ∧
      callee.type? (c.firstArgument + m.position n + 1) = some t)
  receiver : m.isStatic = false → m.isConstructor = false → ∃ a, args[0]? = some a ∧
    callee.type? c.firstArgument = some (.reference m.descriptor.definer) ∧
    caller.Holds o a (.reference m.descriptor.definer)

variable {m : Method} {c : Code} {o : ClassOracle} {s σ : TypeState} {kind : InvokeKind} {args : List Reg} {e : Effect}

theorem hasReceiver_toNat (hkind : kind = .static ↔ m.isStatic = true) : kind.hasReceiver.toNat = m.firstParam := by
  unfold firstParam
  cases hstatic : m.isStatic with
  | true => rw [hkind.2 hstatic]; rfl
  | false =>
    have hne : kind ≠ .static := fun hk => by simp [hkind.1 hk] at hstatic
    cases kind <;> first | rfl | exact absurd rfl hne

/-- The receiver of a call of a method that is no constructor is a value of the class that defines it. -/
theorem holds_receiver (hkind : kind = .static ↔ m.isStatic = true) (hstatic : m.isStatic = false)
    (hctor : m.isConstructor = false) (h : Instr.Called o s kind m.descriptor args e) :
    ∃ a, args[0]? = some a ∧ s.Holds o a (.reference m.descriptor.definer) := by
  have hname : m.descriptor.isConstructor = false := by simpa [isConstructor, hstatic] using hctor
  cases h with
  | free args hk =>
    have hone := hasReceiver_toNat hkind
    simp [hk, firstParam, hstatic] at hone
  | constructor rest hd hname' =>
    rw [hname] at hname'
    cases hname'
  | @method a rest u hk hnot huse =>
    exact ⟨a, rfl, TypeState.holds_of_useTyped huse a (Reg.mem_span _ a)⟩

/-- A call that passes the checks agrees with the method that is called. -/
theorem call_agrees_with_initial {ctx : Context} {sites : AllocationSites} {i : LabeledInstr}
    (hσ : TypeState.initial m c = .ok σ) (hi : i.instr = .invoke kind m.descriptor args)
    (hkind : kind = .static ↔ m.isStatic = true) (hfail : (ctx.transfer sites s i).failure = none)
    (hv : (ctx.transfer sites s i).violation = none) : m.Agrees ctx.oracle c s σ args := by
  obtain ⟨e, he, -, -⟩ := Context.applies_of_violation hfail hv
  rw [hi] at he
  obtain ⟨⟨u, hargs⟩, hcalled⟩ := Instr.invoke_eq_ok he
  obtain ⟨hlen, hpassed⟩ := TypeState.passed_of_checkArguments hargs
  rw [hasReceiver_toNat hkind] at hlen hpassed
  obtain ⟨hins, -, -, ts, hts, htypes⟩ := TypeState.types_initial hσ
  -- both sides are lists over the same parameters, shifted by the receiver and, in the callee, by the locals
  refine ⟨hlen.trans hins, ?_, fun r => TypeState.type?_initial_eq_unknown hσ, fun j a hj ha => ?_, fun n d hd => ?_,
    fun hstatic hctor => ?_⟩
  · exact TypeState.size_initial hσ
  · obtain ⟨k, rfl⟩ := Nat.exists_eq_add_of_le hj
    rw [← List.getElem?_drop] at ha
    rw [TypeState.type?_initial_param hσ hts]
    have hholds := hpassed.forall₂_holds hts
    obtain ⟨hk, rfl⟩ := List.getElem?_eq_some_iff.1 ha
    have hk' := hholds.length_eq ▸ hk
    exact ⟨_, List.getElem?_eq_getElem hk', hholds.get hk hk'⟩
  · obtain ⟨a, t, ht, ha, htype, hpair⟩ := hpassed.at_param hts hd
    rw [List.getElem?_drop] at ha hpair
    rw [← TypeState.type?_initial_param hσ hts] at htype hpair
    exact ⟨a, t, ht, ha, htype, hpair⟩
  · obtain ⟨a, ha, hholds⟩ := holds_receiver hkind hstatic hctor hcalled
    refine ⟨a, ha, ?_, hholds⟩
    have htype := TypeState.type?_initial_argument hσ hts 0
    simpa [TypeState.receiver, hstatic, hctor] using htype

end Method

/-! Arguments of all widths, which the caller does not have in the order of the parameters. -/

def feedingCode : Code := .ofInstrs 1 7 .returnVoid []

def feedingMethod : Method where
  descriptor := ⟨.object "Kennel", "feed", [.prim .int, .prim .long, .object "Dog", .prim .double], .void⟩
  flags := 0
  code := some feedingCode

def feedingInitial : TypeState :=
  { slots := #[⟨.unknown, none⟩, ⟨.reference (.object "Kennel"), none⟩, ⟨.primitive .int, none⟩,
      ⟨.primitive .long, none⟩, ⟨.primitive .long, none⟩, ⟨.reference (.object "Dog"), none⟩,
      ⟨.primitive .double, none⟩, ⟨.primitive .double, none⟩]
    expected := none }

def feederState : TypeState :=
  { slots := #[⟨.primitive .byte, none⟩, ⟨.wideLiteral, none⟩, ⟨.wideLiteral, none⟩, ⟨.primitive .double, none⟩,
      ⟨.primitive .double, none⟩, ⟨.null, none⟩, ⟨.reference (.object "Kennel"), none⟩]
    expected := none }

def callsFeed : LabeledInstr := .plain 0 3 (.invoke .virtual feedingMethod.descriptor [6, 0, 1, 2, 5, 3, 4])

theorem call_agrees_with_initial_feed :
    TypeState.initial feedingMethod feedingCode = .ok feedingInitial ∧
      (shelter.transfer {} feederState callsFeed).failure = none ∧
      (shelter.transfer {} feederState callsFeed).violation = none ∧
      feedingMethod.Agrees shelter.oracle feedingCode feederState feedingInitial [6, 0, 1, 2, 5, 3, 4] := by
  have hinitial : TypeState.initial feedingMethod feedingCode = .ok feedingInitial := by cbv
  have hfail : (shelter.transfer {} feederState callsFeed).failure = none := by cbv
  have hv : (shelter.transfer {} feederState callsFeed).violation = none := by cbv
  exact ⟨hinitial, hfail, hv, Method.call_agrees_with_initial hinitial rfl (by decide) hfail hv⟩

end Dalvik
