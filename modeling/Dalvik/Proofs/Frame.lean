import Dalvik.Proofs.PostFixpoint
import Dalvik.Proofs.PseudoRegisters
import Dalvik.Proofs.Termination

/-!
# What an instruction leaves alone

An instruction changes its destination, and empties the pseudo-registers before it leaves a result. Two instructions
reach further when nothing is wrong with them: an allocation puts the older objects of its site in conflict, and a
constructor makes a reference of every copy of the object it runs on. Recovery after a complaint never does, but it may
write a register more than the instruction names: a field of a wide type is written as a pair even when the access is
narrow (`Instr.overhang?`). All this is said of one transfer in `Context.framed_transfer`.

A constructor that is called directly runs on a pending object, of which no copy is left afterwards. A call of another
kind is checked as one of an ordinary method, so the receiver of a constructor is then no pending object
(`Context.receiver_isPending_iff`).
-/

namespace Dalvik

namespace Instr

/-- The register after the destination of a narrow access to a wide field. -/
def overhang? : Instr → Option Reg
  | iget access dst _ field | sget access dst field =>
    if field.type.isWide && !access.isWide then some (Reg.next dst) else none
  | _ => none

/-- The registers that an instruction writes, or that are written when it is wrong. -/
def destination : Instr → List Reg
  | checkCast r _ => [r]
  | i => i.writes ++ i.overhang?.toList

theorem writes_subset (i : Instr) : i.writes ⊆ i.destination := by
  unfold destination
  split
  · exact List.nil_subset _
  · exact List.subset_append_left _ _

theorem writes_recovery (i : Instr) : i.recovery.writes ⊆ i.destination := by
  cases i with
  | aget access => cases access <;> simp [recovery, Access.kind?, Effect.writes, destination, writes, Reg.span,
      Access.isWide]
  | iget access dst _ field | sget access dst field =>
    rw [recovery, Effect.writes_writeTyped, RegisterType.isWide_declared]
    cases hfield : field.type.isWide <;> cases haccess : access.isWide <;>
      simp [destination, writes, overhang?, Reg.span, hfield, haccess]
  | convert dst src source target =>
    rw [recovery, Effect.writes_writeTyped, RegisterType.isWide_declared]
    exact List.subset_append_left _ _
  | unary op kind | binary op kind =>
    rw [recovery, Effect.writes_writeTyped]
    exact List.subset_append_left _ _
  | _ => simp [recovery, Effect.writes, destination, writes]

variable {o : ClassOracle} {s : TypeState} {i : Instr} {e : Effect} {r : Reg}

/-- A narrow access to a wide field does not pass. -/
theorem overhang?_of_effect (h : i.effect o s = .ok e) : i.overhang? = none := by
  have hwide {access : Access} {d : Descriptor} {t : RegisterType} (hfits : access.fits d = true)
      (ht : RegisterType.ofDescriptor d = .ok t) : d.isWide = access.isWide :=
    (TypeState.isWide_ofDescriptor ht).symm.trans (Access.isWide_of_fits hfits ht)
  cases i with
  | iget access dst object field =>
    simp only [effect, bind_eq_ok, TypeState.require_eq_ok, TypeState.declaredType_eq_ok] at h
    obtain ⟨_, hfits, _, -, t, ht, -⟩ := h
    simp [overhang?, hwide hfits ht]
  | sget access dst field =>
    simp only [effect, bind_eq_ok, TypeState.require_eq_ok, TypeState.declaredType_eq_ok] at h
    obtain ⟨_, hfits, t, ht, -⟩ := h
    simp [overhang?, hwide hfits ht]
  | _ => rfl

/-- A cast that is recovered from gives its type to the register that it reads. -/
theorem mem_destination (h : r ∈ i.destination) : r ∈ i.reads ++ i.writes ∨ i.overhang? = some r := by
  unfold destination at h
  split at h
  · exact .inl h
  · rcases List.mem_append.1 h with h | h
    · exact .inl (List.mem_append_right _ h)
    · exact .inr (Option.mem_toList.1 h)

end Instr

/-- What becomes of a type in a register that the effect does not write, at a place that allocates these objects. -/
def Effect.spread (allocated : Descriptor → RegisterType) : Effect → RegisterType → RegisterType
  | allocate _ type, t => if t == allocated type then .conflict else t
  | construct object type _, t => if t == object then .reference type else t
  | _, t => t

/-- Whether the instruction changes copies of an object in other registers. -/
def Action.spreads : Action → Bool
  | allocate .. | construct _ => true
  | copy .. | overwrite => false

theorem Action.Effects.spread_eq_id {s : TypeState} {a : Action} {e : Effect} (h : a.Effects s e)
    (ha : a.spreads = false) (allocated : Descriptor → RegisterType) : e.spread allocated = id := by
  cases h with
  | allocate | construct => cases ha
  | _ => rfl

theorem Instr.spread_recovery (i : Instr) (allocated : Descriptor → RegisterType) :
    i.recovery.spread allocated = id := by
  have htyped : ∀ r t, (Effect.writeTyped r t).spread allocated = id := by
    intro r t
    unfold Effect.writeTyped
    split <;> rfl
  cases i with
  | aget access => cases access <;> rfl
  | iget | sget | unary | binary | convert => exact htyped _ _
  | _ => rfl

namespace Context
variable {ctx : Context} {sites : AllocationSites} {s : TypeState} {pc : Address} {e : Effect} {r : Reg}
  {i : LabeledInstr}

theorem type?_perform (h : (ctx.perform sites pc s e).failure = none) (hr : r ∉ e.writes) :
    (ctx.perform sites pc s e).state.type? r = (s.type? r).map (e.spread (ctx.allocated sites pc)) := by
  have hid : s.type? r = (s.type? r).map id := (congrFun Option.map_id_fun _).symm
  cases e with
  | skip | yield => exact hid
  | write r' t =>
    have htype := (TypeState.write_eq_ok h).2 r
    rw [if_neg fun hr' => hr (List.mem_singleton.2 hr')] at htype
    exact htype.trans hid
  | writePair r' t => exact ((TypeState.writePair_eq_ok h).2 r).trans ((if_neg hr).trans hid)
  | allocate dst type =>
    have htype := (TypeState.write_eq_ok h).2 r
    rw [if_neg fun hr' => hr (List.mem_singleton.2 hr')] at htype
    exact htype.trans (s.type?_replace _ _ r)
  | construct object type result => exact s.type?_replace _ _ r

/-! ### The frame of a transfer -/

/-- What an instruction leaves alone, and what becomes of the rest. -/
structure Framed (ctx : Context) (sites : AllocationSites) (s : TypeState) (i : LabeledInstr) (t : Transfer) : Prop
    where
  size : t.state.size = s.size
  expected : t.state.expected = s.expected
  exception : t.state.exception = none
  result : t.state.result.isSome = i.instr.leavesResult
  kept : t.violation ≠ none ∨ i.instr.action.spreads = false →
    ∀ r ∉ i.instr.destination, t.state.type? r = s.type? r
  /-- An object of the same site that was allocated before is not told apart from the new one. -/
  allocated : t.violation = none → ∀ dst type, i.instr = .newInstance dst type → ∀ r, r ≠ dst →
    t.state.type? r = (s.type? r).map fun u => if u == ctx.allocated sites i.address type then .conflict else u
  /-- All copies of the object are constructed at once. -/
  constructed : t.violation = none → ∀ m receiver args, i.instr = .invoke .direct m (receiver :: args) →
    m.isConstructor = true → ∃ object type, s.type? receiver = some object ∧ object.pendingType? = some type ∧
      ∀ r, t.state.type? r = (s.type? r).map fun u => if u == object then .reference type else u

theorem isSome_transfer (q : Pseudo) (h : (ctx.transfer sites s i).failure = none) :
    (q.get (ctx.transfer sites s i).state).isSome = q.filledBy i.instr .sequence := by
  have hperforms : ctx.Performs ⟨i, s, (ctx.transfer sites s i).state, (ctx.transfer sites s i).violation⟩ :=
    ⟨sites, h, rfl, rfl⟩
  exact hperforms.isSome_after rfl

theorem type?_transfer (h : (ctx.transfer sites s i).failure = none)
    (hspread : (ctx.transfer sites s i).violation ≠ none ∨ i.instr.action.spreads = false)
    (hr : r ∉ i.instr.destination) : (ctx.transfer sites s i).state.type? r = s.type? r := by
  obtain ⟨e, hfail, hstate, ⟨he, hnone⟩ | ⟨rfl, -⟩⟩ := applies_of_failure h
  · have hchecked := Instr.checked_of_effect he
    have haction : i.instr.action.spreads = false := hspread.resolve_left fun hne => hne hnone
    have hwrites : r ∉ e.writes := fun hmem => hr (i.instr.writes_subset (hchecked.writes ▸ hmem))
    rw [hstate, type?_perform hfail hwrites, hchecked.action.spread_eq_id haction, Option.map_id_fun]
    rfl
  · rw [hstate, type?_perform hfail fun hmem => hr (i.instr.writes_recovery hmem), Instr.spread_recovery,
      Option.map_id_fun]
    rfl

theorem framed_transfer (h : (ctx.transfer sites s i).failure = none) :
    ctx.Framed sites s i (ctx.transfer sites s i) where
  size := congrArg Prod.fst (frame_transfer i)
  expected := congrArg Prod.snd (frame_transfer i)
  exception := Option.isNone_iff_eq_none.1 (Option.isSome_eq_false_iff.1 (isSome_transfer .exception h))
  result := (isSome_transfer .result h).trans (Bool.and_true _)
  kept hspread r hr := type?_transfer h hspread hr
  allocated hv dst type hi r hr := by
    obtain ⟨e, he, hfail, hstate⟩ := applies_of_violation h hv
    rw [hi] at he
    simp only [Instr.effect, bind_eq_ok, pure_eq_ok] at he
    obtain ⟨_, -, rfl⟩ := he
    rw [hstate]
    exact type?_perform hfail (by simpa [Effect.writes] using hr)
  constructed hv m receiver args hi hm := by
    obtain ⟨e, he, hfail, hstate⟩ := applies_of_violation h hv
    rw [hi] at he
    cases (Instr.invoke_eq_ok he).2 with
    | free _ hk => cases hk
    | method _ _ hctor => exact absurd ⟨rfl, hm⟩ hctor
    | @constructor _ _ object type _ _ hx =>
      obtain ⟨hobject, htype⟩ := TypeState.constructed_eq_ok hx
      refine ⟨object, type, hobject, htype, fun r => ?_⟩
      rw [hstate]
      exact type?_perform hfail (by simp [Effect.writes])

end Context

/-! A dog is allocated where another one was that is still pending. -/

def shelter : Context := ⟨.flat, ⟨.object "Shelter", "open", [], .void⟩⟩

def pendingDog : RegisterType := shelter.allocated {} 0 (.object "Dog")

def shelterState (t : RegisterType) : TypeState := { slots := #[⟨t, none⟩, ⟨t, none⟩], expected := none }

def allocatesDog : LabeledInstr := .plain 0 2 (.newInstance 0 (.object "Dog"))

theorem framed_transfer_dog :
    (shelter.transfer {} (shelterState pendingDog) allocatesDog).violation = none ∧
      (shelter.transfer {} (shelterState pendingDog) allocatesDog).failure = none ∧
      shelter.Framed {} (shelterState pendingDog) allocatesDog
        (shelter.transfer {} (shelterState pendingDog) allocatesDog) := by
  have hfail : (shelter.transfer {} (shelterState pendingDog) allocatesDog).failure = none := by cbv
  exact ⟨by cbv, hfail, Context.framed_transfer hfail⟩

/-! ### Receivers of constructors -/

theorem RegisterType.not_beq_of_plain {t object : RegisterType} (ht : t.content = .plain)
    (hobject : object.isPending = true) : ¬ (t == object) = true := by
  intro heq
  rw [isPending_of_plain ((content_eq_of_beq heq).symm.trans ht)] at hobject
  cases hobject

namespace TypeState
variable {s : TypeState} {t : RegisterType}

theorem copies_eq_zero (htypes : ∀ r u, s.type? r = some u → ¬ (u == t) = true)
    (hresult : ∀ u, s.result = some u → ¬ (u == t) = true)
    (hexception : ∀ u, s.exception = some u → ¬ (u == t) = true) : s.copies t = 0 := by
  rw [copies, List.countP_eq_zero]
  intro u hu
  rw [List.mem_append, List.mem_append, Option.mem_toList, Option.mem_toList] at hu
  rcases hu with (hu | hu) | hu
  · obtain ⟨r, hr⟩ := List.mem_iff_getElem?.1 hu
    exact htypes r u ((s.type?_eq_types r).trans hr)
  · exact hresult u hu
  · exact hexception u hu

end TypeState

namespace Context
variable {ctx : Context} {sites : AllocationSites} {s : TypeState} {i : LabeledInstr}

/-- No copy of an object is pending after its constructor has run. -/
theorem copies_construct {pc : Address} {object : RegisterType} {type : Descriptor} {result : Option RegisterType}
    (hobject : object.isPending = true) (hresult : ∀ u, result = some u → u.content = .plain) :
    (ctx.perform sites pc s.clearPseudo (.construct object type result)).state.copies object = 0 := by
  refine TypeState.copies_eq_zero (fun r u hu => ?_) (fun u hu => ?_) fun u hu => ?_
  · have htype := s.clearPseudo.type?_replace object (.reference type) r
    obtain ⟨v, -, rfl⟩ := Option.map_eq_some_iff.1 (htype.symm.trans hu)
    split
    · exact RegisterType.not_beq_of_plain rfl hobject
    · assumption
  · exact RegisterType.not_beq_of_plain (hresult u hu) hobject
  · cases hu

/-- A constructor is accepted on a pending object when it is called directly, and on other objects when it is not. -/
theorem receiver_isPending_iff {kind : InvokeKind} {m : MethodRef} {args : List Reg}
    (hi : i.instr = .invoke kind m args) (hk : kind.hasReceiver = true) (hm : m.isConstructor = true)
    (hfail : (ctx.transfer sites s i).failure = none) (hv : (ctx.transfer sites s i).violation = none) :
    ∃ receiver rest object, args = receiver :: rest ∧ s.type? receiver = some object ∧
      (object.isPending = true ↔ kind = .direct) ∧
      (kind = .direct → (ctx.transfer sites s i).state.copies object = 0) := by
  obtain ⟨e, he, -, hstate⟩ := applies_of_violation hfail hv
  rw [hi] at he
  rw [hstate]
  cases (Instr.invoke_eq_ok he).2 with
  | free _ hfree => rw [hk] at hfree; cases hfree
  | @constructor receiver rest object type hd _ hx =>
    obtain ⟨hobject, htype⟩ := TypeState.constructed_eq_ok hx
    have hpending := RegisterType.isPending_of_pendingType? htype
    refine ⟨receiver, rest, object, rfl, hobject, iff_of_true hpending hd, fun _ => copies_construct hpending ?_⟩
    exact fun u hu => RegisterType.content_ofDescriptor (RegisterType.ofResult_eq_some.1 hu)
  | @method receiver rest _ _ hctor huse =>
    have hd : kind ≠ .direct := fun hd => hctor ⟨hd, hm⟩
    obtain ⟨object, hobject, hplain⟩ := TypeState.ready_of_useTyped huse receiver (Reg.mem_span _ _)
    have hpending : ¬ object.isPending = true := Bool.eq_false_iff.1 (RegisterType.isPending_of_plain hplain)
    exact ⟨receiver, rest, object, rfl, hobject, iff_of_false hpending hd, fun h => absurd h hd⟩

end Context

def constructsDog (kind : InvokeKind) : LabeledInstr :=
  .plain 2 5 (.invoke kind ⟨.object "Dog", "<init>", [], .void⟩ [0])

theorem receiver_isPending_dog :
    (shelter.transfer {} (shelterState pendingDog) (constructsDog .direct)).violation = none ∧
      pendingDog.isPending = true ∧
      (shelter.transfer {} (shelterState pendingDog) (constructsDog .direct)).state.copies pendingDog = 0 := by
  have hfail : (shelter.transfer {} (shelterState pendingDog) (constructsDog .direct)).failure = none := by cbv
  have hv : (shelter.transfer {} (shelterState pendingDog) (constructsDog .direct)).violation = none := by cbv
  obtain ⟨receiver, rest, object, hargs, hobject, hpending, hcopies⟩ :=
    Context.receiver_isPending_iff rfl rfl rfl hfail hv
  cases hargs
  cases hobject
  exact ⟨hv, hpending.2 rfl, hcopies rfl⟩

/-- A virtual call of a constructor passes on a dog that was constructed before. -/
theorem constructor_passes_twice :
    (shelter.transfer {} (shelterState (.reference (.object "Dog"))) (constructsDog .virtual)).failure = none ∧
      (shelter.transfer {} (shelterState (.reference (.object "Dog"))) (constructsDog .virtual)).violation = none ∧
      ∀ object, (shelterState (.reference (.object "Dog"))).type? 0 = some object → object.isPending = false := by
  refine ⟨by cbv, by cbv, fun object hobject => ?_⟩
  cases hobject
  rfl

end Dalvik
