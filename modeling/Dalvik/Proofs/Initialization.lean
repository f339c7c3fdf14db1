import Dalvik.Proofs.Path

/-!
# Initialization of objects

While the code runs along a path, registers hold objects on which no constructor has run (`Objects`). The states only
know the allocation of a pending object, and an allocation in a loop makes many; what keeps the two together is that a
register whose type is a pending object holds the *latest* object of its allocation (`Objects.Agrees`). An allocation
puts older objects of the same site in conflict, and a constructor that runs on the latest object is known to run on all
its copies and on nothing else.

The invariant (`Tracks`) speaks of assigned registers only: an unassigned register may have any type, see
`Dalvik.Proofs.Assignment`. It is kept along paths that read assigned registers only, and gives the discipline of
initialization (`Objects.Discipline`) at every point of such a path.
-/

namespace Dalvik

/-- An object that starts out pending. -/
inductive Obj where
  | receiver
  /-- The object that the allocation at `pc` has made after `serial` others. -/
  | allocated (pc : Address) (type : Descriptor) (serial : Nat)
deriving DecidableEq

/-- The receiver of a constructor is pending at first, except in the one of `java.lang.Object`. -/
def Method.receiverPending (m : Method) : Bool := m.isConstructor && m.descriptor.definer ≠ .javaLangObject

structure Objects where
  held : Reg → Option Obj
  /-- How many objects the allocation at an address has made. -/
  count : Address → Nat
  /-- The objects on which a constructor has run. -/
  constructed : List Obj

namespace Objects

def pending? (h : Objects) (r : Reg) : Option Obj := (h.held r).filter (· ∉ h.constructed)

/-- Only a pending receiver is there at first, in the first register of the arguments. -/
def initial (m : Method) (c : Code) : Objects where
  held r := if m.receiverPending ∧ r = c.registersSize - c.insSize then some .receiver else none
  count _ := 0
  constructed := []

def allocate (h : Objects) (pc : Address) (dst : Reg) (type : Descriptor) : Objects :=
  { h with
    held r := if r = dst then some (.allocated pc type (h.count pc)) else h.held r
    count pc' := if pc' = pc then h.count pc + 1 else h.count pc' }

def copy (h : Objects) (dst src : Reg) : Objects := { h with held r := h.held (if r = dst then src else r) }

def construct (h : Objects) (receiver : Reg) : Objects :=
  { h with constructed := (h.held receiver).toList ++ h.constructed }

def overwrite (h : Objects) (rs : List Reg) : Objects := { h with held r := if r ∈ rs then none else h.held r }

/-- What an instruction does to the objects, when it is not interrupted. -/
def act (h : Objects) (i : LabeledInstr) : Objects :=
  match i.instr.action with
  | .allocate dst type => h.allocate i.address dst type
  | .copy dst src => h.copy dst src
  | .construct receiver => h.construct receiver
  | .overwrite => h.overwrite i.instr.writes

def after (m : Method) (c : Code) : List Move → Objects
  | [] => initial m c
  | move :: moves => if move.raised then after m c moves else (after m c moves).act move.instr

variable {h : Objects} {r : Reg} {x : Obj}

theorem pending?_eq_some : h.pending? r = some x ↔ h.held r = some x ∧ x ∉ h.constructed := by
  simp [pending?, Option.filter_eq_some_iff]

theorem pending?_eq_none : h.pending? r = none ↔ ∀ x, h.held r = some x → x ∈ h.constructed := by
  simp [pending?, Option.filter_eq_none_iff]

theorem pending?_allocate_of_ne (h : Objects) {pc : Address} {dst : Reg} {type : Descriptor} (hr : r ≠ dst) :
    (h.allocate pc dst type).pending? r = h.pending? r := by
  have hheld : (h.allocate pc dst type).held r = h.held r := if_neg hr
  rw [pending?, hheld]
  rfl

theorem pending?_copy (h : Objects) (dst src r : Reg) :
    (h.copy dst src).pending? r = h.pending? (if r = dst then src else r) := rfl

theorem pending?_overwrite (h : Objects) (rs : List Reg) (r : Reg) :
    (h.overwrite rs).pending? r = if r ∈ rs then none else h.pending? r := by
  simp only [overwrite, pending?]
  split <;> rfl

/-- A constructor leaves the copies of one object constructed, and nothing else changes. -/
theorem pending?_construct {receiver : Reg} (hx : h.pending? receiver = some x) :
    (h.construct receiver).pending? r = if h.pending? r = some x then none else h.pending? r := by
  obtain ⟨hheld, -⟩ := pending?_eq_some.1 hx
  have hmem : ∀ y, y ∈ (h.construct receiver).constructed ↔ y = x ∨ y ∈ h.constructed := by
    simp [construct, hheld]
  split
  · next hr =>
    rw [pending?_eq_none]
    intro y hy
    exact (hmem y).2 (.inl (Option.some.inj (hy.symm.trans (pending?_eq_some.1 hr).1)))
  · next hr =>
    cases hp : h.pending? r with
    | none =>
      rw [pending?_eq_none] at hp ⊢
      exact fun y hy => (hmem y).2 (.inr (hp y hy))
    | some y =>
      rw [hp, Option.some.injEq] at hr
      rw [pending?_eq_some] at hp ⊢
      exact ⟨hp.1, fun hy => ((hmem y).1 hy).elim hr hp.2⟩

theorem held_act {i : LabeledInstr} (hx : (h.act i).held r = some x) :
    (r ∈ i.instr.writes ∨ h.held r = some x) ∧
      ((∃ r', h.held r' = some x) ∨
        ∃ dst type, i.instr = .newInstance dst type ∧ x = .allocated i.address type (h.count i.address)) := by
  cases hact : i.instr.action with
  | allocate dst type =>
    rw [act, hact] at hx
    have hi := Instr.eq_newInstance_of_action hact
    by_cases hr : r = dst
    · have hnew : some (Obj.allocated i.address type (h.count i.address)) = some x := (if_pos hr).symm.trans hx
      exact ⟨.inl (by simp [hi, Instr.writes, hr]), .inr ⟨dst, type, hi, (Option.some.inj hnew).symm⟩⟩
    · have hheld : h.held r = some x := (if_neg hr).symm.trans hx
      exact ⟨.inr hheld, .inl ⟨r, hheld⟩⟩
  | copy dst src =>
    rw [act, hact] at hx
    have hheld : h.held (if r = dst then src else r) = some x := hx
    refine ⟨?_, .inl ⟨_, hheld⟩⟩
    by_cases hr : r = dst
    · exact .inl (by simp [Instr.eq_moveObject_of_action hact, Instr.writes, hr])
    · rw [if_neg hr] at hheld
      exact .inr hheld
  | construct receiver =>
    rw [act, hact] at hx
    exact ⟨.inr hx, .inl ⟨r, hx⟩⟩
  | overwrite =>
    rw [act, hact] at hx
    by_cases hr : r ∈ i.instr.writes
    · cases (if_pos hr).symm.trans hx
    · have hheld : h.held r = some x := (if_neg hr).symm.trans hx
      exact ⟨.inr hheld, .inl ⟨r, hheld⟩⟩

/-- No object of the same allocation is younger. -/
def Latest (h : Objects) : Obj → Prop
  | .receiver => True
  | .allocated pc _ serial => serial + 1 = h.count pc

/-- Only allocations make objects older. -/
theorem latest_congr {h' : Objects} (hcount : h'.count = h.count) : h'.Latest x ↔ h.Latest x := by
  cases x with
  | receiver => rfl
  | allocated => rw [Latest, Latest, hcount]

end Objects

/-- What the states know of an object. -/
def Obj.content (m : MethodRef) : Obj → Content
  | receiver => .receiver m.definer
  | allocated pc type _ => .object ⟨m, pc⟩ type

namespace Obj
variable {h : Objects} {m : MethodRef} {x y : Obj}

/-- Of the objects that the states do not tell apart, only one is the latest. -/
theorem eq_of_content (hx : h.Latest x) (hy : h.Latest y) (heq : x.content m = y.content m) : x = y := by
  cases x with
  | receiver => cases y with
    | receiver => rfl
    | allocated => cases heq
  | allocated pc type serial => cases y with
    | receiver => cases heq
    | allocated pc' type' serial' =>
      simp only [content, Content.object.injEq, AllocationSite.mk.injEq, true_and] at heq
      obtain ⟨rfl, rfl⟩ := heq
      simp only [Objects.Latest] at hx hy
      congr 1
      omega

theorem content_ne_nothing (x : Obj) : x.content m ≠ .nothing := by cases x <;> simp [content]

theorem content_ne_plain (x : Obj) : x.content m ≠ .plain := by cases x <;> simp [content]

theorem content_ne_lost (x : Obj) : x.content m ≠ .lost := by cases x <;> simp [content]

end Obj

namespace Objects

/-- The content that a type gives to an assigned register fits the object in it. -/
inductive Agrees (m : MethodRef) (h : Objects) (r : Reg) : Content → Prop
  | lost : Agrees m h r .lost
  | plain : h.pending? r = none → Agrees m h r .plain
  | pending {x : Obj} : h.pending? r = some x → h.Latest x → Agrees m h r (x.content m)

namespace Agrees
variable {m : MethodRef} {h h' : Objects} {r r' : Reg} {a b : Content}

theorem ne_nothing (ha : h.Agrees m r a) : a ≠ .nothing := by
  cases ha with
  | lost => simp
  | plain => simp
  | pending => exact Obj.content_ne_nothing _

theorem le (ha : h.Agrees m r a) (hle : a.Le b) : h.Agrees m r b := by
  rcases hle.ne_nothing ha.ne_nothing with rfl | rfl
  · exact ha
  · exact .lost

/-- Agreement depends on the pending object and on the allocations of its site only. -/
theorem congr (ha : h.Agrees m r a) (hp : h'.pending? r' = h.pending? r)
    (hl : ∀ x, h.pending? r = some x → a = x.content m → h.Latest x → h'.Latest x) : h'.Agrees m r' a := by
  cases ha with
  | lost => exact .lost
  | plain hn => exact .plain (hp.trans hn)
  | pending hx hlat => exact .pending (hp.trans hx) (hl _ hx rfl hlat)

theorem exists_pending {t : RegisterType} (ha : h.Agrees m r t.content) (ht : t.isPending = true) :
    ∃ x, h.pending? r = some x ∧ h.Latest x ∧ t.content = x.content m := by
  generalize hc : t.content = c at ha
  cases ha with
  | lost => rw [RegisterType.content_eq_lost.1 hc] at ht; cases ht
  | plain => cases t <;> simp_all [RegisterType.isPending, RegisterType.content]
  | pending hx hlat => exact ⟨_, hx, hlat, rfl⟩

end Agrees
end Objects

/-- The state recorded on a path fits the objects in registers. -/
structure Tracks (m : MethodRef) (c : Code) (moves : List Move) (h : Objects) (s : TypeState) : Prop where
  assigned : ∀ r, c.Assigned moves r → ∃ a, s.content? r = some a ∧ h.Agrees m r a
  held : ∀ r x, h.held r = some x → c.Assigned moves r
  /-- Objects come from the allocations of the code. -/
  origin : ∀ r pc type serial, h.held r = some (.allocated pc type serial) →
    ∃ i ∈ c.instrs, i.address = pc ∧ ∃ dst, i.instr = .newInstance dst type
  /-- Objects yet to come are not constructed. -/
  fresh : ∀ pc type serial, .allocated pc type serial ∈ h.constructed → serial < h.count pc
  catches : s.CatchesValue

namespace Tracks
variable {o : ClassOracle} {m : MethodRef} {c : Code} {moves : List Move} {h : Objects} {s s' : TypeState} {b : Branch}

theorem flowsInto (ht : Tracks m c moves h s) (hf : s.FlowsInto o s') : Tracks m c moves h s' where
  assigned r hr := by
    obtain ⟨a, ha, hagrees⟩ := ht.assigned r hr
    obtain ⟨t, htype, rfl⟩ := TypeState.content?_eq_some.1 ha
    obtain ⟨t', htype', hle⟩ := hf.contents.exists_type? htype
    exact ⟨_, TypeState.content?_eq_some.2 ⟨t', htype', rfl⟩, hagrees.le hle⟩
  held := ht.held
  origin := ht.origin
  fresh := ht.fresh
  catches := hf.catchesValue ht.catches

theorem follow (ht : Tracks m c moves h s) (hf : s.follow b = ⟨s', none⟩) : Tracks m c moves h s' where
  assigned r hr := by
    obtain ⟨a, ha, hagrees⟩ := ht.assigned r hr
    rcases TypeState.content?_follow hf r with heq | ⟨-, hlost⟩
    · exact ⟨a, heq.trans ha, hagrees⟩
    · exact ⟨_, hlost, .lost⟩
  held := ht.held
  origin := ht.origin
  fresh := ht.fresh
  catches := TypeState.catchesValue_follow ht.catches hf

variable {st : Step} {e : Effect} {r : Reg} {a : Content}

def AgreesAfter (m : MethodRef) (c : Code) (moves : List Move) (h : Objects) (st : Step) (e : Effect) : Prop :=
  ∀ r a, st.before.content? r = some a → c.Assigned moves r ∨ r ∈ st.instr.instr.writes →
    (h.act st.instr).Agrees m r (e.image ⟨m, st.instr.address⟩ r a)

theorem agrees_of_content? (ht : Tracks m c moves h s) (ha : s.content? r = some a) (hr : c.Assigned moves r) :
    h.Agrees m r a := by
  obtain ⟨a', ha', hagrees⟩ := ht.assigned r hr
  cases ha.symm.trans ha'
  exact hagrees

theorem agreesAfter_overwrite (ht : Tracks m c moves h st.before) (hact : st.instr.instr.action = .overwrite)
    (hchecked : st.instr.instr.Checked st.before e) : AgreesAfter m c moves h st e := by
  intro r a ha hr
  rw [Objects.act, hact]
  have hpending := h.pending?_overwrite st.instr.instr.writes r
  -- a register that is not written keeps its content and its object
  have hkeep : r ∉ st.instr.instr.writes → (h.overwrite st.instr.instr.writes).Agrees m r a := by
    intro hw
    rw [if_neg hw] at hpending
    exact (ht.agrees_of_content? ha (hr.resolve_right hw)).congr hpending fun x _ _ => (Objects.latest_congr rfl).2
  -- a register that is written holds no object
  have hvalue : r ∈ st.instr.instr.writes → ∀ t : RegisterType, t.content = .plain ∨ t.content = .lost →
      (h.overwrite st.instr.instr.writes).Agrees m r t.content := by
    intro hw t htc
    rw [if_pos hw] at hpending
    rcases htc with htc | htc <;> rw [htc]
    · exact .plain hpending
    · exact .lost
  have hwrites := hchecked.writes
  have haction := hchecked.action
  rw [hact] at haction
  cases haction with
  | skip | yield => exact hkeep (by simp [← hwrites, Effect.writes])
  | @write r' t hcontent =>
    simp only [Effect.image, ← List.mem_singleton]
    rw [show [r'] = st.instr.instr.writes from hwrites]
    split
    · next hw => exact hvalue hw t (hcontent.elim .inl (ht.catches t))
    · next hw => exact hkeep hw
  | @writePair r' t hcontent =>
    simp only [Effect.image]
    rw [show Reg.span true r' = st.instr.instr.writes from hwrites]
    split
    · next hw => exact hvalue hw t (.inl hcontent)
    · next hw => exact hkeep hw

theorem agreesAfter_copy {dst src : Reg} (ht : Tracks m c moves h st.before)
    (hact : st.instr.instr.action = .copy dst src) (hchecked : st.instr.instr.Checked st.before e)
    (hsrc : c.Assigned moves src) : AgreesAfter m c moves h st e := by
  intro r a ha hr
  have hwrites := hchecked.writes
  have haction := hchecked.action
  rw [hact] at haction
  rw [Objects.act, hact]
  cases haction with
  | @copy _ _ t htype hcontent =>
    have hpending := h.pending?_copy dst src r
    simp only [Effect.image]
    split
    · next hdst =>
      rw [if_pos hdst] at hpending
      exact (ht.agrees_of_content? (TypeState.content?_eq_some.2 ⟨t, htype, rfl⟩) hsrc).congr hpending
        fun x _ _ => (Objects.latest_congr rfl).2
    · next hdst =>
      rw [if_neg hdst] at hpending
      have hassigned : c.Assigned moves r := hr.resolve_right fun hw => by simp [← hwrites, Effect.writes, hdst] at hw
      exact (ht.agrees_of_content? ha hassigned).congr hpending fun x _ _ => (Objects.latest_congr rfl).2

theorem agreesAfter_construct {receiver : Reg} (ht : Tracks m c moves h st.before)
    (hact : st.instr.instr.action = .construct receiver) (hchecked : st.instr.instr.Checked st.before e)
    (hreceiver : c.Assigned moves receiver) : AgreesAfter m c moves h st e := by
  intro r a ha hr
  have hwrites := hchecked.writes
  have haction := hchecked.action
  rw [hact] at haction
  rw [Objects.act, hact]
  cases haction with
  | @construct _ t type result htype hp =>
    obtain ⟨x, hx, hlat, hcontent⟩ :=
      (ht.agrees_of_content? (TypeState.content?_eq_some.2 ⟨t, htype, rfl⟩) hreceiver).exists_pending hp
    have hassigned : c.Assigned moves r := hr.resolve_right fun hw => by simp [← hwrites, Effect.writes] at hw
    have hpending := Objects.pending?_construct (r := r) hx
    simp only [Effect.image, hcontent]
    cases ht.agrees_of_content? ha hassigned with
    | lost =>
      rw [if_neg (Ne.symm x.content_ne_lost)]
      exact .lost
    | plain hn =>
      rw [hn, if_neg (by simp)] at hpending
      split <;> exact .plain hpending
    | @pending y hy hlat' =>
      rw [hy] at hpending
      split
      · next heq =>
        -- the copies of the object that the constructor runs on
        rw [if_pos (congrArg some (Obj.eq_of_content hlat' hlat heq))] at hpending
        exact .plain hpending
      · next hne =>
        rw [if_neg (fun hyx => hne (by rw [Option.some.inj hyx]))] at hpending
        exact .pending hpending ((Objects.latest_congr rfl).2 hlat')

/-- An older object of the allocation is not the latest any more, and its copies are in conflict. -/
theorem agreesAfter_allocate {dst : Reg} {type : Descriptor} (ht : Tracks m c moves h st.before)
    (hmem : st.instr ∈ c.instrs) (hact : st.instr.instr.action = .allocate dst type)
    (hchecked : st.instr.instr.Checked st.before e) : AgreesAfter m c moves h st e := by
  intro r a ha hr
  have hwrites := hchecked.writes
  have haction := hchecked.action
  rw [hact] at haction
  rw [Objects.act, hact]
  cases haction with
  | allocate =>
    simp only [Effect.image]
    split
    · next hdst =>
      have hnew : (h.allocate st.instr.address dst type).pending? r =
          some (.allocated st.instr.address type (h.count st.instr.address)) := by
        rw [Objects.pending?_eq_some]
        refine ⟨if_pos hdst, fun hc => ?_⟩
        exact Nat.lt_irrefl _ (ht.fresh _ _ _ hc)
      exact .pending hnew (by simp [Objects.Latest, Objects.allocate])
    · next hdst =>
      have hassigned : c.Assigned moves r := hr.resolve_right fun hw => by simp [← hwrites, Effect.writes, hdst] at hw
      split
      · exact .lost
      · next hother =>
        refine (ht.agrees_of_content? ha hassigned).congr ?_ fun x hx hcontent hlat => ?_
        · exact h.pending?_allocate_of_ne hdst
        · cases x with
          | receiver => trivial
          | allocated pc type' serial =>
            -- an object of this allocation would be in conflict
            have hpc : pc ≠ st.instr.address := by
              rintro rfl
              obtain ⟨i, hi, haddr, dst', hnew⟩ := ht.origin _ _ _ _ (Objects.pending?_eq_some.1 hx).1
              obtain rfl := Code.eq_of_address hi hmem haddr
              rw [hnew] at hact
              cases hact
              exact hother hcontent
            simpa [Objects.Latest, Objects.allocate, hpc] using hlat

theorem agreesAfter (ht : Tracks m c moves h st.before) (hmem : st.instr ∈ c.instrs)
    (hchecked : st.instr.instr.Checked st.before e) (hreads : ∀ r ∈ st.instr.instr.reads, c.Assigned moves r) :
    AgreesAfter m c moves h st e := by
  cases hact : st.instr.instr.action with
  | allocate dst type => exact ht.agreesAfter_allocate hmem hact hchecked
  | copy dst src => exact ht.agreesAfter_copy hact hchecked (hreads src (Instr.mem_reads_of_action (.inl ⟨dst, hact⟩)))
  | construct receiver =>
    exact ht.agreesAfter_construct hact hchecked (hreads receiver (Instr.mem_reads_of_action (.inr hact)))
  | overwrite => exact ht.agreesAfter_overwrite hact hchecked

/-- A constructor only runs on objects that have been allocated. -/
theorem fresh_act (ht : Tracks m c moves h st.before) (hchecked : st.instr.instr.Checked st.before e)
    (hreads : ∀ r ∈ st.instr.instr.reads, c.Assigned moves r) {pc : Address} {type : Descriptor} {serial : Nat}
    (hx : .allocated pc type serial ∈ (h.act st.instr).constructed) : serial < (h.act st.instr).count pc := by
  cases hact : st.instr.instr.action with
  | construct receiver =>
    rw [Objects.act, hact] at hx ⊢
    rcases List.mem_append.1 hx with hx | hx
    · have haction := hchecked.action
      rw [hact] at haction
      cases haction with
      | @construct _ t _ _ htype hp =>
        have hreceiver := hreads receiver (Instr.mem_reads_of_action (.inr hact))
        obtain ⟨y, hy, hlat, -⟩ :=
          (ht.agrees_of_content? (TypeState.content?_eq_some.2 ⟨t, htype, rfl⟩) hreceiver).exists_pending hp
        rw [(Objects.pending?_eq_some.1 hy).1] at hx
        obtain rfl : .allocated pc type serial = y := by simpa using hx
        exact Nat.lt_of_succ_le (Nat.le_of_eq hlat)
    · exact ht.fresh pc type serial hx
  | allocate dst type' =>
    rw [Objects.act, hact] at hx ⊢
    refine Nat.lt_of_lt_of_le (ht.fresh pc type serial hx) ?_
    simp only [Objects.allocate]
    split
    · next hpc => rw [hpc]; exact Nat.le_succ _
    · exact Nat.le_refl _
  | copy | overwrite =>
    rw [Objects.act, hact] at hx ⊢
    exact ht.fresh pc type serial hx

theorem perform (ht : Tracks m c moves h st.before) (hmem : st.instr ∈ c.instrs) (hclean : Context.Clean ⟨o, m⟩ st e)
    (hreads : ∀ r ∈ st.instr.instr.reads, c.Assigned moves r) {exit : Option Branch}
    (hexit : Move.raised ⟨st.instr, exit⟩ = false) :
    Tracks m c (⟨st.instr, exit⟩ :: moves) (h.act st.instr) st.after where
  assigned r hr := by
    rw [Code.assigned_cons] at hr
    have hr : c.Assigned moves r ∨ r ∈ st.instr.instr.writes := hr.imp id And.right
    have hbefore : ∃ a, st.before.content? r = some a := by
      rcases hr with hr | hr
      · obtain ⟨a, ha, -⟩ := ht.assigned r hr
        exact ⟨a, ha⟩
      · rw [← hclean.checked.writes] at hr
        obtain ⟨t, htype⟩ := TypeState.exists_type? (hclean.bounded r hr)
        exact ⟨t.content, TypeState.content?_eq_some.2 ⟨t, htype, rfl⟩⟩
    obtain ⟨a, ha⟩ := hbefore
    refine ⟨_, ?_, ht.agreesAfter hmem hclean.checked hreads r a ha hr⟩
    rw [hclean.contents, ha]
    rfl
  held r x hx := by
    rw [Code.assigned_cons]
    rcases (Objects.held_act hx).1 with hw | hheld
    · exact .inr ⟨hexit, hw⟩
    · exact .inl (ht.held r x hheld)
  origin r pc type serial hx := by
    rcases (Objects.held_act hx).2 with ⟨r', hheld⟩ | ⟨dst, type', hnew, heq⟩
    · exact ht.origin r' pc type serial hheld
    · cases heq
      exact ⟨st.instr, hmem, rfl, dst, hnew⟩
  fresh pc type serial hx := ht.fresh_act hclean.checked hreads hx
  catches := hclean.catchesValue_after

end Tracks

theorem TypeState.content?_initial {m : Method} {c : Code} {s : TypeState} {r : Nat} (h : initial m c = .ok s)
    (hr : c.IsArgument r) :
    s.content? r = some (if m.receiverPending ∧ r = c.registersSize - c.insSize then .receiver m.descriptor.definer
      else .plain) := by
  obtain ⟨-, args, htypes, hlen, hplain⟩ := initial_eq_ok h
  obtain ⟨hlow, hhigh⟩ := hr
  have hins := c.insSize_le
  -- `j` counts from the first argument, so it is a place among the receiver and the parameters
  obtain ⟨j, rfl⟩ : ∃ j, r = c.registersSize - c.insSize + j := ⟨r - (c.registersSize - c.insSize), by omega⟩
  have hget : s.type? (c.registersSize - c.insSize + j) = (receiver m ++ args)[j]? := by
    rw [type?_eq_types, htypes, List.getElem?_append_right (by simp), List.length_replicate, Nat.add_sub_cancel_left]
  have hj : j < (receiver m ++ args).length := by omega
  have hargs : ∀ k, k < args.length → (args[k]?).map RegisterType.content = some .plain := by
    intro k hk
    rw [List.getElem?_eq_getElem hk, Option.map_some, hplain _ (List.getElem_mem hk)]
  rw [content?, hget]
  cases hstatic : m.isStatic with
  | true =>
    have hr : receiver m = [] := by simp [receiver, hstatic]
    have hp : m.receiverPending = false := by simp [Method.receiverPending, Method.isConstructor, hstatic]
    rw [hr, List.nil_append] at hj ⊢
    simpa [hp] using hargs j hj
  | false =>
    have hr : receiver m =
        [if m.receiverPending then .pendingThis m.descriptor.definer else .reference m.descriptor.definer] := by
      unfold receiver Method.receiverPending
      rw [if_neg (by simp [hstatic])]
      split <;> rfl
    rw [hr, List.singleton_append] at hj ⊢
    cases j with
    | zero => cases hp : m.receiverPending <;> simp [RegisterType.content]
    | succ j => simpa using hargs j (by simpa using hj)

theorem Tracks.initial {m : Method} {c : Code} {s : TypeState} (h : TypeState.initial m c = .ok s) :
    Tracks m.descriptor c [] (.initial m c) s where
  assigned r hr := by
    have hr : c.IsArgument r := by simpa [Code.Assigned] using hr
    refine ⟨_, TypeState.content?_initial h hr, ?_⟩
    split
    · next hp => exact .pending (x := .receiver) (by simp [Objects.pending?, Objects.initial, hp]) trivial
    · next hp => exact .plain (by simp [Objects.pending?, Objects.initial, hp])
  held r x hx := by
    simp only [Objects.initial] at hx
    split at hx
    · next hp =>
      obtain ⟨-, args, -, hlen, -⟩ := TypeState.initial_eq_ok h
      have hstatic : m.isStatic = false := by
        have hp := hp.1
        simp only [Method.receiverPending, Method.isConstructor, Bool.and_eq_true, Bool.not_eq_true'] at hp
        exact hp.1.1
      rw [List.length_append, TypeState.length_receiver, hstatic, if_neg Bool.false_ne_true] at hlen
      have hins := c.insSize_le
      rw [hp.2]
      exact .inl ⟨Nat.le_refl _, Nat.sub_lt (by omega) (by omega)⟩
    · cases hx
  origin r pc type serial hx := by
    simp only [Objects.initial] at hx
    split at hx <;> cases hx
  fresh pc type serial hx := by cases hx
  catches := TypeState.catchesValue_of_none (TypeState.initial_eq_ok h).1

/-! ### Paths -/

namespace Tracks
variable {o : ClassOracle} {m : Method} {c : Code} {g : FlowGraph} {s₀ : TypeState} {d : Dataflow} {moves : List Move}
  {move : Move} {i : LabeledInstr} {h : Objects} {s : TypeState} {r : Reg} {x : Obj}

theorem raise (ht : Tracks m.descriptor c moves h s) (hraised : move.raised = true) :
    Tracks m.descriptor c (move :: moves) h s := by
  have hassigned : ∀ r, c.Assigned (move :: moves) r ↔ c.Assigned moves r := by
    intro r
    rw [Code.assigned_cons, hraised]
    simp
  exact ⟨fun r hr => ht.assigned r ((hassigned r).1 hr), fun r x hx => (hassigned r).2 (ht.held r x hx), ht.origin,
    ht.fresh, ht.catches⟩

theorem along_path (hsol : Dataflow.Solution ⟨o, m.descriptor⟩ c g s₀ d) (hg : FlowGraph.ofCode c = .ok g)
    (hclean : ∀ st ∈ d.steps, ∃ e, Context.Clean ⟨o, m.descriptor⟩ st e) (hs₀ : TypeState.initial m c = .ok s₀)
    (hp : g.Path moves i) (hreads : c.ReadsAssigned moves) :
    ∃ st ∈ d.steps, st.instr = i ∧ Tracks m.descriptor c moves (.after m c moves) st.before := by
  obtain ⟨st, hst, hinstr, ht⟩ := hsol.along_path hg
    (P := fun moves s => c.ReadsAssigned moves → Tracks m.descriptor c moves (.after m c moves) s)
    (fun _ => .initial hs₀)
    (fun moves s t ht hf hr => (ht hr).flowsInto hf)
    (fun moves st b s t _ _ ht hf hr => (ht hr).follow hf)
    (fun moves st exit hst ht hexit hr => by
      obtain ⟨e, he⟩ := hclean st hst
      rw [Objects.after, if_neg (by simp [hexit])]
      exact (ht hr.2).perform (hsol.mem_instrs hst) he hr.1 hexit)
    (fun moves st exit hst ht hexit hr => by
      rw [Objects.after, if_pos hexit]
      exact (ht hr.2).raise hexit)
    hp
  exact ⟨st, hst, hinstr, ht hreads⟩

theorem type?_of_pending (ht : Tracks m.descriptor c moves h s) (hx : h.pending? r = some x) :
    s.type? r = some .conflict ∨
      h.Latest x ∧ ∃ t, s.type? r = some t ∧ t.content = x.content m.descriptor := by
  obtain ⟨a, ha, hagrees⟩ := ht.assigned r (ht.held r x (Objects.pending?_eq_some.1 hx).1)
  obtain ⟨t, htype, rfl⟩ := TypeState.content?_eq_some.1 ha
  generalize ha' : t.content = a at hagrees
  cases hagrees with
  | lost =>
    rw [RegisterType.content_eq_lost.1 ha'] at htype
    exact .inl htype
  | plain hn => rw [hx] at hn; cases hn
  | pending hy hlat =>
    cases hx.symm.trans hy
    exact .inr ⟨hlat, t, htype, ha'⟩

theorem not_ready_of_pending (ht : Tracks m.descriptor c moves h s) (hx : h.pending? r = some x) : ¬ s.Ready r := by
  rintro ⟨t, htype, hplain⟩
  rcases ht.type?_of_pending hx with hconflict | ⟨-, t', htype', hcontent⟩
  · cases htype.symm.trans hconflict
    cases hplain
  · cases htype.symm.trans htype'
    exact x.content_ne_plain (hcontent.symm.trans hplain)

theorem exists_pending {t : RegisterType} (ht : Tracks m.descriptor c moves h s) (hr : c.Assigned moves r)
    (htype : s.type? r = some t) (hp : t.isPending = true) :
    ∃ x, h.pending? r = some x ∧ h.Latest x ∧ t.content = x.content m.descriptor :=
  (ht.agrees_of_content? (TypeState.content?_eq_some.2 ⟨t, htype, rfl⟩) hr).exists_pending hp

end Tracks

/-- What the types of registers say of pending objects, and what an instruction does with them. -/
structure Objects.Discipline (m : MethodRef) (c : Code) (moves : List Move) (h : Objects) (st : Step) : Prop where
  /-- A pending object has the type of its allocation and is the latest object of it, or is in conflict. -/
  allocated : ∀ r pc type serial, h.pending? r = some (.allocated pc type serial) →
    st.before.type? r = some .conflict ∨
      serial + 1 = h.count pc ∧ ∃ u, st.before.type? r = some (.pending u) ∧ u.site = ⟨m, pc⟩ ∧ u.type = type
  receiver : ∀ r, h.pending? r = some .receiver →
    st.before.type? r = some .conflict ∨ st.before.type? r = some (.pendingThis m.definer)
  /-- A register with the type of an allocation holds its latest object, which is pending. -/
  latest : ∀ r u, c.Assigned moves r → st.before.type? r = some (.pending u) →
    ∃ pc serial, u.site = ⟨m, pc⟩ ∧ serial + 1 = h.count pc ∧ h.pending? r = some (.allocated pc u.type serial)
  latestReceiver : ∀ r t, c.Assigned moves r → st.before.type? r = some (.pendingThis t) →
    t = m.definer ∧ h.pending? r = some .receiver
  /-- Pending objects are not read as values. -/
  values : ∀ r x, h.pending? r = some x → r ∉ st.instr.instr.valueReads
  /-- Of pending objects only the receiver gets fields, those of its own class. -/
  fields : ∀ access src object field x, st.instr.instr = .iput access src object field →
    h.pending? object = some x → x = .receiver ∧ field.definer = m.definer
  /-- Constructors run on pending objects. -/
  constructors : ∀ callee receiver args, st.instr.instr = .invoke .direct callee (receiver :: args) →
    callee.isConstructor = true → c.Assigned moves receiver → ∃ x, h.pending? receiver = some x
  /-- No pending object leaves the method in a register that can be read. -/
  leaving : st.instr.instr.doesReturn = true ∨ st.instr.instr.isThrow = true →
    ∀ r x, h.pending? r = some x → st.before.type? r = some .conflict

namespace Tracks
variable {o : ClassOracle} {m : Method} {c : Code} {moves : List Move} {h : Objects} {st : Step} {e : Effect}

theorem latestReceiver (ht : Tracks m.descriptor c moves h st.before) {r : Reg} {t : Descriptor}
    (hr : c.Assigned moves r) (htype : st.before.type? r = some (.pendingThis t)) :
    t = m.descriptor.definer ∧ h.pending? r = some .receiver := by
  obtain ⟨x, hx, -, hcontent⟩ := ht.exists_pending hr htype rfl
  cases x with
  | receiver => cases hcontent; exact ⟨rfl, hx⟩
  | allocated => cases hcontent

theorem discipline (ht : Tracks m.descriptor c moves h st.before) (hclean : Context.Clean ⟨o, m.descriptor⟩ st e) :
    h.Discipline m.descriptor c moves st where
  allocated r pc type serial hx := by
    rcases ht.type?_of_pending hx with hconflict | ⟨hlat, t, htype, hcontent⟩
    · exact .inl hconflict
    · obtain ⟨u, rfl, hsite, hu⟩ := RegisterType.content_eq_object.1 hcontent
      exact .inr ⟨hlat, u, htype, hsite, hu⟩
  receiver r hx := by
    rcases ht.type?_of_pending hx with hconflict | ⟨-, t, htype, hcontent⟩
    · exact .inl hconflict
    · obtain rfl := RegisterType.content_eq_receiver.1 hcontent
      exact .inr htype
  latest r u hr htype := by
    obtain ⟨x, hx, hlat, hcontent⟩ := ht.exists_pending hr htype rfl
    cases x with
    | receiver => cases hcontent
    | allocated pc type serial =>
      obtain ⟨hsite, rfl⟩ := Content.object.inj hcontent
      exact ⟨pc, serial, hsite, hlat, hx⟩
  latestReceiver r t hr htype := ht.latestReceiver hr htype
  values r x hx hr := ht.not_ready_of_pending hx (hclean.checked.values r hr)
  fields access src object field x hi hx := by
    rcases hclean.checked.own access src object field hi with hready | htype
    · exact absurd hready (ht.not_ready_of_pending hx)
    · have hr := ht.held object x (Objects.pending?_eq_some.1 hx).1
      obtain ⟨hdefiner, hreceiver⟩ := ht.latestReceiver hr htype
      exact ⟨Option.some.inj (hx.symm.trans hreceiver), hdefiner⟩
  constructors callee receiver args hi hcallee hr := by
    have haction := hclean.checked.action
    rw [show st.instr.instr.action = .construct receiver by simp [hi, Instr.action, hcallee]] at haction
    cases haction with
    | construct htype hp =>
      obtain ⟨x, hx, -⟩ := ht.exists_pending hr htype hp
      exact ⟨x, hx⟩
  leaving hleaves r x hx := by
    rcases ht.type?_of_pending hx with hconflict | ⟨-, t, htype, hcontent⟩
    · exact hconflict
    · have hp := hclean.checked.escape hleaves r t htype
      rw [Bool.eq_false_iff, ne_eq, RegisterType.isPending_iff] at hp
      cases x with
      | receiver => exact absurd (.inr ⟨_, hcontent⟩) hp
      | allocated => exact absurd (.inl ⟨_, _, hcontent⟩) hp

end Tracks

/-! ### Verified methods -/

namespace Verification

/-- The recorded steps keep track of the objects on every path that reads assigned registers only. -/
theorem tracks_of_path {o : ClassOracle} {limit : Nat} {m : Method} {c : Code} {g : FlowGraph} {v : Verification}
    {moves : List Move} {i : LabeledInstr} (hv : within o limit m = .ok v) (hok : v.isOk = true) (hc : m.code = some c)
    (hg : FlowGraph.ofCode c = .ok g) (hp : g.Path moves i) (hreads : c.ReadsAssigned moves) :
    ∃ st e, v.flow.at? i.address = some st ∧ st.instr = i ∧ Context.Clean ⟨o, m.descriptor⟩ st e ∧
      Tracks m.descriptor c moves (.after m c moves) st.before := by
  obtain ⟨s₀, hs₀, hsol, hclean⟩ := clean_solution hv hok hc hg
  obtain ⟨st, hst, hinstr, ht⟩ := Tracks.along_path hsol hg hclean hs₀ hp hreads
  obtain ⟨e, he⟩ := hclean st hst
  exact ⟨st, e, hsol.at?_eq_some.2 ⟨hst, by rw [hinstr]⟩, hinstr, he, ht⟩

/-- The discipline of initialization holds at every point of every path that reads assigned registers only. -/
theorem discipline_of_path {o : ClassOracle} {limit : Nat} {m : Method} {c : Code} {g : FlowGraph} {v : Verification}
    {moves : List Move} {i : LabeledInstr} (hv : within o limit m = .ok v) (hok : v.isOk = true) (hc : m.code = some c)
    (hg : FlowGraph.ofCode c = .ok g) (hp : g.Path moves i) (hreads : c.ReadsAssigned moves) :
    ∃ st, v.flow.at? i.address = some st ∧ st.instr = i ∧
      (Objects.after m c moves).Discipline m.descriptor c moves st := by
  obtain ⟨st, e, hst, hinstr, he, ht⟩ := tracks_of_path hv hok hc hg hp hreads
  exact ⟨st, hst, hinstr, ht.discipline he⟩

/-! A loop that allocates an object in each turn and keeps a copy; the last one is constructed after the loop. -/

def allocatingCode : Code :=
  .ofInstrs 2 1 (.newInstance 0 (.object "Dog"))
    [.moveObject 1 0, .ifTestZero .eq 2 0, .invoke .direct ⟨.object "Dog", "<init>", [], .void⟩ [0], .returnVoid]

def allocatingMethod : Method := ⟨⟨.object "Zoo", "run", [.prim .int], .void⟩, Flags.static, some allocatingCode⟩

def allocatingGraph : FlowGraph where
  nodes := #[
    ⟨⟨.plain 0 2 (.newInstance 0 (.object "Dog")), []⟩, [⟨.sequence, 1⟩]⟩,
    ⟨⟨.plain 2 3 (.moveObject 1 0), [.plain 3 5 (.ifTestZero .eq 2 0)]⟩,
      [⟨.ifTrue 2 .eq .zero, 0⟩, ⟨.ifFalse 2 .eq .zero, 2⟩]⟩,
    ⟨⟨.plain 5 8 (.invoke .direct ⟨.object "Dog", "<init>", [], .void⟩ [0]), []⟩, [⟨.invokeSuccess, 3⟩]⟩,
    ⟨⟨.plain 8 9 .returnVoid, []⟩, []⟩]

theorem ofCode_allocatingCode : FlowGraph.ofCode allocatingCode = .ok allocatingGraph := rfl

/-- Once around the loop and past the second allocation. -/
def allocatingMoves : List Move :=
  [⟨.plain 0 2 (.newInstance 0 (.object "Dog")), some .sequence⟩,
   ⟨.plain 3 5 (.ifTestZero .eq 2 0), some (.ifTrue 2 .eq .zero)⟩,
   ⟨.plain 2 3 (.moveObject 1 0), none⟩,
   ⟨.plain 0 2 (.newInstance 0 (.object "Dog")), some .sequence⟩]

theorem path_allocatingGraph : allocatingGraph.Path allocatingMoves (.plain 2 3 (.moveObject 1 0)) := by
  have hnew : allocatingGraph.nodes[0]? =
      some ⟨⟨.plain 0 2 (.newInstance 0 (.object "Dog")), []⟩, [⟨.sequence, 1⟩]⟩ := rfl
  have hcopy : allocatingGraph.nodes[1]? = some ⟨⟨.plain 2 3 (.moveObject 1 0), [.plain 3 5 (.ifTestZero .eq 2 0)]⟩,
      [⟨.ifTrue 2 .eq .zero, 0⟩, ⟨.ifFalse 2 .eq .zero, 2⟩]⟩ := rfl
  have hnew' := Array.mem_of_getElem? hnew
  have hcopy' := Array.mem_of_getElem? hcopy
  have hturn : allocatingGraph.Path _ (.plain 3 5 (.ifTestZero .eq 2 0)) :=
    .next (.branch (.start hnew' rfl) hnew' List.mem_cons_self hcopy) hcopy' (List.nil_append _).symm
  exact .branch (.branch hturn hcopy' List.mem_cons_self hnew) hnew' List.mem_cons_self hcopy

theorem discipline_of_path_allocating :
    ∃ v st h, Hierarchy.empty.close.verify allocatingMethod = .ok v ∧ v.isOk = true ∧ v.flow.at? 2 = some st ∧
      Objects.after allocatingMethod allocatingCode allocatingMoves = h ∧
      h.pending? 0 = some (.allocated 0 (.object "Dog") 1) ∧ h.pending? 1 = some (.allocated 0 (.object "Dog") 0) ∧
      h.Discipline allocatingMethod.descriptor allocatingCode allocatingMoves st := by
  have hrun : (Hierarchy.empty.close.verify allocatingMethod).toOption.map Verification.isOk = some true := by cbv
  obtain ⟨v, hv, hok⟩ := exists_ok_of_toOption hrun
  have hreads : allocatingCode.ReadsAssigned allocatingMoves := by decide
  obtain ⟨st, hst, -, hdiscipline⟩ :=
    discipline_of_path hv hok rfl ofCode_allocatingCode path_allocatingGraph hreads
  exact ⟨v, st, _, hv, hok, hst, rfl, rfl, rfl, hdiscipline⟩

end Verification
end Dalvik
