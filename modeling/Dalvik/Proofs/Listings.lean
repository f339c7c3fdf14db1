import Dalvik.Proofs.Edges

/-!
# Listings and lookups

Code is made from instructions at given addresses, or from a plain listing, which is laid out by the sizes of its
instructions. Either way the code keeps what it was made from, and only a listing that is empty, out of order, without
room for its arguments or with an empty try range is refused (`Code.exists_locate_iff`). A plain listing is never out of
order, so it is refused for the other reasons only, unless it is too long (`Code.exists_assemble_iff`).

A lookup searches by halves. The place of the address stays between the bounds of the search, since addresses increase
along the listing (`Code.bisect_eq`); so an address is found where an instruction has it, and nowhere else.
-/

namespace Dalvik

theorem exists_error_iff {ε α : Type} {x : Except ε α} : (∃ e, x = .error e) ↔ ¬ ∃ a, x = .ok a := by
  cases x with
  | error e => simp
  | ok a => simp

theorem Instr.size_le (i : Instr) : i.size ≤ 5 := by
  unfold size
  split <;> decide

/-- Size in code units of instructions that follow one another. -/
def Instr.totalSize (is : List Instr) : Nat := (is.map size).sum

/-- The instruction without what it knows about the next one. -/
def LabeledInstr.located (i : LabeledInstr) : LocatedInstr := ⟨i.address, i.instr, i.position⟩

/-- The instruction at an address, with a position that knows nothing but the address. -/
def LocatedInstr.plain (a : Address) (i : Instr) : LocatedInstr := ⟨a, i, ⟨none, a, .single (-1)⟩⟩

namespace LocatedInstr
variable {listing : List LocatedInstr}

theorem map_located_link (listing : List LocatedInstr) : (link listing).map LabeledInstr.located = listing := by
  induction listing with
  | nil => rfl
  | cons i rest ih =>
    cases rest with
    | nil => rfl
    | cons j rest => rw [link, List.map_cons, ih]; rfl

theorem firstDisorder_eq_none_iff :
    firstDisorder listing = none ↔ listing.Pairwise fun i j => i.address < j.address := by
  constructor
  · intro h
    rw [← map_located_link listing, List.pairwise_map]
    exact (linked_link h).pairwise
  · intro h
    induction listing with
    | nil => rfl
    | cons i rest ih =>
      cases rest with
      | nil => rfl
      | cons j rest =>
        obtain ⟨hfirst, hrest⟩ := List.pairwise_cons.1 h
        rw [firstDisorder, if_pos (hfirst j List.mem_cons_self)]
        exact ih hrest

theorem getElem?_assemble (start : Address) (instrs : List Instr) (n : Nat) :
    (assemble start instrs)[n]? = instrs[n]?.map (plain (start + Instr.totalSize (instrs.take n))) := by
  induction instrs generalizing start n with
  | nil => simp [assemble]
  | cons i rest ih =>
    cases n with
    | zero => simp [assemble, plain, Instr.totalSize]
    | succ n =>
      rw [assemble, List.getElem?_cons_succ, List.getElem?_cons_succ, ih]
      simp [Instr.totalSize, Nat.add_assoc]

theorem assemble_eq_nil {start : Address} {instrs : List Instr} : assemble start instrs = [] ↔ instrs = [] := by
  cases instrs with
  | nil => simp [assemble]
  | cons i rest => simp [assemble]

/-- All addresses are within a bound as soon as the last one is. -/
theorem address_assemble_le_iff {start bound : Nat} (instrs : List Instr) (h : start ≤ bound) :
    (∀ i ∈ assemble start instrs, i.address ≤ bound) ↔ start + Instr.totalSize instrs.dropLast ≤ bound := by
  induction instrs generalizing start with
  | nil => simp [assemble, Instr.totalSize, h]
  | cons i rest ih =>
    cases rest with
    | nil => simp [assemble, Instr.totalSize, h]
    | cons j rest =>
      have htotal : Instr.totalSize (i :: j :: rest).dropLast = i.size + Instr.totalSize (j :: rest).dropLast := by
        simp [Instr.totalSize]
      rw [assemble, List.forall_mem_cons, htotal, ← Nat.add_assoc]
      by_cases hnext : start + i.size ≤ bound
      · rw [ih hnext]
        exact and_iff_right h
      · constructor
        · rintro ⟨-, hrest⟩
          exact absurd (hrest _ List.mem_cons_self) hnext
        · intro hle
          omega

end LocatedInstr

namespace Code
variable {c : Code} {registersSize insSize n : Nat} {listing : List LocatedInstr} {instrs : List Instr}
  {tries : List TryItem} {a : Address} {i : LabeledInstr}

/-! ### Lookups -/

/-- Along increasing addresses, the address at a place tells on which side of it another one is. -/
theorem any_address_le_iff {is : List LabeledInstr} (hp : is.Pairwise fun i j => i.address < j.address)
    (hi : is[n]? = some i) (m : Nat) : is[m]?.any (·.address ≤ i.address) = true ↔ m ≤ n := by
  obtain ⟨hn, rfl⟩ := List.getElem?_eq_some_iff.1 hi
  rw [List.pairwise_iff_getElem] at hp
  by_cases hm : m < is.length
  · rw [List.getElem?_eq_getElem hm, Option.any_some, decide_eq_true_eq]
    rcases Nat.lt_trichotomy m n with hlt | rfl | hlt
    · exact iff_of_true (Nat.le_of_lt (hp m n hm hn hlt)) (Nat.le_of_lt hlt)
    · exact iff_of_true (Nat.le_refl _) (Nat.le_refl _)
    · exact iff_of_false (Nat.not_le_of_lt (hp n m hn hm hlt)) (Nat.not_le_of_lt hlt)
  · rw [List.getElem?_eq_none (Nat.le_of_not_lt hm)]
    simp only [Option.any_none, Bool.false_eq_true, false_iff]
    omega

/-- The search ends at the place of the address, if that is between its bounds. -/
theorem bisect_eq {is : List LabeledInstr} (hp : is.Pairwise fun i j => i.address < j.address) (hi : is[n]? = some i)
    {base size : Nat} (hbase : base ≤ n) (hsize : n < base + size) : bisect is i.address base size = n := by
  fun_induction bisect is i.address base size with
  | case1 base size hsmall => omega
  | case2 base size hlarge hmid ih =>
    have hle := (any_address_le_iff hp hi _).1 hmid
    exact ih hle (by omega)
  | case3 base size hlarge hmid ih =>
    have hgt := mt (any_address_le_iff hp hi _).2 hmid
    exact ih hbase (by omega)

theorem indexOf?_eq_some : c.indexOf? a = some n ↔ ∃ i, c.instrs[n]? = some i ∧ i.address = a := by
  unfold indexOf?
  constructor
  · intro h
    dsimp only at h
    split at h
    · next hany =>
      obtain rfl := Option.some.inj h
      simpa only [Option.any_eq_true, decide_eq_true_eq] using hany
    · cases h
  · rintro ⟨i, hi, rfl⟩
    have hlt := (List.getElem?_eq_some_iff.1 hi).1
    have hn : bisect c.instrs i.address 0 c.instrs.length = n :=
      bisect_eq c.linked.pairwise hi (Nat.zero_le n) (by omega)
    simp [hn, hi]

theorem index_eq_ok : c.index a = .ok n ↔ ∃ i, c.instrs[n]? = some i ∧ i.address = a := by
  rw [← indexOf?_eq_some, index]
  cases c.indexOf? a with
  | none => simp
  | some m => simp

theorem index_eq_error : c.index a = .error (.noInstructionAt a) ↔ ∀ i ∈ c.instrs, i.address ≠ a := by
  have hnone : c.index a = .error (.noInstructionAt a) ↔ ∀ n, c.indexOf? a ≠ some n := by
    rw [index]
    cases c.indexOf? a with
    | none => simp
    | some m => simp
  rw [hnone]
  constructor
  · intro h i hi ha
    obtain ⟨n, hn⟩ := List.mem_iff_getElem?.1 hi
    exact h n (indexOf?_eq_some.2 ⟨i, hn, ha⟩)
  · intro h n hn
    obtain ⟨i, hi, ha⟩ := indexOf?_eq_some.1 hn
    exact h i (List.mem_of_getElem? hi) ha

theorem instrAt_eq_ok : c.instrAt a = .ok i ↔ i ∈ c.instrs ∧ i.address = a := by
  have hsome : c.instrAt a = .ok i ↔ ∃ n, c.indexOf? a = some n ∧ c.instrs[n]? = some i := by
    rw [← Option.bind_eq_some_iff, ← instrAt?, instrAt]
    cases c.instrAt? a with
    | none => simp
    | some j => simp
  rw [hsome]
  constructor
  · rintro ⟨n, hn, hi⟩
    obtain ⟨j, hj, ha⟩ := indexOf?_eq_some.1 hn
    obtain rfl : i = j := Option.some.inj (hi.symm.trans hj)
    exact ⟨List.mem_of_getElem? hi, ha⟩
  · rintro ⟨hi, ha⟩
    obtain ⟨n, hn⟩ := List.mem_iff_getElem?.1 hi
    exact ⟨n, indexOf?_eq_some.2 ⟨i, hn, ha⟩, hn⟩

/-! ### Making code -/

/-- What is wrong with the parts of code that is refused. -/
inductive Refused (registersSize insSize : Nat) (listing : List LocatedInstr) (tries : List TryItem) :
    StructureFault → Prop
  | empty : listing = [] → Refused registersSize insSize listing tries .emptyCode
  | room : registersSize < insSize →
      Refused registersSize insSize listing tries (.insExceedRegisters insSize registersSize)
  | order {a : Address} : LocatedInstr.firstDisorder listing = some a →
      Refused registersSize insSize listing tries (.addressNotIncreasing a)
  | range {t : TryItem} : t ∈ tries → t.stop ≤ t.start →
      Refused registersSize insSize listing tries (.emptyTryRange t.start)

theorem locate_cases (registersSize insSize : Nat) (listing : List LocatedInstr) (tries : List TryItem) :
    (∃ c, locate registersSize insSize listing tries = .ok c ∧ c.registersSize = registersSize ∧
      c.insSize = insSize ∧ c.tries = tries ∧ c.instrs.map LabeledInstr.located = listing) ∨
    ∃ fault, locate registersSize insSize listing tries = .error (.listing fault) ∧
      Refused registersSize insSize listing tries fault := by
  unfold locate
  split
  · next hnil => exact .inr ⟨_, rfl, .empty hnil⟩
  split
  · next hins => exact .inr ⟨_, rfl, .room hins⟩
  split
  · next a ha => exact .inr ⟨_, rfl, .order ha⟩
  split
  · next t ht =>
    have hstop : t.stop ≤ t.start := by simpa using List.find?_some ht
    exact .inr ⟨_, rfl, .range (List.mem_of_find?_eq_some ht) hstop⟩
  · exact .inl ⟨_, rfl, rfl, rfl, rfl, LocatedInstr.map_located_link listing⟩

theorem locate_eq_ok (h : locate registersSize insSize listing tries = .ok c) :
    c.registersSize = registersSize ∧ c.insSize = insSize ∧ c.tries = tries ∧
      c.instrs.map LabeledInstr.located = listing := by
  rcases locate_cases registersSize insSize listing tries with ⟨c', hc', hparts⟩ | ⟨fault, hfault, -⟩
  · obtain rfl : c' = c := Except.ok.inj (hc'.symm.trans h)
    exact hparts
  · cases hfault.symm.trans h

theorem exists_locate_iff : (∃ c, locate registersSize insSize listing tries = .ok c) ↔
    listing ≠ [] ∧ insSize ≤ registersSize ∧ (listing.Pairwise fun i j => i.address < j.address) ∧
      ∀ t ∈ tries, t.start < t.stop := by
  constructor
  · rintro ⟨c, hc⟩
    obtain ⟨rfl, rfl, rfl, rfl⟩ := locate_eq_ok hc
    refine ⟨?_, c.insSize_le, ?_, c.try_nonempty⟩
    · rw [ne_eq, List.map_eq_nil_iff]
      exact c.instrs_ne_nil
    · rw [List.pairwise_map]
      exact c.linked.pairwise
  · rintro ⟨hnil, hins, horder, htries⟩
    rw [← LocatedInstr.firstDisorder_eq_none_iff] at horder
    rcases locate_cases registersSize insSize listing tries with ⟨c, hc, -⟩ | ⟨fault, -, hrefused⟩
    · exact ⟨c, hc⟩
    · cases hrefused with
      | empty h => exact absurd h hnil
      | room h => exact absurd h (Nat.not_lt_of_le hins)
      | order h => rw [horder] at h; cases h
      | range ht h => exact absurd (htries _ ht) (Nat.not_lt_of_le h)

theorem assemble_cases (registersSize insSize : Nat) (instrs : List Instr) (tries : List TryItem) :
    (Instr.totalSize instrs.dropLast ≤ maxPositionAddress ∧
      assemble registersSize insSize instrs tries =
        locate registersSize insSize (LocatedInstr.assemble Address.entry instrs) tries) ∨
    (maxPositionAddress < Instr.totalSize instrs.dropLast ∧
      ∃ a, assemble registersSize insSize instrs tries = .error (.addressTooLarge a)) := by
  have hbound := LocatedInstr.address_assemble_le_iff instrs (Nat.zero_le maxPositionAddress)
  rw [Nat.zero_add] at hbound
  unfold assemble
  dsimp only
  split
  · next i hi =>
    refine .inr ⟨?_, i.address, rfl⟩
    rw [← Nat.not_le, ← hbound]
    intro hall
    have hlt : maxPositionAddress < i.address := by simpa using List.find?_some hi
    exact Nat.not_lt_of_le (hall i (List.mem_of_find?_eq_some hi)) hlt
  · next hnone =>
    refine .inl ⟨hbound.1 fun i hi => Nat.le_of_not_lt ?_, rfl⟩
    simpa using List.find?_eq_none.1 hnone i hi

theorem exists_assemble_iff : (∃ c, assemble registersSize insSize instrs tries = .ok c) ↔
    Instr.totalSize instrs.dropLast ≤ maxPositionAddress ∧ instrs ≠ [] ∧ insSize ≤ registersSize ∧
      ∀ t ∈ tries, t.start < t.stop := by
  have horder := LocatedInstr.firstDisorder_eq_none_iff.1 (LocatedInstr.firstDisorder_assemble Address.entry instrs)
  rcases assemble_cases registersSize insSize instrs tries with ⟨hsize, heq⟩ | ⟨hsize, a, heq⟩
  · rw [heq, exists_locate_iff, ne_eq, LocatedInstr.assemble_eq_nil]
    simp only [hsize, horder, true_and]
  · rw [heq]
    constructor
    · rintro ⟨c, hc⟩
      cases hc
    · rintro ⟨hle, -⟩
      exact absurd hle (Nat.not_le_of_lt hsize)

theorem stop_le_of_assemble (h : assemble registersSize insSize instrs tries = .ok c) :
    c.stop ≤ maxPositionAddress + 5 := by
  rcases assemble_cases registersSize insSize instrs tries with ⟨hsize, heq⟩ | ⟨-, a, heq⟩
  · obtain ⟨-, -, -, hlisting⟩ := locate_eq_ok (heq ▸ h)
    obtain ⟨i, hi, hstop, -⟩ := c.stop_eq
    have hmem : i.located ∈ LocatedInstr.assemble Address.entry instrs := hlisting ▸ List.mem_map_of_mem hi
    rw [← Nat.zero_add (Instr.totalSize _)] at hsize
    rw [hstop]
    have hle := (LocatedInstr.address_assemble_le_iff instrs (Nat.zero_le maxPositionAddress)).2 hsize _ hmem
    exact Nat.add_le_add hle i.instr.size_le
  · cases heq.symm.trans h

theorem assemble_ne_disorder (registersSize insSize : Nat) (instrs : List Instr) (tries : List TryItem) (a : Address) :
    assemble registersSize insSize instrs tries ≠ .error (.listing (.addressNotIncreasing a)) := by
  intro h
  rcases assemble_cases registersSize insSize instrs tries with ⟨-, heq⟩ | ⟨-, b, heq⟩
  · rw [heq] at h
    rcases locate_cases registersSize insSize (LocatedInstr.assemble Address.entry instrs) tries with
      ⟨c, hc, -⟩ | ⟨fault, hfault, hrefused⟩
    · cases hc.symm.trans h
    · cases hfault.symm.trans h
      cases hrefused with
      | order horder =>
        rw [LocatedInstr.firstDisorder_assemble] at horder
        cases horder
  · cases heq.symm.trans h

/-- The code is made of these parts, which it keeps as they are. Each of its instructions knows where the next one
starts, and lookups find every instruction at its address and nothing else. -/
structure MadeOf (c : Code) (registersSize insSize : Nat) (listing : List LocatedInstr) (tries : List TryItem) :
    Prop where
  registersSize_eq : c.registersSize = registersSize
  insSize_eq : c.insSize = insSize
  tries_eq : c.tries = tries
  listing_eq : c.instrs.map LabeledInstr.located = listing
  room : insSize ≤ registersSize
  ranges : ∀ t ∈ tries, t.start < t.stop
  increasing : c.instrs.Pairwise fun i j => i.address < j.address
  next : ∀ i j, c.Follows i j → i.next = j.address
  last : ∀ is i, c.instrs = is ++ [i] → i.next = i.address + i.instr.size
  /-- Next addresses need no more room than the end of the code. -/
  ends : ∀ i ∈ c.instrs, i.next ≤ c.stop
  index_iff : ∀ a n, c.index a = .ok n ↔ ∃ i, c.instrs[n]? = some i ∧ i.address = a
  missing_iff : ∀ a, c.index a = .error (.noInstructionAt a) ↔ ∀ i ∈ c.instrs, i.address ≠ a
  instr_iff : ∀ a i, c.instrAt a = .ok i ↔ i ∈ c.instrs ∧ i.address = a

theorem madeOf_of_locate (h : locate registersSize insSize listing tries = .ok c) :
    c.MadeOf registersSize insSize listing tries := by
  obtain ⟨-, hroom, -, hranges⟩ := exists_locate_iff.1 ⟨c, h⟩
  obtain ⟨hregisters, hins, htries, hlisting⟩ := locate_eq_ok h
  exact {
    registersSize_eq := hregisters
    insSize_eq := hins
    tries_eq := htries
    listing_eq := hlisting
    room := hroom
    ranges := hranges
    increasing := c.linked.pairwise
    next := fun _ _ hfollows => hfollows.next_eq
    last := fun _ _ hinstrs => next_of_linked_concat (hinstrs ▸ c.linked)
    ends := fun _ hi => next_le_stop hi
    index_iff := fun _ _ => index_eq_ok
    missing_iff := fun _ => index_eq_error
    instr_iff := fun _ _ => instrAt_eq_ok }

/-- Code is made of what it is given, unless that is malformed, and a plain listing is laid out by the sizes of its
instructions. If the address of the last one fits in a position, a plain listing is refused only when it is empty, has
no room for its arguments or has an empty try range. Addresses are not bounded here, but sums of addresses and sizes do
not go past the end of the code, which is little more than an address of a position when the listing is plain. -/
theorem madeOf_listing (registersSize insSize : Nat) (tries : List TryItem) :
    (∀ listing,
      ((∃ c, locate registersSize insSize listing tries = .ok c) ↔
        listing ≠ [] ∧ insSize ≤ registersSize ∧ (listing.Pairwise fun i j => i.address < j.address) ∧
          ∀ t ∈ tries, t.start < t.stop) ∧
      ∀ c, locate registersSize insSize listing tries = .ok c → c.MadeOf registersSize insSize listing tries) ∧
    ∀ instrs : List Instr,
      (∀ c, assemble registersSize insSize instrs tries = .ok c →
        ∃ listing, c.MadeOf registersSize insSize listing tries ∧ c.stop ≤ maxPositionAddress + 5 ∧
          ∀ n : Nat, listing[n]? = instrs[n]?.map (LocatedInstr.plain (Instr.totalSize (instrs.take n)))) ∧
      (∀ a, assemble registersSize insSize instrs tries ≠ .error (.listing (.addressNotIncreasing a))) ∧
      (Instr.totalSize instrs.dropLast ≤ maxPositionAddress →
        ((∃ e, assemble registersSize insSize instrs tries = .error e) ↔
          instrs = [] ∨ registersSize < insSize ∨ ∃ t ∈ tries, t.stop ≤ t.start)) := by
  refine ⟨fun listing => ⟨exists_locate_iff, fun c hc => madeOf_of_locate hc⟩,
    fun instrs => ⟨fun c hc => ?_, ?_, fun hsize => ?_⟩⟩
  · rcases assemble_cases registersSize insSize instrs tries with ⟨-, heq⟩ | ⟨-, a, heq⟩
    · refine ⟨_, madeOf_of_locate (heq ▸ hc), stop_le_of_assemble hc, fun n => ?_⟩
      rw [LocatedInstr.getElem?_assemble, Address.entry, Nat.zero_add]
    · rw [heq] at hc
      cases hc
  · exact assemble_ne_disorder registersSize insSize instrs tries
  · rw [exists_error_iff, exists_assemble_iff]
    simp only [hsize, true_and, not_and_or, not_forall, Nat.not_lt, Nat.not_le, ne_eq, not_not, exists_prop]

/-! A listing with a try range, given by its instructions and by their addresses with a gap. -/

def copyingInstrs : List Instr := [.const 0 1, .move 1 0, .returnVoid]

def copyingCode : Code where
  __ := ofInstrs 2 0 (.const 0 1) [.move 1 0, .returnVoid]
  tries := [⟨0, 4, [], some 4⟩]
  try_nonempty := by simp

theorem madeOf_listing_copying :
    copyingCode.index 3 = .ok 1 ∧ copyingCode.index 1 = .error (.noInstructionAt 1) ∧
      (∃ listing, copyingCode.MadeOf 2 0 listing [⟨0, 4, [], some 4⟩]) ∧
      (∃ e, assemble 2 3 copyingInstrs [] = .error e) ∧
      ∃ c, locate 1 0 [.plain 2 .nop, .plain 7 .returnVoid] [] = .ok c ∧ c.index 7 = .ok 1 := by
  have hassemble : assemble 2 0 copyingInstrs [⟨0, 4, [], some 4⟩] = .ok copyingCode := rfl
  obtain ⟨listing, hmade, -⟩ := ((madeOf_listing 2 0 [⟨0, 4, [], some 4⟩]).2 copyingInstrs).1 copyingCode hassemble
  have hrefused := ((madeOf_listing 2 3 []).2 copyingInstrs).2.2 (by decide)
  have hlocate : locate 1 0 [.plain 2 .nop, .plain 7 .returnVoid] [] = .ok _ := rfl
  have hgap := ((madeOf_listing 1 0 []).1 _).2 _ hlocate
  refine ⟨(hmade.index_iff 3 1).2 ⟨_, rfl, rfl⟩, (hmade.missing_iff 1).2 ?_, ⟨listing, hmade⟩,
    hrefused.2 (.inr (.inl (by decide))), _, hlocate, (hgap.index_iff 7 1).2 ⟨_, rfl, rfl⟩⟩
  have haddresses : copyingCode.instrs.map (·.address) = [0, 3, 4] := rfl
  intro i hi ha
  have hmem : (1 : Address) ∈ copyingCode.instrs.map (·.address) := List.mem_map.2 ⟨i, hi, ha⟩
  rw [haddresses] at hmem
  revert hmem
  decide

end Code
end Dalvik
