import Dalvik.Proofs.Blocks

/-!
# Edges of a flow graph

A flow graph looks at the last instruction of each block only. This is enough: what follows an instruction that
branches, returns or may throw is a leader, so no such instruction stands inside a block. Every address that an
instruction may lead to is a leader too, so where an instruction stands there a block starts.

`FlowGraph.ofCode_traces` says what the graph is in terms of single instructions: when there is one, and which edges
leave a block.
-/

namespace Dalvik

section
variable {ε α β γ : Type} {f : α → Except ε β}

theorem exists_mapM_eq_ok {l : List α} : (∃ l', l.mapM f = .ok l') ↔ ∀ a ∈ l, ∃ b, f a = .ok b := by
  induction l with
  | nil => simp [pure, Except.pure]
  | cons a l ih =>
    simp only [List.mapM_cons, bind_eq_ok, pure_eq_ok, List.forall_mem_cons, ← ih]
    constructor
    · rintro ⟨_, b, hb, bs, hbs, -⟩
      exact ⟨⟨b, hb⟩, bs, hbs⟩
    · rintro ⟨⟨b, hb⟩, bs, hbs⟩
      exact ⟨b :: bs, b, hb, bs, hbs, rfl⟩

theorem map_of_mapM {l : List α} {l' : List β} {p : α → γ} {q : β → γ} (h : l.mapM f = .ok l')
    (hpq : ∀ a b, f a = .ok b → q b = p a) : l'.map q = l.map p := by
  induction l generalizing l' with
  | nil =>
    obtain rfl : [] = l' := by simpa [pure_eq_ok] using h
    rfl
  | cons a l ih =>
    simp only [List.mapM_cons, bind_eq_ok, pure_eq_ok] at h
    obtain ⟨b, hb, bs, hbs, rfl⟩ := h
    rw [List.map_cons, List.map_cons, hpq a b hb, ih hbs]

end

namespace Code

def HasInstr (c : Code) (a : Address) : Prop := ∃ i ∈ c.instrs, i.address = a

/-- The second instruction comes right after the first one in the listing. -/
def Follows (c : Code) (i j : LabeledInstr) : Prop := ∃ is js, c.instrs = is ++ i :: j :: js

def FirstCovering (c : Code) (a : Address) (t : TryItem) : Prop :=
  ∃ ts us, c.tries = ts ++ t :: us ∧ (∀ u ∈ ts, u.covers a = false) ∧ t.covers a = true

/-- All branches of instructions, and the handlers of those that may throw, are at instructions. -/
def Targeted (c : Code) : Prop :=
  ∀ i ∈ c.instrs, (∀ x ∈ i.branching, c.HasInstr x.2) ∧
    (i.instr.canThrow = true → ∀ t, c.FirstCovering i.address t →
      (∀ h ∈ t.handlers, c.HasInstr h.target) ∧ ∀ a ∈ t.catchAll, c.HasInstr a)

/-- Where the exceptions of an instruction go. -/
inductive Raises (c : Code) (i : LabeledInstr) : List (Branch × Address) → Prop
  | never : i.instr.canThrow = false → Raises c i []
  | uncaught : (∀ t ∈ c.tries, t.covers i.address = false) → Raises c i []
  | caught {t : TryItem} : i.instr.canThrow = true → c.FirstCovering i.address t →
      Raises c i (t.handlers.map (fun h => (.caught h.type, h.target)) ++ t.catchAll.toList.map (.caughtAny, ·))

/-- The address starts a block, if an instruction is there. -/
inductive IsLeader (c : Code) : Address → Prop
  | target {i : LabeledInstr} {x : Branch × Address} : i ∈ c.instrs → x ∈ i.branching → IsLeader c x.2
  | afterBranch {i : LabeledInstr} : i ∈ c.instrs → i.branching ≠ [] → IsLeader c i.next
  | afterReturn {i : LabeledInstr} : i ∈ c.instrs → i.instr.doesReturn = true → IsLeader c i.next
  | throwing {i : LabeledInstr} : i ∈ c.instrs → i.instr.canThrow = true → IsLeader c i.address
  | afterThrowing {i : LabeledInstr} : i ∈ c.instrs → i.instr.canThrow = true → IsLeader c i.next
  | tryStart {t : TryItem} : t ∈ c.tries → IsLeader c t.start
  | tryStop {t : TryItem} : t ∈ c.tries → IsLeader c t.stop
  | handler {t : TryItem} {h : Handler} : t ∈ c.tries → h ∈ t.handlers → IsLeader c h.target
  | catchAll {t : TryItem} {a : Address} : t ∈ c.tries → t.catchAll = some a → IsLeader c a

/-- Where an instruction goes on without further ado. -/
def sequel (c : Code) (i : LabeledInstr) : List (Branch × Address) :=
  if i.branching.isEmpty ∧ i.instr.doesReturn = false ∧ i.instr.isThrow = false ∧
      i.address ≠ (c.instrs.getLast c.instrs_ne_nil).address
  then [(.sequence, i.next)] else []

def exits (c : Code) (i : LabeledInstr) : List (Branch × Address) := c.sequel i ++ i.branching ++ c.catches i

end Code

theorem Block.eq_last_of_split {b : Block} {is : List LabeledInstr} {i : LabeledInstr} (h : b.instrs = is ++ [i]) :
    i = b.last := by
  rw [b.instrs_eq_append] at h
  exact (List.singleton_inj.1 (List.append_inj' h rfl).2).symm

theorem LabeledInstr.endsBlock_iff {i : LabeledInstr} : i.endsBlock = true ↔
    i.branching ≠ [] ∨ i.instr.canThrow = true ∨ i.instr.doesReturn = true := by
  simp [endsBlock, or_assoc]

theorem LabeledInstr.endsBlock_eq_false_iff {i : LabeledInstr} : i.endsBlock = false ↔
    i.branching = [] ∧ i.instr.canThrow = false ∧ i.instr.doesReturn = false := by
  simp [endsBlock, and_assoc]

theorem TryItem.mem_branches {t : TryItem} {x : Branch × Address} :
    x ∈ t.branches ↔ (∃ h ∈ t.handlers, x = (.caught h.type, h.target)) ∨ ∃ a ∈ t.catchAll, x = (.caughtAny, a) := by
  simp [branches, eq_comm]

namespace Code
variable {c : Code} {i j : LabeledInstr} {b b' : Block} {a : Address}

theorem next_eq_of_linked {is js : List LabeledInstr} (h : Linked (is ++ i :: j :: js)) :
    i.next = j.address ∧ i.address < j.address := by
  induction is with
  | nil => exact ⟨h.1, h.2.1⟩
  | cons k is ih =>
    apply ih
    cases is with
    | nil => exact h.2.2
    | cons k' is => exact h.2.2

theorem Follows.next_eq (h : c.Follows i j) : i.next = j.address := by
  obtain ⟨is, js, hsplit⟩ := h
  exact (next_eq_of_linked (hsplit ▸ c.linked)).1

theorem Follows.address_lt (h : c.Follows i j) : i.address < j.address := by
  obtain ⟨is, js, hsplit⟩ := h
  exact (next_eq_of_linked (hsplit ▸ c.linked)).2

theorem Follows.mem_left (h : c.Follows i j) : i ∈ c.instrs := by
  obtain ⟨is, js, hsplit⟩ := h
  simp [hsplit]

theorem Follows.mem_right (h : c.Follows i j) : j ∈ c.instrs := by
  obtain ⟨is, js, hsplit⟩ := h
  simp [hsplit]

theorem next_of_linked_concat {is : List LabeledInstr} (h : Linked (is ++ [i])) :
    i.next = i.address + i.instr.size := by
  induction is with
  | nil => exact h
  | cons k is ih =>
    apply ih
    cases is with
    | nil => exact h.2.2
    | cons k' is => exact h.2.2

theorem Follows.of_next (hi : i ∈ c.instrs) (hj : j ∈ c.instrs) (h : i.next = j.address) : c.Follows i j := by
  obtain ⟨is, js, hsplit⟩ := List.append_of_mem hi
  cases js with
  | nil =>
    have hnext := next_of_linked_concat (hsplit ▸ c.linked)
    have hp := c.linked.pairwise
    have hle : j.address ≤ i.address := by
      rw [hsplit] at hj hp
      rcases List.mem_append.1 hj with hj | hj
      · exact Nat.le_of_lt ((List.pairwise_append.1 hp).2.2 j hj i (List.mem_singleton_self i))
      · rw [List.mem_singleton.1 hj]
    have hlt : i.address < j.address := by
      rw [← h, hnext]
      exact Nat.lt_add_of_pos_right i.instr.size_pos
    exact absurd hle (Nat.not_le_of_lt hlt)
  | cons k js =>
    have hfollows : c.Follows i k := ⟨is, js, hsplit⟩
    rwa [← eq_of_address hfollows.mem_right hj (hfollows.next_eq ▸ h)]

theorem follows_or_eq_getLast (hi : i ∈ c.instrs) :
    (∃ j, c.Follows i j) ∨ i = c.instrs.getLast c.instrs_ne_nil := by
  obtain ⟨is, js, hsplit⟩ := List.append_of_mem hi
  cases js with
  | nil => exact .inr (by simp [hsplit])
  | cons j js => exact .inl ⟨j, is, js, hsplit⟩

/-- The address after the last instruction. -/
def stop (c : Code) : Address := (c.instrs.getLast c.instrs_ne_nil).next

theorem stop_eq (c : Code) :
    ∃ i ∈ c.instrs, c.stop = i.address + i.instr.size ∧ ∀ j ∈ c.instrs, j.address ≤ i.address := by
  have hsplit := (List.dropLast_concat_getLast c.instrs_ne_nil).symm
  have hp := c.linked.pairwise
  refine ⟨_, List.getLast_mem c.instrs_ne_nil, next_of_linked_concat (hsplit ▸ c.linked), fun j hj => ?_⟩
  rw [hsplit] at hj hp
  rcases List.mem_append.1 hj with hj | hj
  · exact Nat.le_of_lt ((List.pairwise_append.1 hp).2.2 j hj _ (List.mem_singleton_self _))
  · rw [List.mem_singleton.1 hj]

/-- No address that instructions are linked by is past the end of the code. -/
theorem next_le_stop (hi : i ∈ c.instrs) : i.next ≤ c.stop := by
  rcases follows_or_eq_getLast hi with ⟨j, hj⟩ | rfl
  · obtain ⟨last, -, hstop, hle⟩ := c.stop_eq
    rw [hj.next_eq, hstop]
    exact Nat.le_add_right_of_le (hle j hj.mem_right)
  · exact Nat.le_refl _

theorem Follows.address_ne_getLast (h : c.Follows i j) :
    i.address ≠ (c.instrs.getLast c.instrs_ne_nil).address := by
  intro haddr
  obtain ⟨is, js, hsplit⟩ := h
  have hp := c.linked.pairwise
  have hlast : c.instrs.getLast c.instrs_ne_nil ∈ j :: js := by
    rw [List.getLast_congr _ (by simp) hsplit, List.getLast_append_of_ne_nil (by simp) (by simp),
      List.getLast_cons (by simp)]
    exact List.getLast_mem _
  rw [hsplit] at hp
  have hlt := (List.pairwise_cons.1 (List.pairwise_append.1 hp).2.1).1 _ hlast
  exact Nat.ne_of_lt hlt haddr

theorem raises_catches (c : Code) (i : LabeledInstr) : c.Raises i (c.catches i) := by
  unfold catches
  split
  · next ht =>
    cases hfind : c.tries.find? (·.covers i.address) with
    | none => exact .uncaught (by simpa using hfind)
    | some t =>
      obtain ⟨hcov, ts, us, hsplit, hnot⟩ := List.find?_eq_some_iff_append.1 hfind
      exact .caught ht ⟨ts, us, hsplit, by simpa using hnot, hcov⟩
  · next ht => exact .never (Bool.eq_false_iff.2 ht)

theorem catches_eq {t : TryItem} (ht : i.instr.canThrow = true) (hcov : c.FirstCovering i.address t) :
    c.catches i = t.branches := by
  obtain ⟨ts, us, hsplit, hnot, hcov⟩ := hcov
  have hfind : c.tries.find? (·.covers i.address) = some t :=
    List.find?_eq_some_iff_append.2 ⟨hcov, ts, us, hsplit, by simpa using hnot⟩
  rw [catches, if_pos ht, hfind]
  rfl

theorem targeted_iff : c.Targeted ↔ ∀ i ∈ c.instrs, ∀ x ∈ i.branching ++ c.catches i, c.HasInstr x.2 := by
  refine forall₂_congr fun i hi => ?_
  rw [List.forall_mem_append]
  refine and_congr_right fun _ => ⟨fun h => ?_, fun h ht t hcov => ?_⟩
  · have hraises := c.raises_catches i
    generalize c.catches i = raised at hraises
    cases hraises with
    | never | uncaught => exact fun x hx => absurd hx List.not_mem_nil
    | @caught t ht hcov =>
      obtain ⟨hhandlers, hall⟩ := h ht t hcov
      intro x hx
      rcases TryItem.mem_branches.1 hx with ⟨h, hh, rfl⟩ | ⟨a, ha, rfl⟩
      · exact hhandlers h hh
      · exact hall a ha
  · rw [catches_eq ht hcov] at h
    exact ⟨fun hd hhd => h _ (TryItem.mem_branches.2 (.inl ⟨hd, hhd, rfl⟩)),
      fun a ha => h _ (TryItem.mem_branches.2 (.inr ⟨a, ha, rfl⟩))⟩

theorem mem_leadersOf : a ∈ leadersOf i ↔
    (i.endsBlock = true ∧ a = i.next) ∨ (∃ x ∈ i.branching, x.2 = a) ∨ (i.instr.canThrow = true ∧ a = i.address) := by
  simp only [leadersOf, List.mem_append, List.mem_map, List.mem_ite_nil_right, List.mem_singleton, or_assoc]

theorem mem_leaders_iff : a ∈ c.leaders ↔ c.IsLeader a := by
  simp only [leaders, List.mem_append, List.mem_flatMap, mem_leadersOf,
    LabeledInstr.endsBlock_iff, List.mem_cons, List.mem_map, TryItem.mem_branches]
  constructor
  · rintro (⟨i, hi, ⟨hbranch | hthrow | hreturn, rfl⟩ | ⟨x, hx, rfl⟩ | ⟨hthrow, rfl⟩⟩ |
      ⟨t, ht, rfl | rfl | ⟨x, ⟨h, hh, rfl⟩ | ⟨a, ha, rfl⟩, rfl⟩⟩)
    · exact .afterBranch hi hbranch
    · exact .afterThrowing hi hthrow
    · exact .afterReturn hi hreturn
    · exact .target hi hx
    · exact .throwing hi hthrow
    · exact .tryStart ht
    · exact .tryStop ht
    · exact .handler ht hh
    · exact .catchAll ht ha
  · intro h
    cases h with
    | target hi hx => exact .inl ⟨_, hi, .inr (.inl ⟨_, hx, rfl⟩)⟩
    | afterBranch hi h => exact .inl ⟨_, hi, .inl ⟨.inl h, rfl⟩⟩
    | afterReturn hi h => exact .inl ⟨_, hi, .inl ⟨.inr (.inr h), rfl⟩⟩
    | throwing hi h => exact .inl ⟨_, hi, .inr (.inr ⟨h, rfl⟩)⟩
    | afterThrowing hi h => exact .inl ⟨_, hi, .inl ⟨.inr (.inl h), rfl⟩⟩
    | tryStart ht => exact .inr ⟨_, ht, .inl rfl⟩
    | tryStop ht => exact .inr ⟨_, ht, .inr (.inl rfl)⟩
    | handler ht hh => exact .inr ⟨_, ht, .inr (.inr ⟨_, .inl ⟨_, hh, rfl⟩, rfl⟩)⟩
    | catchAll ht ha => exact .inr ⟨_, ht, .inr (.inr ⟨_, .inr ⟨_, ha, rfl⟩, rfl⟩)⟩

theorem next_mem_leaders (hi : i ∈ c.instrs) (he : i.endsBlock = true) : i.next ∈ c.leaders := by
  rw [mem_leaders_iff]
  rcases LabeledInstr.endsBlock_iff.1 he with hbranch | hthrow | hreturn
  · exact .afterBranch hi hbranch
  · exact .afterThrowing hi hthrow
  · exact .afterReturn hi hreturn

theorem target_mem_leaders (hi : i ∈ c.instrs) {x : Branch × Address} (hx : x ∈ i.branching ++ c.catches i) :
    x.2 ∈ c.leaders := by
  rw [mem_leaders_iff]
  rcases List.mem_append.1 hx with hx | hx
  · exact .target hi hx
  · obtain ⟨t, ht, hx⟩ := mem_branches_of_catches hx
    rcases TryItem.mem_branches.1 hx with ⟨h, hh, rfl⟩ | ⟨a, ha, rfl⟩
    · exact .handler ht hh
    · exact .catchAll ht ha

/-! ### Neighbours in blocks -/

theorem exists_block (hi : i ∈ c.instrs) : ∃ b ∈ c.blocks, i ∈ b.instrs := by
  rw [← c.flatMap_instrs_blocks] at hi
  exact List.mem_flatMap.1 hi

theorem block_unique (hb : b ∈ c.blocks) (hb' : b' ∈ c.blocks) (hi : i ∈ b.instrs) (hi' : i ∈ b'.instrs) : b = b' := by
  by_contra hne
  have hdisjoint : c.blocks.Pairwise fun b b' => ∀ i ∈ b.instrs, i ∉ b'.instrs :=
    c.pairwise_blocks.2.imp fun h i hi hi' => Nat.lt_irrefl _ (h i hi i hi')
  have hsymm : Std.Symm fun b b' : Block => ∀ i ∈ b.instrs, i ∉ b'.instrs := ⟨fun _ _ h i hi hi' => h i hi' hi⟩
  exact hdisjoint.forall hb hb' hne i hi hi'

theorem follows_of_block (hb : b ∈ c.blocks) {is js : List LabeledInstr} (h : b.instrs = is ++ i :: j :: js) :
    c.Follows i j := by
  obtain ⟨bs, bs', hsplit⟩ := List.append_of_mem hb
  refine ⟨bs.flatMap Block.instrs ++ is, js ++ bs'.flatMap Block.instrs, ?_⟩
  rw [← c.flatMap_instrs_blocks, hsplit]
  simp [h]

/-- Neighbours in the listing are neighbours in a block, or end a block and start the next one. -/
theorem neighbours_of_flatMap {bs : List Block} {is js : List LabeledInstr}
    (h : bs.flatMap Block.instrs = is ++ i :: j :: js) :
    (∃ b ∈ bs, ∃ is js, b.instrs = is ++ i :: j :: js) ∨ ∃ b ∈ bs, ∃ b' ∈ bs, b.last = i ∧ b'.first = j := by
  induction bs generalizing is with
  | nil => simp at h
  | cons b bs ih =>
    have lift : (∃ b ∈ bs, ∃ is js, b.instrs = is ++ i :: j :: js) ∨
        (∃ b ∈ bs, ∃ b' ∈ bs, b.last = i ∧ b'.first = j) →
        (∃ b' ∈ b :: bs, ∃ is js, b'.instrs = is ++ i :: j :: js) ∨
          ∃ b₁ ∈ b :: bs, ∃ b₂ ∈ b :: bs, b₁.last = i ∧ b₂.first = j := by
      rintro (⟨b', hb', hsplit⟩ | ⟨b₁, hb₁, b₂, hb₂, heq⟩)
      · exact .inl ⟨b', List.mem_cons_of_mem _ hb', hsplit⟩
      · exact .inr ⟨b₁, List.mem_cons_of_mem _ hb₁, b₂, List.mem_cons_of_mem _ hb₂, heq⟩
    rw [List.flatMap_cons] at h
    rcases List.append_eq_append_iff.1 h with ⟨ks, rfl, hrest⟩ | ⟨ks, hblock, hrest⟩
    · exact lift (ih hrest)
    · rcases ks with _ | ⟨k, _ | ⟨k', ks⟩⟩
      · have hrest : bs.flatMap Block.instrs = [] ++ i :: j :: js := hrest.symm
        exact lift (ih hrest)
      · -- the block ends with the first one of the two
        simp only [List.cons_append, List.nil_append, List.cons.injEq] at hrest
        obtain ⟨rfl, hrest⟩ := hrest
        cases bs with
        | nil => simp at hrest
        | cons b' bs =>
          refine .inr ⟨b, List.mem_cons_self, b', by simp, ?_, ?_⟩
          · exact (Block.eq_last_of_split hblock).symm
          · simp only [List.flatMap_cons, Block.instrs, List.cons_append, List.cons.injEq] at hrest
            exact hrest.1.symm
      · simp only [List.cons_append, List.cons.injEq] at hrest
        obtain ⟨rfl, rfl, rfl⟩ := hrest
        exact .inl ⟨b, List.mem_cons_self, is, ks, hblock⟩

theorem Follows.cases (h : c.Follows i j) :
    (∃ b ∈ c.blocks, ∃ is js, b.instrs = is ++ i :: j :: js) ∨
      ∃ b ∈ c.blocks, ∃ b' ∈ c.blocks, b.last = i ∧ b'.first = j := by
  obtain ⟨is, js, hsplit⟩ := h
  exact neighbours_of_flatMap (c.flatMap_instrs_blocks.trans hsplit)

theorem address_le_last (hb : b ∈ c.blocks) (hi : i ∈ b.instrs) : i.address ≤ b.last.address := by
  have hblock := c.pairwise_blocks.1 b hb
  rw [b.instrs_eq_append] at hblock hi
  rcases List.mem_append.1 hi with hi | hi
  · exact Nat.le_of_lt ((List.pairwise_append.1 hblock).2.2 i hi _ (List.mem_singleton_self _))
  · rw [List.mem_singleton.1 hi]

theorem first_lt (hb : b ∈ c.blocks) (hi : i ∈ b.rest) : b.first.address < i.address :=
  List.rel_of_pairwise_cons (c.pairwise_blocks.1 b hb) hi

/-- What follows the last instruction of a block starts another one. -/
theorem start_of_follows_last (hb : b ∈ c.blocks) (h : c.Follows b.last j) : ∃ b' ∈ c.blocks, b'.first = j := by
  rcases h.cases with ⟨b₁, hb₁, is, js, hsplit⟩ | ⟨_, -, b', hb', -, hfirst⟩
  · obtain rfl : b₁ = b := block_unique hb₁ hb (hsplit ▸ by simp) b.last_mem
    have hle := address_le_last hb (i := j) (hsplit ▸ by simp)
    exact absurd hle (Nat.not_le_of_lt h.address_lt)
  · exact ⟨b', hb', hfirst⟩

theorem mem_rest_of_split {is js : List LabeledInstr} (h : b.instrs = is ++ i :: j :: js) : j ∈ b.rest := by
  cases is with
  | nil =>
    rw [Block.instrs, List.nil_append, List.cons.injEq] at h
    simp [h.2]
  | cons k is =>
    rw [Block.instrs, List.cons_append, List.cons.injEq] at h
    simp [h.2]

/-- An instruction that ends a block whatever follows it does not stand inside one. -/
theorem endsBlock_eq_false (hb : b ∈ c.blocks) {is js : List LabeledInstr} (h : b.instrs = is ++ i :: j :: js) :
    i.endsBlock = false := by
  rw [Bool.eq_false_iff]
  intro hends
  have hfollows := follows_of_block hb h
  have hleader := next_mem_leaders hfollows.mem_left hends
  have hno := Block.isLeader_of_mem_rest hb (mem_rest_of_split h)
  rw [hfollows.next_eq] at hleader
  simp [hleader] at hno

theorem eq_last_or_endsBlock_eq_false (hb : b ∈ c.blocks) (hi : i ∈ b.instrs) : i = b.last ∨ i.endsBlock = false := by
  obtain ⟨is, js, hsplit⟩ := List.append_of_mem hi
  cases js with
  | nil => exact .inl (Block.eq_last_of_split hsplit)
  | cons j js => exact .inr (endsBlock_eq_false hb hsplit)

theorem branches_eq_nil (h : i.endsBlock = false) : i.branching ++ c.catches i = [] := by
  obtain ⟨hbranching, hthrow, -⟩ := LabeledInstr.endsBlock_eq_false_iff.1 h
  simp [hbranching, catches, hthrow]

end Code

/-! ### The graph -/

namespace FlowGraph
variable {c : Code} {g : FlowGraph} {i : LabeledInstr} {b : Block} {a : Address} {n : Nat} {node : Node}

theorem exists_blockIndex? (hb : b ∈ c.blocks) : ∃ n, blockIndex? c.blocks b.start = some n := by
  rw [← Option.isSome_iff_exists, blockIndex?, List.findIdx?_isSome, List.any_eq_true]
  exact ⟨b, hb, by simp⟩

theorem hasInstr_of_blockIndex? (h : blockIndex? c.blocks a = some n) : c.HasInstr a := by
  obtain ⟨b, hb, rfl⟩ := blockIndex?_eq_some h
  exact ⟨b.first, Code.mem_instrs_of_block (List.mem_of_getElem? hb) b.first_mem, rfl⟩

/-- A block starts at every leader where an instruction stands. -/
theorem exists_blockIndex?_of_leader (ha : a ∈ c.leaders) (h : c.HasInstr a) :
    ∃ n, blockIndex? c.blocks a = some n := by
  obtain ⟨i, hi, rfl⟩ := h
  obtain ⟨b, hb, hi⟩ := Code.exists_block hi
  rcases List.mem_cons.1 hi with rfl | hi
  · exact exists_blockIndex? hb
  · have hno := Block.isLeader_of_mem_rest hb hi
    simp [ha] at hno

theorem exists_resolve {x : Branch × Address} (hi : i ∈ c.instrs) (hx : x ∈ i.branching ++ c.catches i) :
    (∃ e, resolve c.blocks i.address x = .ok e) ↔ c.HasInstr x.2 := by
  constructor
  · rintro ⟨e, he⟩
    exact hasInstr_of_blockIndex? (resolve_eq_ok he).2
  · intro h
    obtain ⟨n, hn⟩ := exists_blockIndex?_of_leader (Code.target_mem_leaders hi hx) h
    obtain ⟨branch, target⟩ := x
    exact ⟨⟨branch, n⟩, by rw [resolve, hn]⟩

theorem exists_edgesOf (hi : i ∈ c.instrs) :
    (∃ edges, edgesOf c c.blocks i = .ok edges) ↔ ∀ x ∈ i.branching ++ c.catches i, c.HasInstr x.2 := by
  have hmapM : (∃ edges, edgesOf c c.blocks i = .ok edges) ↔
      ∃ edges, (i.branching ++ c.catches i).mapM (resolve c.blocks i.address) = .ok edges := by
    simp only [edgesOf, bind_eq_ok, pure_eq_ok]
    constructor
    · rintro ⟨_, edges, hedges, -⟩
      exact ⟨edges, hedges⟩
    · rintro ⟨edges, hedges⟩
      exact ⟨_, edges, hedges, rfl⟩
  rw [hmapM, exists_mapM_eq_ok]
  exact forall₂_congr fun x hx => exists_resolve hi hx

theorem exists_ofCode_iff : (∃ g, ofCode c = .ok g) ↔ c.Targeted := by
  have hnodes : (∃ g, ofCode c = .ok g) ↔ ∀ b ∈ c.blocks, ∃ node, nodeOf c c.blocks b = .ok node := by
    rw [← exists_mapM_eq_ok]
    simp only [ofCode, bind_eq_ok, pure_eq_ok]
    constructor
    · rintro ⟨_, nodes, hnodes, -⟩
      exact ⟨nodes, hnodes⟩
    · rintro ⟨nodes, hnodes⟩
      exact ⟨_, nodes, hnodes, rfl⟩
  have hlast : ∀ b ∈ c.blocks, (∃ node, nodeOf c c.blocks b = .ok node) ↔
      ∀ x ∈ b.last.branching ++ c.catches b.last, c.HasInstr x.2 := by
    intro b hb
    rw [← exists_edgesOf (Code.mem_instrs_of_block hb b.last_mem)]
    simp only [nodeOf, bind_eq_ok, pure_eq_ok]
    constructor
    · rintro ⟨_, edges, hedges, -⟩
      exact ⟨edges, hedges⟩
    · rintro ⟨edges, hedges⟩
      exact ⟨_, edges, hedges, rfl⟩
  rw [hnodes, forall₂_congr hlast, Code.targeted_iff]
  constructor
  · intro h i hi x hx
    obtain ⟨b, hb, hi⟩ := Code.exists_block hi
    rcases Code.eq_last_or_endsBlock_eq_false hb hi with rfl | hends
    · exact h b hb x hx
    · simp [Code.branches_eq_nil hends] at hx
  · intro h b hb x hx
    exact h b.last (Code.mem_instrs_of_block hb b.last_mem) x hx

/-- Where an edge leads, by its label and the address of the block. -/
def arrival (g : FlowGraph) (e : Edge) : Branch × Option Address :=
  (e.branch, g.nodes[e.target]?.map (·.block.start))

/-- The graph is the flow of a listing: its blocks are the listing, the edges of a block are those of its last
instruction, each as often as the instruction has it, and no other instruction branches, returns or may throw. -/
structure Traces (c : Code) (g : FlowGraph) : Prop where
  listing : g.blocks.flatMap Block.instrs = c.instrs
  edges : ∀ node ∈ g.nodes, ∃ raised, c.Raises node.block.last raised ∧
    node.edges.map g.arrival =
      (c.sequel node.block.last ++ node.block.last.branching ++ raised).map fun x => (x.1, some x.2)
  inside : ∀ node ∈ g.nodes, ∀ i ∈ node.block.instrs.dropLast,
    i.branching = [] ∧ i.instr.doesReturn = false ∧ i.instr.canThrow = false
  /-- Next addresses need no more room than the end of the code. -/
  ends : ∀ node ∈ g.nodes, ∀ i ∈ node.block.instrs, i.next ≤ c.stop

theorem arrival_of_blockIndex? (hg : ofCode c = .ok g) {branch : Branch} (h : blockIndex? c.blocks a = some n) :
    g.arrival ⟨branch, n⟩ = (branch, some a) := by
  obtain ⟨b, hb, rfl⟩ := blockIndex?_eq_some h
  rw [← blocks_ofCode hg, blocks, List.getElem?_map, Array.getElem?_toList, Option.map_eq_some_iff] at hb
  obtain ⟨node, hnode, rfl⟩ := hb
  simp [arrival, hnode]

theorem arrival_sequenceEdge (hg : ofCode c = .ok g) (hb : b ∈ c.blocks) :
    (sequenceEdge c.blocks b.last).map g.arrival = (c.sequel b.last).map fun x => (x.1, some x.2) := by
  have hmem := Code.mem_instrs_of_block hb b.last_mem
  by_cases hfalls : b.last.fallsThrough = true
  · rw [sequenceEdge, if_pos hfalls]
    simp only [LabeledInstr.fallsThrough, Bool.and_eq_true, Bool.not_eq_true'] at hfalls
    obtain ⟨⟨hbranching, hreturn⟩, hthrow⟩ := hfalls
    rcases Code.follows_or_eq_getLast hmem with ⟨j, hj⟩ | hlast
    · obtain ⟨b', hb', rfl⟩ := Code.start_of_follows_last hb hj
      obtain ⟨n, hn⟩ := exists_blockIndex? hb'
      rw [Code.sequel, if_pos ⟨hbranching, hreturn, hthrow, hj.address_ne_getLast⟩]
      have hnext : blockIndex? c.blocks b.last.next = some n := hj.next_eq ▸ hn
      simp [hnext, arrival_of_blockIndex? hg hnext]
    · rw [Code.sequel, if_neg fun h => h.2.2.2 (congrArg LabeledInstr.address hlast)]
      cases hindex : blockIndex? c.blocks b.last.next with
      | none => rfl
      | some n =>
        obtain ⟨j, hj, haddr⟩ := hasInstr_of_blockIndex? hindex
        exact absurd (congrArg LabeledInstr.address hlast) (Code.Follows.of_next hmem hj haddr.symm).address_ne_getLast
  · rw [sequenceEdge, if_neg hfalls, Code.sequel, if_neg]
    · rfl
    · rintro ⟨hbranching, hreturn, hthrow, -⟩
      simp [LabeledInstr.fallsThrough, hbranching, hreturn, hthrow] at hfalls

/-- The edges of a block are the ways out of its last instruction. -/
theorem arrival_edges (hg : ofCode c = .ok g) (hn : g.nodes[n]? = some node) :
    node.edges.map g.arrival = (c.exits node.block.last).map fun x => (x.1, some x.2) := by
  have hedges := (getElem?_nodes hg hn).2
  simp only [edgesOf, bind_eq_ok, pure_eq_ok] at hedges
  obtain ⟨resolved, hresolved, hedges⟩ := hedges
  rw [← hedges, Code.exits, List.map_append, arrival_sequenceEdge hg (block_mem hg hn), List.append_assoc,
    List.map_append]
  congr 1
  refine map_of_mapM hresolved fun x e he => ?_
  obtain ⟨hbranch, htarget⟩ := resolve_eq_ok he
  rw [← hbranch]
  exact arrival_of_blockIndex? hg htarget

theorem traces_of_ofCode (hg : ofCode c = .ok g) : g.Traces c := by
  refine ⟨?_, fun node hnode => ?_, fun node hnode i hi => ?_, fun node hnode i hi => ?_⟩
  · rw [blocks_ofCode hg, c.flatMap_instrs_blocks]
  · obtain ⟨n, hn⟩ := Array.mem_iff_getElem?.1 hnode
    exact ⟨_, c.raises_catches node.block.last, arrival_edges hg hn⟩
  · obtain ⟨n, hn⟩ := Array.mem_iff_getElem?.1 hnode
    obtain ⟨is, js, hsplit⟩ := List.append_of_mem hi
    obtain ⟨j, js', hjs⟩ : ∃ j js', js ++ [node.block.last] = j :: js' := by
      cases js <;> exact ⟨_, _, rfl⟩
    have hinstrs : node.block.instrs = is ++ i :: j :: js' := by
      rw [node.block.instrs_eq_append, hsplit, ← hjs]
      simp
    obtain ⟨hbranching, hthrow, hreturn⟩ :=
      LabeledInstr.endsBlock_eq_false_iff.1 (Code.endsBlock_eq_false (block_mem hg hn) hinstrs)
    exact ⟨hbranching, hreturn, hthrow⟩
  · obtain ⟨n, hn⟩ := Array.mem_iff_getElem?.1 hnode
    exact Code.next_le_stop (mem_instrs hg hn hi)

/-- A listing has a flow graph exactly when its branches and handlers are at instructions, and the graph is its flow.
Addresses are not bounded here: a machine word holds all of them when it holds the end of the code. -/
theorem ofCode_traces (c : Code) :
    ((∃ g, ofCode c = .ok g) ↔ c.Targeted) ∧ ∀ g, ofCode c = .ok g → g.Traces c :=
  ⟨exists_ofCode_iff, fun _ hg => traces_of_ofCode hg⟩

/-! Two try ranges cover the read of a field, and one of them ends inside an instruction. -/

def guardedCode : Code where
  __ := Code.ofInstrs 1 1 (.ifTestZero .eq 1 9)
    [.iget .plain 0 1 ⟨.object "Dog", "age", .prim .int⟩, .const 0 7, .moveException 0, .nop, .returnVoid]
  tries := [⟨2, 4, [⟨.object "java/lang/RuntimeException", 7⟩], none⟩, ⟨0, 6, [], some 7⟩]
  try_nonempty := by simp

def guardedGraph : FlowGraph where
  nodes := #[
    ⟨⟨.plain 0 2 (.ifTestZero .eq 1 9), []⟩, [⟨.ifTrue 1 .eq .zero, 4⟩, ⟨.ifFalse 1 .eq .zero, 1⟩]⟩,
    ⟨⟨.plain 2 4 (.iget .plain 0 1 ⟨.object "Dog", "age", .prim .int⟩), []⟩,
      [⟨.sequence, 2⟩, ⟨.caught (.object "java/lang/RuntimeException"), 3⟩]⟩,
    ⟨⟨.plain 4 7 (.const 0 7), []⟩, [⟨.sequence, 3⟩]⟩,
    ⟨⟨.plain 7 8 (.moveException 0), [.plain 8 9 .nop]⟩, [⟨.sequence, 4⟩]⟩,
    ⟨⟨.plain 9 10 .returnVoid, []⟩, []⟩]

theorem ofCode_guardedCode : ofCode guardedCode = .ok guardedGraph := rfl

theorem ofCode_traces_guarded : guardedCode.Targeted ∧ guardedGraph.Traces guardedCode := by
  obtain ⟨hiff, htraces⟩ := ofCode_traces guardedCode
  exact ⟨hiff.1 ⟨_, ofCode_guardedCode⟩, htraces _ ofCode_guardedCode⟩

end FlowGraph
end Dalvik
