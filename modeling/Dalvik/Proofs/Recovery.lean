import Dalvik.Proofs.Errors
import Dalvik.Proofs.Frame

/-!
# Recovery from complaints

The analysis of an instruction goes on after a complaint. The checks read the registers of the instruction only, and
recovery writes its destination, so with these in the register file there is no error to end the analysis with, unless a
value is declared `void`. There is one exception: recovery from a narrow access to a wide field writes a pair, and the
register after the destination need not be in the file (`Context.failure_eq_none_iff`).
-/

namespace Dalvik

namespace TypeState
variable {s : TypeState} {r : Reg} {t : RegisterType}

theorem failure_write : (s.write r t).failure = none ↔ r < s.size := by
  unfold write
  split
  · next hr => exact iff_of_true rfl hr
  · next hr => exact iff_of_false (Option.some_ne_none _) hr

theorem failure_writePair : (s.writePair r t).failure = none ↔ ∀ r' ∈ Reg.span true r, r' < s.size := by
  have hspan : (∀ r' ∈ Reg.span true r, r' < s.size) ↔ r < s.size ∧ Reg.next r < s.size := by simp [Reg.span]
  rw [hspan, writePair]
  split
  · next hlow =>
    rw [Option.isSome_iff_ne_none, Ne, failure_write] at hlow
    rw [failure_write]
    exact iff_of_false hlow fun h => hlow h.1
  · next hlow =>
    rw [Option.isSome_iff_ne_none, Ne, not_not, failure_write] at hlow
    rw [failure_write, size_write]
    exact (and_iff_right hlow).symm

end TypeState

theorem Context.failure_perform {ctx : Context} {sites : AllocationSites} {pc : Address} {s : TypeState} {e : Effect} :
    (ctx.perform sites pc s e).failure = none ↔ ∀ r ∈ e.writes, r < s.size := by
  cases e with
  | skip | yield | construct => simp [perform, Effect.writes]
  | write r t =>
    simp only [Effect.writes, List.mem_singleton, forall_eq]
    exact TypeState.failure_write
  | writePair r t => exact TypeState.failure_writePair
  | allocate dst type =>
    rw [← s.size_replace (ctx.allocated sites pc type) .conflict]
    simp only [Effect.writes, List.mem_singleton, forall_eq]
    exact TypeState.failure_write

theorem Instr.overhang?_mem_recovery {i : Instr} {r : Reg} (h : i.overhang? = some r) : r ∈ i.recovery.writes := by
  cases i with
  | iget access dst object field | sget access dst field =>
    simp only [overhang?, Option.ite_none_right_eq_some, Bool.and_eq_true, Option.some.injEq] at h
    obtain ⟨⟨hfield, -⟩, rfl⟩ := h
    rw [recovery, Effect.writes_writeTyped, RegisterType.isWide_declared, hfield]
    exact Reg.mem_span_true.2 (.inr rfl)
  | _ => cases h

namespace Context
variable {ctx : Context} {sites : AllocationSites} {s : TypeState} {i : LabeledInstr}

/-- When the registers of the instruction are in the file, the analysis goes on, with a complaint or without one. -/
theorem failure_eq_none_iff (hregs : ∀ r ∈ i.instr.reads ++ i.instr.writes, r < s.size)
    (hvoid : .void ∉ i.instr.valueTypes) :
    (ctx.transfer sites s i).failure = none ↔ ∀ r, i.instr.overhang? = some r → r < s.size := by
  unfold transfer
  split
  · next e he =>
    have hoverhang := Instr.overhang?_of_effect he
    refine iff_of_true (failure_perform.2 fun r hr => ?_) fun r hr => by rw [hoverhang] at hr; cases hr
    rw [(Instr.checked_of_effect he).writes] at hr
    exact hregs r (List.mem_append_right _ hr)
  · next e he =>
    -- no register that is read is missing, so no error is allowed
    have hallows : s.Allows (fun _ => False) i.instr.reads := fun r hr hsize =>
      Nat.not_lt.2 hsize (hregs r (List.mem_append_left _ hr))
    exact (i.instr.errsOnly_effect hallows hvoid e he).elim
  · refine failure_perform.trans ⟨fun h r hr => h r (Instr.overhang?_mem_recovery hr), fun h r hr => ?_⟩
    rcases Instr.mem_destination (i.instr.writes_recovery hr) with hmem | hr
    · exact hregs r hmem
    · exact h r hr

end Context

/-! A field of two registers is read into one, in a file of so many registers. -/

def emptyFile (size : Nat) : TypeState := { slots := Array.replicate size ⟨.unknown, none⟩, expected := none }

def readsTotal : LabeledInstr := .plain 0 2 (.sget .plain 0 ⟨.object "Shelter", "total", .prim .long⟩)

theorem failure_readsTotal :
    (∀ r ∈ readsTotal.instr.reads ++ readsTotal.instr.writes, r < (emptyFile 2).size) ∧
      .void ∉ readsTotal.instr.valueTypes ∧ (shelter.transfer {} (emptyFile 2) readsTotal).failure = none := by
  refine ⟨by decide, by decide, (Context.failure_eq_none_iff (by decide) (by decide)).2 fun r hr => ?_⟩
  cases hr
  decide

/-- The complaint about the access is lost, since the pair that recovery writes does not fit in the file. -/
theorem recovery_ends_analysis :
    (∀ r ∈ readsTotal.instr.reads ++ readsTotal.instr.writes, r < (emptyFile 1).size) ∧
      .void ∉ readsTotal.instr.valueTypes ∧
      (shelter.transfer {} (emptyFile 1) readsTotal).failure = some (.outOfBounds 1) :=
  ⟨by decide, by decide, by cbv⟩

end Dalvik
