import Dalvik.Proofs.Inheritance

/-!
# Building a hierarchy

A hierarchy is built by edits: classes are registered one by one, and links are set by closing it, any number of times
on the way. What is left of the edits, once it is closed, is the set of definitions: a definition is registered if it
was inserted (`mem_classes_of_edits`), and the links are the ones that the definitions declare
(`inherits_iff_declares`). So assignability does not depend on the order of the edits (`isAssignable_of_edits`), nor on
whether `java.lang.Object` was inserted or came with the first closing.
-/

namespace Dalvik.Hierarchy
open Relation

/-- What is done to a hierarchy while it is built. -/
inductive Edit where
  | insert (k : ClassDef)
  | close

namespace Edit

def apply (h : Hierarchy) : Edit → Except AnalysisError Hierarchy
  | insert k => h.insert k
  | close => .ok h.close

def definition? : Edit → Option ClassDef
  | insert k => some k
  | close => none

end Edit

/-- The definitions that are inserted, in order. -/
def definitions (edits : List Edit) : List ClassDef := edits.filterMap Edit.definition?

theorem mem_definitions {edits : List Edit} {k : ClassDef} :
    k ∈ definitions edits ↔ ∃ e ∈ edits, e.definition? = some k := List.mem_filterMap

/-- The hierarchy that is built by the edits, if no class is inserted twice. -/
def ofEdits (edits : List Edit) : Except AnalysisError Hierarchy := edits.foldlM Edit.apply empty

section
variable (ks : List ClassDef)

/-- The type is defined, or is `java.lang.Object`. -/
def Registered (c : Descriptor) : Prop := c = .javaLangObject ∨ ∃ k ∈ ks, k.type = c

/-- Links from a class to what it inherits from: its superclass if that is registered and `java.lang.Object` otherwise,
and its interfaces that are registered. -/
inductive Declares : Descriptor → Descriptor → Prop
  | superclass {k d} : k ∈ ks → k.type ≠ .javaLangObject → k.superclass = some d → Registered ks d → Declares k.type d
  | object {k} : k ∈ ks → k.type ≠ .javaLangObject → (∀ d, k.superclass = some d → ¬ Registered ks d) →
      Declares k.type .javaLangObject
  | interface {k d} : k ∈ ks → k.type ≠ .javaLangObject → d ∈ k.interfaces → Registered ks d → Declares k.type d

end

variable {h h' : Hierarchy} {edits : List Edit} {ks ks' : List ClassDef} {c d : Descriptor}

/-! ### Edits, one by one -/

theorem mem_withObject {k : ClassDef} (hk : k.type ≠ .javaLangObject) : k ∈ h.withObject.classes ↔ k ∈ h.classes := by
  unfold withObject
  split
  · rfl
  · rw [List.mem_append, List.mem_singleton]
    exact or_iff_left fun heq => hk (heq ▸ rfl)

/-- One edit adds what it defines. -/
theorem mem_classes_of_edit {e : Edit} {k : ClassDef} (hk : k.type ≠ .javaLangObject) (he : e.apply h = .ok h') :
    k ∈ h'.classes ↔ k ∈ h.classes ∨ e.definition? = some k := by
  cases e with
  | insert k' =>
    obtain ⟨-, rfl⟩ := insert_eq_ok he
    rw [List.mem_append, List.mem_singleton]
    exact or_congr_right ⟨fun heq => heq ▸ rfl, fun heq => (Option.some.inj heq).symm⟩
  | close =>
    cases he
    rw [or_iff_left nofun]
    exact mem_withObject hk

theorem nodup_of_edit {e : Edit} (hnd : (h.classes.map (·.type)).Nodup) (he : e.apply h = .ok h') :
    (h'.classes.map (·.type)).Nodup := by
  cases e with
  | insert k => exact nodup_insert hnd he
  | close =>
    cases he
    exact nodup_withObject hnd

/-- A run of edits adds what the edits define. -/
theorem mem_classes_of_edits {k : ClassDef} (hk : k.type ≠ .javaLangObject)
    (hrun : edits.foldlM Edit.apply h = .ok h') : k ∈ h'.classes ↔ k ∈ h.classes ∨ k ∈ definitions edits := by
  induction edits generalizing h with
  | nil =>
    obtain rfl := pure_eq_ok.1 hrun
    simp [definitions]
  | cons e edits ih =>
    rw [List.foldlM_cons, bind_eq_ok] at hrun
    obtain ⟨h₁, he, hrun⟩ := hrun
    rw [ih hrun, mem_classes_of_edit hk he, or_assoc]
    simp only [mem_definitions, List.mem_cons, exists_eq_or_imp]

/-! ### Closed at last -/

/-- A closed hierarchy of the given definitions, in any order. The definition of `java.lang.Object` is left open. -/
structure ClosedOver (h : Hierarchy) (ks : List ClassDef) : Prop extends h.Closed where
  mem : ∀ k, k.type ≠ .javaLangObject → (k ∈ h.classes ↔ k ∈ ks)

theorem closedOver_of_edits (hedits : ofEdits edits = .ok h) (hlast : edits.getLast? = some .close) :
    h.ClosedOver (definitions edits) := by
  refine ⟨?_, fun k hk => by simpa [empty] using mem_classes_of_edits hk hedits⟩
  obtain ⟨edits, rfl⟩ := List.getLast?_eq_some_iff.1 hlast
  rw [ofEdits, List.foldlM_append, bind_eq_ok] at hedits
  obtain ⟨h₁, hrun, hclose⟩ := hedits
  obtain ⟨h₂, hclose, hh⟩ := bind_eq_ok.1 hclose
  cases hclose
  obtain rfl := pure_eq_ok.1 hh
  exact closed_close (foldlM_preserves (P := fun h => (h.classes.map (·.type)).Nodup)
    (fun _ _ _ _ hnd he => nodup_of_edit hnd he) nodup_empty hrun)

namespace ClosedOver
variable (hh : h.ClosedOver ks)
include hh

theorem contains_iff_registered : h.contains c = true ↔ Registered ks c := by
  constructor
  · intro hc
    obtain ⟨k, hk, rfl⟩ := contains_iff.1 hc
    by_cases hobject : k.type = .javaLangObject
    · exact .inl hobject
    · exact .inr ⟨k, (hh.mem k hobject).1 hk, rfl⟩
  · rintro (rfl | ⟨k, hk, rfl⟩)
    · exact hh.object
    · by_cases hobject : k.type = .javaLangObject
      · rw [hobject]
        exact hh.object
      · exact contains_iff.2 ⟨k, (hh.mem k hobject).2 hk, rfl⟩

theorem mem_parents_iff {k : ClassDef} (hobject : k.type ≠ .javaLangObject) :
    d ∈ h.parents k ↔ (k.superclass = some d ∧ Registered ks d ∨
      d = .javaLangObject ∧ ∀ e, k.superclass = some e → ¬ Registered ks e) ∨
      d ∈ k.interfaces ∧ Registered ks d := by
  rw [parents, if_neg hobject, List.mem_cons, List.mem_filter, hh.contains_iff_registered]
  refine or_congr_left ?_
  cases hsuper : k.superclass.filter h.contains with
  | none =>
    have hnone : ∀ e, k.superclass = some e → ¬ Registered ks e := fun e he hreg =>
      Option.filter_eq_none_iff.1 hsuper e he (hh.contains_iff_registered.2 hreg)
    constructor
    · rintro rfl
      exact .inr ⟨rfl, hnone⟩
    · rintro (⟨hd, hreg⟩ | ⟨rfl, -⟩)
      · exact absurd hreg (hnone d hd)
      · rfl
  | some e =>
    obtain ⟨he, hcontains⟩ := Option.filter_eq_some_iff.1 hsuper
    have hreg : Registered ks e := hh.contains_iff_registered.1 hcontains
    constructor
    · rintro rfl
      exact .inl ⟨he, hreg⟩
    · rintro (⟨hd, -⟩ | ⟨-, hnone⟩)
      · exact Option.some.inj (hd.symm.trans he)
      · exact absurd hreg (hnone e he)

theorem inherits_iff_declares : h.Inherits c d ↔ Declares ks c d := by
  rw [hh.inherits_iff]
  constructor
  · rintro ⟨k, hk, hd⟩
    obtain ⟨hmem, rfl⟩ := hh.classDef?_eq_some.1 hk
    have hobject : k.type ≠ .javaLangObject := (hh.inherits_cases hk (hh.inherits_iff.2 ⟨k, hk, hd⟩)).1
    have hmem := (hh.mem k hobject).1 hmem
    rcases (hh.mem_parents_iff hobject).1 hd with (⟨hd, hreg⟩ | ⟨rfl, hnone⟩) | ⟨hd, hreg⟩
    · exact .superclass hmem hobject hd hreg
    · exact .object hmem hobject hnone
    · exact .interface hmem hobject hd hreg
  · intro hcd
    -- whatever is declared, the definition that declares it is the registered one
    have hparent : ∀ {k : ClassDef} {d}, k ∈ ks → k.type ≠ .javaLangObject → d ∈ h.parents k →
        ∃ k', h.classDef? k.type = some k' ∧ d ∈ h.parents k' := fun hk hobject hd =>
      ⟨_, hh.classDef?_eq_some.2 ⟨(hh.mem _ hobject).2 hk, rfl⟩, hd⟩
    cases hcd with
    | superclass hk hobject hd hreg =>
      exact hparent hk hobject ((hh.mem_parents_iff hobject).2 (.inl (.inl ⟨hd, hreg⟩)))
    | object hk hobject hnone =>
      exact hparent hk hobject ((hh.mem_parents_iff hobject).2 (.inl (.inr ⟨rfl, hnone⟩)))
    | interface hk hobject hd hreg =>
      exact hparent hk hobject ((hh.mem_parents_iff hobject).2 (.inr ⟨hd, hreg⟩))

/-- Assignability of classes is the closure of what is declared. -/
theorem isSubclass_iff_declares : h.isSubclass c d = true ↔ c = d ∨ d = .javaLangObject ∨
    Registered ks c ∧ Registered ks d ∧ ReflTransGen (Declares ks) c d := by
  have hrel : h.Inherits = Declares ks := by
    funext c d
    exact propext hh.inherits_iff_declares
  rw [isSubclass, Bool.or_eq_true, Bool.or_eq_true, Bool.and_eq_true, Bool.and_eq_true, decide_eq_true_eq,
    decide_eq_true_eq, decide_eq_true_eq, hh.contains_iff_registered, hh.contains_iff_registered, mem_ancestors, hrel,
    or_assoc, and_assoc]

end ClosedOver

/-- Two closed hierarchies of the same definitions agree on all types. -/
theorem isAssignable_congr (hh : h.ClosedOver ks) (hh' : h'.ClosedOver ks')
    (hks : ∀ k, k.type ≠ .javaLangObject → (k ∈ ks ↔ k ∈ ks')) : h.isAssignable = h'.isAssignable := by
  have hover : h'.ClosedOver ks := ⟨hh'.toClosed, fun k hk => (hh'.mem k hk).trans (hks k hk).symm⟩
  have hsub : h.isSubclass = h'.isSubclass := by
    funext c d
    rw [Bool.eq_iff_iff, hh.isSubclass_iff_declares, hover.isSubclass_iff_declares]
  funext c d
  simp only [isAssignable, hsub]

/-- Assignability of classes, once a hierarchy is closed, is the closure of the links that its definitions declare,
however it was built; and it is the same for all ways to build it from the same definitions. -/
theorem isAssignable_of_edits (hedits : ofEdits edits = .ok h) (hlast : edits.getLast? = some .close) :
    (∀ c d : Descriptor, c.isClass = true → d.isClass = true →
      (h.isAssignable c d = true ↔ c = d ∨ d = .javaLangObject ∨ Registered (definitions edits) c ∧
        Registered (definitions edits) d ∧ ReflTransGen (Declares (definitions edits)) c d)) ∧
      ∀ edits' h', ofEdits edits' = .ok h' → edits'.getLast? = some .close →
        (∀ k, k.type ≠ .javaLangObject → (k ∈ definitions edits ↔ k ∈ definitions edits')) →
        ∀ c d, h.isAssignable c d = h'.isAssignable c d := by
  have hh := closedOver_of_edits hedits hlast
  constructor
  · intro c d hc hd
    rw [isAssignable_of_isClass hc hd]
    exact hh.isSubclass_iff_declares
  · intro edits' h' hedits' hlast' hks c d
    rw [isAssignable_congr hh (closedOver_of_edits hedits' hlast') hks]

/-! Puppies are dogs, and dogs run. Nothing is known of the animals that dogs are. -/

def puppyDef : ClassDef := ⟨.object "Puppy", 1, some (.object "Dog"), [], [], none⟩

def dogDef : ClassDef := ⟨.object "Dog", 1, some (.object "Animal"), [.object "Runs", .object "Barks"], [], none⟩

def runsDef : ClassDef := ⟨.object "Runs", 0x201, none, [], [], none⟩

def objectDef : ClassDef := ⟨.javaLangObject, 1, none, [], [], none⟩

/-- The hierarchy is closed before the superclass of the first class is known. -/
def hastyEdits : List Edit := [.insert puppyDef, .close, .insert dogDef, .insert runsDef, .close]

def orderlyEdits : List Edit := [.insert objectDef, .insert runsDef, .insert dogDef, .insert puppyDef, .close]

def hasty : Hierarchy where
  classes := [puppyDef, objectDef, dogDef, runsDef]
  links := [⟨.object "Puppy", .object "Dog"⟩, ⟨.object "Dog", .javaLangObject⟩, ⟨.object "Dog", .object "Runs"⟩,
    ⟨.object "Runs", .javaLangObject⟩]

def orderly : Hierarchy where
  classes := [objectDef, runsDef, dogDef, puppyDef]
  links := [⟨.object "Runs", .javaLangObject⟩, ⟨.object "Dog", .javaLangObject⟩, ⟨.object "Dog", .object "Runs"⟩,
    ⟨.object "Puppy", .object "Dog"⟩]

theorem isAssignable_of_edits_puppy : ofEdits hastyEdits = .ok hasty ∧ ofEdits orderlyEdits = .ok orderly ∧
    hasty.isAssignable (.object "Puppy") (.object "Runs") = true ∧
    ∀ c d, hasty.isAssignable c d = orderly.isAssignable c d := by
  have hhasty : ofEdits hastyEdits = .ok hasty := rfl
  have horderly : ofEdits orderlyEdits = .ok orderly := rfl
  have hdefs : definitions hastyEdits = [puppyDef, dogDef, runsDef] := rfl
  obtain ⟨hiff, hsame⟩ := isAssignable_of_edits hhasty rfl
  rw [hdefs] at hiff hsame
  have hpuppy : Registered [puppyDef, dogDef, runsDef] (.object "Puppy") := .inr ⟨puppyDef, by simp, rfl⟩
  have hdog : Registered [puppyDef, dogDef, runsDef] (.object "Dog") := .inr ⟨dogDef, by simp, rfl⟩
  have hruns : Registered [puppyDef, dogDef, runsDef] (.object "Runs") := .inr ⟨runsDef, by simp, rfl⟩
  have hpath : ReflTransGen (Declares [puppyDef, dogDef, runsDef]) (.object "Puppy") (.object "Runs") :=
    .head (.superclass (k := puppyDef) (by simp) (by decide) rfl hdog)
      (.single (.interface (k := dogDef) (by simp) (by decide) List.mem_cons_self hruns))
  refine ⟨hhasty, horderly, (hiff _ _ rfl rfl).2 (.inr (.inr ⟨hpuppy, hruns, hpath⟩)),
    hsame orderlyEdits orderly horderly rfl fun k hk => ?_⟩
  have hobject : k ≠ objectDef := fun heq => hk (heq ▸ rfl)
  show k ∈ [puppyDef, dogDef, runsDef] ↔ k ∈ [objectDef, runsDef, dogDef, puppyDef]
  simp only [List.mem_cons, List.not_mem_nil, or_false, hobject, false_or]
  tauto

end Dalvik.Hierarchy
