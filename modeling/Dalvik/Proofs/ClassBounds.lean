import Dalvik.Proofs.ArrayBounds

/-!
# Common supertypes of classes

Common superclasses are looked for by the names that classes declare, while assignability follows links. Both are the
same where superclasses are registered: over a layered hierarchy without cycles the common supertype of two classes is
then the least one of their common supertypes that are no interfaces (`commonSupertype?_least`).

A superclass that is not registered is named and not linked, and its subclasses are not assignable to it. The search
for what a class has in common with such a superclass ends there all the same (`nearest?_of_dangles`), and only if the
class comes first. Apart from these pairs, whatever is registered or not, the common supertype bounds both classes
and does not depend on their order (`commonSupertype?_classes_iff`).
-/

namespace Dalvik.Hierarchy
open Relation

variable {h : Hierarchy} {b c d e t : Descriptor}

namespace Closed
variable (hh : h.Closed)
include hh

theorem contains_of_superclass? (hcd : h.superclass? c = some d) : h.contains c = true := by
  obtain ⟨k, hk, -⟩ := Option.bind_eq_some_iff.1 hcd
  exact hh.contains_of_classDef? hk

theorem ne_object_of_not_contains (hd : h.contains d = false) : d ≠ .javaLangObject := by
  rintro rfl
  rw [hh.object] at hd
  cases hd

theorem eq_of_isSubclass_of_not_contains (hd : h.contains d = false) (hcd : h.isSubclass c d = true) : c = d := by
  rcases hh.isSubclass_iff.1 hcd with hobject | hcd
  · exact absurd hobject (hh.ne_object_of_not_contains hd)
  rcases reflTransGen_iff_eq_or_transGen.1 hcd with heq | htrans
  · exact heq.symm
  · have hcontains := (hh.contains_of_transGen htrans).2
    exact absurd hcontains (Bool.eq_false_iff.1 hd)

/-- Nothing is above a class that is not registered, but for `java.lang.Object`. -/
theorem eq_or_eq_object_of_not_contains (hd : h.contains d = false) (hde : h.isSubclass d e = true) :
    e = d ∨ e = .javaLangObject := by
  rcases hh.isSubclass_iff.1 hde with hobject | hde
  · exact .inr hobject
  rcases reflTransGen_iff_eq_or_transGen.1 hde with heq | htrans
  · exact .inl heq
  · have hcontains := (hh.contains_of_transGen htrans).1
    exact absurd hcontains (Bool.eq_false_iff.1 hd)

theorem chainFrom_of_not_contains {seen : List Descriptor} (hd : h.contains d = false) (hseen : d ∉ seen) :
    h.chainFrom seen d = [d] := by
  have hnone : h.superclass? d = none := by
    cases hsuper : h.superclass? d with
    | none => rfl
    | some e =>
      have hcontains := hh.contains_of_superclass? hsuper
      exact absurd hcontains (Bool.eq_false_iff.1 hd)
  rw [chainFrom, if_neg hseen]
  split
  · rfl
  · next e he =>
    rw [hnone] at he
    cases he

end Closed

/-- The second class is not registered, and is named as the superclass of the first one or of a class that it inherits
from. -/
def Dangles (h : Hierarchy) (c d : Descriptor) : Prop :=
  h.contains d = false ∧ ∃ b, b ≠ .javaLangObject ∧ ReflTransGen h.Inherits c b ∧ h.superclass? b = some d

namespace Dangles
variable (hh : h.Closed)
include hh

/-- What is found is registered, unless it is the second class itself. -/
theorem of_nearest (hd : d.isClass = true) (hobject : c ≠ .javaLangObject)
    (he : (h.nearest? c d).getD .javaLangObject = e) (hno : h.contains e = false) : h.Dangles c d := by
  obtain ⟨hde, hfound⟩ := hh.nearest?_cases hd hobject he
  rw [isAssignable_of_isClass hd (isClass_of_isAssignable hd hde)] at hde
  obtain rfl := hh.eq_of_isSubclass_of_not_contains hno hde
  rcases hfound with heq | ⟨b, hb, hcb, hbd⟩
  · exact absurd heq (hh.ne_object_of_not_contains hno)
  · exact ⟨hno, b, hb, hcb, hbd⟩

theorem contains_left (hdangles : h.Dangles c d) : h.contains c = true := by
  obtain ⟨-, b, -, hcb, hbd⟩ := hdangles
  rcases ReflTransGen.cases_head hcb with rfl | ⟨x, hcx, -⟩
  · exact hh.contains_of_superclass? hbd
  · exact (hh.contains_of_inherits hcx).1

theorem ne_object (hdangles : h.Dangles c d) : c ≠ .javaLangObject := by
  rintro rfl
  obtain ⟨-, b, hb, hcb, -⟩ := hdangles
  exact hb (hh.eq_object_of_reaches hcb)

theorem not_isSubclass (hdangles : h.Dangles c d) : h.isSubclass c d = false ∧ h.isSubclass d c = false := by
  have hne : c ≠ d := by
    rintro rfl
    have hcontains := hdangles.contains_left hh
    exact absurd hcontains (Bool.eq_false_iff.1 hdangles.1)
  constructor
  · rw [Bool.eq_false_iff]
    exact fun hcd => hne (hh.eq_of_isSubclass_of_not_contains hdangles.1 hcd)
  · rw [Bool.eq_false_iff]
    intro hdc
    rcases hh.eq_or_eq_object_of_not_contains hdangles.1 hdc with heq | hobject
    · exact hne heq
    · exact hdangles.ne_object hh hobject

end Dangles

namespace Layered
variable (hh : h.Closed) (hlayered : h.Layered)
include hh hlayered

/-- Only a class can name a superclass that is not registered. -/
theorem isInterface_of_superclass? (hbd : h.superclass? b = some d) (hd : h.contains d = false) :
    h.isInterface b = false := by
  obtain ⟨k, hk, hsuper⟩ := Option.bind_eq_some_iff.1 hbd
  rw [Bool.eq_false_iff]
  intro hint
  have hint : k.isInterface = true := by simpa [isInterface, hk] using hint
  exact hh.ne_object_of_not_contains hd (hlayered.superclass_interface k (hh.classDef?_eq_some.1 hk).1 hint d hsuper)

/-- The chain of superclasses goes on to what is not registered, and nothing before it bounds that. -/
theorem chainFrom_find_of_not_contains (hacyclic : h.Acyclic) {seen : List Descriptor}
    (hseen : ∀ x ∈ seen, TransGen h.Inherits x c) (hclass : d.isClass = true) (hd : h.contains d = false)
    (hb : b ≠ .javaLangObject) (hcb : ReflTransGen h.Inherits c b) (hbd : h.superclass? b = some d) :
    (h.chainFrom seen c).find? (h.isAssignable d) = some d := by
  have hint := hlayered.isInterface_of_superclass? hh hbd hd
  fun_induction chainFrom h seen c
  case case1 seen c hc => exact absurd (hseen c hc) (hacyclic c)
  case case2 seen c hc hnone =>
    have hne : c ≠ b := by
      rintro rfl
      rw [hnone] at hbd
      cases hbd
    obtain ⟨x, hx, -⟩ := hlayered.superclass?_of_isSubclass hh (hh.isSubclass_iff.2 (.inr hcb)) hne hb hint
    rw [hnone] at hx
    cases hx
  case case3 seen c hc x hx ih =>
    have hcontains := hh.contains_of_superclass? hx
    have hnot : ¬ h.isAssignable d c = true := by
      intro hdc
      rw [isAssignable_of_isClass hclass (isClass_of_isAssignable hclass hdc)] at hdc
      rcases hh.eq_or_eq_object_of_not_contains hd hdc with rfl | rfl
      · exact absurd hcontains (Bool.eq_false_iff.1 hd)
      · exact hb (hh.eq_object_of_reaches hcb)
    rw [List.find?_cons_of_neg hnot]
    by_cases hne : c = b
    · subst hne
      obtain rfl : x = d := Option.some.inj (hx.symm.trans hbd)
      have hmem : x ∉ c :: seen := by
        intro hmem
        rcases List.mem_cons.1 hmem with rfl | hmem
        · exact absurd hcontains (Bool.eq_false_iff.1 hd)
        · have hcontains' := (hh.contains_of_transGen (hseen x hmem)).1
          exact absurd hcontains' (Bool.eq_false_iff.1 hd)
      rw [hh.chainFrom_of_not_contains hd hmem, List.find?_cons_of_pos (isAssignable_iff_conforms.2 (.refl x))]
    · obtain ⟨y, hy, hcy, hyb⟩ := hlayered.superclass?_of_isSubclass hh (hh.isSubclass_iff.2 (.inr hcb)) hne hb hint
      obtain rfl : x = y := Option.some.inj (hx.symm.trans hy)
      refine ih (fun z hz => ?_) ((hh.isSubclass_iff.1 hyb).resolve_left hb)
      rcases List.mem_cons.1 hz with rfl | hz
      · exact .single hcy
      · exact (hseen z hz).tail hcy

theorem nearest?_of_dangles (hacyclic : h.Acyclic) (hclass : d.isClass = true) (hdangles : h.Dangles c d) :
    h.nearest? c d = some d := by
  obtain ⟨hd, b, hb, hcb, hbd⟩ := hdangles
  unfold nearest? superclassChain
  by_cases hne : c = b
  · subst hne
    rw [hbd, Option.elim_some, hh.chainFrom_of_not_contains hd List.not_mem_nil,
      List.find?_cons_of_pos (isAssignable_iff_conforms.2 (.refl d))]
  · have hint := hlayered.isInterface_of_superclass? hh hbd hd
    obtain ⟨x, hx, -, hxb⟩ := hlayered.superclass?_of_isSubclass hh (hh.isSubclass_iff.2 (.inr hcb)) hne hb hint
    rw [hx, Option.elim_some]
    exact hlayered.chainFrom_find_of_not_contains hh hacyclic (by simp) hclass hd hb
      ((hh.isSubclass_iff.1 hxb).resolve_left hb) hbd

end Layered

/-! ### Bounds in either order -/

theorem commonSupertype?_of_not_isSubclass (hc : c.isClass = true) (hd : d.isClass = true)
    (hcd : h.isSubclass c d = false) (hdc : h.isSubclass d c = false) :
    h.commonSupertype? c d = some ((h.nearest? c d).getD .javaLangObject) := by
  rw [commonSupertype?_of_isClass hc hd]
  rcases commonClass_cases hc hd rfl with ⟨hle, -⟩ | ⟨hge, -⟩ | ⟨-, -, he⟩
  · rw [hcd] at hle
    cases hle
  · rw [hdc] at hge
    cases hge
  · rw [he]

theorem not_commonBound_of_dangles (hh : h.Closed) (hacyclic : h.Acyclic) (hlayered : h.Layered) (hc : c.isClass = true)
    (hd : d.isClass = true) (hdangles : h.Dangles c d) : ¬ h.CommonBound c d t := by
  rintro ⟨hcommon, -, hbound, -⟩
  obtain ⟨hcd, hdc⟩ := hdangles.not_isSubclass hh
  rw [commonSupertype?_of_not_isSubclass hc hd hcd hdc, hlayered.nearest?_of_dangles hh hacyclic hd hdangles] at hcommon
  cases hcommon
  rw [Option.getD_some, isAssignable_of_isClass hc hd, hcd] at hbound
  cases hbound

theorem exists_commonBound (hh : h.Closed) (hacyclic : h.Acyclic) (hlayered : h.Layered) (hc : c.isClass = true)
    (hd : d.isClass = true) (hcd : h.isSubclass c d = false) (hdc : h.isSubclass d c = false)
    (hnot : ¬ h.Dangles c d) (hnot' : ¬ h.Dangles d c) : ∃ t, h.CommonBound c d t := by
  have hobject := ne_object_of_isSubclass_eq_false hdc
  have hobject' := ne_object_of_isSubclass_eq_false hcd
  have hcontains : h.contains ((h.nearest? c d).getD .javaLangObject) = true := by
    by_contra hno
    exact hnot (.of_nearest hh hd hobject rfl (Bool.eq_false_iff.2 hno))
  have hcontains' : h.contains ((h.nearest? d c).getD .javaLangObject) = true := by
    by_contra hno
    exact hnot' (.of_nearest hh hc hobject' rfl (Bool.eq_false_iff.2 hno))
  obtain ⟨hclass, hce, hde, -⟩ := bound_nearest hh hlayered hd hobject rfl hcontains
  refine ⟨(h.nearest? c d).getD .javaLangObject, ?_, ?_, ?_, ?_⟩
  · exact commonSupertype?_of_not_isSubclass hc hd hcd hdc
  · rw [commonSupertype?_of_not_isSubclass hd hc hdc hcd]
    exact congrArg some (nearest_comm hh hlayered hacyclic hd hc hdc hcd rfl rfl hcontains' hcontains)
  · rw [isAssignable_of_isClass hc hclass, hce]
  · rw [isAssignable_of_isClass hd hclass, hde]

/-- The common supertype of two classes bounds both, in either order, exactly when neither of them is an unregistered
superclass of the other one. -/
theorem commonSupertype?_classes_iff {classes : List ClassDef} (hh : ofClasses classes = .ok h) (hacyclic : h.Acyclic)
    (hlayered : h.Layered) (hc : c.isClass = true) (hd : d.isClass = true) :
    (∃ t, h.CommonBound c d t) ↔ ¬ h.Dangles c d ∧ ¬ h.Dangles d c := by
  have hclosed := closed_ofClasses hh
  constructor
  · rintro ⟨t, hbound⟩
    refine ⟨fun hdangles => ?_, fun hdangles => ?_⟩
    · exact not_commonBound_of_dangles hclosed hacyclic hlayered hc hd hdangles hbound
    · exact not_commonBound_of_dangles hclosed hacyclic hlayered hd hc hdangles hbound.symm
  · rintro ⟨hnot, hnot'⟩
    by_cases hcd : h.isSubclass c d = true
    · rw [← isAssignable_of_isClass hc hd] at hcd
      exact ⟨d, .of_le hclosed hacyclic hcd⟩
    by_cases hdc : h.isSubclass d c = true
    · rw [← isAssignable_of_isClass hd hc] at hdc
      exact ⟨c, (CommonBound.of_le hclosed hacyclic hdc).symm⟩
    rw [Bool.not_eq_true] at hcd hdc
    exact exists_commonBound hclosed hacyclic hlayered hc hd hcd hdc hnot hnot'

/-! Dogs and cats are said to be animals, and nothing is known of animals. -/

def strayClasses : List ClassDef :=
  [⟨.object "Dog", 1, some (.object "Animal"), [], [], none⟩,
   ⟨.object "Cat", 1, some (.object "Animal"), [], [], none⟩,
   ⟨.javaLangObject, 1, none, [], [], none⟩]

def strays : Hierarchy where
  classes := strayClasses
  links := [⟨.object "Dog", .javaLangObject⟩, ⟨.object "Cat", .javaLangObject⟩]

theorem ofClasses_strayClasses : ofClasses strayClasses = .ok strays := rfl

theorem acyclic_strays : strays.Acyclic :=
  acyclic_of_rank (fun c => if c = .javaLangObject then 0 else 1) (by decide +kernel)

theorem layered_strays : strays.Layered := by
  constructor <;> decide +kernel

/-- Dogs and cats, and dogs and birds, which are not heard of elsewhere. -/
theorem commonSupertype?_classes_strays : (∃ t, strays.CommonBound (.object "Dog") (.object "Cat") t) ∧
    ∃ t, strays.CommonBound (.object "Dog") (.object "Bird") t := by
  have hregistered : ∀ c d, strays.contains d = true → ¬ strays.Dangles c d := by
    rintro c d hd ⟨hno, -⟩
    rw [hd] at hno
    cases hno
  have hbird : ∀ k ∈ strays.classes, k.superclass ≠ some (.object "Bird") := by decide +kernel
  constructor
  · exact (commonSupertype?_classes_iff ofClasses_strayClasses acyclic_strays layered_strays rfl rfl).2
      ⟨hregistered _ _ rfl, hregistered _ _ rfl⟩
  · refine (commonSupertype?_classes_iff ofClasses_strayClasses acyclic_strays layered_strays rfl rfl).2
      ⟨?_, hregistered _ _ rfl⟩
    rintro ⟨-, b, -, -, hsuper⟩
    obtain ⟨k, hk, hsuper⟩ := Option.bind_eq_some_iff.1 hsuper
    exact hbird k (List.mem_of_find?_eq_some hk) hsuper

/-- What dogs and animals have in common is animals, to which dogs are not assignable, if dogs come first. -/
theorem commonSupertype?_not_bound_stray : ∃ classes h, ofClasses classes = .ok h ∧ h.Acyclic ∧ h.Layered ∧
    ∃ c d t : Descriptor, c.isClass = true ∧ d.isClass = true ∧ h.commonSupertype? c d = some t ∧
      h.isAssignable c t = false ∧ h.commonSupertype? d c ≠ some t := by
  have hclosed := closed_ofClasses ofClasses_strayClasses
  have hdangles : strays.Dangles (.object "Dog") (.object "Animal") := ⟨rfl, .object "Dog", by decide, .refl, rfl⟩
  obtain ⟨hcd, hdc⟩ := hdangles.not_isSubclass hclosed
  refine ⟨strayClasses, strays, ofClasses_strayClasses, acyclic_strays, layered_strays, .object "Dog",
    .object "Animal", .object "Animal", rfl, rfl, ?_, ?_, ?_⟩
  · rw [commonSupertype?_of_not_isSubclass rfl rfl hcd hdc,
      layered_strays.nearest?_of_dangles hclosed acyclic_strays rfl hdangles, Option.getD_some]
  · rw [isAssignable_of_isClass rfl rfl, hcd]
  · rw [commonSupertype?_of_not_isSubclass rfl rfl hdc hcd]
    decide

/-! ### The least bound that is no interface -/

/-- Whatever bounds two classes and is no interface bounds their common supertype, and nothing else does. -/
theorem commonSupertype?_least {classes : List ClassDef} (hh : ofClasses classes = .ok h) (hacyclic : h.Acyclic)
    (hlayered : h.Layered) (hrooted : h.Rooted) (hc : c.isClass = true) (hd : d.isClass = true) :
    ∃ t, h.commonSupertype? c d = some t ∧ ∀ b, b.isClass = true → h.isInterface b = false →
      (h.isAssignable t b = true ↔ h.isAssignable c b = true ∧ h.isAssignable d b = true) := by
  have hclosed := closed_ofClasses hh
  refine ⟨h.commonClass c d, commonSupertype?_of_isClass hc hd, fun b hb hint => ?_⟩
  obtain ⟨hclass, hct, hdt⟩ := bound_commonClass hclosed hlayered hrooted hc hd rfl
  rw [isAssignable_of_isClass hclass hb, isAssignable_of_isClass hc hb, isAssignable_of_isClass hd hb]
  constructor
  · intro htb
    exact ⟨hclosed.isSubclass_trans hct htb, hclosed.isSubclass_trans hdt htb⟩
  · rintro ⟨hcb, hdb⟩
    exact isSubclass_commonClass hclosed hlayered hacyclic hc hd hb (.inr hint) hcb hdb

theorem commonSupertype?_least_animals : ∃ t, animals.commonSupertype? (.object "Dog") (.object "Cat") = some t ∧
    animals.isAssignable t (.object "Animal") = true := by
  obtain ⟨t, ht, hleast⟩ := commonSupertype?_least (c := .object "Dog") (d := .object "Cat") ofClasses_animalClasses
    acyclic_animals layered_animals rooted_animals rfl rfl
  have hanimal : ∀ c, ⟨c, .object "Animal"⟩ ∈ animals.links → c.isClass = true →
      animals.isAssignable c (.object "Animal") = true := by
    intro c hlink hc
    rw [isAssignable_of_isClass hc rfl, (closed_ofClasses ofClasses_animalClasses).isSubclass_iff]
    exact .inr (.single (mem_successors.2 hlink))
  refine ⟨t, ht, (hleast _ rfl rfl).2 ⟨hanimal _ ?_ rfl, hanimal _ ?_ rfl⟩⟩
  · exact List.mem_cons_self
  · exact List.mem_cons_of_mem _ List.mem_cons_self

end Dalvik.Hierarchy
