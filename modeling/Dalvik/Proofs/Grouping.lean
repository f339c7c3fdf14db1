import Dalvik.Proofs.Inheritance
import Dalvik.Proofs.Lattice

/-!
# Joins over a hierarchy

The common supertype of two classes that are not comparable is looked for among the superclasses of the first one only,
so it is least among the common supertypes that are not interfaces. Over a well-formed hierarchy without cycles this is
all there is to joins of class types, and they may depend on how they are grouped: two classes that implement an
interface and have only `java.lang.Object` in common join to `java.lang.Object`, but each of them joins with the
interface to the interface.

Nothing else makes a difference (`join_assoc_iff`): the two groupings of three types agree unless the first or the last
one is an interface that bounds the other two and not their join.
-/

namespace Dalvik

namespace Hierarchy
variable {h : Hierarchy} {c d e : Descriptor}

/-- Classes are ordered by inheritance, other types by equality only. -/
def ClassOrder (h : Hierarchy) (c d : Descriptor) : Prop :=
  c = d ∨ c.isClass = true ∧ d.isClass = true ∧ h.isSubclass c d = true

theorem classOrder_iff (hc : c.isClass = true) (hd : d.isClass = true) :
    h.ClassOrder c d ↔ h.isAssignable c d = true := by
  rw [isAssignable_of_isClass hc hd]
  constructor
  · rintro (rfl | ⟨-, -, hcd⟩)
    · exact h.isSubclass_refl c
    · exact hcd
  · intro hcd
    exact .inr ⟨hc, hd, hcd⟩

theorem commonSupertype?_of_le (hcd : h.isAssignable c d = true) : h.commonSupertype? c d = some d := by
  unfold commonSupertype?
  rw [if_pos hcd]

theorem commonSupertype?_of_ge (hcd : h.isAssignable c d = false) (hdc : h.isAssignable d c = true) :
    h.commonSupertype? c d = some c := by
  unfold commonSupertype?
  rw [if_neg (Bool.eq_false_iff.1 hcd), if_pos hdc]

theorem join_reference (hne : c ≠ d) (he : h.commonSupertype? c d = some e) :
    (RegisterType.reference c).join h.oracle (.reference d) = .reference e := by
  show RegisterType.joinReference h.oracle c d = _
  rw [RegisterType.joinReference, if_neg hne]
  show Option.getD (Option.map _ (h.commonSupertype? c d)) _ = _
  rw [he]
  rfl

/-- The larger one of two classes is their common supertype, in either order. -/
theorem commonClass_of_isSubclass (hh : h.Closed) (hacyclic : h.Acyclic) (hc : c.isClass = true) (hd : d.isClass = true)
    (hcd : h.isSubclass c d = true) : h.commonClass c d = d ∧ h.commonClass d c = d := by
  constructor
  · rcases commonClass_cases hc hd rfl with ⟨-, he⟩ | ⟨hdc, he⟩ | ⟨hlt, -⟩
    · exact he
    · exact he.trans (hh.isSubclass_antisymm hacyclic hcd hdc)
    · exact absurd hcd (by simp [hlt])
  · rcases commonClass_cases hd hc rfl with ⟨hdc, he⟩ | ⟨-, he⟩ | ⟨-, hlt, -⟩
    · exact he.trans (hh.isSubclass_antisymm hacyclic hcd hdc)
    · exact he
    · exact absurd hcd (by simp [hlt])

theorem Closed.contains_nearest (hh : h.Closed) (hrooted : h.Rooted) (hd : d.isClass = true)
    (hobject : c ≠ .javaLangObject) (he : (h.nearest? c d).getD .javaLangObject = e) : h.contains e = true := by
  obtain ⟨-, rfl | ⟨b, -, -, hbe⟩⟩ := hh.nearest?_cases hd hobject he
  · exact hh.object
  · obtain ⟨k, hk, hsuper⟩ := Option.bind_eq_some_iff.1 hbe
    exact hrooted k (hh.classDef?_eq_some.1 hk).1 e hsuper

section
variable (hh : h.Closed) (hlayered : h.Layered)
include hh hlayered

/-- What is found for two classes that are not comparable bounds both of them and is not an interface, if it is
registered. -/
theorem bound_nearest (hd : d.isClass = true) (hobject : c ≠ .javaLangObject)
    (he : (h.nearest? c d).getD .javaLangObject = e) (hcontains : h.contains e = true) :
    e.isClass = true ∧ h.isSubclass c e = true ∧ h.isSubclass d e = true ∧ h.Trunk e := by
  obtain ⟨hde, hce⟩ := hh.nearest?_cases hd hobject he
  have hclass := isClass_of_isAssignable hd hde
  rw [isAssignable_of_isClass hd hclass] at hde
  rcases hce with rfl | ⟨b, hb, hcb, hbe⟩
  · exact ⟨hclass, h.isSubclass_object c, hde, .inl rfl⟩
  · obtain ⟨k, hk, hsuper⟩ := Option.bind_eq_some_iff.1 hbe
    have hmem := (hh.classDef?_eq_some.1 hk).1
    have hcb : h.isSubclass c b = true := hh.isSubclass_iff.2 (.inr hcb)
    have hbe : h.isSubclass b e = true := hh.isSubclass_iff.2 (.inr (.single (hh.inherits_superclass hb hbe hcontains)))
    exact ⟨hclass, hh.isSubclass_trans hcb hbe, hde, .inr (hlayered.superclass k hmem e hsuper)⟩

theorem isSubclass_nearest (hacyclic : h.Acyclic) {b : Descriptor} (hd : d.isClass = true) (hb : b.isClass = true)
    (htrunk : h.Trunk b) (hdc : h.isSubclass d c = false) (hcb : h.isSubclass c b = true)
    (hdb : h.isSubclass d b = true) : h.isSubclass ((h.nearest? c d).getD .javaLangObject) b = true := by
  by_cases hobject : b = .javaLangObject
  · rw [hobject]
    exact h.isSubclass_object _
  have hne : c ≠ b := by
    rintro rfl
    rw [hdb] at hdc
    cases hdc
  obtain ⟨e, hsuper, -, heb⟩ := hlayered.superclass?_of_isSubclass hh hcb hne hobject (htrunk.resolve_left hobject)
  rw [nearest?, superclassChain, hsuper]
  have hpb : h.isAssignable d b = true := by rw [isAssignable_of_isClass hd hb, hdb]
  exact hlayered.isSubclass_chainFrom_find hh hacyclic (by simp) heb htrunk hpb

theorem bound_commonClass (hrooted : h.Rooted) (hc : c.isClass = true) (hd : d.isClass = true)
    (he : h.commonClass c d = e) : e.isClass = true ∧ h.isSubclass c e = true ∧ h.isSubclass d e = true := by
  rcases commonClass_cases hc hd he with ⟨hcd, rfl⟩ | ⟨hdc, rfl⟩ | ⟨-, hdc, he⟩
  · exact ⟨hd, hcd, h.isSubclass_refl e⟩
  · exact ⟨hc, h.isSubclass_refl e, hdc⟩
  · have hobject := ne_object_of_isSubclass_eq_false hdc
    have hcontains := hh.contains_nearest hrooted hd hobject he
    obtain ⟨hclass, hce, hde, -⟩ := bound_nearest hh hlayered hd hobject he hcontains
    exact ⟨hclass, hce, hde⟩

/-- The common class is below every common supertype that is not an interface. -/
theorem isSubclass_commonClass (hacyclic : h.Acyclic) {b : Descriptor} (hc : c.isClass = true) (hd : d.isClass = true)
    (hb : b.isClass = true) (htrunk : h.Trunk b) (hcb : h.isSubclass c b = true) (hdb : h.isSubclass d b = true) :
    h.isSubclass (h.commonClass c d) b = true := by
  rcases commonClass_cases hc hd rfl with ⟨-, he⟩ | ⟨-, he⟩ | ⟨-, hdc, he⟩
  · rw [he]
    exact hdb
  · rw [he]
    exact hcb
  · rw [← he]
    exact isSubclass_nearest hh hlayered hacyclic hd hb htrunk hdc hcb hdb

/-- The superclasses of either class are searched, to the same end if what is found is registered. -/
theorem nearest_comm (hacyclic : h.Acyclic) {e' : Descriptor} (hc : c.isClass = true) (hd : d.isClass = true)
    (hcd : h.isSubclass c d = false) (hdc : h.isSubclass d c = false) (he : (h.nearest? c d).getD .javaLangObject = e)
    (he' : (h.nearest? d c).getD .javaLangObject = e') (hcontains : h.contains e = true)
    (hcontains' : h.contains e' = true) : e = e' := by
  -- either of the two is among the bounds that the other one is the least of
  obtain ⟨hclass, hce, hde, htrunk⟩ :=
    bound_nearest hh hlayered hd (ne_object_of_isSubclass_eq_false hdc) he hcontains
  obtain ⟨hclass', hde', hce', htrunk'⟩ :=
    bound_nearest hh hlayered hc (ne_object_of_isSubclass_eq_false hcd) he' hcontains'
  have hle := isSubclass_nearest hh hlayered hacyclic hd hclass' htrunk' hdc hce' hde'
  have hge := isSubclass_nearest hh hlayered hacyclic hc hclass htrunk hcd hde hce
  rw [he] at hle
  rw [he'] at hge
  exact hh.isSubclass_antisymm hacyclic hle hge

theorem commonClass_comm (hrooted : h.Rooted) (hacyclic : h.Acyclic) (hc : c.isClass = true) (hd : d.isClass = true) :
    h.commonClass c d = h.commonClass d c := by
  rcases commonClass_cases hc hd rfl with ⟨hcd, -⟩ | ⟨hdc, -⟩ | ⟨hcd, hdc, he⟩
  · obtain ⟨hle, hge⟩ := commonClass_of_isSubclass hh hacyclic hc hd hcd
    rw [hle, hge]
  · obtain ⟨hle, hge⟩ := commonClass_of_isSubclass hh hacyclic hd hc hdc
    rw [hle, hge]
  rcases commonClass_cases (h := h) hd hc rfl with ⟨hle, -⟩ | ⟨hge, -⟩ | ⟨-, -, he'⟩
  · exact absurd hle (by simp [hdc])
  · exact absurd hge (by simp [hcd])
  have hcontains := hh.contains_nearest hrooted hd (ne_object_of_isSubclass_eq_false hdc) he
  have hcontains' := hh.contains_nearest hrooted hc (ne_object_of_isSubclass_eq_false hcd) he'
  exact nearest_comm hh hlayered hacyclic hc hd hcd hdc he he' hcontains hcontains'

end

/-- Common supertypes of classes are least among the types that are not interfaces. -/
theorem trunkOver_classes (hh : h.Closed) (hwf : h.WellFormed) (hacyclic : h.Acyclic) :
    h.oracle.TrunkOver h.ClassOrder (fun c => c.isClass = true) h.Trunk where
  refl c := .inl rfl
  trans c d e hcd hde := by
    rcases hcd with rfl | ⟨hc, hd, hcd⟩
    · exact hde
    rcases hde with rfl | ⟨-, he, hde⟩
    · exact .inr ⟨hc, hd, hcd⟩
    · exact .inr ⟨hc, he, hh.isSubclass_trans hcd hde⟩
  antisymm c d hcd hdc := by
    rcases hcd with rfl | ⟨-, -, hcd⟩
    · rfl
    rcases hdc with rfl | ⟨-, -, hdc⟩
    · rfl
    · exact hh.isSubclass_antisymm hacyclic hcd hdc
  bound c d e hc hd hne he := by
    have he := Option.some.inj ((commonSupertype?_of_isClass hc hd).symm.trans he)
    obtain ⟨hclass, hce, hde⟩ := bound_commonClass hh hwf.layered hwf.rooted hc hd he
    exact ⟨hclass, .inr ⟨hc, hclass, hce⟩, .inr ⟨hd, hclass, hde⟩⟩
  larger c d hc hd hne hcd := by
    obtain ⟨hle, hge⟩ := commonClass_of_isSubclass hh hacyclic hc hd (hcd.resolve_left hne).2.2
    exact ⟨(commonSupertype?_of_isClass hc hd).trans (congrArg some hle),
      (commonSupertype?_of_isClass hd hc).trans (congrArg some hge)⟩
  trunk c d e hc hd hcd hdc he := by
    have he := Option.some.inj ((commonSupertype?_of_isClass hc hd).symm.trans he)
    rcases commonClass_cases hc hd he with ⟨hle, -⟩ | ⟨hge, -⟩ | ⟨-, hge, he⟩
    · exact absurd (.inr ⟨hc, hd, hle⟩) hcd
    · exact absurd (.inr ⟨hd, hc, hge⟩) hdc
    · have hobject := ne_object_of_isSubclass_eq_false hge
      exact (bound_nearest hh hwf.layered hd hobject he (hh.contains_nearest hwf.rooted hd hobject he)).2.2.2
  least c d b hc hd hb hne htrunk hcb hdb := by
    refine ⟨h.commonClass c d, commonSupertype?_of_isClass hc hd, ?_⟩
    rw [classOrder_iff hc hb, isAssignable_of_isClass hc hb] at hcb
    rw [classOrder_iff hd hb, isAssignable_of_isClass hd hb] at hdb
    have hclass := (bound_commonClass hh hwf.layered hwf.rooted hc hd rfl).1
    exact .inr ⟨hclass, hb, isSubclass_commonClass hh hwf.layered hacyclic hc hd hb htrunk hcb hdb⟩

/-- The interface bounds both types and not their join. -/
def Parts (h : Hierarchy) (a b i : RegisterType) : Prop :=
  ∃ t, i = .reference t ∧ h.isInterface t = true ∧ a.isAssignable h.oracle i = true ∧ b.isAssignable h.oracle i = true ∧
    (a.join h.oracle b).isAssignable h.oracle i = false

theorem not_parts_iff {a b i : RegisterType}
    (hover : h.oracle.TrunkOver h.ClassOrder (fun c => c.isClass = true) h.Trunk)
    (ha : a.Over fun t => t.isClass = true) (hb : b.Over fun t => t.isClass = true)
    (hi : i.Over fun t => t.isClass = true) :
    ¬ h.Parts a b i ↔ (RegisterType.Widens h.ClassOrder a i → RegisterType.Widens h.ClassOrder b i →
      RegisterType.Widens h.ClassOrder (a.join h.oracle b) i) := by
  have hjoin := RegisterType.Widens.over_join hover ha hb
  have hle : ∀ {x y : RegisterType}, (x.Over fun t => t.isClass = true) → (y.Over fun t => t.isClass = true) →
      (x.isAssignable h.oracle y = true ↔ RegisterType.Widens h.ClassOrder x y) :=
    fun hx hy => RegisterType.isAssignable_iff (fun _ _ ht hu => classOrder_iff ht hu) hx hy
  constructor
  · intro hparts hai hbi
    by_contra hnot
    refine hparts ?_
    -- a bound that is no interface is above the join
    have hint : ∃ t, i = .reference t ∧ h.isInterface t = true := by
      by_contra hnone
      refine hnot ((RegisterType.Widens.trunkJoin hover).least ⟨a, ha⟩ ⟨b, hb⟩ ⟨i, hi⟩ (fun t ht => ?_) hai hbi)
      exact .inr (Bool.eq_false_iff.2 fun hint => hnone ⟨t, ht, hint⟩)
    obtain ⟨t, rfl, hint⟩ := hint
    exact ⟨t, rfl, hint, (hle ha hi).2 hai, (hle hb hi).2 hbi, Bool.eq_false_iff.2 fun h => hnot ((hle hjoin hi).1 h)⟩
  · rintro hbound ⟨t, rfl, -, hai, hbi, hnot⟩
    have hjoin := (hle hjoin hi).2 (hbound ((hle ha hi).1 hai) ((hle hb hi).1 hbi))
    rw [hnot] at hjoin
    cases hjoin

/-- Joins of class types depend on grouping exactly when an outer operand is an interface that parts the two others. -/
theorem join_assoc_iff {classes : List ClassDef} {a b c : RegisterType} (hh : ofClasses classes = .ok h)
    (hacyclic : h.Acyclic) (hwf : h.WellFormed) (ha : a.Over fun t => t.isClass = true)
    (hb : b.Over fun t => t.isClass = true) (hc : c.Over fun t => t.isClass = true) :
    ((a.join h.oracle b).join h.oracle c == a.join h.oracle (b.join h.oracle c)) = true ↔
      ¬ h.Parts a b c ∧ ¬ h.Parts b c a := by
  have hover := trunkOver_classes (closed_ofClasses hh) hwf hacyclic
  rw [RegisterType.Widens.beq_iff hover, not_parts_iff hover ha hb hc, not_parts_iff hover hb hc ha]
  exact (RegisterType.Widens.trunkJoin hover).assoc_iff ⟨a, ha⟩ ⟨b, hb⟩ ⟨c, hc⟩

/-! Dogs and cats, which are pets and have nothing else in common. -/

def petClasses : List ClassDef :=
  [⟨.object "Dog", 1, some .javaLangObject, [.object "Pet"], [], none⟩,
   ⟨.object "Cat", 1, some .javaLangObject, [.object "Pet"], [], none⟩,
   ⟨.object "Pet", 0x201, some .javaLangObject, [], [], none⟩,
   ⟨.javaLangObject, 1, none, [], [], none⟩]

def pets : Hierarchy where
  classes := petClasses
  links := [⟨.object "Dog", .javaLangObject⟩, ⟨.object "Dog", .object "Pet"⟩, ⟨.object "Cat", .javaLangObject⟩,
    ⟨.object "Cat", .object "Pet"⟩, ⟨.object "Pet", .javaLangObject⟩]

theorem ofClasses_petClasses : ofClasses petClasses = .ok pets := by rfl

theorem acyclic_pets : pets.Acyclic := by
  have hlinks : pets.links.all (fun l => l.source ∉ pets.ancestors l.target) = true := by cbv
  rw [acyclic_iff]
  simpa using hlinks

theorem wellFormed_pets : pets.WellFormed := by
  constructor <;> decide +kernel

/-- An interface between two classes does not part them. -/
theorem join_assoc_dog_pet_cat :
    (((RegisterType.reference (.object "Dog")).join pets.oracle (.reference (.object "Pet"))).join pets.oracle
      (.reference (.object "Cat")) == (RegisterType.reference (.object "Dog")).join pets.oracle
        ((RegisterType.reference (.object "Pet")).join pets.oracle (.reference (.object "Cat")))) = true := by
  have hclass : ∀ name, (RegisterType.reference (.object name)).Over fun t => t.isClass = true := fun _ => rfl
  refine (join_assoc_iff ofClasses_petClasses acyclic_pets wellFormed_pets (hclass "Dog") (hclass "Pet")
    (hclass "Cat")).2 ⟨?_, ?_⟩
  · rintro ⟨t, ht, hint, -⟩
    cases ht
    cases hint
  · rintro ⟨t, ht, hint, -⟩
    cases ht
    cases hint

theorem commonSupertype?_dog_cat : pets.commonSupertype? (.object "Dog") (.object "Cat") = some .javaLangObject := by
  have hle : pets.isAssignable (.object "Dog") (.object "Cat") = false := by cbv
  have hge : pets.isAssignable (.object "Cat") (.object "Dog") = false := by cbv
  have hchain : pets.superclassChain (.object "Dog") = [.javaLangObject] := by decide +kernel
  have hobject : pets.isAssignable (.object "Cat") .javaLangObject = true := rfl
  simp [commonSupertype?, commonClass, nearest?, hle, hge, hchain, hobject]

/-- Dogs and cats join to `java.lang.Object`, and either of them joins with pets to pets. -/
theorem join_not_assoc : ∃ classes h, ofClasses classes = .ok h ∧ h.Acyclic ∧ h.WellFormed ∧
    ∃ a b c : RegisterType, (a.Over fun t => t.isClass = true) ∧ (b.Over fun t => t.isClass = true) ∧
      (c.Over fun t => t.isClass = true) ∧
      ((a.join h.oracle b).join h.oracle c == a.join h.oracle (b.join h.oracle c)) = false := by
  refine ⟨petClasses, pets, ofClasses_petClasses, acyclic_pets, wellFormed_pets,
    .reference (.object "Dog"), .reference (.object "Cat"), .reference (.object "Pet"), rfl, rfl, rfl, ?_⟩
  have hdog : pets.isAssignable (.object "Dog") (.object "Pet") = true := by cbv
  have hcat : pets.isAssignable (.object "Cat") (.object "Pet") = true := by cbv
  have hpet : pets.isAssignable (.object "Pet") .javaLangObject = true := rfl
  have hobject : pets.isAssignable .javaLangObject (.object "Pet") = false := by cbv
  rw [join_reference (by decide) commonSupertype?_dog_cat,
    join_reference (by decide) (commonSupertype?_of_ge hobject hpet),
    join_reference (by decide) (commonSupertype?_of_le hcat), join_reference (by decide) (commonSupertype?_of_le hdog)]
  rfl

end Hierarchy
end Dalvik
