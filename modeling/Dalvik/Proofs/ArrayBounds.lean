import Dalvik.Proofs.Assignability
import Dalvik.Proofs.Grouping

/-!
# Common supertypes of arrays

Arrays of equal dimensions over classes have the array of the common class as their common supertype; of other arrays
it is made from the shallower one alone (`lid`): as many dimensions of `java.lang.Object`, and one less over a primitive
kind, because values of that kind are no objects. An array is assignable to its own lid, and to the lid of any
shallower array.

Of two arrays of equal dimensions, the second one counts as the shallower one. So the common supertype bounds both of
them, and does not depend on their order, unless they have equal dimensions and exactly one of them is over a primitive
kind (`commonSupertype?_arrays_iff`): the lid of the one over a class is as deep as the one over the kind.
-/

namespace Dalvik

namespace Descriptor

/-- The type under all dimensions. -/
def element (d : Descriptor) : Descriptor := ⟨0, d.base⟩

/-- What the array and all deeper ones are assignable to. -/
def lid (d : Descriptor) : Descriptor :=
  match d.base with
  | .prim _ => ⟨d.dims - 1, javaLangObject.base⟩
  | _ => ⟨d.dims, javaLangObject.base⟩

theorem dims_lid_le (d : Descriptor) : d.lid.dims ≤ d.dims := by
  unfold lid
  split
  · exact Nat.sub_le _ _
  · exact le_rfl

theorem lid_eq (d : Descriptor) : d.lid = ⟨d.lid.dims, javaLangObject.base⟩ := by
  unfold lid
  split <;> rfl

/-- Arrays are over a kind or a class. -/
theorem array_cases {d : Descriptor} (hd : d.isArray = true) (hvoid : d.element ≠ void) :
    (∃ n k, d = ⟨n + 1, .prim k⟩) ∨ ∃ n x, d = ⟨n + 1, .object x⟩ := by
  obtain ⟨_ | n, b⟩ := d
  · cases hd
  cases b with
  | void => exact absurd rfl hvoid
  | prim k => exact .inl ⟨n, k, rfl⟩
  | object x => exact .inr ⟨n, x, rfl⟩

end Descriptor

namespace Hierarchy
variable {h : Hierarchy} {c d e : Descriptor}

theorem Conforms.lid_of_lt (h : Hierarchy) (hlt : d.dims < c.dims) : h.Conforms c d.lid := by
  rw [d.lid_eq]
  exact .deeper (d.dims_lid_le.trans_lt hlt) rfl

theorem Conforms.lid (h : Hierarchy) (hd : d.isArray = true) (hvoid : d.element ≠ .void) : h.Conforms d d.lid := by
  obtain ⟨n, k, rfl⟩ | ⟨n, x, rfl⟩ := Descriptor.array_cases hd hvoid
  · exact .deeper (Nat.lt_succ_self n) rfl
  · exact .element (n + 1) (h.isSubclass_object _)

theorem commonArray_eq (c d : Descriptor) : commonArray c d = (if c.dims < d.dims then c else d).lid := rfl

/-- Arrays that are not comparable and are not both over classes, of equal dimensions. -/
theorem commonSupertype?_of_arrays (hc : c.isArray = true) (hd : d.isArray = true) (hcd : ¬ h.isAssignable c d = true)
    (hdc : ¬ h.isAssignable d c = true)
    (hclasses : c.dims = d.dims → ¬ (c.element.isClass = true ∧ d.element.isClass = true)) :
    h.commonSupertype? c d = some (commonArray c d) := by
  unfold commonSupertype?
  rw [if_neg hcd, if_neg hdc]
  obtain ⟨_ | m, x⟩ := c
  · cases hc
  obtain ⟨_ | n, y⟩ := d
  · cases hd
  cases x with
  | void | prim => rfl
  | object x =>
    cases y with
    | void | prim => rfl
    | object y => exact if_neg fun hdims => hclasses (congrArg Nat.succ hdims) ⟨rfl, rfl⟩

/-! ### Equal dimensions over classes -/

theorem isAssignable_element (n : Nat) (x y : String) :
    h.isAssignable ⟨n, .object x⟩ ⟨n, .object y⟩ = h.isSubclass (.object x) (.object y) := by
  rw [Bool.eq_iff_iff, isAssignable_iff_conforms]
  constructor
  · intro hxy
    cases hxy with
    | refl => exact h.isSubclass_refl _
    | element _ hxy => exact hxy
    | deeper hlt _ => exact absurd hlt (lt_irrefl n)
  · exact .element n

theorem commonSupertype?_element (n : Nat) (x y : String) : h.commonSupertype? ⟨n + 1, .object x⟩ ⟨n + 1, .object y⟩ =
    some ⟨n + 1, (h.commonClass (.object x) (.object y)).base⟩ := by
  unfold commonSupertype? commonClass
  simp only [isAssignable_element]
  split
  · rfl
  split
  · rfl
  · exact if_pos trivial

/-! ### Bounds in either order -/

/-- The type is the common supertype of the two, whichever comes first, and both are assignable to it. -/
structure CommonBound (h : Hierarchy) (c d t : Descriptor) : Prop where
  common : h.commonSupertype? c d = some t
  common_symm : h.commonSupertype? d c = some t
  bound_left : h.isAssignable c t = true
  bound_right : h.isAssignable d t = true

namespace CommonBound

theorem symm (hb : h.CommonBound c d e) : h.CommonBound d c e :=
  ⟨hb.common_symm, hb.common, hb.bound_right, hb.bound_left⟩

theorem of_le (hh : h.Closed) (hacyclic : h.Acyclic) (hcd : h.isAssignable c d = true) : h.CommonBound c d d where
  common := commonSupertype?_of_le hcd
  common_symm := by
    by_cases hdc : h.isAssignable d c = true
    · have heq := (conforms_of_isAssignable hcd).antisymm hh hacyclic (conforms_of_isAssignable hdc)
      subst heq
      exact commonSupertype?_of_le hdc
    · exact commonSupertype?_of_ge (Bool.eq_false_iff.2 hdc) hcd
  bound_left := hcd
  bound_right := isAssignable_iff_conforms.2 (.refl d)

/-- Arrays that are not comparable and are not both over classes, of equal dimensions: it is enough to look at the lid
that is taken in either order. -/
theorem of_commonArray (hc : c.isArray = true) (hd : d.isArray = true) (hcd : ¬ h.isAssignable c d = true)
    (hdc : ¬ h.isAssignable d c = true)
    (hclasses : c.dims = d.dims → ¬ (c.element.isClass = true ∧ d.element.isClass = true))
    (hleft : commonArray c d = e) (hright : commonArray d c = e) (hce : h.Conforms c e) (hde : h.Conforms d e) :
    h.CommonBound c d e where
  common := by rw [commonSupertype?_of_arrays hc hd hcd hdc hclasses, hleft]
  common_symm := by
    rw [commonSupertype?_of_arrays hd hc hdc hcd fun hdims hboth => hclasses hdims.symm hboth.symm, hright]
  bound_left := isAssignable_iff_conforms.2 hce
  bound_right := isAssignable_iff_conforms.2 hde

/-- The lid of the shallower one of two arrays. -/
theorem of_dims_lt (hc : c.isArray = true) (hd : d.isArray = true) (hcd : ¬ h.isAssignable c d = true)
    (hdc : ¬ h.isAssignable d c = true) (hvoid : c.element ≠ .void) (hlt : c.dims < d.dims) :
    h.CommonBound c d c.lid := by
  refine of_commonArray hc hd hcd hdc (fun hdims => absurd hdims hlt.ne) ?_ ?_ (.lid h hc hvoid) (.lid_of_lt h hlt)
  · rw [commonArray_eq, if_pos hlt]
  · rw [commonArray_eq, if_neg hlt.asymm]

/-- Arrays of equal dimensions over kinds have the same lid. -/
theorem of_kinds {n : Nat} {k k' : PrimitiveKind} (hcd : ¬ h.isAssignable ⟨n + 1, .prim k⟩ ⟨n + 1, .prim k'⟩ = true)
    (hdc : ¬ h.isAssignable ⟨n + 1, .prim k'⟩ ⟨n + 1, .prim k⟩ = true) :
    h.CommonBound ⟨n + 1, .prim k⟩ ⟨n + 1, .prim k'⟩ ⟨n, Descriptor.javaLangObject.base⟩ := by
  have hlid : ∀ k k', commonArray ⟨n + 1, .prim k⟩ ⟨n + 1, .prim k'⟩ = ⟨n, Descriptor.javaLangObject.base⟩ := by
    intro k k'
    rw [commonArray_eq, if_neg (lt_irrefl _)]
    rfl
  have hdeeper : ∀ k, h.Conforms ⟨n + 1, .prim k⟩ ⟨n, Descriptor.javaLangObject.base⟩ :=
    fun _ => .deeper (Nat.lt_succ_self n) rfl
  exact of_commonArray rfl rfl hcd hdc (fun _ hboth => Bool.false_ne_true hboth.1) (hlid k k') (hlid k' k) (hdeeper k)
    (hdeeper k')

/-- Arrays of equal dimensions over classes are bounded as the classes are. -/
theorem of_classes (hh : h.Closed) (hacyclic : h.Acyclic) (hlayered : h.Layered) (hrooted : h.Rooted) (n : Nat)
    (x y : String) : ∃ t, h.CommonBound ⟨n + 1, .object x⟩ ⟨n + 1, .object y⟩ t := by
  obtain ⟨hclass, hx, hy⟩ := bound_commonClass hh hlayered hrooted (c := .object x) (d := .object y) rfl rfl rfl
  have hcomm := commonClass_comm hh hlayered hrooted hacyclic (c := .object x) (d := .object y) rfl rfl
  obtain ⟨z, hz⟩ := exists_of_isClass hclass
  rw [hz] at hx hy
  refine ⟨⟨n + 1, .object z⟩, ?_, ?_, ?_, ?_⟩
  · rw [commonSupertype?_element, hz]
  · rw [commonSupertype?_element, ← hcomm, hz]
  · exact (isAssignable_element _ _ _).trans hx
  · exact (isAssignable_element _ _ _).trans hy

end CommonBound

/-- The lid of an array over a class is too deep for an array over a kind. -/
theorem not_commonBound_of_kind_of_class (n : Nat) (k : PrimitiveKind) (x : String) {t : Descriptor} :
    ¬ h.CommonBound ⟨n + 1, .prim k⟩ ⟨n + 1, .object x⟩ t := by
  have hnot : ∀ y, ¬ h.Conforms ⟨n + 1, .prim k⟩ ⟨n + 1, .object y⟩ := by
    intro y hle
    cases hle with
    | deeper hlt _ => exact lt_irrefl _ hlt
  have hcd : ¬ h.isAssignable ⟨n + 1, .prim k⟩ ⟨n + 1, .object x⟩ = true :=
    fun hle => hnot x (conforms_of_isAssignable hle)
  have hdc : ¬ h.isAssignable ⟨n + 1, .object x⟩ ⟨n + 1, .prim k⟩ = true :=
    fun hle => nomatch conforms_of_isAssignable hle
  rintro ⟨hcommon, -, hbound, -⟩
  rw [commonSupertype?_of_arrays rfl rfl hcd hdc fun _ hboth => Bool.false_ne_true hboth.1, commonArray_eq,
    if_neg (lt_irrefl _)] at hcommon
  cases hcommon
  exact hnot _ (conforms_of_isAssignable hbound)

/-- The common supertype of two arrays bounds both, in either order, exactly when they do not have equal dimensions with
one of them over a primitive kind and the other one over a class. -/
theorem commonSupertype?_arrays_iff {classes : List ClassDef} (hh : ofClasses classes = .ok h) (hacyclic : h.Acyclic)
    (hlayered : h.Layered) (hrooted : h.Rooted) (hc : c.isArray = true) (hd : d.isArray = true)
    (hcvoid : c.element ≠ .void) (hdvoid : d.element ≠ .void) :
    (∃ t, h.CommonBound c d t) ↔ (c.dims = d.dims → c.element.isPrimitive = d.element.isPrimitive) := by
  have hclosed := closed_ofClasses hh
  constructor
  · rintro ⟨t, hbound⟩ hdims
    obtain ⟨m, k, rfl⟩ | ⟨m, x, rfl⟩ := Descriptor.array_cases hc hcvoid <;>
      obtain ⟨n, k', rfl⟩ | ⟨n, y, rfl⟩ := Descriptor.array_cases hd hdvoid
    · rfl
    · cases hdims
      exact absurd hbound (not_commonBound_of_kind_of_class m k y)
    · cases hdims
      exact absurd hbound.symm (not_commonBound_of_kind_of_class m k' x)
    · rfl
  · intro hmixed
    by_cases hcd : h.isAssignable c d = true
    · exact ⟨d, .of_le hclosed hacyclic hcd⟩
    by_cases hdc : h.isAssignable d c = true
    · exact ⟨c, (CommonBound.of_le hclosed hacyclic hdc).symm⟩
    rcases lt_trichotomy c.dims d.dims with hlt | hdims | hgt
    · exact ⟨c.lid, .of_dims_lt hc hd hcd hdc hcvoid hlt⟩
    · have hmixed := hmixed hdims
      obtain ⟨m, k, rfl⟩ | ⟨m, x, rfl⟩ := Descriptor.array_cases hc hcvoid <;>
        obtain ⟨n, k', rfl⟩ | ⟨n, y, rfl⟩ := Descriptor.array_cases hd hdvoid <;> cases hdims
      · exact ⟨_, .of_kinds hcd hdc⟩
      · cases hmixed
      · cases hmixed
      · exact CommonBound.of_classes hclosed hacyclic hlayered hrooted m x y
    · exact ⟨d.lid, (CommonBound.of_dims_lt hd hc hdc hcd hdvoid hgt).symm⟩

/-! Dogs and cats are animals. Nothing is known of what barks. -/

def animalClasses : List ClassDef :=
  [⟨.object "Dog", 1, some (.object "Animal"), [.object "Barks"], [], none⟩,
   ⟨.object "Cat", 1, some (.object "Animal"), [], [], none⟩,
   ⟨.object "Animal", 1, some .javaLangObject, [], [], none⟩,
   ⟨.javaLangObject, 1, none, [], [], none⟩]

def animals : Hierarchy where
  classes := animalClasses
  links := [⟨.object "Dog", .object "Animal"⟩, ⟨.object "Cat", .object "Animal"⟩, ⟨.object "Animal", .javaLangObject⟩]

theorem ofClasses_animalClasses : ofClasses animalClasses = .ok animals := rfl

theorem acyclic_animals : animals.Acyclic :=
  acyclic_of_rank (fun c => if c = .javaLangObject then 0 else if c = .object "Animal" then 1 else 2)
    (by decide +kernel)

theorem layered_animals : animals.Layered := by
  constructor <;> decide +kernel

theorem rooted_animals : animals.Rooted := by
  unfold Rooted
  decide +kernel

/-- Arrays of dogs and of cats, and arrays over a class and a kind with one dimension more. -/
theorem commonSupertype?_arrays_animals :
    (∃ t, animals.CommonBound ⟨2, .object "Dog"⟩ ⟨2, .object "Cat"⟩ t) ∧
      ∃ t, animals.CommonBound ⟨2, .object "Dog"⟩ ⟨3, .prim .int⟩ t := by
  constructor
  · exact (commonSupertype?_arrays_iff ofClasses_animalClasses acyclic_animals layered_animals rooted_animals rfl rfl
      (by decide) (by decide)).2 fun _ => rfl
  · exact (commonSupertype?_arrays_iff ofClasses_animalClasses acyclic_animals layered_animals rooted_animals rfl rfl
      (by decide) (by decide)).2 fun hdims => absurd hdims (by decide)

/-- An array of numbers is not assignable to what it has in common with an array of dogs, when it comes first. -/
theorem commonSupertype?_not_bound : ∃ classes h, ofClasses classes = .ok h ∧ h.Acyclic ∧ h.Layered ∧ h.Rooted ∧
    ∃ c d t : Descriptor, c.isArray = true ∧ d.isArray = true ∧ c.element ≠ .void ∧ d.element ≠ .void ∧
      h.commonSupertype? c d = some t ∧ h.isAssignable c t = false ∧ h.commonSupertype? d c ≠ some t :=
  ⟨animalClasses, animals, ofClasses_animalClasses, acyclic_animals, layered_animals, rooted_animals,
    ⟨1, .prim .int⟩, ⟨1, .object "Dog"⟩, ⟨1, Descriptor.javaLangObject.base⟩, rfl, rfl, by decide, by decide, rfl, rfl,
    by decide⟩

end Hierarchy
end Dalvik
