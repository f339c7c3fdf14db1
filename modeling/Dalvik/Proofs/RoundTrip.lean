import Dalvik.Descriptor
import Mathlib

/-!
# Reading what is written

Reading a descriptor accepts exactly the texts of well-formed types, and gives back the type that was written
(`parse?_eq_some_iff`). The brackets at the front of a text are told from what follows them by the first character that
is no bracket: no element type is written with a bracket in front, though the name of a class may have brackets and
semicolons anywhere in it. What ends a name is the end of the text, not its first semicolon.
-/

namespace Dalvik

theorem PrimitiveKind.letter_of_ofLetter? {c : Char} {k : PrimitiveKind} (h : ofLetter? c = some k) : k.letter = c := by
  unfold ofLetter? at h
  split at h <;> cases h <;> rfl

namespace BaseType
variable {b : BaseType} {cs : List Char}

/-- Element types of arrays: the kinds, and classes with a name. -/
def IsElement : BaseType → Prop
  | void => False
  | prim _ => True
  | object name => name ≠ ""

instance : DecidablePred IsElement
  | void => inferInstanceAs (Decidable False)
  | prim _ => inferInstanceAs (Decidable True)
  | object name => inferInstanceAs (Decidable (name ≠ ""))

/-- No text of an element type starts with a bracket. -/
theorem exists_chars_eq_cons (b : BaseType) : ∃ c cs, b.chars = c :: cs ∧ c ≠ '[' := by
  cases b with
  | void => exact ⟨'V', [], rfl, by decide⟩
  | prim k => exact ⟨k.letter, [], rfl, by cases k <;> decide⟩
  | object name => exact ⟨'L', name.toList ++ [';'], rfl, by decide⟩

theorem ofChars?_chars (hb : b.IsElement) : ofChars? b.chars = some b := by
  cases b with
  | void => exact hb.elim
  | prim k => cases k <;> rfl
  | object name =>
    have hlen : 0 < name.toList.length := List.length_pos_of_ne_nil (mt String.toList_eq_nil_iff.1 hb)
    show ofChars? ('L' :: (name.toList ++ [';'])) = _
    rw [ofChars?, if_pos ⟨by simpa using hlen, List.getLast?_concat⟩, List.dropLast_concat, String.ofList_toList]

theorem chars_of_ofChars? : ofChars? cs = some b → b.IsElement ∧ b.chars = cs := by
  fun_cases ofChars? cs with
  | case1 => exact nofun
  | case2 rest hrest =>
    intro h
    obtain ⟨name, rfl⟩ := List.getLast?_eq_some_iff.1 hrest.2
    rw [List.dropLast_concat] at h
    obtain rfl := Option.some.inj h
    have hlen : 0 < name.length := by simpa using hrest.1
    refine ⟨fun hempty => ?_, by rw [chars, String.toList_ofList]; rfl⟩
    rw [String.ofList_eq] at hempty
    exact absurd (congrArg List.length hempty) hlen.ne'
  | case3 => exact nofun
  | case4 c =>
    intro h
    obtain ⟨k, hk, rfl⟩ := Option.map_eq_some_iff.1 h
    exact ⟨trivial, by rw [chars, PrimitiveKind.letter_of_ofLetter? hk]⟩
  | case5 => exact nofun

theorem ofChars?_eq_some_iff : ofChars? cs = some b ↔ b.IsElement ∧ b.chars = cs := by
  constructor
  · exact chars_of_ofChars?
  · rintro ⟨hb, rfl⟩
    exact ofChars?_chars hb

theorem not_isElement_of_chars (hb : b.chars = ['V']) : ¬ b.IsElement := by
  intro helement
  have h := ofChars?_chars helement
  rw [hb] at h
  cases h

end BaseType

namespace Descriptor
variable {d : Descriptor} {cs : List Char} {s : String}

/-- `void`, and element types under at most 255 dimensions. -/
def WellFormed (d : Descriptor) : Prop := d = void ∨ d.dims ≤ 255 ∧ d.base.IsElement

instance : DecidablePred WellFormed := fun d => inferInstanceAs (Decidable (d = void ∨ d.dims ≤ 255 ∧ d.base.IsElement))

/-- The number of dimensions and the text of the element type are read off the text of a type. -/
theorem split_chars (d : Descriptor) :
    (d.chars.takeWhile (· == '[')).length = d.dims ∧ d.chars.dropWhile (· == '[') = d.base.chars := by
  obtain ⟨c, cs, hcs, hc⟩ := d.base.exists_chars_eq_cons
  have hall : ∀ x ∈ List.replicate d.dims '[', (x == '[') = true := by simp
  rw [chars, List.takeWhile_append_of_pos hall, List.dropWhile_append_of_pos hall, hcs]
  simp [hc]

/-- A text is made of the brackets at its front and what follows them. -/
theorem chars_of_split {b : BaseType} (hb : b.chars = cs.dropWhile (· == '[')) :
    chars ⟨(cs.takeWhile (· == '[')).length, b⟩ = cs := by
  have hall : cs.takeWhile (· == '[') = List.replicate (cs.takeWhile (· == '[')).length '[' :=
    List.eq_replicate_iff.2 ⟨rfl, fun c hc => by simpa using List.mem_takeWhile_imp hc⟩
  show List.replicate _ '[' ++ b.chars = cs
  rw [← hall, hb, List.takeWhile_append_dropWhile]

theorem eq_void_of_chars (hd : d.WellFormed) (hcs : d.chars = ['V']) : d = void := by
  rcases hd with hd | ⟨-, helement⟩
  · exact hd
  · obtain ⟨-, hbase⟩ := d.split_chars
    rw [hcs] at hbase
    exact absurd helement (BaseType.not_isElement_of_chars hbase.symm)

/-- Any text but that of `void` is read as brackets and an element type. -/
theorem ofChars?_of_ne_void (hvoid : cs ≠ ['V']) : ofChars? cs = some d ↔ d.dims ≤ 255 ∧
    d.dims = (cs.takeWhile (· == '[')).length ∧ BaseType.ofChars? (cs.dropWhile (· == '[')) = some d.base := by
  have hread : ofChars? cs = if 255 < (cs.takeWhile (· == '[')).length then none else
      (BaseType.ofChars? (cs.dropWhile (· == '['))).map (⟨(cs.takeWhile (· == '[')).length, ·⟩) := by
    rw [ofChars?, if_neg hvoid]
    rfl
  rw [hread]
  constructor
  · intro h
    split at h
    · cases h
    · next hdims =>
      obtain ⟨b, hb, rfl⟩ := Option.map_eq_some_iff.1 h
      exact ⟨Nat.le_of_not_lt hdims, rfl, hb⟩
  · rintro ⟨hdims, hlen, hbase⟩
    rw [← hlen, hbase, if_neg (Nat.not_lt.2 hdims)]
    rfl

theorem ofChars?_eq_some_iff : ofChars? cs = some d ↔ d.WellFormed ∧ d.chars = cs := by
  by_cases hvoid : cs = ['V']
  · rw [ofChars?, if_pos hvoid, hvoid]
    constructor
    · intro h
      obtain rfl := Option.some.inj h
      exact ⟨.inl rfl, rfl⟩
    · rintro ⟨hd, hcs⟩
      rw [eq_void_of_chars hd hcs]
  · rw [ofChars?_of_ne_void hvoid, BaseType.ofChars?_eq_some_iff]
    constructor
    · rintro ⟨hdims, hlen, helement, hbase⟩
      obtain ⟨n, b⟩ := d
      obtain rfl : n = _ := hlen
      exact ⟨.inr ⟨hdims, helement⟩, chars_of_split hbase⟩
    · rintro ⟨rfl | ⟨hdims, helement⟩, rfl⟩
      · exact absurd rfl hvoid
      · obtain ⟨hlen, hbase⟩ := d.split_chars
        exact ⟨hdims, hlen.symm, helement, hbase.symm⟩

theorem parse?_eq_some_iff : parse? s = some d ↔ d.WellFormed ∧ d.text = s := by
  rw [parse?, ofChars?_eq_some_iff, text, String.ofList_eq]

/-- Reading accepts the texts of the well-formed types and no others, and reading and writing are inverse to each
other. -/
theorem parse?_inverse_text :
    (∀ s, (parse? s).isSome = true ↔ ∃ d : Descriptor, d.WellFormed ∧ d.text = s) ∧
      (∀ s d, parse? s = some d → d.WellFormed ∧ d.text = s) ∧
      (∀ d : Descriptor, d.WellFormed → parse? d.text = some d) ∧
      ∀ d e : Descriptor, d.WellFormed → e.WellFormed → d.text = e.text → d = e := by
  refine ⟨fun s => ?_, fun s d => parse?_eq_some_iff.1, fun d hd => parse?_eq_some_iff.2 ⟨hd, rfl⟩, ?_⟩
  · simp only [Option.isSome_iff_exists, parse?_eq_some_iff]
  · intro d e hd he htext
    have hread : parse? e.text = some d := parse?_eq_some_iff.2 ⟨hd, htext⟩
    exact Option.some.inj (hread.symm.trans (parse?_eq_some_iff.2 ⟨he, rfl⟩))

/-- A name with brackets and semicolons, under as many dimensions as there may be. -/
theorem parse?_inverse_text_deepest : WellFormed ⟨255, .object "a;[é"⟩ ∧
    parse? (text ⟨255, .object "a;[é"⟩) = some ⟨255, .object "a;[é"⟩ := by
  have hwf : WellFormed ⟨255, .object "a;[é"⟩ := by decide
  exact ⟨hwf, parse?_inverse_text.2.2.1 _ hwf⟩

example : ofChars? (List.replicate 256 '[' ++ ['I']) = none := by decide +kernel

example : ["", "[", "[V", "L;", "VV", "La"].map parse? = List.replicate 6 none := by decide +kernel

end Descriptor
end Dalvik
