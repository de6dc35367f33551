import CodeLayout.Document.Node

/-!
# Sound values

What has to hold of the values in a document so that no node of it fails in a way of
its own: the numbers and keys in it can be written, it ends, and every text in it is a
good one. What a good text is stays open. Where this can be told, it can be told of a
value whether it is sound.

For the nodes of a document a text is a good one when it can be filled in. One
template can change the variables of the next, and there are variables that no template
can be filled in with. So this goes by an invariant: a set of variables that the text
keeps, and with which it fails only for a fault of the template itself
(`Template.Sound`). A number as a text is never a template.
-/

set_option autoImplicit false

namespace CodeLayout

/-! ## Texts without braces -/

/-- A text is no part of another one without its first character. -/
theorem isPartOf_of_not_mem {first : Char} (part : List Char) :
    ∀ {text : List Char}, first ∉ text → isPartOf (first :: part) text = false
  | [], _ => rfl
  | character :: rest, absent => by
    have differs : (first == character) = false :=
      beq_false_of_ne fun same => absent (same ▸ List.mem_cons_self)
    have later := isPartOf_of_not_mem part fun inside =>
      absent (List.mem_cons_of_mem character inside)
    rw [isPartOf, later, List.isPrefixOf, differs]
    rfl

theorem Template.isTemplate_of_unbraced {text : String} (unbraced : '\x7b' ∉ text.toList) :
    isTemplate text = false := isPartOf_of_not_mem ['\x7b'] unbraced

theorem unbraced_digitList (number : Nat) : '\x7b' ∉ Decimal.digitList number := by
  intro inside
  have digit := Nat.isDigit_of_mem_toDigits (by decide) (by decide) inside
  exact absurd digit (by decide)

theorem unbraced_zeros (count : Nat) : '\x7b' ∉ zeros count := by
  intro inside
  exact absurd (List.eq_of_mem_replicate inside) (by decide)

theorem unbraced_exponentText (exponent : Int) : '\x7b' ∉ exponentText exponent := by
  rw [exponentText]
  simp only [List.mem_cons, List.mem_append, not_or]
  refine ⟨?_, unbraced_zeros _, unbraced_digitList _⟩
  split <;> decide

theorem unbraced_splitAtPoint {digits : List Char} (unbraced : '\x7b' ∉ digits)
    (exponent : Int) :
    '\x7b' ∉ (splitAtPoint digits exponent).1 ∧ '\x7b' ∉ (splitAtPoint digits exponent).2 := by
  rw [splitAtPoint]
  split
  · simp [unbraced, unbraced_zeros]
  · refine ⟨?_, fun inside => unbraced (List.mem_of_mem_drop inside)⟩
    simp only [List.mem_append, not_or]
    exact ⟨fun inside => unbraced (List.mem_of_mem_take inside), unbraced_zeros _⟩

theorem unbraced_write (decimal : Decimal) : '\x7b' ∉ decimal.write := by
  have digits := unbraced_digitList decimal.digits
  rw [Decimal.write]
  split
  · obtain ⟨whole, fraction⟩ := unbraced_splitAtPoint digits decimal.exponent
    simp only [List.mem_append, List.mem_cons, not_or]
    refine ⟨whole, by decide, ?_⟩
    split
    · decide
    · exact fraction
  · have first : '\x7b' ∉ (Decimal.digitList decimal.digits).take 1 :=
      fun inside => digits (List.mem_of_mem_take inside)
    have rest : '\x7b' ∉ (Decimal.digitList decimal.digits).drop 1 :=
      fun inside => digits (List.mem_of_mem_drop inside)
    simp only [List.mem_append, List.mem_cons, not_or]
    refine ⟨⟨first, ?_⟩, by decide, unbraced_exponentText _⟩
    split
    · decide
    · simp only [List.mem_cons, not_or]
      exact ⟨by decide, rest⟩

theorem unbraced_floatText (number : Float) : '\x7b' ∉ (floatText number).toList := by
  rw [floatText]
  split
  · decide
  · split <;> decide
  · next negative mantissa exponent _ =>
    have digits := unbraced_write (Decimal.shortest mantissa exponent)
    rw [String.toList_ofList]
    split
    · simp only [List.mem_cons, not_or]
      exact ⟨by decide, digits⟩
    · exact digits

theorem unbraced_integer (number : Int) : '\x7b' ∉ (toString number).toList := by
  rw [Int.toString_eq_repr, Int.repr_eq_if]
  split
  · rw [Nat.toList_repr]
    exact unbraced_digitList _
  · rw [String.toList_append, Nat.toList_repr, List.mem_append, not_or]
    exact ⟨by decide, unbraced_digitList _⟩

/-! ## Sound texts and values -/

/-- With variables of a set, the filling of a text fails only where the template itself
is at fault, and it leaves variables of this set. -/
def Template.Sound (allowed : Node.Variables → Prop) (text : String) : Prop :=
  ∀ bindings, allowed bindings →
    (∀ fault, (fill bindings text).result = .error fault → fault.isOfTemplate = true) ∧
      allowed (fill bindings text).bindings

/-- A text that is no template stands for itself. -/
theorem Template.sound_of_plain {text : String} (plain : isTemplate text = false)
    (allowed : Node.Variables → Prop) : Sound allowed text := by
  intro bindings holds
  have same : fill bindings text = { result := .ok text, bindings } := by
    rw [fill, plain]
    rfl
  rw [same]
  exact ⟨nofun, holds⟩

/-- What a scalar says as a text is of a kind, and it has not too many digits. -/
def Scalar.Sound (good : String → Prop) : Scalar → Prop
  | .text written => good written
  | .bytes raw => ∀ written ∈ (Utf8.decode raw).toOption, good written
  | .int number => isWritableInteger number = true
  | .null | .bool _ | .float _ | .date _ | .moment _ => True

mutual

/-- The scalars that the nodes of a value can use are sound, the keys in it can be
written, and it ends. -/
def Value.Sound (good : String → Prop) : Value → Prop
  | .scalar plain => plain.Sound good
  | .list items => AllSound good items
  | .tuple _ => True
  | .set _ => True
  | .map entries => EntriesSound good entries
  | .knot _ inner => Sound good (inner ())
  | .endless => False

/-- Some values are sound. -/
def Value.AllSound (good : String → Prop) : List Value → Prop
  | [] => True
  | first :: rest => Sound good first ∧ AllSound good rest

/-- The keys of some entries can be written, and their values are sound. -/
def Value.EntriesSound (good : String → Prop) : List (Value × Value) → Prop
  | [] => True
  | (key, value) :: rest =>
    key.isWritable = true ∧ Sound good value ∧ EntriesSound good rest

end

section Deciding

variable (good : String → Prop) [DecidablePred good]

instance : (plain : Scalar) → Decidable (plain.Sound good)
  | .text written => inferInstanceAs (Decidable (good written))
  | .bytes raw => inferInstanceAs (Decidable (∀ written ∈ (Utf8.decode raw).toOption, good written))
  | .int number => inferInstanceAs (Decidable (isWritableInteger number = true))
  | .null | .bool _ | .float _ | .date _ | .moment _ => .isTrue trivial

mutual

/-- Whether a value is sound, if it can be told of every text whether it is a good
one. -/
def Value.decideSound : (value : Value) → Decidable (value.Sound good)
  | .scalar plain => inferInstanceAs (Decidable (plain.Sound good))
  | .list items => decideAllSound items
  | .tuple _ => .isTrue trivial
  | .set _ => .isTrue trivial
  | .map entries => decideEntriesSound entries
  | .knot _ inner => decideSound (inner ())
  | .endless => .isFalse id

/-- Whether some values are sound. -/
def Value.decideAllSound : (items : List Value) → Decidable (Value.AllSound good items)
  | [] => .isTrue trivial
  | first :: rest =>
    @instDecidableAnd _ _ (decideSound first) (decideAllSound rest)

/-- Whether some entries are sound. -/
def Value.decideEntriesSound :
    (entries : List (Value × Value)) → Decidable (Value.EntriesSound good entries)
  | [] => .isTrue trivial
  | (_, value) :: rest =>
    @instDecidableAnd _ _ inferInstance
      (@instDecidableAnd _ _ (decideSound value) (decideEntriesSound rest))

end

instance (value : Value) : Decidable (value.Sound good) := value.decideSound good

end Deciding

theorem Scalar.Sound.mono {good fine : String → Prop} (weaker : ∀ text, good text → fine text) :
    ∀ {plain : Scalar}, plain.Sound good → plain.Sound fine
  | .text written, sound => weaker written sound
  | .bytes _, sound => fun written read => weaker written (sound written read)
  | .int _, sound => sound
  | .null, _ | .bool _, _ | .float _, _ | .date _, _ | .moment _, _ => trivial

mutual

theorem Value.Sound.mono {good fine : String → Prop} (weaker : ∀ text, good text → fine text) :
    ∀ value : Value, value.Sound good → value.Sound fine
  | .scalar _, sound => Scalar.Sound.mono weaker sound
  | .list items, sound => AllSound.mono weaker items sound
  | .tuple _, _ => trivial
  | .set _, _ => trivial
  | .map entries, sound => EntriesSound.mono weaker entries sound
  | .knot _ inner, sound => Sound.mono weaker (inner ()) sound
  | .endless, sound => sound

theorem Value.AllSound.mono {good fine : String → Prop}
    (weaker : ∀ text, good text → fine text) :
    ∀ items : List Value, AllSound good items → AllSound fine items
  | [], _ => trivial
  | first :: rest, sound =>
    ⟨Sound.mono weaker first sound.1, AllSound.mono weaker rest sound.2⟩

theorem Value.EntriesSound.mono {good fine : String → Prop}
    (weaker : ∀ text, good text → fine text) :
    ∀ entries : List (Value × Value), EntriesSound good entries → EntriesSound fine entries
  | [], _ => trivial
  | (_, value) :: rest, sound =>
    ⟨sound.1, Sound.mono weaker value sound.2.1, EntriesSound.mono weaker rest sound.2.2⟩

end

section Reading

variable {good : String → Prop}

/-- A field that is read as a text gives a text of a sound scalar. -/
theorem Field.good_of_text {value : Value} (sound : value.Sound good) {written : String}
    (read : Field.text value = .ok written) : good written := by
  cases value with
  | scalar plain =>
    rw [Value.Sound] at sound
    cases plain with
    | text plain =>
      cases read
      exact sound
    | bytes raw =>
      simp only [Field.text] at read
      cases decoded : Utf8.decode raw with
      | ok plain =>
        rw [decoded] at read
        cases read
        exact sound written (decoded ▸ rfl)
      | error problem =>
        rw [decoded] at read
        cases read
    | null | bool _ | int _ | float _ | date _ | moment _ => cases read
  | list _ | tuple _ | set _ | map _ | knot _ _ | endless => cases read

theorem Value.sound_of_lookup {key : String} {value : Value} :
    ∀ {entries : List (Value × Value)}, EntriesSound good entries →
      lookup? key entries = some value → value.Sound good
  | [], _, found => by cases found
  | (first, second) :: rest, sound, found => by
    obtain ⟨_, here, later⟩ := sound
    rw [lookup?.eq_def] at found
    split at found
    · next empty => cases empty
    · next same =>
      cases same
      split at found
      · cases found
        exact here
      · exact sound_of_lookup later found
    · next same =>
      cases same
      exact sound_of_lookup later found

theorem Field.good_of_required {entries : List (Value × Value)}
    (sound : Value.EntriesSound good entries) {name written : String}
    (read : Field.required entries name Field.text = .ok written) : good written := by
  rw [Field.required] at read
  cases found : Value.lookup? name entries with
  | none =>
    rw [found] at read
    cases read
  | some input =>
    simp only [found] at read
    cases text : Field.text input with
    | error cause =>
      rw [text] at read
      cases read
    | ok plain =>
      rw [text] at read
      cases read
      exact good_of_text (Value.sound_of_lookup sound found) text

/-- A step of a reading that succeeds has a result, and the rest succeeds on it. -/
theorem except_bind_ok {ε α β : Type} {step : Except ε α} {next : α → Except ε β} {result : β}
    (read : step >>= next = .ok result) : ∃ value, step = .ok value ∧ next value = .ok result := by
  cases step with
  | error problem => cases read
  | ok value => exact ⟨value, rfl, read⟩

/-- The lines of a block are texts of its entries. -/
theorem BlockEntries.good_of_read {entries : List (Value × Value)}
    (sound : Value.EntriesSound good entries) {block : BlockEntries}
    (done : BlockEntries.read entries = .ok block) : good block.start ∧ good block.close := by
  rw [BlockEntries.read] at done
  obtain ⟨_, _, done⟩ := except_bind_ok done
  obtain ⟨start, startRead, done⟩ := except_bind_ok done
  obtain ⟨close, closeRead, done⟩ := except_bind_ok done
  obtain ⟨connect, _, done⟩ := except_bind_ok done
  obtain ⟨inline, _, done⟩ := except_bind_ok done
  obtain ⟨_, _, done⟩ := except_bind_ok done
  cases done
  exact ⟨Field.good_of_required sound startRead, Field.good_of_required sound closeRead⟩

/-- The separator of a list is a text of its entries. -/
theorem ListEntries.good_of_read {entries : List (Value × Value)}
    (sound : Value.EntriesSound good entries) {list : ListEntries}
    (done : ListEntries.read entries = .ok list) : good list.separator := by
  rw [ListEntries.read] at done
  obtain ⟨_, _, done⟩ := except_bind_ok done
  obtain ⟨separator, separatorRead, done⟩ := except_bind_ok done
  obtain ⟨trailing, _, done⟩ := except_bind_ok done
  obtain ⟨inline, _, done⟩ := except_bind_ok done
  obtain ⟨_, _, done⟩ := except_bind_ok done
  cases done
  exact Field.good_of_required sound separatorRead

end Reading

end CodeLayout
