import CodeLayout.Document.Node
import CodeLayout.Proofs.SoundValue

/-!
# The entry for the children of a node

A block and a list are described by a mapping, and one entry of it holds the children.
What the other entries say is read without a look at the children: if the description
fits with some children, it fits with any others and says the same besides
(`BlockEntries.read_replaced`, `ListEntries.read_replaced`). The children are built from
the first entry with their name (`Node.buildEntry_append_cons`).
-/

set_option autoImplicit false

namespace CodeLayout

theorem Value.eq_text_of_text? {value : Value} {written : String}
    (same : value.text? = some written) : value = .text written := by
  rw [text?.eq_def] at same
  split at same
  · cases same
    rfl
  · cases same

/-- The look-up of a text in some entries, one entry after the other. -/
theorem Value.lookup?_cons (key : String) (entry : Value × Value) (rest : List (Value × Value)) :
    lookup? key (entry :: rest) =
      if entry.1.text? = some key then some entry.2 else lookup? key rest := by
  obtain ⟨name, value⟩ := entry
  cases name with
  | scalar plain =>
    cases plain with
    | text name =>
      have same : (Value.text? (.text name) = some key) = (name = key) := by
        simp only [Value.text?, Option.some.injEq]
      simp only [lookup?, same]
    | null | bool _ | int _ | float _ | date _ | moment _ | bytes _ => rfl
  | list _ | tuple _ | set _ | map _ | knot _ _ | endless => rfl

/-! ## Entries with another value in one place -/

section Replaced

variable (before after : List (Value × Value)) {key name : String} (first second : Value)

/-- The look-up of another name does not see the value. -/
theorem Value.lookup?_replaced (differs : name ≠ key) :
    lookup? key (before ++ (.text name, first) :: after) =
      lookup? key (before ++ (.text name, second) :: after) := by
  have absent : ¬(Value.text name).text? = some key := fun same => differs (Option.some.inj same)
  induction before with
  | nil => rw [List.nil_append, List.nil_append, lookup?_cons, lookup?_cons, if_neg absent,
      if_neg absent]
  | cons entry rest ih =>
    rw [List.cons_append, List.cons_append, lookup?_cons, lookup?_cons, ih]

/-- Whether all keys can be read does not depend on the values. -/
theorem Options.unreadableKey?_replaced (known : List String) :
    unreadableKey? known (before ++ (.text name, first) :: after) =
      unreadableKey? known (before ++ (.text name, second) :: after) := by
  simp only [unreadableKey?, List.findSome?_append, List.findSome?_cons]

/-- The value of a known entry is never unexpected. -/
theorem Options.unexpected_replaced {known : List String} (isKnown : known.contains name = true) :
    unexpected known (before ++ (.text name, first) :: after) =
      unexpected known (before ++ (.text name, second) :: after) := by
  simp only [unexpected, List.filterMap_append, List.filterMap_cons, isKnown, if_true]

variable {α : Type} {reading : Value → Except Cause α}

theorem Field.optional_replaced (default : α) (differs : name ≠ key) :
    optional (before ++ (.text name, first) :: after) key default reading =
      optional (before ++ (.text name, second) :: after) key default reading := by
  rw [optional, Value.lookup?_replaced before after first second differs]
  rfl

theorem Field.required_replaced (differs : name ≠ key) {value : α}
    (done : required (before ++ (.text name, first) :: after) key reading = .ok value) :
    required (before ++ (.text name, second) :: after) key reading = .ok value := by
  rw [required, Value.lookup?_replaced before after first second differs] at done
  rw [required]
  cases found : Value.lookup? key (before ++ (.text name, second) :: after) with
  | none =>
    rw [found] at done
    cases done
  | some input =>
    rw [found] at done
    exact done

/-- The inlining mode does not depend on the value of another entry. -/
theorem readMode_replaced (differs : name ≠ "inline") :
    readMode (before ++ (.text name, first) :: after) =
      readMode (before ++ (.text name, second) :: after) := by
  rw [readMode, Field.optional_replaced before after first second InlineMode.auto differs]
  rfl

theorem refuseOthers_replaced {known : List String} (isKnown : known.contains name = true) :
    refuseOthers known (before ++ (.text name, first) :: after) =
      refuseOthers known (before ++ (.text name, second) :: after) := by
  rw [refuseOthers, Options.unexpected_replaced before after first second isKnown]
  rfl

theorem refuseUnreadable_replaced (known : List String) :
    refuseUnreadable known (before ++ (.text name, first) :: after) =
      refuseUnreadable known (before ++ (.text name, second) :: after) := by
  rw [refuseUnreadable, Options.unreadableKey?_replaced before after first second known]
  rfl

/-- A block with other children is read in the same way. -/
theorem BlockEntries.read_replaced {block : BlockEntries}
    (done : read (before ++ (.text body, first) :: after) = .ok block) :
    read (before ++ (.text body, second) :: after) = .ok block := by
  rw [read] at done
  obtain ⟨_, readable, done⟩ := except_bind_ok done
  obtain ⟨start, startRead, done⟩ := except_bind_ok done
  obtain ⟨close, closeRead, done⟩ := except_bind_ok done
  obtain ⟨connect, connectRead, done⟩ := except_bind_ok done
  obtain ⟨inline, inlineRead, done⟩ := except_bind_ok done
  obtain ⟨_, others, done⟩ := except_bind_ok done
  rw [refuseUnreadable_replaced before after first second] at readable
  rw [Field.optional_replaced before after first second false (by decide)] at connectRead
  rw [readMode_replaced before after first second (by decide)] at inlineRead
  rw [refuseOthers_replaced before after first second (by decide)] at others
  have startKept := Field.required_replaced before after first second (by decide) startRead
  have closeKept := Field.required_replaced before after first second (by decide) closeRead
  rw [read, readable, startKept, closeKept, connectRead, inlineRead, others]
  exact done

/-- A list with other items is read in the same way. -/
theorem ListEntries.read_replaced {list : ListEntries}
    (done : read (before ++ (.text items, first) :: after) = .ok list) :
    read (before ++ (.text items, second) :: after) = .ok list := by
  rw [read] at done
  obtain ⟨_, readable, done⟩ := except_bind_ok done
  obtain ⟨separator, separatorRead, done⟩ := except_bind_ok done
  obtain ⟨trailing, trailingRead, done⟩ := except_bind_ok done
  obtain ⟨inline, inlineRead, done⟩ := except_bind_ok done
  obtain ⟨_, others, done⟩ := except_bind_ok done
  rw [refuseUnreadable_replaced before after first second] at readable
  rw [Field.optional_replaced before after first second Trailing.ifMultiLine
    (by decide)] at trailingRead
  rw [readMode_replaced before after first second (by decide)] at inlineRead
  rw [refuseOthers_replaced before after first second (by decide)] at others
  have separatorKept :=
    Field.required_replaced before after first second (by decide) separatorRead
  rw [read, readable, separatorKept, trailingRead, inlineRead, others]
  exact done

end Replaced

/-- The children are built from the first entry with their name. -/
theorem Node.buildEntry_append_cons (path name : String) (value : Value) :
    ∀ (before after : List (Value × Value)), (∀ entry ∈ before, entry.1.text? ≠ some name) →
      buildEntry path name (before ++ (.text name, value) :: after) = buildChildren path value
  | [], after, _ => by
    have named : (Value.text name).text? = some name := rfl
    rw [List.nil_append, buildEntry, if_pos named]
  | (other, _) :: rest, after, absent => by
    have here : ¬other.text? = some name := absent _ List.mem_cons_self
    rw [List.cons_append, buildEntry, if_neg here]
    exact buildEntry_append_cons path name value rest after fun entry inside =>
      absent entry (List.mem_cons_of_mem _ inside)

end CodeLayout
