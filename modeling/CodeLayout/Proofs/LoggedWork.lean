import CodeLayout.Document.Rendering
import CodeLayout.Project

/-!
# Work that is logged

Work that is logged starts with some records and leaves more of them, with a result or a
failure (`Logging.after`). Most of it never looks at the records, and then its result is the
same whatever was noted before (`Logging.Independent`): nothing that is put together from
such work looks at them either. So of pieces of work done one after the other the results
alone decide about the result of the whole (`Logging.result_bind`).

The choice of a format and the rendering of a document are such work.
-/

set_option autoImplicit false

namespace CodeLayout

namespace Logging

variable {ε δ α β : Type}

/-- Some work that starts with some records: its result and the records after it. -/
def after (records : List LogRecord) (work : Logging ε α) : Except ε α × List LogRecord :=
  work.run.run records

theorem perform_eq_after (work : Logging ε α) : work.perform = after [] work := rfl

/-- Work goes on with a result and the records so far, unless it fails. -/
theorem after_bind (step : Logging ε α) (next : α → Logging ε β) (records : List LogRecord) :
    after records (step >>= next) =
      match after records step with
      | (.ok value, later) => after later (next value)
      | (.error failure, later) => (.error failure, later) := by
  have unfolded : after records (step >>= next) =
      (ExceptT.bindCont next (after records step).1).run (after records step).2 := rfl
  rw [unfolded]
  rcases after records step with ⟨failure | value, later⟩ <;> rfl

theorem after_mapFailure (change : ε → δ) (step : Logging ε α) (records : List LogRecord) :
    after records (step.mapFailure change) =
      ((after records step).1.mapError change, (after records step).2) := by
  rcases ends : after records step with ⟨failure | value, later⟩
  · have stopped : step.run.run records = (.error failure, later) := ends
    simp only [after, mapFailure, ExceptT.run_mk, StateT.run_bind, stopped]
    rfl
  · have went : step.run.run records = (.ok value, later) := ends
    simp only [after, mapFailure, ExceptT.run_mk, StateT.run_bind, went]
    rfl

/-! ## Work that does not look at the records -/

/-- The result of some work does not depend on what was noted before. -/
def Independent (work : Logging ε α) : Prop :=
  ∀ records, (after records work).1 = work.perform.1

theorem independent_pure (value : α) : Independent (pure value : Logging ε α) := fun _ => rfl

theorem independent_throw (failure : ε) : Independent (throw failure : Logging ε α) := fun _ => rfl

theorem independent_note (level : LogLevel) (source message : String) :
    Independent (note level source message : Logging ε Unit) := fun _ => rfl

theorem independent_result (result : Except ε α) :
    Independent (ExceptT.mk (pure result) : Logging ε α) := fun _ => rfl

section Steps

variable {step : Logging ε α} {next : α → Logging ε β}

theorem result_after_bind (later : ∀ value, Independent (next value))
    (records : List LogRecord) :
    (after records (step >>= next)).1 =
      (after records step).1.bind fun value => (next value).perform.1 := by
  rw [after_bind]
  rcases after records step with ⟨failure | value, noted⟩
  · rfl
  · exact later value noted

/-- The result of a step and then of another one. -/
theorem result_bind (later : ∀ value, Independent (next value)) :
    (step >>= next).perform.1 = step.perform.1.bind fun value => (next value).perform.1 :=
  result_after_bind later []

theorem Independent.bind (first : Independent step) (later : ∀ value, Independent (next value)) :
    Independent (step >>= next) := by
  intro records
  rw [result_after_bind later, first records, result_bind later]

theorem result_mapFailure (change : ε → δ) (work : Logging ε α) :
    (work.mapFailure change).perform.1 = work.perform.1.mapError change := by
  rw [perform_eq_after, after_mapFailure, perform_eq_after]

theorem Independent.mapFailure {work : Logging ε α} (independent : Independent work)
    (change : ε → δ) : Independent (work.mapFailure change) := by
  intro records
  rw [after_mapFailure, independent records, result_mapFailure]

end Steps

end Logging

/-! ## The choice of a format and the rendering of a document -/

open Logging

namespace Project

variable (files : Files) (work : Location)

theorem independent_chooseFile (named : Option FilePath) :
    Independent (chooseFile files work named) := by
  cases named with
  | some path =>
    rw [chooseFile]
    split
    · exact independent_pure _
    · exact independent_throw _
  | none =>
    rw [chooseFile]
    split
    · exact independent_pure _
    · exact (independent_note _ _ _).bind fun _ => independent_pure _

theorem independent_loadFormat (path : FilePath) : Independent (loadFormat files work path) := by
  rw [loadFormat]
  split
  · exact independent_throw _
  · exact (independent_note _ _ _).bind fun _ => independent_pure _

theorem independent_resolveFormat (named : Option FilePath)
    (document caller : List (Value × Value)) :
    Independent (resolveFormat files work named document caller) := by
  rw [resolveFormat]
  refine (independent_chooseFile files work named).bind fun file => ?_
  have layered : ∀ base, Independent (do
      let format ← ExceptT.mk (pure (mergeFormat base document))
      ExceptT.mk (pure (mergeFormat format caller)) : Logging ConfigFailure Format) := fun base =>
    (independent_result _).bind fun _ => independent_result _
  cases file with
  | none => exact (independent_pure _).bind layered
  | some path => exact (independent_loadFormat files work path).bind layered

end Project

namespace Document

theorem independent_render (format : Format) (document : Document) :
    Independent (document.render format) := by
  rw [render]
  split
  · exact independent_throw _
  · exact (independent_note _ _ _).bind fun _ => independent_pure _

/-- The result of rendering a document is the text of its tree. -/
theorem result_render (format : Format) (document : Document) :
    (document.render format).perform.1 = document.root.sketch.settle.render format := by
  rw [render, Fragment.render]
  cases document.root.sketch.settle.renderLines format with
  | error failure => rfl
  | ok lines => rfl

end Document

end CodeLayout
