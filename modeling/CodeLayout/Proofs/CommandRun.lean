import CodeLayout.Command.Run
import CodeLayout.Proofs.DocumentFailure
import CodeLayout.Proofs.FileWriting
import CodeLayout.Proofs.FormatChoice
import CodeLayout.Proofs.LoggedWork

/-!
# Runs of the program

A run that renders a document reads it, chooses the format and makes the text, and only
then delivers the text. Each of the first steps depends on the files alone and not on what
was noted before it (`Logging.Independent`), so a run has a text exactly when all of them
succeed (`Command.Renders`), and otherwise it ends with the exit code 1 and touches
nothing.

What a run does is said of one turn, with the files before and after it
(`Turn.RendersWhole`, `Turn.ChecksWhole`). Turns that follow each other work on the files
that the one before has left, and each of them is whole.

A text with surrogates has no bytes, which comes out only when it is written; so the
delivery of such a text is left out here. The file has been emptied by then
(`Command.unfinished_runs`).

Main statement: `Command.history_whole`.
-/

set_option autoImplicit false

namespace CodeLayout

open Logging

/-! ## Steps that succeed -/

section Results

variable {ε δ α β : Type}

theorem mapError_eq_ok {change : ε → δ} {result : Except ε α} {value : α} :
    result.mapError change = .ok value ↔ result = .ok value := by
  cases result with
  | error failure => exact ⟨nofun, nofun⟩
  | ok other => simp only [Except.mapError, Except.ok.injEq]

theorem bind_eq_ok {result : Except ε α} {next : α → Except ε β} {value : β} :
    result.bind next = .ok value ↔ ∃ middle, result = .ok middle ∧ next middle = .ok value := by
  cases result with
  | error failure => exact ⟨nofun, nofun⟩
  | ok other => simp only [Except.bind, Except.ok.injEq, exists_eq_left']

end Results

/-! ## The exit code of a failure -/

namespace Complaint

theorem exitCode_ofDocument (failure : DocumentFailure) :
    (ofDocument failure).exitCode = usualCode := by
  cases failure <;> rfl

theorem exitCode_ofConfig (failure : ConfigFailure) :
    (ofConfig failure).exitCode = usualCode := by
  cases failure <;> rfl

theorem exitCode_ofLayout (failure : LayoutError) :
    (ofLayout failure).exitCode = usualCode := rfl

end Complaint

/-- A failure of some work, if it fails, ends with the usual exit code. -/
def FailsUsually {α : Type} (result : Except Complaint α) : Prop :=
  ∀ complaint, result = .error complaint → complaint.exitCode = Complaint.usualCode

section Failures

variable {ε α β : Type}

theorem failsUsually_ok (value : α) : FailsUsually (.ok value) := nofun

theorem failsUsually_mapError {change : ε → Complaint}
    (usual : ∀ failure, (change failure).exitCode = Complaint.usualCode) (result : Except ε α) :
    FailsUsually (result.mapError change) := by
  intro complaint failed
  cases result with
  | ok value => cases failed
  | error failure =>
    cases failed
    exact usual failure

theorem FailsUsually.bind {result : Except Complaint α} (first : FailsUsually result)
    {next : α → Except Complaint β} (later : ∀ value, FailsUsually (next value)) :
    FailsUsually (result.bind next) := by
  intro complaint failed
  cases result with
  | error failure =>
    cases failed
    exact first complaint rfl
  | ok value => exact later value complaint failed

end Failures

namespace Command

variable {files : Files} {work : Location}

/-! ## When there is a text -/

/-- A request to render a document, which says nothing about the format. -/
def plainRequest (document : FilePath) (output : Option FilePath) : RenderRequest where
  document
  output
  indent := none
  tab := false
  trailingNewline := none
  config := none
  verbose := false

/-- The document is read, its format is chosen, and its tree has a text under it. -/
inductive Renders (files : Files) (work : Location) (request : RenderRequest) (text : String) :
    Prop
  | intro (document : Document) (format : Format)
    (compatible : (request.tab && request.indent.isSome) = false)
    (loaded : Document.readFile files work request.document = .ok document)
    (chosen : (Project.resolveFormat files work request.config document.format.toEntries
      request.options.toEntries).perform.1 = .ok format)
    (laid : document.root.sketch.settle.render format = .ok text)

/-- The document is read, and its format options fit. -/
def Passes (files : Files) (work : Location) (request : CheckRequest) : Prop :=
  ∃ document format, Document.readFile files work request.document = .ok document ∧
    Project.mergeFormat Format.standard document.format.toEntries = .ok format

/-- The steps of rendering with options that do not exclude each other. -/
theorem rendered_of_compatible {request : RenderRequest}
    (compatible : (request.tab && request.indent.isSome) = false) :
    rendered files work request = (do
      let document ← (Document.load files work request.document).mapFailure Complaint.ofDocument
      let format ← (Project.resolveFormat files work request.config
        document.format.toEntries request.options.toEntries).mapFailure Complaint.ofConfig
      (document.render format).mapFailure Complaint.ofLayout : Logging Complaint String) := by
  rw [rendered, compatible]
  rfl

/-- The result of rendering, without what is noted on the way. -/
theorem result_rendered {request : RenderRequest}
    (compatible : (request.tab && request.indent.isSome) = false) :
    (rendered files work request).perform.1 =
      ((Document.readFile files work request.document).mapError Complaint.ofDocument).bind
        fun document => ((Project.resolveFormat files work request.config document.format.toEntries
          request.options.toEntries).perform.1.mapError Complaint.ofConfig).bind
        fun format => (document.root.sketch.settle.render format).mapError Complaint.ofLayout := by
  have last : ∀ (document : Document) (format : Format),
      Independent ((document.render format).mapFailure Complaint.ofLayout) :=
    fun document format => (Document.independent_render format document).mapFailure _
  rw [rendered_of_compatible compatible, result_bind fun document =>
    ((Project.independent_resolveFormat files work _ _ _).mapFailure _).bind (last document),
    result_mapFailure, Document.result_load]
  congr 1
  funext document
  rw [result_bind (last document), result_mapFailure]
  congr 1
  funext format
  rw [result_mapFailure, Document.result_render]

theorem result_checked (request : CheckRequest) :
    (checked files work request).perform.1 =
      ((Document.readFile files work request.document).mapError Complaint.ofDocument).bind
        fun document => ((Project.mergeFormat Format.standard
          document.format.toEntries).mapError Complaint.ofConfig).bind
        fun _ => .ok (verdict request.document document) := by
  rw [checked, result_bind, result_mapFailure, Document.result_load]
  · congr 1
    funext document
    cases Project.mergeFormat Format.standard document.format.toEntries with
    | error failure => rfl
    | ok format => rfl
  · intro document
    cases Project.mergeFormat Format.standard document.format.toEntries with
    | error failure => exact independent_throw _
    | ok format => exact independent_pure _

/-- There is a text exactly when every step succeeds. -/
theorem result_rendered_iff {request : RenderRequest} {text : String} :
    (rendered files work request).perform.1 = .ok text ↔ Renders files work request text := by
  cases compatible : request.tab && request.indent.isSome with
  | true =>
    refine iff_of_false ?_ ?_
    · rw [rendered, compatible]
      exact nofun
    · rintro ⟨_, _, other, -⟩
      rw [compatible] at other
      cases other
  | false =>
    simp only [result_rendered compatible, bind_eq_ok, mapError_eq_ok]
    constructor
    · rintro ⟨document, loaded, format, chosen, laid⟩
      exact .intro document format compatible loaded chosen laid
    · rintro ⟨document, format, -, loaded, chosen, laid⟩
      exact ⟨document, loaded, format, chosen, laid⟩

/-- There is something to say about a document exactly when it passes. -/
theorem result_checked_iff {request : CheckRequest} {text : String} :
    (checked files work request).perform.1 = .ok text ↔
      ∃ document, Document.readFile files work request.document = .ok document ∧
        (∃ format, Project.mergeFormat Format.standard document.format.toEntries = .ok format) ∧
        verdict request.document document = text := by
  simp only [result_checked, bind_eq_ok, mapError_eq_ok, exists_and_right, Except.ok.injEq]

theorem passes_of_result_checked {request : CheckRequest} {text : String}
    (done : (checked files work request).perform.1 = .ok text) : Passes files work request := by
  obtain ⟨document, loaded, ⟨format, merged⟩, -⟩ := result_checked_iff.mp done
  exact ⟨document, format, loaded, merged⟩

theorem failsUsually_rendered (request : RenderRequest) :
    FailsUsually (rendered files work request).perform.1 := by
  cases compatible : request.tab && request.indent.isSome with
  | true =>
    intro complaint failed
    rw [rendered, compatible] at failed
    cases failed
    rfl
  | false =>
    rw [result_rendered compatible]
    exact (failsUsually_mapError Complaint.exitCode_ofDocument _).bind fun document =>
      (failsUsually_mapError Complaint.exitCode_ofConfig _).bind fun format =>
        failsUsually_mapError Complaint.exitCode_ofLayout _

theorem failsUsually_checked (request : CheckRequest) :
    FailsUsually (checked files work request).perform.1 := by
  rw [result_checked]
  exact (failsUsually_mapError Complaint.exitCode_ofDocument _).bind fun document =>
    (failsUsually_mapError Complaint.exitCode_ofConfig _).bind fun format => failsUsually_ok _

/-! ## The delivery of a text -/

section Delivery

variable {level : LogLevel} {records : List LogRecord} {text : String}

theorem deliver_none_files : (deliver files work level records text none).2 = files := by
  rw [deliver]
  split <;> rfl

theorem deliver_none (plain : hasSurrogates text = false) :
    deliver files work level records text none =
      (.printed (endLine text) (recordsFrom level records), files) := by
  rw [deliver, plain]
  rfl

theorem deliver_some {path : FilePath} (writable : files.Writable work path)
    (plain : hasSurrogates text = false) :
    ∃ after, deliver files work level records text (some path) =
        (.printed "" (recordsFrom level (records ++ [writeRecord path])), after) ∧
      Files.Wrote work path text.toUTF8.data.toList files after := by
  obtain ⟨after, done, wrote⟩ := writable.wrote text.toUTF8.data.toList
  have bytes : fileBytes text = text.toUTF8.data.toList := by
    rw [fileBytes, plain]
    rfl
  refine ⟨after, ?_, wrote⟩
  rw [deliver, bytes]
  simp only [done, plain]
  rfl

end Delivery

/-! ## What a command does -/

section Commands

variable {debugging : Bool}

/-- Without a text a failure is told. -/
theorem runRender_of_fails {request : RenderRequest}
    (fails : ∀ text, ¬ Renders files work request text) :
    ∃ records complaint, complaint.exitCode = Complaint.usualCode ∧
      runRender files work debugging request =
        (.failed (logLevel request.verbose debugging) records complaint, files) := by
  rcases performed : (rendered files work request).perform with ⟨complaint | text, records⟩
  · have told : (rendered files work request).perform.1 = .error complaint := by rw [performed]
    refine ⟨records, complaint, failsUsually_rendered request complaint told, ?_⟩
    rw [runRender, performed]
  · exact absurd (result_rendered_iff.mp (by rw [performed])) (fails text)

/-- A text is delivered. -/
theorem runRender_of_renders {request : RenderRequest} {text : String}
    (renders : Renders files work request text) :
    ∃ records, runRender files work debugging request =
      deliver files work (logLevel request.verbose debugging) records text request.output := by
  have done := result_rendered_iff.mpr renders
  rcases performed : (rendered files work request).perform with ⟨result, records⟩
  rw [performed] at done
  obtain rfl : result = .ok text := done
  exact ⟨records, by rw [runRender, performed]⟩

/-- A document that does not pass is told about. -/
theorem runCheck_of_fails {request : CheckRequest} (fails : ¬ Passes files work request) :
    ∃ records complaint, complaint.exitCode = Complaint.usualCode ∧
      runCheck files work debugging request =
        (.failed (logLevel request.verbose debugging) records complaint, files) := by
  rcases performed : (checked files work request).perform with ⟨complaint | text, records⟩
  · have told : (checked files work request).perform.1 = .error complaint := by rw [performed]
    refine ⟨records, complaint, failsUsually_checked request complaint told, ?_⟩
    rw [runCheck, performed]
  · exact absurd (passes_of_result_checked (by rw [performed])) fails

/-- What is said about a document that passes is printed. -/
theorem runCheck_of_passes {request : CheckRequest} (passes : Passes files work request) :
    ∃ records document, runCheck files work debugging request =
      deliver files work (logLevel request.verbose debugging) records
        (verdict request.document document) none := by
  obtain ⟨document, format, loaded, merged⟩ := passes
  have done := result_checked_iff.mpr ⟨document, loaded, ⟨format, merged⟩, rfl⟩
  rcases performed : (checked files work request).perform with ⟨result, records⟩
  rw [performed] at done
  obtain rfl : result = .ok (verdict request.document document) := done
  exact ⟨records, document, by rw [runCheck, performed]⟩

end Commands

/-! ## Runs one after the other -/

/-- A use of the program. -/
structure Call where
  /-- The place where one works. -/
  work : Location
  /-- Whether debugging is on. -/
  debugging : Bool
  /-- The command line. -/
  words : List String

/-- A run of the program. -/
structure Turn where
  /-- How the program is used. -/
  call : Call
  /-- The files before the run. -/
  before : Files
  /-- The outcome of the run. -/
  outcome : Outcome
  /-- The files after the run. -/
  after : Files

/-- The run of a use of the program on some files. -/
def Call.turn (call : Call) (files : Files) : Turn where
  call
  before := files
  outcome := (run files call.work call.debugging call.words).1
  after := (run files call.work call.debugging call.words).2

theorem Call.turn_before (call : Call) (files : Files) : (call.turn files).before = files := rfl

/-- The runs of some uses of the program, each on the files that the one before left. -/
def history : Files → List Call → List Turn
  | _, [] => []
  | files, call :: rest => call.turn files :: history (call.turn files).after rest

/-- A run that renders a document leaves nothing half done. Without a text it ends with the
exit code 1, prints nothing and touches no file. With a text it prints the text, or it
writes the text into a file where there can be one and touches nothing else. -/
structure Turn.RendersWhole (turn : Turn) (request : RenderRequest) : Prop where
  /-- Without a text nothing is left. -/
  failed : (∀ text, ¬ Renders turn.before turn.call.work request text) →
    turn.outcome.exitCode = 1 ∧ turn.outcome.output = "" ∧ turn.after = turn.before
  /-- Where no file is named no file is touched. -/
  untouched : request.output = none → turn.after = turn.before
  /-- A text is printed with a newline at its end. -/
  printed : ∀ text, Renders turn.before turn.call.work request text → request.output = none →
    hasSurrogates text = false →
      turn.outcome.exitCode = 0 ∧ turn.outcome.output = withoutSequences (endLine text) ∧
        (sequenceStart ∉ text.toList → turn.outcome.output = endLine text)
  /-- A text is written into a file. -/
  written : ∀ text path, Renders turn.before turn.call.work request text →
    request.output = some path → turn.before.Writable turn.call.work path →
    hasSurrogates text = false →
      turn.outcome.exitCode = 0 ∧ turn.outcome.output = "" ∧
        turn.after.read turn.call.work path = .ok text.toUTF8.data.toList ∧
        Files.Wrote turn.call.work path text.toUTF8.data.toList turn.before turn.after

/-- A run that checks a document touches no file. It ends with the exit code 0 if the
document is well formed and its path can be written, and with 1 and no output if the
document is not well formed. -/
structure Turn.ChecksWhole (turn : Turn) (request : CheckRequest) : Prop where
  /-- No file is touched. -/
  untouched : turn.after = turn.before
  /-- A document that is not well formed. -/
  failed : ¬ Passes turn.before turn.call.work request →
    turn.outcome.exitCode = 1 ∧ turn.outcome.output = ""
  /-- A document that is well formed. -/
  passed : Passes turn.before turn.call.work request →
    hasSurrogates request.document.text = false → turn.outcome.exitCode = 0

theorem endLine_sequenceStart {text : String} (absent : sequenceStart ∉ text.toList) :
    sequenceStart ∉ (endLine text).toList := by
  rw [endLine]
  split
  · exact absent
  · rw [String.toList_append, List.mem_append, not_or]
    exact ⟨absent, by decide⟩

theorem Call.turn_render {call : Call} {request : RenderRequest}
    (asked : request? call.words = some (.render request)) (files : Files) :
    call.turn files = ⟨call, files, (runRender files call.work call.debugging request).1,
      (runRender files call.work call.debugging request).2⟩ := by
  rw [turn, run, asked]

theorem Call.turn_check {call : Call} {request : CheckRequest}
    (asked : request? call.words = some (.check request)) (files : Files) :
    call.turn files = ⟨call, files, (runCheck files call.work call.debugging request).1,
      (runCheck files call.work call.debugging request).2⟩ := by
  rw [turn, run, asked]

theorem Call.rendersWhole {call : Call} {request : RenderRequest}
    (asked : request? call.words = some (.render request)) (files : Files) :
    (call.turn files).RendersWhole request := by
  rw [turn_render asked]
  constructor
  · intro fails
    obtain ⟨records, complaint, usual, ran⟩ := runRender_of_fails fails
    rw [ran]
    exact ⟨usual, rfl, rfl⟩
  · intro nowhere
    by_cases renders : ∃ text, Renders files call.work request text
    · obtain ⟨text, renders⟩ := renders
      obtain ⟨records, ran⟩ := runRender_of_renders renders
      rw [ran, nowhere]
      exact deliver_none_files
    · obtain ⟨records, complaint, -, ran⟩ :=
        runRender_of_fails fun text other => renders ⟨text, other⟩
      rw [ran]
  · intro text renders nowhere plain
    obtain ⟨records, ran⟩ := runRender_of_renders renders
    rw [ran, nowhere, deliver_none plain]
    refine ⟨rfl, rfl, fun absent => ?_⟩
    exact withoutSequences_of_notMem (endLine_sequenceStart absent)
  · intro text path renders there writable plain
    obtain ⟨records, ran⟩ := runRender_of_renders renders
    obtain ⟨after, delivered, wrote⟩ := deliver_some writable plain
    rw [ran, there, delivered]
    exact ⟨rfl, rfl, wrote.read, wrote⟩

theorem hasSurrogates_verdict {path : FilePath} (plain : hasSurrogates path.text = false)
    (document : Document) : hasSurrogates (verdict path document) = false := by
  have between : hasSurrogates ": ok (" = false ∧
      hasSurrogates " fragments, size hint " = false ∧ hasSurrogates ")\n" = false := by decide
  simp only [verdict, hasSurrogates_append, hasSurrogates_toString, plain, between, Bool.or_false]

theorem Call.checksWhole {call : Call} {request : CheckRequest}
    (asked : request? call.words = some (.check request)) (files : Files) :
    (call.turn files).ChecksWhole request := by
  rw [turn_check asked]
  constructor
  · by_cases passes : Passes files call.work request
    · obtain ⟨records, document, ran⟩ := runCheck_of_passes passes
      rw [ran]
      exact deliver_none_files
    · obtain ⟨records, complaint, -, ran⟩ := runCheck_of_fails passes
      rw [ran]
  · intro fails
    obtain ⟨records, complaint, usual, ran⟩ := runCheck_of_fails fails
    rw [ran]
    exact ⟨usual, rfl⟩
  · intro passes plain
    obtain ⟨records, document, ran⟩ := runCheck_of_passes passes
    rw [ran, deliver_none (hasSurrogates_verdict plain document)]
    rfl

/-- Each run of a history is that of a use of the program on the files before it. -/
theorem turn_of_mem_history {files : Files} {calls : List Call} {turn : Turn}
    (there : turn ∈ history files calls) : turn = turn.call.turn turn.before := by
  induction calls generalizing files with
  | nil => cases there
  | cons call rest ih =>
    rcases List.mem_cons.mp there with rfl | later
    · rfl
    · exact ih later

/-- **No run leaves anything half done**, whatever has run before it on the same files. -/
theorem history_whole {files : Files} {calls : List Call} {turn : Turn}
    (there : turn ∈ history files calls) :
    (∀ request, request? turn.call.words = some (.render request) → turn.RendersWhole request) ∧
      ∀ request, request? turn.call.words = some (.check request) → turn.ChecksWhole request := by
  have same := turn_of_mem_history there
  constructor
  · intro request asked
    rw [same]
    exact turn.call.rendersWhole asked turn.before
  · intro request asked
    rw [same]
    exact turn.call.checksWhole asked turn.before

/-- A file with an ASCII text, in the root. -/
def textFile (name text : String) : Location × FileEntry :=
  ([name], .file (text.toList.map fun character => character.toNat.toUInt8))

/-- A path with a single name. -/
def namePath (name : String) : FilePath := { root := "", names := [name] }

theorem renders_of_toOption {request : RenderRequest} {text : String}
    (same : (rendered files work request).perform.1.toOption = some text) :
    Renders files work request text :=
  result_rendered_iff.mp (Project.eq_ok_of_toOption same)

set_option maxRecDepth 100000 in
/-- A document that is replaced by its own text, which is a document again. -/
theorem history_whole_replaced :
    let files : Files := { entries := [textFile "d.yaml" "root: 'root: a'\n"] }
    let document := namePath "d.yaml"
    let replacing : Call := ⟨[], false, ["render", "d.yaml", "-o", "d.yaml"]⟩
    let checking : Call := ⟨[], false, ["check", "d.yaml"]⟩
    let printing : Call := ⟨[], false, ["render", "d.yaml"]⟩
    let first := replacing.turn files
    let second := checking.turn first.after
    let third := printing.turn second.after
    history files [replacing, checking, printing] = [first, second, third] ∧
      request? replacing.words = some (.render (plainRequest document (some document))) ∧
      request? checking.words = some (.check ⟨document, false⟩) ∧
      request? printing.words = some (.render (plainRequest document none)) ∧
      (first.outcome.exitCode = 0 ∧ first.outcome.output = "" ∧
        first.after.read [] document = .ok "root: a".toUTF8.data.toList) ∧
      (second.outcome.exitCode = 0 ∧ second.after = first.after) ∧
      (third.outcome.output = "a\n" ∧ third.after = second.after) := by
  intro files document replacing checking printing first second third
  have turns : history files [replacing, checking, printing] = [first, second, third] := rfl
  have askedFirst : request? replacing.words =
      some (.render (plainRequest document (some document))) := by decide +kernel
  have askedSecond : request? checking.words = some (.check ⟨document, false⟩) := by
    decide +kernel
  have askedThird : request? printing.words = some (.render (plainRequest document none)) := by
    decide +kernel
  have there : first ∈ history files [replacing, checking, printing] ∧
      second ∈ history files [replacing, checking, printing] ∧
      third ∈ history files [replacing, checking, printing] := by simp [turns]
  have replaces := (history_whole there.1).1 _ askedFirst
  have checks := (history_whole there.2.1).2 _ askedSecond
  have prints := (history_whole there.2.2).1 _ askedThird
  have inner : Renders first.before [] (plainRequest document (some document)) "root: a" :=
    renders_of_toOption (by decide +kernel)
  have text : Renders third.before [] (plainRequest document none) "a" :=
    renders_of_toOption (by decide +kernel)
  have passes : Passes second.before [] ⟨document, false⟩ := by
    have verdict : (checked second.before [] ⟨document, false⟩).perform.1.toOption =
        some "d.yaml: ok (1 fragments, size hint 1)\n" := by decide +kernel
    exact passes_of_result_checked (Project.eq_ok_of_toOption verdict)
  have writable : first.before.Writable [] document :=
    Files.writable_of_isSome [] (by decide +kernel)
  obtain ⟨ends, silent, read, -⟩ :=
    replaces.written "root: a" document inner rfl writable (by decide +kernel)
  obtain ⟨-, -, printed⟩ := prints.printed "a" text rfl (by decide +kernel)
  have line : endLine "a" = "a\n" := by decide +kernel
  have shown : third.outcome.output = "a\n" := (printed (by decide)).trans line
  have kept : third.after = second.after :=
    (prints.untouched rfl).trans (printing.turn_before second.after)
  have checked : second.after = first.after :=
    checks.untouched.trans (checking.turn_before first.after)
  exact ⟨turns, askedFirst, askedSecond, askedThird, ⟨ends, silent, read⟩,
    ⟨checks.passed passes (by decide +kernel), checked⟩, shown, kept⟩

set_option maxRecDepth 100000 in
/-- A text with a surrogate cannot be written, and its file is empty then. The escape
character of a text is not printed with what follows it. -/
theorem unfinished_runs :
    (let files : Files :=
        { entries := [textFile "d.yaml" "root: \"\\ud83d\"\n", textFile "o.txt" "old\n"] }
      let turn := (Call.mk [] false ["render", "d.yaml", "-o", "o.txt"]).turn files
      Renders files [] (plainRequest (namePath "d.yaml") (some (namePath "o.txt")))
          (String.singleton (characterOfCode 0xD83D)) ∧
        files.Writable [] (namePath "o.txt") ∧ turn.outcome.exitCode = 1 ∧
        turn.after.read [] (namePath "o.txt") = .ok []) ∧
      let files : Files := { entries := [textFile "d.yaml" "root: \"\\e[1mx\"\n"] }
      let turn := (Call.mk [] false ["render", "d.yaml"]).turn files
      Renders files [] (plainRequest (namePath "d.yaml") none) "\x1b[1mx" ∧
        turn.outcome.exitCode = 0 ∧ turn.outcome.output = "x\n" :=
  ⟨⟨renders_of_toOption (by decide +kernel), Files.writable_of_isSome [] (by decide +kernel),
    by decide +kernel, Project.eq_ok_of_toOption (by decide +kernel)⟩,
    renders_of_toOption (by decide +kernel), by decide +kernel, by decide +kernel⟩

end Command

end CodeLayout
