import CodeLayout.Proofs.BuiltTree
import CodeLayout.Proofs.CharacterOrigin
import CodeLayout.Proofs.CommandRun

/-!
# What a check says about rendering

A check reads a document and merges its format options into the standard format, and
rendering goes on from there. Where no project has a file with options, the rest of
rendering depends on its own options alone: they are the last layer of the format, and
whether a layer can be merged does not depend on what is below. The tree of a document
that was read has a text under every format.

So a document is rendered exactly when its check passes and the options for rendering fit
(`Command.exists_renders_iff`). A check that fails stops at a step that both commands have,
and what is told then is the same (`Command.perform_rendered_of_fails`).

Main statement: `Command.check_predicts_render`.
-/

set_option autoImplicit false

namespace CodeLayout

/-- The units of indentation have one number for tabs and the positive numbers. -/
theorem IndentUnit.exists_ofCode?_iff (code : Int) :
    (∃ unit, ofCode? code = some unit) ↔ code = -1 ∨ 1 ≤ code := by
  rw [ofCode?, tabCode]
  by_cases tab : code = -1
  · rw [if_pos tab]
    exact iff_of_true ⟨_, rfl⟩ (.inl tab)
  · rw [if_neg tab]
    by_cases positive : 0 < code.toNat
    · rw [dif_pos positive]
      exact iff_of_true ⟨_, rfl⟩ (.inr (by omega))
    · rw [dif_neg positive]
      refine iff_of_false ?_ (by omega)
      rintro ⟨unit, given⟩
      cases given

namespace Command

open Format

/-! ## The options of a request -/

namespace RenderRequest

/-- The number for the indentation that a request asks for. -/
def code (request : RenderRequest) : Option Int :=
  if request.tab then some IndentUnit.tabCode else request.indent

/-- Options that do not exclude each other ask for tabs, or for a number of spaces, or for
neither. -/
theorem fits_code_iff {request : RenderRequest}
    (compatible : (request.tab && request.indent.isSome) = false) :
    (∀ code, request.code = some code → code = -1 ∨ 1 ≤ code) ↔
      ∀ number, request.indent = some number → number = -1 ∨ 1 ≤ number := by
  rw [code]
  cases tab : request.tab with
  | false => rfl
  | true =>
    cases indent : request.indent with
    | none => exact iff_of_true (fun _ asked => .inl (Option.some.inj asked).symm) nofun
    | some number =>
      rw [tab, indent] at compatible
      cases compatible

theorem options_eq (request : RenderRequest) : request.options =
    [(indentOption, (request.code.map Value.int).getD .null),
      (trailingNewlineOption, (request.trailingNewline.map Value.bool).getD .null)] := rfl

theorem nodup_names_options (request : RenderRequest) : request.options.names.Nodup := by
  have names : request.options.names = optionNames := rfl
  rw [names]
  decide

theorem given?_indent (request : RenderRequest) :
    request.options.given? indentOption = request.code.map Value.int := by
  rw [options_eq, Options.given?_cons, if_pos rfl]
  cases request.code <;> rfl

theorem given?_trailingNewline (request : RenderRequest) :
    request.options.given? trailingNewlineOption = request.trailingNewline.map Value.bool := by
  rw [options_eq, Options.given?_cons, if_neg (by decide), Options.given?_cons, if_pos rfl]
  cases request.trailingNewline <;> rfl

theorem mem_optionNames {request : RenderRequest} {name : String} {value : Value}
    (given : request.options.given? name = some value) : name ∈ optionNames := by
  by_contra absent
  have nothing : request.options.given? name = none := Options.given?_of_notMem absent
  rw [nothing] at given
  cases given

theorem exists_unit_iff (request : RenderRequest) (below : IndentUnit) :
    (∃ unit, taken below readUnit (request.options.given? indentOption) = .ok unit) ↔
      ∀ code, request.code = some code → code = -1 ∨ 1 ≤ code := by
  rw [given?_indent]
  cases request.code with
  | none => exact iff_of_true ⟨below, rfl⟩ fun code asked => by cases asked
  | some code =>
    simp only [Option.some.injEq, forall_eq', ← IndentUnit.exists_ofCode?_iff]
    cases read : IndentUnit.ofCode? code with
    | none =>
      have refused : taken below readUnit ((some code).map Value.int) = .error .indentRange := by
        simp only [Option.map_some, taken, readUnit, Field.integer, read]
      rw [refused]
      refine iff_of_false ?_ ?_
      · rintro ⟨unit, given⟩
        cases given
      · rintro ⟨unit, given⟩
        cases given
    | some unit =>
      have accepted : taken below readUnit ((some code).map Value.int) = .ok unit := by
        simp only [Option.map_some, taken, readUnit, Field.integer, read]
      exact iff_of_true ⟨unit, accepted⟩ ⟨unit, rfl⟩

theorem exists_newline (request : RenderRequest) (below : Bool) :
    ∃ newline, taken below Field.boolean (request.options.given? trailingNewlineOption) =
      .ok newline := by
  rw [given?_trailingNewline]
  cases request.trailingNewline with
  | none => exact ⟨below, rfl⟩
  | some newline => exact ⟨newline, rfl⟩

/-- The options of a request can be merged exactly when its number for the indentation is
that of a unit. -/
theorem exists_takes_iff (request : RenderRequest) (base : Format) :
    (∃ format, base.Takes request.options.given? format) ↔
      ∀ code, request.code = some code → code = -1 ∨ 1 ≤ code := by
  rw [← request.exists_unit_iff base.unit]
  constructor
  · rintro ⟨format, takes⟩
    exact ⟨format.unit, takes.unit⟩
  · rintro ⟨unit, unitTaken⟩
    obtain ⟨newline, newlineTaken⟩ := request.exists_newline base.trailingNewline
    exact ⟨{ unit, trailingNewline := newline }, fun _ _ => mem_optionNames, unitTaken,
      newlineTaken⟩

end RenderRequest

end Command

/-! ## Formats without a file -/

namespace Project

variable {files : Files} {work : Location}

/-- No file with options is in the directory where one works or in one above it. -/
def Nowhere (files : Files) (work : Location) : Prop :=
  ∀ directory, directory <+: work → files.isFile work (fileIn directory) = false

/-- Somebody works in the root, and nothing there has the name of the file. -/
theorem nowhere_root (absent : files.find? [fileName] = none) : Nowhere files [] := by
  intro directory above
  have accepted : (fileIn []).fault? = none := by decide +kernel
  have missing : files.step [] fileName = .error .missing := by
    have down : fileName ≠ ".." := by decide
    rw [Files.step, Files.find?, if_pos rfl]
    simp only [if_neg down, List.nil_append, absent]
    rfl
  have led : files.resolve [] (fileIn []) = .error .missing := by
    have names : (fileIn []).names = [fileName] := rfl
    rw [Files.resolve_of_accepted accepted, names, List.foldlM_cons]
    have start : Files.origin [] (fileIn []) = [] := rfl
    rw [start, missing]
    rfl
  rw [List.prefix_nil.mp above, Files.isFile, Files.at?, led]

theorem Nowhere.findFile? (nowhere : Nowhere files work) :
    findFile? files work (pathOf work) = none := by
  have chosen := chosenFile_findFile? files work
  cases found : Project.findFile? files work (pathOf work) with
  | none => rfl
  | some path =>
    rw [found] at chosen
    cases chosen with
    | nearest above here nearest =>
      rw [nowhere _ above] at here
      cases here

/-- Where there is no file, the layers of the document and of the caller come on top of the
standard format. -/
theorem Nowhere.resolveFormat (nowhere : Nowhere files work)
    (document caller : List (Value × Value)) :
    resolveFormat files work none document caller = (do
      let format ← ExceptT.mk (pure (mergeFormat Format.standard document))
      ExceptT.mk (pure (mergeFormat format caller)) : Logging ConfigFailure Format) := by
  have nothing : chooseFile files work none = pure none := by
    rw [chooseFile, nowhere.findFile?]
  rw [Project.resolveFormat, nothing]
  rfl

theorem Nowhere.result_resolveFormat (nowhere : Nowhere files work)
    (document caller : List (Value × Value)) :
    (Project.resolveFormat files work none document caller).perform.1 =
      (mergeFormat Format.standard document).bind fun format => mergeFormat format caller := by
  rw [nowhere.resolveFormat]
  cases mergeFormat Format.standard document with
  | error failure => rfl
  | ok format => rfl

end Project

namespace Command

open Project Format Logging

variable {files : Files} {work : Location}

/-! ## Rendering where there is no file with options -/

/-- A document is rendered exactly when its check passes and the options for rendering
fit. -/
theorem exists_renders_iff (nowhere : Nowhere files work) {request : RenderRequest}
    (unnamed : request.config = none) (verbose : Bool) :
    (∃ text, Renders files work request text) ↔
      Passes files work ⟨request.document, verbose⟩ ∧
        (request.tab && request.indent.isSome) = false ∧
        ∀ code, request.code = some code → code = -1 ∨ 1 ≤ code := by
  constructor
  · rintro ⟨text, document, format, compatible, loaded, chosen, -⟩
    rw [unnamed, nowhere.result_resolveFormat] at chosen
    obtain ⟨middle, merged, layered⟩ := bind_eq_ok.mp chosen
    have takes := (mergeFormat_eq_ok request.nodup_names_options).mp layered
    exact ⟨⟨document, middle, loaded, merged⟩, compatible,
      (request.exists_takes_iff middle).mp ⟨format, takes⟩⟩
  · rintro ⟨⟨document, middle, loaded, merged⟩, compatible, fits⟩
    obtain ⟨format, takes⟩ := (request.exists_takes_iff middle).mpr fits
    obtain ⟨text, laid⟩ := Document.exists_render loaded format
    refine ⟨text, document, format, compatible, loaded, ?_, laid⟩
    rw [unnamed, nowhere.result_resolveFormat]
    exact bind_eq_ok.mpr ⟨middle, merged, (mergeFormat_eq_ok request.nodup_names_options).mpr takes⟩

/-- The texts of the document at a path, if there is one, have no surrogates. -/
def PlainTexts (files : Files) (work : Location) (path : FilePath) : Prop :=
  ∀ document, Document.readFile files work path = .ok document →
    ∀ text ∈ document.root.texts, hasSurrogates text = false

theorem PlainTexts.hasSurrogates {request : RenderRequest}
    (plain : PlainTexts files work request.document) {text : String}
    (renders : Renders files work request text) : hasSurrogates text = false := by
  obtain ⟨document, format, -, loaded, -, laid⟩ := renders
  refine Fragment.hasSurrogates_render (Document.regular_readFile loaded) laid ?_
  rw [Fragment.texts_settle, DocumentTree.sketch, Fragment.texts_map]
  exact plain document loaded

/-! ## Checks that fail -/

/-- Where a check fails, rendering with options that do not exclude each other fails at the
same step, with the same complaint and the same records. -/
theorem perform_rendered_of_fails (nowhere : Nowhere files work) {check : CheckRequest}
    (request : RenderRequest) (same : request.document = check.document)
    (unnamed : request.config = none) (compatible : (request.tab && request.indent.isSome) = false)
    (fails : ¬ Passes files work check) :
    ∃ complaint records, (checked files work check).perform = (.error complaint, records) ∧
      (rendered files work request).perform = (.error complaint, records) := by
  have read : after [] ((Document.load files work check.document).mapFailure
      Complaint.ofDocument) =
        ((Document.readFile files work check.document).mapError Complaint.ofDocument,
          (Document.load files work check.document).perform.2) := by
    rw [← Document.result_load]
    exact after_mapFailure _ _ []
  rw [rendered_of_compatible compatible, same, unnamed, checked, perform_eq_after,
    perform_eq_after, after_bind, after_bind, read]
  cases loaded : Document.readFile files work check.document with
  | error failure => exact ⟨_, _, rfl, rfl⟩
  | ok document =>
    cases merged : mergeFormat standard document.format.toEntries with
    | ok format => exact absurd ⟨document, format, loaded, merged⟩ fails
    | error failure =>
      refine ⟨.ofConfig failure, (Document.load files work check.document).perform.2, ?_, ?_⟩
      · simp only [Except.mapError, merged]
        rfl
      · simp only [Except.mapError, after_bind, after_mapFailure, nowhere.resolveFormat, merged]
        rfl

/-! ## Checking and rendering -/

section Predictions

variable {debugging : Bool} {words checking : List String}

theorem exitCode_check {check : CheckRequest} (asked : request? words = some (.check check))
    (written : hasSurrogates check.document.text = false) :
    (run files work debugging words).1.exitCode = 0 ↔ Passes files work check := by
  have whole : (Call.turn ⟨work, debugging, words⟩ files).ChecksWhole check :=
    Call.checksWhole asked files
  constructor
  · intro ends
    by_contra fails
    have other := (whole.failed fails).1
    rw [Call.turn, ends] at other
    cases other
  · exact fun passes => whole.passed passes written

theorem exitCode_render {request : RenderRequest}
    (asked : request? words = some (.render request)) (printed : request.output = none)
    (plain : PlainTexts files work request.document) :
    (run files work debugging words).1.exitCode = 0 ↔ ∃ text, Renders files work request text := by
  have whole : (Call.turn ⟨work, debugging, words⟩ files).RendersWhole request :=
    Call.rendersWhole asked files
  constructor
  · intro ends
    by_contra fails
    have other := (whole.failed fun text renders => fails ⟨text, renders⟩).1
    rw [Call.turn, ends] at other
    cases other
  · rintro ⟨text, renders⟩
    exact (whole.printed text renders printed (plain.hasSurrogates renders)).1

/-- **A check predicts rendering.** Where no project has a file with options, a document is
rendered exactly when its check passes and the options for rendering fit: not both tabs and
a number of spaces, and no number but a positive one and the one for tabs. A check that
fails tells the same as rendering without options. -/
theorem check_predicts_render (debugging : Bool) (nowhere : Nowhere files work)
    {request : RenderRequest} (asked : request? words = some (.render request))
    (printed : request.output = none)
    (unnamed : request.config = none) (plain : PlainTexts files work request.document)
    {check : CheckRequest} (askedCheck : request? checking = some (.check check))
    (same : check.document = request.document)
    (written : hasSurrogates check.document.text = false) :
    ((run files work debugging words).1.exitCode = 0 ↔
      (run files work debugging checking).1.exitCode = 0 ∧
        ¬ (request.tab = true ∧ request.indent.isSome = true) ∧
        ∀ number, request.indent = some number → number = -1 ∨ 1 ≤ number) ∧
    ((run files work debugging checking).1.exitCode ≠ 0 → ∀ bare,
      request? bare = some (.render
        { plainRequest check.document none with verbose := check.verbose }) →
      (run files work debugging bare).1 = (run files work debugging checking).1) := by
  constructor
  · rw [exitCode_check askedCheck written, exitCode_render asked printed plain,
      exists_renders_iff nowhere unnamed check.verbose, ← same, ← Bool.and_eq_true_iff,
      Bool.not_eq_true]
    refine and_congr_right fun _ => and_congr_right fun compatible => ?_
    exact RenderRequest.fits_code_iff compatible
  · intro fails bare askedBare
    obtain ⟨complaint, records, checkFails, renderFails⟩ :=
      perform_rendered_of_fails nowhere
        { plainRequest check.document none with verbose := check.verbose } rfl rfl rfl
        (mt (exitCode_check askedCheck written).mpr fails)
    rw [run, run, askedBare, askedCheck]
    simp only [runRender, runCheck, renderFails, checkFails]

end Predictions

theorem plainTexts_of_all {path : FilePath}
    (all : ((Document.readFile files work path).toOption.all fun document =>
      document.root.texts.all fun text => !hasSurrogates text) = true) :
    PlainTexts files work path := by
  intro document read text inside
  rw [read] at all
  simpa using List.all_eq_true.mp all text inside

/-- A file with a document in the root, and nothing else. -/
def documentFiles (text : String) : Files := { entries := [textFile "d.yaml" text] }

theorem nowhere_documentFiles (text : String) : Nowhere (documentFiles text) [] :=
  nowhere_root rfl

set_option maxRecDepth 100000 in
/-- A document that passes is rendered with two spaces a level and not with none, and one
with a node of no kind fails in both commands. -/
theorem check_predicts_render_pair :
    let good := documentFiles "root: \x7bblock: \x7bstart: a, end: b\x7d\x7d\n"
    let bad := documentFiles "root: [a, true]\n"
    ((run good [] false ["render", "--indent", "2", "d.yaml"]).1.exitCode = 0 ∧
      (run good [] false ["render", "--indent", "0", "d.yaml"]).1.exitCode ≠ 0) ∧
      (run bad [] false ["check", "d.yaml"]).1.exitCode ≠ 0 ∧
      (run bad [] false ["render", "d.yaml"]).1 = (run bad [] false ["check", "d.yaml"]).1 := by
  intro good bad
  have askedCheck : request? ["check", "d.yaml"] = some (.check ⟨namePath "d.yaml", false⟩) := by
    decide +kernel
  have askedTwo : request? ["render", "--indent", "2", "d.yaml"] = some (.render
      { plainRequest (namePath "d.yaml") none with indent := some 2 }) := by decide +kernel
  have askedNone : request? ["render", "--indent", "0", "d.yaml"] = some (.render
      { plainRequest (namePath "d.yaml") none with indent := some 0 }) := by decide +kernel
  have askedBare : request? ["render", "d.yaml"] = some (.render
      (plainRequest (namePath "d.yaml") none)) := by decide +kernel
  have plain : PlainTexts good [] (namePath "d.yaml") := plainTexts_of_all (by decide +kernel)
  have plainBad : PlainTexts bad [] (namePath "d.yaml") := plainTexts_of_all (by decide +kernel)
  have written : hasSurrogates (namePath "d.yaml").text = false := by decide +kernel
  have passes : (run good [] false ["check", "d.yaml"]).1.exitCode = 0 := by decide +kernel
  have fails : (run bad [] false ["check", "d.yaml"]).1.exitCode ≠ 0 := by decide +kernel
  have nowhere : Nowhere good [] := nowhere_documentFiles _
  have nowhereBad : Nowhere bad [] := nowhere_documentFiles _
  -- From here on the contents of the files do not matter.
  clear_value good bad
  have two := check_predicts_render false nowhere askedTwo rfl rfl plain askedCheck rfl written
  have none := check_predicts_render false nowhere askedNone rfl rfl plain askedCheck rfl written
  have alike := check_predicts_render false nowhereBad askedBare rfl rfl plainBad askedCheck rfl
    written
  refine ⟨⟨two.1.mpr ⟨passes, nofun, ?_⟩, fun ends => ?_⟩, fails, alike.2 fails _ askedBare⟩
  · intro number asked
    cases asked
    decide
  · exact absurd ((none.1.mp ends).2.2 0 rfl) (by decide)

end Command

end CodeLayout
