import CodeLayout.Proofs.FormatLayers

/-!
# The choice of a format

The options of a format come from a file, from the document and from the caller. The file
is the one that the caller names. If none is named, it is the one in the nearest of the
directories where one works and above, and there may be none (`Project.ChosenFile`). If a
format is chosen at all, every option is read from the highest of the layers that give it
a value, and the standard format has the options that no layer gives.

This is so because a merge takes what a layer gives and keeps the rest: what is chosen is
taken from three layers one after the other, and so from all of them at once.

Main statement: `Project.resolveFormat_layers`.
-/

set_option autoImplicit false

namespace CodeLayout

/-- The value that the highest of some layers gives to a name, of those that give one. The
highest layer is the first. -/
def Options.highest? (layers : List Options) (name : String) : Option Value :=
  layers.findSome? fun layer => layer.given? name

/-- What is taken from some layers and then from one on top of them is taken from all. -/
theorem Format.Takes.cons {below middle format : Format} {layers : List Options} {top : Options}
    (first : below.Takes (Options.highest? layers) middle)
    (second : middle.Takes top.given? format) :
    below.Takes (Options.highest? (top :: layers)) format := by
  have found : Options.highest? (top :: layers) =
      fun name => (top.given? name).or (Options.highest? layers name) := by
    funext name
    rw [Options.highest?, List.findSome?_cons]
    cases top.given? name <;> rfl
  rw [found]
  exact first.trans second

namespace FilePath

theorem mem_namePrefixes {names short : List String} :
    short ∈ namePrefixes names ↔ short <+: names := by
  rw [namePrefixes, List.mem_reverse, List.mem_map]
  constructor
  · rintro ⟨count, -, rfl⟩
    exact List.take_prefix count names
  · intro shorter
    refine ⟨short.length, List.mem_range.mpr ?_, (List.prefix_iff_eq_take.mp shorter).symm⟩
    exact Nat.lt_succ_of_le shorter.length_le

/-- The longest sequences of names come first. -/
theorem pairwise_namePrefixes (names : List String) :
    (namePrefixes names).Pairwise fun first second => second.length ≤ first.length := by
  rw [namePrefixes, List.pairwise_reverse, List.pairwise_map]
  refine List.pairwise_lt_range.imp ?_
  intro fewer more less
  rw [List.length_take, List.length_take]
  omega

end FilePath

namespace Project

open FilePath

/-! ## The file with options -/

/-- The path of the file with options in a directory. -/
def fileIn (directory : Location) : FilePath := (pathOf directory).child fileName

/-- The file with options for somebody who works at a place: the one that is named, or the
one in the nearest directory from there upwards, or none. -/
inductive ChosenFile (files : Files) (work : Location) : Option FilePath → Option FilePath → Prop
  | named {path : FilePath} (there : files.exists? work path = true) :
    ChosenFile files work (some path) (some path)
  | nearest {directory : Location} (above : directory <+: work)
      (here : files.isFile work (fileIn directory) = true)
      (nearest : ∀ other, other <+: work → files.isFile work (fileIn other) = true →
        other.length ≤ directory.length) :
    ChosenFile files work none (some (fileIn directory))
  | none (nowhere : ∀ directory, directory <+: work →
      files.isFile work (fileIn directory) = false) :
    ChosenFile files work none none

theorem findFile?_pathOf (files : Files) (work : Location) :
    findFile? files work (pathOf work) =
      ((namePrefixes work).find? fun directory => files.isFile work (fileIn directory)).map
        fileIn := by
  rw [findFile?, andAbove, List.map_map, List.find?_map]
  rfl

/-- The file that is found is the nearest one. -/
theorem chosenFile_findFile? (files : Files) (work : Location) :
    ChosenFile files work none (findFile? files work (pathOf work)) := by
  rw [findFile?_pathOf]
  cases found : (namePrefixes work).find? fun directory =>
      files.isFile work (fileIn directory) with
  | none =>
    refine .none fun directory above => ?_
    have absent := List.find?_eq_none.mp found directory (mem_namePrefixes.mpr above)
    exact Bool.not_eq_true _ ▸ absent
  | some directory =>
    obtain ⟨here, nearer, farther, split, passed⟩ := List.find?_eq_some_iff_append.mp found
    have inside : directory ∈ namePrefixes work := List.mem_of_find?_eq_some found
    refine .nearest (mem_namePrefixes.mp inside) here fun other above there => ?_
    -- What comes before the directory has no such file, and what comes after it is shorter.
    have sorted := pairwise_namePrefixes work
    have position := mem_namePrefixes.mpr above
    rw [split] at sorted position
    obtain before | rfl | after : other ∈ nearer ∨ other = directory ∨ other ∈ farther := by
      simpa using position
    · have missing := passed other before
      rw [there] at missing
      cases missing
    · exact Nat.le_refl _
    · have rest := (List.pairwise_append.mp sorted).2.1
      exact (List.pairwise_cons.mp rest).1 other after

/-! ## The options in the file -/

/-- The options that the value of a file gives, if they have names. -/
def optionsOfValue? (value : Value) : Option Options :=
  match (if isNothing value then Value.map [] else value.opened) with
  | .map entries => (readOptions entries).toOption
  | _ => none

/-- The options that a file gives, if it can be read. -/
def fileOptions? (files : Files) (work : Location) (path : FilePath) : Option Options := do
  let bytes ← (files.read work path).toOption
  let text ← (Utf8.decodeStream bytes).toOption
  let value ← (Yaml.load (String.ofList (uniformLines text.toList))).toOption
  optionsOfValue? value

/-- The options of the chosen file. Where there is no file there are none. -/
def chosenOptions? (files : Files) (work : Location) : Option FilePath → Option Options
  | none => some []
  | some path => fileOptions? files work path

theorem formatOfValue_ok {path : FilePath} {value : Value} {format : Format}
    (done : formatOfValue path value = .ok format) :
    ∃ options, optionsOfValue? value = some options ∧ Format.ofOptions options = .ok format := by
  rw [formatOfValue] at done
  split at done
  · next entries shape =>
    have given : optionsOfValue? value = (readOptions entries).toOption := by
      simp only [optionsOfValue?, shape]
    split at done
    · split at done
      · cases done
      · next options read =>
        refine ⟨options, by rw [given, read, Except.toOption], ?_⟩
        split at done
        · cases done
        · next chosen =>
          cases done
          exact chosen
    · cases done
  · cases done

theorem formatOfText_ok {path : FilePath} {text : String} {format : Format}
    (done : formatOfText path text = .ok format) :
    ∃ value, Yaml.load text = .ok value ∧ formatOfValue path value = .ok format := by
  rw [formatOfText] at done
  split at done
  · cases done
  · cases done
  · next value loaded => exact ⟨value, loaded, done⟩

/-- The format of a file takes the options that the file gives. -/
theorem readFormat_ok {files : Files} {work : Location} {path : FilePath} {format : Format}
    (done : readFormat files work path = .ok format) :
    ∃ options, fileOptions? files work path = some options ∧
      Format.standard.Takes options.given? format := by
  rw [readFormat] at done
  split at done
  · cases done
  · split at done
    · cases done
    · next bytes read =>
      split at done
      · cases done
      · next text decoded =>
        obtain ⟨value, loaded, done⟩ := formatOfText_ok done
        obtain ⟨options, given, chosen⟩ := formatOfValue_ok done
        refine ⟨options, ?_, Format.takes_of_ofOptions chosen⟩
        simp only [fileOptions?, read, decoded, loaded, given, Except.toOption,
          Option.bind_eq_bind, Option.bind_some]

/-! ## The layers -/

section Steps

variable {ε α β : Type}

/-- The result of some work that starts with some records. -/
def resultAfter (records : List LogRecord) (work : Logging ε α) : Except ε α :=
  (work.run.run records).1

/-- A step of some work that succeeds has a result, and the rest succeeds on it. -/
theorem resultAfter_bind_ok {step : Logging ε α} {next : α → Logging ε β}
    {records : List LogRecord} {result : β}
    (done : resultAfter records (step >>= next) = .ok result) :
    ∃ value later, resultAfter records step = .ok value ∧
      resultAfter later (next value) = .ok result := by
  have unfolded : resultAfter records (step >>= next) =
      ((ExceptT.bindCont next (step.run.run records).1).run (step.run.run records).2).1 := rfl
  rw [unfolded] at done
  cases first : (step.run.run records).1 with
  | error failure =>
    rw [first] at done
    cases done
  | ok value =>
    rw [first] at done
    exact ⟨value, (step.run.run records).2, first, done⟩

end Steps

section Choice

variable {files : Files} {work : Location} {records : List LogRecord}

theorem chosenFile_of_chooseFile {named file : Option FilePath}
    (done : resultAfter records (chooseFile files work named) = .ok file) :
    ChosenFile files work named file := by
  cases named with
  | some path =>
    cases there : files.exists? work path with
    | false =>
      simp only [chooseFile, there] at done
      cases done
    | true =>
      simp only [chooseFile, there] at done
      cases done
      exact .named there
  | none =>
    have chosen := chosenFile_findFile? files work
    cases found : findFile? files work (pathOf work) with
    | none =>
      rw [found] at chosen
      simp only [chooseFile, found] at done
      cases done
      exact chosen
    | some path =>
      rw [found] at chosen
      simp only [chooseFile, found] at done
      cases done
      exact chosen

theorem readFormat_of_loadFormat {path : FilePath} {format : Format}
    (done : resultAfter records (loadFormat files work path) = .ok format) :
    readFormat files work path = .ok format := by
  rw [loadFormat] at done
  cases read : readFormat files work path with
  | error failure =>
    rw [read] at done
    cases done
  | ok format =>
    rw [read] at done
    cases done
    rfl

/-- The layers of a document and of a caller, one after the other. -/
theorem mergeBoth_of_steps {base format : Format} {document caller : Options}
    (done : resultAfter records (do
      let middle ← ExceptT.mk (pure (mergeFormat base document.toEntries))
      ExceptT.mk (pure (mergeFormat middle caller.toEntries)) : Logging ConfigFailure Format) =
        .ok format) :
    mergeBoth base document caller = .ok format := by
  obtain ⟨middle, later, first, second⟩ := resultAfter_bind_ok done
  have merged : mergeFormat base document.toEntries = .ok middle := first
  rw [mergeBoth, merged]
  exact second

/-- A format is chosen by merging two layers into the one of the chosen file. -/
theorem base_of_resolveFormat {named : Option FilePath} {document caller : Options}
    {format : Format} (done : resultAfter records
      (resolveFormat files work named document.toEntries caller.toEntries) = .ok format) :
    ∃ file options base, ChosenFile files work named file ∧
      chosenOptions? files work file = some options ∧
      Format.standard.Takes options.given? base ∧ mergeBoth base document caller = .ok format := by
  obtain ⟨file, later, chosen, done⟩ := resultAfter_bind_ok done
  have there := chosenFile_of_chooseFile chosen
  cases file with
  | none =>
    exact ⟨none, [], Format.standard, there, rfl, .nothing _, mergeBoth_of_steps done⟩
  | some path =>
    obtain ⟨base, _, loaded, done⟩ := resultAfter_bind_ok done
    obtain ⟨options, given, takes⟩ := readFormat_ok (readFormat_of_loadFormat loaded)
    exact ⟨some path, options, base, there, given, takes, mergeBoth_of_steps done⟩

end Choice

/-- **The layers of a format have a strict order.** Two layers can be merged into a format
one after the other exactly when each can be merged into it alone. They are then merged
like one layer in which the upper one covers the lower one, and a failure is about options
that do not fit. So every option of the format that is chosen is read from the highest
layer that gives it a value: that of the caller, that of the document or that of the
chosen file, or else it is the one of the standard format. -/
theorem resolveFormat_layers :
    (∀ (base : Format) (below above : Options), below.names.Nodup → above.names.Nodup →
      ((∃ format, mergeBoth base below above = .ok format) ↔
        (∃ format, mergeFormat base below.toEntries = .ok format) ∧
          ∃ format, mergeFormat base above.toEntries = .ok format) ∧
      (∀ format, mergeBoth base below above = .ok format →
        mergeFormat base (Format.layer below above).toEntries = .ok format) ∧
      ∀ failure, mergeBoth base below above = .error failure →
        ∃ report, failure = .config (.options report)) ∧
    ∀ (files : Files) (work : Location) (named : Option FilePath) (document caller : Options),
      document.names.Nodup → caller.names.Nodup → ∀ format : Format,
        (resolveFormat files work named document.toEntries caller.toEntries).perform.1 =
          .ok format →
        ∃ file options, ChosenFile files work named file ∧
          chosenOptions? files work file = some options ∧
          Format.standard.Takes (Options.highest? [caller, document, options]) format := by
  refine ⟨?_, ?_⟩
  · intro base below above onceBelow onceAbove
    exact ⟨exists_mergeBoth onceBelow onceAbove, fun _ => mergeFormat_layer onceBelow onceAbove,
      fun _ => exists_of_mergeBoth_error⟩
  · intro files work named document caller onceDocument onceCaller format done
    obtain ⟨file, options, base, chosen, given, fromFile, merged⟩ := base_of_resolveFormat done
    obtain ⟨middle, fromDocument, fromCaller⟩ :=
      (mergeBoth_eq_ok onceDocument onceCaller).mp merged
    have low : Format.standard.Takes (Options.highest? [options]) base :=
      (Format.Takes.nothing Format.standard).cons fromFile
    exact ⟨file, options, chosen, given, (low.cons fromDocument).cons fromCaller⟩

/-- Files of a project: a file with options, and a directory beside it. -/
def projectFiles : Files where
  entries :=
    [(["project"], .directory), (["project", "code"], .directory),
      (["project", fileName], .file ("format:\n  indent: 2\n  trailing_newline: true\n".toList.map
        fun character => character.toNat.toUInt8))]

theorem eq_ok_of_toOption {ε α : Type} {result : Except ε α} {value : α}
    (same : result.toOption = some value) : result = .ok value := by
  cases result with
  | error failure => cases same
  | ok other => exact congrArg Except.ok (Option.some.inj same)

set_option maxRecDepth 100000 in
/-- The document decides about the indentation and covers the file above it, and the
caller, who does not, decides about the newline. -/
theorem resolveFormat_layers_project :
    let document : Options := [("indent", .text "3")]
    let caller : Options := [("indent", .null), ("trailing_newline", .bool false)]
    let chosen : Format := { unit := .spaces 3 (by decide), trailingNewline := false }
    let zero : Options := [("indent", .int 0)]
    let failure : ConfigFailure := .config (.options {
      model := "Format"
      first := { place := ["indent"], cause := .indentRange, input := .int 0 }
      others := [] })
    mergeBoth Format.tabs document caller = .ok chosen ∧
      mergeFormat Format.tabs (Format.layer document caller).toEntries = .ok chosen ∧
      mergeBoth Format.tabs zero caller = .error failure ∧
      (∃ report, failure = .config (.options report)) ∧
      (resolveFormat projectFiles ["project", "code"] none document.toEntries
        caller.toEntries).perform.1 = .ok chosen ∧
      ∃ file options, ChosenFile projectFiles ["project", "code"] none file ∧
        chosenOptions? projectFiles ["project", "code"] file = some options ∧
        Format.standard.Takes (Options.highest? [caller, document, options]) chosen := by
  intro document caller chosen zero failure
  obtain ⟨layers, choices⟩ := resolveFormat_layers
  have onceDocument : document.names.Nodup := by decide
  have onceCaller : caller.names.Nodup := by decide
  have onceZero : zero.names.Nodup := by decide
  have merged : mergeBoth Format.tabs document caller = .ok chosen :=
    eq_ok_of_toOption (by decide +kernel)
  have failed : mergeBoth Format.tabs zero caller = .error failure := rfl
  have resolved : (resolveFormat projectFiles ["project", "code"] none document.toEntries
      caller.toEntries).perform.1 = .ok chosen := eq_ok_of_toOption (by decide +kernel)
  obtain ⟨-, alike, -⟩ := layers Format.tabs document caller onceDocument onceCaller
  obtain ⟨-, -, told⟩ := layers Format.tabs zero caller onceZero onceCaller
  exact ⟨merged, alike chosen merged, failed, told failure failed, resolved,
    choices projectFiles _ none document caller onceDocument onceCaller chosen resolved⟩

end Project

end CodeLayout
