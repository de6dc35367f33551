import CodeLayout.Proofs.FormatChoice

/-!
# Which files give a format

The file of a project should have no value, or a mapping with at most one entry, whose value
is a mapping of options that choose a format (`Project.Chooses`). Such a file gives this
format. Every other file should be refused with an error in its options.

Three kinds of file are not refused in this way (`Project.Stray`). A value that the text
asks for may not exist. A value that counts as nothing, such as false or an empty sequence,
is taken for no options at all. And a key that is no text ends the reading before the
entries are checked. For every file that is none of these, what it should be decides.

Main statement: `Project.loadFormat_settled`. Two files that are not refused are those of
`Project.unsettled_files`.
-/

set_option autoImplicit false

namespace CodeLayout

/-! ## Entries of which one is known -/

/-- No entry is unexpected exactly when all keys are known texts. -/
theorem Options.unexpected_eq_nil_iff (known : List String) (entries : List (Value × Value)) :
    unexpected known entries = [] ↔
      ∀ entry ∈ entries, ∃ name, entry.1 = .text name ∧ name ∈ known := by
  rw [unexpected, List.filterMap_eq_nil_iff]
  refine forall_congr' fun entry => imp_congr_right fun _ => ?_
  obtain ⟨key, value⟩ := entry
  cases key with
  | scalar plain =>
    cases plain with
    | text name =>
      by_cases inside : name ∈ known
      · simp [inside]
      · simp [inside]
    | null | bool _ | int _ | float _ | date _ | moment _ | bytes _ => simp
  | list _ | tuple _ | set _ | map _ | knot _ _ | endless => simp

/-- Keys that are known texts can all be read. -/
theorem Options.unreadableKey?_of_known {known : List String} {entries : List (Value × Value)}
    (all : ∀ entry ∈ entries, ∃ name, entry.1 = .text name ∧ name ∈ known) :
    unreadableKey? known entries = none := by
  rw [unreadableKey?, List.findSome?_eq_none_iff]
  intro entry inside
  obtain ⟨name, text, isKnown⟩ := all entry inside
  simp [text, isKnown]

/-- There are no problems exactly when none was found and all keys are known texts. -/
theorem Options.problems_eq_nil_iff (known : List String) (entries : List (Value × Value))
    (found : List Problem) :
    problems known entries found = [] ↔
      found = [] ∧ ∀ entry ∈ entries, ∃ name, entry.1 = .text name ∧ name ∈ known := by
  rw [problems]
  cases unreadable : unreadableKey? known entries with
  | none => simp only [List.append_eq_nil_iff, unexpected_eq_nil_iff]
  | some problem =>
    refine iff_of_false (List.cons_ne_nil _ _) ?_
    rintro ⟨-, all⟩
    rw [unreadableKey?_of_known all] at unreadable
    cases unreadable

namespace Project

/-! ## What a file should be -/

/-- The options that the entry for them gives: none where there is no entry, and else those of
a mapping whose keys are all read as texts. -/
def Gives : Option Value → Options → Prop
  | none, options => options = []
  | some inner, options =>
    ∃ entries, inner.opened = .map entries ∧
      Options.ofEntries [formatEntry] entries = (options, [])

/-- A value chooses a format. It is null, or a mapping with no other entry than the one with
options, and these options choose the format. -/
inductive Chooses : Value → Format → Prop
  | nothing : Chooses .null Format.standard
  | mapping {value : Value} {entries : List (Value × Value)} {options : Options}
    {format : Format} (opened : value.opened = .map entries)
    (only : ∀ entry ∈ entries, entry.1 = .text formatEntry)
    (given : Gives (Value.lookup? formatEntry entries) options)
    (fits : Format.ofOptions options = .ok format) : Chooses value format

/-- The value of a text chooses a format. -/
def TextChooses (text : String) (format : Format) : Prop :=
  ∃ value, Yaml.load text = .ok value ∧ Chooses value format

/-- A value that goes astray: it counts as nothing and is neither null nor a mapping, or one
of its keys is no text. -/
inductive StrayValue : Value → Prop
  | nothing {value : Value} (counts : isNothing value = true) (something : value ≠ .null)
    (shape : ∀ entries, value ≠ .map entries) : StrayValue value
  | key {value : Value} {entries : List (Value × Value)} {entry : Value × Value}
    (opened : value.opened = .map entries) (inside : entry ∈ entries)
    (noText : entry.1.text? = none) : StrayValue value

/-- A text that goes astray: it is well formed and asks for a value that does not exist, or
its value does. -/
inductive Stray (text : String) : Prop
  | absent {failure : Yaml.Failure} (failed : Yaml.load text = .error failure)
    (formed : failure ≠ .malformed)
  | value {value : Value} (loaded : Yaml.load text = .ok value) (stray : StrayValue value)

/-- The text of the bytes of a project's file, with every line break as a line feed. -/
def fileText (bytes : List UInt8) : Except DecodeError String :=
  (Utf8.decodeStream bytes).map fun text => String.ofList (uniformLines text.toList)

/-! ## Reading the options -/

/-- The entry for the options gives those that are read from its value without a problem. -/
theorem gives_some_iff {inner : Value} {options : Options} :
    Gives (some inner) options ↔ Options.ofValue [formatEntry] inner = (options, []) := by
  rw [Options.ofValue]
  constructor
  · rintro ⟨entries, opened, given⟩
    rw [opened]
    exact given
  · intro given
    split at given
    · next entries opened => exact ⟨entries, opened, given⟩
    · cases given

/-- The options of a file are read exactly when its entry gives them and there is no other
entry. -/
theorem readOptions_eq_ok {entries : List (Value × Value)} {options : Options} :
    readOptions entries = .ok options ↔
      (∀ entry ∈ entries, entry.1 = .text formatEntry) ∧
        Gives (Value.lookup? formatEntry entries) options := by
  have alone : (∀ entry ∈ entries, ∃ name, entry.1 = .text name ∧ name ∈ [formatEntry]) ↔
      ∀ entry ∈ entries, entry.1 = .text formatEntry := by
    simp only [List.mem_singleton, exists_eq_right]
  -- What matters of the reading is its options and whether it found no problem.
  have settled (read : Options × List Problem) {result : Except Report Options}
      (refused : ∀ report, Report.ofProblems? "ProjectConfig"
        (Options.problems [formatEntry] entries read.2) = some report → result = .error report)
      (taken : Report.ofProblems? "ProjectConfig"
        (Options.problems [formatEntry] entries read.2) = none → result = .ok read.1) :
      result = .ok options ↔
        (∀ entry ∈ entries, entry.1 = .text formatEntry) ∧ read = (options, []) := by
    have fine := Options.problems_eq_nil_iff [formatEntry] entries read.2
    rw [alone] at fine
    cases problems : Options.problems [formatEntry] entries read.2 with
    | cons first others =>
      rw [problems] at fine
      have fails := refused _ (congrArg (Report.ofProblems? "ProjectConfig") problems)
      refine iff_of_false (by rw [fails]; rintro ⟨⟩) ?_
      rintro ⟨only, rfl⟩
      cases fine.mpr ⟨rfl, only⟩
    | nil =>
      obtain ⟨nothing, only⟩ := fine.mp problems
      rw [taken (congrArg (Report.ofProblems? "ProjectConfig") problems), Except.ok.injEq]
      exact ⟨fun same => ⟨only, Prod.ext same nothing⟩, fun both => congrArg Prod.fst both.2⟩
  rw [readOptions]
  cases Value.lookup? formatEntry entries with
  | none =>
    refine (settled ([], []) (fun report found => ?_) fun found => ?_).trans
      (and_congr_right fun _ => ?_)
    · simp only [found]
    · simp only [found]
    · simp only [Gives, Prod.mk.injEq, and_true, eq_comm]
  | some inner =>
    refine (settled (Options.ofValue [formatEntry] inner) (fun report found => ?_) fun found =>
      ?_).trans (and_congr_right fun _ => gives_some_iff.symm)
    · simp only [found]
    · simp only [found]

/-! ## The format of a value -/

section Choice

variable {value : Value} {entries : List (Value × Value)} {format : Format}

/-- What counts as nothing has no entries. -/
theorem entries_of_isNothing (counts : isNothing value = true)
    (opened : value.opened = .map entries) : entries = [] := by
  cases value with
  | map own =>
    cases opened
    exact List.isEmpty_iff.mp counts
  | scalar _ | list _ | tuple _ | set _ | endless => cases opened
  | knot label inner => cases counts

theorem formatOfValue_of_isNothing (counts : isNothing value = true) (path : FilePath) :
    formatOfValue path value = .ok Format.standard := by
  rw [formatOfValue, if_pos counts]
  rfl

/-- The format of a value with entries is that of its entries. -/
theorem formatOfValue_of_opened (opened : value.opened = .map entries) (path : FilePath) :
    formatOfValue path value =
      if entries.all fun entry => entry.1.text?.isSome then
        match readOptions entries with
        | .error report => .error (.config (.invalid path.text report))
        | .ok options =>
          match Format.ofOptions options with
          | .error report => .error (.config (.invalid path.text report))
          | .ok format => .ok format
      else
        .error .key := by
  cases counts : isNothing value with
  | true =>
    rw [entries_of_isNothing counts opened, formatOfValue_of_isNothing counts]
    rfl
  | false =>
    have shown : (if isNothing value then Value.map [] else value.opened) = .map entries := by
      rw [if_neg (ne_true_of_eq_false counts), opened]
    rewrite [formatOfValue, shown]
    rfl

/-- A value that chooses a format gives it. -/
theorem formatOfValue_of_chooses (chooses : Chooses value format) (path : FilePath) :
    formatOfValue path value = .ok format := by
  cases chooses with
  | nothing => rfl
  | mapping opened only given fits =>
    next entries options =>
    have texts : (entries.all fun entry => entry.1.text?.isSome) = true := by
      rw [List.all_eq_true]
      intro entry inside
      rw [only entry inside]
      rfl
    rw [formatOfValue_of_opened opened, if_pos texts, readOptions_eq_ok.mpr ⟨only, given⟩]
    simp only [fits]

/-- A value that does not count as nothing gives only a format that it chooses. -/
theorem chooses_of_formatOfValue (something : isNothing value = false) {path : FilePath}
    (done : formatOfValue path value = .ok format) : Chooses value format := by
  cases opened : value.opened with
  | map entries =>
    rw [formatOfValue_of_opened opened] at done
    split at done
    · split at done
      · cases done
      · next options read =>
        obtain ⟨only, given⟩ := readOptions_eq_ok.mp read
        split at done
        · cases done
        · next chosen fits =>
          cases done
          exact .mapping opened only given fits
    · cases done
  | scalar _ | list _ | tuple _ | set _ | knot _ _ | endless =>
    simp only [formatOfValue, something, Bool.false_eq_true, if_false, opened] at done
    cases done

/-- Where entries fail, it is by an error in the options exactly when their keys are
texts. -/
theorem isConfig_iff (opened : value.opened = .map entries) {path : FilePath}
    {failure : ConfigFailure} (failed : formatOfValue path value = .error failure) :
    (∃ error, failure = .config error) ↔ ∀ entry ∈ entries, entry.1.text? ≠ none := by
  have texts : (entries.all fun entry => entry.1.text?.isSome) = true ↔
      ∀ entry ∈ entries, entry.1.text? ≠ none := by
    simp only [List.all_eq_true, Option.isSome_iff_ne_none]
  rw [formatOfValue_of_opened opened] at failed
  split at failed
  · next all =>
    refine iff_of_true ?_ (texts.mp all)
    split at failed
    · cases failed
      exact ⟨_, rfl⟩
    · split at failed
      · cases failed
        exact ⟨_, rfl⟩
      · cases failed
  · next notAll =>
    cases failed
    exact iff_of_false (by rintro ⟨error, ⟨⟩⟩) fun all => notAll (texts.mpr all)

/-- A value that chooses no format is refused with an error in the options, unless it goes
astray. -/
theorem formatOfValue_of_not_chooses (unchosen : ¬∃ format, Chooses value format) (path : FilePath) :
    (∃ error, formatOfValue path value = .error (.config error)) ↔ ¬StrayValue value := by
  cases counts : isNothing value with
  | true =>
    rw [formatOfValue_of_isNothing counts]
    refine iff_of_false (by rintro ⟨error, ⟨⟩⟩) fun kept => kept (.nothing counts ?_ ?_)
    · rintro rfl
      exact unchosen ⟨_, .nothing⟩
    · rintro entries rfl
      cases entries_of_isNothing counts (rfl : (Value.map entries).opened = .map entries)
      exact unchosen ⟨_, .mapping rfl (List.forall_mem_nil _) rfl rfl⟩
  | false =>
    have stray : StrayValue value ↔
        ∃ entries, value.opened = .map entries ∧ ∃ entry ∈ entries, entry.1.text? = none := by
      constructor
      · rintro (⟨other, _, _⟩ | ⟨opened, inside, noText⟩)
        · rw [counts] at other
          cases other
        · exact ⟨_, opened, _, inside, noText⟩
      · rintro ⟨entries, opened, entry, inside, noText⟩
        exact .key opened inside noText
    rw [stray]
    cases result : formatOfValue path value with
    | ok format => exact (unchosen ⟨format, chooses_of_formatOfValue counts result⟩).elim
    | error failure =>
      cases opened : value.opened with
      | map entries =>
        have config := isConfig_iff opened result
        simp only [Except.error.injEq, config, Value.map.injEq, exists_eq_left', not_exists,
          not_and, ne_eq]
      | scalar _ | list _ | tuple _ | set _ | knot _ _ | endless =>
        simp only [formatOfValue, counts, Bool.false_eq_true, if_false, opened,
          Except.error.injEq] at result
        exact iff_of_true ⟨_, congrArg Except.error result.symm⟩ (by rintro ⟨entries, ⟨⟩, -⟩)

end Choice

/-! ## The format of a file -/

/-- The loading of a format ends with the result of reading its file. -/
theorem result_loadFormat (files : Files) (work : Location) (path : FilePath) :
    (loadFormat files work path).perform.1 = readFormat files work path := by
  rw [loadFormat]
  cases readFormat files work path with
  | error failure => rfl
  | ok format => rfl

section Reading

variable {files : Files} {work : Location} {path : FilePath} {bytes : List UInt8} {text : String}

/-- There is something at a path that is read. -/
theorem exists_of_read (read : files.read work path = .ok bytes) :
    files.exists? work path = true := by
  obtain ⟨place, found, there⟩ := except_bind_ok read
  rw [Files.exists?, Files.at?, found]
  simp only
  cases entry : files.find? place with
  | none =>
    rw [entry] at there
    cases there
  | some entry => rfl

/-- The format of a file with a text is that of its text. -/
theorem readFormat_of_text (read : files.read work path = .ok bytes)
    (held : fileText bytes = .ok text) :
    readFormat files work path = formatOfText path text := by
  rw [fileText] at held
  cases decoded : Utf8.decodeStream bytes with
  | error problem =>
    rw [decoded] at held
    cases held
  | ok plain =>
    rw [decoded] at held
    cases held
    simp only [readFormat, exists_of_read read, read, decoded, Bool.not_true, Bool.false_eq_true,
      if_false]

variable {value : Value}

theorem formatOfText_of_loaded (loaded : Yaml.load text = .ok value) (path : FilePath) :
    formatOfText path text = formatOfValue path value := by
  rw [formatOfText, loaded]

theorem textChooses_iff (loaded : Yaml.load text = .ok value) (format : Format) :
    TextChooses text format ↔ Chooses value format := by
  refine ⟨?_, fun chooses => ⟨value, loaded, chooses⟩⟩
  rintro ⟨other, same, chooses⟩
  rw [loaded] at same
  cases same
  exact chooses

theorem stray_iff (loaded : Yaml.load text = .ok value) : Stray text ↔ StrayValue value := by
  refine ⟨?_, fun stray => .value loaded stray⟩
  rintro (⟨failed, _⟩ | ⟨same, stray⟩)
  · rw [loaded] at failed
    cases failed
  · rw [loaded] at same
    cases same
    exact stray

theorem stray_of_error {failure : Yaml.Failure} (failed : Yaml.load text = .error failure) :
    Stray text ↔ failure ≠ .malformed := by
  refine ⟨?_, fun formed => .absent failed formed⟩
  rintro (⟨same, formed⟩ | ⟨loaded, _⟩)
  · rw [failed] at same
    cases same
    exact formed
  · rw [failed] at loaded
    cases loaded

end Reading

/-- **A file whose value chooses a format gives this format, and every other file is refused
with an error in its options**, unless its text goes astray. -/
theorem loadFormat_settled {files : Files} {work : Location} {path : FilePath}
    {bytes : List UInt8} {text : String} (read : files.read work path = .ok bytes)
    (held : fileText bytes = .ok text) :
    (∀ format, TextChooses text format →
        (loadFormat files work path).perform.1 = .ok format) ∧
      ((¬∃ format, TextChooses text format) →
        ((∃ error, (loadFormat files work path).perform.1 = .error (.config error)) ↔
          ¬Stray text)) := by
  rw [result_loadFormat, readFormat_of_text read held]
  cases loaded : Yaml.load text with
  | ok value =>
    simp only [formatOfText_of_loaded loaded, textChooses_iff loaded, stray_iff loaded]
    exact ⟨fun format chooses => formatOfValue_of_chooses chooses path,
      fun unchosen => formatOfValue_of_not_chooses unchosen path⟩
  | error failure =>
    rw [stray_of_error loaded, formatOfText, loaded]
    constructor
    · rintro format ⟨value, same, _⟩
      rw [loaded] at same
      cases same
    · intro _
      cases failure with
      | malformed => exact iff_of_true ⟨_, rfl⟩ fun formed => formed rfl
      | _ => exact iff_of_false (by rintro ⟨error, ⟨⟩⟩) fun malformed => malformed (by rintro ⟨⟩)

/-- The path of a file with options in the directory where one works. -/
def lonePath : FilePath := { root := "", names := [fileName] }

/-- The bytes of a text of ASCII characters. -/
def asciiBytes (text : String) : List UInt8 :=
  text.toList.map fun character => character.toNat.toUInt8

/-- Files with a text of ASCII characters at this path, and nothing else. -/
def loneFile (text : String) : Files where
  entries := [(lonePath.names, .file (asciiBytes text))]

theorem read_loneFile (text : String) :
    (loneFile text).read [] lonePath = .ok (asciiBytes text) := by
  have accepted : lonePath.fault? = none := by decide +kernel
  rw [Files.read, Files.resolve_of_accepted accepted]
  rfl

/-- Whether a text has a value of some shape. -/
def hasShape (text : String) (shape : Value → Bool) : Bool :=
  match Yaml.load text with
  | .ok value => shape value
  | .error _ => false

theorem exists_of_hasShape {text : String} {shape : Value → Bool}
    (checked : hasShape text shape = true) :
    ∃ value, Yaml.load text = .ok value ∧ shape value = true := by
  rw [hasShape] at checked
  split at checked
  · next value loaded => exact ⟨value, loaded, checked⟩
  · cases checked

/-- Whether a value gives a format and does not count as nothing. -/
def givesFormat (format : Format) (value : Value) : Bool :=
  !isNothing value && (formatOfValue lonePath value).toOption == some format

theorem textChooses_of_givesFormat {text : String} {format : Format}
    (checked : hasShape text (givesFormat format) = true) : TextChooses text format := by
  obtain ⟨value, loaded, gives⟩ := exists_of_hasShape checked
  rw [givesFormat, Bool.and_eq_true, Bool.not_eq_true', beq_iff_eq] at gives
  exact ⟨value, loaded, chooses_of_formatOfValue gives.1 (eq_ok_of_toOption gives.2)⟩

/-- Whether a value is a sequence with items. -/
def isSequence : Value → Bool
  | .list items => !items.isEmpty
  | _ => false

theorem refused_of_isSequence {text : String} (checked : hasShape text isSequence = true) :
    (¬∃ format, TextChooses text format) ∧ ¬Stray text := by
  obtain ⟨value, loaded, items⟩ := exists_of_hasShape checked
  simp only [textChooses_iff loaded, stray_iff loaded]
  cases value with
  | list own =>
    refine ⟨?_, ?_⟩
    · rintro ⟨format, chooses⟩
      cases chooses with
      | mapping opened _ _ _ => cases opened
    · rintro (⟨counts, _, _⟩ | ⟨opened, _, _⟩)
      · cases own with
        | nil => cases items
        | cons first rest => cases counts
      · cases opened
  | scalar _ | tuple _ | set _ | map _ | knot _ _ | endless => cases items

set_option maxRecDepth 100000 in
/-- A file that chooses two spaces, and one with a sequence. -/
theorem loadFormat_settled_lone :
    let chosen : Format := { unit := .spaces 2 (by decide), trailingNewline := false }
    let text := "format:\n  indent: 2\n"
    let sequence := "- indent\n"
    ((loneFile text).read [] lonePath = .ok (asciiBytes text) ∧
        fileText (asciiBytes text) = .ok text ∧ TextChooses text chosen ∧
        (loadFormat (loneFile text) [] lonePath).perform.1 = .ok chosen) ∧
      (loneFile sequence).read [] lonePath = .ok (asciiBytes sequence) ∧
        fileText (asciiBytes sequence) = .ok sequence ∧
        (¬∃ format, TextChooses sequence format) ∧ ¬Stray sequence ∧
        ∃ error, (loadFormat (loneFile sequence) [] lonePath).perform.1 = .error (.config error) := by
  intro chosen text sequence
  have held : fileText (asciiBytes text) = .ok text := eq_ok_of_toOption (by decide +kernel)
  have sequenceHeld : fileText (asciiBytes sequence) = .ok sequence :=
    eq_ok_of_toOption (by decide +kernel)
  have chooses : TextChooses text chosen := textChooses_of_givesFormat (by decide +kernel)
  obtain ⟨noFormat, kept⟩ : (¬∃ format, TextChooses sequence format) ∧ ¬Stray sequence :=
    refused_of_isSequence (by decide +kernel)
  obtain ⟨gives, -⟩ := loadFormat_settled (read_loneFile text) held
  obtain ⟨-, refuses⟩ := loadFormat_settled (read_loneFile sequence) sequenceHeld
  exact ⟨⟨read_loneFile text, held, chooses, gives chosen chooses⟩,
    read_loneFile sequence, sequenceHeld, noFormat, kept, (refuses noFormat).mpr kept⟩

/-- Whether a value is false. -/
def isFalse : Value → Bool
  | .bool truth => !truth
  | _ => false

/-- Whether a value is a mapping whose first key is a truth value. -/
def hasTruthKey : Value → Bool
  | .map ((.bool _, _) :: _) => true
  | _ => false

theorem not_textChooses_of_isFalse {text : String} (checked : hasShape text isFalse = true) :
    ¬∃ format, TextChooses text format := by
  obtain ⟨value, loaded, shape⟩ := exists_of_hasShape checked
  rintro ⟨format, chooses⟩
  cases (textChooses_iff loaded format).mp chooses with
  | nothing => cases shape
  | mapping opened _ _ _ =>
    cases value with
    | map entries => cases shape
    | knot label inner => cases shape
    | scalar _ | list _ | tuple _ | set _ | endless => cases opened

theorem not_textChooses_of_hasTruthKey {text : String}
    (checked : hasShape text hasTruthKey = true) : ¬∃ format, TextChooses text format := by
  obtain ⟨value, loaded, shape⟩ := exists_of_hasShape checked
  rintro ⟨format, chooses⟩
  rw [hasTruthKey.eq_def] at shape
  split at shape
  · cases (textChooses_iff loaded format).mp chooses with
    | mapping opened only _ _ =>
      cases opened
      cases only _ (List.mem_cons_self ..)
  · cases shape

/-- Whether the loading of a text from a file fails otherwise than by an error in the
options. -/
def failsElsewhere (text : String) : Bool :=
  match (loadFormat (loneFile text) [] lonePath).perform.1 with
  | .error (.config _) => false
  | .error _ => true
  | .ok _ => false

set_option maxRecDepth 100000 in
/-- Two files that choose no format and are not refused with an error in their options: false
is taken for no options, and a key that is no text ends the loading in another way. -/
theorem unsettled_files :
    ((¬∃ format, TextChooses "false\n" format) ∧
        (loadFormat (loneFile "false\n") [] lonePath).perform.1 = .ok Format.standard) ∧
      (¬∃ format, TextChooses "true: 2\n" format) ∧ failsElsewhere "true: 2\n" = true :=
  ⟨⟨not_textChooses_of_isFalse (by decide +kernel), eq_ok_of_toOption (by decide +kernel)⟩,
    not_textChooses_of_hasTruthKey (by decide +kernel), by decide +kernel⟩

end Project

end CodeLayout
