import CodeLayout.Proofs.CheckedDocument
import CodeLayout.Proofs.OptionsFile

/-!
# Options in a file and in a document

Options can be written in the file of a project or in a document. The file chooses a format
by itself, and a document is a layer on top of the standard format. Both take the same
options and read them alike, with one difference: null is no value for the options of a file,
and it is no value at all in a layer.

So options that are all given a value mean the same in both places. If one of them is null,
the file is refused, and in the document only the other options count.

Main statement: `Project.resolveFormat_either_place`.
-/

set_option autoImplicit false

namespace CodeLayout

/-! ## Options with a value -/

namespace Options

/-- The options that are given a value. -/
def valued (options : Options) : Options :=
  options.filter fun option => !option.2.isNull

theorem mem_of_lookup {name : String} {value : Value} : ∀ {options : Options},
    options.lookup name = some value → (name, value) ∈ options
  | [], found => by cases found
  | (key, first) :: rest, found => by
    rw [lookup_cons] at found
    split at found
    · next same =>
      rw [← Option.some.inj found, ← same]
      exact List.mem_cons_self ..
    · exact List.mem_cons_of_mem _ (mem_of_lookup found)

theorem lookup_of_mem {name : String} {value : Value} : ∀ {options : Options},
    options.names.Nodup → (name, value) ∈ options → options.lookup name = some value
  | (key, first) :: rest, once, inside => by
    obtain ⟨absent, others⟩ := List.nodup_cons.mp once
    rw [lookup_cons]
    obtain same | later := List.mem_cons.mp inside
    · rw [Prod.mk.injEq] at same
      rw [if_pos same.1.symm, same.2]
    · have apart : key ≠ name := by
        rintro rfl
        exact absent (List.mem_map.mpr ⟨_, later, rfl⟩)
      rw [if_neg apart, lookup_of_mem others later]

/-- Options that all have a value give it. -/
theorem given?_of_valued {options : Options}
    (all : ∀ option ∈ options, option.2.isNull = false) :
    options.given? = fun name => options.lookup name := by
  funext name
  rw [given?]
  cases found : options.lookup name with
  | none => rfl
  | some value => rw [Option.filter_some, all _ (mem_of_lookup found), Bool.not_false, if_pos rfl]

/-- A new option comes last. -/
theorem put_of_notMem {key : String} (value : Value) : ∀ {options : Options},
    key ∉ options.names → options.put key value = options ++ [(key, value)]
  | [], _ => rfl
  | (name, old) :: rest, absent => by
    have apart : name ≠ key := fun same => absent (same ▸ List.mem_cons_self ..)
    have later : key ∉ names rest := fun inside => absent (List.mem_cons_of_mem _ inside)
    rw [put, if_neg apart, put_of_notMem value later, List.cons_append]

/-- Options that are not there yet are put after those that are. -/
theorem foldl_put : ∀ {rest before : Options}, (before ++ rest).names.Nodup →
    rest.foldl (fun read option => put option.1 option.2 read) before = before ++ rest
  | [], before, _ => (List.append_nil before).symm
  | (key, value) :: rest, before, once => by
    have split : (before ++ (key, value) :: rest : Options) = before ++ [(key, value)] ++ rest := by
      rw [List.append_assoc, List.singleton_append]
    have absent : key ∉ before.names := by
      intro inside
      rw [names, List.map_append, List.nodup_append] at once
      exact once.2.2 key inside key (List.mem_cons_self ..) rfl
    rw [List.foldl_cons, put_of_notMem value absent, split]
    rw [split] at once
    exact foldl_put once

/-- Options are read from their own entries. -/
theorem ofEntries_toEntries (place : List String) {options : Options}
    (once : options.names.Nodup) : ofEntries place options.toEntries = (options, []) := by
  have read : ∀ (options before : Options),
      options.foldl (fun (read : Options × List Problem) option =>
        (put option.1 option.2 read.1, read.2)) (before, []) =
      (options.foldl (fun read option => put option.1 option.2 read) before, []) := by
    intro options
    induction options with
    | nil => exact fun before => rfl
    | cons option rest ih => exact fun before => ih _
  have entries : ofEntries place options.toEntries =
      options.foldl (fun read option => (put option.1 option.2 read.1, read.2)) ([], []) := by
    rw [ofEntries, toEntries, List.foldl_map]
    rfl
  have start : ([] ++ options : Options).names.Nodup := once
  rw [entries, read, foldl_put start, List.nil_append]

end Options

namespace Format

/-- What a format takes from options that all have a value is what they choose. -/
theorem ofOptions_of_valued {options : Options} {format : Format}
    (all : ∀ option ∈ options, option.2.isNull = false) :
    ofOptions options = .ok format ↔ standard.Takes options.given? format := by
  rw [ofOptions_eq_ok, Options.given?_of_valued all]

/-- Options with null choose no format. -/
theorem ofOptions_of_null {options : Options} (once : options.names.Nodup)
    {option : String × Value} (inside : option ∈ options) (null : option.2.isNull = true)
    (format : Format) : ofOptions options ≠ .ok format := by
  intro chosen
  have takes := ofOptions_eq_ok.mp chosen
  obtain ⟨name, value⟩ := option
  have isNull : value = .null := Value.eq_null_of_isNull null
  have found : options.lookup name = some .null := isNull ▸ Options.lookup_of_mem once inside
  -- The name is one of the two options, and neither is read from null.
  obtain rfl | later := List.mem_cons.mp (takes.known name _ found)
  · have unit := takes.unit
    rw [found] at unit
    cases unit
  · rw [List.mem_singleton.mp later] at found
    have newline := takes.newline
    rw [found] at newline
    cases newline

end Format

namespace Project

/-! ## The chosen file -/

section Choice

variable {files : Files} {work : Location} {named file : Option FilePath}

/-- There is only one chosen file. -/
theorem ChosenFile.unique {other : Option FilePath} (first : ChosenFile files work named file)
    (second : ChosenFile files work named other) : file = other := by
  cases first with
  | named _ =>
    cases second with
    | named _ => rfl
  | @nearest directory above here nearest =>
    cases second with
    | @nearest same aboveSame hereSame nearestSame =>
      have length := Nat.le_antisymm (nearestSame _ above here) (nearest _ aboveSame hereSame)
      have directories : directory = same := by
        rw [List.prefix_iff_eq_take.mp above, List.prefix_iff_eq_take.mp aboveSame, length]
      rw [directories]
    | none nowhere =>
      rw [nowhere _ above] at here
      cases here
  | none nowhere =>
    cases second with
    | nearest above here _ =>
      rw [nowhere _ above] at here
      cases here
    | none _ => rfl

theorem result_chooseFile (chosen : ChosenFile files work named file) :
    (chooseFile files work named).perform.1 = .ok file := by
  cases named with
  | some path =>
    cases chosen with
    | named there => rw [chooseFile, if_pos there]; rfl
  | none =>
    have found := (chosenFile_findFile? files work).unique chosen
    rw [chooseFile, found]
    cases file <;> rfl

/-- A layer without options leaves a format as it is. -/
theorem mergeFormat_nil (base : Format) : mergeFormat base [] = .ok base := by
  have once : (Options.names []).Nodup := List.nodup_nil
  exact (mergeFormat_eq_ok once).mpr (.nothing base)

/-- Where the layers above a file are empty, the format is the one of the file. -/
theorem result_resolveFormat_file {path : FilePath}
    (chosen : ChosenFile files work named (some path)) :
    (resolveFormat files work named [] []).perform.1 = readFormat files work path := by
  have first := result_chooseFile chosen
  rw [Logging.perform_eq_after] at first
  rw [Logging.perform_eq_after, resolveFormat, Logging.after_bind]
  rcases ends : Logging.after [] (chooseFile files work named) with ⟨result, later⟩
  have found : result = .ok (some path) := by rw [ends] at first; exact first
  simp only [found, mergeFormat_nil, loadFormat]
  cases readFormat files work path with
  | error failure => rfl
  | ok format => rfl

end Choice

/-! ## Options in either place -/

/-- The file at a path holds the entry for options, with these options, and nothing else. -/
inductive HoldsOptions (files : Files) (work : Location) (path : FilePath) (options : Options) :
    Prop
  | intro {bytes : List UInt8} {text : String} {value inner : Value}
    (read : files.read work path = .ok bytes) (held : fileText bytes = .ok text)
    (loaded : Yaml.load text = .ok value)
    (entry : value.opened = .map [(.text formatEntry, inner)])
    (mapping : inner.opened = .map options.toEntries) : HoldsOptions files work path options

section Places

variable {files : Files} {work : Location} {path : FilePath} {options : Options}

/-- A value with the entry for options chooses what they choose. -/
theorem chooses_iff {value inner : Value} {format : Format} (once : options.names.Nodup)
    (entry : value.opened = .map [(.text formatEntry, inner)])
    (mapping : inner.opened = .map options.toEntries) :
    Chooses value format ↔ Format.ofOptions options = .ok format := by
  have given : Options.ofEntries [formatEntry] options.toEntries = (options, []) :=
    Options.ofEntries_toEntries [formatEntry] once
  constructor
  · intro chooses
    cases chooses with
    | nothing => cases entry
    | mapping opened _ gives fits =>
      rw [entry] at opened
      cases opened
      obtain ⟨entries, innerOpened, read⟩ := gives
      rw [mapping] at innerOpened
      cases innerOpened
      rw [given] at read
      cases read
      exact fits
  · intro chosen
    refine .mapping entry (fun entry inside => ?_) ⟨_, mapping, given⟩ chosen
    rw [List.mem_singleton.mp inside]

theorem not_strayValue {value inner : Value}
    (entry : value.opened = .map [(.text formatEntry, inner)]) : ¬StrayValue value := by
  rintro (⟨counts, _, _⟩ | ⟨opened, inside, noText⟩)
  · cases entries_of_isNothing counts entry
  · rw [entry] at opened
    cases opened
    rw [List.mem_singleton.mp inside] at noText
    cases noText

/-- A file that holds options gives the format that they choose, and it is refused with an
error in its options when they choose none. -/
theorem readFormat_of_holds (once : options.names.Nodup)
    (holds : HoldsOptions files work path options) :
    (∀ format, Format.ofOptions options = .ok format → readFormat files work path = .ok format) ∧
      ((∀ format, Format.ofOptions options ≠ .ok format) →
        ∃ error, readFormat files work path = .error (.config error)) := by
  obtain ⟨read, held, loaded, entry, mapping⟩ := holds
  rw [readFormat_of_text read held, formatOfText_of_loaded loaded]
  constructor
  · intro format chosen
    exact formatOfValue_of_chooses ((chooses_iff once entry mapping).mpr chosen) path
  · intro refused
    refine (formatOfValue_of_not_chooses ?_ path).mpr (not_strayValue entry)
    rintro ⟨format, chooses⟩
    exact refused format ((chooses_iff once entry mapping).mp chooses)

/-- A document without a file merges its options into the standard format. -/
theorem Nowhere.result_document {other : Files} {place : Location}
    (nowhere : Nowhere other place) (entries : List (Value × Value)) :
    (Project.resolveFormat other place none entries []).perform.1 =
      mergeFormat Format.standard entries := by
  rw [nowhere.result_resolveFormat]
  cases mergeFormat Format.standard entries with
  | error failure => rfl
  | ok format => exact mergeFormat_nil format

/-- Options without a value do not count in a merge. -/
theorem mergeFormat_valued (base : Format) (options : Options) :
    mergeFormat base options.toEntries = mergeFormat base options.valued.toEntries := by
  rw [mergeFormat_toEntries, mergeFormat_toEntries, Format.merge, Format.merge, Options.valued,
    Format.layer_filter]

end Places

/-- **Options that all have a value mean the same in a file and in a document**: both give
equal formats, or both are refused with an error in the options. If an option is null, the
file is refused, and the document gives what it gives without the options that are null. -/
theorem resolveFormat_either_place {files other : Files} {work place : Location}
    {named : Option FilePath} {path : FilePath} {options : Options}
    (once : options.names.Nodup) (chosen : ChosenFile files work named (some path))
    (holds : HoldsOptions files work path options) (nowhere : Nowhere other place) :
    ((∀ option ∈ options, option.2.isNull = false) →
        (∃ format, (resolveFormat files work named [] []).perform.1 = .ok format ∧
          (resolveFormat other place none options.toEntries []).perform.1 = .ok format) ∨
        ((∃ error, (resolveFormat files work named [] []).perform.1 = .error (.config error)) ∧
          ∃ error, (resolveFormat other place none options.toEntries []).perform.1 =
            .error (.config error))) ∧
      ((∃ option ∈ options, option.2.isNull = true) →
        (∃ error, (resolveFormat files work named [] []).perform.1 = .error (.config error)) ∧
          (resolveFormat other place none options.toEntries []).perform.1 =
            (resolveFormat other place none options.valued.toEntries []).perform.1) := by
  obtain ⟨gives, refuses⟩ := readFormat_of_holds once holds
  rw [result_resolveFormat_file chosen, nowhere.result_document, nowhere.result_document]
  constructor
  · intro all
    cases merged : mergeFormat Format.standard options.toEntries with
    | ok format =>
      have takes := (mergeFormat_eq_ok once).mp merged
      exact .inl ⟨format, gives format ((Format.ofOptions_of_valued all).mpr takes), rfl⟩
    | error failure =>
      obtain ⟨report, told⟩ := exists_of_mergeFormat_error merged
      refine .inr ⟨refuses fun format chooses => ?_, .options report, congrArg _ told⟩
      rw [(mergeFormat_eq_ok once).mpr ((Format.ofOptions_of_valued all).mp chooses)] at merged
      cases merged
  · rintro ⟨option, inside, null⟩
    exact ⟨refuses (Format.ofOptions_of_null once inside null), mergeFormat_valued _ _⟩

/-- Whether a value has the entry for options with one option, the indentation, and a check
of its value succeeds. -/
def holdsIndent (check : Value → Bool) : Value → Bool
  | .map [(.text entry, .map [(.text name, value)])] =>
    entry == formatEntry && name == Format.indentOption && check value
  | _ => false

theorem holdsOptions_of_holdsIndent {text : String} {check : Value → Bool}
    (held : fileText (asciiBytes text) = .ok text) (checked : hasShape text (holdsIndent check) = true) :
    ∃ value, check value = true ∧
      HoldsOptions (loneFile text) [] lonePath [(Format.indentOption, value)] := by
  obtain ⟨value, loaded, shape⟩ := exists_of_hasShape checked
  rw [holdsIndent.eq_def] at shape
  split at shape
  · next entry name value =>
    simp only [Bool.and_eq_true, beq_iff_eq] at shape
    obtain ⟨⟨rfl, rfl⟩, succeeds⟩ := shape
    exact ⟨value, succeeds, read_loneFile text, held, loaded, rfl, rfl⟩
  · cases shape

theorem nowhere_empty : Nowhere Files.empty [] := nowhere_root rfl

/-- A file with an indentation that is null. -/
def nullIndent : String := "format:\n  indent: null\n"

set_option maxRecDepth 100000 in
theorem holdsOptions_nullIndent :
    HoldsOptions (loneFile nullIndent) [] lonePath [(Format.indentOption, .null)] := by
  have held : fileText (asciiBytes nullIndent) = .ok nullIndent :=
    eq_ok_of_toOption (by decide +kernel)
  have shape : hasShape nullIndent (holdsIndent Value.isNull) = true := by decide +kernel
  obtain ⟨value, null, holds⟩ := holdsOptions_of_holdsIndent held shape
  exact Value.eq_null_of_isNull null ▸ holds

/-- Null for the indentation is refused in a file, and in a document it leaves the standard
format. -/
theorem null_in_either_place :
    HoldsOptions (loneFile nullIndent) [] lonePath [(Format.indentOption, .null)] ∧
      (∃ error, (resolveFormat (loneFile nullIndent) [] (some lonePath) [] []).perform.1 =
        .error (.config error)) ∧
      (resolveFormat Files.empty [] none (Options.toEntries [(Format.indentOption, .null)])
        []).perform.1 = .ok Format.standard := by
  refine ⟨holdsOptions_nullIndent, ?_, ?_⟩
  · have named := exists_of_read (read_loneFile nullIndent)
    rw [result_resolveFormat_file (.named named)]
    refine (readFormat_of_holds (by decide) holdsOptions_nullIndent).2 ?_
    exact Format.ofOptions_of_null (by decide) (List.mem_singleton_self _) rfl
  · rw [nowhere_empty.result_document]
    rfl

set_option maxRecDepth 100000 in
/-- An indentation of two spaces in a file and in a document, and one that is null. -/
theorem resolveFormat_either_place_indent :
    let text := "format:\n  indent: '2'\n"
    let options : Options := [(Format.indentOption, .text "2")]
    let null : Options := [(Format.indentOption, .null)]
    let chosen : Format := { unit := .spaces 2 (by decide), trailingNewline := false }
    (options.names.Nodup ∧ ChosenFile (loneFile text) [] (some lonePath) (some lonePath) ∧
      HoldsOptions (loneFile text) [] lonePath options ∧ Nowhere Files.empty [] ∧
      (∀ option ∈ options, option.2.isNull = false) ∧
      (resolveFormat (loneFile text) [] (some lonePath) [] []).perform.1 = .ok chosen ∧
      (resolveFormat Files.empty [] none options.toEntries []).perform.1 = .ok chosen) ∧
    null.names.Nodup ∧ ChosenFile (loneFile nullIndent) [] (some lonePath) (some lonePath) ∧
      HoldsOptions (loneFile nullIndent) [] lonePath null ∧
      (∃ option ∈ null, option.2.isNull = true) ∧
      (∃ error, (resolveFormat (loneFile nullIndent) [] (some lonePath) [] []).perform.1 =
        .error (.config error)) ∧
      (resolveFormat Files.empty [] none null.toEntries []).perform.1 =
        (resolveFormat Files.empty [] none null.valued.toEntries []).perform.1 := by
  intro text options null chosen
  have once : options.names.Nodup := by decide
  have onceNull : null.names.Nodup := by decide
  have file : ChosenFile (loneFile text) [] (some lonePath) (some lonePath) :=
    .named (exists_of_read (read_loneFile text))
  have fileNull : ChosenFile (loneFile nullIndent) [] (some lonePath) (some lonePath) :=
    .named (exists_of_read (read_loneFile nullIndent))
  have holds : HoldsOptions (loneFile text) [] lonePath options := by
    have held : fileText (asciiBytes text) = .ok text := eq_ok_of_toOption (by decide +kernel)
    have shape : hasShape text (holdsIndent fun value => value.text? == some "2") = true := by
      decide +kernel
    obtain ⟨value, written, holds⟩ := holdsOptions_of_holdsIndent held shape
    have same : value = .text "2" := Value.eq_text_of_text? (eq_of_beq written)
    rw [same] at holds
    exact holds
  have valued : ∀ option ∈ options, option.2.isNull = false := by
    intro option inside
    rw [List.mem_singleton.mp inside]
    rfl
  have some : ∃ option ∈ null, option.2.isNull = true := ⟨_, List.mem_singleton_self _, rfl⟩
  have document : (resolveFormat Files.empty [] none options.toEntries []).perform.1 =
      .ok chosen := eq_ok_of_toOption (by decide +kernel)
  have alike := (resolveFormat_either_place once file holds nowhere_empty).1 valued
  obtain ⟨refused, rest⟩ :=
    (resolveFormat_either_place onceNull fileNull holdsOptions_nullIndent nowhere_empty).2 some
  rw [document] at alike
  obtain ⟨format, fromFile, same⟩ | ⟨-, error, failed⟩ := alike
  · cases same
    exact ⟨⟨once, file, holds, nowhere_empty, valued, fromFile, document⟩, onceNull, fileNull,
      holdsOptions_nullIndent, some, refused, rest⟩
  · cases failed

end Project

end CodeLayout
