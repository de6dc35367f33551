import CodeLayout.Project
import CodeLayout.Proofs.ChildEntry

/-!
# Layers of format options

In a layer of options null stands for nothing. All that counts of a layer is the value
that it gives to a name, if it gives one (`Options.given?`). A layer on top of another
gives what the upper one gives, and where that is nothing, what the lower one gives
(`Format.given?_layer`).

A format takes its options from the values found for names when all the names are those
of options, all the values can be read, and an option for which nothing is found is the
one of the format below (`Format.Takes`). The options of a format choose the same format
again, so a merge with a layer takes the values that the layer gives and keeps the rest
(`Format.merge_eq_ok`). Whether there is such a format does not depend on the one below
(`Format.Takes.exists_over`), and what takes from two layers one after the other takes
from both at once, the upper one first (`Format.Takes.trans`).
-/

set_option autoImplicit false

namespace CodeLayout

theorem Value.eq_null_of_isNull {value : Value} (null : value.isNull = true) : value = .null := by
  rw [isNull.eq_def] at null
  split at null
  · rfl
  · cases null

/-! ## What options give -/

namespace Options

/-- The value that options give to a name. Null is none. -/
def given? (options : Options) (name : String) : Option Value :=
  (options.lookup name).filter fun value => !value.isNull

theorem lookup_cons {α : Type} (key name : String) (value : α) (rest : List (String × α)) :
    ((key, value) :: rest).lookup name =
      if key = name then some value else rest.lookup name := by
  rw [List.lookup_cons]
  by_cases same : key = name
  · rw [if_pos same, same, beq_self_eq_true]
  · rw [if_neg same, beq_false_of_ne fun equal => same equal.symm]

theorem given?_cons (key name : String) (value : Value) (rest : Options) :
    given? ((key, value) :: rest) name =
      if key = name then (if value.isNull then none else some value) else rest.given? name := by
  rw [given?, lookup_cons]
  by_cases same : key = name
  · rw [if_pos same, if_pos same, Option.filter_some]
    cases value.isNull <;> rfl
  · rw [if_neg same, if_neg same, given?]

theorem lookup_put (key name : String) (value : Value) : ∀ options : Options,
    (options.put key value).lookup name =
      if key = name then some value else options.lookup name
  | [] => by rw [put, lookup_cons]
  | (first, old) :: rest => by
    rw [put]
    by_cases here : first = key
    · rw [if_pos here, lookup_cons, lookup_cons, here]
      split <;> rfl
    · rw [if_neg here, lookup_cons, lookup_cons, lookup_put key name value rest]
      by_cases found : first = name
      · rw [if_pos found, if_neg fun same => here (found.trans same.symm), if_pos found]
      · rw [if_neg found, if_neg found]

theorem lookup?_toEntries (name : String) : ∀ options : Options,
    Value.lookup? name options.toEntries = options.lookup name
  | [] => rfl
  | (key, value) :: rest => by
    have entries : toEntries ((key, value) :: rest) = (.text key, value) :: toEntries rest := rfl
    have text : (Value.text key).text? = some key := rfl
    rw [entries, Value.lookup?_cons, lookup_cons, text, lookup?_toEntries name rest]
    simp only [Option.some.injEq]

/-- A name that has a value is there. -/
theorem mem_names_iff (name : String) : ∀ options : Options,
    name ∈ options.names ↔ ∃ value, options.lookup name = some value
  | [] => by simp [names]
  | (key, value) :: rest => by
    have here : name ∈ names ((key, value) :: rest) ↔ name = key ∨ name ∈ names rest :=
      List.mem_cons
    rw [here, mem_names_iff name rest, lookup_cons]
    by_cases same : key = name
    · rw [if_pos same]
      exact ⟨fun _ => ⟨value, rfl⟩, fun _ => .inl same.symm⟩
    · rw [if_neg same]
      exact ⟨fun either => either.resolve_left fun equal => same equal.symm, .inr⟩

theorem mem_names_put {key name : String} {value : Value} {options : Options} :
    name ∈ (options.put key value).names ↔ name = key ∨ name ∈ options.names := by
  rw [mem_names_iff, mem_names_iff, lookup_put]
  by_cases same : key = name
  · rw [if_pos same]
    exact ⟨fun _ => .inl same.symm, fun _ => ⟨value, rfl⟩⟩
  · rw [if_neg same]
    exact ⟨.inr, fun either => either.resolve_left fun equal => same equal.symm⟩

theorem nodup_names_put (key : String) (value : Value) : ∀ {options : Options},
    options.names.Nodup → (options.put key value).names.Nodup
  | [], _ => List.nodup_cons.mpr ⟨List.not_mem_nil, List.nodup_nil⟩
  | (first, old) :: rest, once => by
    obtain ⟨absent, others⟩ := List.nodup_cons.mp once
    rw [put]
    by_cases here : first = key
    · rw [if_pos here]
      exact once
    · rw [if_neg here]
      refine List.nodup_cons.mpr ⟨?_, nodup_names_put key value others⟩
      intro inside
      exact (mem_names_put.mp inside).elim here absent

theorem given?_of_notMem {options : Options} {name : String} (absent : name ∉ options.names) :
    options.given? name = none := by
  cases found : options.lookup name with
  | none => rw [given?, found, Option.filter_none]
  | some value => exact absurd ((mem_names_iff name options).mpr ⟨value, found⟩) absent

end Options

namespace Format

open Options

/-! ## A layer on top of another -/

section Layers

variable {above : Options}

/-- A layer on top of options: what it gives, and else what is there. -/
theorem lookup_layer (once : above.names.Nodup) (name : String) : ∀ below : Options,
    (layer below above).lookup name = (above.given? name).or (below.lookup name) := by
  -- The layer is put down option by option, so what is below changes on the way.
  induction above with
  | nil => exact fun below => rfl
  | cons option rest ih =>
    intro below
    obtain ⟨key, value⟩ := option
    obtain ⟨absent, others⟩ := List.nodup_cons.mp once
    have step : layer below ((key, value) :: rest) =
        layer (if value.isNull then below else below.put key value) rest := rfl
    rw [step, ih others, given?_cons]
    by_cases here : key = name
    · -- No later option of the layer has the same name and covers this one.
      have uncovered : given? rest name = none := given?_of_notMem (here ▸ absent)
      rw [uncovered, if_pos here, Option.none_or]
      cases value.isNull with
      | true => rfl
      | false => exact (lookup_put key name value below).trans (if_pos here)
    · have kept : (if value.isNull then below else below.put key value).lookup name =
          below.lookup name := by
        cases value.isNull with
        | true => rfl
        | false => exact (lookup_put key name value below).trans (if_neg here)
      rw [kept, if_neg here]

/-- A layer on top of another gives what the upper one gives, and else what the lower one
gives. -/
theorem given?_layer (once : above.names.Nodup) (below : Options) (name : String) :
    (layer below above).given? name = (above.given? name).or (below.given? name) := by
  rw [given?, lookup_layer once]
  cases given : above.given? name with
  | none => rfl
  | some value =>
    obtain ⟨-, present⟩ := Option.filter_eq_some_iff.mp given
    rw [Option.some_or, Option.some_or, Option.filter_some, if_pos present]

theorem nodup_names_layer (above : Options) : ∀ {below : Options}, below.names.Nodup →
    (layer below above).names.Nodup := by
  induction above with
  | nil => exact id
  | cons option rest ih =>
    intro below once
    have step : layer below (option :: rest) =
        layer (if option.2.isNull then below else below.put option.1 option.2) rest := rfl
    rw [step]
    split
    · exact ih once
    · exact ih (nodup_names_put _ _ once)

end Layers

/-! ## Formats that take options -/

section Taken

variable {α : Type} {read : Value → Except Cause α}

/-- What an option becomes by a value, if there is one. -/
def taken (below : α) (read : Value → Except Cause α) : Option Value → Except Cause α
  | none => .ok below
  | some value => read value

/-- Whether a value can be taken does not depend on what is below. -/
theorem taken_over {below result : α} {value : Option Value}
    (done : taken below read value = .ok result) (other : α) :
    ∃ result, taken other read value = .ok result := by
  cases value with
  | none => exact ⟨other, rfl⟩
  | some value => exact ⟨result, done⟩

/-- Of two values that are taken one after the other the later one counts. -/
theorem taken_or {below middle result : α} {lower upper : Option Value}
    (first : taken below read lower = .ok middle) (second : taken middle read upper = .ok result) :
    taken below read (upper.or lower) = .ok result := by
  cases upper with
  | none =>
    rw [Option.none_or, first]
    exact second
  | some value => exact second

/-- A default that is itself read from a value. -/
theorem taken_or_some {below : α} {written : Value} (reads : read written = .ok below)
    (default : α) (value : Option Value) :
    taken default read (value.or (some written)) = taken below read value := by
  cases value with
  | none => exact reads
  | some value => rfl

/-- Where null cannot be read, a value that is taken is not null. -/
theorem taken_filter {below result : α} {value : Option Value} {cause : Cause}
    (refused : read .null = .error cause) (done : taken below read value = .ok result) :
    taken below read (value.filter fun value => !value.isNull) = .ok result := by
  cases value with
  | none => exact done
  | some value =>
    cases null : value.isNull with
    | false => rw [Option.filter_some, null]; exact done
    | true =>
      rw [Value.eq_null_of_isNull null, taken, refused] at done
      cases done

/-- An optional field takes its value from the entry with its name. -/
theorem optional_eq_ok {entries : List (Value × Value)} {name : String} {default result : α} :
    Field.optional entries name default read = .ok result ↔
      taken default read (Value.lookup? name entries) = .ok result := by
  rw [Field.optional]
  cases Value.lookup? name entries with
  | none => simp only [taken, Except.ok.injEq]
  | some input =>
    simp only [taken]
    cases read input with
    | error cause => simp only [reduceCtorEq]
    | ok value => simp only [Except.ok.injEq]

end Taken

/-- A format takes its options from the values found for names. An option for which
nothing is found is that of the format below. -/
structure Takes (below : Format) (found : String → Option Value) (format : Format) : Prop where
  /-- There are no other names. -/
  known : ∀ name value, found name = some value → name ∈ optionNames
  /-- The indentation. -/
  unit : taken below.unit readUnit (found indentOption) = .ok format.unit
  /-- The newline at the end. -/
  newline : taken below.trailingNewline Field.boolean (found trailingNewlineOption) =
    .ok format.trailingNewline

namespace Takes

variable {below middle format : Format} {lower upper : String → Option Value}

/-- A format that takes nothing stays as it is. -/
theorem nothing (format : Format) : format.Takes (fun _ => none) format where
  known := nofun
  unit := rfl
  newline := rfl

/-- What can be taken over one format can be taken over every format. -/
theorem exists_over (takes : below.Takes upper format) (other : Format) :
    ∃ result, other.Takes upper result := by
  obtain ⟨unit, unitTaken⟩ := taken_over takes.unit other.unit
  obtain ⟨newline, newlineTaken⟩ := taken_over takes.newline other.trailingNewline
  exact ⟨{ unit, trailingNewline := newline }, takes.known, unitTaken, newlineTaken⟩

/-- What is taken from one place and then from another is taken from both, and the later
one comes first. -/
theorem trans (first : below.Takes lower middle) (second : middle.Takes upper format) :
    below.Takes (fun name => (upper name).or (lower name)) format where
  known name value found :=
    (Option.or_eq_some_iff.mp found).elim (second.known name value) fun other =>
      first.known name value other.2
  unit := taken_or first.unit second.unit
  newline := taken_or first.newline second.newline

end Takes

/-! ## The format that options choose -/

/-- Nothing is unexpected exactly when all names are known. -/
theorem unexpected_eq_nil {known : List String} {options : Options} :
    unexpected known options.toEntries = [] ↔ ∀ name ∈ options.names, name ∈ known := by
  induction options with
  | nil => exact ⟨nofun, fun _ => rfl⟩
  | cons option rest ih =>
    have entries : toEntries (option :: rest) = (.text option.1, option.2) :: toEntries rest := rfl
    have there : names (option :: rest) = option.1 :: names rest := rfl
    rw [there, List.forall_mem_cons, ← ih, entries, unexpected, List.filterMap_cons]
    by_cases inside : option.1 ∈ known
    · simp [inside, unexpected]
    · simp [inside]

/-- No key is unreadable where all names are known. -/
theorem unreadableKey?_eq_none {known : List String} {options : Options}
    (all : ∀ name ∈ options.names, name ∈ known) :
    unreadableKey? known options.toEntries = none := by
  rw [unreadableKey?, List.findSome?_eq_none_iff]
  intro entry inside
  obtain ⟨option, there, rfl⟩ := List.mem_map.mp inside
  have named : option.1 ∈ known := all _ (List.mem_map.mpr ⟨option, there, rfl⟩)
  simp [named]

/-- Options choose the format that takes them, null included, over the standard one. -/
theorem ofOptions_eq_ok {options : Options} {format : Format} :
    ofOptions options = .ok format ↔ standard.Takes (fun name => options.lookup name) format := by
  have units : Field.optional options.toEntries indentOption standard.unit readUnit =
      .ok format.unit ↔
        taken standard.unit readUnit (options.lookup indentOption) = .ok format.unit := by
    rw [optional_eq_ok, lookup?_toEntries]
  have newlines : Field.optional options.toEntries trailingNewlineOption
      standard.trailingNewline Field.boolean = .ok format.trailingNewline ↔
        taken standard.trailingNewline Field.boolean (options.lookup trailingNewlineOption) =
          .ok format.trailingNewline := by
    rw [optional_eq_ok, lookup?_toEntries]
  have knows : (∀ name value, options.lookup name = some value → name ∈ optionNames) ↔
      ∀ name ∈ options.names, name ∈ optionNames := by
    simp only [mem_names_iff, forall_exists_index]
  constructor
  · intro done
    rw [ofOptions] at done
    split at done
    · cases done
    · split at done
      · next unit newline others =>
        cases done
        exact ⟨knows.mpr (unexpected_eq_nil.mp others), units.mp unit, newlines.mp newline⟩
      · cases done
      · cases done
      · cases done
  · intro takes
    have all := knows.mp takes.known
    rw [ofOptions, unreadableKey?_eq_none all, units.mpr takes.unit, newlines.mpr takes.newline,
      unexpected_eq_nil.mpr all]

/-- No option can be null, so the format that options choose takes what they give. -/
theorem takes_of_ofOptions {options : Options} {format : Format}
    (chosen : ofOptions options = .ok format) : standard.Takes options.given? format := by
  have takes := ofOptions_eq_ok.mp chosen
  refine ⟨fun name value given => ?_, taken_filter rfl takes.unit, taken_filter rfl takes.newline⟩
  exact takes.known name value (Option.filter_eq_some_iff.mp given).1

/-! ## Merges -/

/-- The options of a format choose its unit of indentation. -/
theorem readUnit_indent (format : Format) : readUnit (.int format.indent) = .ok format.unit := by
  simp only [readUnit, Field.integer, indent, IndentUnit.ofCode?_code]

/-- **A merge takes the values that a layer gives** and keeps the rest of the format
below. -/
theorem merge_eq_ok {below format : Format} {above : Options} (once : above.names.Nodup) :
    below.merge above = .ok format ↔ below.Takes above.given? format := by
  have found (name : String) := lookup_layer once name below.toOptions
  have units : taken standard.unit readUnit
      ((layer below.toOptions above).lookup indentOption) =
        taken below.unit readUnit (above.given? indentOption) := by
    rw [found]
    exact taken_or_some below.readUnit_indent _ _
  have newlines : taken standard.trailingNewline Field.boolean
      ((layer below.toOptions above).lookup trailingNewlineOption) =
        taken below.trailingNewline Field.boolean (above.given? trailingNewlineOption) := by
    have reads : Field.boolean (.bool below.trailingNewline) = .ok below.trailingNewline := rfl
    rw [found]
    exact taken_or_some reads _ _
  rw [merge, ofOptions_eq_ok]
  constructor
  · intro takes
    refine ⟨fun name value given => ?_, units ▸ takes.unit, newlines ▸ takes.newline⟩
    exact takes.known name value ((found name).trans (by rw [given, Option.some_or]))
  · intro takes
    refine ⟨fun name value either => ?_, units.trans takes.unit, newlines.trans takes.newline⟩
    rw [found] at either
    obtain given | ⟨_, kept⟩ := Option.or_eq_some_iff.mp either
    · exact takes.known name value given
    · exact (mem_names_iff name below.toOptions).mpr ⟨value, kept⟩

/-- Options without a value do not count in a layer. -/
theorem layer_filter (below above : Options) :
    layer below (above.filter fun option => !option.2.isNull) = layer below above := by
  rw [layer, layer, List.foldl_filter]
  congr 1
  funext options option
  cases option.2.isNull <;> rfl

/-- The entries of options have texts for keys. -/
theorem ofTextKeys?_toEntries (options : Options) :
    ofTextKeys? options.toEntries = some options := by
  induction options with
  | nil => rfl
  | cons option rest ih =>
    have text : (Value.text option.1).text? = some option.1 := rfl
    rw [ofTextKeys?] at ih
    rw [ofTextKeys?, toEntries, List.map_cons, List.mapM_cons, ← toEntries, ih, text]
    rfl

end Format

namespace Project

open Format

/-- The merge of a layer, with its failure. -/
theorem mergeFormat_toEntries (base : Format) (above : Options) :
    mergeFormat base above.toEntries =
      (base.merge above).mapError fun report => .config (.options report) := by
  have entries : above.toEntries.filter (fun entry => !entry.2.isNull) =
      Options.toEntries (above.filter fun option => !option.2.isNull) := List.filter_map
  have layers : base.merge (above.filter fun option => !option.2.isNull) = base.merge above := by
    rw [merge, layer_filter, merge]
  rw [mergeFormat, entries, ofTextKeys?_toEntries]
  simp only [layers]
  cases base.merge above <;> rfl

section Layers

variable {base format : Format} {below above : Options}

theorem mergeFormat_eq_ok (once : above.names.Nodup) :
    mergeFormat base above.toEntries = .ok format ↔ base.Takes above.given? format := by
  rw [← merge_eq_ok once, mergeFormat_toEntries]
  cases base.merge above with
  | error report => exact ⟨nofun, nofun⟩
  | ok merged =>
    constructor
    · intro same
      exact congrArg Except.ok (Except.ok.inj same)
    · intro same
      exact congrArg Except.ok (Except.ok.inj same)

theorem exists_of_mergeFormat_error {failure : ConfigFailure}
    (failed : mergeFormat base above.toEntries = .error failure) :
    ∃ report, failure = .config (.options report) := by
  rw [mergeFormat_toEntries] at failed
  cases merged : base.merge above with
  | ok format =>
    rw [merged] at failed
    cases failed
  | error report =>
    rw [merged] at failed
    cases failed
    exact ⟨report, rfl⟩

/-- Merges a layer and then another one. -/
def mergeBoth (base : Format) (below above : Options) : Except ConfigFailure Format := do
  let format ← mergeFormat base below.toEntries
  mergeFormat format above.toEntries

theorem mergeBoth_eq_ok (onceBelow : below.names.Nodup) (onceAbove : above.names.Nodup) :
    mergeBoth base below above = .ok format ↔
      ∃ middle, base.Takes below.given? middle ∧ middle.Takes above.given? format := by
  constructor
  · intro done
    obtain ⟨middle, first, second⟩ := except_bind_ok done
    exact ⟨middle, (mergeFormat_eq_ok onceBelow).mp first, (mergeFormat_eq_ok onceAbove).mp second⟩
  · rintro ⟨middle, first, second⟩
    rw [mergeBoth, (mergeFormat_eq_ok onceBelow).mpr first]
    exact (mergeFormat_eq_ok onceAbove).mpr second

/-- Two layers can be merged one after the other exactly when each of them can be merged
alone. -/
theorem exists_mergeBoth (onceBelow : below.names.Nodup) (onceAbove : above.names.Nodup) :
    (∃ format, mergeBoth base below above = .ok format) ↔
      (∃ format, mergeFormat base below.toEntries = .ok format) ∧
        ∃ format, mergeFormat base above.toEntries = .ok format := by
  simp only [mergeBoth_eq_ok onceBelow onceAbove, mergeFormat_eq_ok onceBelow,
    mergeFormat_eq_ok onceAbove]
  constructor
  · rintro ⟨_, middle, first, second⟩
    exact ⟨⟨middle, first⟩, second.exists_over base⟩
  · rintro ⟨⟨middle, first⟩, ⟨_, second⟩⟩
    obtain ⟨format, third⟩ := second.exists_over middle
    exact ⟨format, middle, first, third⟩

/-- Two layers merged one after the other are merged like one. -/
theorem mergeFormat_layer (onceBelow : below.names.Nodup) (onceAbove : above.names.Nodup)
    (done : mergeBoth base below above = .ok format) :
    mergeFormat base (Format.layer below above).toEntries = .ok format := by
  obtain ⟨middle, first, second⟩ := (mergeBoth_eq_ok onceBelow onceAbove).mp done
  have given : (layer below above).given? =
      fun name => (above.given? name).or (below.given? name) :=
    funext (given?_layer onceAbove below)
  rw [mergeFormat_eq_ok (nodup_names_layer above onceBelow), given]
  exact first.trans second

theorem exists_of_mergeBoth_error {failure : ConfigFailure}
    (failed : mergeBoth base below above = .error failure) :
    ∃ report, failure = .config (.options report) := by
  rw [mergeBoth] at failed
  cases first : mergeFormat base below.toEntries with
  | error failure =>
    rw [first] at failed
    cases failed
    exact exists_of_mergeFormat_error first
  | ok middle =>
    rw [first] at failed
    exact exists_of_mergeFormat_error failed

end Layers

end Project

end CodeLayout
