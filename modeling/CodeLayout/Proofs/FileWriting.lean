import CodeLayout.Files.Basic
import CodeLayout.Proofs.SoundValue
import Mathlib.Data.List.Basic

/-!
# The writing of a file

Writing a file at a path makes the directories on the way that are missing, and puts the
file into the last of them. So two things are at another place than before at most: the
file, and directories where nothing was.

A path that leads somewhere still leads there when nothing is taken away and directories
stay directories (`Extends`). New directories are such a change, and so is a file that is
put where no directory was. Hence each directory that was made on the way stays where its
path leads (`NewDirectories.trans`), and the file is in the end what the path leads to.

Whether there can be a file at a path does not depend on its bytes (`Writable`).

Main statement: `Files.Writable.wrote`.
-/

set_option autoImplicit false

namespace CodeLayout

namespace FilePath

/-- A path with other names on the way. -/
def along (path : FilePath) (names : List String) : FilePath := { path with names }

end FilePath

namespace Files

variable {files before middle after : Files} {work place : Location} {path : FilePath}

/-! ## What is at a place after a change -/

theorem find?_put_same (files : Files) {place : Location} (below : place ≠ [])
    (entry : FileEntry) : (files.put place entry).find? place = some entry := by
  rw [find?, if_neg below, put, List.lookup_cons_self]

theorem find?_put_other (files : Files) {place other : Location} (apart : other ≠ place)
    (entry : FileEntry) : (files.put place entry).find? other = files.find? other := by
  have kept : ∀ entries : List (Location × FileEntry),
      (entries.filter fun old => old.1 != place).lookup other = entries.lookup other := by
    intro entries
    induction entries with
    | nil => rfl
    | cons old rest ih =>
      obtain ⟨location, there⟩ := old
      by_cases same : location = place
      · have passed : (other == location) = false := beq_false_of_ne (same ▸ apart)
        rw [List.filter_cons_of_neg (by simpa using same), ih, List.lookup_cons, passed]
      · rw [List.filter_cons_of_pos (by simpa using same), List.lookup_cons, List.lookup_cons, ih]
  by_cases root : other = []
  · rw [find?, find?, if_pos root, if_pos root]
  · rw [find?, find?, if_neg root, if_neg root, put, List.lookup_cons, beq_false_of_ne apart]
    exact kept files.entries

/-! ## Paths in files that grow -/

/-- Nothing is taken away, and directories stay directories. -/
structure Extends (before after : Files) : Prop where
  /-- Where something is, something stays. -/
  stays : ∀ place, (before.find? place).isSome = true → (after.find? place).isSome = true
  /-- A directory stays one. -/
  directory : ∀ place, before.find? place = some .directory →
    after.find? place = some .directory

theorem Extends.put (files : Files) {place : Location} (free : files.find? place ≠ some .directory)
    (entry : FileEntry) : files.Extends (files.put place entry) := by
  have below : place ≠ [] := by
    rintro rfl
    exact free rfl
  constructor
  · intro other there
    by_cases same : other = place
    · rw [same, find?_put_same files below]
      rfl
    · rw [find?_put_other files same]
      exact there
  · intro other there
    have apart : other ≠ place := by
      rintro rfl
      exact free there
    rw [find?_put_other files apart]
    exact there

/-- A name leads somewhere from a directory. -/
theorem directory_of_step {name : String} {next : Location}
    (led : files.step place name = .ok next) : files.find? place = some .directory := by
  rw [step] at led
  split at led
  · cases led
  · cases led
  · next found => exact found

theorem step_extends (more : before.Extends after) {name : String} {next : Location}
    (led : before.step place name = .ok next) : after.step place name = .ok next := by
  have directory := directory_of_step led
  simp only [step, directory] at led
  simp only [step, more.directory place directory]
  by_cases up : name = ".."
  · rw [if_pos up] at led ⊢
    exact led
  · rw [if_neg up] at led ⊢
    split at led
    · next there =>
      rw [if_pos (more.stays _ there)]
      exact led
    · cases led

/-- A path that leads to a place still leads there. -/
theorem resolve_extends (more : before.Extends after)
    (led : before.resolve work path = .ok place) : after.resolve work path = .ok place := by
  have walked : ∀ (names : List String) (start : Location),
      names.foldlM before.step start = .ok place → names.foldlM after.step start = .ok place := by
    intro names
    induction names with
    | nil => intro start led; exact led
    | cons name rest ih =>
      intro start led
      rw [List.foldlM_cons] at led ⊢
      obtain ⟨next, first, led⟩ := except_bind_ok led
      rw [step_extends more first]
      exact ih next led
  rw [resolve_eq_ok_iff] at led ⊢
  exact ⟨led.1, walked path.names (origin work path) led.2⟩

/-- The last name of a path and the place that the names before it lead to. -/
structure Leads (files : Files) (work : Location) (path : FilePath) (place : Location)
    (name : String) : Prop where
  /-- The system takes the path. -/
  accepted : path.fault? = none
  /-- The names before the last lead to the place. -/
  led : files.resolve work path.parent = .ok place
  /-- A directory is there. -/
  directory : files.find? place = some .directory
  /-- The last name is the one. -/
  last : path.names = path.parent.names ++ [name]
  /-- It does not lead upwards. -/
  down : name ≠ ".."

theorem leads_of_target? {name : String}
    (found : files.target? work path = .ok (some (place, name))) :
    files.Leads work path place name := by
  rw [target?] at found
  obtain ⟨⟨⟩, accepted, found⟩ := except_bind_ok found
  obtain ⟨reached, led, found⟩ := except_bind_ok found
  split at found
  · cases found
  · cases found
  · cases found
  · next last directory named =>
    by_cases up : last = ".."
    · rw [if_pos up] at found
      cases found
    · rw [if_neg up, Except.ok.injEq, Option.some.injEq, Prod.mk.injEq] at found
      obtain ⟨rfl, rfl⟩ := found
      have split := List.dropLast_append_getLast? last (Option.mem_def.mpr named)
      exact ⟨accept_eq_ok_iff.mp accepted, led, directory, split.symm, up⟩

theorem Leads.not_root (place : Location) (name : String) : place ++ [name] ≠ [] :=
  List.append_ne_nil_of_right_ne_nil _ (List.cons_ne_nil _ _)

/-- When something is put where a path leads, the path leads to it. -/
theorem Leads.resolve {name : String} (leads : before.Leads work path place name)
    (more : before.Extends after) (there : (after.find? (place ++ [name])).isSome = true) :
    after.resolve work path = .ok (place ++ [name]) := by
  have led := (resolve_eq_ok_iff.mp (resolve_extends more leads.led)).2
  refine resolve_eq_ok_iff.mpr ⟨leads.accepted, ?_⟩
  have start : origin work path = origin work path.parent := rfl
  rw [leads.last, List.foldlM_append, start, led]
  have stepped : after.step place name = .ok (place ++ [name]) := by
    simp only [step, more.directory place leads.directory]
    rw [if_neg leads.down, if_pos there]
  have arrived : [name].foldlM after.step place = .ok (place ++ [name]) := by
    rw [List.foldlM_cons, stepped]
    rfl
  exact arrived

/-! ## Directories on the way -/

/-- Where another thing is than before, a directory was made, which lies on the way of a
path. -/
def NewDirectories (work : Location) (path : FilePath) (before after : Files) : Prop :=
  ∀ place, after.find? place = before.find? place ∨
    (before.find? place = none ∧ after.find? place = some .directory ∧
      ∃ names, names <+: path.names ∧ after.resolve work (path.along names) = .ok place)

namespace NewDirectories

theorem refl (work : Location) (path : FilePath) (files : Files) :
    NewDirectories work path files files := fun _ => .inl rfl

theorem grows (made : NewDirectories work path before after) : before.Extends after := by
  constructor
  · intro place there
    rcases made place with same | ⟨_, directory, _⟩
    · rw [same]
      exact there
    · rw [directory]
      rfl
  · intro place there
    rcases made place with same | ⟨_, directory, _⟩
    · rw [same]
      exact there
    · exact directory

theorem trans (first : NewDirectories work path before middle)
    (second : NewDirectories work path middle after) : NewDirectories work path before after := by
  intro place
  rcases second place with same | ⟨absent, directory, way⟩
  · rcases first place with earlier | ⟨absent, directory, names, short, led⟩
    · exact .inl (same.trans earlier)
    · exact .inr ⟨absent, same.trans directory, names, short,
        resolve_extends second.grows led⟩
  · rcases first place with earlier | ⟨_, there, _⟩
    · exact .inr ⟨earlier ▸ absent, directory, way⟩
    · rw [there] at absent
      cases absent

/-- The way of a path is a part of the way of a longer one. -/
theorem longer {names : List String} (short : names <+: path.names)
    (made : NewDirectories work (path.along names) before after) :
    NewDirectories work path before after := by
  intro place
  rcases made place with same | ⟨absent, directory, fewer, shorter, led⟩
  · exact .inl same
  · exact .inr ⟨absent, directory, fewer, shorter.trans short, led⟩

end NewDirectories

theorem newDirectories_of_makeDirectory (done : before.makeDirectory work path = .ok after) :
    NewDirectories work path before after := by
  rw [makeDirectory] at done
  obtain ⟨target, found, done⟩ := except_bind_ok done
  match target with
  | none => cases done
  | some (place, name) =>
    simp only at done
    split at done
    · cases done
    · next absent =>
      have leads := leads_of_target? found
      have nothing : before.find? (place ++ [name]) = none := by simpa using absent
      cases done
      intro other
      by_cases same : other = place ++ [name]
      · have there := find?_put_same before (Leads.not_root place name)
          .directory
        have free : before.find? (place ++ [name]) ≠ some .directory := by
          rw [nothing]
          exact nofun
        have more := Extends.put before free .directory
        rw [same]
        exact .inr ⟨nothing, there, path.names, List.prefix_refl _,
          leads.resolve more (by rw [there]; rfl)⟩
      · exact .inl (find?_put_other before same _)

theorem newDirectories_of_ensureDirectory (done : before.ensureDirectory work path = .ok after) :
    NewDirectories work path before after := by
  rw [ensureDirectory] at done
  split at done
  · next made =>
    cases done
    exact newDirectories_of_makeDirectory made
  · split at done
    · cases done
      exact .refl work path before
    · cases done

/-- The ways in which there are all directories: the last one is made, or it is there, or
it is made after those above it. -/
theorem ensureDirectories_ok {limit : Nat} (done : ensureDirectories work limit before path =
    .ok after) :
    before.makeDirectory work path = .ok after ∨ after = before ∨
      ∃ less ready, limit = less + 1 ∧ ensureDirectories work less before path.parent = .ok ready ∧
        ready.ensureDirectory work path = .ok after := by
  unfold ensureDirectories at done
  split at done
  · next made =>
    cases done
    exact .inl made
  · split at done
    · cases done
    · next less _ _ ready above =>
      split at done
      · next made =>
        cases done
        exact .inr (.inr ⟨less, ready, rfl, above, made⟩)
      · cases done
  · split at done
    · cases done
      exact .inr (.inl rfl)
    · cases done

theorem newDirectories_of_ensureDirectories {limit : Nat}
    (done : ensureDirectories work limit before path = .ok after) :
    NewDirectories work path before after := by
  induction limit generalizing after path with
  | zero =>
    obtain made | rfl | ⟨less, ready, smaller, -⟩ := ensureDirectories_ok done
    · exact newDirectories_of_makeDirectory made
    · exact .refl work path after
    · cases smaller
  | succ limit ih =>
    obtain made | rfl | ⟨less, ready, smaller, above, made⟩ := ensureDirectories_ok done
    · exact newDirectories_of_makeDirectory made
    · exact .refl work path after
    · cases smaller
      exact ((ih above).longer (List.dropLast_prefix path.names)).trans
        (newDirectories_of_ensureDirectory made)

/-! ## The file -/

/-- There can be a file at a path. -/
def Writable (files : Files) (work : Location) (path : FilePath) : Prop :=
  ∃ bytes written, files.writeDeep work path bytes = .ok written

theorem writable_of_isSome (bytes : List UInt8)
    (done : (files.writeDeep work path bytes).toOption.isSome = true) :
    files.Writable work path := by
  cases written : files.writeDeep work path bytes with
  | error failure =>
    rw [written] at done
    cases done
  | ok after => exact ⟨bytes, after, written⟩

/-- A file with some bytes is at the end of a path, and everything else is as it was, except
that there may be new directories on the way. -/
def Wrote (work : Location) (path : FilePath) (bytes : List UInt8) (before after : Files) :
    Prop :=
  ∃ place, after.resolve work path = .ok place ∧ after.find? place = some (.file bytes) ∧
    ∀ other, other ≠ place → after.find? other = before.find? other ∨
      (before.find? other = none ∧ after.find? other = some .directory ∧
        ∃ names, names <+: path.parent.names ∧
          after.resolve work (path.along names) = .ok other)

theorem Wrote.read {bytes : List UInt8} (wrote : Wrote work path bytes before after) :
    after.read work path = .ok bytes := by
  obtain ⟨place, led, there, -⟩ := wrote
  rw [Files.read, led]
  simp only [Bind.bind, Except.bind, there]

/-- A file is written into a directory where no directory has its name. -/
theorem write_ok {bytes : List UInt8} (done : before.write work path bytes = .ok after) :
    ∃ place name, before.target? work path = .ok (some (place, name)) ∧
      before.find? (place ++ [name]) ≠ some .directory ∧
      after = before.put (place ++ [name]) (.file bytes) := by
  rw [write] at done
  obtain ⟨target, found, done⟩ := except_bind_ok done
  match target with
  | none => cases done
  | some (place, name) =>
    simp only at done
    split at done
    · cases done
    · next free =>
      cases done
      exact ⟨place, name, found, free, rfl⟩

theorem write_of_target? {name : String} (found : before.target? work path =
    .ok (some (place, name))) (free : before.find? (place ++ [name]) ≠ some .directory)
    (bytes : List UInt8) :
    before.write work path bytes = .ok (before.put (place ++ [name]) (.file bytes)) := by
  simp only [write, found, Bind.bind, Except.bind, if_neg free]

/-- **Where there can be a file, one with any bytes can be written.** It is there then, and
everything else is as it was, except that there may be new directories on the way. -/
theorem Writable.wrote (writable : before.Writable work path) (bytes : List UInt8) :
    ∃ after, before.writeDeep work path bytes = .ok after ∧
      Wrote work path bytes before after := by
  obtain ⟨others, written, done⟩ := writable
  rw [writeDeep] at done
  split at done
  · cases done
  · next ready above =>
    split at done
    · next put =>
      obtain ⟨place, name, found, free, -⟩ := write_ok put
      have made := newDirectories_of_ensureDirectories above
      have leads := leads_of_target? found
      have more := Extends.put ready free (.file bytes)
      have there := find?_put_same ready (Leads.not_root place name)
        (.file bytes)
      refine ⟨ready.put (place ++ [name]) (.file bytes), ?_, place ++ [name], ?_, there, ?_⟩
      · rw [writeDeep, above]
        simp only [write_of_target? found free bytes]
      · exact leads.resolve more (by rw [there]; rfl)
      · intro other apart
        rw [find?_put_other ready apart]
        rcases made other with same | ⟨absent, directory, names, short, led⟩
        · exact .inl same
        · exact .inr ⟨absent, directory, names, short, resolve_extends more led⟩
    · cases done

end Files

end CodeLayout
