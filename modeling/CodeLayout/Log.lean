/-!
# Log records

What a program notes while it works. A record has a level and the name of the part
that notes it. Records are kept in order, also when the work ends in a failure, and
a reader sees those at a level or above.
-/

set_option autoImplicit false

namespace CodeLayout

/-- How important a record is. -/
inductive LogLevel where
  | debug
  | info
  | warning
deriving DecidableEq, Repr

namespace LogLevel

/-- The number of a level. -/
def number : LogLevel → Nat
  | .debug => 10
  | .info => 20
  | .warning => 30

/-- The name of a level. -/
def name : LogLevel → String
  | .debug => "DEBUG"
  | .info => "INFO"
  | .warning => "WARNING"

end LogLevel

/-- One record. -/
structure LogRecord where
  /-- How important the record is. -/
  level : LogLevel
  /-- The part that notes it. -/
  source : String
  /-- What it says. -/
  message : String
deriving DecidableEq, Repr

/-- Work that notes records and may fail. -/
abbrev Logging (ε : Type) := ExceptT ε (StateM (List LogRecord))

namespace Logging

variable {ε α : Type}

/-- Notes a record. -/
def note (level : LogLevel) (source message : String) : Logging ε Unit :=
  modifyGet fun records => ((), records ++ [{ level, source, message }])

/-- Does the work: its result and the records in order. -/
def perform (work : Logging ε α) : Except ε α × List LogRecord :=
  (work.run).run []

/-- The same work with failures of another kind. -/
def mapFailure {δ : Type} (change : ε → δ) (work : Logging ε α) : Logging δ α :=
  ExceptT.mk do
    match ← work.run with
    | .ok result => pure (.ok result)
    | .error failure => pure (.error (change failure))

end Logging

/-- The records that a reader sees who asks for a level. -/
def recordsFrom (level : LogLevel) (records : List LogRecord) : List LogRecord :=
  records.filter fun record => level.number ≤ record.level.number

end CodeLayout
