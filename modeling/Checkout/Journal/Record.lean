import Checkout.Problem

/-!
# The journal

Operations keep a journal of what they do: a list of records, each with a level, the name of the
logger that wrote it, and a message.  A logged outcome is the result of an operation, or its fault,
together with the records written up to then, so that a failing operation keeps its records.
-/

namespace Checkout

namespace Journal

/-- How much a record matters. -/
inductive Level
  | debug
  | info
  | warning
  | error
  | critical
  deriving DecidableEq

namespace Level

/-- The rank of a level; records of a higher rank matter more. -/
def rank : Level → Nat
  | .debug => 10
  | .info => 20
  | .warning => 30
  | .error => 40
  | .critical => 50

def name : Level → String
  | .debug => "DEBUG"
  | .info => "INFO"
  | .warning => "WARNING"
  | .error => "ERROR"
  | .critical => "CRITICAL"

/-- All levels, the least first. -/
def all : List Level :=
  [.debug, .info, .warning, .error, .critical]

/-- The level with a name. -/
def ofName? (name : String) : Option Level :=
  all.find? (·.name == name)

end Level

/-- One record of the journal. -/
structure Record where
  level : Level
  logger : String
  message : String
  /-- The operation that the record announces, if it announces one. -/
  operation : Option Value := none
  /-- Further fields of the record, by name. -/
  context : Mapping := []

namespace Record

def debug (logger message : String) : Record :=
  { level := .debug, logger, message }

def info (logger message : String) : Record :=
  { level := .info, logger, message }

def warning (logger message : String) : Record :=
  { level := .warning, logger, message }

/-- The record that announces an operation. -/
def starting (logger : String) (operation : Value) (context : Mapping) : Record :=
  { level := .info, logger, message := "Starting operation: " ++ operation.shown,
    operation := some operation, context }

end Record

end Journal

/-- The outcome of an operation with the records that were written on the way. -/
structure Logged (Result : Type) where
  records : List Journal.Record
  outcome : Except Fault Result

namespace Logged

variable {First Second : Type}

/-- An outcome that no record was written for. -/
def ofOutcome (outcome : Except Fault First) : Logged First :=
  ⟨[], outcome⟩

/-- Some records and nothing else. -/
def tell (records : List Journal.Record) : Logged Unit :=
  ⟨records, .ok ()⟩

/-- One operation after another.  A fault of the first ends both. -/
def andThen (first : Logged First) (next : First → Logged Second) : Logged Second :=
  match first.outcome with
  | .error fault => ⟨first.records, .error fault⟩
  | .ok value => ⟨first.records ++ (next value).records, (next value).outcome⟩

instance : Monad Logged where
  pure value := ⟨[], .ok value⟩
  bind := andThen

instance : MonadLift (Except Fault) Logged where
  monadLift := ofOutcome

/-- The outcome of two operations in a row is that of their outcomes. -/
theorem outcome_andThen (first : Logged First) (next : First → Logged Second) :
    (first.andThen next).outcome = first.outcome.bind fun value => (next value).outcome := by
  obtain ⟨records, outcome⟩ := first
  cases outcome <;> rfl

@[simp]
theorem outcome_bind (first : Logged First) (next : First → Logged Second) :
    (first >>= next).outcome = first.outcome.bind fun value => (next value).outcome :=
  outcome_andThen first next

@[simp]
theorem outcome_pure (value : First) : (pure value : Logged First).outcome = .ok value :=
  rfl

@[simp]
theorem outcome_ofOutcome (outcome : Except Fault First) : (ofOutcome outcome).outcome = outcome :=
  rfl

@[simp]
theorem outcome_tell (records : List Journal.Record) : (tell records).outcome = .ok () :=
  rfl

end Logged

end Checkout
