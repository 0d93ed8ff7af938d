import Checkout.Journal.Entry

/-!
# Loggers

Loggers are named, and a dot in a name makes a logger the child of another.  A logger is known from
when it is first set up or written to, and stands below the nearest known one among those that its
name names.  A logger that is set up has a level and a handler; setting it up again replaces both.
A record is written if it reaches the level in force at its logger, by the handlers of that logger
and of all loggers above it that the record's level reaches.

Whether a logger takes records of some rank is decided when the first of them comes, and stays
decided until a level is set.
-/

namespace Checkout.Journal

/-- The level that a logger or handler asks for: a rank, or none of its own. -/
abbrev Threshold :=
  Nat

namespace Threshold

/-- The names of thresholds, in upper case. -/
def named : List (String × Threshold) :=
  [("CRITICAL", 50), ("FATAL", 50), ("ERROR", 40), ("WARNING", 30), ("WARN", 30), ("INFO", 20),
   ("DEBUG", 10), ("NOTSET", 0)]

/-- The threshold that a name in any case stands for. -/
def ofName (name : String) : Except Fault Threshold :=
  let spelling := String.ofList (Text.Case.upper name.toList)
  match named.lookup spelling with
  | some threshold => .ok threshold
  | none =>
    if spelling = "BASIC_FORMAT" then
      .error (.unusable "Unknown level: '%(levelname)s:%(name)s:%(message)s'")
    else if spelling = "_STYLES" then .error .wrongKind
    else .error .lacking

/-- The name of a rank, which need not be that of a threshold. -/
def nameOf (rank : Int) : String :=
  match named.find? fun entry => rank = entry.2 with
  | some entry => entry.1
  | none => "Level " ++ Text.Numeral.text rank

end Threshold

/-- Where lines are written to. -/
structure Stream where
  name : String
  /-- Whether the stream is a terminal; one that is closed does not tell. -/
  isTerminal : Except Fault Bool := .ok false

/-- What writes records: everything from a level on, to the stream with a name, in one style. -/
structure Handler where
  threshold : Threshold
  stream : String
  style : Style
  deriving DecidableEq

/-- What a logger is set up with. -/
structure Call where
  level : String := "WARNING"
  /-- The stream to write to; the standard error stream where none is given. -/
  stream? : Option Stream := none
  asJson : Bool := false

namespace Call

/-- The stream that the call asks for. -/
def stream (call : Call) (standardError : Stream) : Stream :=
  call.stream?.getD standardError

/-- The style that the call asks for; the stream is looked at unless it is JSON. -/
def style (call : Call) (standardError : Stream) : Except Fault Style :=
  if call.asJson then .ok .json
  else
    (call.stream standardError).isTerminal.map fun isTerminal =>
      if isTerminal then .terminal else .plain

end Call

/-- The state of one logger. -/
structure Logger where
  threshold : Threshold
  handlers : List Handler
  deriving DecidableEq

/-- The known loggers, by name.  The topmost logger has the empty name. -/
structure Loggers where
  known : List (String × Logger) := []
  /-- For which loggers it is decided whether they take records of a rank, the latest first. -/
  decided : List ((String × Nat) × Bool) := []

namespace Loggers

/-- The name of the topmost logger where it is shown. -/
def topName : String :=
  "root"

/-- The name that a value gives to a logger; one that counts as absent names the topmost. -/
def nameOf : Value → Except Fault String
  | .text name => .ok name
  | value => if value.isEmpty then .ok topName else .error .wrongKind

/-- The name that a logger is known by. -/
def canonical (name : String) : String :=
  if name = topName then "" else name

/-- Whether a logger is known. -/
def isKnown (loggers : Loggers) (name : String) : Bool :=
  Entries.has name loggers.known

/-- The state of a logger.  One that was never set up has no level of its own, but for the topmost,
which begins at warnings. -/
def state (loggers : Loggers) (name : String) : Logger :=
  (Entries.get? name loggers.known).getD
    { threshold := if name.isEmpty then Level.warning.rank else 0, handlers := [] }

/-- The loggers with one more known. -/
def meet (loggers : Loggers) (name : String) : Loggers :=
  { loggers with known := Entries.put name (loggers.state name) loggers.known }

/-- The names above a name, the nearest first, all of them read from the end.  A dot ends the name
in front of it, but for one at the start and one right in front of a dot that ends a name. -/
def aboveFromEnd : List Char → List (List Char)
  | c :: d :: rest =>
    if c = '.' then (d :: rest) :: aboveFromEnd rest else aboveFromEnd (d :: rest)
  | _ => []

/-- The names above a name, the nearest first. -/
def above (name : String) : List String :=
  (aboveFromEnd name.toList.reverse).map fun other => String.ofList other.reverse

/-- The name of the logger that one stands below: the nearest above it that is known, or else the
topmost. -/
def parent (loggers : Loggers) (name : String) : String :=
  ((above name).find? loggers.isKnown).getD ""

/-- The names of a logger and of the loggers above it, the nearest first, up to a number of them. -/
def chainUpTo (loggers : Loggers) : Nat → String → List String
  | 0, _ => []
  | left + 1, name =>
    if name.isEmpty then [""] else name :: chainUpTo loggers left (loggers.parent name)

/-- The names of a logger and of all loggers above it, the nearest first.  Each is shorter than the
one before it. -/
def chain (loggers : Loggers) (name : String) : List String :=
  loggers.chainUpTo (name.length + 1) name

/-- The level in force at a logger: the nearest that is set. -/
def effective (loggers : Loggers) (name : String) : Threshold :=
  ((loggers.chain name).findSome? fun other =>
    let threshold := (loggers.state other).threshold
    if threshold = 0 then none else some threshold).getD 0

/-- The loggers with a level set at one of them, and its handlers gone.  Then nothing is decided any
more. -/
def clear (loggers : Loggers) (name : String) (threshold : Threshold) : Loggers :=
  { known := Entries.put name { threshold, handlers := [] } loggers.known }

/-- The loggers with one more handler at one of them. -/
def attach (loggers : Loggers) (name : String) (handler : Handler) : Loggers :=
  let logger := loggers.state name
  let attached := { logger with handlers := logger.handlers ++ [handler] }
  { loggers with known := Entries.put name attached loggers.known }

/-- The loggers when one has been set up anew by a call, and whether that went well.  If the level
is none, nothing but the name is taken notice of.  If the stream does not tell whether it is a
terminal, the level is set and the old handlers are gone already. -/
def setUp (loggers : Loggers) (name : String) (standardError : Stream) (call : Call) :
    Loggers × Except Fault Unit :=
  let name := canonical name
  let met := loggers.meet name
  match Threshold.ofName call.level with
  | .error fault => (met, .error fault)
  | .ok threshold =>
    let cleared := met.clear name threshold
    match call.style standardError with
    | .error fault => (cleared, .error fault)
    | .ok style =>
      (cleared.attach name ⟨threshold, (call.stream standardError).name, style⟩, .ok ())

/-- Whether a logger takes a record of some rank.  None takes one without a rank. -/
def takes (loggers : Loggers) (name : String) (rank : Nat) : Bool :=
  rank ≠ 0 &&
    (loggers.decided.lookup (name, rank)).getD (decide (loggers.effective name ≤ rank))

/-- The loggers when a record of some rank has come to one of them, which is known from then on and
has decided whether it takes such records. -/
def asked (loggers : Loggers) (name : String) (rank : Nat) : Loggers :=
  let met := loggers.meet name
  { met with decided := ((name, rank), met.takes name rank) :: met.decided }

/-- The handlers of a logger and of all loggers above it, the nearest first. -/
def handlersOf (loggers : Loggers) (name : String) : List Handler :=
  (loggers.chain name).flatMap fun other => (loggers.state other).handlers

/-- What writes a record for which there is no handler: from warnings on its message alone, to the
standard error stream. -/
def lastResort (standardError : String) : Handler where
  threshold := Level.warning.rank
  stream := standardError
  style := .bare

/-- The handlers that write a record of a logger. -/
def reached (loggers : Loggers) (standardError name : String) (rank : Nat) : List Handler :=
  if !loggers.takes name rank then []
  else
    let handlers := loggers.handlersOf name
    (if handlers.isEmpty then [lastResort standardError] else handlers).filter fun handler =>
      handler.threshold ≤ rank

/-- The lines that an entry of a logger is written as, each with the name of the stream that it is
written to, and with the time as its style tells it. -/
def deliver (loggers : Loggers) (standardError name : String) (rank : Nat) (entry : Entry)
    (time : Style → String) : List (String × Except Fault String) :=
  (loggers.reached standardError name rank).map fun handler =>
    (handler.stream, handler.style.write entry (time handler.style))

/-- What an entry of a logger adds to a stream. -/
def write (loggers : Loggers) (standardError name : String) (rank : Nat) (entry : Entry)
    (time : Style → String) (stream : String) : Except Fault String := do
  let delivered := loggers.deliver standardError name rank entry time
  let lines ← (delivered.filter fun line => line.1 = stream).mapM Prod.snd
  .ok (String.join (lines.map (· ++ "\n")))

end Loggers

/-- The name of the standard error stream. -/
def standardError : String :=
  "stderr"

/-- The name of the shop's own logger. -/
def shopLogger : String :=
  "pricebasket"

/-- The name of a logger below the shop's own. -/
def loggerName (name : String) : String :=
  if name = shopLogger ∨ (shopLogger ++ ".").toList.isPrefixOf name.toList then name
  else shopLogger ++ "." ++ name

end Checkout.Journal
