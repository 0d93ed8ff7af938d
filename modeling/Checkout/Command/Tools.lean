import Checkout.Settings.File

/-!
# The tools of the command

The command works with tools that are no part of it: one reads YAML, one reads the arguments and
checks the options among them, and two print, one of them texts and the other messages.  Nothing is
asked of them here: a run goes on from whatever they answer, and a result that needs more of them
says so.
-/

namespace Checkout.Command

/-- What the command is asked for: the items to be priced, and the options. -/
structure Request where
  items : List String := []
  dataDirectory : Option FilePath := none
  settingsFile : Option FilePath := none
  /-- Whether the receipt is wanted as JSON. -/
  asJson : Bool := false
  isVerbose : Bool := false
  deriving DecidableEq

/-- What the arguments of a run come to. -/
inductive Reading
  /-- A price is asked for, and the options pass their checks. -/
  | request (request : Request)
  /-- Nothing but information is asked for. -/
  | information (text : String)
  /-- The arguments can not be used, as a text tells. -/
  | misuse (text : String)
  deriving DecidableEq

/-- A message by its label and its parts. -/
structure Message where
  label : String
  parts : List String

/-- The tools that a run works with. -/
structure Tools where
  /-- Reads a document of YAML. -/
  load : Settings.Loader
  /-- Reads arguments, given the files, the current directory and the environment. -/
  ask : FileTree → List String → List (String × String) → List String → Except Fault Reading
  /-- What is printed in an environment where a text is to be. -/
  print : List (String × String) → String → Except Fault String
  /-- What is printed in an environment where a message is to be. -/
  printMessage : List (String × String) → Message → Except Fault String

end Checkout.Command
