import Checkout.Command.Tools
import Checkout.Text.Quoted
import Checkout.Text.Similarity
import Checkout.Text.Split

/-!
# The arguments of the command

Arguments are options and items in any order; behind two dashes there are only items.  An option
has a long name, a short one, or both, and is a switch or takes the next argument as its value.
Short options may be written behind a single dash.

The values of options are paths, which are checked against the files: settings have to be in a file,
and the directory of the data must not be one.
-/

namespace Checkout.Command

/-- An option without a value. -/
inductive Switch
  | json
  | verbose
  | version
  | help
  deriving DecidableEq

/-- An option with a value. -/
inductive Parameter
  | dataDirectory
  | settingsFile
  deriving DecidableEq

/-- What the name of an option stands for. -/
inductive Meaning
  | switch (switch : Switch)
  | parameter (parameter : Parameter)

/-- An option as it is given. -/
inductive Given
  | switch (switch : Switch)
  | parameter (parameter : Parameter) (value : String)
  deriving DecidableEq

/-- Why the arguments can not be used. -/
inductive Misuse
  | unknownOption (name : String) (similar : List String)
  | missingValue (name : String)
  | unexpectedValue (name : String)
  | noSuchFile (path : String)
  /-- A directory is given where a file is asked for. -/
  | fileIsDirectory (path : String)
  /-- A file is given where a directory is asked for. -/
  | directoryIsFile (path : String)
  deriving DecidableEq

/-- The long names of options. -/
def longNames : List (String × Meaning) :=
  [("--data-dir", .parameter .dataDirectory), ("--config", .parameter .settingsFile),
   ("--json", .switch .json), ("--verbose", .switch .verbose), ("--version", .switch .version),
   ("--help", .switch .help)]

/-- The letters of options. -/
def letters : List (Char × Meaning) :=
  [('c', .parameter .settingsFile), ('v', .switch .verbose)]

/-- What arguments ask for: options in the order given, and items. -/
structure Arguments where
  options : List Given := []
  items : List String := []

namespace Arguments

/-- The arguments with an option in front. -/
def withOption (arguments : Arguments) (option : Given) : Arguments :=
  { arguments with options := option :: arguments.options }

/-- The arguments with an item in front. -/
def withItem (arguments : Arguments) (item : String) : Arguments :=
  { arguments with items := item :: arguments.items }

/-- What one argument gives: options, and perhaps one that still waits for its value. -/
structure Step where
  options : List Given := []
  /-- An option that takes the next argument as its value, with the name it was given by. -/
  waiting : Option (Parameter × String) := none

/-- What letters behind a single dash give.  The first option with a value takes all that
follows. -/
def readLetters : List Char → Except Misuse Step
  | [] => .ok {}
  | c :: rest =>
    match letters.lookup c with
    | none => .error (.unknownOption (String.ofList ['-', c]) [])
    | some (.switch switch) => do
      let step ← readLetters rest
      .ok { step with options := .switch switch :: step.options }
    | some (.parameter parameter) =>
      if rest.isEmpty then .ok { waiting := some (parameter, String.ofList ['-', c]) }
      else .ok { options := [.parameter parameter (String.ofList rest)] }

/-- The name of a long option, and the value behind an equals sign. -/
def splitValue (argument : String) : String × Option String :=
  let name := argument.toList.takeWhile (· ≠ '=')
  match argument.toList.drop name.length with
  | [] => (argument, none)
  | _ :: value => (String.ofList name, some (String.ofList value))

/-- What an argument that begins with a dash gives. -/
def readOption (argument : String) : Except Misuse Step :=
  let (name, value?) := splitValue argument
  match longNames.lookup name, value? with
  | some (.switch switch), none => .ok { options := [.switch switch] }
  | some (.switch _), some _ => .error (.unexpectedValue name)
  | some (.parameter parameter), some value => .ok { options := [.parameter parameter value] }
  | some (.parameter parameter), none => .ok { waiting := some (parameter, name) }
  | none, _ =>
    match argument.toList with
    | '-' :: '-' :: _ =>
      .error (.unknownOption name (Text.Similarity.similar name (longNames.map Prod.fst)))
    | _ :: cluster => readLetters cluster
    | [] => .ok {}

/-- Whether an argument is an option; a single dash is an item. -/
def isOption (argument : String) : Bool :=
  argument.startsWith "-" && 1 < argument.length

/-- What the arguments ask for, where the first may be the value that an option waits for. -/
def readFrom (waiting : Option (Parameter × String)) : List String → Except Misuse Arguments
  | [] =>
    match waiting with
    | some (_, name) => .error (.missingValue name)
    | none => .ok {}
  | argument :: rest =>
    match waiting with
    | some (parameter, _) => do
      let others ← readFrom none rest
      .ok (others.withOption (.parameter parameter argument))
    | none =>
      if argument = "--" then .ok { items := rest }
      else if isOption argument then do
        let step ← readOption argument
        let others ← readFrom step.waiting rest
        .ok { others with options := step.options ++ others.options }
      else do
        let others ← readFrom none rest
        .ok (others.withItem argument)

/-- What the arguments ask for. -/
def read (arguments : List String) : Except Misuse Arguments :=
  readFrom none arguments

/-- Whether a switch is given. -/
def has (arguments : Arguments) (switch : Switch) : Bool :=
  arguments.options.contains (.switch switch)

/-- The value of an option; of several values the last counts. -/
def value? (arguments : Arguments) (parameter : Parameter) : Option String :=
  arguments.options.foldl (fun found option =>
    match option with
    | .parameter other value => if other = parameter then some value else found
    | .switch _ => found) none

/-- The first option given that only asks for information. -/
def information? (arguments : Arguments) : Option Switch :=
  arguments.options.findSome? fun
    | .switch .version => some .version
    | .switch .help => some .help
    | _ => none

/-- The options with a value, in the order in which they are first given. -/
def parameters (arguments : Arguments) : List Parameter :=
  (arguments.options.filterMap fun
    | .parameter parameter _ => some parameter
    | .switch _ => none).eraseDups

/-- What is asked for, if it is not just information. -/
def request (arguments : Arguments) : Request where
  items := arguments.items
  dataDirectory := (arguments.value? .dataDirectory).map FilePath.ofText
  settingsFile := (arguments.value? .settingsFile).map FilePath.ofText
  asJson := arguments.has .json
  isVerbose := arguments.has .verbose

end Arguments

/-! ## Texts -/

/-- How the command is used. -/
def usage : String :=
  "Usage: pricebasket [OPTIONS] [ITEMS]...\n"

/-- The text about the command and its options. -/
def help : String :=
  usage ++
  "\n" ++
  "  Price a basket of ITEMS against the catalog and the special offers.\n" ++
  "\n" ++
  "Options:\n" ++
  "  --data-dir DIRECTORY  Directory holding catalog.list and offers.list\n" ++
  "  -c, --config FILE     Path to configuration file\n" ++
  "  --json                Print the receipt as JSON\n" ++
  "  -v, --verbose         Enable debug logging\n" ++
  "  --version             Show the version and exit.\n" ++
  "  --help                Show this message and exit.\n"

/-- The name and version of the command. -/
def version : String :=
  "pricebasket, version 0.1.0\n"

namespace Misuse

/-- The similar names that are offered instead of an unknown one, several of them in order. -/
def suggestion : List String → String
  | [] => ""
  | [name] => " Did you mean " ++ name ++ "?"
  | names =>
    let sorted := names.mergeSort fun first second => decide (first ≤ second)
    " (Possible options: " ++ ", ".intercalate sorted ++ ")"

/-- A path between quotes, as far as its bytes are characters. -/
def quotedPath (path : String) : String :=
  Text.quoted (Folder.legible path)

/-- What is wrong with the arguments. -/
def message : Misuse → String
  | .unknownOption name similar => "No such option: " ++ name ++ suggestion similar
  | .missingValue name => "Option '" ++ name ++ "' requires an argument."
  | .unexpectedValue name => "Option '" ++ name ++ "' does not take a value."
  | .noSuchFile path =>
    "Invalid value for '--config' / '-c': File " ++ quotedPath path ++ " does not exist."
  | .fileIsDirectory path =>
    "Invalid value for '--config' / '-c': File " ++ quotedPath path ++ " is a directory."
  | .directoryIsFile path =>
    "Invalid value for '--data-dir': Directory " ++ quotedPath path ++ " is a file."

/-- Whether the usage of the command is told as well. -/
def showsUsage : Misuse → Bool
  | .missingValue _ => false
  | .unexpectedValue _ => false
  | _ => true

/-- The whole text that is printed. -/
def text (misuse : Misuse) : String :=
  (if misuse.showsUsage then usage ++ "Try 'pricebasket --help' for help.\n\n" else "") ++
    "Error: " ++ misuse.message ++ "\n"

end Misuse

/-! ## Checking the options -/

/-- What stands where the text of an option leads to.  A slash at the end asks for a directory, and
nothing stands where too long a path or name leads to. -/
def nodeAt (tree : FileTree) (current : List String) (text : String) :
    Except Fault (Option FileNode) :=
  match FileTree.nameObstacle? text with
  | some obstacle => .error obstacle.fault
  | none =>
    if text.isEmpty || FileTree.longestPath < FileTree.nameSize text then .ok none
    else
      match tree.find? current (FilePath.ofText text) with
      | some (.file content) =>
        .ok (if text.endsWith "/" || text.endsWith "/." then none else some (.file content))
      | found => .ok found

/-- What is wrong with the value of an option, given what stands where it leads to. -/
def misuseOf? (parameter : Parameter) (text : String) (node : Option FileNode) : Option Misuse :=
  match parameter, node with
  | .dataDirectory, some (.file _) => some (.directoryIsFile text)
  | .dataDirectory, _ => none
  | .settingsFile, none => some (.noSuchFile text)
  | .settingsFile, some .directory => some (.fileIsDirectory text)
  | .settingsFile, some (.file _) => none

/-- What is first found wrong with the values of options, which are checked against the files in the
order in which they are given. -/
def findMisuse (tree : FileTree) (current : List String) (arguments : Arguments) :
    List Parameter → Except Fault (Option Misuse)
  | [] => .ok none
  | parameter :: rest => do
    let misuse? ←
      match arguments.value? parameter with
      | some text => (nodeAt tree current text).map (misuseOf? parameter text)
      | none => .ok none
    match misuse? with
    | some misuse => .ok (some misuse)
    | none => findMisuse tree current arguments rest

/-! ## Reading -/

/-- What arguments come to among some files. -/
def ask (tree : FileTree) (current : List String) (arguments : List String) :
    Except Fault Reading := do
  match Arguments.read arguments with
  | .error misuse => .ok (.misuse (Text.escapeHalves misuse.text))
  | .ok arguments =>
    match arguments.information? with
    | some .version => .ok (.information version)
    | some _ => .ok (.information help)
    | none =>
      match ← findMisuse tree current arguments arguments.parameters with
      | some misuse => .ok (.misuse (Text.escapeHalves misuse.text))
      | none => .ok (.request arguments.request)

end Checkout.Command
