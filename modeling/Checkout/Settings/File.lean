import Checkout.Folder.Visit
import Checkout.Json.Reader
import Checkout.Settings.Basic

/-!
# Settings files

A settings file is YAML or JSON, as its suffix tells, and holds a mapping that is put over the
defaults.  Where no file is named, the nearest one is taken: the current directory is searched
first, then the directories around it, and in each the names are tried in order.

YAML is read by a loader that is brought along.  Nothing is asked of it but that it depends on
nothing except the content of the file.
-/

namespace Checkout.Settings

/-! ## One file -/

/-- The formats of settings files. -/
inductive Format
  | yaml
  | json
  deriving DecidableEq

/-- The format that a suffix stands for. -/
def Format.ofSuffix? (suffix : String) : Option Format :=
  if suffix = ".yaml" ∨ suffix = ".yml" then some .yaml
  else if suffix = ".json" then some .json
  else none

/-- Why the content of a file gives no document. -/
inductive Illegible
  /-- The content is not in its format. -/
  | malformed
  /-- Reading it ends with a fault. -/
  | fault (fault : Fault)

/-- Why a text that is not read gives no document. -/
def Illegible.ofUnreadable : Unreadable → Illegible
  | .malformed => .malformed
  | .tooLong digits => .fault (.tooLong digits)
  | .noDigits base => .fault (.noNumber base "")
  | .noCharacter => .fault (.unusable "chr() arg not in range(0x110000)")
  | .outOfRange => .fault .outOfRange
  | .tooDeep => .fault .tooDeep
  | .undecodable => .fault .undecodable

/-- The fault of a file that gives no document. -/
def Illegible.faultAt (path : FilePath) : Illegible → Fault
  | .malformed => .problem (.settings (.unreadable path.toText))
  | .fault cause => cause

/-- A reader of YAML, which makes a document of the content of a file. -/
abbrev Loader :=
  ByteArray → Except Illegible Value

/-- The document that a file of JSON holds. -/
def readJson (content : ByteArray) : Except Illegible Value :=
  match FileTree.textOf? content with
  | some text => (Json.read text.toList).mapError .ofUnreadable
  | none => .error (.ofUnreadable .undecodable)

/-- The document that a file of a format holds.  A YAML document that counts as absent is an empty
mapping. -/
def Format.read (load : Loader) (format : Format) (content : ByteArray) :
    Except Illegible Value :=
  match format with
  | .yaml => do
    let value ← load content
    .ok (if value.isEmpty then .mapping [] else value)
  | .json => readJson content

/-- The settings that a document from a file gives: the defaults with it put over them, if it is a
mapping. -/
def ofDocument (path : FilePath) (document : Value) : Except Fault Settings :=
  match document with
  | .mapping tree => .ok (ofTree tree (some path))
  | _ => .error (.problem (.settings (.notAMapping path.toText)))

/-- The settings that a file in a format gives. -/
def ofContent (load : Loader) (path : FilePath) (format : Format) (content : ByteArray) :
    Except Fault Settings := do
  let document ← (format.read load content).mapError (Illegible.faultAt path)
  ofDocument path document

/-- The settings that a node of a tree of files gives. -/
def ofNode (load : Loader) (path : FilePath) (node : FileNode) : Except Fault Settings :=
  match node with
  | .directory => .error .isDirectory
  | .file content =>
    match Format.ofSuffix? path.suffix with
    | none => .error (.problem (.settings (.unsupportedFormat path.suffix path.toText)))
    | some format => ofContent load path format content

/-- The settings that a file gives. -/
def ofFile (load : Loader) (tree : FileTree) (current : List String) (path : FilePath) :
    Except Fault Settings := do
  match ← tree.look current path with
  | none => .error (.problem (.settings (.notFound path.toText)))
  | some node => ofNode load path node

/-! ## Searching -/

/-- The names of settings files, in the order in which they are tried. -/
def fileNames : List String :=
  [".pricebasket.yml", ".pricebasket.yaml", "pricebasket.yml", "pricebasket.yaml"]

/-- The place that a path names from a current directory, whatever stands on the way. -/
def resolve (current : List String) (path : FilePath) : List String :=
  path.parts.foldl FileTree.next (if path.isAbsolute then [] else current)

/-- A place and all directories around it, the innermost first. -/
def outward (place : List String) : List (List String) :=
  (List.range (place.length + 1)).map fun count => place.take (place.length - count)

/-- The places where settings files are looked for, in order. -/
def candidates (start : List String) : List (List String) :=
  (outward start).flatMap fun directory => fileNames.map fun name => directory ++ [name]

/-- The first of some paths that leads to a file. -/
def firstFile (tree : FileTree) : List FilePath → Except Fault (Option FilePath)
  | [] => .ok none
  | path :: rest => do
    match ← tree.look [] path with
    | some (.file _) => .ok (some path)
    | _ => firstFile tree rest

/-- The nearest settings file. -/
def search (tree : FileTree) (start : List String) : Except Fault (Option FilePath) :=
  firstFile tree ((candidates start).map fun place => ⟨"/", place⟩)

/-- The settings of the nearest settings file; the defaults where there is none. -/
def nearest (load : Loader) (tree : FileTree) (current : List String) (start : FilePath) :
    Except Fault Settings := do
  let place ←
    match start.parts.findSome? FileTree.nameObstacle? with
    | none => .ok (resolve current start)
    | some obstacle => .error obstacle.fault
  match ← search tree place with
  | some path => ofFile load tree current path
  | none => .ok (ofTree [])

end Checkout.Settings
