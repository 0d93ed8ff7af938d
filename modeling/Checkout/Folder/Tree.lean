import Checkout.Entries
import Checkout.Folder.Name
import Checkout.Folder.Path
import Checkout.Problem

/-!
# Trees of files

A tree of files holds directories and files with their bytes, each at its place: the names on the
way from the top.  Looking a path up walks along its names from the current directory; two dots
lead back.  Nothing but a directory can be passed through.
-/

namespace Checkout

/-- What stands at a place of a tree. -/
inductive FileNode
  | file (content : ByteArray)
  | directory

instance : DecidableEq FileNode
  | .file first, .file second =>
    match ByteArray.instDecidableEq first second with
    | isTrue same => isTrue (congrArg FileNode.file same)
    | isFalse different => isFalse fun equal => different (FileNode.file.inj equal)
  | .directory, .directory => isTrue rfl
  | .file _, .directory => isFalse nofun
  | .directory, .file _ => isFalse nofun

/-- The files and directories below the top of a tree, by their places. -/
structure FileTree where
  nodes : List (List String × FileNode)

namespace FileTree

/-- What stands at a place.  The top is a directory. -/
def at? (tree : FileTree) (place : List String) : Option FileNode :=
  if place.isEmpty then some .directory else Entries.get? place tree.nodes

/-- The tree with something at a place. -/
def put (tree : FileTree) (place : List String) (node : FileNode) : FileTree :=
  ⟨Entries.put place node tree.nodes⟩

/-- The directories on the way to a place, the outermost first. -/
def directoriesTo (place : List String) : List (List String) :=
  (List.range place.length).filterMap fun count =>
    if count = 0 then none else some (place.take count)

/-- The tree with something where names lead to and all directories on the way. -/
def plant (tree : FileTree) (names : List String) (node : FileNode) : FileTree :=
  let place := names.map Folder.canonical
  let directories := (directoriesTo place).foldl (fun tree directory =>
    if (tree.at? directory).isSome then tree else tree.put directory .directory) tree
  directories.put place node

/-- Why a walk does not reach its end. -/
inductive Obstacle
  /-- Nothing stands on the way where a directory should. -/
  | missing
  /-- A file stands on the way. -/
  | file
  /-- A name on the way, or the whole path, is longer than those of files can be. -/
  | tooLong
  /-- The path holds a character that no name holds. -/
  | unnameable
  /-- The path holds a half that has no bytes. -/
  | unencodable
  deriving DecidableEq

/-- The most bytes that the name of a file has. -/
def longestName : Nat :=
  255

/-- The most bytes that a path has. -/
def longestPath : Nat :=
  4095

/-- The place where one more name leads. -/
def next (place : List String) (part : String) : List String :=
  if part = ".." then place.dropLast else place ++ [Folder.canonical part]

/-- The number of bytes of a text that names something. -/
def nameSize (name : String) : Nat :=
  ((Folder.nameBytes? name).map ByteArray.size).getD 0

/-- Why a text names nothing at all, if it does not. -/
def nameObstacle? (name : String) : Option Obstacle :=
  if (Folder.nameBytes? name).isNone then some .unencodable
  else if name.toList.contains '\x00' then some .unnameable
  else none

/-- The place that names lead to, from a place on.  Each name is looked up in the directory that was
reached, and may not be too long there. -/
def walk (tree : FileTree) (place : List String) : List String → Except Obstacle (List String)
  | [] => .ok place
  | part :: rest =>
    match tree.at? place with
    | some .directory =>
      if longestName < nameSize part then .error .tooLong
      else walk tree (next place part) rest
    | some (.file _) => .error .file
    | none => .error .missing

/-- The place that a path leads to from a current directory. -/
def placeOf (tree : FileTree) (current : List String) (path : FilePath) :
    Except Obstacle (List String) :=
  match nameObstacle? path.toText with
  | some obstacle => .error obstacle
  | none =>
    if longestPath < nameSize path.toText then .error .tooLong
    else tree.walk (if path.isAbsolute then [] else current) path.parts

/-- What stands where a path leads to. -/
def find? (tree : FileTree) (current : List String) (path : FilePath) : Option FileNode :=
  (tree.placeOf current path).toOption.bind tree.at?

/-- What stands where a path leads to, if anything does.  It can not be told of a path that is too
long. -/
def look (tree : FileTree) (current : List String) (path : FilePath) :
    Except Fault (Option FileNode) :=
  match tree.placeOf current path with
  | .error .tooLong => .error .longName
  | .error _ => .ok none
  | .ok place => .ok (tree.at? place)

/-! ## Content -/

/-- The bytes of a text, unless it holds a half. -/
def bytesOf? (text : String) : Option ByteArray :=
  (Text.characters? text.toList).map fun characters => (String.ofList characters).toUTF8

/-- The text with a line feed for every line end. -/
def unifyLineEnds : List Char → List Char
  | [] => []
  | '\r' :: '\n' :: rest => '\n' :: unifyLineEnds rest
  | c :: rest => (if c = '\r' then '\n' else c) :: unifyLineEnds rest

/-- The text that bytes hold, as it stands there. -/
def contentOf? (content : ByteArray) : Option String :=
  (String.fromUTF8? content).map Text.spelled

/-- The text that bytes hold, with a line feed for every line end. -/
def textOf? (content : ByteArray) : Option String :=
  (contentOf? content).map fun text => String.ofList (unifyLineEnds text.toList)

/-- How many bytes of a file are decoded at once. -/
def block : Nat :=
  8192

/-- The characters in front of the block of a file that does not hold text, with a line feed for
every line end, and whether there is such a block. -/
def readable (content : ByteArray) : List Char × Bool :=
  let characters := Folder.charactersFrom content 0
  let reached := (characters.getLast?.map Prod.snd).getD 0
  let isCut := reached < content.size
  let bound := if isCut then reached / block * block else content.size
  (unifyLineEnds ((characters.takeWhile (·.2 ≤ bound)).map Prod.fst), isCut)

/-- The text of what stands at a place where something is read. -/
def readNode : FileNode → Except Fault String
  | .directory => .error .isDirectory
  | .file content =>
    match textOf? content with
    | some text => .ok text
    | none => .error .undecodable

end FileTree

end Checkout
