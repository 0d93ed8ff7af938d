import Checkout.Text.Split

/-!
# File paths

A path is a root and the names on the way.  Repeated slashes and single dots say nothing and are
left out; two dots are kept, since only the files themselves tell where they lead.
-/

namespace Checkout

/-- A path of a file or directory. -/
structure FilePath where
  /-- What the path begins with: nothing, one slash, or exactly two. -/
  root : String
  parts : List String
  deriving DecidableEq

namespace FilePath

/-- Whether the path does not depend on the current directory. -/
def isAbsolute (path : FilePath) : Bool :=
  !path.root.isEmpty

/-- The root that a text begins with.  More than two slashes are as good as one. -/
def rootOf : List Char → String
  | '/' :: '/' :: '/' :: _ => "/"
  | '/' :: '/' :: _ => "//"
  | '/' :: _ => "/"
  | _ => ""

/-- The path that a text writes. -/
def ofText (text : String) : FilePath where
  root := rootOf text.toList
  parts := (Text.pieces '/' text).filter fun part => part ≠ "" ∧ part ≠ "."

/-- The text of a path; the empty path is a single dot. -/
def toText (path : FilePath) : String :=
  if path.root.isEmpty && path.parts.isEmpty then "." else path.root ++ "/".intercalate path.parts

/-- The path that leads on from another.  An absolute path leaves the other behind. -/
def join (base path : FilePath) : FilePath :=
  if path.isAbsolute then path else { base with parts := base.parts ++ path.parts }

/-- The path without its last name. -/
def parent (path : FilePath) : FilePath :=
  { path with parts := path.parts.dropLast }

/-- The last name of the path. -/
def name (path : FilePath) : String :=
  path.parts.getLastD ""

/-- The end of a name from its last dot on.  A name has none if its only dot is its first or last
character. -/
def suffixOf (name : List Char) : List Char :=
  let ending := (name.reverse.takeWhile (· ≠ '.')).reverse
  if ending.isEmpty || name.length ≤ ending.length + 1 then [] else '.' :: ending

/-- The end of the last name from its last dot on. -/
def suffix (path : FilePath) : String :=
  String.ofList (suffixOf path.name.toList)

end FilePath

end Checkout
