import Checkout.Folder.Tree
import Checkout.Journal.Record

/-!
# Visits to files

A visit works on a tree of files and may change it.  What it changed stays changed if the visit
fails later on.  Making directories goes from the last name of a path to its first until one is
there, and then makes them the other way round.
-/

namespace Checkout

/-- What came of working on files, and the tree of files after that. -/
structure Visit (Result : Type) where
  logged : Logged Result
  tree : FileTree

namespace Visit

variable {First Second : Type}

/-- A visit that changes nothing. -/
def ofOutcome (tree : FileTree) (outcome : Except Fault First) : Visit First :=
  ⟨Logged.ofOutcome outcome, tree⟩

/-- The visit with its result worked on, which does not touch the files. -/
def map (visit : Visit First) (work : First → Logged Second) : Visit Second :=
  ⟨visit.logged.andThen work, visit.tree⟩

/-- One visit after another, which starts from the files that the first leaves.  A fault of the
first ends both. -/
def andThen (visit : Visit First) (next : FileTree → First → Visit Second) : Visit Second :=
  match visit.logged.outcome with
  | .error fault => ⟨⟨visit.logged.records, .error fault⟩, visit.tree⟩
  | .ok value =>
    let second := next visit.tree value
    ⟨⟨visit.logged.records ++ second.logged.records, second.logged.outcome⟩, second.tree⟩

end Visit

namespace FileTree

/-! ## Writing -/

/-- The fault of a change that an obstacle prevents. -/
def Obstacle.fault : Obstacle → Fault
  | .missing => .notADirectory
  | .file => .notADirectory
  | .tooLong => .longName
  | .unnameable => .unusable "embedded null byte"
  | .unencodable => .unencodable

/-- Makes a directory at a place inside one that is there, unless it is there already. -/
def makeAt (tree : FileTree) (place : List String) : Visit Unit :=
  match tree.at? place with
  | some .directory => Visit.ofOutcome tree (.ok ())
  | some (.file _) => Visit.ofOutcome tree (.error .fileExists)
  | none => Visit.ofOutcome (tree.put place .directory) (.ok ())

/-- Makes a directory where a path leads to, inside one that is there. -/
def makeDirectory (tree : FileTree) (current : List String) (path : FilePath) : Visit Unit :=
  match tree.placeOf current path with
  | .error obstacle => Visit.ofOutcome tree (.error obstacle.fault)
  | .ok place => tree.makeAt place

/-- Makes directories along the names of a path, given last name first. -/
def makeDirectoriesAlong (tree : FileTree) (current : List String) (root : String) :
    List String → Visit Unit
  | [] => tree.makeDirectory current ⟨root, []⟩
  | part :: rest =>
    let path : FilePath := ⟨root, (part :: rest).reverse⟩
    match tree.placeOf current path with
    | .error .missing =>
      (tree.makeDirectoriesAlong current root rest).andThen fun tree _ =>
        tree.makeDirectory current path
    | _ => tree.makeDirectory current path

/-- Makes a directory where a path leads to, and all directories on the way. -/
def makeDirectories (tree : FileTree) (current : List String) (path : FilePath) : Visit Unit :=
  tree.makeDirectoriesAlong current path.root path.parts.reverse

/-- Writes a text into the file that a path leads to. -/
def write (tree : FileTree) (current : List String) (path : FilePath) (text : String) :
    Visit Unit :=
  match tree.placeOf current path with
  | .error obstacle => Visit.ofOutcome tree (.error obstacle.fault)
  | .ok place =>
    match tree.at? place, bytesOf? text with
    | some .directory, _ => Visit.ofOutcome tree (.error .isDirectory)
    | _, none => Visit.ofOutcome (tree.put place (.file .empty)) (.error .unencodable)
    | _, some content => Visit.ofOutcome (tree.put place (.file content)) (.ok ())

end FileTree

end Checkout
