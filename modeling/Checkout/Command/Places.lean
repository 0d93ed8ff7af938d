import Checkout.Command.Arguments
import Checkout.Command.Run

/-!
# The places that a run looks at

Only a few places of all files matter to a run: those of settings files, those that options name,
and those of the data files.  The last are known only once the settings are, so they are told from
a tree that holds the first.
-/

namespace Checkout.Command

/-- The places on the way to a place, the outermost first, and the place itself. -/
def wayTo (place : List String) : List (List String) :=
  FileTree.directoriesTo place ++ [place]

/-- The places of settings files and of what the options name. -/
def settingsPlaces (current : List String) (arguments : Arguments) : List (List String) :=
  let named := arguments.parameters.filterMap fun parameter =>
    (arguments.value? parameter).map fun path => Settings.resolve current (FilePath.ofText path)
  (Settings.candidates current ++ named).flatMap wayTo

/-- The places of the data files that the settings name. -/
def dataPlaces (current : List String) (settings : Mapping) : List (List String) :=
  match folderOf settings with
  | .error _ => []
  | .ok folder =>
    (["data.catalog_file", "data.offers_file"].filterMap fun setting =>
      (fileName settings setting).toOption.map fun name =>
        wayTo (Settings.resolve current (folder.pathOf name))).flatten

/-- The places of the data files of a run for a request. -/
def placesOf (surroundings : Surroundings) (request : Request) : List (List String) :=
  match settingsOf surroundings request with
  | .error _ => []
  | .ok settings => dataPlaces surroundings.current settings

/-- What a tree has that another has not, and what it has changed. -/
def changes (old new : FileTree) : List (List String × FileNode) :=
  new.nodes.filter fun entry => old.at? entry.1 ≠ some entry.2

end Checkout.Command
