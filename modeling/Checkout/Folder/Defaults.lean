import Checkout.Folder.Tree

/-!
# Default data files

Every data file of a new shop has a default.  The defaults are kept in a tree of their own, so that
the name of a default is looked up like the name of any other file.
-/

namespace Checkout.Folder

/-- The name of the catalog file. -/
def catalogName : String :=
  "catalog.list"

/-- The name of the offers file. -/
def offersName : String :=
  "offers.list"

/-- The catalog of a new shop. -/
def defaultCatalog : String :=
  "# Item catalog: one item per line, the item name followed by its unit price.\n" ++
  "# Item names are case insensitive and must be unique.\n" ++
  "Soup   0.65\n" ++
  "Bread  0.80\n" ++
  "Milk   1.30\n" ++
  "Apples 1.00\n"

/-- The offers of a new shop. -/
def defaultOffers : String :=
  "# Special offers: one rule per line.\n" ++
  "#\n" ++
  "#   ITEM DISCOUNT                       e.g. \"Apples 10%\" or \"Milk 0.20\"\n" ++
  "#   ITEM AMOUNT per COUNT REQUIRED      e.g. \"Bread 0.40 per 2 Soup\"\n" ++
  "Apples 10%\n" ++
  "Bread 0.40 per 2 Soup\n"

/-- The directory of the defaults.  It is known by its last two names only, and nothing else leads
to it from further out. -/
def defaultDirectory : List String :=
  ["", "pricebasket", "defaults"]

/-- The tree that holds the defaults. -/
def defaultTree : FileTree :=
  let empty : FileTree := ⟨[]⟩
  let named := empty.plant (defaultDirectory ++ [catalogName]) (.file defaultCatalog.toUTF8)
  named.plant (defaultDirectory ++ [offersName]) (.file defaultOffers.toUTF8)

/-- The default of a data file, if it has one. -/
def defaultOf? (name : String) : Except Fault (Option String) := do
  match ← defaultTree.look defaultDirectory (FilePath.ofText name) with
  | some (.file content) => .ok (FileTree.textOf? content)
  | _ => .ok none

end Checkout.Folder
