import Checkout.Catalog
import Checkout.Folder.Defaults
import Checkout.Folder.Visit
import Checkout.Offer.Book

/-!
# Reading the data folder

The data files of a shop are kept in one folder.  A file that is not there is replaced by its
default, which is also written into the folder unless the reader is told not to; a file that is
there is only ever read.
-/

namespace Checkout

/-- A folder of data files. -/
structure DataFolder where
  directory : FilePath
  /-- Whether defaults are written into the folder. -/
  createMissing : Bool := true

namespace DataFolder

/-- The name of the logger of data folders. -/
def logger : String :=
  "pricebasket.core.loader"

/-- The folder in a directory; where none is given, the current directory is meant. -/
def ofDirectory (current : List String) (directory : Option FilePath) (createMissing : Bool) :
    DataFolder :=
  ⟨directory.getD ⟨"/", current⟩, createMissing⟩

/-- The path of a data file. -/
def pathOf (folder : DataFolder) (name : String) : FilePath :=
  folder.directory.join (FilePath.ofText name)

/-- Writes a text into a file, in directories that are made where they are not there. -/
def createFile (tree : FileTree) (current : List String) (path : FilePath) (text : String) :
    Visit Unit :=
  (tree.makeDirectories current path.parent).andThen fun tree _ => tree.write current path text

/-- The fault of a data file that is neither there nor among the defaults. -/
def missing (folder : DataFolder) (name : String) : Fault :=
  .problem (.missingDataFile name (folder.pathOf name).toText)

/-- The default of a data file, which is put into the folder unless the reader is told not to. -/
def useDefault (folder : DataFolder) (current : List String) (tree : FileTree)
    (name text : String) : Visit String :=
  if folder.createMissing then
    let path := folder.pathOf name
    let announced : Visit Unit :=
      ⟨Logged.tell [.info logger ("Creating " ++ path.toText ++ " with default contents")], tree⟩
    (announced.andThen fun tree _ => createFile tree current path text).map fun _ => pure text
  else ⟨⟨[.debug logger ("Using packaged default for " ++ name)], .ok text⟩, tree⟩

/-- The text of a data file that is not there. -/
def readDefault (folder : DataFolder) (current : List String) (tree : FileTree) (name : String) :
    Visit String :=
  match Folder.defaultOf? name with
  | .error fault => Visit.ofOutcome tree (.error fault)
  | .ok none => Visit.ofOutcome tree (.error (folder.missing name))
  | .ok (some text) => folder.useDefault current tree name text

/-- The text of a data file. -/
def read (folder : DataFolder) (current : List String) (tree : FileTree) (name : String) :
    Visit String :=
  let path := folder.pathOf name
  match tree.look current path with
  | .error fault => Visit.ofOutcome tree (.error fault)
  | .ok (some node) =>
    let record := Journal.Record.debug logger ("Reading " ++ name ++ " from " ++ path.toText)
    ⟨⟨[record], FileTree.readNode node⟩, tree⟩
  | .ok none => folder.readDefault current tree name

/-- The numbered lines of a data file. -/
def readLines (folder : DataFolder) (current : List String) (tree : FileTree) (name : String) :
    Visit (List DataFile.Line) :=
  (folder.read current tree name).map fun text => pure (DataFile.linesOf text.toList)

/-- The catalog that the lines of a data file hold. -/
def catalogOf (name : String) (lines : List DataFile.Line) : Logged Catalog := do
  let catalog ← Catalog.ofLines (some name) lines
  Logged.tell [.info Catalog.logger ("Loaded " ++ Text.Numeral.text catalog.size ++
    " catalog entries from " ++ name)]
  pure catalog

/-- The book of offers that the lines of a data file hold. -/
def offersOf (parsers : List Parser) (catalog : Catalog) (name : String)
    (lines : List DataFile.Line) : Logged Offer.Book := do
  let book ← Offer.Book.ofLines parsers catalog (some name) lines
  Logged.tell [.info Offer.Book.logger ("Loaded " ++ Text.Numeral.text book.size ++
    " offer rules from " ++ name)]
  pure book

/-- The catalog that a data file holds. -/
def readCatalog (folder : DataFolder) (current : List String) (tree : FileTree) (name : String) :
    Visit Catalog :=
  (folder.readLines current tree name).map (catalogOf name)

/-- The book of offers that a data file holds. -/
def readOffers (folder : DataFolder) (current : List String) (tree : FileTree)
    (parsers : List Parser) (catalog : Catalog) (name : String) : Visit Offer.Book :=
  (folder.readLines current tree name).map (offersOf parsers catalog name)

end DataFolder

end Checkout
