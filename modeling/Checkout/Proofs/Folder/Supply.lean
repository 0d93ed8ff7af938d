import Checkout.Folder.Reader
import Checkout.Proofs.Catalog.Reading
import Checkout.Proofs.LineEnds

/-!
# Supplies of data

The data of a shop are supplied as lines, as a text, or as a file of the data folder.  A text
supplies the lines that it is divided into, and so does every file that holds the text: reading the
file turns its line ends into line feeds, which the division does not see.

Whatever is made of the lines is then made of the text and of the file.  What differs is the name of
the source, which stands with a defect and changes neither the defect nor its line.
-/

namespace Checkout

/-- Two outcomes are the same, or a defect is told of the same line with two sources. -/
inductive SameButSource {Result : Type} : Except Fault Result → Except Fault Result → Prop
  | same (outcome : Except Fault Result) : SameButSource outcome outcome
  | refused (defect : Defect) (line : Nat) (first second : Option String) :
      SameButSource (.error (.problem (.corruptData ⟨defect, line, first⟩)))
        (.error (.problem (.corruptData ⟨defect, line, second⟩)))

namespace SameButSource

variable {First Second : Type}

/-- What follows a result follows it for every source. -/
theorem bind {one other : Except Fault First} (alike : SameButSource one other)
    {next next' : First → Except Fault Second}
    (follow : ∀ value, SameButSource (next value) (next' value)) :
    SameButSource (one.bind next) (other.bind next') := by
  cases alike with
  | same =>
    cases one with
    | error fault => exact .same _
    | ok value => exact follow value
  | refused defect line first second => exact .refused defect line first second

end SameButSource

/-! ## Lines with two sources -/

namespace Catalog

theorem addLines_sameButSource (first second : Option String) (catalog : Catalog)
    (lines : List DataFile.Line) :
    SameButSource (catalog.addLines first lines).outcome
      (catalog.addLines second lines).outcome := by
  induction lines generalizing catalog with
  | nil => exact .same _
  | cons line rest ih =>
    cases added : catalog.addLine line with
    | error defect =>
      rw [addLines_cons_of_error added, addLines_cons_of_error added]
      exact .refused defect line.number first second
    | ok entry =>
      obtain ⟨item, price, extended⟩ := entry
      rw [addLines_cons_of_ok added, addLines_cons_of_ok added]
      exact ih extended

theorem ofLines_sameButSource (first second : Option String) (lines : List DataFile.Line) :
    SameButSource (ofLines first lines).outcome (ofLines second lines).outcome :=
  addLines_sameButSource first second empty (DataFile.dataLines lines)

end Catalog

namespace Offer.Book

variable (parsers : List Parser) (catalog : Catalog)

theorem readLines_sameButSource (first second : Option String) (lines : List DataFile.Line) :
    SameButSource (readLines parsers catalog first lines).outcome
      (readLines parsers catalog second lines).outcome := by
  induction lines with
  | nil => exact .same _
  | cons line rest ih =>
    simp only [readLines, Logged.outcome_bind]
    refine .bind (.same _) fun found => ?_
    cases onlyReading line.text found with
    | error defect => exact .refused defect line.number first second
    | ok reading =>
      simp only [Logged.outcome_bind]
      exact .bind (.same _) fun description => .bind (.same _) fun _ => .bind ih fun _ => .same _

theorem ofLines_sameButSource (first second : Option String) (lines : List DataFile.Line) :
    SameButSource (ofLines parsers catalog first lines).outcome
      (ofLines parsers catalog second lines).outcome := by
  simp only [ofLines, Logged.outcome_bind]
  exact .bind (readLines_sameButSource parsers catalog first second _) fun rules => .same _

end Offer.Book

/-! ## Files -/

namespace FileTree

/-- The characters that are written into a file are read from it. -/
theorem contentOf?_toUTF8 (characters : String) :
    contentOf? characters.toUTF8 = some (Text.spelled characters) := by
  have decoded : String.fromUTF8? characters.toUTF8 = some characters :=
    dif_pos characters.isValidUTF8
  rw [contentOf?, decoded, Option.map_some]

theorem readNode_toUTF8 (characters : String) :
    readNode (.file characters.toUTF8) =
      .ok (String.ofList (unifyLineEnds (Text.spelled characters).toList)) := by
  have content : textOf? characters.toUTF8 =
      some (String.ofList (unifyLineEnds (Text.spelled characters).toList)) := by
    rw [textOf?, contentOf?_toUTF8, Option.map_some]
  rw [readNode, content]

end FileTree

namespace DataFolder

open DataFile (Line linesOf splitLines)

/-- A file of the folder holds a text: its bytes are those of the characters that spell the text. -/
def Holds (folder : DataFolder) (current : List String) (tree : FileTree) (name text : String) :
    Prop :=
  ∃ characters : String, Text.spelled characters = text ∧
    tree.look current (folder.pathOf name) = .ok (some (.file characters.toUTF8))

/-- A file of the folder is read as some lines: these are its lines, and catalogs and books of
offers are made of the file as they are of the lines. -/
structure ReadsAs (folder : DataFolder) (current : List String) (tree : FileTree) (name : String)
    (lines : List Line) : Prop where
  isRead : (folder.readLines current tree name).logged.outcome = .ok lines
  catalog : ∀ source, SameButSource (folder.readCatalog current tree name).logged.outcome
    (Catalog.ofLines source lines).outcome
  offers : ∀ parsers catalog source,
    SameButSource (folder.readOffers current tree parsers catalog name).logged.outcome
      (Offer.Book.ofLines parsers catalog source lines).outcome

variable {folder : DataFolder} {current : List String} {tree : FileTree} {name text : String}

theorem outcome_read {node : FileNode}
    (found : tree.look current (folder.pathOf name) = .ok (some node)) :
    (folder.read current tree name).logged.outcome = FileTree.readNode node := by
  unfold DataFolder.read
  dsimp only
  simp only [found]

/-- The lines of a file are the lines of the text that it holds. -/
theorem Holds.outcome_readLines (holds : folder.Holds current tree name text) :
    (folder.readLines current tree name).logged.outcome = .ok (linesOf text.toList) := by
  obtain ⟨characters, rfl, found⟩ := holds
  simp only [readLines, Visit.map, Logged.outcome_andThen, outcome_read found,
    FileTree.readNode_toUTF8, Except.bind, Logged.outcome_pure, linesOf, String.toList_ofList,
    DataFile.splitLines_unifyLineEnds]

theorem outcome_readCatalog {lines : List Line}
    (isRead : (folder.readLines current tree name).logged.outcome = .ok lines) :
    (folder.readCatalog current tree name).logged.outcome =
      (Catalog.ofLines (some name) lines).outcome := by
  simp only [readCatalog, Visit.map, Logged.outcome_andThen, isRead, Except.bind, catalogOf,
    Logged.outcome_bind, Logged.outcome_tell, Logged.outcome_pure]
  cases (Catalog.ofLines (some name) lines).outcome <;> rfl

theorem outcome_readOffers {lines : List Line}
    (isRead : (folder.readLines current tree name).logged.outcome = .ok lines)
    (parsers : List Parser) (catalog : Catalog) :
    (folder.readOffers current tree parsers catalog name).logged.outcome =
      (Offer.Book.ofLines parsers catalog (some name) lines).outcome := by
  simp only [readOffers, Visit.map, Logged.outcome_andThen, isRead, Except.bind, offersOf,
    Logged.outcome_bind, Logged.outcome_tell, Logged.outcome_pure]
  cases (Offer.Book.ofLines parsers catalog (some name) lines).outcome <;> rfl

theorem Holds.readsAs (holds : folder.Holds current tree name text) :
    folder.ReadsAs current tree name (linesOf text.toList) where
  isRead := holds.outcome_readLines
  catalog source := by
    rw [outcome_readCatalog holds.outcome_readLines]
    exact Catalog.ofLines_sameButSource (some name) source _
  offers parsers catalog source := by
    rw [outcome_readOffers holds.outcome_readLines]
    exact Offer.Book.ofLines_sameButSource parsers catalog (some name) source _

end DataFolder

/-! ## Texts -/

open DataFile (IsLine LineEnd Line linesOf number withoutLastEnd written)

/-- A text supplies some lines: it is divided into them, and catalogs and books of offers are made
of the text as they are of the lines, and of every file that holds the text. -/
structure Supplies (text : String) (lines : List Line) : Prop where
  isDivided : linesOf text.toList = lines
  catalog : ∀ source other,
    SameButSource (Catalog.ofText source text).outcome (Catalog.ofLines other lines).outcome
  offers : ∀ parsers catalog source other,
    SameButSource (Offer.Book.ofText parsers catalog source text).outcome
      (Offer.Book.ofLines parsers catalog other lines).outcome
  file : ∀ folder current tree name, DataFolder.Holds folder current tree name text →
    folder.ReadsAs current tree name lines

theorem supplies_of_linesOf_eq {text : String} {lines : List Line}
    (isDivided : linesOf text.toList = lines) : Supplies text lines where
  isDivided := isDivided
  catalog source other := by
    rw [Catalog.ofText, isDivided]
    exact Catalog.ofLines_sameButSource source other lines
  offers parsers catalog source other := by
    rw [Offer.Book.ofText, isDivided]
    exact Offer.Book.ofLines_sameButSource parsers catalog source other lines
  file folder current tree name holds := isDivided ▸ holds.readsAs

/-- Lines that are written with any line end are supplied by the text that they make, and also
without its last line end, but for an empty last line.  Any text supplies the same lines as with a
line feed for every line end, whatever line ends are mixed in it. -/
theorem supplies_agree :
    (∀ (ending : LineEnd) (texts : List (List Char)), (∀ text ∈ texts, IsLine text) →
      Supplies (String.ofList (written ending texts)) (number texts) ∧
      ∀ short, short ++ ending.chars = written ending texts →
        Supplies (String.ofList short) (number (withoutLastEnd texts))) ∧
    ∀ text : String, Supplies text (linesOf text.toList) ∧
      linesOf (FileTree.unifyLineEnds text.toList) = linesOf text.toList := by
  refine ⟨fun ending texts areLines => ⟨?_, fun short dropped => ?_⟩,
    fun text => ⟨supplies_of_linesOf_eq rfl, ?_⟩⟩
  · apply supplies_of_linesOf_eq
    rw [String.toList_ofList, linesOf, DataFile.splitLines_written ending areLines]
  · apply supplies_of_linesOf_eq
    rw [String.toList_ofList, linesOf, DataFile.splitLines_of_append_chars areLines dropped]
  · rw [linesOf, DataFile.splitLines_unifyLineEnds, linesOf]

/-- The lines of a file with the prices of some fruit, the last of which is none. -/
def fruitLines : List (List Char) :=
  ["# Fruit".toList, [], "Apples 1.00".toList, "Pears 0.5x".toList]

/-- The file itself, with pairs of carriage return and line feed, but none behind the last line. -/
def fruitText : String :=
  "# Fruit\r\n\r\nApples 1.00\r\nPears 0.5x"

def fruitTree : FileTree :=
  ⟨[(["catalog.list"], .file fruitText.toUTF8)]⟩

def fruitFolder : DataFolder where
  directory := ⟨"/", []⟩

/-- The file is read line by line, and the price of pears is told to be wrong. -/
theorem supplies_agree_fruit :
    fruitFolder.ReadsAs [] fruitTree "catalog.list" (number fruitLines) ∧
      (fruitFolder.readCatalog [] fruitTree "catalog.list").logged.outcome =
        .error (.problem (.corruptData ⟨.badPrice "0.5x", 4, some "catalog.list"⟩)) := by
  have place : fruitTree.placeOf [] (fruitFolder.pathOf "catalog.list") =
      .ok ["catalog.list"] := by decide +kernel
  have found : fruitTree.look [] (fruitFolder.pathOf "catalog.list") =
      .ok (some (.file fruitText.toUTF8)) := by
    rw [FileTree.look, place]
    rfl
  have holds : fruitFolder.Holds [] fruitTree "catalog.list" (String.ofList fruitText.toList) :=
    ⟨fruitText, by decide +kernel, found⟩
  have readsAs := ((supplies_agree.1 .both fruitLines (by decide)).2 fruitText.toList
    (by decide)).file _ _ _ _ holds
  refine ⟨readsAs, ?_⟩
  rw [DataFolder.outcome_readCatalog readsAs.isRead]
  rfl

end Checkout
