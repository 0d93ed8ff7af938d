import Checkout.Proofs.Catalog.Reading
import Checkout.Proofs.LineEnds
import Checkout.Proofs.Money.Shown
import Checkout.Proofs.Text.Spacing

/-!
# Catalogs that are written again

A catalog that was read can be written as a file again: one line for each entry, the name of the
item and the price as it was read, sign and all.  That file is read to the same catalog.  Each of
its lines is the entry it was written for, since names are normalized already and prices have two
decimals.  None of them is a comment: the row that an entry was read from begins with no number
sign, and no other character has one in its upper case.
-/

namespace Checkout

open Text (words unwords IsWord)
open Text.Case (upper upperChar)
open DataFile (IsData IsLine LineEnd rows splitLines written)

namespace DataFile

/-! ## How data begins -/

/-- A text begins with a character that is neither a blank nor a number sign. -/
def StartsData (text : List Char) : Prop :=
  ∃ c rest, text = c :: rest ∧ Text.isBlank c = false ∧ c ≠ '#'

theorem StartsData.ne_nil {text : List Char} (starts : StartsData text) : text ≠ [] := by
  obtain ⟨c, rest, rfl, _⟩ := starts
  exact List.cons_ne_nil c rest

theorem StartsData.append {text : List Char} (starts : StartsData text) (rest : List Char) :
    StartsData (text ++ rest) := by
  obtain ⟨c, behind, rfl, notBlank, noSign⟩ := starts
  exact ⟨c, behind ++ rest, rfl, notBlank, noSign⟩

theorem StartsData.isData {text : List Char} (starts : StartsData text) : IsData text := by
  obtain ⟨c, rest, rfl, notBlank, noSign⟩ := starts
  obtain ⟨kept, trimmed⟩ := Text.exists_trim_cons notBlank rest
  rw [IsData, trimmed]
  refine ⟨List.cons_ne_nil c kept, ?_⟩
  unfold isComment
  split
  · rename_i same
    exact absurd (List.cons.inj same).1 noSign
  · rfl

theorem startsData_trim {text : List Char} (isData : IsData text) :
    StartsData (Text.trim text) := by
  obtain ⟨notEmpty, noComment⟩ := isData
  obtain ⟨c, rest, trimmed, notBlank⟩ := (Text.trim_cases text).resolve_left notEmpty
  refine ⟨c, rest, trimmed, notBlank, ?_⟩
  rintro rfl
  rw [trimmed] at noComment
  cases noComment

theorem startsData_of_mem_rows {texts : List (List Char)} {row : List Char}
    (isRow : row ∈ rows texts) : StartsData row := by
  obtain ⟨raw, isIn, rfl⟩ := List.mem_map.mp isRow
  exact startsData_trim (of_decide_eq_true (List.mem_filter.mp isIn).2)

/-- A text that begins so has a first word that begins so. -/
theorem StartsData.firstWord {text word : List Char} {others : List (List Char)}
    (starts : StartsData text) (divided : words text = word :: others) : StartsData word := by
  obtain ⟨c, rest, rfl, notBlank, noSign⟩ := starts
  rw [Text.words_eq_cons notBlank, List.cons.injEq, Text.firstWord_cons notBlank] at divided
  exact ⟨c, Text.firstWord rest, divided.1.symm, notBlank, noSign⟩

theorem isClass_numberSign : Text.Case.IsClass ['#'] id :=
  .of_check (by decide +kernel) (by decide +kernel)

/-- Nothing but a number sign is one in upper case. -/
theorem StartsData.upper {text : List Char} (starts : StartsData text) :
    StartsData (upper text) := by
  obtain ⟨c, rest, rfl, notBlank, noSign⟩ := starts
  obtain ⟨x, others, isUpper⟩ := List.exists_cons_of_ne_nil (Text.Case.upperChar_ne_nil c)
  have isForm : x ∈ upperChar c := isUpper ▸ List.mem_cons_self
  refine ⟨x, others ++ Text.Case.upper rest, ?_, ?_, ?_⟩
  · rw [Text.Case.upper_cons, isUpper, List.cons_append]
  · rw [Bool.eq_false_iff] at notBlank ⊢
    exact mt (Text.Case.isBlank_of_mem_upperChar isForm) notBlank
  · rintro rfl
    exact noSign (List.mem_singleton.mp
      (isClass_numberSign.mem_of_mem_upperChar isForm List.mem_cons_self))

end DataFile

namespace Catalog

/-! ## Lines of entries -/

/-- The line that an entry is written as. -/
def entryLine (entry : ItemId × Decimal) : String :=
  entry.1.name ++ " " ++ entry.2.toText

/-- The lines that a catalog is written as. -/
def lines (catalog : Catalog) : List (List Char) :=
  catalog.entries.map fun entry => (entryLine entry).toList

/-- The words of the line of an entry. -/
def entryWords (entry : ItemId × Decimal) : List (List Char) :=
  words entry.1.name.toList ++ [entry.2.write]

theorem toList_entryLine (entry : ItemId × Decimal) :
    (entryLine entry).toList = unwords (entryWords entry) := by
  rw [entryLine, entryWords, Decimal.toText, ← entry.1.ofList_unwords_words_append,
    String.toList_ofList]

/-- A price that is read is written as a word of which it is read again. -/
theorem Prices.write {word : List Char} {price : Decimal} (prices : Prices word price) :
    IsWord price.write ∧ Prices price.write price := by
  obtain ⟨literal, units, _, _, _, small, shape⟩ := Money.read?_eq_some_iff.mp prices.1
  have readBack : Money.read? price.write = some price := by
    rw [shape]
    exact Money.read?_write literal.negative small
  have isWord : IsWord price.write := by
    rw [shape]
    exact Money.isWord_write literal.negative units
  exact ⟨isWord, readBack, prices.2⟩

/-- What the line of an entry has to be to stand for it in a file. -/
structure IsLineOf (line : List Char) (entry : ItemId × Decimal) : Prop where
  isLine : IsLine line
  startsData : DataFile.StartsData line
  isEntry : IsEntry line entry

theorem isLineOf_entryLine {row : List Char} {entry : ItemId × Decimal}
    (starts : DataFile.StartsData row) (isEntry : IsEntry row entry) :
    IsLineOf (entryLine entry).toList entry := by
  obtain ⟨name, word, divided, named, prices, names⟩ := isEntry
  obtain ⟨isPrice, readBack⟩ := prices.write
  have areWords : ∀ part ∈ entryWords entry, IsWord part := by
    rw [entryWords, List.forall_mem_append, List.forall_mem_singleton]
    exact ⟨fun _ => Text.isWord_of_mem_words, isPrice⟩
  rw [toList_entryLine]
  refine ⟨⟨?_, ?_⟩, ?_, ?_⟩
  · exact Text.not_mem_unwords areWords (by decide) (by decide)
  · exact Text.not_mem_unwords areWords (by decide) (by decide)
  · have inRow : ∀ part ∈ name, IsWord part := by
      intro part isIn
      have isPart : part ∈ words row := by simp [divided, isIn]
      exact Text.isWord_of_mem_words isPart
    have upperName : words entry.1.name.toList = name.map upper :=
      ItemId.words_name_of_normalizeName inRow names
    obtain ⟨first, others, rfl⟩ := List.exists_cons_of_ne_nil named
    rw [entryWords, upperName, List.map_cons, List.cons_append, Text.unwords_cons (by simp)]
    exact (starts.firstWord divided).upper.append _
  · exact ⟨words entry.1.name.toList, entry.2.write, Text.words_unwords areWords,
      entry.1.words_name_ne_nil, readBack, entry.1.normalizeName_unwords_words_name⟩

/-- The line of an entry of a catalog that is read stands for that entry. -/
theorem isLineOf_of_ofText {source : Option String} {text : String} {catalog : Catalog}
    (read : (ofText source text).outcome = .ok catalog) {entry : ItemId × Decimal}
    (isIn : entry ∈ catalog.entries) : IsLineOf (entryLine entry).toList entry := by
  rcases ofLines_cases source (splitLines text.toList) with
    ⟨known, isRead, areEntries, _⟩ | ⟨_, _, _, _, _, _, _, _, _, _, refused⟩
  · cases isRead.symm.trans read
    obtain ⟨row, isRow, isEntry⟩ := DataFile.exists_row_of_mem areEntries isIn
    exact isLineOf_entryLine (DataFile.startsData_of_mem_rows isRow) isEntry
  · cases refused.symm.trans read

/-! ## Reading again -/

/-- Rows that are entries of different items are read. -/
theorem exists_ofLines_of_areEntries {texts : List (List Char)}
    {entries : List (ItemId × Decimal)} (areEntries : AreEntries (rows texts) entries)
    (source : Option String) :
    ∃ catalog, (ofLines source (DataFile.number texts)).outcome = .ok catalog ∧
      catalog.entries = entries := by
  rcases ofLines_cases source texts with
    ⟨catalog, read, areRead⟩ | ⟨earlier, raw, later, known, defect, kind, whole, isData, areKnown,
      isDefect, _⟩
  · exact ⟨catalog, read, isEntry_rightUnique.forall₂ areRead.1 areEntries.1⟩
  · rw [whole, DataFile.rows_append, DataFile.rows_cons_of_isData isData] at areEntries
    exact absurd isDefect (areEntries.not_isDefect areKnown)

/-- A catalog is its entries. -/
theorem eq_of_entries_eq {first second : Catalog} (same : first.entries = second.entries) :
    first = second := by
  cases first
  cases second
  simp_all

theorem forall₂_isEntry_rows {texts : List (List Char)} {entries : List (ItemId × Decimal)}
    (each : List.Forall₂ IsLineOf texts entries) : List.Forall₂ IsEntry (rows texts) entries := by
  induction each with
  | nil => exact .nil
  | cons isLineOf _ ih =>
    obtain ⟨name, word, divided, named⟩ := isLineOf.isEntry
    rw [DataFile.rows_cons_of_isData isLineOf.startsData.isData]
    exact .cons ⟨name, word, by rw [Text.words_trim, divided], named⟩ ih

/-- A catalog that is read from a text is written with a line for every entry, in the order of the
catalog.  Each of these lines is a line of data and the entry that it was written for.  Whatever
ends them, and with or without the last line end, they are read to the same catalog. -/
theorem ofText_lines_of_ofText {source : Option String} {text : String} {catalog : Catalog}
    (read : (ofText source text).outcome = .ok catalog) (again : Option String)
    (ending : LineEnd) :
    List.Forall₂ IsLineOf catalog.lines catalog.entries ∧
    (ofText again (String.ofList (written ending catalog.lines))).outcome = .ok catalog ∧
    ∀ short, short ++ ending.chars = written ending catalog.lines →
      (ofText again (String.ofList short)).outcome = .ok catalog := by
  have each : List.Forall₂ IsLineOf catalog.lines catalog.entries := by
    rw [lines, List.forall₂_map_left_iff, List.forall₂_same]
    exact fun _ => isLineOf_of_ofText read
  have areLines : ∀ line ∈ catalog.lines, IsLine line ∧ line ≠ [] := by
    rw [lines, List.forall_mem_map]
    intro entry isIn
    have isLineOf := isLineOf_of_ofText read isIn
    exact ⟨isLineOf.isLine, isLineOf.startsData.ne_nil⟩
  have readLines : (ofLines again (DataFile.number catalog.lines)).outcome = .ok catalog := by
    obtain ⟨known, isRead, same⟩ :=
      exists_ofLines_of_areEntries ⟨forall₂_isEntry_rows each, catalog.distinct⟩ again
    rw [isRead, eq_of_entries_eq same]
  refine ⟨each, ?_, ?_⟩
  · rw [ofText, String.toList_ofList, DataFile.linesOf,
      DataFile.splitLines_written ending fun line isIn => (areLines line isIn).1, readLines]
  · intro short dropped
    have lastLine : catalog.lines.getLast? ≠ some [] := fun isLast =>
      (areLines [] (List.mem_of_getLast? isLast)).2 rfl
    rw [ofText, String.toList_ofList, DataFile.linesOf,
      DataFile.splitLines_of_append_chars (fun line isIn => (areLines line isIn).1) dropped,
      DataFile.withoutLastEnd, if_neg lastLine, readLines]

/-- A price of zero keeps its sign, and a number sign inside a name makes no comment. -/
theorem ofText_lines_of_ofText_fruit :
    ∃ catalog, (ofText none "# Fruit\n\n  no #1   apples -0\r\nstraße .5").outcome = .ok catalog ∧
      String.ofList (written .lineFeed catalog.lines) = "NO #1 APPLES -0.00\nSTRASSE 0.50\n" ∧
      (ofText none "NO #1 APPLES -0.00\nSTRASSE 0.50\n").outcome = .ok catalog := by
  let apples : ItemId := ⟨"NO #1 APPLES", ⟨"no #1 apples", by decide +kernel⟩, by decide⟩
  let street : ItemId := ⟨"STRASSE", ⟨"straße", by decide +kernel⟩, by decide⟩
  let catalog : Catalog :=
    ⟨[(apples, .finite true 0 (-2)), (street, .finite false 50 (-2))], by decide, by decide⟩
  have read : (ofText none "# Fruit\n\n  no #1   apples -0\r\nstraße .5").outcome =
      .ok catalog := rfl
  have isWritten : String.ofList (written .lineFeed catalog.lines) =
      "NO #1 APPLES -0.00\nSTRASSE 0.50\n" := by decide +kernel
  obtain ⟨_, again, _⟩ := ofText_lines_of_ofText read none .lineFeed
  exact ⟨catalog, read, isWritten, isWritten ▸ again⟩

end Catalog

end Checkout
