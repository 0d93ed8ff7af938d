import Checkout.Proofs.Catalog.Entry
import Checkout.Proofs.DataFile

/-!
# Catalogs that are read

A catalog is read exactly when every row of its file is an entry and no item stands there twice.  It
then has these entries and no others, in the order of the rows.  Otherwise the first row that is not
an entry of a new item is told, with the number of its line.

Both follow from reading one row after another: what was read so far is a catalog of the rows so
far, and the next row adds its entry or ends the reading.
-/

namespace Checkout.Catalog

open DataFile (IsData Line rows dataLines numberFrom splitLines)

/-- The entries of some rows, with every item once. -/
def AreEntries (file : List (List Char)) (entries : List (ItemId × Decimal)) : Prop :=
  List.Forall₂ IsEntry file entries ∧ (entries.map Prod.fst).Nodup

/-- Where all rows are entries of different items, none of them is defective behind those in front
of it. -/
theorem AreEntries.not_isDefect {earlier later : List (List Char)} {row : List Char}
    {entries known : List (ItemId × Decimal)} {defect : Defect} {kind : Report.Kind}
    (areEntries : AreEntries (earlier ++ row :: later) entries)
    (areKnown : AreEntries earlier known) : ¬IsDefect (known.map Prod.fst) row defect kind := by
  intro isDefect
  obtain ⟨each, distinct⟩ := areEntries
  obtain ⟨first, entry, rest, rfl, areFirst, isEntry⟩ :=
    DataFile.exists_of_forall₂_append_cons each
  have isKnown := isDefect.mem_of_isEntry isEntry
  rw [isEntry_rightUnique.forall₂ areKnown.1 areFirst] at isKnown
  rw [List.map_append, List.map_cons, List.nodup_append] at distinct
  exact distinct.2.2 entry.1 isKnown entry.1 List.mem_cons_self rfl

/-! ## Reading one row after another -/

/-- A row adds its entry to a catalog, or it is defective. -/
theorem addLine_cases (catalog : Catalog) (line : Line) :
    (∃ item price extended, catalog.addLine line = .ok (item, price, extended) ∧
        IsEntry line.text (item, price) ∧ extended.entries = catalog.entries ++ [(item, price)]) ∨
      ∃ defect kind, catalog.addLine line = .error defect ∧
        IsDefect catalog.items line.text defect kind := by
  unfold addLine
  rcases readEntry_cases line.text with ⟨item, price, read, isEntry⟩ | ⟨defect, kind, read, wrong⟩
  · rw [read]
    by_cases isNew : item ∉ catalog.items
    · refine .inl ⟨item, price.val, _, dif_pos isNew, isEntry, rfl⟩
    · exact .inr ⟨_, _, dif_neg isNew, .repeated isEntry (not_not.mp isNew)⟩
  · rw [read]
    exact .inr ⟨defect, kind, rfl, wrong _⟩

theorem addLines_cons_of_ok {source : Option String} {catalog extended : Catalog} {line : Line}
    {item : ItemId} {price : Decimal} (added : catalog.addLine line = .ok (item, price, extended))
    (rest : List Line) :
    (catalog.addLines source (line :: rest)).outcome = (extended.addLines source rest).outcome := by
  simp [addLines, added, Except.bind]

theorem addLines_cons_of_error {source : Option String} {catalog : Catalog} {line : Line}
    {defect : Defect} (added : catalog.addLine line = .error defect) (rest : List Line) :
    (catalog.addLines source (line :: rest)).outcome =
      .error (.problem (.corruptData ⟨defect, line.number, source⟩)) := by
  simp [addLines, added]

/-- Rows that are read onto a catalog add their entries to it, up to the first one that is
defective behind those in front of it. -/
theorem addLines_cases (source : Option String) (catalog : Catalog) (lines : List Line) :
    (∃ (extended : Catalog) (entries : List (ItemId × Decimal)),
        (catalog.addLines source lines).outcome = .ok extended ∧
        extended.entries = catalog.entries ++ entries ∧
        List.Forall₂ IsEntry (lines.map Line.text) entries) ∨
      ∃ (earlier : List Line) (line : Line) (later : List Line) (reached : Catalog)
        (known : List (ItemId × Decimal)) (defect : Defect) (kind : Report.Kind),
        lines = earlier ++ line :: later ∧ reached.entries = catalog.entries ++ known ∧
        List.Forall₂ IsEntry (earlier.map Line.text) known ∧
        IsDefect reached.items line.text defect kind ∧
        (catalog.addLines source lines).outcome =
          .error (.problem (.corruptData ⟨defect, line.number, source⟩)) := by
  -- The catalog grows along the lines, so what is known of it is said of every catalog.
  induction lines generalizing catalog with
  | nil => exact .inl ⟨catalog, [], rfl, (List.append_nil _).symm, .nil⟩
  | cons line rest ih =>
    rcases addLine_cases catalog line with
      ⟨item, price, next, added, isEntry, grown⟩ | ⟨defect, kind, added, isDefect⟩
    · rw [addLines_cons_of_ok added]
      rcases ih next with
        ⟨extended, entries, read, whole, areEntries⟩ |
          ⟨earlier, bad, later, reached, known, defect, kind, divided, whole, areEntries, isDefect,
            read⟩
      · refine .inl ⟨extended, (item, price) :: entries, read, ?_, .cons isEntry areEntries⟩
        rw [whole, grown, List.append_assoc, List.singleton_append]
      · refine .inr ⟨line :: earlier, bad, later, reached, (item, price) :: known, defect, kind, ?_,
          ?_, .cons isEntry areEntries, isDefect, read⟩
        · rw [divided, List.cons_append]
        · rw [whole, grown, List.append_assoc, List.singleton_append]
    · exact .inr ⟨[], line, rest, catalog, [], defect, kind, rfl, (List.append_nil _).symm, .nil,
        isDefect, addLines_cons_of_error added rest⟩

/-- A catalog file is read to the entries of its rows, or to the defect of its first line of data
that is no entry of a new item. -/
theorem ofLines_cases (source : Option String) (texts : List (List Char)) :
    (∃ catalog, (ofLines source (DataFile.number texts)).outcome = .ok catalog ∧
        AreEntries (rows texts) catalog.entries) ∨
      ∃ earlier raw later known defect kind, texts = earlier ++ raw :: later ∧ IsData raw ∧
        AreEntries (rows earlier) known ∧
        IsDefect (known.map Prod.fst) (Text.trim raw) defect kind ∧
        (ofLines source (DataFile.number texts)).outcome =
          .error (.problem (.corruptData ⟨defect, earlier.length + 1, source⟩)) := by
  unfold ofLines DataFile.number
  rcases addLines_cases source empty (dataLines (numberFrom 1 texts)) with
    ⟨catalog, entries, read, whole, areEntries⟩ |
      ⟨earlier, line, later, reached, known, defect, kind, divided, whole, areEntries, isDefect,
        read⟩
  · have same : catalog.entries = entries := whole
    rw [DataFile.map_text_dataLines, ← same] at areEntries
    exact .inl ⟨catalog, read, areEntries, catalog.distinct⟩
  · have same : reached.entries = known := whole
    obtain ⟨before, raw, after, found, isData, rfl, rfl⟩ :=
      DataFile.exists_of_dataLines_eq_append divided
    rw [DataFile.map_text_dataLines, ← same] at areEntries
    refine .inr ⟨before, raw, after, reached.entries, defect, kind, found, isData,
      ⟨areEntries, reached.distinct⟩, isDefect, ?_⟩
    rw [read, Nat.add_comm]

/-! ## The entries of a catalog -/

/-- A catalog tells the price of an entry for every spelling of its name. -/
theorem priceOf?_of_mem {catalog : Catalog} {entry : ItemId × Decimal}
    (isEntry : entry ∈ catalog.entries) {raw : String}
    (spelled : normalizeName raw = entry.1.name) :
    catalog.priceOf? (.named raw) = some entry.2 := by
  have found := ItemId.ofName?_eq_some_iff.mpr spelled
  have price := (Entries.mem_iff_get? catalog.distinct).mp isEntry
  simp [priceOf?, ItemRef.resolve, ItemId.ofName, found, Except.toOption, price?, price]

theorem addEntries_known (catalog : Catalog) {entries : List (ItemId × Decimal)}
    (distinct : ((catalog.entries ++ entries).map Prod.fst).Nodup)
    (priced : ∀ entry ∈ entries, isPrice entry.2 = true) :
    ∃ extended, catalog.addEntries (entries.map fun entry => (.known entry.1, .decimal entry.2)) =
        .ok extended ∧ extended.entries = catalog.entries ++ entries := by
  induction entries generalizing catalog with
  | nil => exact ⟨catalog, rfl, (List.append_nil _).symm⟩
  | cons entry rest ih =>
    have isNew : entry.1 ∉ catalog.items := by
      rw [List.map_append, List.map_cons, List.nodup_append] at distinct
      intro isKnown
      exact distinct.2.2 entry.1 isKnown entry.1 List.mem_cons_self rfl
    have isPriced := priced entry List.mem_cons_self
    have step : catalog.addEntry (.known entry.1) (.decimal entry.2) =
        .ok (catalog.add entry.1 entry.2 isNew isPriced) := by
      simp [addEntry, ItemRef.resolve, Except.mapError, isNew, isPriced, bind, Except.bind]
    have grown : (catalog.add entry.1 entry.2 isNew isPriced).entries =
        catalog.entries ++ [entry] := rfl
    have moved : catalog.entries ++ [entry] ++ rest = catalog.entries ++ entry :: rest := by simp
    obtain ⟨extended, read, whole⟩ := ih (catalog.add entry.1 entry.2 isNew isPriced)
      (by rw [grown, moved]; exact distinct)
      fun other isIn => priced other (List.mem_cons_of_mem _ isIn)
    refine ⟨extended, ?_, by rw [whole, grown, moved]⟩
    rw [List.map_cons, addEntries, step]
    exact read

/-- The entries of a catalog make that catalog again. -/
theorem ofPrices_entries (catalog : Catalog) :
    ofPrices (catalog.entries.map fun entry => (.known entry.1, .decimal entry.2)) =
      .ok catalog := by
  have keys : ((catalog.entries.map fun entry =>
      ((.known entry.1, .decimal entry.2) : ItemRef × Amount)).map Prod.fst).Nodup := by
    have renamed := catalog.distinct.map fun _ _ same => ItemRef.known.inj same
    rw [List.map_map] at renamed ⊢
    exact renamed
  have distinct : ((empty.entries ++ catalog.entries).map Prod.fst).Nodup := catalog.distinct
  obtain ⟨extended, read, whole⟩ := addEntries_known empty distinct catalog.priced
  have same : extended = catalog := by
    cases extended
    cases catalog
    simp_all [empty]
  rw [ofPrices, Entries.ofList_of_nodup keys, read, same]

/-- The prices of a catalog that is read are amounts that can be held. -/
theorem exists_units_of_ofText {source : Option String} {text : String} {catalog : Catalog}
    (read : (ofText source text).outcome = .ok catalog) {item : ItemId} {price : Decimal}
    (found : catalog.price? item = some price) :
    ∃ negative units, price = .finite negative units Money.place ∧ units < Money.limit := by
  rcases ofLines_cases source (splitLines text.toList) with
    ⟨known, isRead, areEntries, _⟩ | ⟨_, _, _, _, _, _, _, _, _, _, refused⟩
  · cases isRead.symm.trans read
    have isEntry := (Entries.mem_iff_get? catalog.distinct).mpr found
    obtain ⟨row, _, _, word, _, _, ⟨written, _⟩, _⟩ :=
      DataFile.exists_row_of_mem areEntries isEntry
    obtain ⟨literal, units, _, _, _, small, shape⟩ := Money.read?_eq_some_iff.mp written
    exact ⟨literal.negative, units, shape, small⟩
  · cases refused.symm.trans read

/-! ## Reading a text -/

/-- A text is read to a catalog exactly when its rows are entries of different items.  The catalog
has these entries in the order of the rows, tells their prices for every spelling of their names,
and passes the checks of a catalog of given prices.  Otherwise the text is refused for its first
line of data that is no entry of a new item. -/
theorem ofText_entries_or_defect (source : Option String) (text : String) :
    (∀ entries, AreEntries (rows (splitLines text.toList)) entries →
      ∃ catalog, (ofText source text).outcome = .ok catalog ∧ catalog.entries = entries ∧
        catalog.size = (rows (splitLines text.toList)).length ∧
        (∀ entry ∈ entries, ∀ raw, normalizeName raw = entry.1.name →
          catalog.priceOf? (.named raw) = some entry.2) ∧
        ofPrices (entries.map fun entry => (.known entry.1, .decimal entry.2)) = .ok catalog) ∧
    ((¬∃ entries, AreEntries (rows (splitLines text.toList)) entries) →
      ∃ earlier raw later known defect kind,
        splitLines text.toList = earlier ++ raw :: later ∧ IsData raw ∧
        AreEntries (rows earlier) known ∧
        IsDefect (known.map Prod.fst) (Text.trim raw) defect kind ∧
        (ofText source text).outcome =
          .error (.problem (.corruptData ⟨defect, earlier.length + 1, source⟩)) ∧
        (Corruption.report ⟨defect, earlier.length + 1, source⟩).kind = kind) := by
  have outcome := ofLines_cases source (splitLines text.toList)
  constructor
  · intro entries areEntries
    rcases outcome with
      ⟨catalog, read, areRead⟩ | ⟨earlier, raw, later, known, defect, kind, whole, isData, areKnown,
        isDefect, _⟩
    · have same : catalog.entries = entries :=
        isEntry_rightUnique.forall₂ areRead.1 areEntries.1
      refine ⟨catalog, read, same, ?_, ?_, ?_⟩
      · rw [areRead.1.length_eq, size]
      · intro entry isIn raw spelled
        exact priceOf?_of_mem (same ▸ isIn) spelled
      · rw [← same, ofPrices_entries]
    · rw [whole, DataFile.rows_append, DataFile.rows_cons_of_isData isData] at areEntries
      exact absurd isDefect (areEntries.not_isDefect areKnown)
  · intro noEntries
    rcases outcome with
      ⟨catalog, _, areRead⟩ | ⟨earlier, raw, later, known, defect, kind, whole, isData, areKnown,
        isDefect, read⟩
    · exact absurd ⟨catalog.entries, areRead⟩ noEntries
    · exact ⟨earlier, raw, later, known, defect, kind, whole, isData, areKnown, isDefect, read,
        isDefect.kind_report _ _⟩

/-- Two rows behind a comment and a blank line. -/
theorem ofText_entries_or_defect_fruit :
    ∃ catalog, (ofText none "# Fruit\n\nRed  apples 1.00\r\n pears .5").outcome = .ok catalog ∧
      catalog.size = 2 ∧ catalog.priceOf? (.named " red APPLES") = some (Money.ofUnits 100) := by
  have apples : IsEntry "Red  apples 1.00".toList
      (⟨"RED APPLES", ⟨"Red apples", by decide +kernel⟩, by decide⟩, Money.ofUnits 100) :=
    ⟨["Red".toList, "apples".toList], "1.00".toList, by decide, by decide, by decide +kernel,
      by decide +kernel⟩
  have pears : IsEntry "pears .5".toList
      (⟨"PEARS", ⟨"pears", by decide +kernel⟩, by decide⟩, Money.ofUnits 50) :=
    ⟨["pears".toList], ".5".toList, by decide, by decide, by decide +kernel, by decide +kernel⟩
  obtain ⟨catalog, read, _, size, prices, _⟩ :=
    (ofText_entries_or_defect none "# Fruit\n\nRed  apples 1.00\r\n pears .5").1 _
      ⟨.cons apples (.cons pears .nil), by decide⟩
  exact ⟨catalog, read, size, prices _ List.mem_cons_self " red APPLES" (by decide +kernel)⟩

end Checkout.Catalog
