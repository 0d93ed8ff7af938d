import Checkout.Proofs.Catalog.Reading
import Checkout.Proofs.Offer.Described

/-!
# The layout of data files

Two texts have the same layout up to blanks and letter case if their lines of data have pairwise the
same normalized form.  Then their rows have the same words in upper case, and nothing that reads a
row sees more than that: prices and figures are the same words, or differ in the case of an
exponent, the word of a bundle may stand in either case, and the names are names of the same items.

So two such texts are read alike, row by row.  They are read to the same catalog, or the same book,
or both are refused, for the same kind of problem and at lines of data that correspond.
-/

namespace Checkout

open DataFile (Line dataLines linesOf numberFrom splitLines IsData)
open Text (words unwords IsWord)
open Text.Case (upper)

/-- The lines of data of two texts have pairwise the same normalized form. -/
def SameLayout (first second : String) : Prop :=
  ((splitLines first.toList).filter fun line => decide (IsData line)).map normalizeChars =
    ((splitLines second.toList).filter fun line => decide (IsData line)).map normalizeChars

/-- Two rows of one line each that have the same words in upper case. -/
structure SameRow (first second : List Char) : Prop where
  firstLine : '\n' ∉ first
  secondLine : '\n' ∉ second
  sameWords : List.Forall₂ SameWord (words first) (words second)

/-- Two defects that are reported as the same kind of problem, wherever they stand. -/
def Defect.SameKind (first second : Defect) : Prop :=
  ∀ line source line' source',
    (Corruption.report ⟨first, line, source⟩).kind =
      (Corruption.report ⟨second, line', source'⟩).kind

/-- What two lists of data lines are read to: the same result, or two defects of the same kind, each
at its own line, and both at the same place of the two lists. -/
inductive ReadAlike {Result : Type} (first second : List Line) :
    Except Fault Result → Except Fault Result → Prop
  | read (result : Result) : ReadAlike first second (.ok result) (.ok result)
  | refused {place : Nat} {firstLine secondLine : Line} {firstDefect secondDefect : Defect}
      {firstSource secondSource : Option String} :
      first[place]? = some firstLine → second[place]? = some secondLine →
        firstDefect.SameKind secondDefect →
        ReadAlike first second
          (.error (.problem (.corruptData ⟨firstDefect, firstLine.number, firstSource⟩)))
          (.error (.problem (.corruptData ⟨secondDefect, secondLine.number, secondSource⟩)))

namespace ReadAlike

variable {First Second : Type} {first second : List Line} {firstLine secondLine : Line}

/-- What is made of results alike is alike. -/
theorem map {firstOutcome secondOutcome : Except Fault First}
    (alike : ReadAlike first second firstOutcome secondOutcome) (next : First → Second) :
    ReadAlike first second (firstOutcome.map next) (secondOutcome.map next) := by
  cases alike with
  | read result => exact .read (next result)
  | refused isFirst isSecond sameKind => exact .refused isFirst isSecond sameKind

/-- Corresponding places still correspond behind one more line in front. -/
theorem cons {firstOutcome secondOutcome : Except Fault First}
    (alike : ReadAlike first second firstOutcome secondOutcome) :
    ReadAlike (firstLine :: first) (secondLine :: second) firstOutcome secondOutcome := by
  cases alike with
  | read result => exact .read result
  | @refused place known other _ _ _ _ isFirst isSecond sameKind =>
    have isFirst' : (firstLine :: first)[place + 1]? = some known := isFirst
    have isSecond' : (secondLine :: second)[place + 1]? = some other := isSecond
    exact .refused isFirst' isSecond' sameKind

theorem here {firstDefect secondDefect : Defect} (sameKind : firstDefect.SameKind secondDefect)
    {firstSource secondSource : Option String} :
    ReadAlike (firstLine :: first) (secondLine :: second)
      (.error (.problem (.corruptData ⟨firstDefect, firstLine.number, firstSource⟩)) :
        Except Fault First)
      (.error (.problem (.corruptData ⟨secondDefect, secondLine.number, secondSource⟩))) := by
  have isFirst : (firstLine :: first)[0]? = some firstLine := rfl
  have isSecond : (secondLine :: second)[0]? = some secondLine := rfl
  exact .refused isFirst isSecond sameKind

end ReadAlike

/-! ## Rows of a catalog -/

namespace Catalog

/-- Words are divided alike into those of a name and that of a price. -/
theorem splitWords?_rel {first second : List (List Char)}
    (same : List.Forall₂ SameWord first second) :
    Option.Rel (fun first second => List.Forall₂ SameWord first.1 second.1 ∧
      SameWord first.2 second.2) (splitWords? first) (splitWords? second) := by
  have reversed := List.rel_reverse same
  unfold splitWords?
  generalize first.reverse = firstReversed at reversed
  generalize second.reverse = secondReversed at reversed
  cases reversed with
  | nil => exact .none
  | cons sameWord others =>
    cases others with
    | nil => exact .none
    | cons sameLast others =>
      exact .some ⟨List.rel_reverse (.cons sameLast others), sameWord⟩

theorem readPrice?_of_sameWord {first second : List Char} (same : SameWord first second) :
    readPrice? first = readPrice? second := by
  rw [readPrice?, readPrice?,
    Money.read?_of_upper_eq same.isFirst same.isSecond same.upper_eq]

/-- Rows with the same words in upper case are read to the same entry, or to defects of the same
kind. -/
theorem readEntry_alike {first second : List (List Char)}
    (same : List.Forall₂ SameWord first second) :
    (∃ entry, readEntry first = .ok entry ∧ readEntry second = .ok entry) ∨
      ∃ firstDefect secondDefect, readEntry first = .error firstDefect ∧
        readEntry second = .error secondDefect ∧ firstDefect.SameKind secondDefect := by
  have divided := splitWords?_rel same
  unfold readEntry
  generalize splitWords? first = firstParts at divided
  generalize splitWords? second = secondParts at divided
  cases divided with
  | none => exact .inr ⟨_, _, rfl, rfl, fun _ _ _ _ => rfl⟩
  | @some firstParts secondParts parts =>
    obtain ⟨firstName, firstWord⟩ := firstParts
    obtain ⟨secondName, secondWord⟩ := secondParts
    dsimp only at parts ⊢
    rw [readPrice?_of_sameWord parts.2, ItemId.ofName?_of_forall₂ parts.1]
    cases readPrice? secondWord with
    | none => exact .inr ⟨_, _, rfl, rfl, fun _ _ _ _ => rfl⟩
    | some price =>
      cases ItemId.ofName? (String.ofList (unwords secondName)) with
      | none => exact .inr ⟨_, _, rfl, rfl, fun _ _ _ _ => rfl⟩
      | some item => exact .inl ⟨_, rfl, rfl⟩

/-- Such rows add the same entry to a catalog, or none of them adds one, for the same kind of
defect. -/
theorem addLine_alike {first second : Line} (same : SameRow first.text second.text)
    (catalog : Catalog) :
    (∃ item price extended, catalog.addLine first = .ok (item, price, extended) ∧
        catalog.addLine second = .ok (item, price, extended)) ∨
      ∃ firstDefect secondDefect, catalog.addLine first = .error firstDefect ∧
        catalog.addLine second = .error secondDefect ∧ firstDefect.SameKind secondDefect := by
  unfold addLine
  rcases readEntry_alike same.sameWords with
    ⟨⟨item, price⟩, isFirst, isSecond⟩ | ⟨firstDefect, secondDefect, isFirst, isSecond, sameKind⟩
  · rw [isFirst, isSecond]
    by_cases isNew : item ∉ catalog.items
    · exact .inl ⟨item, price.val, _, dif_pos isNew, dif_pos isNew⟩
    · exact .inr ⟨_, _, dif_neg isNew, dif_neg isNew, fun _ _ _ _ => rfl⟩
  · rw [isFirst, isSecond]
    exact .inr ⟨firstDefect, secondDefect, rfl, rfl, sameKind⟩

/-- Lines with such rows are read alike onto a catalog. -/
theorem addLines_alike {first second : List Line}
    (same : List.Forall₂ (fun first second => SameRow first.text second.text) first second)
    (firstSource secondSource : Option String) (catalog : Catalog) :
    ReadAlike first second (catalog.addLines firstSource first).outcome
      (catalog.addLines secondSource second).outcome := by
  induction same generalizing catalog with
  | nil => exact .read catalog
  | cons sameRow _ ih =>
    -- Both catalogs are the same again behind these rows, or both readings end here.
    rcases addLine_alike sameRow catalog with
      ⟨_, _, extended, isFirst, isSecond⟩ | ⟨_, _, isFirst, isSecond, sameKind⟩
    · rw [addLines_cons_of_ok isFirst, addLines_cons_of_ok isSecond]
      exact (ih extended).cons
    · rw [addLines_cons_of_error isFirst, addLines_cons_of_error isSecond]
      exact .here sameKind

end Catalog

/-! ## Rows of a book -/

/-- Words that are the same in upper case write the same discount. -/
theorem Discount.judgeWords_of_forall₂ {first second : List (List Char)}
    (same : List.Forall₂ SameWord first second) (catalog : Catalog) :
    judgeWords catalog first = judgeWords catalog second := by
  have divided := Catalog.splitWords?_rel same
  unfold judgeWords
  generalize Catalog.splitWords? first = firstParts at divided
  generalize Catalog.splitWords? second = secondParts at divided
  cases divided with
  | none => rfl
  | @some firstParts secondParts parts =>
    obtain ⟨firstName, firstWord⟩ := firstParts
    obtain ⟨secondName, secondWord⟩ := secondParts
    have sameForm := ofForm_congr (words_unwords_of_forall₂ parts.1) catalog
    dsimp only at parts sameForm ⊢
    rw [Reduction.ofWord?_of_upper_eq parts.2.upper_eq, funext sameForm]

namespace Bundle

/-- Words that are the same in upper case go on with the same figures and the same name. -/
theorem readTailWords?_rel {first second : List (List Char)}
    (same : List.Forall₂ SameWord first second) :
    Option.Rel (fun first second => first.1 = second.1 ∧ first.2.1 = second.2.1 ∧
      List.Forall₂ SameWord first.2.2 second.2.2) (readTailWords? first)
      (readTailWords? second) := by
  cases same with
  | nil => exact .none
  | cons sameAmount same =>
    cases same with
    | nil => exact .none
    | cons samePer same =>
      cases same with
      | nil => exact .none
      | @cons _ secondCount firstName secondName sameCount same =>
        have pointed := Text.Case.check_of_upper_eq Discount.mem_figures_of_isPointed
          sameAmount.upper_eq
        have counted := Text.Case.check_of_upper_eq mem_figures_of_isDigits sameCount.upper_eq
        have more : firstName.isEmpty = secondName.isEmpty := by
          cases same <;> rfl
        simp only [readTailWords?, pointed, isPer_of_upper_eq samePer.upper_eq, counted, more]
        split
        · rename_i tail
          simp only [Bool.and_eq_true] at tail
          refine .some ⟨?_, ?_, same⟩
          · exact (Text.Case.eq_of_upper_eq_of_figures sameAmount.upper_eq.symm
              (Discount.mem_figures_of_isPointed tail.1.1.1)).symm
          · exact (Text.Case.eq_of_upper_eq_of_figures sameCount.upper_eq.symm
              (mem_figures_of_isDigits tail.1.2)).symm
        · exact .none

/-- Words that are the same in upper case are divided at the same place. -/
theorem divideWords?_rel {firstBefore secondBefore first second : List (List Char)}
    (sameBefore : List.Forall₂ SameWord firstBefore secondBefore)
    (same : List.Forall₂ SameWord first second) :
    Option.Rel Form.Alike (divideWords? firstBefore first) (divideWords? secondBefore second) := by
  induction same generalizing firstBefore secondBefore with
  | nil => exact .none
  | @cons firstWord secondWord firstRest secondRest sameWord rest ih =>
    have tails := readTailWords?_rel (.cons sameWord rest)
    unfold divideWords?
    generalize readTailWords? (firstWord :: firstRest) = firstTail at tails
    generalize readTailWords? (secondWord :: secondRest) = secondTail at tails
    cases tails with
    | none => exact ih (List.rel_append sameBefore (.cons sameWord .nil))
    | some parts =>
      exact .some ⟨words_unwords_of_forall₂ sameBefore, parts.1, parts.2.1,
        words_unwords_of_forall₂ parts.2.2⟩

/-- Words that are the same in upper case write forms alike. -/
theorem readWords?_rel {first second : List (List Char)}
    (same : List.Forall₂ SameWord first second) :
    Option.Rel Form.Alike (readWords? first) (readWords? second) := by
  cases same with
  | nil => exact .none
  | cons sameWord rest => exact divideWords?_rel (.cons sameWord .nil) rest

end Bundle

/-- The built-in parsers read the same rules from rows with the same words in upper case. -/
theorem Parser.parse_of_sameRow {parser : Parser} (isBuiltIn : parser ∈ builtIn)
    {first second : List Char} (same : SameRow first second) (catalog : Catalog) :
    parser.parse catalog first = parser.parse catalog second := by
  simp only [builtIn, List.mem_cons, List.not_mem_nil, or_false] at isBuiltIn
  rcases isBuiltIn with rfl | rfl
  · rw [parse, parse, Discount.read?, Discount.read?,
      Discount.judge_eq_judgeWords catalog same.firstLine,
      Discount.judge_eq_judgeWords catalog same.secondLine,
      Discount.judgeWords_of_forall₂ same.sameWords]
  · rw [parse, parse, Bundle.read?, Bundle.read?,
      Bundle.judge_eq_readWords? catalog same.firstLine,
      Bundle.judge_eq_readWords? catalog same.secondLine,
      Bundle.map_ofForm_of_rel (Bundle.readWords?_rel same.sameWords)]

namespace Offer.Book

variable {catalog : Catalog}

theorem accepting_of_sameRow {first second : List Char} (same : SameRow first second)
    (catalog : Catalog) :
    accepting Parser.builtIn catalog first = accepting Parser.builtIn catalog second := by
  apply List.filterMap_congr
  intro parser isBuiltIn
  rw [Parser.parse_of_sameRow isBuiltIn same]

/-- A row ends the reading with the built-in parsers only by the number of parsers that accept
it. -/
theorem exists_of_isRefusal {source : Option String} {number : Nat} {row : List Char}
    {fault : Fault} (isRefusal : IsRefusal Parser.builtIn catalog source number row fault) :
    ∃ defect, fault = .problem (.corruptData ⟨defect, number, source⟩) ∧
      ((accepting Parser.builtIn catalog row = [] ∧
          defect = .unsupportedRule (String.ofList row)) ∨
        (2 ≤ (accepting Parser.builtIn catalog row).length ∧
          ∃ labels, defect = .ambiguousRule (String.ofList row) labels)) := by
  cases isRefusal with
  | unsupported none => exact ⟨_, rfl, .inl ⟨none, rfl⟩⟩
  | ambiguous several => exact ⟨_, rfl, .inr ⟨several, _, rfl⟩⟩
  | @undescribed parser rule _ only undescribed =>
    have parsed := parse_of_mem_accepting (only ▸ List.mem_singleton_self (parser, rule))
    have isRead : rule.IsRead catalog := ⟨parser, parsed.1, row, parsed.2⟩
    obtain ⟨description, described⟩ := isRead.accepted.description_eq_ok
    rw [described] at undescribed
    cases undescribed

theorem isReading_iff_of_sameRow {first second : List Char} (same : SameRow first second)
    {rule : Rule} :
    IsReading Parser.builtIn catalog first rule ↔ IsReading Parser.builtIn catalog second rule := by
  rw [IsReading, IsReading, accepting_of_sameRow same]

/-- Such rows end the reading for the same kind of defect. -/
theorem exists_sameKind {first second : Line} (same : SameRow first.text second.text)
    {firstSource secondSource : Option String} {firstFault secondFault : Fault}
    (isFirst :
      IsRefusal Parser.builtIn catalog firstSource first.number first.text firstFault)
    (isSecond :
      IsRefusal Parser.builtIn catalog secondSource second.number second.text secondFault) :
    ∃ firstDefect secondDefect,
      firstFault = .problem (.corruptData ⟨firstDefect, first.number, firstSource⟩) ∧
      secondFault = .problem (.corruptData ⟨secondDefect, second.number, secondSource⟩) ∧
      firstDefect.SameKind secondDefect := by
  obtain ⟨firstDefect, rfl, firstCases⟩ := exists_of_isRefusal isFirst
  obtain ⟨secondDefect, rfl, secondCases⟩ := exists_of_isRefusal isSecond
  rw [accepting_of_sameRow same] at firstCases
  refine ⟨firstDefect, secondDefect, rfl, rfl, ?_⟩
  rcases firstCases with ⟨noFirst, rfl⟩ | ⟨several, _, rfl⟩
  · rcases secondCases with ⟨_, rfl⟩ | ⟨several, _, rfl⟩
    · exact fun _ _ _ _ => rfl
    · rw [noFirst] at several
      exact absurd several (by decide)
  · rcases secondCases with ⟨noSecond, rfl⟩ | ⟨_, _, rfl⟩
    · rw [noSecond] at several
      exact absurd several (by decide)
    · exact fun _ _ _ _ => rfl

/-- Lines with such rows are read alike by the built-in parsers. -/
theorem readLines_alike {first second : List Line}
    (same : List.Forall₂ (fun first second => SameRow first.text second.text) first second)
    (firstSource secondSource : Option String) (catalog : Catalog) :
    ReadAlike first second (readLines Parser.builtIn catalog firstSource first).outcome
      (readLines Parser.builtIn catalog secondSource second).outcome := by
  have never := neverFail_builtIn catalog
  induction same with
  | nil => exact .read []
  | @cons firstLine secondLine firstRest secondRest sameRow _ ih =>
    -- A reading of one row is a reading of the other, so the two mixed cases do not occur.
    rcases readLine_cases never firstSource firstLine with
      ⟨rule, isFirst, firstStep⟩ | ⟨firstFault, isFirst, firstStep⟩
    · rw [isReading_iff_of_sameRow sameRow] at isFirst
      rcases readLine_cases never secondSource secondLine with
        ⟨other, isSecond, secondStep⟩ | ⟨_, isSecond, _⟩
      · rw [firstStep, secondStep, isReading_rightUnique _ _ isSecond isFirst]
        exact (ih.map _).cons
      · exact absurd isSecond isFirst.not_isRefusal
    · rcases readLine_cases never secondSource secondLine with
        ⟨rule, isSecond, _⟩ | ⟨secondFault, isSecond, secondStep⟩
      · rw [← isReading_iff_of_sameRow sameRow] at isSecond
        exact absurd isFirst isSecond.not_isRefusal
      · obtain ⟨_, _, rfl, rfl, sameKind⟩ := exists_sameKind sameRow isFirst isSecond
        rw [firstStep, secondStep]
        exact .here sameKind

/-- The books of such lines are read alike. -/
theorem ofRules_alike {first second : List Line}
    (same : List.Forall₂ (fun first second => SameRow first.text second.text) first second)
    (firstSource secondSource : Option String) (catalog : Catalog) :
    ReadAlike first second
      (readLines Parser.builtIn catalog firstSource first >>= ofRules).outcome
      (readLines Parser.builtIn catalog secondSource second >>= ofRules).outcome := by
  have alike := readLines_alike same firstSource secondSource catalog
  rw [Logged.outcome_bind, Logged.outcome_bind]
  cases read : (readLines Parser.builtIn catalog firstSource first).outcome with
  | ok rules =>
    have areReadings := forall₂_of_readLines (neverFail_builtIn catalog) read
    rw [read] at alike
    generalize (readLines Parser.builtIn catalog secondSource second).outcome = other at alike
    cases alike
    rw [Except.bind, ofRules_of_forall₂ areReadings]
    exact .read _
  | error fault =>
    rw [read] at alike
    generalize (readLines Parser.builtIn catalog secondSource second).outcome = other at alike
    cases alike with
    | refused isFirst isSecond sameKind => exact .refused isFirst isSecond sameKind

end Offer.Book

/-! ## Files -/

/-- The rows of texts of the same layout have pairwise the same words in upper case. -/
theorem SameLayout.sameRows {first second : String} (same : SameLayout first second) :
    List.Forall₂ (fun first second => SameRow first.text second.text)
      (dataLines (linesOf first.toList)) (dataLines (linesOf second.toList)) := by
  have lines := forall₂_of_map_eq same
    (fun line isIn => DataFile.not_mem_of_mem_splitLines (List.mem_filter.mp isIn).1)
    (fun line isIn => DataFile.not_mem_of_mem_splitLines (List.mem_filter.mp isIn).1)
  have rows : List.Forall₂ SameRow (DataFile.rows (splitLines first.toList))
      (DataFile.rows (splitLines second.toList)) := by
    rw [DataFile.rows, DataFile.rows, List.forall₂_map_left_iff, List.forall₂_map_right_iff]
    refine lines.imp fun one other pair => ⟨?_, ?_, ?_⟩
    · exact fun isIn => pair.1 (Text.mem_of_mem_trim isIn)
    · exact fun isIn => pair.2.1 (Text.mem_of_mem_trim isIn)
    · rw [Text.words_trim, Text.words_trim]
      exact forall₂_sameWord (normalizeChars_eq_iff.mp pair.2.2)
  rw [← DataFile.map_text_dataLines 1, ← DataFile.map_text_dataLines 1,
    List.forall₂_map_left_iff, List.forall₂_map_right_iff] at rows
  exact rows

/-- Blanks and letter case make no difference to what a text is read to, as a catalog or as a book
of the built-in kinds of offers: both texts are read to the same, or both are refused for the same
kind of problem at corresponding lines of data. -/
theorem readAlike_of_sameLayout {first second : String} (same : SameLayout first second)
    (firstSource secondSource : Option String) :
    ReadAlike (dataLines (linesOf first.toList)) (dataLines (linesOf second.toList))
        (Catalog.ofText firstSource first).outcome (Catalog.ofText secondSource second).outcome ∧
      ∀ catalog,
        ReadAlike (dataLines (linesOf first.toList)) (dataLines (linesOf second.toList))
          (Offer.Book.ofText Parser.builtIn catalog firstSource first).outcome
          (Offer.Book.ofText Parser.builtIn catalog secondSource second).outcome := by
  have sameRows := same.sameRows
  constructor
  · exact Catalog.addLines_alike sameRows firstSource secondSource Catalog.empty
  · intro catalog
    exact Offer.Book.ofRules_alike sameRows firstSource secondSource catalog

/-- Two offers in two layouts. -/
theorem readAlike_of_sameLayout_offers :
    SameLayout "Soup 10%\nBread 0.40 per 2 soup"
        "# Offers\r\n SOUP  10%\n\nbread 0.40 PER 2 Soup " ∧
      ReadAlike (dataLines (linesOf "Soup 10%\nBread 0.40 per 2 soup".toList))
        (dataLines (linesOf "# Offers\r\n SOUP  10%\n\nbread 0.40 PER 2 Soup ".toList))
        (Offer.Book.ofText Parser.builtIn Basket.pantry none
          "Soup 10%\nBread 0.40 per 2 soup").outcome
        (Offer.Book.ofText Parser.builtIn Basket.pantry none
          "# Offers\r\n SOUP  10%\n\nbread 0.40 PER 2 Soup ").outcome := by
  have same : SameLayout "Soup 10%\nBread 0.40 per 2 soup"
      "# Offers\r\n SOUP  10%\n\nbread 0.40 PER 2 Soup " := by
    unfold SameLayout
    decide +kernel
  exact ⟨same, (readAlike_of_sameLayout same none none).2 Basket.pantry⟩

end Checkout
