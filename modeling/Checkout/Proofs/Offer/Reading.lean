import Checkout.Offer.Book
import Checkout.Proofs.Basket.Filled
import Checkout.Proofs.DataFile
import Checkout.Proofs.Outcomes

/-!
# Books that are read

Every row of an offers file is tried with every parser.  Where no parser fails, a book is read
exactly when every row is accepted by one parser alone, whose rule can be described; the book then
holds one rule for every row, in the order of the rows.  Otherwise the first row of another kind is
told, and what stands behind it makes no difference.

A row that one parser alone accepts may still end the reading: every rule is described when it is
accepted, and a description that fails does so then.
-/

namespace Checkout.Offer.Book

open DataFile (IsData Line rows dataLines numberFrom)

/-- No parser fails on any line. -/
def NeverFail (parsers : List Parser) (catalog : Catalog) : Prop :=
  ∀ parser ∈ parsers, ∀ line, ∃ rule?, parser.parse catalog line = .ok rule?

/-- The parsers that accept a row, in order, each with the rule it reads. -/
def accepting (parsers : List Parser) (catalog : Catalog) (row : List Char) :
    List (Parser × Rule) :=
  parsers.filterMap fun parser =>
    match parser.parse catalog row with
    | .ok (some rule) => some (parser, rule)
    | _ => none

/-- One parser alone accepts a row, and the rule it reads can be described. -/
def IsReading (parsers : List Parser) (catalog : Catalog) (row : List Char) (rule : Rule) : Prop :=
  ∃ parser description, accepting parsers catalog row = [(parser, rule)] ∧
    rule.description = .ok description

/-- What ends the reading at a row on the line of a number: no parser accepts the row, more than
one does, or the rule of the only one can not be described. -/
inductive IsRefusal (parsers : List Parser) (catalog : Catalog) (source : Option String)
    (number : Nat) (row : List Char) : Fault → Prop
  | unsupported : accepting parsers catalog row = [] →
      IsRefusal parsers catalog source number row
        (.problem (.corruptData ⟨.unsupportedRule (String.ofList row), number, source⟩))
  | ambiguous : 2 ≤ (accepting parsers catalog row).length →
      IsRefusal parsers catalog source number row
        (.problem (.corruptData
          ⟨.ambiguousRule (String.ofList row)
            ((accepting parsers catalog row).map fun reading => reading.1.label), number, source⟩))
  | undescribed {parser : Parser} {rule : Rule} {fault : Fault} :
      accepting parsers catalog row = [(parser, rule)] → rule.description = .error fault →
        IsRefusal parsers catalog source number row fault

variable {parsers : List Parser} {catalog : Catalog} {source : Option String}

/-- The built-in parsers never fail. -/
theorem neverFail_builtIn (catalog : Catalog) : NeverFail Parser.builtIn catalog := by
  intro parser isBuiltIn line
  simp only [Parser.builtIn, List.mem_cons, List.not_mem_nil, or_false] at isBuiltIn
  rcases isBuiltIn with rfl | rfl
  · exact ⟨_, rfl⟩
  · exact ⟨_, rfl⟩

theorem parse_of_mem_accepting {row : List Char} {reading : Parser × Rule}
    (accepted : reading ∈ accepting parsers catalog row) :
    reading.1 ∈ parsers ∧ reading.1.parse catalog row = .ok (some reading.2) := by
  obtain ⟨parser, isParser, accepts⟩ := List.mem_filterMap.mp accepted
  split at accepts
  · rename_i rule parsed
    cases accepts
    exact ⟨isParser, parsed⟩
  · cases accepts

theorem readings_outcome (never : NeverFail parsers catalog) (row : List Char) :
    (readings catalog row parsers).outcome = .ok (accepting parsers catalog row) := by
  induction parsers with
  | nil => rfl
  | cons parser rest ih =>
    obtain ⟨rule?, parsed⟩ := never parser List.mem_cons_self row
    have others := ih fun other isOther => never other (List.mem_cons_of_mem _ isOther)
    simp only [readings, Logged.outcome_bind, Logged.outcome_tell, Logged.outcome_ofOutcome,
      Logged.outcome_pure, Except.bind, parsed, others]
    cases rule? <;> simp [accepting, parsed]

/-- Every rule of some rows is read from one of them by one of the parsers. -/
theorem parse_of_forall₂ {file : List (List Char)} {rules : List Rule}
    (areReadings : List.Forall₂ (IsReading parsers catalog) file rules) :
    ∀ rule ∈ rules, ∃ parser ∈ parsers, ∃ row, parser.parse catalog row = .ok (some rule) := by
  intro rule isRule
  obtain ⟨row, _, parser, _, accepted, _⟩ := DataFile.exists_row_of_mem areReadings isRule
  have parsed := parse_of_mem_accepting (accepted ▸ List.mem_singleton_self (parser, rule))
  exact ⟨parser, parsed.1, row, parsed.2⟩

/-! ## Reading one row after another -/

/-- A row is read to its rule, or it ends the reading. -/
theorem readLine_cases (never : NeverFail parsers catalog) (source : Option String) (line : Line) :
    (∃ rule, IsReading parsers catalog line.text rule ∧
        ∀ rest, (readLines parsers catalog source (line :: rest)).outcome =
          (readLines parsers catalog source rest).outcome.map (rule :: ·)) ∨
      ∃ fault, IsRefusal parsers catalog source line.number line.text fault ∧
        ∀ rest, (readLines parsers catalog source (line :: rest)).outcome = .error fault := by
  have tried := readings_outcome never line.text
  cases found : accepting parsers catalog line.text with
  | nil =>
    refine .inr ⟨_, .unsupported found, fun rest => ?_⟩
    simp [readLines, tried, found, onlyReading, Except.bind]
  | cons reading others =>
    obtain ⟨parser, rule⟩ := reading
    cases others with
    | nil =>
      cases described : rule.description with
      | error fault =>
        refine .inr ⟨fault, .undescribed found described, fun rest => ?_⟩
        simp [readLines, tried, found, onlyReading, Except.bind, described]
      | ok description =>
        refine .inl ⟨rule, ⟨parser, description, found, described⟩, fun rest => ?_⟩
        simp only [readLines, Logged.outcome_bind, tried, found, onlyReading, Except.bind,
          Logged.outcome_ofOutcome, Logged.outcome_tell, Logged.outcome_pure, described]
        cases (readLines parsers catalog source rest).outcome <;> rfl
    | cons second others =>
      have several : 2 ≤ (accepting parsers catalog line.text).length := by simp [found]
      refine .inr ⟨_, .ambiguous several, fun rest => ?_⟩
      simp [readLines, tried, found, onlyReading, Except.bind]

/-- Rows are read to their rules, up to the first one that ends the reading, whatever stands behind
it. -/
theorem readLines_cases (never : NeverFail parsers catalog) (source : Option String)
    (lines : List Line) :
    (∃ rules, (readLines parsers catalog source lines).outcome = .ok rules ∧
        List.Forall₂ (IsReading parsers catalog) (lines.map Line.text) rules) ∨
      ∃ (earlier : List Line) (line : Line) (later : List Line) (known : List Rule) (fault : Fault),
        lines = earlier ++ line :: later ∧
        List.Forall₂ (IsReading parsers catalog) (earlier.map Line.text) known ∧
        IsRefusal parsers catalog source line.number line.text fault ∧
        ∀ others, (readLines parsers catalog source (earlier ++ line :: others)).outcome =
          .error fault := by
  induction lines with
  | nil => exact .inl ⟨[], rfl, .nil⟩
  | cons line rest ih =>
    rcases readLine_cases never source line with
      ⟨rule, isReading, step⟩ | ⟨fault, isRefusal, step⟩
    · rcases ih with
        ⟨rules, read, areReadings⟩ |
          ⟨earlier, bad, later, known, fault, divided, areReadings, isRefusal, refused⟩
      · exact .inl ⟨rule :: rules, by rw [step, read]; rfl, .cons isReading areReadings⟩
      · refine .inr ⟨line :: earlier, bad, later, rule :: known, fault, ?_,
          .cons isReading areReadings, isRefusal, fun others => ?_⟩
        · rw [divided, List.cons_append]
        · rw [List.cons_append, step, refused]
          rfl
    · exact .inr ⟨[], line, rest, [], fault, rfl, .nil, isRefusal, step⟩

theorem forall₂_of_readLines (never : NeverFail parsers catalog) {lines : List Line}
    {rules : List Rule} (read : (readLines parsers catalog source lines).outcome = .ok rules) :
    List.Forall₂ (IsReading parsers catalog) (lines.map Line.text) rules := by
  rcases readLines_cases never source lines with
    ⟨known, isKnown, areReadings⟩ | ⟨earlier, line, later, _, _, divided, _, _, refused⟩
  · rw [isKnown] at read
    cases read
    exact areReadings
  · rw [divided, refused] at read
    cases read

/-! ## Rules with descriptions -/

/-- A book that is made of rules holds these rules, and each of them has a description. -/
theorem ofRules_eq_ok {rules : List Rule} {book : Book}
    (made : (ofRules rules).outcome = .ok book) :
    book.rules = rules ∧ ∀ rule ∈ rules, ∃ description, rule.description = .ok description := by
  simp only [ofRules, Logged.outcome_bind, Logged.outcome_ofOutcome,
    Logged.outcome_tell, Logged.outcome_pure] at made
  obtain ⟨_, described, same⟩ := bind_eq_ok_iff.mp made
  cases same
  exact ⟨rfl, exists_mapM_eq_ok_iff.mp ⟨_, described⟩⟩

theorem applicable_of_ofRules {rules : List Rule} {book : Book}
    (made : (ofRules rules).outcome = .ok book) (quantities : Quantities) :
    book.applicable quantities = rules.filter (·.isApplicable quantities) := by
  rw [applicable, (ofRules_eq_ok made).1]

/-- The rules of some rows make a book. -/
theorem ofRules_of_forall₂ {file : List (List Char)} {rules : List Rule}
    (areReadings : List.Forall₂ (IsReading parsers catalog) file rules) :
    (ofRules rules).outcome = .ok ⟨rules⟩ := by
  have described : ∃ descriptions, rules.mapM Rule.description = .ok descriptions := by
    induction areReadings with
    | nil => exact ⟨[], rfl⟩
    | cons isReading _ ih =>
      obtain ⟨_, description, _, first⟩ := isReading
      obtain ⟨descriptions, rest⟩ := ih
      exact ⟨description :: descriptions, by rw [List.mapM_cons, first, rest]; rfl⟩
  obtain ⟨descriptions, described⟩ := described
  simp [ofRules, described, Except.bind]

/-! ## Reading lines -/

/-- One row is read to one rule. -/
theorem isReading_rightUnique (parsers : List Parser) (catalog : Catalog) :
    Relator.RightUnique (IsReading parsers catalog) := by
  rintro row first second ⟨parser, _, accepted, _⟩ ⟨parser', _, accepted', _⟩
  rw [accepted] at accepted'
  cases accepted'
  rfl

/-- A row that is read to a rule does not end the reading. -/
theorem IsReading.not_isRefusal {row : List Char} {rule : Rule}
    (isReading : IsReading parsers catalog row rule) {number : Nat} {fault : Fault} :
    ¬IsRefusal parsers catalog source number row fault := by
  obtain ⟨parser, description, accepted, described⟩ := isReading
  intro isRefusal
  cases isRefusal with
  | unsupported none =>
    rw [accepted] at none
    cases none
  | ambiguous several =>
    rw [accepted] at several
    exact absurd several (Nat.not_le.mpr (Nat.lt_succ_self 1))
  | undescribed accepted' undescribed =>
    rw [accepted] at accepted'
    cases accepted'
    rw [described] at undescribed
    cases undescribed

/-- Lines are read to a book exactly when every row has one reading.  The book has the rules of the
rows in their order.  Otherwise the lines are refused for the first row of another kind, whatever
stands behind it. -/
theorem ofLines_rules_or_refusal (never : NeverFail parsers catalog) (source : Option String)
    (texts : List (List Char)) :
    (∀ rules, List.Forall₂ (IsReading parsers catalog) (rows texts) rules →
      (ofLines parsers catalog source (DataFile.number texts)).outcome = .ok ⟨rules⟩) ∧
    ((¬∃ rules, List.Forall₂ (IsReading parsers catalog) (rows texts) rules) →
      ∃ earlier raw later known fault, texts = earlier ++ raw :: later ∧ IsData raw ∧
        List.Forall₂ (IsReading parsers catalog) (rows earlier) known ∧
        IsRefusal parsers catalog source (earlier.length + 1) (Text.trim raw) fault ∧
        ∀ others,
          (ofLines parsers catalog source (DataFile.number (earlier ++ raw :: others))).outcome =
            .error fault) := by
  have read := readLines_cases never source (dataLines (numberFrom 1 texts))
  rw [DataFile.map_text_dataLines] at read
  constructor
  · intro rules areReadings
    rcases read with
      ⟨known, read, areKnown⟩ | ⟨earlier, line, later, known, fault, divided, _, isRefusal, _⟩
    · have same := (isReading_rightUnique parsers catalog).forall₂ areKnown areReadings
      subst same
      rw [ofLines, DataFile.number, Logged.outcome_bind, read]
      exact ofRules_of_forall₂ areReadings
    · rw [← DataFile.map_text_dataLines 1, divided, List.map_append, List.map_cons] at areReadings
      obtain ⟨_, rule, _, _, _, isReading⟩ := DataFile.exists_of_forall₂_append_cons areReadings
      exact absurd isRefusal isReading.not_isRefusal
  · intro unread
    rcases read with
      ⟨known, _, areKnown⟩ |
        ⟨earlier, line, later, known, fault, divided, areKnown, isRefusal, refused⟩
    · exact absurd ⟨known, areKnown⟩ unread
    · obtain ⟨before, raw, after, whole, isData, rfl, rfl⟩ :=
        DataFile.exists_of_dataLines_eq_append divided
      rw [DataFile.map_text_dataLines] at areKnown
      rw [Nat.add_comm] at isRefusal
      refine ⟨before, raw, after, known, fault, whole, isData, areKnown, isRefusal,
        fun others => ?_⟩
      rw [ofLines, DataFile.number, DataFile.dataLines_append_cons isData, Logged.outcome_bind,
        refused]
      rfl

/-- One offer for soup behind a comment. -/
theorem ofLines_rules_or_refusal_soup :
    NeverFail Parser.builtIn Basket.pantry ∧
      (ofLines Parser.builtIn Basket.pantry none
        (DataFile.number ["# Offers".toList, " Soup 10% ".toList])).outcome =
          .ok ⟨[.discount { catalog := Basket.pantry, item := Basket.soup, amount := none,
                            percentage := some 10 }]⟩ :=
  ⟨neverFail_builtIn _, (ofLines_rules_or_refusal (neverFail_builtIn Basket.pantry) none
    ["# Offers".toList, " Soup 10% ".toList]).1 _
      (.cons ⟨.discount, "Soup 10% off", rfl, rfl⟩ .nil)⟩

/-- A parser of deals on apples that are left open: neither an amount nor a percentage is set. -/
def openDeal : Parser :=
  .custom {
    name? := some (.text "first")
    kind := "KeywordParser"
    parse := fun catalog line =>
      .ok (if line = "deal".toList then
        some (.discount {
          catalog, item := ⟨"APPLES", ⟨"Apples", by decide +kernel⟩, by decide⟩, amount := none,
          percentage := none })
        else none) }

/-- One parser alone accepts every row, no parser fails, and there is still no book: the rule of an
open deal can not be described. -/
theorem ofLines_fails_of_openDeal :
    NeverFail [openDeal] Catalog.empty ∧
      (∀ row ∈ rows ["deal".toList], (accepting [openDeal] Catalog.empty row).length = 1) ∧
      (ofLines [openDeal] Catalog.empty none (DataFile.number ["deal".toList])).outcome =
        .error .wrongKind := by
  refine ⟨?_, ?_, rfl⟩
  · intro parser isParser line
    rw [List.mem_singleton.mp isParser]
    exact ⟨_, rfl⟩
  · intro row isRow
    have only : row = "deal".toList := List.mem_singleton.mp isRow
    rw [only]
    rfl

end Checkout.Offer.Book
