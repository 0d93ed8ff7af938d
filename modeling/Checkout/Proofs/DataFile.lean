import Checkout.DataFile.Line
import Checkout.Proofs.Text.Words
import Mathlib.Data.List.Forall2

/-!
# The data of a file

What a file says stands in its rows: its lines of data, trimmed and in order.  A row is found again
in the text it was read from.  The number that it carries is one more than the number of lines in
front of it, whether these hold data or not, and the rows in front of it are the rows of those
lines.
-/

namespace Checkout.DataFile

/-- There is data on a line. -/
def IsData (text : List Char) : Prop :=
  Text.trim text ≠ [] ∧ isComment (Text.trim text) = false

instance (text : List Char) : Decidable (IsData text) :=
  inferInstanceAs (Decidable (_ ∧ _))

/-- The lines of data among some lines, without the blanks around them. -/
def rows (texts : List (List Char)) : List (List Char) :=
  (texts.filter fun text => decide (IsData text)).map Text.trim

theorem rows_cons_of_isData {text : List Char} (isData : IsData text) (rest : List (List Char)) :
    rows (text :: rest) = Text.trim text :: rows rest := by
  simp [rows, isData]

theorem rows_cons_of_not_isData {text : List Char} (noData : ¬IsData text)
    (rest : List (List Char)) : rows (text :: rest) = rows rest := by
  simp [rows, noData]

theorem rows_append (first second : List (List Char)) :
    rows (first ++ second) = rows first ++ rows second := by
  simp [rows]

/-- A line ends at a line feed, so there is none on it. -/
theorem not_mem_of_mem_splitLines {text line : List Char} (isLine : line ∈ splitLines text) :
    '\n' ∉ line := by
  induction text using splitLines.induct generalizing line with
  | case1 => simp [splitLines] at isLine
  | case2 rest ih =>
    rw [splitLines, List.mem_cons] at isLine
    rcases isLine with rfl | inRest
    · exact List.not_mem_nil
    · exact ih inRest
  | case3 c rest notPair ends ih =>
    rw [splitLines, if_pos ends, List.mem_cons] at isLine
    · rcases isLine with rfl | inRest
      · exact List.not_mem_nil
      · exact ih inRest
    · exact notPair
  | case4 c rest notPair inside noRest ih =>
    rw [splitLines, if_neg inside, noRest, List.mem_singleton] at isLine
    · rw [isLine, List.mem_singleton]
      exact fun same => inside (.inl same.symm)
    · exact notPair
  | case5 c rest notPair inside first others divided ih =>
    rw [splitLines, if_neg inside, divided, List.mem_cons] at isLine
    · rcases isLine with rfl | inRest
      · rw [List.mem_cons, not_or]
        exact ⟨fun same => inside (.inl same.symm), ih (divided ▸ List.mem_cons_self)⟩
      · exact ih (divided ▸ List.mem_cons_of_mem _ inRest)
    · exact notPair

/-! ## Numbered lines -/

theorem dataLines_cons_of_isData {number : Nat} {text : List Char} (isData : IsData text)
    (rest : List Line) :
    dataLines (⟨number, text⟩ :: rest) = ⟨number, Text.trim text⟩ :: dataLines rest := by
  simp [dataLines, Line.data?, isData.1, isData.2]

theorem dataLines_cons_of_not_isData {number : Nat} {text : List Char} (noData : ¬IsData text)
    (rest : List Line) : dataLines (⟨number, text⟩ :: rest) = dataLines rest := by
  by_cases blank : Text.trim text = []
  · simp [dataLines, Line.data?, blank]
  · by_cases comment : isComment (Text.trim text) = true
    · simp [dataLines, Line.data?, comment]
    · exact absurd ⟨blank, Bool.eq_false_iff.mpr comment⟩ noData

/-- The rows of a file are the texts of its lines of data. -/
theorem map_text_dataLines (first : Nat) (texts : List (List Char)) :
    (dataLines (numberFrom first texts)).map Line.text = rows texts := by
  induction texts generalizing first with
  | nil => rfl
  | cons text rest ih =>
    by_cases isData : IsData text
    · rw [numberFrom, dataLines_cons_of_isData isData, rows_cons_of_isData isData, List.map_cons,
        ih]
    · rw [numberFrom, dataLines_cons_of_not_isData isData, rows_cons_of_not_isData isData, ih]

theorem numberFrom_append (first : Nat) (before after : List (List Char)) :
    numberFrom first (before ++ after) =
      numberFrom first before ++ numberFrom (first + before.length) after := by
  induction before generalizing first with
  | nil => rfl
  | cons text rest ih =>
    rw [List.cons_append, numberFrom, ih, List.length_cons, numberFrom, List.cons_append,
      Nat.add_right_comm, Nat.add_assoc]

/-- A line with data on it is numbered by the lines in front of it. -/
theorem dataLines_append_cons {raw : List Char} (isData : IsData raw) (first : Nat)
    (before after : List (List Char)) :
    dataLines (numberFrom first (before ++ raw :: after)) =
      dataLines (numberFrom first before) ++ ⟨first + before.length, Text.trim raw⟩ ::
        dataLines (numberFrom (first + before.length + 1) after) := by
  rw [numberFrom_append, dataLines, List.filterMap_append, numberFrom]
  exact congrArg _ (dataLines_cons_of_isData isData _)

/-- A line of data comes from the line of the file that has as many lines in front of it as its
number tells. -/
theorem exists_of_dataLines_eq_append {first : Nat} {texts : List (List Char)}
    {earlier later : List Line} {line : Line}
    (divided : dataLines (numberFrom first texts) = earlier ++ line :: later) :
    ∃ before raw after, texts = before ++ raw :: after ∧ IsData raw ∧
      earlier = dataLines (numberFrom first before) ∧
      line = ⟨first + before.length, Text.trim raw⟩ := by
  induction texts generalizing first earlier with
  | nil =>
    have nonempty : earlier ++ line :: later ≠ [] := by simp
    exact absurd divided.symm nonempty
  | cons text rest ih =>
    rw [numberFrom] at divided
    by_cases isData : IsData text
    · rw [dataLines_cons_of_isData isData] at divided
      cases earlier with
      | nil =>
        rw [List.nil_append, List.cons.injEq] at divided
        exact ⟨[], text, rest, rfl, isData, rfl, divided.1.symm⟩
      | cons known earlier =>
        rw [List.cons_append, List.cons.injEq] at divided
        obtain ⟨before, raw, after, whole, found, same, place⟩ := ih divided.2
        refine ⟨text :: before, raw, after, by rw [whole, List.cons_append], found, ?_, ?_⟩
        · rw [numberFrom, dataLines_cons_of_isData isData, same, divided.1]
        · rw [place, List.length_cons, Nat.add_right_comm, Nat.add_assoc]
    · rw [dataLines_cons_of_not_isData isData] at divided
      obtain ⟨before, raw, after, whole, found, same, place⟩ := ih divided
      refine ⟨text :: before, raw, after, by rw [whole, List.cons_append], found, ?_, ?_⟩
      · rw [numberFrom, dataLines_cons_of_not_isData isData, same]
      · rw [place, List.length_cons, Nat.add_right_comm, Nat.add_assoc]

/-! ## Row by row -/

/-- What rows are read to one by one is divided as the rows are. -/
theorem exists_of_forall₂_append_cons {Reading : Type} {reads : List Char → Reading → Prop}
    {earlier later : List (List Char)} {row : List Char} {readings : List Reading}
    (each : List.Forall₂ reads (earlier ++ row :: later) readings) :
    ∃ first reading rest, readings = first ++ reading :: rest ∧
      List.Forall₂ reads earlier first ∧ reads row reading := by
  have areFirst := (List.forall₂_take_append readings earlier (row :: later) each.flip).flip
  have areRest := (List.forall₂_drop_append readings earlier (row :: later) each.flip).flip
  cases remaining : readings.drop earlier.length with
  | nil =>
    rw [remaining] at areRest
    cases areRest
  | cons reading rest =>
    rw [remaining] at areRest
    refine ⟨readings.take earlier.length, reading, rest, ?_, areFirst, ?_⟩
    · rw [← remaining, List.take_append_drop]
    · cases areRest
      assumption

/-- Everything that rows are read to is read from one of them. -/
theorem exists_row_of_mem {Reading : Type} {reads : List Char → Reading → Prop}
    {file : List (List Char)} {readings : List Reading} (each : List.Forall₂ reads file readings)
    {reading : Reading} (isIn : reading ∈ readings) : ∃ row ∈ file, reads row reading := by
  obtain ⟨place, within, rfl⟩ := List.getElem_of_mem isIn
  have also : place < file.length := by rwa [each.length_eq]
  exact ⟨file[place], List.getElem_mem also, each.get also within⟩

end Checkout.DataFile
