import Checkout.DataFile.Line
import Checkout.Folder.Tree

/-!
# Line ends

A text can end its lines with a line feed, with a carriage return or with the pair of both, and a
file is read with a line feed for each of them.  The lines are the same in every case: a text that
is written with one kind of line end is split into the lines it was written from, and a text with
any mix of them is split like the same text with line feeds.

The last line end says nothing unless the last line is empty: without it such a line is not there.
-/

namespace Checkout.DataFile

open FileTree (unifyLineEnds)

/-- The ways to end a line. -/
inductive LineEnd
  | lineFeed
  | carriageReturn
  | both
  deriving DecidableEq

/-- The characters of a line end. -/
def LineEnd.chars : LineEnd → List Char
  | .lineFeed => ['\n']
  | .carriageReturn => ['\r']
  | .both => ['\r', '\n']

/-- A text that stands on one line. -/
structure IsLine (text : List Char) : Prop where
  noFeed : '\n' ∉ text
  noReturn : '\r' ∉ text

instance (text : List Char) : Decidable (IsLine text) :=
  decidable_of_iff ('\n' ∉ text ∧ '\r' ∉ text)
    ⟨fun noEnd => ⟨noEnd.1, noEnd.2⟩, fun isLine => ⟨isLine.noFeed, isLine.noReturn⟩⟩

theorem isLine_nil : IsLine [] :=
  ⟨List.not_mem_nil, List.not_mem_nil⟩

theorem isLine_cons_iff {c : Char} {line : List Char} :
    IsLine (c :: line) ↔ ¬(c = '\n' ∨ c = '\r') ∧ IsLine line := by
  constructor
  · rintro ⟨noFeed, noReturn⟩
    rw [List.mem_cons, not_or] at noFeed noReturn
    refine ⟨?_, noFeed.2, noReturn.2⟩
    rintro (isFeed | isReturn)
    · exact noFeed.1 isFeed.symm
    · exact noReturn.1 isReturn.symm
  · rintro ⟨inside, noFeed, noReturn⟩
    rw [not_or] at inside
    exact ⟨List.not_mem_cons_of_ne_of_not_mem (Ne.symm inside.1) noFeed,
      List.not_mem_cons_of_ne_of_not_mem (Ne.symm inside.2) noReturn⟩

/-- The text of some lines with a line end behind each of them. -/
def written (ending : LineEnd) : List (List Char) → List Char
  | [] => []
  | line :: rest => line ++ (ending.chars ++ written ending rest)

/-! ## Splitting -/

/-- A line ends at a line feed, and at a carriage return that is not the first half of a pair. -/
theorem splitLines_of_end {c : Char} {rest : List Char} (ends : c = '\n' ∨ c = '\r')
    (alone : c = '\r' → rest.head? ≠ some '\n') :
    splitLines (c :: rest) = [] :: splitLines rest := by
  rw [splitLines, if_pos ends]
  rintro others isReturn rfl
  exact alone isReturn rfl

/-- Any other character goes to the first line of what follows. -/
theorem splitLines_of_inside {c : Char} (inside : ¬(c = '\n' ∨ c = '\r')) (rest : List Char) :
    splitLines (c :: rest) =
      match splitLines rest with
      | [] => [[c]]
      | first :: others => (c :: first) :: others := by
  have notPair : ∀ others, c = '\r' → rest = '\n' :: others → False :=
    fun others isReturn => absurd (.inr isReturn) inside
  exact (splitLines.eq_3 c rest notPair).trans (if_neg inside)

/-- Whatever the line end, it ends the line in front of it. -/
theorem splitLines_chars_append (ending : LineEnd) {rest : List Char}
    (alone : ending = .carriageReturn → rest.head? ≠ some '\n') :
    splitLines (ending.chars ++ rest) = [] :: splitLines rest := by
  cases ending with
  | lineFeed => exact splitLines_of_end (.inl rfl) (fun isReturn => absurd isReturn (by decide))
  | carriageReturn => exact splitLines_of_end (.inr rfl) fun _ => alone rfl
  | both => rfl

theorem splitLines_append_chars_append {line : List Char} (isLine : IsLine line)
    (ending : LineEnd) {rest : List Char}
    (alone : ending = .carriageReturn → rest.head? ≠ some '\n') :
    splitLines (line ++ (ending.chars ++ rest)) = line :: splitLines rest := by
  induction line with
  | nil => exact splitLines_chars_append ending alone
  | cons c line ih =>
    obtain ⟨inside, others⟩ := isLine_cons_iff.mp isLine
    rw [List.cons_append, splitLines_of_inside inside, ih others]

/-- A text on one line is that line, unless it is empty. -/
theorem splitLines_of_isLine {line : List Char} (isLine : IsLine line) :
    splitLines line = if line = [] then [] else [line] := by
  induction line with
  | nil => rfl
  | cons c line ih =>
    obtain ⟨inside, others⟩ := isLine_cons_iff.mp isLine
    rw [splitLines_of_inside inside, ih others, if_neg (List.cons_ne_nil c line)]
    by_cases empty : line = []
    · rw [if_pos empty, empty]
    · rw [if_neg empty]

/-! ## Written lines -/

theorem head?_append_of_isLine {line rest : List Char} (isLine : IsLine line)
    (alone : rest.head? ≠ some '\n') : (line ++ rest).head? ≠ some '\n' := by
  cases line with
  | nil => exact alone
  | cons c line =>
    rw [List.cons_append, List.head?_cons, ne_eq, Option.some.injEq]
    exact fun same => isLine.noFeed (same ▸ List.mem_cons_self)

/-- No line that is written with carriage returns begins with a line feed. -/
theorem head?_written_append {lines : List (List Char)} {tail : List Char}
    (areLines : ∀ line ∈ lines, IsLine line) (isLine : IsLine tail) :
    (written .carriageReturn lines ++ tail).head? ≠ some '\n' := by
  cases lines with
  | nil =>
    have nothing : ([] : List Char).head? ≠ some '\n' := nofun
    rw [written, List.nil_append, ← List.append_nil tail]
    exact head?_append_of_isLine isLine nothing
  | cons line rest =>
    rw [written, List.append_assoc]
    exact head?_append_of_isLine (areLines line List.mem_cons_self) (by simp [LineEnd.chars])

/-- Written lines are read back, in front of a last line without an end. -/
theorem splitLines_written_append (ending : LineEnd) {lines : List (List Char)} {tail : List Char}
    (areLines : ∀ line ∈ lines, IsLine line) (isLine : IsLine tail) :
    splitLines (written ending lines ++ tail) = lines ++ splitLines tail := by
  induction lines with
  | nil => rfl
  | cons line rest ih =>
    have others : ∀ line ∈ rest, IsLine line :=
      fun other isOther => areLines other (List.mem_cons_of_mem _ isOther)
    -- A carriage return is not taken for half of a pair, since no line begins with a line feed.
    have alone : ending = .carriageReturn → (written ending rest ++ tail).head? ≠ some '\n' := by
      rintro rfl
      exact head?_written_append others isLine
    rw [written, List.append_assoc, List.append_assoc,
      splitLines_append_chars_append (areLines line List.mem_cons_self) ending alone, ih others,
      List.cons_append]

theorem splitLines_written (ending : LineEnd) {lines : List (List Char)}
    (areLines : ∀ line ∈ lines, IsLine line) : splitLines (written ending lines) = lines := by
  have whole := splitLines_written_append ending areLines isLine_nil
  rwa [List.append_nil, splitLines, List.append_nil] at whole

theorem written_append (ending : LineEnd) (init : List (List Char)) (last : List Char) :
    written ending (init ++ [last]) = written ending init ++ last ++ ending.chars := by
  induction init with
  | nil => rw [List.nil_append, written, written, written, List.append_nil, List.nil_append]
  | cons line rest ih => simp only [List.cons_append, written, ih, List.append_assoc]

/-- The lines that are left when the last line end is dropped. -/
def withoutLastEnd (lines : List (List Char)) : List (List Char) :=
  if lines.getLast? = some [] then lines.dropLast else lines

/-- Without the last line end the lines are the same, but for an empty last line. -/
theorem splitLines_of_append_chars {ending : LineEnd} {lines : List (List Char)}
    (areLines : ∀ line ∈ lines, IsLine line) {short : List Char}
    (dropped : short ++ ending.chars = written ending lines) :
    splitLines short = withoutLastEnd lines := by
  rcases List.eq_nil_or_concat lines with rfl | ⟨init, last, rfl⟩
  · rw [written, List.append_eq_nil_iff] at dropped
    cases ending <;> cases dropped.2
  · rw [List.concat_eq_append] at areLines dropped ⊢
    rw [written_append, List.append_cancel_right_eq] at dropped
    have isLast : IsLine last := areLines last (List.mem_append_right _ List.mem_cons_self)
    rw [dropped, splitLines_written_append ending
      (fun line isIn => areLines line (List.mem_append_left _ isIn)) isLast,
      splitLines_of_isLine isLast, withoutLastEnd, List.getLast?_concat, List.dropLast_concat]
    by_cases empty : last = []
    · rw [if_pos empty, if_pos (congrArg some empty), List.append_nil]
    · rw [if_neg empty, if_neg fun same => empty (Option.some.inj same)]

/-! ## Line feeds for all line ends -/

theorem unifyLineEnds_of_inside {c : Char} (inside : ¬(c = '\n' ∨ c = '\r')) (rest : List Char) :
    unifyLineEnds (c :: rest) = c :: unifyLineEnds rest := by
  rw [unifyLineEnds]
  · rw [if_neg fun isReturn => inside (.inr isReturn)]
  · exact fun others isReturn => absurd (.inr isReturn) inside

theorem noReturn_unifyLineEnds (text : List Char) : '\r' ∉ unifyLineEnds text := by
  induction text using FileTree.unifyLineEnds.induct with
  | case1 => exact List.not_mem_nil
  | case2 rest ih => simpa [unifyLineEnds] using ih
  | case3 c rest notPair ih =>
    rw [unifyLineEnds, List.mem_cons, not_or]
    · refine ⟨?_, ih⟩
      split
      · decide
      · rename_i other
        exact Ne.symm other
    · exact notPair

theorem unifyLineEnds_append_of_noReturn {front : List Char} (noReturn : '\r' ∉ front)
    (rest : List Char) : unifyLineEnds (front ++ rest) = front ++ unifyLineEnds rest := by
  induction front with
  | nil => rfl
  | cons c front ih =>
    rw [List.mem_cons, not_or] at noReturn
    rw [List.cons_append, unifyLineEnds, if_neg (Ne.symm noReturn.1), ih noReturn.2,
      List.cons_append]
    exact fun _ isReturn => absurd isReturn (Ne.symm noReturn.1)

theorem unifyLineEnds_of_noReturn {text : List Char} (noReturn : '\r' ∉ text) :
    unifyLineEnds text = text := by
  simpa [unifyLineEnds] using unifyLineEnds_append_of_noReturn noReturn []

theorem unifyLineEnds_return {rest : List Char} (alone : rest.head? ≠ some '\n') :
    unifyLineEnds ('\r' :: rest) = '\n' :: unifyLineEnds rest := by
  rw [unifyLineEnds, if_pos rfl]
  rintro others - rfl
  exact alone rfl

/-- The lines of a text are those of the text with a line feed for every line end. -/
theorem splitLines_unifyLineEnds (text : List Char) :
    splitLines (unifyLineEnds text) = splitLines text := by
  have feed : ∀ rest, splitLines ('\n' :: rest) = [] :: splitLines rest :=
    fun rest => splitLines_of_end (.inl rfl) fun isReturn => absurd isReturn (by decide)
  -- Both functions look for the same three line ends, so the cases of the one serve the other.
  induction text using splitLines.induct with
  | case1 => rfl
  | case2 rest ih => rw [unifyLineEnds, feed, ih, splitLines]
  | case3 c rest notPair ends ih =>
    have unified : unifyLineEnds (c :: rest) = '\n' :: unifyLineEnds rest := by
      rw [unifyLineEnds]
      · rcases ends with rfl | rfl <;> rfl
      · exact notPair
    have divided : splitLines (c :: rest) = [] :: splitLines rest := by
      rw [splitLines, if_pos ends]
      exact notPair
    rw [unified, feed, ih, divided]
  | case4 c rest notPair inside _ ih =>
    rw [unifyLineEnds_of_inside inside, splitLines_of_inside inside, splitLines_of_inside inside,
      ih]
  | case5 c rest notPair inside first others _ ih =>
    rw [unifyLineEnds_of_inside inside, splitLines_of_inside inside, splitLines_of_inside inside,
      ih]

end Checkout.DataFile
