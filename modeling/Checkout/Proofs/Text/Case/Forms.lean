import Checkout.Proofs.Text.Case

/-!
# Forms of letters

A text in upper case stays as it is when it is upper-cased again, and a capitalised word is a word
that does not begin with a small letter a.  Both are seen from the letters that the tables of
mappings name: a letter that is named by none of them is its own form, and a form that differs from
its letter is among those that the table names.

To compare all these code points with each other would take too long.  A set of code points is
therefore turned into the number that has just their bits, and two sets are disjoint if the numbers
have no bit in common.
-/

namespace Checkout.Text.Case

/-! ## Sets of code points -/

/-- The number with the bits of some code points. -/
def bitsOf (codes : List Nat) : Nat :=
  codes.foldr (fun code bits => 1 <<< code ||| bits) 0

theorem testBit_bitsOf (codes : List Nat) (code : Nat) :
    (bitsOf codes).testBit code = true ↔ code ∈ codes := by
  induction codes with
  | nil => simp [bitsOf]
  | cons known rest ih =>
    rw [bitsOf, List.foldr_cons, ← bitsOf, Nat.testBit_or, Nat.one_shiftLeft, Nat.testBit_two_pow,
      Bool.or_eq_true, ih, decide_eq_true_iff, List.mem_cons, eq_comm]

theorem not_mem_of_bitsOf {first second : List Nat} (apart : bitsOf first &&& bitsOf second = 0)
    {code : Nat} (isFirst : code ∈ first) : code ∉ second := by
  intro isSecond
  have common : (bitsOf first &&& bitsOf second).testBit code = true := by
    rw [Nat.testBit_and, Bool.and_eq_true]
    exact ⟨(testBit_bitsOf first code).mpr isFirst, (testBit_bitsOf second code).mpr isSecond⟩
  rw [apart, Nat.zero_testBit] at common
  cases common

/-! ## The code points of a table -/

/-- The code points that a run maps. -/
def Run.sources (run : Run) : List Nat :=
  (List.range ((run.last - run.first) / run.step + 1)).map fun place => run.first + run.step * place

/-- The code points that a run maps to. -/
def Run.targets (run : Run) : List Nat :=
  run.sources.map fun (code : Nat) => (code + run.shift).toNat

/-- The code points that a table maps. -/
def sources (specials : List (Nat × List Nat)) (runs : List Run) : List Nat :=
  specials.map Prod.fst ++ runs.flatMap Run.sources

/-- The code points that a table maps to. -/
def targets (specials : List (Nat × List Nat)) (runs : List Run) : List Nat :=
  specials.flatMap Prod.snd ++ runs.flatMap Run.targets

theorem Run.mem_of_image? {run : Run} {code target : Nat} (mapped : run.image? code = some target) :
    code ∈ run.sources ∧ target ∈ run.targets := by
  unfold Run.image? at mapped
  split at mapped
  · rename_i within
    simp only [Bool.and_eq_true, decide_eq_true_eq, beq_iff_eq] at within
    obtain ⟨⟨least, most⟩, aligned⟩ := within
    have isSource : code ∈ run.sources := by
      refine List.mem_map.mpr ⟨(code - run.first) / run.step, ?_, ?_⟩
      · have bound : (code - run.first) / run.step ≤ (run.last - run.first) / run.step :=
          Nat.div_le_div_right (Nat.sub_le_sub_right most run.first)
        exact List.mem_range.mpr (Nat.lt_succ_of_le bound)
      · rw [Nat.mul_div_cancel' (Nat.dvd_of_mod_eq_zero aligned), Nat.add_sub_cancel' least]
    rw [← Option.some.inj mapped]
    exact ⟨isSource, List.mem_map_of_mem isSource⟩
  · cases mapped

/-- A code point is its own form, or its form is among those of the table. -/
theorem image_cases (specials : List (Nat × List Nat)) (runs : List Run) (code : Nat) :
    image specials runs code = [code] ∨
      code ∈ sources specials runs ∧
        ∀ target ∈ image specials runs code, target ∈ targets specials runs := by
  unfold image
  split
  · rename_i special found
    obtain ⟨before, after, table, _⟩ := List.lookup_eq_some_iff.mp found
    have isEntry : (code, special) ∈ specials := by simp [table]
    refine .inr ⟨List.mem_append_left _ (List.mem_map_of_mem isEntry), fun target isTarget => ?_⟩
    exact List.mem_append_left _ (List.mem_flatMap.mpr ⟨_, isEntry, isTarget⟩)
  · cases moved : runs.findSome? (·.image? code) with
    | none => exact .inl rfl
    | some found =>
      obtain ⟨run, isRun, mapped⟩ := List.exists_of_findSome?_eq_some moved
      obtain ⟨isSource, isTarget⟩ := Run.mem_of_image? mapped
      refine .inr ⟨List.mem_append_right _ (List.mem_flatMap.mpr ⟨run, isRun, isSource⟩), ?_⟩
      intro target isForm
      rw [List.mem_singleton.mp isForm]
      exact List.mem_append_right _ (List.mem_flatMap.mpr ⟨run, isRun, isTarget⟩)

/-! ## Upper case -/

/-- No code point of an upper-case form has another upper-case form. -/
theorem image_of_mem_image {code target : Nat}
    (isForm : target ∈ image upperSpecials upperRuns code) :
    image upperSpecials upperRuns target = [target] := by
  have apart : bitsOf (targets upperSpecials upperRuns) &&&
      bitsOf (sources upperSpecials upperRuns) = 0 := by decide +kernel
  rcases image_cases upperSpecials upperRuns code with own | ⟨_, others⟩
  · rw [own, List.mem_singleton] at isForm
    rw [isForm, own]
  · rcases image_cases upperSpecials upperRuns target with own | ⟨isSource, _⟩
    · exact own
    · exact absurd isSource (not_mem_of_bitsOf apart (others target isForm))

theorem upperChar_of_mem_upperChar {c x : Char} (isForm : x ∈ upperChar c) : upperChar x = [x] := by
  obtain ⟨target, isImage, rfl⟩ := List.mem_map.mp isForm
  rcases toNat_ofNat_cases target with same | zero
  · rw [upperChar, same, image_of_mem_image isImage, List.map_singleton]
  · have null : Char.ofNat target = Char.ofNat 0 := by
      rw [← Char.ofNat_toNat (Char.ofNat target), zero]
    rw [null]
    decide +kernel

theorem upper_eq_self {text : List Char} (fixed : ∀ c ∈ text, upperChar c = [c]) :
    upper text = text := by
  induction text with
  | nil => rfl
  | cons c rest ih =>
    rw [upper_cons, fixed c List.mem_cons_self,
      ih fun d isIn => fixed d (List.mem_cons_of_mem _ isIn), List.singleton_append]

/-- Upper-casing a text twice is upper-casing it once. -/
theorem upper_upper (text : List Char) : upper (upper text) = upper text := by
  apply upper_eq_self
  intro x isIn
  obtain ⟨c, _, isForm⟩ := List.mem_flatMap.mp isIn
  exact upperChar_of_mem_upperChar isForm

/-! ## Capitalised words -/

/-- Lower-casing makes no blank. -/
theorem not_isBlank_of_mem_lowerChar {c x : Char} (isForm : x ∈ lowerChar c)
    (notBlank : isBlank c = false) : isBlank x = false := by
  have apart : bitsOf (targets lowerSpecials lowerRuns) &&& bitsOf blankCodes = 0 := by
    decide +kernel
  obtain ⟨target, isImage, rfl⟩ := List.mem_map.mp isForm
  rcases image_cases lowerSpecials lowerRuns c.toNat with own | ⟨_, others⟩
  · rw [own, List.mem_singleton] at isImage
    rwa [isImage, Char.ofNat_toNat]
  · rw [Bool.eq_false_iff, ne_eq, isBlank_iff]
    rcases toNat_ofNat_cases target with same | zero
    · rw [same]
      exact not_mem_of_bitsOf apart (others target isImage)
    · rw [zero]
      decide

theorem not_isBlank_of_mem_lowerAfter {before text : List Char}
    (noBlank : ∀ c ∈ text, isBlank c = false) :
    ∀ x ∈ lowerAfter before text, isBlank x = false := by
  induction text generalizing before with
  | nil => simp [lowerAfter]
  | cons c rest ih =>
    rw [List.forall_mem_cons] at noBlank
    simp only [lowerAfter]
    rw [List.forall_mem_append]
    refine ⟨?_, ih noBlank.2⟩
    split
    · split <;> exact List.forall_mem_singleton.mpr rfl
    · exact fun x isForm => not_isBlank_of_mem_lowerChar isForm noBlank.1

/-- What a letter has for its title-case form is listed, or it is its upper-case form. -/
theorem titleChar_cases (c : Char) :
    (∃ entry ∈ titleExceptions, titleChar c = entry.2.map Char.ofNat) ∨
      titleChar c = upperChar c := by
  unfold titleChar
  split
  · rename_i codes found
    obtain ⟨before, after, table, _⟩ := List.lookup_eq_some_iff.mp found
    exact .inl ⟨(c.toNat, codes), by simp [table], rfl⟩
  · exact .inr rfl

theorem titleChar_ne_nil (c : Char) : titleChar c ≠ [] := by
  have listed : ∀ entry ∈ titleExceptions, entry.2.map Char.ofNat ≠ [] := by decide +kernel
  rcases titleChar_cases c with ⟨entry, isEntry, form⟩ | form
  · rw [form]
    exact listed entry isEntry
  · rw [form]
    exact upperChar_ne_nil c

theorem not_isBlank_of_mem_titleChar {c x : Char} (isForm : x ∈ titleChar c)
    (notBlank : isBlank c = false) : isBlank x = false := by
  have listed : ∀ entry ∈ titleExceptions, ∀ code ∈ entry.2, isBlank (Char.ofNat code) = false := by
    decide +kernel
  rcases titleChar_cases c with ⟨entry, isEntry, form⟩ | form
  · rw [form] at isForm
    obtain ⟨code, isCode, rfl⟩ := List.mem_map.mp isForm
    exact listed entry isEntry code isCode
  · rw [Bool.eq_false_iff] at notBlank ⊢
    exact fun blank => notBlank (isBlank_of_mem_upperChar (form ▸ isForm) blank)

theorem a_not_mem_titleChar (c : Char) : 'a' ∉ titleChar c := by
  have listed : ∀ entry ∈ titleExceptions, 'a' ∉ entry.2.map Char.ofNat := by decide +kernel
  rcases titleChar_cases c with ⟨entry, isEntry, form⟩ | form
  · rw [form]
    exact listed entry isEntry
  · rw [form]
    intro isForm
    exact absurd (upperChar_of_mem_upperChar isForm) (by decide +kernel)

/-- A capitalised word is a word. -/
theorem isWord_capitalize {word : List Char} (isWord : IsWord word) : IsWord (capitalize word) := by
  obtain ⟨notEmpty, noBlank⟩ := isWord
  obtain ⟨c, rest, rfl⟩ := List.exists_cons_of_ne_nil notEmpty
  rw [List.forall_mem_cons] at noBlank
  constructor
  · exact List.append_ne_nil_of_left_ne_nil (titleChar_ne_nil c) _
  · rw [capitalize, List.forall_mem_append]
    exact ⟨fun x isForm => not_isBlank_of_mem_titleChar isForm noBlank.1,
      not_isBlank_of_mem_lowerAfter noBlank.2⟩

/-- A capitalised word does not begin with a small a. -/
theorem head?_capitalize_ne (word : List Char) : (capitalize word).head? ≠ some 'a' := by
  cases word with
  | nil => exact nofun
  | cons c rest =>
    obtain ⟨first, others, form⟩ := List.exists_cons_of_ne_nil (titleChar_ne_nil c)
    intro begins
    rw [capitalize, form, List.cons_append, List.head?_cons, Option.some.injEq] at begins
    exact a_not_mem_titleChar c (form ▸ begins ▸ List.mem_cons_self)

end Checkout.Text.Case
