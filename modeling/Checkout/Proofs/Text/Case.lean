import Checkout.Proofs.Text.Words
import Checkout.Text.Case
import Mathlib.Data.List.Basic

/-!
# Upper case and classes of characters

Upper-casing may turn one letter into several and many letters into one, but it keeps apart what
data files are made of: no letter becomes a blank, a figure, or a letter of a number or of a
keyword, unless it is one itself in either case.  A class is checked against the table of mappings
once: the table is finite, and of every run only those letters matter that are mapped into the
class.  What holds of characters then holds of words.
-/

namespace Checkout.Text.Case

/-! ## Classes that upper-casing reflects -/

/-- Whether no code point but those of a class has a code point of the class in its upper-case
form.  In a run the code point that is mapped to a given one lies `shift` before it. -/
def reflects (codes : List Nat) : Bool :=
  !codes.contains 0 &&
    upperSpecials.all (fun entry => entry.2.all fun code => !codes.contains code) &&
    upperRuns.all fun run => codes.all fun code =>
      let source := (code - run.shift).toNat
      run.image? source != some code || codes.contains source

theorem eq_of_image? {run : Run} {code target : Nat} (mapped : run.image? code = some target)
    (positive : 0 < target) : code = (target - run.shift).toNat := by
  unfold Run.image? at mapped
  split at mapped
  · rw [Option.some.injEq] at mapped
    omega
  · cases mapped

theorem mem_of_mem_image {codes : List Nat} (closed : reflects codes = true) {code target : Nat}
    (isImage : target ∈ image upperSpecials upperRuns code) (known : target ∈ codes) :
    code ∈ codes := by
  simp only [reflects, Bool.and_eq_true, List.all_eq_true, Bool.not_eq_true',
    List.contains_eq_mem, decide_eq_false_iff_not, Bool.or_eq_true, decide_eq_true_eq,
    bne_iff_ne] at closed
  obtain ⟨⟨noZero, noSpecial⟩, runsClosed⟩ := closed
  unfold image at isImage
  split at isImage
  · rename_i special found
    obtain ⟨before, after, table, _⟩ := List.lookup_eq_some_iff.mp found
    have isEntry : (code, special) ∈ upperSpecials := by simp [table]
    exact absurd known (noSpecial _ isEntry target isImage)
  · -- A code point without a special form has one image: itself, or that of the run it lies in.
    rw [List.mem_singleton] at isImage
    cases moved : upperRuns.findSome? (·.image? code) with
    | none =>
      rw [moved, Option.getD_none] at isImage
      exact isImage ▸ known
    | some found =>
      rw [moved, Option.getD_some] at isImage
      subst isImage
      obtain ⟨run, isRun, mapped⟩ := List.exists_of_findSome?_eq_some moved
      have positive : 0 < target := Nat.pos_of_ne_zero fun zero => noZero (zero ▸ known)
      have source := eq_of_image? mapped positive
      rcases runsClosed run isRun target known with other | isCode
      · exact absurd (source ▸ mapped) other
      · exact source ▸ isCode

theorem toNat_ofNat_cases (code : Nat) :
    (Char.ofNat code).toNat = code ∨ (Char.ofNat code).toNat = 0 := by
  by_cases valid : code.isValidChar
  · exact .inl (congrArg Char.toNat (dif_pos valid))
  · exact .inr (congrArg Char.toNat (dif_neg valid))

/-- A character whose upper-case form holds a character of such a class belongs to the class. -/
theorem toNat_mem_of_mem_upperChar {codes : List Nat} (closed : reflects codes = true) {c x : Char}
    (isForm : x ∈ upperChar c) (known : x.toNat ∈ codes) : c.toNat ∈ codes := by
  obtain ⟨target, isImage, rfl⟩ := List.mem_map.mp isForm
  rcases toNat_ofNat_cases target with same | zero
  · rw [same] at known
    exact mem_of_mem_image closed isImage known
  · rw [zero] at known
    simp [reflects, known] at closed

theorem upperChar_ne_nil (c : Char) : upperChar c ≠ [] := by
  have specialForms : ∀ entry ∈ upperSpecials, entry.2 ≠ [] := by decide +kernel
  unfold upperChar image
  split
  · rename_i special found
    obtain ⟨before, after, table, _⟩ := List.lookup_eq_some_iff.mp found
    have isEntry : (c.toNat, special) ∈ upperSpecials := by simp [table]
    simpa using specialForms _ isEntry
  · simp

/-! ## Blanks -/

/-- The code points of the blank characters. -/
def blankCodes : List Nat :=
  [0x09, 0x0A, 0x0B, 0x0C, 0x0D, 0x1C, 0x1D, 0x1E, 0x1F, 0x20, 0x85, 0xA0, 0x1680, 0x2000, 0x2001,
   0x2002, 0x2003, 0x2004, 0x2005, 0x2006, 0x2007, 0x2008, 0x2009, 0x200A, 0x2028, 0x2029, 0x202F,
   0x205F, 0x3000]

theorem isBlank_iff {c : Char} : isBlank c = true ↔ c.toNat ∈ blankCodes := by
  simp only [isBlank, blankCodes, Bool.or_eq_true, Bool.and_eq_true, decide_eq_true_eq,
    beq_iff_eq, List.mem_cons, List.not_mem_nil, or_false]
  omega

/-- Upper-casing makes no blank. -/
theorem isBlank_of_mem_upperChar {c x : Char} (isForm : x ∈ upperChar c)
    (blank : isBlank x = true) : isBlank c = true := by
  have closed : reflects blankCodes = true := by decide +kernel
  rw [isBlank_iff] at blank ⊢
  exact toNat_mem_of_mem_upperChar closed isForm blank

/-- The upper-case form of a word is a word. -/
theorem isWord_upper {word : List Char} (isWord : IsWord word) : IsWord (upper word) := by
  obtain ⟨notEmpty, noBlank⟩ := isWord
  constructor
  · cases word with
    | nil => exact absurd rfl notEmpty
    | cons c rest => simp [upperChar_ne_nil c]
  · intro x isIn
    obtain ⟨c, inWord, isForm⟩ := List.mem_flatMap.mp isIn
    by_contra blank
    rw [Bool.not_eq_false] at blank
    have source := isBlank_of_mem_upperChar isForm blank
    rw [noBlank c inWord] at source
    cases source

/-! ## Words of a class -/

/-- The characters of a class are mapped one to one into the class, and no others are. -/
structure IsClass (chars : List Char) (form : Char → Char) : Prop where
  closed : reflects (chars.map Char.toNat) = true
  upper_eq : ∀ c ∈ chars, upperChar c = [form c]
  form_mem : ∀ c ∈ chars, form c ∈ chars

/-- A class is checked character by character. -/
theorem IsClass.of_check {chars : List Char} {form : Char → Char}
    (closed : reflects (chars.map Char.toNat) = true)
    (mapped : (chars.all fun c => upperChar c == [form c] && chars.contains (form c)) = true) :
    IsClass chars form := by
  simp only [List.all_eq_true, Bool.and_eq_true, beq_iff_eq, List.contains_iff_mem] at mapped
  exact ⟨closed, fun c isIn => (mapped c isIn).1, fun c isIn => (mapped c isIn).2⟩

theorem IsClass.mem_of_mem_upperChar {chars : List Char} {form : Char → Char}
    (isClass : IsClass chars form) {c x : Char} (isForm : x ∈ upperChar c) (known : x ∈ chars) :
    c ∈ chars := by
  have code := toNat_mem_of_mem_upperChar isClass.closed isForm (List.mem_map_of_mem known)
  obtain ⟨d, inClass, same⟩ := List.mem_map.mp code
  rw [← Char.toNat_inj.mp same]
  exact inClass

/-- A word is of the class if its upper-case form is. -/
theorem IsClass.forall_mem_of_upper {chars : List Char} {form : Char → Char}
    (isClass : IsClass chars form) {word : List Char} (all : ∀ x ∈ upper word, x ∈ chars) :
    ∀ c ∈ word, c ∈ chars := by
  intro c inWord
  obtain ⟨x, isForm⟩ := List.exists_mem_of_ne_nil _ (upperChar_ne_nil c)
  exact isClass.mem_of_mem_upperChar isForm (all x (List.mem_flatMap.mpr ⟨c, inWord, isForm⟩))

theorem IsClass.upper_eq_map {chars : List Char} {form : Char → Char}
    (isClass : IsClass chars form) {word : List Char} (all : ∀ c ∈ word, c ∈ chars) :
    upper word = word.map form := by
  induction word with
  | nil => rfl
  | cons c rest ih =>
    rw [upper_cons, isClass.upper_eq c (all c List.mem_cons_self), List.map_cons,
      ih fun d isIn => all d (List.mem_cons_of_mem _ isIn)]
    rfl

/-- A word that is the same in upper case as a word of the class is of the class, and the same
letter by letter. -/
theorem IsClass.of_upper_eq {chars : List Char} {form : Char → Char} (isClass : IsClass chars form)
    {first second : List Char} (same : upper first = upper second)
    (all : ∀ c ∈ first, c ∈ chars) :
    (∀ c ∈ second, c ∈ chars) ∧ first.map form = second.map form := by
  have mapped := isClass.upper_eq_map all
  have allSecond : ∀ c ∈ second, c ∈ chars := by
    apply isClass.forall_mem_of_upper
    rw [← same, mapped]
    intro x isIn
    obtain ⟨c, inFirst, rfl⟩ := List.mem_map.mp isIn
    exact isClass.form_mem c (all c inFirst)
  exact ⟨allSecond, by rw [← mapped, same, isClass.upper_eq_map allSecond]⟩

/-- What holds only of words of the class, in either case, holds alike of words that are the same in
upper case. -/
theorem IsClass.iff_of_upper_eq {chars : List Char} {form : Char → Char}
    (isClass : IsClass chars form) {holds : List Char → Prop}
    (within : ∀ {word}, holds word → ∀ c ∈ word, c ∈ chars)
    (inEither : ∀ word, holds (word.map form) ↔ holds word) {first second : List Char}
    (same : upper first = upper second) : holds first ↔ holds second := by
  have through : ∀ {first second : List Char}, upper first = upper second → holds first →
      holds second := by
    intro first second same known
    have mapped := (isClass.of_upper_eq same (within known)).2
    exact (inEither second).mp (mapped ▸ (inEither first).mpr known)
  exact ⟨through same, through same.symm⟩

/-- What only words of the class are read to, in either case, is read alike from words that are the
same in upper case. -/
theorem IsClass.read?_of_upper_eq {chars : List Char} {form : Char → Char} {Reading : Type}
    {read? : List Char → Option Reading} (isClass : IsClass chars form)
    (within : ∀ {word reading}, read? word = some reading → ∀ c ∈ word, c ∈ chars)
    (inEither : ∀ word, read? (word.map form) = read? word) {first second : List Char}
    (same : upper first = upper second) : read? first = read? second :=
  Option.ext fun reading =>
    isClass.iff_of_upper_eq (fun read => within read) (fun word => by rw [inEither]) same

/-! ## Figures -/

/-- The characters of amounts, counts and percentages. -/
def figures : List Char :=
  ['0', '1', '2', '3', '4', '5', '6', '7', '8', '9', '.', '%']

theorem isClass_figures : IsClass figures id :=
  .of_check (by decide +kernel) (by decide +kernel)

theorem mem_figures_of_isDigit {c : Char} (digit : c.isDigit = true) : c ∈ figures := by
  have bounds : 48 ≤ c.toNat ∧ c.toNat ≤ 57 := by
    simp only [Char.isDigit, Bool.and_eq_true, decide_eq_true_eq, UInt32.le_iff_toNat_le] at digit
    exact digit
  have codes : ∀ code ∈ List.range 58, 48 ≤ code → Char.ofNat code ∈ figures := by decide
  rw [← Char.ofNat_toNat c]
  exact codes c.toNat (List.mem_range.mpr (Nat.lt_succ_of_le bounds.2)) bounds.1

/-- A word of figures is no other word in upper case. -/
theorem eq_of_upper_eq_of_figures {first second : List Char} (same : upper first = upper second)
    (all : ∀ c ∈ first, c ∈ figures) : first = second := by
  have mapped := (isClass_figures.of_upper_eq same all).2
  rwa [List.map_id, List.map_id] at mapped

/-- A check that only words of figures pass is passed alike by words that are the same in upper
case. -/
theorem check_of_upper_eq {check : List Char → Bool}
    (within : ∀ {word}, check word = true → ∀ c ∈ word, c ∈ figures) {first second : List Char}
    (same : upper first = upper second) : check first = check second :=
  Bool.eq_iff_iff.mpr
    (isClass_figures.iff_of_upper_eq within (fun word => by rw [List.map_id]) same)

end Checkout.Text.Case
