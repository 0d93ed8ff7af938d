import Checkout.Problem
import Mathlib.Data.List.Forall2

/-!
# Outcomes of several operations

An operation that is done on one item after another succeeds exactly if it succeeds on each of them,
and then it lists the results in order.  Questions that are asked one after another, up to the first
that is denied, answer whether all of them hold.
-/

namespace Checkout

/-- Each item is related to something if all of them are related to some list, one by one. -/
theorem exists_forall₂_iff {Item Other : Type} {Related : Item → Other → Prop}
    {items : List Item} :
    (∃ others, List.Forall₂ Related items others) ↔
      ∀ item ∈ items, ∃ other, Related item other := by
  induction items with
  | nil => simp
  | cons item rest ih =>
    simp only [List.forall₂_cons_left_iff, List.forall_mem_cons, ← ih]
    constructor
    · rintro ⟨_, first, others, isFirst, areOthers, _⟩
      exact ⟨⟨first, isFirst⟩, others, areOthers⟩
    · rintro ⟨⟨first, isFirst⟩, others, areOthers⟩
      exact ⟨_, first, others, isFirst, areOthers, rfl⟩

variable {Cause Item Result : Type} {operation : Item → Except Cause Result} {items : List Item}

theorem mapM_eq_ok_iff {results : List Result} :
    items.mapM operation = .ok results ↔
      List.Forall₂ (fun item result => operation item = .ok result) items results := by
  induction items generalizing results with
  | nil => cases results <;> simp [pure, Except.pure]
  | cons item rest ih =>
    have unfolded : (item :: rest).mapM operation =
        (operation item).bind fun first => (rest.mapM operation).bind fun others =>
          .ok (first :: others) := List.mapM_cons
    rw [unfolded, bind_eq_ok_iff, List.forall₂_cons_left_iff]
    constructor
    · rintro ⟨first, isFirst, next⟩
      obtain ⟨others, areOthers, same⟩ := bind_eq_ok_iff.mp next
      cases same
      exact ⟨first, others, isFirst, ih.mp areOthers, rfl⟩
    · rintro ⟨first, others, isFirst, areOthers, rfl⟩
      exact ⟨first, isFirst, bind_eq_ok_iff.mpr ⟨others, ih.mpr areOthers, rfl⟩⟩

/-- There is a list of results if there is a result for each item. -/
theorem exists_mapM_eq_ok_iff :
    (∃ results, items.mapM operation = .ok results) ↔
      ∀ item ∈ items, ∃ result, operation item = .ok result := by
  simp only [mapM_eq_ok_iff, exists_forall₂_iff]

/-! ## Questions -/

/-- A question is answered, and affirmed exactly if a fact holds. -/
def Answers (question : Except Cause Bool) (fact : Prop) : Prop :=
  ∃ answer, question = .ok answer ∧ (answer = true ↔ fact)

theorem Answers.eq_ok_true_iff {question : Except Cause Bool} {fact : Prop}
    (answers : Answers question fact) : question = .ok true ↔ fact := by
  obtain ⟨answer, rfl, affirmed⟩ := answers
  rw [Except.ok.injEq, affirmed]

theorem Answers.congr {question : Except Cause Bool} {fact other : Prop}
    (answers : Answers question fact) (same : fact ↔ other) : Answers question other := by
  obtain ⟨answer, isAnswer, affirmed⟩ := answers
  exact ⟨answer, isAnswer, affirmed.trans same⟩

/-- A question is only asked under a condition. -/
theorem Answers.under {question : Except Cause Bool} {fact : Prop}
    (answers : Answers question fact) (condition : Prop) [Decidable condition] :
    Answers (if condition then question else .ok false) (condition ∧ fact) := by
  by_cases holds : condition
  · simpa [holds] using answers
  · exact ⟨false, if_neg holds, by simp [holds]⟩

/-- A second question is only asked if the first is affirmed. -/
theorem Answers.and {first second : Except Cause Bool} {fact other : Prop}
    (answersFirst : Answers first fact) (answersSecond : Answers second other) :
    Answers (do if ← first then second else .ok false) (fact ∧ other) := by
  obtain ⟨answer, rfl, affirmed⟩ := answersFirst
  rw [← affirmed]
  exact answersSecond.under (answer = true)

end Checkout
