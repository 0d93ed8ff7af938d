import Checkout.Offer.Book
import Checkout.Proofs.Entries
import Checkout.Proofs.Outcomes

/-!
# Shared descriptions

When a book is made, its rules are counted by their descriptions, and the journal warns of every
description that several rules share.  Whether rules apply to a basket plays no part in that: the
rules that apply are among all rules, so what they share was warned of, and rules that share nothing
never will.
-/

namespace Checkout

/-- Whether a rule goes by a description. -/
def Rule.isCalled (description : String) (rule : Rule) : Bool :=
  rule.description.toOption == some description

namespace Offer.Book

/-- Rules go by the descriptions of a list, in order. -/
def Described (rules : List Rule) (descriptions : List String) : Prop :=
  List.Forall₂ (fun rule description => rule.description = .ok description) rules descriptions

variable {rules : List Rule} {descriptions : List String}

theorem exists_described
    (each : ∀ rule ∈ rules, ∃ description, rule.description = .ok description) :
    ∃ descriptions, Described rules descriptions := by
  obtain ⟨descriptions, described⟩ := exists_mapM_eq_ok_iff.mpr each
  exact ⟨descriptions, mapM_eq_ok_iff.mp described⟩

theorem Described.mapM_eq (described : Described rules descriptions) :
    rules.mapM Rule.description = .ok descriptions :=
  mapM_eq_ok_iff.mpr described

/-- As many rules go by a description as it is listed times. -/
theorem Described.count_eq (described : Described rules descriptions) (description : String) :
    descriptions.count description = rules.countP (Rule.isCalled description) := by
  induction described with
  | nil => rfl
  | @cons rule known rules descriptions first _ ih =>
    have called : rule.isCalled description = (known == description) := by
      rw [Rule.isCalled, first]
      rfl
    rw [List.count_cons, List.countP_cons, ih, called]

/-- The descriptions are read off the rules. -/
theorem Described.map_eq (described : Described rules descriptions) :
    rules.map (fun rule => rule.description.toOption.getD "") = descriptions := by
  induction described with
  | nil => rfl
  | cons first _ ih =>
    rw [List.map_cons, ih, first]
    rfl

/-! ## The warnings -/

/-- The tally of texts counts each of them, in the order of first occurrence. -/
theorem tally_eq (texts : List String) : tally texts = Entries.tally texts := by
  rw [← Entries.collect_ones, Entries.collect, List.foldl_map]
  rfl

/-- There is a warning for every description that is listed more than once, in the order of first
occurrence, and there is no other. -/
theorem sharedRecords_eq (descriptions : List String) :
    sharedRecords descriptions =
      (descriptions.eraseDups.filter fun description => 2 ≤ descriptions.count description).map
        fun description => sharedRecord description (descriptions.count description) := by
  rw [sharedRecords, tally_eq, Entries.tally, List.filterMap_map]
  induction descriptions.eraseDups with
  | nil => rfl
  | cons description rest ih =>
    rw [List.filterMap_cons, ih, List.filter_cons]
    by_cases shared : 2 ≤ descriptions.count description
    · have several : 1 < descriptions.count description := shared
      simp [shared, several]
    · have single : ¬1 < descriptions.count description := shared
      simp [shared, single]

/-- Rules with descriptions make a book, and nothing but the warnings is written. -/
theorem Described.ofRules_eq (described : Described rules descriptions) :
    ofRules rules = ⟨sharedRecords descriptions, .ok ⟨rules⟩⟩ := by
  have opened : ofRules rules = ⟨sharedRecords descriptions ++ [], .ok ⟨rules⟩⟩ := by
    rw [ofRules, described.mapM_eq]
    rfl
  rw [opened, List.append_nil]

/-- A description that several rules go by is warned of. -/
theorem mem_sharedRecords {description : String} (shared : 2 ≤ descriptions.count description) :
    sharedRecord description (descriptions.count description) ∈ sharedRecords descriptions := by
  rw [sharedRecords_eq]
  apply List.mem_map_of_mem
  rw [List.mem_filter, List.mem_eraseDups]
  exact ⟨List.count_pos_iff.mp (by omega), by simpa using shared⟩

/-- Where there is no warning, no two rules go by one description. -/
theorem nodup_of_sharedRecords_eq_nil (silent : sharedRecords descriptions = []) :
    descriptions.Nodup := by
  rw [List.nodup_iff_count_le_one]
  intro description
  by_contra several
  have warned := mem_sharedRecords (Nat.lt_of_not_le several)
  rw [silent] at warned
  cases warned

end Offer.Book

end Checkout
