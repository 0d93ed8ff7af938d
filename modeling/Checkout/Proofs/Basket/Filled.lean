import Checkout.Basket
import Checkout.Proofs.Entries

/-!
# Baskets that customers fill

A basket is filled from an empty one by adding items one after another, and an item that can not be
added leaves the basket as it was.  However it was filled, a basket belongs to its catalog, counts
every item once, counts no item that it does not hold, and holds only items that have a price.
-/

namespace Checkout.Basket

/-- The baskets that come from an empty basket of a catalog by adding items. -/
inductive Filled (catalog : Catalog) : Basket → Prop
  | empty : Filled catalog (.empty catalog)
  | add {basket next : Basket} {reference : ItemRef} {item : ItemId} :
      Filled catalog basket → (basket.add reference).outcome = .ok (item, next) →
        Filled catalog next

/-- What holds of a filled basket. -/
structure Tidy (catalog : Catalog) (basket : Basket) : Prop where
  catalog_eq : basket.catalog = catalog
  distinct : (basket.counts.map Prod.fst).Nodup
  counted : ∀ entry ∈ basket.counts, 0 < entry.2
  priced : ∀ entry ∈ basket.counts, (catalog.price? entry.1).isSome = true

theorem accept_eq_ok_iff {basket : Basket} {reference : ItemRef} {item : ItemId} :
    basket.accept reference = .ok item ↔
      reference.resolve = .ok item ∧ (basket.catalog.price? item).isSome = true := by
  unfold accept
  cases reference.resolve with
  | error problem => simp [bind, Except.bind]
  | ok known =>
    simp only [bind, Except.bind]
    split
    · rename_i found
      simp only [Except.ok.injEq]
      constructor
      · rintro rfl
        exact ⟨rfl, found⟩
      · exact And.left
    · rename_i missing
      simp only [reduceCtorEq, Except.ok.injEq, false_iff, not_and]
      rintro rfl
      exact missing

/-- An item is added exactly when it is accepted, and then it is put into the basket. -/
theorem add_eq_ok_iff {basket next : Basket} {reference : ItemRef} {item : ItemId} :
    (basket.add reference).outcome = .ok (item, next) ↔
      basket.accept reference = .ok item ∧ next = basket.put item := by
  unfold add
  cases accepted : basket.accept reference with
  | error problem => simp
  | ok known =>
    simp only [Logged.outcome_bind, Logged.outcome_tell, Except.bind, Logged.outcome_pure,
      Except.ok.injEq, Prod.mk.injEq]
    constructor
    · rintro ⟨rfl, rfl⟩
      exact ⟨rfl, rfl⟩
    · rintro ⟨rfl, rfl⟩
      exact ⟨rfl, rfl⟩

theorem tidy_empty (catalog : Catalog) : Tidy catalog (.empty catalog) :=
  ⟨rfl, List.nodup_nil, by simp [empty], by simp [empty]⟩

/-- Putting an item that has a price into a tidy basket keeps the basket tidy. -/
theorem Tidy.put {catalog : Catalog} {basket : Basket} {item : ItemId} (tidy : Tidy catalog basket)
    (priced : (catalog.price? item).isSome = true) : Tidy catalog (basket.put item) := by
  have distinct : ((basket.put item).counts.map Prod.fst).Nodup :=
    Entries.nodup_put tidy.distinct
  have origin : ∀ entry ∈ (basket.put item).counts,
      entry = (item, basket.count item + 1) ∨ entry ∈ basket.counts := by
    rintro ⟨known, count⟩ isEntry
    rw [Entries.mem_iff_get? distinct, Basket.put, Entries.get?_put] at isEntry
    split at isEntry
    · rename_i same
      rw [← same, ← Option.some.inj isEntry]
      exact .inl rfl
    · exact .inr ((Entries.mem_iff_get? tidy.distinct).mpr isEntry)
  refine ⟨tidy.catalog_eq, distinct, ?_, ?_⟩
  · intro entry isEntry
    rcases origin entry isEntry with rfl | old
    · exact Nat.succ_pos _
    · exact tidy.counted entry old
  · intro entry isEntry
    rcases origin entry isEntry with rfl | old
    · exact priced
    · exact tidy.priced entry old

theorem Filled.tidy {catalog : Catalog} {basket : Basket} (filled : Filled catalog basket) :
    Tidy catalog basket := by
  induction filled with
  | empty => exact tidy_empty catalog
  | add _ added tidy =>
    rcases add_eq_ok_iff.mp added with ⟨accepted, rfl⟩
    rw [accept_eq_ok_iff, tidy.catalog_eq] at accepted
    exact tidy.put accepted.2

/-! ## Counts -/

theorem count_put (basket : Basket) (item other : ItemId) :
    (basket.put item).count other = basket.count other + if item = other then 1 else 0 := by
  unfold count put
  rw [Entries.get?_put]
  split
  · rename_i same
    rw [same]
    rfl
  · rfl

/-- A tidy basket lists an item with its count, and no other. -/
theorem Tidy.get?_counts {catalog : Catalog} {basket : Basket} (tidy : Tidy catalog basket)
    (item : ItemId) :
    Entries.get? item basket.counts =
      if basket.count item = 0 then none else some (basket.count item) := by
  unfold count
  cases found : Entries.get? item basket.counts with
  | none => rfl
  | some listed =>
    have counted : 0 < listed :=
      tidy.counted _ ((Entries.mem_iff_get? tidy.distinct).mpr found)
    rw [Option.getD_some, if_neg (Nat.ne_of_gt counted)]

theorem Tidy.mem_counts_iff {catalog : Catalog} {basket : Basket} (tidy : Tidy catalog basket)
    {item : ItemId} {listed : Nat} :
    (item, listed) ∈ basket.counts ↔ listed = basket.count item ∧ 0 < listed := by
  rw [Entries.mem_iff_get? tidy.distinct, tidy.get?_counts]
  split <;> simp <;> omega

/-- Two tidy baskets with equal counts list the same, up to the order. -/
theorem Tidy.perm_of_count_eq {catalog : Catalog} {first second : Basket}
    (firstTidy : Tidy catalog first) (secondTidy : Tidy catalog second)
    (equal : ∀ item, first.count item = second.count item) : first.counts.Perm second.counts := by
  apply Entries.perm_of_get?_eq firstTidy.distinct secondTidy.distinct
  intro item
  rw [firstTidy.get?_counts, secondTidy.get?_counts, equal]

/-! ## A small basket -/

/-- An item of the small catalog below. -/
def bread : ItemId :=
  ⟨"BREAD", ⟨"Bread", rfl⟩, by decide⟩

/-- The other item of the small catalog. -/
def soup : ItemId :=
  ⟨"SOUP", ⟨"Soup", rfl⟩, by decide⟩

/-- A catalog of bread and soup. -/
def pantry : Catalog :=
  ⟨[(bread, .finite false 80 (-2)), (soup, .finite false 65 (-2))], by decide, by decide⟩

/-- A basket with two units of soup and one of bread, soup first. -/
def meal : Basket :=
  (((Basket.empty pantry).put soup).put bread).put soup

theorem filled_meal : Filled pantry meal := by
  have first : ((Basket.empty pantry).add (.named "soup")).outcome =
      .ok (soup, (Basket.empty pantry).put soup) := rfl
  have second : (((Basket.empty pantry).put soup).add (.named "Bread")).outcome =
      .ok (bread, ((Basket.empty pantry).put soup).put bread) := rfl
  have third : ((((Basket.empty pantry).put soup).put bread).add (.known soup)).outcome =
      .ok (soup, meal) := rfl
  exact ((Filled.empty.add first).add second).add third

end Checkout.Basket
