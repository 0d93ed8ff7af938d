import Checkout.Proofs.Basket.Filled
import Checkout.Proofs.Item

/-!
# Baskets count what was added to them

A customer asks for one item after another, in any spelling.  Whether an item is added depends only
on its name and the catalog, never on what the basket holds, and a request that fails changes
nothing.  So after any requests the basket is the tally of the items that were added: each of them
once, in the order in which they were first added, with the number of times that they were.
-/

namespace Checkout

/-! ## Names of references -/

/-- The normalized name that a reference gives to an item. -/
def ItemRef.name : ItemRef → String
  | .named raw => normalizeName raw
  | .known item => item.name

theorem ItemRef.resolve_eq_ok_iff {reference : ItemRef} {item : ItemId} :
    reference.resolve = .ok item ↔ item.name = reference.name := by
  cases reference with
  | named raw =>
    have spelled : ItemId.ofName? raw = some item ↔ normalizeName raw = item.name :=
      ItemId.ofName?_eq_some_iff
    rw [resolve, ItemId.ofName, name, eq_comm (a := item.name), ← spelled]
    cases ItemId.ofName? raw <;> simp
  | known other =>
    rw [resolve, name, Except.ok.injEq]
    constructor
    · rintro rfl
      rfl
    · exact fun same => (ItemId.ext same).symm

/-- Only a blank name refers to no item. -/
theorem ItemRef.resolve_of_name_eq_empty {reference : ItemRef} (blank : reference.name = "") :
    ∃ raw, reference = .named raw ∧ reference.resolve = .error (.blankItem raw) := by
  cases reference with
  | named raw =>
    refine ⟨raw, rfl, ?_⟩
    have missing : ItemId.ofName? raw = none := dif_neg (not_not.mpr blank)
    rw [resolve, ItemId.ofName, missing]
  | known item => exact absurd blank item.normalized.2

theorem ItemRef.exists_resolve {reference : ItemRef} (named : reference.name ≠ "") :
    ∃ item, reference.resolve = .ok item ∧ item.name = reference.name := by
  cases reference with
  | named raw =>
    have found : ItemId.ofName? raw = some ⟨normalizeName raw, ⟨raw, rfl⟩, named⟩ := dif_pos named
    refine ⟨⟨normalizeName raw, ⟨raw, rfl⟩, named⟩, ?_, rfl⟩
    rw [resolve, ItemId.ofName, found]
  | known item => exact ⟨item, rfl, rfl⟩

namespace Basket

/-! ## One request -/

/-- The basket after a request for an item.  One that fails leaves the basket as it was. -/
def next (basket : Basket) (reference : ItemRef) : Basket :=
  match (basket.add reference).outcome with
  | .ok (_, changed) => changed
  | .error _ => basket

/-- The item that a request adds, if it does not fail. -/
def added? (basket : Basket) (reference : ItemRef) : Option ItemId :=
  match (basket.add reference).outcome with
  | .ok (item, _) => some item
  | .error _ => none

/-- What comes of a request: it succeeds exactly if the catalog has an item of the name.  Otherwise
a blank name is refused as such and any other as unknown, and the basket stays as it was. -/
structure Judges (catalog : Catalog) (basket : Basket) (reference : ItemRef) : Prop where
  succeeds_iff : (∃ result, (basket.add reference).outcome = .ok result) ↔
    reference.name ≠ "" ∧ ∃ item ∈ catalog.items, item.name = reference.name
  added : ∀ item ∈ catalog.items, item.name = reference.name →
    (basket.add reference).outcome = .ok (item, basket.put item)
  blank : reference.name = "" → ∃ raw, reference = .named raw ∧
    (basket.add reference).outcome = .error (.problem (.blankItem raw))
  unknown : reference.name ≠ "" → (¬∃ item ∈ catalog.items, item.name = reference.name) →
    (basket.add reference).outcome = .error (.problem (.unknownItem reference.name))
  kept : ∀ fault, (basket.add reference).outcome = .error fault → basket.next reference = basket

theorem add_of_mem {basket : Basket} {reference : ItemRef} {item : ItemId}
    (isItem : item ∈ basket.catalog.items) (sameName : item.name = reference.name) :
    (basket.add reference).outcome = .ok (item, basket.put item) := by
  refine add_eq_ok_iff.mpr ⟨accept_eq_ok_iff.mpr ⟨?_, ?_⟩, rfl⟩
  · exact ItemRef.resolve_eq_ok_iff.mpr sameName
  · exact Entries.get?_isSome_iff.mpr isItem

theorem add_of_blank (basket : Basket) {reference : ItemRef} (blank : reference.name = "") :
    ∃ raw, reference = .named raw ∧
      (basket.add reference).outcome = .error (.problem (.blankItem raw)) := by
  obtain ⟨raw, isRaw, failed⟩ := ItemRef.resolve_of_name_eq_empty blank
  have refused : basket.accept reference = .error (.blankItem raw) := by
    rw [accept, failed]
    rfl
  refine ⟨raw, isRaw, ?_⟩
  rw [add, refused]
  rfl

theorem add_of_unknown {basket : Basket} {reference : ItemRef} (named : reference.name ≠ "")
    (unknown : ¬∃ item ∈ basket.catalog.items, item.name = reference.name) :
    (basket.add reference).outcome = .error (.problem (.unknownItem reference.name)) := by
  obtain ⟨item, resolved, sameName⟩ := ItemRef.exists_resolve named
  have missing : (basket.catalog.price? item).isSome = false := by
    rw [Bool.eq_false_iff, ne_eq, Catalog.price?, Entries.get?_isSome_iff]
    exact fun isItem => unknown ⟨item, isItem, sameName⟩
  have refused : basket.accept reference = .error (.unknownItem reference.name) := by
    rw [accept, resolved, ← sameName]
    simp [bind, Except.bind, missing]
  rw [add, refused]
  rfl

/-- A basket of a catalog judges every request by its name alone. -/
theorem judges {catalog : Catalog} {basket : Basket} (same : basket.catalog = catalog)
    (reference : ItemRef) : Judges catalog basket reference := by
  subst same
  refine ⟨⟨?_, ?_⟩, fun _ => add_of_mem, add_of_blank basket, add_of_unknown, ?_⟩
  · rintro ⟨result, succeeds⟩
    refine ⟨fun blank => ?_, ?_⟩
    · obtain ⟨_, _, failed⟩ := add_of_blank basket blank
      rw [failed] at succeeds
      cases succeeds
    · obtain ⟨resolved, priced⟩ := accept_eq_ok_iff.mp (add_eq_ok_iff.mp succeeds).1
      exact ⟨result.1, Entries.get?_isSome_iff.mp priced, ItemRef.resolve_eq_ok_iff.mp resolved⟩
  · rintro ⟨_, item, isItem, sameName⟩
    exact ⟨_, add_of_mem isItem sameName⟩
  · intro fault failed
    rw [next, failed]

/-- A request puts the item that it adds into the basket, and nothing else. -/
theorem counts_next (basket : Basket) (reference : ItemRef) :
    (basket.next reference).counts =
      Entries.collect basket.counts
        ((basket.added? reference).toList.map fun item => (item, 1)) := by
  unfold next added?
  cases outcome : (basket.add reference).outcome with
  | error fault => rfl
  | ok result =>
    obtain ⟨item, changed⟩ := result
    rw [(add_eq_ok_iff.mp outcome).2]
    rfl

theorem Filled.next {catalog : Catalog} {basket : Basket} (filled : basket.Filled catalog)
    (reference : ItemRef) : (basket.next reference).Filled catalog := by
  unfold Basket.next
  cases outcome : (basket.add reference).outcome with
  | error fault => exact filled
  | ok result => exact filled.add outcome

/-! ## Requests one after another -/

/-- The basket after some requests. -/
def run (basket : Basket) : List ItemRef → Basket
  | [] => basket
  | reference :: rest => (basket.next reference).run rest

/-- The items that some requests add, in order. -/
def added (basket : Basket) : List ItemRef → List ItemId
  | [] => []
  | reference :: rest => (basket.added? reference).toList ++ (basket.next reference).added rest

theorem Filled.run {catalog : Catalog} {basket : Basket} (filled : basket.Filled catalog)
    (references : List ItemRef) : (basket.run references).Filled catalog := by
  induction references generalizing basket with
  | nil => exact filled
  | cons reference rest ih => exact ih (filled.next reference)

/-- Every item that is added is collected onto what the basket held before. -/
theorem counts_run (basket : Basket) (references : List ItemRef) :
    (basket.run references).counts =
      Entries.collect basket.counts ((basket.added references).map fun item => (item, 1)) := by
  induction references generalizing basket with
  | nil => rfl
  | cons reference rest ih =>
    rw [run, ih, counts_next, added, List.map_append, Entries.collect, Entries.collect,
      Entries.collect, List.foldl_append]

/-- A new basket is the tally of what is added to it. -/
theorem counts_run_empty (catalog : Catalog) (references : List ItemRef) :
    ((empty catalog).run references).counts =
      Entries.tally ((empty catalog).added references) := by
  rw [counts_run, ← Entries.collect_ones]
  rfl

theorem count_run_empty (catalog : Catalog) (references : List ItemRef) (item : ItemId) :
    ((empty catalog).run references).count item =
      ((empty catalog).added references).count item := by
  rw [count, counts_run, Entries.getD_collect, Entries.sumUnder_ones]
  exact Nat.zero_add _

theorem sum_counts_run_empty (catalog : Catalog) (references : List ItemRef) :
    (((empty catalog).run references).counts.map Prod.snd).sum =
      ((empty catalog).added references).length := by
  rw [← Entries.sumAll, counts_run, Entries.sumAll_collect, Entries.sumAll_ones]
  exact Nat.zero_add _

theorem quantityOf_of_name {basket : Basket} {reference : ItemRef} {item : ItemId}
    (sameName : item.name = reference.name) :
    basket.quantityOf reference = .ok (basket.count item) := by
  rw [quantityOf, ItemRef.resolve_eq_ok_iff.mpr sameName]
  rfl

/-! ## The main result -/

/-- A basket counts exactly what was added to it.  After any requests every further one is judged by
its name and the catalog, and changes nothing if it fails.  The basket lists the items that were
added, each once, in the order in which they were first added, with the number of times that they
were, which it also tells for every spelling of their names.  It tells zero for any other name that
is not blank.  No item is listed without a unit or without a price, and the units of all items are
as many as the requests that succeeded. -/
theorem run_counts_added (catalog : Catalog) (references : List ItemRef) :
    let basket := (empty catalog).run references
    let items := (empty catalog).added references
    (∀ reference, Judges catalog basket reference) ∧
      basket.counts = items.eraseDups.map (fun item => (item, items.count item)) ∧
      (basket.counts.map Prod.fst).Nodup ∧
      (∀ reference, ∀ item ∈ items, item.name = reference.name →
        basket.quantityOf reference = .ok (items.count item)) ∧
      (∀ reference, reference.name ≠ "" → (¬∃ item ∈ items, item.name = reference.name) →
        basket.quantityOf reference = .ok 0) ∧
      (∀ entry ∈ basket.counts, 1 ≤ entry.2 ∧ (catalog.price? entry.1).isSome = true) ∧
      (basket.counts.map Prod.snd).sum = items.length := by
  intro basket items
  have tidy := (Filled.empty.run references : basket.Filled catalog).tidy
  refine ⟨judges tidy.catalog_eq, counts_run_empty catalog references, tidy.distinct, ?_, ?_, ?_,
    sum_counts_run_empty catalog references⟩
  · intro reference item _ sameName
    rw [quantityOf_of_name sameName, count_run_empty]
  · intro reference named absent
    obtain ⟨item, _, sameName⟩ := ItemRef.exists_resolve named
    have none : items.count item = 0 :=
      List.count_eq_zero.mpr fun isItem => absent ⟨item, isItem, sameName⟩
    rw [quantityOf_of_name sameName, count_run_empty, none]
  · intro entry isEntry
    exact ⟨tidy.counted entry isEntry, tidy.priced entry isEntry⟩

/-- Soup is asked for in two spellings, and a blank name and an unknown item in between. -/
theorem run_counts_added_soup :
    let basket := (empty pantry).run
      [.named " soup", .named " ", .named "Caviar", .known bread, .named "SOUP"]
    basket.counts = [(soup, 2), (bread, 1)] ∧ basket.quantityOf (.named "Soup ") = .ok 2 ∧
      (basket.counts.map Prod.snd).sum = 3 := by
  intro basket
  have items : (empty pantry).added
      [.named " soup", .named " ", .named "Caviar", .known bread, .named "SOUP"] =
        [soup, bread, soup] := rfl
  obtain ⟨_, counts, _, quantities, _, _, sum⟩ := run_counts_added pantry
    [.named " soup", .named " ", .named "Caviar", .known bread, .named "SOUP"]
  rw [items] at counts quantities sum
  refine ⟨counts, ?_, sum⟩
  exact quantities (.named "Soup ") soup List.mem_cons_self (by decide +kernel)

end Basket

end Checkout
