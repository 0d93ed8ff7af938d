import Checkout.Proofs.Basket.Filled
import Checkout.Shop

/-!
# Runs of a session

A session of a shop is a list of steps, each of which adds an item to the basket of some name or
fails and changes nothing.  However the steps for several baskets are interleaved, every basket is a
filled one, and it counts exactly the items that were added to it.
-/

namespace Checkout.Session

/-! ## Steps and runs -/

/-- The session after a step, which is the name of a basket and a reference to an item.  A step that
fails leaves the session as it was. -/
def next (session : Session) (step : String × ItemRef) : Session :=
  match (session.add step.1 step.2).outcome with
  | .ok (_, changed) => changed
  | .error _ => session

/-- The item that a step adds, if it does not fail. -/
def added? (session : Session) (step : String × ItemRef) : Option ItemId :=
  match (session.add step.1 step.2).outcome with
  | .ok (item, _) => some item
  | .error _ => none

/-- The session after some steps. -/
def run (session : Session) : List (String × ItemRef) → Session
  | [] => session
  | step :: rest => (session.next step).run rest

/-- The items that some steps add to the basket of a name, in order. -/
def addedTo (name : String) (session : Session) : List (String × ItemRef) → List ItemId
  | [] => []
  | step :: rest =>
    (if step.1 = name then (session.added? step).toList else []) ++
      addedTo name (session.next step) rest

/-! ## One step -/

theorem basket_put (session : Session) (name other : String) (basket : Basket) :
    (session.put name basket).basket other =
      if name = other then basket else session.basket other := by
  rw [Session.basket, put, Entries.get?_put]
  split
  · rfl
  · rfl

/-- A step puts the basket that the item was added to into its place. -/
theorem add_eq_ok {session changed : Session} {name : String} {reference : ItemRef} {item : ItemId}
    (added : (session.add name reference).outcome = .ok (item, changed)) :
    ∃ basket, ((session.basket name).add reference).outcome = .ok (item, basket) ∧
      changed = session.put name basket := by
  rw [add, Logged.outcome_bind] at added
  obtain ⟨⟨known, basket⟩, outcome, same⟩ := bind_eq_ok_iff.mp added
  cases same
  exact ⟨basket, outcome, rfl⟩

/-- What holds of a session however it has gone on: its shop is the one it was started with, and its
baskets are filled from the catalog of the shop. -/
structure Proper (shop : Shop) (session : Session) : Prop where
  shop_eq : session.shop = shop
  filled : ∀ name, (session.basket name).Filled shop.catalog

theorem proper_start (shop : Shop) : Proper shop (start shop) :=
  ⟨rfl, fun _ => .empty⟩

theorem Proper.next {shop : Shop} {session : Session} (proper : Proper shop session)
    (step : String × ItemRef) : Proper shop (session.next step) := by
  unfold Session.next
  split
  · rename_i item changed added
    rcases add_eq_ok added with ⟨basket, isAdded, rfl⟩
    refine ⟨proper.shop_eq, fun name => ?_⟩
    rw [basket_put]
    split
    · exact (proper.filled step.1).add isAdded
    · exact proper.filled name
  · exact proper

/-- A step changes the count of an item in a basket exactly if it adds the item to it. -/
theorem count_next (session : Session) (step : String × ItemRef) (name : String) (item : ItemId) :
    ((session.next step).basket name).count item =
      (session.basket name).count item +
        (if step.1 = name then (session.added? step).toList else []).count item := by
  unfold Session.next added?
  split
  · rename_i known changed added
    rcases add_eq_ok added with ⟨basket, isAdded, rfl⟩
    rw [(Basket.add_eq_ok_iff.mp isAdded).2, basket_put]
    split
    · rename_i same
      rw [← same, Basket.count_put, Option.toList_some, List.count_singleton]
      simp only [beq_iff_eq]
    · rfl
  · simp

/-! ## Whole runs -/

theorem Proper.run {shop : Shop} {session : Session} (proper : Proper shop session)
    (steps : List (String × ItemRef)) : Proper shop (session.run steps) := by
  induction steps generalizing session with
  | nil => exact proper
  | cons step rest ih => exact ih (proper.next step)

/-- After a run a basket counts what it counted before and what was added to it. -/
theorem count_run (session : Session) (steps : List (String × ItemRef)) (name : String)
    (item : ItemId) :
    ((session.run steps).basket name).count item =
      (session.basket name).count item + (addedTo name session steps).count item := by
  induction steps generalizing session with
  | nil => rfl
  | cons step rest ih =>
    rw [Session.run, ih, count_next, addedTo, List.count_append, Nat.add_assoc]

/-- A basket of a new session counts exactly what was added to it. -/
theorem count_run_start (shop : Shop) (steps : List (String × ItemRef)) (name : String)
    (item : ItemId) :
    (((start shop).run steps).basket name).count item =
      (addedTo name (start shop) steps).count item := by
  have before : ((start shop).basket name).count item = 0 := rfl
  rw [count_run, before, Nat.zero_add]

end Checkout.Session
