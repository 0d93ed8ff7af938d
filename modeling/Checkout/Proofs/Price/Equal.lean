import Checkout.Proofs.Decimal.Residue
import Checkout.Proofs.Outcomes
import Checkout.Proofs.Receipt

/-!
# Equal prices

Prices are equal if their amounts are, one by one, and amounts are equal by value, whatever their
powers of ten.  Equality takes the offers as a mapping and does not mind in which order they were
put together, but what a price is filed under lists them in order.  It is the sorting that brings
the two together: equal prices list the same descriptions in the same places, each with an amount of
the same value.
-/

namespace Checkout

/-! ## Amounts -/

namespace Amount

/-- The rational number that an amount counts as in comparisons, if it is a finite one. -/
def rational? (amount : Amount) : Option ℚ :=
  match amount.comparable? with
  | some (.finite negative coefficient exponent) =>
    some (Decimal.finite negative coefficient exponent).toRat
  | _ => none

/-- An amount is a finite number. -/
def IsFinite (amount : Amount) : Prop :=
  amount.rational?.isSome = true

instance (amount : Amount) : Decidable amount.IsFinite :=
  inferInstanceAs (Decidable (amount.rational?.isSome = true))

variable {amount first second : Amount}

theorem IsFinite.exists_comparable (isFinite : amount.IsFinite) :
    ∃ negative coefficient exponent,
      amount.comparable? = some (.finite negative coefficient exponent) ∧
        amount.rational? = some (Decimal.finite negative coefficient exponent).toRat := by
  unfold IsFinite rational? at isFinite
  unfold rational?
  split at isFinite
  · rename_i negative coefficient exponent isNumber
    exact ⟨negative, coefficient, exponent, isNumber, rfl⟩
  · cases isFinite

/-- Finite amounts are compared by value. -/
theorem IsFinite.answers_same (firstFinite : first.IsFinite) (secondFinite : second.IsFinite) :
    Answers (first.same second) (first.rational? = second.rational?) := by
  obtain ⟨n, c, e, isFirst, firstValue⟩ := firstFinite.exists_comparable
  obtain ⟨m, d, f, isSecond, secondValue⟩ := secondFinite.exists_comparable
  have answer : first.same second =
      .ok (Decimal.compare? (.finite n c e) (.finite m d f) == some .eq) := by
    unfold same
    rw [isFirst, isSecond]
    rfl
  refine ⟨_, answer, ?_⟩
  rw [firstValue, secondValue, Decimal.compare?_eq_compare_toRat, Option.some.injEq]
  simp

theorem mark?_of_comparable? {negative : Bool} {coefficient : Nat} {exponent : Int}
    (isNumber : amount.comparable? = some (.finite negative coefficient exponent)) :
    amount.mark? =
      .ok ((Decimal.residue? (.finite negative coefficient exponent)).map .number) := by
  cases amount with
  | decimal value =>
    obtain rfl := Option.some.inj isNumber
    rfl
  | plain value =>
    cases value with
    | flag value =>
      rw [← Option.some.inj isNumber]
      rfl
    | whole value =>
      rw [← Option.some.inj isNumber]
      rfl
    | fraction value =>
      rw [← Option.some.inj isNumber]
      rfl
    | _ => cases isNumber

/-- Amounts of equal value are filed under the same mark. -/
theorem IsFinite.exists_mark (isFinite : first.IsFinite)
    (same : first.rational? = second.rational?) :
    ∃ mark, first.mark? = .ok (some mark) ∧ second.mark? = .ok (some mark) := by
  have secondFinite : second.IsFinite := by rwa [IsFinite, ← same]
  obtain ⟨negative, coefficient, exponent, isFirst, firstValue⟩ := isFinite.exists_comparable
  obtain ⟨_, _, _, isSecond, secondValue⟩ := secondFinite.exists_comparable
  rw [firstValue, secondValue, Option.some.injEq] at same
  have residues := Decimal.residue?_eq_of_toRat_eq same
  refine ⟨.number _, mark?_of_comparable? isFirst, ?_⟩
  rw [mark?_of_comparable? isSecond, ← residues]
  rfl

end Amount

/-! ## Offers -/

namespace Price

variable {first second : List (String × Amount)}

theorem answers_offersWithin (firstFinite : ∀ offer ∈ first, offer.2.IsFinite)
    (secondFinite : ∀ offer ∈ second, offer.2.IsFinite)
    (distinct : (second.map Prod.fst).Nodup) :
    Answers (offersWithin first second)
      (∀ offer ∈ first, (Entries.get? offer.1 second).map Amount.rational? =
        some offer.2.rational?) := by
  induction first with
  | nil => exact ⟨true, rfl, by simp⟩
  | cons offer rest ih =>
    obtain ⟨description, amount⟩ := offer
    rw [List.forall_mem_cons] at firstFinite
    rw [offersWithin, List.forall_mem_cons]
    cases found : Entries.get? description second with
    | none => exact ⟨false, rfl, by simp⟩
    | some other =>
      have isOther := (Entries.mem_iff_get? distinct).mpr found
      have asked := (firstFinite.1.answers_same (secondFinite _ isOther)).and (ih firstFinite.2)
      simpa only [Option.map_some, Option.some.injEq, eq_comm] using asked

/-- Mappings of one size, the first of which is within the second, are the same. -/
theorem length_eq_and_within_iff (firstDistinct : (first.map Prod.fst).Nodup)
    (secondDistinct : (second.map Prod.fst).Nodup) :
    (first.length = second.length ∧
      ∀ offer ∈ first, (Entries.get? offer.1 second).map Amount.rational? =
        some offer.2.rational?) ↔
      ∀ description, (Entries.get? description first).map Amount.rational? =
        (Entries.get? description second).map Amount.rational? := by
  constructor
  · rintro ⟨sameLength, within⟩ description
    cases found : Entries.get? description first with
    | some amount =>
      have isOffer := (Entries.mem_iff_get? firstDistinct).mpr found
      exact (within _ isOffer).symm
    | none =>
      have absent := Entries.get?_eq_none_iff.mp found
      have subset : first.map Prod.fst ⊆ second.map Prod.fst := by
        intro known isKnown
        obtain ⟨offer, isOffer, rfl⟩ := List.mem_map.mp isKnown
        rw [← Entries.get?_isSome_iff, ← Option.isSome_map, within offer isOffer,
          Option.isSome_some]
      have perm := (List.subperm_of_subset firstDistinct subset).perm_of_length_le
        (by simp [sameLength])
      rw [Entries.get?_eq_none_iff.mpr (perm.mem_iff.not.mp absent)]
  · intro agree
    have keys := Entries.perm_map_fst_of_get? firstDistinct secondDistinct agree
    refine ⟨by simpa using keys.length_eq, fun offer isOffer => ?_⟩
    rw [← agree, (Entries.mem_iff_get? firstDistinct).mp isOffer, Option.map_some]

/-- Offers that match one by one have the same marks. -/
theorem exists_offerMarks (finite : ∀ offer ∈ first, offer.2.IsFinite)
    (matched : Entries.Matched (fun amount other => amount.rational? = other.rational?) first
      second) :
    ∃ marks, offerMarks? first = .ok (some marks) ∧ offerMarks? second = .ok (some marks) := by
  induction matched with
  | nil => exact ⟨[], rfl, rfl⟩
  | @cons offer other rest others same _ ih =>
    obtain ⟨description, amount⟩ := offer
    obtain ⟨_, otherAmount⟩ := other
    obtain ⟨rfl, sameValue⟩ := same
    rw [List.forall_mem_cons] at finite
    obtain ⟨mark, marked, otherMarked⟩ := finite.1.exists_mark sameValue
    obtain ⟨marks, restMarked, othersMarked⟩ := ih finite.2
    dsimp only at marked otherMarked
    refine ⟨(description, mark) :: marks, ?_, ?_⟩
    · rw [offerMarks?, marked, restMarked]
      rfl
    · rw [offerMarks?, otherMarked, othersMarked]
      rfl

theorem mark?_of_parts {price : Price} {subtotal total : Amount.Mark}
    {offers : List (String × Amount.Mark)} (isSubtotal : price.subtotal.mark? = .ok (some subtotal))
    (isTotal : price.total.mark? = .ok (some total))
    (areOffers : offerMarks? price.offers = .ok (some offers)) :
    price.mark? = .ok (some ⟨subtotal, total, offers⟩) := by
  rw [mark?, isSubtotal, isTotal, areOffers]
  rfl

/-! ## Prices -/

/-- What a price is put together from: two amounts and a mapping, which has one amount for a
description. -/
structure Parts where
  subtotal : Amount
  total : Amount
  offers : List (String × Amount)
  distinct : (offers.map Prod.fst).Nodup

namespace Parts

/-- The price that is put together. -/
def price (parts : Parts) : Price :=
  ofParts parts.subtotal parts.total parts.offers

/-- All amounts are finite numbers. -/
structure IsFinite (parts : Parts) : Prop where
  subtotal : parts.subtotal.IsFinite
  total : parts.total.IsFinite
  offers : ∀ offer ∈ parts.offers, offer.2.IsFinite

/-- The amounts have the same values, and the same descriptions have amounts of the same values. -/
structure SameValue (first second : Parts) : Prop where
  subtotal : first.subtotal.rational? = second.subtotal.rational?
  total : first.total.rational? = second.total.rational?
  offers : ∀ description, (Entries.get? description first.offers).map Amount.rational? =
    (Entries.get? description second.offers).map Amount.rational?

theorem SameValue.refl (parts : Parts) : parts.SameValue parts :=
  ⟨rfl, rfl, fun _ => rfl⟩

theorem SameValue.symm {first second : Parts} (same : first.SameValue second) :
    second.SameValue first :=
  ⟨same.subtotal.symm, same.total.symm, fun description => (same.offers description).symm⟩

theorem SameValue.trans {first second third : Parts} (same : first.SameValue second)
    (next : second.SameValue third) : first.SameValue third :=
  ⟨same.subtotal.trans next.subtotal, same.total.trans next.total, fun description =>
    (same.offers description).trans (next.offers description)⟩

variable {first second third parts : Parts}

theorem offers_price_perm (parts : Parts) : parts.price.offers.Perm parts.offers := by
  have kept := Entries.ofList_of_nodup parts.distinct
  rw [price, ofParts, kept]
  exact List.mergeSort_perm _ _

theorem offers_price_pairwise (parts : Parts) :
    (parts.price.offers.map Prod.fst).Pairwise (· < ·) :=
  pairwise_mergeSort_description (Entries.nodup_ofList parts.offers)

theorem get?_offers_price (parts : Parts) (description : String) :
    Entries.get? description parts.price.offers = Entries.get? description parts.offers :=
  (Entries.get?_eq_of_perm parts.offers_price_perm.symm parts.distinct description).symm

theorem nodup_offers_price (parts : Parts) : (parts.price.offers.map Prod.fst).Nodup :=
  nodup_ofParts parts.subtotal parts.total parts.offers

theorem IsFinite.offers_price (finite : parts.IsFinite) :
    ∀ offer ∈ parts.price.offers, offer.2.IsFinite :=
  fun offer isOffer => finite.offers offer (parts.offers_price_perm.mem_iff.mp isOffer)

/-- Whether prices of finite amounts are equal is always answered. -/
theorem answers_same (firstFinite : first.IsFinite) (secondFinite : second.IsFinite) :
    Answers (first.price.same second.price) (first.SameValue second) := by
  have offers := (answers_offersWithin firstFinite.offers_price secondFinite.offers_price
    second.nodup_offers_price).under (first.price.offers.length = second.price.offers.length)
  rw [length_eq_and_within_iff first.nodup_offers_price second.nodup_offers_price] at offers
  simp only [get?_offers_price] at offers
  have asked : Answers (first.price.same second.price) _ :=
    (firstFinite.subtotal.answers_same secondFinite.subtotal).and
      ((firstFinite.total.answers_same secondFinite.total).and offers)
  refine asked.congr ⟨?_, fun same => ⟨same.subtotal, same.total, same.offers⟩⟩
  rintro ⟨subtotal, total, offers⟩
  exact ⟨subtotal, total, offers⟩

/-- Equal prices list their offers in the same order. -/
theorem SameValue.matched (same : first.SameValue second) :
    Entries.Matched (fun amount other => amount.rational? = other.rational?) first.price.offers
      second.price.offers := by
  have agree : ∀ description,
      (Entries.get? description first.price.offers).map Amount.rational? =
        (Entries.get? description second.price.offers).map Amount.rational? := by
    intro description
    rw [get?_offers_price, get?_offers_price, same.offers]
  have perm :=
    Entries.perm_map_fst_of_get? first.nodup_offers_price second.nodup_offers_price agree
  have keys : first.price.offers.map Prod.fst = second.price.offers.map Prod.fst :=
    perm.eq_of_pairwise (fun _ _ _ _ less greater => absurd greater (String.lt_asymm less))
      first.offers_price_pairwise second.offers_price_pairwise
  exact .of_get? keys first.nodup_offers_price agree

/-- Equal prices are filed under one mark. -/
theorem SameValue.sharesMark (same : first.SameValue second) (finite : first.IsFinite) :
    first.price.sharesMark second.price = .ok true := by
  obtain ⟨subtotal, isSubtotal, alsoSubtotal⟩ := finite.subtotal.exists_mark same.subtotal
  obtain ⟨total, isTotal, alsoTotal⟩ := finite.total.exists_mark same.total
  obtain ⟨offers, areOffers, alsoOffers⟩ := exists_offerMarks finite.offers_price same.matched
  have marked := mark?_of_parts isSubtotal isTotal areOffers
  have alsoMarked := mark?_of_parts alsoSubtotal alsoTotal alsoOffers
  rw [Price.sharesMark, marked, alsoMarked]
  simp [bind, bind_ok]

/-- Prices of finite amounts, put together in any order, are equal exactly if they have the same
values.  So equality is reflexive, symmetric and transitive, and equal prices are filed under one
mark. -/
theorem same_equivalence_sharesMark (firstFinite : first.IsFinite) (secondFinite : second.IsFinite)
    (thirdFinite : third.IsFinite) :
    Answers (first.price.same second.price) (first.SameValue second) ∧
      (first.price.same first.price = .ok true ∧ first.price.sameAsItself = .ok true) ∧
      (first.price.same second.price = .ok true → second.price.same first.price = .ok true) ∧
      (first.price.same second.price = .ok true → second.price.same third.price = .ok true →
        first.price.same third.price = .ok true) ∧
      (first.price.same second.price = .ok true →
        first.price.sharesMark second.price = .ok true) := by
  have firstSecond := answers_same firstFinite secondFinite
  refine ⟨firstSecond, ⟨?_, ?_⟩, fun same => ?_, fun same next => ?_, fun same => ?_⟩
  · exact (answers_same firstFinite firstFinite).eq_ok_true_iff.mpr (.refl first)
  · exact ((firstFinite.subtotal.answers_same firstFinite.subtotal).and
      (firstFinite.total.answers_same firstFinite.total)).eq_ok_true_iff.mpr ⟨rfl, rfl⟩
  · exact (answers_same secondFinite firstFinite).eq_ok_true_iff.mpr
      (firstSecond.eq_ok_true_iff.mp same).symm
  · exact (answers_same firstFinite thirdFinite).eq_ok_true_iff.mpr
      ((firstSecond.eq_ok_true_iff.mp same).trans
        ((answers_same secondFinite thirdFinite).eq_ok_true_iff.mp next))
  · exact (firstSecond.eq_ok_true_iff.mp same).sharesMark firstFinite

/-- Tea and milk with an offer each. -/
def teaParts : Parts where
  subtotal := .decimal (.finite false 310 (-2))
  total := .decimal (.finite false 280 (-2))
  offers := [("Tea 10%", .decimal (.finite false 10 (-2))),
    ("Milk 20%", .decimal (.finite false 20 (-2)))]
  distinct := by decide

/-- The same in tenths, with the offers in the other order. -/
def tenthsParts : Parts where
  subtotal := .decimal (.finite false 31 (-1))
  total := .decimal (.finite false 28 (-1))
  offers := [("Milk 20%", .decimal (.finite false 2 (-1))),
    ("Tea 10%", .decimal (.finite false 1 (-1)))]
  distinct := by decide

/-- The two are equal, and found under one mark. -/
theorem same_equivalence_sharesMark_tea :
    teaParts.IsFinite ∧ tenthsParts.IsFinite ∧
      teaParts.price.same tenthsParts.price = .ok true ∧
      teaParts.price.sharesMark tenthsParts.price = .ok true := by
  have teaFinite : teaParts.IsFinite := ⟨rfl, rfl, by decide⟩
  have tenthsFinite : tenthsParts.IsFinite := ⟨rfl, rfl, by decide⟩
  have laws := same_equivalence_sharesMark teaFinite tenthsFinite tenthsFinite
  have inTenths : ∀ coefficient : Nat,
      (Amount.decimal (.finite false (10 * coefficient) (-2))).rational? =
        (Amount.decimal (.finite false coefficient (-1))).rational? := by
    intro coefficient
    refine congrArg some ?_
    rw [Decimal.toRat_finite, Decimal.toRat_finite, Decimal.signed, Decimal.signed]
    norm_num
    ring
  have sameValue : teaParts.SameValue tenthsParts := by
    refine ⟨inTenths 31, inTenths 28, fun description => ?_⟩
    simp only [teaParts, tenthsParts, Entries.get?]
    split
    · rename_i isTea
      rw [if_neg (by rw [← isTea]; decide)]
      exact congrArg some (inTenths 1)
    · split
      · exact congrArg some (inTenths 2)
      · rfl
  have same := laws.1.eq_ok_true_iff.mpr sameValue
  exact ⟨teaFinite, tenthsFinite, same, laws.2.2.2.2 same⟩

end Parts

end Price

end Checkout
