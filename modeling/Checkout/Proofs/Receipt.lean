import Checkout.Proofs.Money.Shown
import Checkout.Proofs.Outcomes
import Checkout.Proofs.Price.Independent

/-!
# Receipts tell the price

A receipt as text puts the descriptions of offers down as they are, with nothing to mark where they
end, and a description may hold the same signs as the lines around it.  Still the receipt determines
the price.  No line holds a line feed, so the text is divided into its lines.  What is shown of an
amount has no colon, so the last colon of a line ends the label.  Amounts that are shown alike are
the same, and the line of a receipt without offers has no colon at all.
-/

namespace Checkout

open Text.Numeral (ofInt isDigits_iff)
open Money (limit place shownChars)

/-- Two texts are parted alike by the last of a divider. -/
theorem eq_of_append_cons_of_notMem {Item : Type} {divider : Item}
    {first second firstEnd secondEnd : List Item} (firstNot : divider ∉ firstEnd)
    (secondNot : divider ∉ secondEnd)
    (same : first ++ divider :: firstEnd = second ++ divider :: secondEnd) :
    first = second ∧ firstEnd = secondEnd := by
  -- What one text has more in front of the divider would stand behind it in the other.
  rcases List.append_eq_append_iff.mp same with ⟨more, rfl, ends⟩ | ⟨more, rfl, ends⟩
  · cases more with
    | nil => simpa using ends
    | cons _ more => simp_all
  · cases more with
    | nil => simpa [eq_comm] using ends
    | cons _ more => simp_all

/-! ## Amounts and prices that are shown in full -/

/-- An amount is a finite number with two decimals and no more digits than are kept. -/
def Amount.IsCents (amount : Amount) : Prop :=
  ∃ negative units, units < limit ∧ amount = .decimal (.finite negative units place)

theorem Amount.IsCents.same_self {amount : Amount} (cents : amount.IsCents) :
    amount.same amount = .ok true := by
  obtain ⟨negative, units, _, rfl⟩ := cents
  exact Money.same_place negative units

/-- A price in cents whose descriptions keep to their lines. -/
structure Price.InCents (price : Price) : Prop where
  /-- It was put together like every price, so it has one amount for a description. -/
  made : ∃ subtotal total offers, price = Price.ofParts subtotal total offers
  subtotal : price.subtotal.IsCents
  total : price.total.IsCents
  offers : ∀ offer ∈ price.offers, offer.2.IsCents ∧ '\n' ∉ offer.1.toList

theorem Price.nodup_ofParts (subtotal total : Amount) (offers : List (String × Amount)) :
    ((Price.ofParts subtotal total offers).offers.map Prod.fst).Nodup :=
  ((List.mergeSort_perm _ _).map _).nodup_iff.mpr (Entries.nodup_ofList offers)

theorem Price.InCents.same_self {price : Price} (cents : price.InCents) :
    price.same price = .ok true := by
  obtain ⟨subtotal, total, offers, same⟩ := cents.made
  have distinct : (price.offers.map Prod.fst).Nodup := same ▸ nodup_ofParts subtotal total offers
  exact same_self_of_amounts distinct cents.subtotal.same_self cents.total.same_self
    fun offer isOffer => (cents.offers offer isOffer).1.same_self

namespace Money

theorem colon_not_mem_shownChars (negative : Bool) (units : Nat) :
    ':' ∉ shownChars negative units := by
  have noColon : ∀ {digits : List Char}, Text.Numeral.isDigits digits = true → ':' ∉ digits :=
    fun digits isIn => absurd ((isDigits_iff.mp digits).2 _ isIn) (by decide)
  unfold shownChars
  split
  · have isNone := Text.Numeral.not_mem_ofInt (c := ':') (by decide) (by decide)
      (Decimal.signed negative units)
    simp [isNone]
  · obtain ⟨whole, fraction, shape, isWhole, isFraction, _⟩ :=
      Decimal.isCentsOf_writeMagnitude units
    rw [Decimal.write, shape]
    cases negative <;> simp [noColon isWhole, noColon isFraction]

end Money

namespace Receipt

/-! ## Lines -/

/-- A line shows what is paid for and the amount, and is one line. -/
def IsLine (offer : String × Amount) (line : String) : Prop :=
  ∃ negative units, units < limit ∧ offer.2 = .decimal (.finite negative units place) ∧
    '\n' ∉ offer.1.toList ∧
      line = offer.1 ++ ": " ++ String.ofList (shownChars negative units)

theorem exists_isLine {label : String} {amount : Amount} (cents : amount.IsCents)
    (oneLine : '\n' ∉ label.toList) : ∃ line, IsLine (label, amount) line := by
  obtain ⟨negative, units, small, isAmount⟩ := cents
  exact ⟨_, negative, units, small, isAmount, oneLine, rfl⟩

theorem IsLine.line_eq {offer : String × Amount} {shown : String} (isLine : IsLine offer shown) :
    line {} offer.1 offer.2 = .ok shown := by
  obtain ⟨negative, units, small, isAmount, _, rfl⟩ := isLine
  have shown : offer.2.show {} = .ok (String.ofList (shownChars negative units)) := by
    rw [isAmount]
    exact Money.show_place negative small
  rw [line, shown]
  rfl

theorem toList_line (label : String) (chars : List Char) :
    (label ++ ": " ++ String.ofList chars).toList = label.toList ++ ':' :: ' ' :: chars := by
  simp

theorem IsLine.newline_not_mem {offer : String × Amount} {line : String}
    (isLine : IsLine offer line) : '\n' ∉ line.toList := by
  obtain ⟨negative, units, _, _, oneLine, rfl⟩ := isLine
  have noBlank : '\n' ∉ shownChars negative units := fun isIn =>
    absurd ((Money.isWord_shownChars negative units).2 _ isIn) (by decide)
  rw [toList_line]
  simp [oneLine, noBlank]

/-- The line that stands for no offers is not the line of an offer. -/
theorem IsLine.ne_noOffers {offer : String × Amount} {line : String} (isLine : IsLine offer line) :
    line ≠ "(No offers available)" := by
  obtain ⟨negative, units, _, _, _, rfl⟩ := isLine
  intro same
  have colon : ':' ∈ "(No offers available)".toList := by
    rw [← same, toList_line]
    simp
  exact absurd colon (by decide)

/-- A line is of one label and one amount: the last colon parts them. -/
theorem isLine_leftUnique : Relator.LeftUnique IsLine := by
  rintro ⟨label, amount⟩ ⟨otherLabel, otherAmount⟩ line
    ⟨negative, units, small, rfl, _, rfl⟩ ⟨other, more, alsoSmall, rfl, _, same⟩
  have chars := congrArg String.toList same
  rw [toList_line, toList_line] at chars
  have noColon : ∀ negative units, ':' ∉ ' ' :: shownChars negative units := by
    intro negative units
    simp [Money.colon_not_mem_shownChars]
  obtain ⟨labels, ends⟩ :=
    eq_of_append_cons_of_notMem (noColon negative units) (noColon other more) chars
  obtain ⟨rfl, rfl⟩ := Money.shownChars_inj small alsoSmall (List.cons.inj ends).2
  exact Prod.ext (String.toList_inj.mp labels) rfl

/-- The lines of the offers: one for each, or the one that says that there are none. -/
inductive OfferLines : List (String × Amount) → List String → Prop
  | none : OfferLines [] ["(No offers available)"]
  | some {offers : List (String × Amount)} {lines : List String} :
      offers ≠ [] → List.Forall₂ IsLine offers lines → OfferLines offers lines

theorem exists_offerLines {offers : List (String × Amount)}
    (cents : ∀ offer ∈ offers, offer.2.IsCents ∧ '\n' ∉ offer.1.toList) :
    ∃ lines, OfferLines offers lines := by
  obtain ⟨lines, each⟩ := exists_forall₂_iff.mpr fun offer isOffer =>
    exists_isLine (cents offer isOffer).1 (cents offer isOffer).2
  cases each with
  | nil => exact ⟨_, .none⟩
  | cons isFirst others => exact ⟨_, .some (List.cons_ne_nil _ _) (.cons isFirst others)⟩

/-- The lines are of one list of offers, and those of none are of none. -/
theorem offerLines_leftUnique : Relator.LeftUnique OfferLines := by
  rintro first second lines isFirst isSecond
  cases isFirst with
  | none =>
    cases isSecond with
    | none => rfl
    | some _ each =>
      obtain ⟨_, _, isLine, _, _⟩ := List.forall₂_cons_right_iff.mp each
      exact absurd rfl isLine.ne_noOffers
  | some _ firstEach =>
    cases isSecond with
    | none =>
      obtain ⟨_, _, isLine, _, _⟩ := List.forall₂_cons_right_iff.mp firstEach
      exact absurd rfl isLine.ne_noOffers
    | some _ secondEach =>
      exact List.left_unique_forall₂' isLine_leftUnique firstEach secondEach

theorem newline_not_mem_of_forall₂ {offers : List (String × Amount)} {lines : List String}
    (each : List.Forall₂ IsLine offers lines) : ∀ line ∈ lines, '\n' ∉ line.toList := by
  induction each with
  | nil => simp
  | cons isLine _ ih => exact List.forall_mem_cons.mpr ⟨isLine.newline_not_mem, ih⟩

theorem OfferLines.newline_not_mem {offers : List (String × Amount)} {lines : List String}
    (isLines : OfferLines offers lines) : ∀ line ∈ lines, '\n' ∉ line.toList := by
  cases isLines with
  | none => decide
  | some _ each => exact newline_not_mem_of_forall₂ each

/-! ## Receipts -/

/-- The lines of a receipt: the subtotal, the offers and the total. -/
def ReceiptLines (price : Price) (lines : List String) : Prop :=
  ∃ first offers last, IsLine ("Subtotal", price.subtotal) first ∧
    OfferLines price.offers offers ∧ IsLine ("Total", price.total) last ∧
      lines = first :: offers ++ [last]

theorem exists_receiptLines {price : Price} (cents : price.InCents) :
    ∃ lines, ReceiptLines price lines := by
  have subtotal : '\n' ∉ "Subtotal".toList := by decide
  have total : '\n' ∉ "Total".toList := by decide
  obtain ⟨first, isFirst⟩ := exists_isLine cents.subtotal subtotal
  obtain ⟨offers, areOffers⟩ := exists_offerLines cents.offers
  obtain ⟨last, isLast⟩ := exists_isLine cents.total total
  exact ⟨_, first, offers, last, isFirst, areOffers, isLast, rfl⟩

theorem lines_eq_ok {subtotal total : Amount} {offers : List (String × Amount)}
    {first last : String} {middle : List String} (isFirst : IsLine ("Subtotal", subtotal) first)
    (areOffers : OfferLines offers middle) (isLast : IsLine ("Total", total) last) :
    lines {} ⟨subtotal, total, offers⟩ = .ok (first :: middle ++ [last]) := by
  have firstLine : line {} "Subtotal" subtotal = .ok first := isFirst.line_eq
  have lastLine : line {} "Total" total = .ok last := isLast.line_eq
  cases areOffers with
  | none => simp [lines, firstLine, lastLine, bind, pure, Except.pure]
  | some notEmpty each =>
    have offerLines := mapM_eq_ok_iff.mpr (each.imp fun _ _ => IsLine.line_eq)
    simp [lines, firstLine, lastLine, offerLines, notEmpty, bind]

theorem ReceiptLines.text_eq {price : Price} {shown : List String}
    (isReceipt : ReceiptLines price shown) : text {} price = .ok ("\n".intercalate shown) := by
  obtain ⟨first, offers, last, isFirst, areOffers, isLast, rfl⟩ := isReceipt
  rw [text, lines_eq_ok isFirst areOffers isLast]
  rfl

theorem ReceiptLines.newline_not_mem {price : Price} {lines : List String}
    (isReceipt : ReceiptLines price lines) : ∀ line ∈ lines, '\n' ∉ line.toList := by
  obtain ⟨first, offers, last, isFirst, areOffers, isLast, rfl⟩ := isReceipt
  rw [List.forall_mem_append, List.forall_mem_cons, List.forall_mem_singleton]
  exact ⟨⟨isFirst.newline_not_mem, areOffers.newline_not_mem⟩, isLast.newline_not_mem⟩

theorem ReceiptLines.ne_nil {price : Price} {lines : List String}
    (isReceipt : ReceiptLines price lines) : lines ≠ [] := by
  obtain ⟨first, offers, last, _, _, _, rfl⟩ := isReceipt
  exact List.cons_ne_nil _ _

/-- The lines are of one price. -/
theorem receiptLines_leftUnique : Relator.LeftUnique ReceiptLines := by
  rintro ⟨subtotal, total, offers⟩ ⟨otherSubtotal, otherTotal, otherOffers⟩ lines
    ⟨first, middle, last, isFirst, areOffers, isLast, rfl⟩
    ⟨otherFirst, otherMiddle, otherLast, isOtherFirst, areOtherOffers, isOtherLast, same⟩
  obtain ⟨sameInit, sameLast⟩ := List.append_inj' same rfl
  obtain ⟨rfl, rfl⟩ := List.cons.inj sameInit
  obtain rfl := List.singleton_inj.mp sameLast
  have subtotals := isLine_leftUnique isFirst isOtherFirst
  have totals := isLine_leftUnique isLast isOtherLast
  have allOffers := offerLines_leftUnique areOffers areOtherOffers
  simp_all

/-- Lines that hold no line feed are told by the text that they make. -/
theorem eq_of_intercalate_eq {first second : List String} (some : first ≠ [])
    (alsoSome : second ≠ []) (noFeed : ∀ line ∈ first, '\n' ∉ line.toList)
    (alsoNoFeed : ∀ line ∈ second, '\n' ∉ line.toList)
    (same : "\n".intercalate first = "\n".intercalate second) : first = second := by
  have divided : ∀ {lines : List String}, lines ≠ [] → (∀ line ∈ lines, '\n' ∉ line.toList) →
      ("\n".intercalate lines).toList.splitOn '\n' = lines.map String.toList := by
    intro lines some noFeed
    rw [String.toList_intercalate]
    exact List.splitOn_intercalate _ (by simpa using noFeed) (by simpa using some)
  have texts : first.map String.toList = second.map String.toList := by
    rw [← divided some noFeed, same, divided alsoSome alsoNoFeed]
  exact List.map_injective_iff.mpr (fun _ _ => String.toList_inj.mp) texts

/-- Receipts tell the price.  For every two prices in cents, of either sign, whose descriptions have
no line feed but may be anything else, the receipts can be written, and if both have the same text
then the prices are equal, part by part.  Above all a price without offers is not written like one
with offers, and no two different amounts are shown alike. -/
theorem text_determines_price {price other : Price} (cents : price.InCents)
    (otherCents : other.InCents) :
    ∃ shown otherShown, text {} price = .ok shown ∧ text {} other = .ok otherShown ∧
      (shown = otherShown → price.same other = .ok true ∧ price = other) ∧
      (price.offers = [] → other.offers ≠ [] → shown ≠ otherShown) ∧
      ∀ amount another : Amount, amount.IsCents → another.IsCents → amount ≠ another →
        ∃ label otherLabel, amount.show {} = .ok label ∧ another.show {} = .ok otherLabel ∧
          label ≠ otherLabel := by
  obtain ⟨lines, isReceipt⟩ := exists_receiptLines cents
  obtain ⟨otherLines, isOtherReceipt⟩ := exists_receiptLines otherCents
  have injective : "\n".intercalate lines = "\n".intercalate otherLines → price = other := by
    intro same
    obtain rfl := eq_of_intercalate_eq isReceipt.ne_nil isOtherReceipt.ne_nil
      isReceipt.newline_not_mem isOtherReceipt.newline_not_mem same
    exact receiptLines_leftUnique isReceipt isOtherReceipt
  refine ⟨_, _, isReceipt.text_eq, isOtherReceipt.text_eq, ?equal, ?offers, ?amounts⟩
  case equal =>
    intro same
    obtain rfl := injective same
    exact ⟨cents.same_self, rfl⟩
  case offers =>
    intro none some same
    obtain rfl := injective same
    exact some none
  case amounts =>
    rintro _ _ ⟨negative, units, small, rfl⟩ ⟨otherNegative, more, alsoSmall, rfl⟩ different
    refine ⟨_, _, Money.show_place negative small, Money.show_place otherNegative alsoSmall, ?_⟩
    intro same
    obtain ⟨rfl, rfl⟩ := Money.shownChars_inj small alsoSmall (String.ofList_inj.mp same)
    exact different rfl

/-- A price with two offers, one without a description and one that is called like the end of
a receipt, and with an amount below zero. -/
def oddPrice : Price :=
  .ofParts (.decimal (.finite false 100 place)) (.decimal (.finite true 5 place))
    [("(No offers available)\rTotal: -5p", .decimal (.finite false 105 place)),
      ("", .decimal (.finite true 0 place))]

/-- The same subtotal and total without any offers. -/
def barePrice : Price :=
  .ofParts (.decimal (.finite false 100 place)) (.decimal (.finite true 5 place)) []

theorem inCents_oddPrice : oddPrice.InCents where
  made := ⟨_, _, _, rfl⟩
  subtotal := ⟨false, 100, by decide, rfl⟩
  total := ⟨true, 5, by decide, rfl⟩
  offers := by
    intro offer isOffer
    rw [oddPrice, Price.ofParts, Price.sortOffers, List.mem_mergeSort] at isOffer
    rcases List.mem_cons.mp isOffer with rfl | isLast
    · exact ⟨⟨false, 105, by decide, rfl⟩, by decide⟩
    · rw [List.mem_singleton.mp isLast]
      exact ⟨⟨true, 0, by decide, rfl⟩, by decide⟩

theorem offers_barePrice : barePrice.offers = [] := by
  simp [barePrice, Price.ofParts, Price.sortOffers, Entries.ofList, Entries.putAll]

theorem inCents_barePrice : barePrice.InCents where
  made := ⟨_, _, _, rfl⟩
  subtotal := ⟨false, 100, by decide, rfl⟩
  total := ⟨true, 5, by decide, rfl⟩
  offers := by simp [offers_barePrice]

/-- The receipt without offers, and that the one with the odd offers is another. -/
theorem text_determines_price_odd :
    (oddPrice.InCents ∧ barePrice.InCents) ∧
      text {} barePrice = .ok "Subtotal: £1.00\n(No offers available)\nTotal: -5p" ∧
      ∃ shown, text {} oddPrice = .ok shown ∧
        shown ≠ "Subtotal: £1.00\n(No offers available)\nTotal: -5p" := by
  have bare : text {} barePrice = .ok "Subtotal: £1.00\n(No offers available)\nTotal: -5p" := by
    rw [text, lines, offers_barePrice]
    rfl
  have some : oddPrice.offers ≠ [] := by
    rw [← List.length_pos_iff, oddPrice, Price.ofParts, Price.sortOffers, List.length_mergeSort]
    decide
  obtain ⟨otherShown, shown, otherText, isText, _, differ, _⟩ :=
    text_determines_price inCents_barePrice inCents_oddPrice
  rw [bare] at otherText
  cases otherText
  exact ⟨⟨inCents_oddPrice, inCents_barePrice⟩, bare, shown, isText,
    (differ offers_barePrice some).symm⟩

end Receipt

end Checkout
