import Checkout.Entries
import Mathlib.Algebra.BigOperators.Group.List.Basic
import Mathlib.Algebra.Order.Ring.Nat
import Mathlib.Data.List.Induction
import Mathlib.Data.List.Nodup
import Mathlib.Data.List.Perm.Basic

/-!
# Entries as finite maps

Entries whose keys are distinct are determined, up to their order, by what is found under each key.
Where the values are numbers, adding to the number under a key adds to the sum of all numbers, so
numbers that are collected under their keys lose nothing.
-/

namespace Checkout.Entries

universe u v w

variable {Key : Type u} {Item : Type v} [DecidableEq Key]

/-! ## Keys -/

theorem get?_isSome_iff {key : Key} {entries : List (Key × Item)} :
    (get? key entries).isSome = true ↔ key ∈ entries.map Prod.fst := by
  induction entries with
  | nil => simp
  | cons entry rest ih =>
    obtain ⟨known, value⟩ := entry
    by_cases same : known = key
    · simp [get?, same]
    · simp [get?, same, ih, Ne.symm same]

theorem get?_eq_none_iff {key : Key} {entries : List (Key × Item)} :
    get? key entries = none ↔ key ∉ entries.map Prod.fst := by
  rw [← get?_isSome_iff, Option.isSome_iff_ne_none, not_not]

/-- Putting a value under a key keeps the keys distinct. -/
theorem nodup_put {key : Key} {value : Item} {entries : List (Key × Item)}
    (distinct : (entries.map Prod.fst).Nodup) : ((put key value entries).map Prod.fst).Nodup := by
  rw [map_fst_put]
  split
  · exact distinct
  · rename_i isNew
    rw [has, get?_isSome_iff] at isNew
    rw [List.nodup_append]
    refine ⟨distinct, List.nodup_singleton _, ?_⟩
    intro known isKnown other isOther same
    rw [List.mem_singleton.mp isOther] at same
    exact isNew (same ▸ isKnown)

theorem mem_map_fst_put {key other : Key} {value : Item} {entries : List (Key × Item)} :
    other ∈ (put key value entries).map Prod.fst ↔ key = other ∨ other ∈ entries.map Prod.fst := by
  rw [← get?_isSome_iff, get?_put, ← get?_isSome_iff]
  split <;> simp_all

/-- Where keys are distinct, an entry is what is found under its key. -/
theorem mem_iff_get? {key : Key} {value : Item} {entries : List (Key × Item)}
    (distinct : (entries.map Prod.fst).Nodup) :
    (key, value) ∈ entries ↔ get? key entries = some value := by
  induction entries with
  | nil => simp
  | cons entry rest ih =>
    obtain ⟨known, found⟩ := entry
    rw [List.map_cons, List.nodup_cons] at distinct
    rw [List.mem_cons, ih distinct.2]
    by_cases same : known = key
    · subst same
      have absent : get? known rest = none := get?_eq_none_iff.mpr distinct.1
      simp [get?, absent, eq_comm]
    · simp [get?, same, Ne.symm same]

/-- The order of entries with distinct keys makes no difference to what is found. -/
theorem get?_eq_of_perm {first second : List (Key × Item)} (perm : first.Perm second)
    (distinct : (first.map Prod.fst).Nodup) (key : Key) : get? key first = get? key second := by
  have alsoDistinct := (perm.map Prod.fst).nodup_iff.mp distinct
  apply Option.ext
  intro value
  rw [← mem_iff_get? distinct, ← mem_iff_get? alsoDistinct, perm.mem_iff]

/-- Entries with distinct keys that agree under every key are the same up to their order. -/
theorem perm_of_get?_eq {first second : List (Key × Item)}
    (firstDistinct : (first.map Prod.fst).Nodup) (secondDistinct : (second.map Prod.fst).Nodup)
    (agree : ∀ key, get? key first = get? key second) : first.Perm second := by
  have mem_iff : ∀ entry, entry ∈ first ↔ entry ∈ second := by
    rintro ⟨key, value⟩
    rw [mem_iff_get? firstDistinct, mem_iff_get? secondDistinct, agree]
  apply (List.perm_ext_iff_of_nodup _ _).mpr mem_iff
  · exact firstDistinct.of_map _
  · exact secondDistinct.of_map _

/-- A pair with a new key goes to the end. -/
theorem put_of_notMem {key : Key} {value : Item} {entries : List (Key × Item)}
    (isNew : key ∉ entries.map Prod.fst) : put key value entries = entries ++ [(key, value)] := by
  induction entries with
  | nil => rfl
  | cons entry rest ih =>
    obtain ⟨known, old⟩ := entry
    rw [List.map_cons, List.mem_cons, not_or] at isNew
    rw [put, if_neg (Ne.symm isNew.1), ih isNew.2, List.cons_append]

theorem putAll_of_nodup {pairs entries : List (Key × Item)}
    (distinct : ((entries ++ pairs).map Prod.fst).Nodup) :
    putAll pairs entries = entries ++ pairs := by
  induction pairs generalizing entries with
  | nil => simp [putAll]
  | cons pair rest ih =>
    have isNew : pair.1 ∉ entries.map Prod.fst := by
      rw [List.map_append, List.map_cons] at distinct
      intro known
      exact (List.nodup_append.mp distinct).2.2 _ known _ List.mem_cons_self rfl
    have moved : entries ++ [(pair.1, pair.2)] ++ rest = entries ++ pair :: rest := by simp
    rw [putAll, List.foldl_cons, put_of_notMem isNew, ← putAll, ih (by rwa [moved]), moved]

/-- Pairs with distinct keys are entries already. -/
theorem ofList_of_nodup {pairs : List (Key × Item)} (distinct : (pairs.map Prod.fst).Nodup) :
    ofList pairs = pairs := by
  have appended : ((([] : List (Key × Item)) ++ pairs).map Prod.fst).Nodup := distinct
  exact putAll_of_nodup appended

/-! ## Pairs put one after another -/

theorem ofList_append (pairs : List (Key × Item)) (pair : Key × Item) :
    ofList (pairs ++ [pair]) = put pair.1 pair.2 (ofList pairs) := by
  rw [ofList, putAll, List.foldl_append]
  rfl

/-- Of the pairs with one key the last counts. -/
theorem exists_last_of_get?_ofList {pairs : List (Key × Item)} {key : Key} {value : Item}
    (found : get? key (ofList pairs) = some value) :
    ∃ front back, pairs = front ++ (key, value) :: back ∧ key ∉ back.map Prod.fst := by
  induction pairs using List.reverseRecOn with
  | nil => cases found
  | append_singleton pairs pair ih =>
    rw [ofList_append, get?_put] at found
    by_cases same : pair.1 = key
    · rw [if_pos same, Option.some.injEq] at found
      exact ⟨pairs, [], by rw [← same, ← found], List.not_mem_nil⟩
    · rw [if_neg same] at found
      obtain ⟨front, back, rfl, absent⟩ := ih found
      refine ⟨front, back ++ [pair], by rw [List.append_assoc, List.cons_append], ?_⟩
      simpa [Ne.symm same] using absent

theorem nodup_ofList (pairs : List (Key × Item)) : ((ofList pairs).map Prod.fst).Nodup := by
  induction pairs using List.reverseRecOn with
  | nil => exact List.nodup_nil
  | append_singleton pairs pair ih =>
    rw [ofList_append]
    exact nodup_put ih

/-- One more key is listed where it occurs for the first time. -/
theorem map_fst_put_of_eraseDups {keys : List Key} {entries : List (Key × Item)}
    (listed : entries.map Prod.fst = keys.eraseDups) (key : Key) (value : Item) :
    (put key value entries).map Prod.fst = (keys ++ [key]).eraseDups := by
  have isKnown : (get? key entries).isSome = true ↔ key ∈ keys := by
    rw [get?_isSome_iff, listed, List.mem_eraseDups]
  rw [map_fst_put, has, listed, List.eraseDups_append]
  by_cases known : key ∈ keys
  · rw [if_pos (isKnown.mpr known)]
    simp [List.removeAll, known]
  · rw [if_neg (mt isKnown.mp known)]
    simp [List.removeAll, known, List.eraseDups_cons]

/-- Pairs put one after another are listed by their keys in the order of first occurrence. -/
theorem map_fst_ofList (pairs : List (Key × Item)) :
    (ofList pairs).map Prod.fst = (pairs.map Prod.fst).eraseDups := by
  induction pairs using List.reverseRecOn with
  | nil => rfl
  | append_singleton pairs pair ih =>
    rw [ofList_append, map_fst_put_of_eraseDups ih, List.map_append]
    rfl

section Renamed

variable {Name : Type w} {Other : Type*} [DecidableEq Name] {rename : Key → Name}

/-- Keys may be renamed before or after, if none of them become the same. -/
theorem put_map (distinct : Function.Injective rename) (change : Item → Other) (key : Key)
    (value : Item) (entries : List (Key × Item)) :
    put (rename key) (change value) (entries.map (Prod.map rename change)) =
      (put key value entries).map (Prod.map rename change) := by
  induction entries with
  | nil => rfl
  | cons entry rest ih =>
    obtain ⟨known, old⟩ := entry
    simp only [List.map_cons, Prod.map_apply, put, distinct.eq_iff]
    split
    · rfl
    · rw [ih, List.map_cons, Prod.map_apply]

theorem putAll_map (distinct : Function.Injective rename) (change : Item → Other)
    (pairs entries : List (Key × Item)) :
    putAll (pairs.map (Prod.map rename change)) (entries.map (Prod.map rename change)) =
      (putAll pairs entries).map (Prod.map rename change) := by
  induction pairs generalizing entries with
  | nil => rfl
  | cons pair rest ih =>
    rw [putAll, List.map_cons, List.foldl_cons, Prod.map_fst, Prod.map_snd, put_map distinct,
      ← putAll, ih]
    rfl

end Renamed

/-! ## Entries that go together -/

/-- The entries of two lists have the same keys in the same order, with related values. -/
def Matched {Other : Type w} (Related : Item → Other → Prop) (first : List (Key × Item))
    (second : List (Key × Other)) : Prop :=
  List.Forall₂ (fun entry other => entry.1 = other.1 ∧ Related entry.2 other.2) first second

section Matched

variable {Other : Type w} {Related : Item → Other → Prop} {first : List (Key × Item)}
  {second : List (Key × Other)}

omit [DecidableEq Key] in
theorem Matched.map_fst_eq (matched : Matched Related first second) :
    first.map Prod.fst = second.map Prod.fst := by
  induction matched with
  | nil => rfl
  | cons same _ ih => rw [List.map_cons, List.map_cons, same.1, ih]

omit [DecidableEq Key] in
theorem Matched.values (matched : Matched Related first second) :
    List.Forall₂ Related (first.map Prod.snd) (second.map Prod.snd) := by
  rw [List.forall₂_map_left_iff, List.forall₂_map_right_iff]
  exact matched.imp fun _ _ => And.right

/-- What is found under each key tells the keys. -/
theorem perm_map_fst_of_get? {Reading : Type*} {read : Item → Reading} {readOther : Other → Reading}
    (firstDistinct : (first.map Prod.fst).Nodup) (secondDistinct : (second.map Prod.fst).Nodup)
    (agree : ∀ key, (get? key first).map read = (get? key second).map readOther) :
    (first.map Prod.fst).Perm (second.map Prod.fst) := by
  refine (List.perm_ext_iff_of_nodup firstDistinct secondDistinct).mpr fun key => ?_
  rw [← get?_isSome_iff, ← get?_isSome_iff, ← Option.isSome_map, agree, Option.isSome_map]

/-- Entries with the same distinct keys in order match if what is found under each key does. -/
theorem Matched.of_get? {Reading : Type*} {read : Item → Reading} {readOther : Other → Reading}
    (keys : first.map Prod.fst = second.map Prod.fst) (distinct : (first.map Prod.fst).Nodup)
    (agree : ∀ key, (get? key first).map read = (get? key second).map readOther) :
    Matched (fun value other => read value = readOther other) first second := by
  induction first generalizing second with
  | nil =>
    obtain rfl := List.map_eq_nil_iff.mp keys.symm
    exact .nil
  | cons entry rest ih =>
    obtain ⟨⟨_, value⟩, others, rfl, rfl, tail⟩ := List.map_eq_cons_iff.mp keys.symm
    have head := agree entry.1
    simp only [get?, if_true, Option.map_some, Option.some.injEq] at head
    rw [List.map_cons, List.nodup_cons] at distinct
    refine .cons ⟨rfl, head⟩ (ih tail.symm distinct.2 fun key => ?_)
    by_cases same : entry.1 = key
    · subst same
      have absent := distinct.1
      rw [get?_eq_none_iff.mpr absent, get?_eq_none_iff.mpr (tail ▸ absent)]
      rfl
    · have behind := agree key
      simpa only [get?, if_neg same] using behind

theorem Matched.put (matched : Matched Related first second) (key : Key) {value : Item}
    {other : Other} (related : Related value other) :
    Matched Related (put key value first) (put key other second) := by
  induction matched with
  | nil => exact .cons ⟨rfl, related⟩ .nil
  | @cons entry entry' rest rest' same tail ih =>
    obtain ⟨known, old⟩ := entry
    obtain ⟨known', old'⟩ := entry'
    rcases same with ⟨rfl, oldRelated⟩
    simp only [Entries.put]
    split
    · exact .cons ⟨rfl, related⟩ tail
    · exact .cons ⟨rfl, oldRelated⟩ ih

theorem Matched.getD (matched : Matched Related first second) (key : Key) {value : Item}
    {other : Other} (related : Related value other) :
    Related ((get? key first).getD value) ((get? key second).getD other) := by
  induction matched with
  | nil => exact related
  | @cons entry entry' rest rest' same tail ih =>
    obtain ⟨known, old⟩ := entry
    obtain ⟨known', old'⟩ := entry'
    rcases same with ⟨rfl, oldRelated⟩
    simp only [get?]
    split
    · exact oldRelated
    · exact ih

end Matched

/-! ## Numbers under keys -/

/-- The entries with a number added to the one under a key; under an unknown key there is zero. -/
def increase (key : Key) (amount : Nat) (entries : List (Key × Nat)) : List (Key × Nat) :=
  put key ((get? key entries).getD 0 + amount) entries

/-- The entries with the number of each pair added under its key. -/
def collect (entries pairs : List (Key × Nat)) : List (Key × Nat) :=
  pairs.foldl (fun entries pair => increase pair.1 pair.2 entries) entries

/-- The sum of the numbers that pairs have for a key. -/
def sumUnder (key : Key) (pairs : List (Key × Nat)) : Nat :=
  ((pairs.filter fun pair => pair.1 = key).map Prod.snd).sum

/-- The sum of all numbers. -/
def sumAll (pairs : List (Key × Nat)) : Nat :=
  (pairs.map Prod.snd).sum

theorem sumUnder_cons (key : Key) (pair : Key × Nat) (pairs : List (Key × Nat)) :
    sumUnder key (pair :: pairs) = (if pair.1 = key then pair.2 else 0) + sumUnder key pairs := by
  by_cases same : pair.1 = key <;> simp [sumUnder, same]

theorem sumUnder_of_notMem {key : Key} {pairs : List (Key × Nat)}
    (isNew : key ∉ pairs.map Prod.fst) : sumUnder key pairs = 0 := by
  induction pairs with
  | nil => rfl
  | cons pair rest ih =>
    rw [List.map_cons, List.mem_cons, not_or] at isNew
    rw [sumUnder_cons, if_neg (Ne.symm isNew.1), ih isNew.2]

/-- Where keys are distinct, the number under a key is all there is. -/
theorem sumUnder_of_mem {pairs : List (Key × Nat)} (distinct : (pairs.map Prod.fst).Nodup)
    {pair : Key × Nat} (isPair : pair ∈ pairs) : sumUnder pair.1 pairs = pair.2 := by
  induction pairs with
  | nil => cases isPair
  | cons first rest ih =>
    rw [List.map_cons, List.nodup_cons] at distinct
    rw [sumUnder_cons]
    rcases List.mem_cons.mp isPair with rfl | inRest
    · rw [if_pos rfl, sumUnder_of_notMem distinct.1, Nat.add_zero]
    · have other : first.1 ≠ pair.1 := fun same =>
        distinct.1 (same ▸ List.mem_map_of_mem inRest)
      rw [if_neg other, ih distinct.2 inRest, Nat.zero_add]

omit [DecidableEq Key] in
@[simp]
theorem sumAll_nil : sumAll ([] : List (Key × Nat)) = 0 :=
  rfl

omit [DecidableEq Key] in
@[simp]
theorem sumAll_cons (pair : Key × Nat) (pairs : List (Key × Nat)) :
    sumAll (pair :: pairs) = pair.2 + sumAll pairs := by
  simp [sumAll]

theorem sumUnder_perm {first second : List (Key × Nat)} (perm : first.Perm second) (key : Key) :
    sumUnder key first = sumUnder key second :=
  ((perm.filter _).map _).sum_eq

omit [DecidableEq Key] in
theorem sumAll_perm {first second : List (Key × Nat)} (perm : first.Perm second) :
    sumAll first = sumAll second :=
  (perm.map _).sum_eq

theorem sumAll_put (key : Key) (amount : Nat) (entries : List (Key × Nat)) :
    sumAll (put key amount entries) + (get? key entries).getD 0 = sumAll entries + amount := by
  induction entries with
  | nil => simp [put]
  | cons entry rest ih =>
    obtain ⟨known, old⟩ := entry
    by_cases same : known = key
    · simp only [put, get?, same, if_true, sumAll_cons, Option.getD_some]
      omega
    · simp only [put, get?, same, if_false, sumAll_cons]
      omega

theorem getD_le_sumAll (key : Key) (entries : List (Key × Nat)) :
    (get? key entries).getD 0 ≤ sumAll entries := by
  have replaced := sumAll_put key 0 entries
  omega

theorem nodup_collect {entries : List (Key × Nat)} (distinct : (entries.map Prod.fst).Nodup)
    (pairs : List (Key × Nat)) : ((collect entries pairs).map Prod.fst).Nodup := by
  induction pairs generalizing entries with
  | nil => exact distinct
  | cons pair rest ih => exact ih (nodup_put distinct)

theorem mem_map_fst_collect {key : Key} {entries pairs : List (Key × Nat)} :
    key ∈ (collect entries pairs).map Prod.fst ↔
      key ∈ entries.map Prod.fst ∨ key ∈ pairs.map Prod.fst := by
  induction pairs generalizing entries with
  | nil => simp [collect]
  | cons pair rest ih =>
    rw [collect, List.foldl_cons, ← collect, ih, increase, mem_map_fst_put, List.map_cons,
      List.mem_cons, eq_comm (a := key), or_assoc, or_left_comm]

/-- Collecting adds to what is under a key what the pairs have for it. -/
theorem getD_collect (key : Key) (entries pairs : List (Key × Nat)) :
    (get? key (collect entries pairs)).getD 0 =
      (get? key entries).getD 0 + sumUnder key pairs := by
  induction pairs generalizing entries with
  | nil => rfl
  | cons pair rest ih =>
    rw [collect, List.foldl_cons, ← collect, ih, increase, get?_put, sumUnder_cons]
    by_cases same : pair.1 = key
    · simp only [same, if_true, Option.getD_some]
      omega
    · simp only [same, if_false]
      omega

/-- Of pairs that are collected, exactly the keys have a number, which is their sum. -/
theorem get?_collect (key : Key) (pairs : List (Key × Nat)) :
    get? key (collect [] pairs) =
      if key ∈ pairs.map Prod.fst then some (sumUnder key pairs) else none := by
  have sum := getD_collect key [] pairs
  rw [get?_nil, Option.getD_none, Nat.zero_add] at sum
  have known : key ∈ (collect [] pairs).map Prod.fst ↔
      key ∈ ([] : List (Key × Nat)).map Prod.fst ∨ key ∈ pairs.map Prod.fst := mem_map_fst_collect
  rw [List.map_nil, List.mem_nil_iff, false_or, ← get?_isSome_iff] at known
  split
  · rename_i isKey
    obtain ⟨number, found⟩ := Option.isSome_iff_exists.mp (known.mpr isKey)
    rw [found, Option.getD_some] at sum
    rw [found, sum]
  · rename_i isNoKey
    rw [← known, Bool.not_eq_true, Option.isSome_eq_false_iff, Option.isNone_iff_eq_none] at isNoKey
    exact isNoKey

/-- Collecting loses nothing. -/
theorem sumAll_collect (entries pairs : List (Key × Nat)) :
    sumAll (collect entries pairs) = sumAll entries + sumAll pairs := by
  induction pairs generalizing entries with
  | nil => rfl
  | cons pair rest ih =>
    have increased := sumAll_put pair.1 ((get? pair.1 entries).getD 0 + pair.2) entries
    rw [collect, List.foldl_cons, ← collect, ih, increase, sumAll_cons]
    omega

theorem sumAll_collect_nil (pairs : List (Key × Nat)) :
    sumAll (collect [] pairs) = sumAll pairs := by
  rw [sumAll_collect, sumAll_nil, Nat.zero_add]

/-! ## Numbers that grow -/

/-- Some pairs stand among others in order, with numbers that are not larger. -/
def CoveredBy (first second : List (Key × Nat)) : Prop :=
  List.SublistForall₂ (fun pair other => pair.1 = other.1 ∧ pair.2 ≤ other.2) first second

omit [DecidableEq Key] in
/-- Of some things more are chosen than before, and the pairs of those that were chosen before have
grown. -/
theorem coveredBy_filter {Source : Type w} {before after : Source → Bool}
    {first second : Source → Key × Nat} {sources : List Source}
    (grows : ∀ source ∈ sources, before source = true →
      after source = true ∧ (first source).1 = (second source).1 ∧
        (first source).2 ≤ (second source).2) :
    CoveredBy ((sources.filter before).map first) ((sources.filter after).map second) := by
  induction sources with
  | nil => exact .nil
  | cons source rest ih =>
    have covered := ih fun other isOther => grows other (List.mem_cons_of_mem _ isOther)
    by_cases wasChosen : before source = true
    · obtain ⟨isChosen, sameKey, le⟩ := grows source List.mem_cons_self wasChosen
      rw [List.filter_cons_of_pos wasChosen, List.filter_cons_of_pos isChosen]
      exact .cons ⟨sameKey, le⟩ covered
    · rw [List.filter_cons_of_neg wasChosen]
      by_cases isChosen : after source = true
      · rw [List.filter_cons_of_pos isChosen]
        exact .cons_right covered
      · rwa [List.filter_cons_of_neg isChosen]

theorem CoveredBy.sumUnder_le {first second : List (Key × Nat)} (covered : CoveredBy first second)
    (key : Key) : sumUnder key first ≤ sumUnder key second := by
  induction covered with
  | nil => exact Nat.zero_le _
  | cons grows _ ih =>
    rw [sumUnder_cons, sumUnder_cons, grows.1]
    split
    · exact Nat.add_le_add grows.2 ih
    · exact Nat.add_le_add (Nat.le_refl 0) ih
  | cons_right _ ih =>
    rw [sumUnder_cons]
    exact Nat.le_add_left_of_le ih

omit [DecidableEq Key] in
theorem CoveredBy.sumAll_le {first second : List (Key × Nat)} (covered : CoveredBy first second) :
    sumAll first ≤ sumAll second := by
  induction covered with
  | nil => exact Nat.zero_le _
  | cons grows _ ih =>
    rw [sumAll_cons, sumAll_cons]
    exact Nat.add_le_add grows.2 ih
  | cons_right _ ih =>
    rw [sumAll_cons]
    exact Nat.le_add_left_of_le ih

omit [DecidableEq Key] in
theorem CoveredBy.mem_map_fst {first second : List (Key × Nat)} (covered : CoveredBy first second)
    {key : Key} (isKey : key ∈ first.map Prod.fst) : key ∈ second.map Prod.fst := by
  induction covered with
  | nil => cases isKey
  | cons grows _ ih =>
    rw [List.map_cons, List.mem_cons] at isKey ⊢
    rw [grows.1] at isKey
    exact isKey.imp_right ih
  | cons_right _ ih => exact List.mem_cons_of_mem _ (ih isKey)

/-! ## Keys that are counted -/

/-- The keys of a list in the order of first occurrence, each with the number of times that it
stands there. -/
def tally (keys : List Key) : List (Key × Nat) :=
  keys.eraseDups.map fun key => (key, keys.count key)

/-- Collecting lists the keys in the order of first occurrence. -/
theorem map_fst_collect_nil (pairs : List (Key × Nat)) :
    (collect [] pairs).map Prod.fst = (pairs.map Prod.fst).eraseDups := by
  induction pairs using List.reverseRecOn with
  | nil => rfl
  | append_singleton pairs pair ih =>
    have step : collect [] (pairs ++ [pair]) = increase pair.1 pair.2 (collect [] pairs) := by
      rw [collect, List.foldl_append]
      rfl
    rw [step, increase, map_fst_put_of_eraseDups ih, List.map_append]
    rfl

theorem sumUnder_ones (key : Key) (keys : List Key) :
    sumUnder key (keys.map fun known => (known, 1)) = keys.count key := by
  induction keys with
  | nil => rfl
  | cons known rest ih =>
    rw [List.map_cons, sumUnder_cons, ih, List.count_cons, Nat.add_comm]
    simp

omit [DecidableEq Key] in
theorem sumAll_ones (keys : List Key) : sumAll (keys.map fun key => (key, 1)) = keys.length := by
  simp [sumAll, Function.comp_def]

/-- Entries with distinct keys are listed by their keys. -/
theorem eq_map_of_get? {entries : List (Key × Item)} (distinct : (entries.map Prod.fst).Nodup)
    {value : Key → Item}
    (found : ∀ key ∈ entries.map Prod.fst, get? key entries = some (value key)) :
    entries = (entries.map Prod.fst).map fun key => (key, value key) := by
  rw [List.map_map]
  conv_lhs => rw [← List.map_id entries]
  apply List.map_congr_left
  rintro ⟨key, known⟩ isEntry
  have same := found key (List.mem_map_of_mem isEntry)
  rw [(mem_iff_get? distinct).mp isEntry, Option.some.injEq] at same
  rw [Function.comp_apply, id_eq, same]

/-- Collecting a one for every key counts the keys. -/
theorem collect_ones (keys : List Key) :
    collect [] (keys.map fun key => (key, 1)) = tally keys := by
  have none : (([] : List (Key × Nat)).map Prod.fst).Nodup := List.nodup_nil
  have names : (keys.map fun key => (key, 1)).map Prod.fst = keys := by
    rw [List.map_map]
    exact List.map_id _
  have listed := map_fst_collect_nil (keys.map fun key => (key, 1))
  rw [names] at listed
  rw [tally, ← listed]
  apply eq_map_of_get? (nodup_collect none _)
  intro key isKey
  rw [listed, List.mem_eraseDups] at isKey
  rw [get?_collect, names, if_pos isKey, sumUnder_ones]

end Checkout.Entries
