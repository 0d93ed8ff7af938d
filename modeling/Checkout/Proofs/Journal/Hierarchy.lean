import Checkout.Journal.Logger
import Mathlib.Data.List.Induction

/-!
# Loggers below the shop's

The loggers above one are found by the dots in its name, from the end on, and a dot that is next to
another one is passed over.  So a name in which two dots stand right behind the name of the shop's
logger may miss that logger.  Every other name that begins with the shop's and a dot finds it,
whichever loggers are known, and meets none in between that is not below the shop's logger itself.
-/

namespace Checkout.Journal

/-! ## Names from the end -/

/-- A name, read from the end, goes on behind another and a dot, and not with one more dot. -/
def GoesOn (base name : List Char) : Prop :=
  ∃ more, name = more ++ '.' :: base ∧ more.getLast? ≠ some '.'

namespace Loggers

theorem aboveFromEnd_of_noDot {name : List Char} (noDot : '.' ∉ name) : aboveFromEnd name = [] := by
  induction name using List.twoStepInduction with
  | nil => rfl
  | singleton c => rfl
  | cons_cons c d rest _ ih =>
    rw [List.mem_cons, not_or] at noDot
    rw [aboveFromEnd, if_neg (Ne.symm noDot.1)]
    exact ih d noDot.2

/-- Of the names above one that goes on behind a base the base is the last, and the others go on
behind it too. -/
theorem aboveFromEnd_of_goesOn {base more : List Char} (noDot : '.' ∉ base) (nonempty : base ≠ [])
    (single : more.getLast? ≠ some '.') :
    ∃ front, aboveFromEnd (more ++ '.' :: base) = front ++ [base] ∧
      ∀ other ∈ front, GoesOn base other ∧ other.length < (more ++ '.' :: base).length := by
  have bare : aboveFromEnd ('.' :: base) = [base] := by
    obtain ⟨b, bs, rfl⟩ := List.exists_cons_of_ne_nil nonempty
    have noDotBehind : '.' ∉ bs := fun isIn => noDot (List.mem_cons_of_mem _ isIn)
    rw [aboveFromEnd, if_pos rfl, aboveFromEnd_of_noDot noDotBehind]
  induction more using List.twoStepInduction with
  | nil => exact ⟨[], bare, nofun⟩
  | singleton c =>
    have noDotThere : c ≠ '.' := by simpa using single
    refine ⟨[], ?_, nofun⟩
    rw [List.singleton_append, aboveFromEnd, if_neg noDotThere, bare, List.nil_append]
  | cons_cons c d rest ihRest ih =>
    rw [List.getLast?_cons_cons] at single
    by_cases isDot : c = '.'
    · have singleRest : rest.getLast? ≠ some '.' := by
        cases rest with
        | nil => nofun
        | cons e rest => rwa [List.getLast?_cons_cons] at single
      obtain ⟨front, above, goOn⟩ := ihRest singleRest
      refine ⟨(d :: rest ++ '.' :: base) :: front, ?_, ?_⟩
      · rw [List.cons_append, List.cons_append, aboveFromEnd, if_pos isDot, above]
        rfl
      · rw [List.forall_mem_cons]
        refine ⟨⟨⟨d :: rest, rfl, single⟩, by simp⟩, fun other isOther =>
          ⟨(goOn other isOther).1, ?_⟩⟩
        have shorter := (goOn other isOther).2
        simp only [List.length_append, List.length_cons] at shorter ⊢
        omega
    · obtain ⟨front, above, goOn⟩ := ih d single
      refine ⟨front, ?_, fun other isOther => ⟨(goOn other isOther).1, ?_⟩⟩
      · rw [List.cons_append, List.cons_append, aboveFromEnd, if_neg isDot, ← above]
        rfl
      · have shorter := (goOn other isOther).2
        simp only [List.length_append, List.length_cons] at shorter ⊢
        omega

end Loggers

/-! ## Names below the shop's -/

/-- A logger is below the shop's own: its name goes on behind that of the shop's. -/
def IsBelow (name : String) : Prop :=
  GoesOn shopLogger.toList.reverse name.toList.reverse

/-- A logger is the shop's own, or below it. -/
def IsShops (name : String) : Prop :=
  name = shopLogger ∨ IsBelow name

theorem noDot_shopLogger : '.' ∉ shopLogger.toList.reverse := by
  decide

theorem IsBelow.length_lt {name : String} (below : IsBelow name) :
    shopLogger.length < name.length := by
  obtain ⟨more, shape, _⟩ := below
  have lengths := congrArg List.length shape
  simp only [List.length_reverse, List.length_append, List.length_cons, String.length_toList]
    at lengths
  omega

theorem IsBelow.ne {name : String} (below : IsBelow name) : name ≠ shopLogger := by
  rintro rfl
  exact absurd below.length_lt (Nat.lt_irrefl _)

theorem IsBelow.isEmpty_eq_false {name : String} (below : IsBelow name) :
    name.isEmpty = false := by
  rw [Bool.eq_false_iff, Ne, String.isEmpty_iff]
  rintro rfl
  exact absurd below.length_lt (Nat.not_lt_zero _)

/-- Loggers are named below the shop's, unless their names begin with its name and two dots. -/
theorem isShops_loggerName {name : String}
    (single : ¬(shopLogger ++ "..").toList <+: (loggerName name).toList) :
    IsShops (loggerName name) := by
  have goesOn : ∀ more : List Char, (loggerName name).toList = shopLogger.toList ++ '.' :: more →
      IsBelow (loggerName name) := by
    intro more shape
    refine ⟨more.reverse, by simp [shape], fun isDot => single ?_⟩
    rw [List.getLast?_reverse] at isDot
    obtain ⟨rest, rfl⟩ := List.head?_eq_some_iff.mp isDot
    exact ⟨rest, by simp [shape]⟩
  by_cases isShop : name = shopLogger
  · left
    rw [loggerName, if_pos (.inl isShop), isShop]
  · right
    by_cases isNamed : (shopLogger ++ ".").toList.isPrefixOf name.toList = true
    · obtain ⟨more, shape⟩ := List.isPrefixOf_iff_prefix.mp isNamed
      refine goesOn more ?_
      rw [loggerName, if_pos (.inr isNamed), ← shape]
      simp
    · refine goesOn name.toList ?_
      rw [loggerName, if_neg (not_or.mpr ⟨isShop, isNamed⟩)]
      simp

namespace Loggers

theorem above_shopLogger : above shopLogger = [] := by
  rw [above, aboveFromEnd_of_noDot noDot_shopLogger, List.map_nil]

/-- The shop's logger is the last above one that is below it. -/
theorem above_of_isBelow {name : String} (below : IsBelow name) :
    ∃ front, above name = front ++ [shopLogger] ∧
      ∀ other ∈ front, IsBelow other ∧ other.length < name.length := by
  obtain ⟨more, shape, single⟩ := below
  obtain ⟨front, above, goOn⟩ :=
    aboveFromEnd_of_goesOn noDot_shopLogger (by decide) single
  refine ⟨front.map fun other => String.ofList other.reverse, ?_, ?_⟩
  · rw [Loggers.above, shape, above, List.map_append, List.map_singleton, List.reverse_reverse,
      String.ofList_toList]
  · intro other isOther
    obtain ⟨fromEnd, isFront, rfl⟩ := List.mem_map.mp isOther
    obtain ⟨goesOn, shorter⟩ := goOn fromEnd isFront
    rw [← shape, List.length_reverse, String.length_toList] at shorter
    exact ⟨by simpa [IsBelow] using goesOn, by simpa using shorter⟩

/-! ## Chains -/

variable (loggers : Loggers)

theorem chainUpTo_top (left : Nat) : loggers.chainUpTo (left + 1) "" = [""] := by
  rfl

theorem chainUpTo_shopLogger (left : Nat) :
    loggers.chainUpTo (left + 2) shopLogger = [shopLogger, ""] := by
  rw [chainUpTo, parent, above_shopLogger]
  rfl

/-- The loggers above one that is below the shop's are below it too, up to the shop's itself, if it
is known. -/
theorem chainUpTo_of_isBelow {name : String} (below : IsBelow name) {left : Nat}
    (enough : name.length < left) :
    ∃ front, loggers.chainUpTo left name =
        front ++ (if loggers.isKnown shopLogger then [shopLogger, ""] else [""]) ∧
      ∀ other ∈ front, IsBelow other := by
  induction left generalizing name with
  | zero => exact absurd enough (Nat.not_lt_zero _)
  | succ left ih =>
    have long := below.length_lt
    obtain ⟨front, above, between⟩ := above_of_isBelow below
    have step : loggers.chainUpTo (left + 1) name =
        name :: loggers.chainUpTo left (loggers.parent name) := by
      rw [chainUpTo, below.isEmpty_eq_false]
      rfl
    rw [step, parent, above, List.find?_append]
    cases found : front.find? loggers.isKnown with
    | some other =>
      obtain ⟨otherBelow, shorter⟩ := between other (List.mem_of_find?_eq_some found)
      obtain ⟨rest, chain, restBelow⟩ := ih otherBelow (by omega)
      refine ⟨name :: rest, ?_, List.forall_mem_cons.mpr ⟨below, restBelow⟩⟩
      rw [Option.some_or, Option.getD_some, chain, List.cons_append]
    | none =>
      refine ⟨[name], ?_, List.forall_mem_singleton.mpr below⟩
      obtain ⟨more, rfl⟩ : ∃ more, left = more + 2 := by
        have shop : shopLogger.length = 11 := rfl
        exact ⟨left - 2, by omega⟩
      rw [Option.none_or, List.find?_singleton]
      split
      · rw [Option.getD_some, chainUpTo_shopLogger, List.singleton_append]
      · rw [Option.getD_none, chainUpTo_top, List.singleton_append]

/-- Every logger on the way up from the shop's or from one below it is below it, the shop's itself
or the topmost. -/
theorem chain_of_isShops {name : String} (isShops : IsShops name) :
    ∃ front, loggers.chain name =
        front ++ (if name = shopLogger ∨ loggers.isKnown shopLogger then [shopLogger, ""]
          else [""]) ∧
      ∀ other ∈ front, IsBelow other := by
  rcases isShops with rfl | below
  · refine ⟨[], ?_, nofun⟩
    rw [if_pos (.inl rfl)]
    exact loggers.chainUpTo_shopLogger 10
  · simp only [below.ne, false_or]
    exact loggers.chainUpTo_of_isBelow below (Nat.lt_succ_self name.length)

end Loggers

end Checkout.Journal
