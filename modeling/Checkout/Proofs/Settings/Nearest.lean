import Checkout.Proofs.Folder.Name
import Checkout.Yaml.File
import Mathlib.Data.List.Induction

/-!
# The nearest settings file

Settings files are looked for from a place outward, and in every directory under several names.  The
search is a climb: each directory is tried and then left for the one around it, until the top, which
lies in itself.  The climb ends, and what it comes to is the first spot where the search stops: the
deepest directory counts before the order of the names.  A search stops at a regular file, and at
a path that is too long to be looked at, which is a fault.  Then the file that was found decides
alone, whether it can be used or not, and whatever the loader makes of it.
-/

namespace Checkout.Settings

/-! ## Spots -/

/-- A directory and a name in it where a settings file may stand. -/
structure Spot where
  directory : List String
  name : String
  deriving DecidableEq

namespace Spot

/-- The path from the top to a spot. -/
def path (spot : Spot) : FilePath :=
  ⟨"/", spot.directory ++ [spot.name]⟩

/-- Settings files are looked for at a spot: its directory is a place or lies around it, and its
name is one of theirs. -/
structure IsCandidate (start : List String) (spot : Spot) : Prop where
  around : spot.directory <+: start
  named : spot.name ∈ fileNames

/-- A spot comes before another: its directory is deeper, or its name is earlier in the same. -/
def Precedes (first second : Spot) : Prop :=
  second.directory.length < first.directory.length ∨
    first.directory = second.directory ∧
      fileNames.idxOf first.name < fileNames.idxOf second.name

theorem Precedes.asymm {first second : Spot} (precedes : first.Precedes second) :
    ¬second.Precedes first := by
  rintro (deeper | ⟨same, earlier⟩)
  · rcases precedes with otherDeeper | ⟨same, _⟩
    · omega
    · rw [same] at deeper
      omega
  · rcases precedes with deeper | ⟨_, otherEarlier⟩
    · rw [same] at deeper
      omega
    · omega

end Spot

/-! ## The order of the search -/

/-- The spots in a directory. -/
def spotsIn (directory : List String) : List Spot :=
  fileNames.map (Spot.mk directory)

/-- All spots that are looked at from a place, in order. -/
def spots (start : List String) : List Spot :=
  (outward start).flatMap spotsIn

theorem candidates_eq (start : List String) :
    (candidates start).map (FilePath.mk "/") = (spots start).map Spot.path := by
  simp only [candidates, spots, spotsIn, List.map_flatMap, List.map_map]
  rfl

/-- From inside a directory the search goes on as from the directory. -/
theorem outward_concat (place : List String) (last : String) :
    outward (place ++ [last]) = (place ++ [last]) :: outward place := by
  have taken : ∀ count ∈ List.range (place.length + 1),
      (place ++ [last]).take (place.length + 1 - (count + 1)) =
        place.take (place.length - count) := by
    intro count _
    rw [Nat.add_sub_add_right, List.take_append_of_le_length (Nat.sub_le _ _)]
  rw [outward, List.length_append, List.length_singleton, List.range_succ_eq_map, List.map_cons,
    List.map_map, outward]
  congr 1
  · simp
  · exact List.map_congr_left taken

theorem mem_outward_iff {directory start : List String} :
    directory ∈ outward start ↔ directory <+: start := by
  induction start using List.reverseRecOn with
  | nil =>
    rw [List.prefix_nil]
    exact List.mem_singleton
  | append_singleton place last ih => rw [outward_concat, List.mem_cons, ih, List.prefix_concat_iff]

/-- Deeper directories come first. -/
theorem pairwise_outward (start : List String) :
    (outward start).Pairwise fun inner outer => outer.length < inner.length := by
  induction start using List.reverseRecOn with
  | nil => exact List.pairwise_singleton _ _
  | append_singleton place last ih =>
    rw [outward_concat, List.pairwise_cons]
    refine ⟨fun outer isOuter => ?_, ih⟩
    have shorter := (mem_outward_iff.mp isOuter).length_le
    rw [List.length_append, List.length_singleton]
    omega

theorem mem_spots_iff {spot : Spot} {start : List String} :
    spot ∈ spots start ↔ spot.IsCandidate start := by
  constructor
  · intro isSpot
    obtain ⟨directory, isAround, isIn⟩ := List.mem_flatMap.mp isSpot
    obtain ⟨name, isName, rfl⟩ := List.mem_map.mp isIn
    exact ⟨mem_outward_iff.mp isAround, isName⟩
  · rintro ⟨around, named⟩
    exact List.mem_flatMap.mpr ⟨_, mem_outward_iff.mpr around, List.mem_map.mpr ⟨_, named, rfl⟩⟩

theorem pairwise_spots (start : List String) : (spots start).Pairwise Spot.Precedes := by
  refine List.pairwise_flatMap.mpr ⟨fun directory _ => ?_, ?_⟩
  · have earlier : fileNames.Pairwise fun first second =>
        fileNames.idxOf first < fileNames.idxOf second := by decide
    exact List.pairwise_map.mpr (earlier.imp fun isEarlier => .inr ⟨rfl, isEarlier⟩)
  · refine (pairwise_outward start).imp fun {inner outer} deeper first isFirst second isSecond => ?_
    obtain ⟨_, _, rfl⟩ := List.mem_map.mp isFirst
    obtain ⟨_, _, rfl⟩ := List.mem_map.mp isSecond
    exact .inl deeper

/-! ## Where the search stops -/

/-- The search stops at a path: a regular file stands there, or it can not be told what does. -/
def stops (tree : FileTree) (path : FilePath) : Bool :=
  match tree.look [] path with
  | .ok none => false
  | .ok (some .directory) => false
  | .ok (some (.file _)) => true
  | .error _ => true

/-- The search stops at a spot, and at no other in front of it. -/
structure IsFirst (tree : FileTree) (start : List String) (spot : Spot) : Prop where
  candidate : spot.IsCandidate start
  stops : stops tree spot.path = true
  first : ∀ other : Spot, other.IsCandidate start → Settings.stops tree other.path = true →
    other = spot ∨ spot.Precedes other

theorem find?_spots_eq_some_iff {tree : FileTree} {start : List String} {spot : Spot} :
    (spots start).find? (fun spot => stops tree spot.path) = some spot ↔
      IsFirst tree start spot := by
  rw [List.find?_eq_some_iff_append]
  constructor
  · rintro ⟨isStop, before, behind, divided, passed⟩
    have isSpot : spot ∈ spots start := by simp [divided]
    refine ⟨mem_spots_iff.mp isSpot, isStop, fun other isCandidate stopsThere => ?_⟩
    have ordered := pairwise_spots start
    have isOther := mem_spots_iff.mpr isCandidate
    rw [divided, List.pairwise_append, List.pairwise_cons] at ordered
    rw [divided, List.mem_append, List.mem_cons] at isOther
    rcases isOther with isBefore | same | isBehind
    · have passedBy := passed other isBefore
      rw [stopsThere] at passedBy
      cases passedBy
    · exact .inl same
    · exact .inr (ordered.2.1.1 other isBehind)
  · rintro ⟨isCandidate, isStop, first⟩
    obtain ⟨before, behind, divided⟩ := List.append_of_mem (mem_spots_iff.mpr isCandidate)
    refine ⟨isStop, before, behind, divided, fun other isBefore => ?_⟩
    have ordered := pairwise_spots start
    rw [divided, List.pairwise_append] at ordered
    have precedes := ordered.2.2 other isBefore spot List.mem_cons_self
    have isOther : other ∈ spots start := by simp [divided, isBefore]
    by_contra stopsThere
    rw [Bool.not_eq_true, Bool.not_eq_false'] at stopsThere
    rcases first other (mem_spots_iff.mp isOther) stopsThere with rfl | behindIt
    · exact precedes.asymm precedes
    · exact precedes.asymm behindIt

/-! ## Climbing -/

theorem firstFile_cons (tree : FileTree) (path : FilePath) (rest : List FilePath) :
    firstFile tree (path :: rest) =
      if stops tree path then (tree.look [] path).map fun _ => some path
      else firstFile tree rest := by
  rw [firstFile, stops]
  cases tree.look [] path with
  | error fault => rfl
  | ok node => rcases node with _ | _ | _ <;> rfl

/-- What comes of the first path at which the search stops decides. -/
theorem firstFile_eq (tree : FileTree) (paths : List FilePath) :
    firstFile tree paths =
      match paths.find? (stops tree) with
      | none => .ok none
      | some path => (tree.look [] path).map fun _ => some path := by
  induction paths with
  | nil => rfl
  | cons path rest ih =>
    rw [firstFile_cons, List.find?_cons, ih]
    cases stops tree path <;> rfl

theorem firstFile_append (tree : FileTree) (first second : List FilePath) :
    firstFile tree (first ++ second) =
      match firstFile tree first with
      | .ok none => firstFile tree second
      | outcome => outcome := by
  induction first with
  | nil => rfl
  | cons path rest ih =>
    rw [List.cons_append, firstFile_cons, firstFile_cons, ih]
    split
    · cases tree.look [] path <;> rfl
    · rfl

/-- The search as it goes on from one directory to the one around it. -/
inductive Climbs (tree : FileTree) : FilePath → Except Fault (Option FilePath) → Prop
  /-- A file is found in the directory, or a fault. -/
  | stop {directory : FilePath} {outcome : Except Fault (Option FilePath)} :
      firstFile tree (fileNames.map fun name => directory.join ⟨"", [name]⟩) = outcome →
      outcome ≠ .ok none → Climbs tree directory outcome
  /-- Nothing is found up to the top, which is its own parent. -/
  | top {directory : FilePath} :
      firstFile tree (fileNames.map fun name => directory.join ⟨"", [name]⟩) = .ok none →
      directory.parent = directory → Climbs tree directory (.ok none)
  /-- Nothing is found in the directory, and the search goes on in its parent. -/
  | up {directory : FilePath} {outcome : Except Fault (Option FilePath)} :
      firstFile tree (fileNames.map fun name => directory.join ⟨"", [name]⟩) = .ok none →
      directory.parent ≠ directory → Climbs tree directory.parent outcome →
      Climbs tree directory outcome

theorem search_nil (tree : FileTree) :
    search tree [] =
      firstFile tree (fileNames.map fun name => FilePath.join ⟨"/", []⟩ ⟨"", [name]⟩) :=
  rfl

theorem search_concat (tree : FileTree) (place : List String) (last : String) :
    search tree (place ++ [last]) =
      match firstFile tree
          (fileNames.map fun name => FilePath.join ⟨"/", place ++ [last]⟩ ⟨"", [name]⟩) with
      | .ok none => search tree place
      | outcome => outcome := by
  rw [search, candidates_eq, spots, outward_concat, List.flatMap_cons, List.map_append,
    firstFile_append, search, candidates_eq, spots, spotsIn, List.map_map]
  rfl

/-- A climb ends, and in one way only. -/
theorem climbs_iff {tree : FileTree} {place : List String}
    {outcome : Except Fault (Option FilePath)} :
    Climbs tree ⟨"/", place⟩ outcome ↔ search tree place = outcome := by
  induction place using List.reverseRecOn with
  | nil =>
    rw [search_nil]
    constructor
    · intro climb
      cases climb with
      | stop found _ => exact found
      | top found _ => exact found
      | up _ notTop _ => exact absurd rfl notTop
    · intro found
      by_cases nothing : outcome = .ok none
      · rw [nothing] at found ⊢
        exact .top found rfl
      · exact .stop found nothing
  | append_singleton place last ih =>
    have parent : (⟨"/", place ++ [last]⟩ : FilePath).parent = ⟨"/", place⟩ := by
      rw [FilePath.parent, List.dropLast_concat]
    have notTop : (⟨"/", place ++ [last]⟩ : FilePath).parent ≠ ⟨"/", place ++ [last]⟩ := by
      rw [parent]
      simp
    rw [search_concat]
    constructor
    · intro climb
      cases climb with
      | stop found notNothing =>
        rw [found]
        split
        · exact absurd rfl notNothing
        · rfl
      | top _ isTop => exact absurd isTop notTop
      | up nothing _ onward =>
        rw [nothing]
        rw [parent] at onward
        exact ih.mp onward
    · intro found
      split at found
      · rename_i nothing
        refine .up nothing notTop ?_
        rw [parent]
        exact ih.mpr found
      · rename_i notNothing
        exact .stop found (found ▸ notNothing)

/-! ## What the search comes to -/

/-- A spot is looked at as it is from everywhere. -/
theorem look_spot (tree : FileTree) (current : List String) (spot : Spot) :
    tree.look current spot.path = tree.look [] spot.path :=
  rfl

theorem search_eq (tree : FileTree) (start : List String) :
    search tree start =
      match (spots start).find? fun spot => stops tree spot.path with
      | none => .ok none
      | some spot => (tree.look [] spot.path).map fun _ => some spot.path := by
  rw [search, candidates_eq, firstFile_eq, List.find?_map]
  change (match ((spots start).find? fun spot => stops tree spot.path).map Spot.path with
    | none => Except.ok none
    | some path => (tree.look [] path).map fun _ => some path) = _
  cases (spots start).find? fun spot => stops tree spot.path <;> rfl

/-- What the settings are that are found from a place: those of the file at the first spot where the
search stops, if a file stands there, and the defaults if it stops nowhere. -/
inductive Found (load : Loader) (tree : FileTree) (current start : List String) :
    Except Fault Settings → Prop
  | file {spot : Spot} {content : ByteArray} :
      IsFirst tree start spot → tree.look [] spot.path = .ok (some (.file content)) →
      Found load tree current start (ofFile load tree current spot.path)
  | fault {spot : Spot} {fault : Fault} :
      IsFirst tree start spot → tree.look [] spot.path = .error fault →
      Found load tree current start (.error fault)
  | defaults :
      (∀ spot : Spot, spot.IsCandidate start → stops tree spot.path = false) →
      Found load tree current start (.ok { tree := defaults, source := none })

variable {load : Loader}

theorem nearest_of_nameable {current : List String} {start : FilePath} (tree : FileTree)
    (nameable : start.parts.findSome? FileTree.nameObstacle? = none) :
    nearest load tree current start =
      (search tree (resolve current start)).bind fun found =>
        match found with
        | some path => ofFile load tree current path
        | none => .ok { tree := defaults, source := none } := by
  rw [nearest, nameable]
  rfl

theorem nearest_eq_iff_found {tree : FileTree} {current : List String} {start : FilePath}
    (nameable : start.parts.findSome? FileTree.nameObstacle? = none)
    {outcome : Except Fault Settings} :
    nearest load tree current start = outcome ↔
      Found load tree current (resolve current start) outcome := by
  rw [nearest_of_nameable tree nameable, search_eq]
  constructor
  · rintro rfl
    cases stop : (spots (resolve current start)).find? fun spot => stops tree spot.path with
    | none =>
      refine .defaults fun spot isCandidate => ?_
      simpa using List.find?_eq_none.mp stop spot (mem_spots_iff.mpr isCandidate)
    | some spot =>
      have isFirst := find?_spots_eq_some_iff.mp stop
      have isStop := isFirst.stops
      rw [stops] at isStop
      dsimp only
      split at isStop
      · cases isStop
      · cases isStop
      · rename_i content stands
        rw [stands]
        exact .file isFirst stands
      · rename_i fault refused
        rw [refused]
        exact .fault isFirst refused
  · intro found
    cases found with
    | file isFirst stands =>
      rw [find?_spots_eq_some_iff.mpr isFirst]
      dsimp only
      rw [stands]
      rfl
    | fault isFirst refused =>
      rw [find?_spots_eq_some_iff.mpr isFirst]
      dsimp only
      rw [refused]
      rfl
    | defaults passed =>
      have nowhere : ((spots (resolve current start)).find? fun spot => stops tree spot.path) =
          none := List.find?_eq_none.mpr fun spot isSpot => by
        simp [passed spot (mem_spots_iff.mp isSpot)]
      rw [nowhere]
      rfl

/-! ## Where the search starts -/

theorem eq_foldl_of_walk {tree : FileTree} {place parts reached : List String}
    (walked : tree.walk place parts = .ok reached) : parts.foldl FileTree.next place = reached := by
  induction parts generalizing place with
  | nil => exact Except.ok.inj walked
  | cons part rest ih => exact ih (FileTree.walk_cons_eq_ok_iff.mp walked).2.2

/-- A path that leads somewhere is resolved to the place that it leads to. -/
theorem resolve_of_placeOf {tree : FileTree} {current reached : List String} {path : FilePath}
    (found : tree.placeOf current path = .ok reached) : resolve current path = reached :=
  eq_foldl_of_walk (FileTree.placeOf_eq_ok_iff.mp found).2.2

/-- What stands at spots behind the first one where the search stops makes no difference. -/
theorem nearest_congr {tree other : FileTree} {current : List String} {start : FilePath}
    (nameable : start.parts.findSome? FileTree.nameObstacle? = none) {spot : Spot}
    (isFirst : IsFirst tree (resolve current start) spot)
    (same : ∀ another : Spot, another.IsCandidate (resolve current start) →
      ¬spot.Precedes another → other.look [] another.path = tree.look [] another.path) :
    nearest load other current start = nearest load tree current start := by
  have stopsAlike : ∀ another : Spot, another.IsCandidate (resolve current start) →
      ¬spot.Precedes another → stops other another.path = stops tree another.path := by
    intro another isCandidate notBehind
    rw [stops, stops, same another isCandidate notBehind]
  have notBehindItself : ¬spot.Precedes spot := fun behind => behind.asymm behind
  have isFirstThere : IsFirst other (resolve current start) spot := by
    refine ⟨isFirst.candidate, ?_, fun another isCandidate stopsThere => ?_⟩
    · rw [stopsAlike spot isFirst.candidate notBehindItself]
      exact isFirst.stops
    · by_cases behind : spot.Precedes another
      · exact .inr behind
      · rw [stopsAlike another isCandidate behind] at stopsThere
        exact isFirst.first another isCandidate stopsThere
  have sameLook := same spot isFirst.candidate notBehindItself
  rw [nearest_of_nameable other nameable, nearest_of_nameable tree nameable, search_eq, search_eq,
    find?_spots_eq_some_iff.mpr isFirst, find?_spots_eq_some_iff.mpr isFirstThere]
  dsimp only
  rw [sameLook]
  cases tree.look [] spot.path with
  | error fault => rfl
  | ok node =>
    simp only [Except.map, bind_ok, ofFile, look_spot, sameLook]

/-- Where a start can be named, the climb from the place that it is resolved to ends, in one way
only, and leads to the settings: those of the first spot where the search stops, whatever stands
behind it, be they a fault, and the defaults if the search stops nowhere.  A start that can not be
named is refused. -/
theorem nearest_found_outward (load : Loader) (tree : FileTree) (current : List String)
    (start : FilePath) :
    (∀ obstacle, start.parts.findSome? FileTree.nameObstacle? = some obstacle →
      nearest load tree current start = .error obstacle.fault) ∧
    (start.parts.findSome? FileTree.nameObstacle? = none →
      let place := resolve current start
      (∀ reached, tree.placeOf current start = .ok reached → place = reached) ∧
      (∃ climbed, (∀ outcome, Climbs tree ⟨"/", place⟩ outcome ↔ outcome = climbed) ∧
        nearest load tree current start = climbed.bind fun found =>
          match found with
          | some path => ofFile load tree current path
          | none => .ok { tree := defaults, source := none }) ∧
      (∀ outcome, nearest load tree current start = outcome ↔
        Found load tree current place outcome) ∧
      ∀ (spot : Spot) (other : FileTree), IsFirst tree place spot →
        (∀ another : Spot, another.IsCandidate place → ¬spot.Precedes another →
          other.look [] another.path = tree.look [] another.path) →
        nearest load other current start = nearest load tree current start) := by
  constructor
  · intro obstacle unnameable
    rw [nearest, unnameable]
    rfl
  · intro nameable place
    refine ⟨fun reached => resolve_of_placeOf, ⟨search tree place, fun outcome => ?_, ?_⟩, ?_, ?_⟩
    · rw [climbs_iff, eq_comm]
    · exact nearest_of_nameable tree nameable
    · exact fun outcome => nearest_eq_iff_found nameable
    · exact fun spot other isFirst same => nearest_congr nameable isFirst same

/-- A shop with settings, and a till in it with a list in place of settings, and with a directory
that is named like a file of them. -/
def tillTree : FileTree :=
  ⟨[(["shop"], .directory), (["shop", ".pricebasket.yml"], .file "\x7b\x7d\n".toUTF8),
    (["shop", "till"], .directory), (["shop", "till", ".pricebasket.yml"], .directory),
    (["shop", "till", "pricebasket.yml"], .file "- a\n".toUTF8)]⟩

/-- The list at the till is refused, and the settings of the shop around it are not tried. -/
theorem nearest_found_outward_till :
    (FilePath.mk "" ["till"]).parts.findSome? FileTree.nameObstacle? = none ∧
      nearest Yaml.load tillTree ["shop"] ⟨"", ["till"]⟩ =
        .error (.problem (.settings (.notAMapping "/shop/till/pricebasket.yml"))) := by
  have nameable : (FilePath.mk "" ["till"]).parts.findSome? FileTree.nameObstacle? = none := by
    decide +kernel
  have place : resolve ["shop"] ⟨"", ["till"]⟩ = ["shop", "till"] := by decide +kernel
  let spot : Spot := ⟨["shop", "till"], "pricebasket.yml"⟩
  have isFirst : IsFirst tillTree ["shop", "till"] spot :=
    find?_spots_eq_some_iff.mp (by decide +kernel)
  have stands : tillTree.look [] spot.path = .ok (some (.file "- a\n".toUTF8)) :=
    toOption_eq_some_iff.mp (by decide +kernel)
  have isRefused : ofFile Yaml.load tillTree ["shop"] spot.path =
      .error (.problem (.settings (.notAMapping "/shop/till/pricebasket.yml"))) := by
    have format : Format.ofSuffix? spot.path.suffix = some .yaml := by decide +kernel
    have loaded : Yaml.load "- a\n".toUTF8 = .ok (.list [.text "a"]) := by
      have node : Yaml.Node.ofTokens [.blockListStart, .entry, .scalar ['a'] true, .blockEnd] =
          .ok (some (.list [.scalar ['a'] true])) := by
        simp [Yaml.Node.ofTokens, Yaml.Node.content, Yaml.Node.read, Yaml.Node.blockItems,
          Yaml.Node.readUnless, Yaml.Node.isLeftOut, Yaml.Node.deepest, Yaml.Node.finish, bind,
          Except.bind]
      have readable : FileTree.readable "- a\n".toUTF8 = (['-', ' ', 'a', '\n'], false) := by
        decide +kernel
      have tokens : Yaml.tokens ['-', ' ', 'a', '\n'] false =
          [.blockListStart, .entry, .scalar ['a'] true, .blockEnd] := by decide +kernel
      exact Yaml.load_of_tokens readable tokens node rfl
    have text : spot.path.toText = "/shop/till/pricebasket.yml" := by decide +kernel
    rw [ofFile, look_spot, stands]
    simp only [bind, bind_ok, ofNode, format, ofContent, Format.read, loaded, text,
      Except.mapError, ofDocument, Value.isEmpty, List.isEmpty_cons, Bool.false_eq_true, if_false]
  refine ⟨nameable, ?_⟩
  rw [← isRefused]
  have found := ((nearest_found_outward Yaml.load tillTree ["shop"] ⟨"", ["till"]⟩).2
    nameable).2.2.1
  apply (found _).mpr
  rw [place]
  exact .file isFirst stands

/-- Nothing can be looked at in a directory whose name is too long. -/
theorem look_of_long_name (tree : FileTree) {name : String} (early : Text.IsEarly name.toList)
    (noNull : '\x00' ∉ name.toList) (long : FileTree.longestName < FileTree.nameSize name) :
    tree.look [] (Spot.path ⟨[name], ".pricebasket.yml"⟩) = .error .longName := by
  let spot : Spot := ⟨[name], ".pricebasket.yml"⟩
  have text : spot.path.toText.toList = '/' :: name.toList ++ "/.pricebasket.yml".toList := by
    simp [spot, Spot.path, FilePath.toText]
  have earlyPath : Text.IsEarly spot.path.toText.toList := by
    rw [text]
    intro c isIn
    rw [List.cons_append, List.mem_cons, List.mem_append] at isIn
    rcases isIn with rfl | isIn | isIn
    · decide
    · exact early c isIn
    · have inFront : ("/.pricebasket.yml".toList.all fun c => c.toNat < 0xD800) = true := by
        decide +kernel
      exact of_decide_eq_true (List.all_eq_true.mp inFront c isIn)
  have noNullPath : '\x00' ∉ spot.path.toText.toList := by
    rw [text, List.cons_append, List.mem_cons, List.mem_append, not_or, not_or]
    exact ⟨by decide, noNull, by decide +kernel⟩
  have walked : tree.walk [] spot.path.parts = .error .tooLong := by
    change tree.walk [] [name, ".pricebasket.yml"] = .error .tooLong
    rw [FileTree.walk, if_pos long]
    rfl
  have unplaced : tree.placeOf [] spot.path = .error .tooLong := by
    rw [FileTree.placeOf, FileTree.nameObstacle?_of_isEarly earlyPath noNullPath]
    dsimp only
    split
    · rfl
    · exact walked
  rw [FileTree.look, unplaced]

/-- A start with a name that is too long for any file fails, whatever the tree holds. -/
theorem nearest_of_long_name (load : Loader) (tree : FileTree) {name : String}
    (early : Text.IsEarly name.toList) (noNull : '\x00' ∉ name.toList)
    (long : FileTree.longestName < FileTree.nameSize name) :
    nearest load tree [] ⟨"", [name]⟩ = .error .longName := by
  have nameable : (FilePath.mk "" [name]).parts.findSome? FileTree.nameObstacle? = none := by
    rw [List.findSome?_cons, FileTree.nameObstacle?_of_isEarly early noNull, List.findSome?_nil]
  have down : name ≠ ".." := by
    rintro rfl
    revert long
    decide +kernel
  have place : resolve [] ⟨"", [name]⟩ = [name] := by
    rw [resolve, List.foldl_cons, List.foldl_nil, FileTree.next, if_neg down,
      Folder.canonical_of_isEarly early]
    rfl
  have refused := look_of_long_name tree early noNull long
  have isFirst : IsFirst tree [name] ⟨[name], ".pricebasket.yml"⟩ := by
    refine find?_spots_eq_some_iff.mp ?_
    rw [← List.nil_append [name], spots, outward_concat, List.flatMap_cons, spotsIn, fileNames,
      List.map_cons, List.cons_append]
    refine List.find?_cons_of_pos ?_
    change stops tree (Spot.path ⟨[name], ".pricebasket.yml"⟩) = true
    rw [stops, refused]
  rw [nearest_eq_iff_found nameable, place]
  exact .fault isFirst refused

/-- A name that is longer than those of files can be. -/
def longName : String :=
  String.ofList (List.replicate 256 'n')

/-- From a name that is too long nothing is found, and the search fails all the same. -/
theorem nearest_fails_longName :
    (∀ spot : Spot, spot.IsCandidate (resolve [] ⟨"", [longName]⟩) → ∀ content,
      (FileTree.mk []).look [] spot.path ≠ .ok (some (.file content))) ∧
    nearest Yaml.load (FileTree.mk []) [] ⟨"", [longName]⟩ ≠
      .ok { tree := defaults, source := none } := by
  constructor
  · intro spot _ content stands
    obtain ⟨place, _, isFile⟩ := FileTree.look_eq_some_iff.mp stands
    unfold FileTree.at? at isFile
    split at isFile <;> cases isFile
  · have letters : longName.toList = List.replicate 256 'n' := String.toList_ofList
    have sameLetter : ∀ c ∈ longName.toList, c = 'n' := by
      intro c isIn
      rw [letters] at isIn
      exact List.eq_of_mem_replicate isIn
    have early : Text.IsEarly longName.toList := by
      intro c isIn
      rw [sameLetter c isIn]
      decide
    have long : FileTree.longestName < FileTree.nameSize longName := by
      rw [FileTree.nameSize_of_isEarly early, letters, List.map_replicate, List.sum_replicate]
      decide
    have fails := nearest_of_long_name Yaml.load (FileTree.mk []) early
      (fun isIn => absurd (sameLetter _ isIn) (by decide)) long
    rw [fails]
    simp

end Checkout.Settings
