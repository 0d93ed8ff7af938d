import Checkout.Folder.Visit
import Checkout.Proofs.Entries
import Mathlib.Data.List.Induction

/-!
# Walks in a tree that grows

Directories are made and files are written, but nothing is ever taken away.  So a walk that has
reached its end leads to the same end later on.  A walk that finds nothing on its way may be
finished later, when directories have been made.  Where it then leads is only certain as long as no
two dots follow: what is made behind a missing directory stands where nothing stood before, but two
dots may lead back to anything.
-/

namespace Checkout.FileTree

/-! ## What is kept -/

/-- Something is put where no directory stands, and everything else stays. -/
theorem at?_put {tree : FileTree} {place : List String}
    (noDirectory : tree.at? place ≠ some .directory) (node : FileNode) (other : List String) :
    (tree.put place node).at? other = if place = other then some node else tree.at? other := by
  cases other with
  | nil =>
    have below : place ≠ [] := by
      rintro rfl
      exact noDirectory rfl
    exact (if_neg below).symm
  | cons name rest => exact Entries.get?_put place (name :: rest) node tree.nodes

/-- Whatever stands in the first tree stands in the second. -/
def Keeps (before after : FileTree) : Prop :=
  ∀ place node, before.at? place = some node → after.at? place = some node

theorem Keeps.refl (tree : FileTree) : tree.Keeps tree :=
  fun _ _ stands => stands

theorem Keeps.trans {first second third : FileTree} (keeps : first.Keeps second)
    (alsoKeeps : second.Keeps third) : first.Keeps third :=
  fun place node stands => alsoKeeps place node (keeps place node stands)

theorem keeps_put {tree : FileTree} {place : List String} (free : tree.at? place = none)
    (node : FileNode) : tree.Keeps (tree.put place node) := by
  intro other known stands
  rw [at?_put (by simp [free]), if_neg, stands]
  rintro rfl
  rw [free] at stands
  cases stands

/-- The second tree has nothing but directories that the first has not. -/
def AddsDirectories (before after : FileTree) : Prop :=
  ∀ place, after.at? place = before.at? place ∨
    before.at? place = none ∧ after.at? place = some .directory

theorem AddsDirectories.refl (tree : FileTree) : tree.AddsDirectories tree :=
  fun _ => .inl rfl

theorem AddsDirectories.trans {first second third : FileTree} (adds : first.AddsDirectories second)
    (alsoAdds : second.AddsDirectories third) : first.AddsDirectories third := by
  intro place
  rcases adds place with same | ⟨free, made⟩
  · rw [← same]
    exact alsoAdds place
  · rcases alsoAdds place with same | ⟨stillFree, _⟩
    · exact .inr ⟨free, same.trans made⟩
    · rw [made] at stillFree
      cases stillFree

theorem AddsDirectories.keeps {before after : FileTree} (adds : before.AddsDirectories after) :
    before.Keeps after := by
  intro place node stands
  rcases adds place with same | ⟨free, _⟩
  · rw [same, stands]
  · rw [free] at stands
    cases stands

/-- Adding directories makes no difference to the files. -/
theorem AddsDirectories.file_iff {before after : FileTree} (adds : before.AddsDirectories after)
    (place : List String) (content : ByteArray) :
    after.at? place = some (.file content) ↔ before.at? place = some (.file content) := by
  rcases adds place with same | ⟨free, made⟩
  · rw [same]
  · simp [free, made]

/-! ## Sound trees -/

/-- Everything stands in a directory, and the current place is one. -/
structure IsSound (current : List String) (tree : FileTree) : Prop where
  above : ∀ place, tree.at? place ≠ none → tree.at? place.dropLast = some .directory
  home : tree.at? current = some .directory

variable {current : List String} {tree : FileTree}

/-- It is enough to look at the places that something was put at. -/
theorem isSound_of_nodes
    (above : ∀ node ∈ tree.nodes, tree.at? node.1.dropLast = some .directory)
    (home : tree.at? current = some .directory) : tree.IsSound current where
  above place stands := by
    cases place with
    | nil => rfl
    | cons name rest =>
      have isKnown : name :: rest ∈ tree.nodes.map Prod.fst :=
        Entries.get?_isSome_iff.mp (Option.isSome_iff_ne_none.mpr stands)
      obtain ⟨node, isNode, same⟩ := List.mem_map.mp isKnown
      rw [← same]
      exact above node isNode
  home := home

/-- Nothing stands below a place where nothing stands. -/
theorem IsSound.at?_append_of_none (sound : tree.IsSound current) {place : List String}
    (free : tree.at? place = none) (more : List String) : tree.at? (place ++ more) = none := by
  induction more using List.reverseRecOn with
  | nil => rwa [List.append_nil]
  | append_singleton more last ih =>
    by_contra stands
    have inDirectory := sound.above _ stands
    rw [← List.append_assoc, List.dropLast_concat, ih] at inDirectory
    cases inDirectory

/-- Something that is put in a directory, but in no directory's place, leaves the tree sound. -/
theorem IsSound.put (sound : tree.IsSound current) {place : List String}
    (noDirectory : tree.at? place ≠ some .directory)
    (inside : tree.at? place.dropLast = some .directory) (node : FileNode) :
    (tree.put place node).IsSound current := by
  have kept : ∀ other, tree.at? other = some .directory →
      (tree.put place node).at? other = some .directory := by
    intro other isDirectory
    rw [at?_put noDirectory, if_neg, isDirectory]
    rintro rfl
    exact noDirectory isDirectory
  refine ⟨fun other stands => ?_, kept current sound.home⟩
  rw [at?_put noDirectory] at stands
  split at stands
  · rename_i same
    exact kept _ (same ▸ inside)
  · exact kept _ (sound.above other stands)

/-! ## Walks -/

theorem walk_cons_eq_ok_iff {place reached : List String} {part : String} {rest : List String} :
    tree.walk place (part :: rest) = .ok reached ↔
      tree.at? place = some .directory ∧ ¬longestName < nameSize part ∧
        tree.walk (next place part) rest = .ok reached := by
  rw [walk]
  split
  · split <;> simp_all
  · simp_all
  · simp_all

/-- A walk can be done in two parts. -/
theorem walk_append_eq_ok_iff {place reached : List String} {first second : List String} :
    tree.walk place (first ++ second) = .ok reached ↔
      ∃ middle, tree.walk place first = .ok middle ∧ tree.walk middle second = .ok reached := by
  induction first generalizing place with
  | nil => simp [walk]
  | cons part rest ih =>
    simp only [List.cons_append, walk_cons_eq_ok_iff, ih]
    constructor
    · rintro ⟨isDirectory, short, middle, toMiddle, onward⟩
      exact ⟨middle, ⟨isDirectory, short, toMiddle⟩, onward⟩
    · rintro ⟨middle, ⟨isDirectory, short, toMiddle⟩, onward⟩
      exact ⟨isDirectory, short, middle, toMiddle, onward⟩

/-- All that a walk needs are the directories on the way. -/
theorem walk_eq_ok_of_directories {before after : FileTree}
    (keeps : ∀ place, before.at? place = some .directory → after.at? place = some .directory)
    {place reached parts : List String} (walked : before.walk place parts = .ok reached) :
    after.walk place parts = .ok reached := by
  induction parts generalizing place with
  | nil => exact walked
  | cons part rest ih =>
    obtain ⟨isDirectory, short, onward⟩ := walk_cons_eq_ok_iff.mp walked
    exact walk_cons_eq_ok_iff.mpr ⟨keeps place isDirectory, short, ih onward⟩

/-- A walk through directories ends in one, whatever stands at its end. -/
theorem IsSound.above_of_walk (sound : tree.IsSound current) {place reached parts : List String}
    (above : tree.at? place.dropLast = some .directory)
    (walked : tree.walk place parts = .ok reached) :
    tree.at? reached.dropLast = some .directory := by
  induction parts generalizing place with
  | nil =>
    cases walked
    exact above
  | cons part rest ih =>
    obtain ⟨isDirectory, _, onward⟩ := walk_cons_eq_ok_iff.mp walked
    apply ih _ onward
    have stands : tree.at? place ≠ none := by
      rw [isDirectory]
      exact Option.some_ne_none _
    unfold next
    split
    · apply sound.above
      rw [above]
      exact Option.some_ne_none _
    · rwa [List.dropLast_concat]

/-! ## Ways that lead back -/

/-- The names that a walk has in front of it where it finds nothing. -/
def unwalked (tree : FileTree) (place : List String) : List String → List String
  | [] => []
  | part :: rest =>
    match tree.at? place with
    | some .directory =>
      if longestName < nameSize part then [] else unwalked tree (next place part) rest
    | some (.file _) => []
    | none => part :: rest

theorem unwalked_subset (tree : FileTree) (place parts : List String) :
    tree.unwalked place parts ⊆ parts := by
  induction parts generalizing place with
  | nil => exact List.Subset.refl _
  | cons part rest ih =>
    unfold unwalked
    split
    · split
      · exact List.nil_subset _
      · exact List.subset_cons_of_subset _ (ih _)
    · exact List.nil_subset _
    · exact List.Subset.refl _

/-- What has two dots in front of it later had them before. -/
theorem Keeps.dots_not_mem_unwalked {before after : FileTree} (keeps : before.Keeps after)
    {place parts : List String} (noDots : ".." ∉ before.unwalked place parts) :
    ".." ∉ after.unwalked place parts := by
  induction parts generalizing place with
  | nil => exact noDots
  | cons part rest ih =>
    rw [unwalked] at noDots
    cases stands : before.at? place with
    | none =>
      rw [stands] at noDots
      exact fun isIn => noDots (unwalked_subset after place _ isIn)
    | some node =>
      rw [unwalked, keeps place node stands]
      rw [stands] at noDots
      cases node with
      | file content => exact noDots
      | directory =>
        dsimp only at noDots ⊢
        split at noDots
        · rename_i long
          rw [if_pos long]
          exact noDots
        · rename_i short
          rw [if_neg short]
          exact ih noDots

/-- A walk without two dots goes down. -/
theorem exists_append_of_walk {place reached parts : List String} (noDots : ".." ∉ parts)
    (walked : tree.walk place parts = .ok reached) : ∃ more, reached = place ++ more := by
  induction parts generalizing place with
  | nil =>
    cases walked
    exact ⟨[], (List.append_nil _).symm⟩
  | cons part rest ih =>
    rw [List.mem_cons, not_or] at noDots
    obtain ⟨_, _, onward⟩ := walk_cons_eq_ok_iff.mp walked
    obtain ⟨more, rfl⟩ := ih noDots.2 onward
    exact ⟨Folder.canonical part :: more, by simp [next, Ne.symm noDots.1]⟩

/-- Where a way led to nothing, and no two dots were left to go, it leads later to a place where
nothing stood. -/
theorem IsSound.at?_eq_none_of_walk (sound : tree.IsSound current) {after : FileTree}
    (keeps : tree.Keeps after) {place reached parts : List String}
    (noDots : ".." ∉ tree.unwalked place parts)
    (free : ∀ known, tree.walk place parts = .ok known → tree.at? known = none)
    (walked : after.walk place parts = .ok reached) : tree.at? reached = none := by
  induction parts generalizing place with
  | nil =>
    cases walked
    exact free _ rfl
  | cons part rest ih =>
    obtain ⟨isDirectory, short, onward⟩ := walk_cons_eq_ok_iff.mp walked
    rw [unwalked] at noDots
    cases stands : tree.at? place with
    | none =>
      rw [stands] at noDots
      obtain ⟨more, rfl⟩ := exists_append_of_walk noDots walked
      exact sound.at?_append_of_none stands more
    | some node =>
      rw [keeps place node stands, Option.some.injEq] at isDirectory
      subst isDirectory
      rw [stands] at noDots
      dsimp only at noDots
      rw [if_neg short] at noDots
      exact ih noDots (fun known toKnown => free known
        (walk_cons_eq_ok_iff.mpr ⟨stands, short, toKnown⟩)) onward

/-! ## Paths -/

/-- Where a path starts. -/
def startOf (current : List String) (path : FilePath) : List String :=
  if path.isAbsolute then [] else current

theorem placeOf_eq_ok_iff {path : FilePath} {place : List String} :
    tree.placeOf current path = .ok place ↔
      nameObstacle? path.toText = none ∧ ¬longestPath < nameSize path.toText ∧
        tree.walk (startOf current path) path.parts = .ok place := by
  rw [placeOf, startOf]
  split
  · simp_all
  · split <;> simp_all

theorem placeOf_eq_ok_of_directories {before after : FileTree}
    (keeps : ∀ place, before.at? place = some .directory → after.at? place = some .directory)
    {path : FilePath} {place : List String} (found : before.placeOf current path = .ok place) :
    after.placeOf current path = .ok place := by
  obtain ⟨noObstacle, short, walked⟩ := placeOf_eq_ok_iff.mp found
  exact placeOf_eq_ok_iff.mpr ⟨noObstacle, short, walk_eq_ok_of_directories keeps walked⟩

/-- A file that is written stands in no way. -/
theorem placeOf_put_file {place reached : List String}
    (noDirectory : tree.at? place ≠ some .directory) (content : ByteArray) {path : FilePath}
    (found : tree.placeOf current path = .ok reached) :
    (tree.put place (.file content)).placeOf current path = .ok reached := by
  apply placeOf_eq_ok_of_directories _ found
  intro other isDirectory
  rw [at?_put noDirectory, if_neg, isDirectory]
  rintro rfl
  exact noDirectory isDirectory

/-- Two dots lead on from a place of the path where nothing stands. -/
def LeadsBack (tree : FileTree) (current : List String) (path : FilePath) : Prop :=
  ".." ∈ tree.unwalked (startOf current path) path.parts

instance (tree : FileTree) (current : List String) (path : FilePath) :
    Decidable (tree.LeadsBack current path) :=
  inferInstanceAs (Decidable (_ ∈ _))

theorem Keeps.not_leadsBack {before after : FileTree} (keeps : before.Keeps after)
    {path : FilePath} (onward : ¬before.LeadsBack current path) : ¬after.LeadsBack current path :=
  keeps.dots_not_mem_unwalked onward

theorem look_eq_some_iff {path : FilePath} {node : FileNode} :
    tree.look current path = .ok (some node) ↔
      ∃ place, tree.placeOf current path = .ok place ∧ tree.at? place = some node := by
  rw [look]
  split <;> simp_all

theorem Keeps.look_eq_some {before after : FileTree} (keeps : before.Keeps after)
    {path : FilePath} {node : FileNode} (found : before.look current path = .ok (some node)) :
    after.look current path = .ok (some node) := by
  obtain ⟨place, isPlace, stands⟩ := look_eq_some_iff.mp found
  have sameWay := placeOf_eq_ok_of_directories (fun place => keeps place .directory) isPlace
  exact look_eq_some_iff.mpr ⟨place, sameWay, keeps place node stands⟩

/-- A path that does not lead back leads, once there is something on it, to a place where nothing
stood as long as there was nothing. -/
theorem IsSound.at?_eq_none_of_placeOf (sound : tree.IsSound current) {after : FileTree}
    (keeps : tree.Keeps after) {path : FilePath} (onward : ¬tree.LeadsBack current path)
    (absent : ∀ node, tree.look current path ≠ .ok (some node)) {place : List String}
    (found : after.placeOf current path = .ok place) : tree.at? place = none := by
  obtain ⟨noObstacle, short, walked⟩ := placeOf_eq_ok_iff.mp found
  apply sound.at?_eq_none_of_walk keeps onward _ walked
  intro known toKnown
  apply Option.eq_none_iff_forall_ne_some.mpr
  intro node stands
  exact absent node
    (look_eq_some_iff.mpr ⟨known, placeOf_eq_ok_iff.mpr ⟨noObstacle, short, toKnown⟩, stands⟩)

theorem IsSound.above_of_placeOf (sound : tree.IsSound current) {path : FilePath}
    {place : List String} (found : tree.placeOf current path = .ok place) :
    tree.at? place.dropLast = some .directory := by
  have start : tree.at? (startOf current path) = some .directory := by
    unfold startOf
    split
    · rfl
    · exact sound.home
  apply sound.above_of_walk (sound.above _ _) (placeOf_eq_ok_iff.mp found).2.2
  rw [start]
  exact Option.some_ne_none _

/-! ## Making directories -/

/-- What making one directory at a time preserves is preserved by making several. -/
theorem makeDirectories_induction (path : FilePath) {motive : FileTree → Prop}
    (step : ∀ tree path, motive tree → motive (makeDirectory tree current path).tree)
    (start : motive tree) : motive (tree.makeDirectories current path).tree := by
  have along : ∀ parts, motive (tree.makeDirectoriesAlong current path.root parts).tree := by
    intro parts
    induction parts with
    | nil => exact step _ _ start
    | cons part rest ih =>
      unfold makeDirectoriesAlong
      dsimp only
      split
      · unfold Visit.andThen
        split
        · exact ih
        · exact step _ _ ih
      · exact step _ _ start
  exact along _

theorem makeDirectory_cases (tree : FileTree) (current : List String) (path : FilePath) :
    (makeDirectory tree current path).tree = tree ∨
      ∃ place, tree.placeOf current path = .ok place ∧ tree.at? place = none ∧
        (makeDirectory tree current path).tree = tree.put place .directory := by
  unfold makeDirectory
  split
  · exact .inl rfl
  · rename_i place found
    unfold makeAt
    split
    · exact .inl rfl
    · exact .inl rfl
    · rename_i free
      exact .inr ⟨place, found, free, rfl⟩

theorem addsDirectories_put {place : List String} (free : tree.at? place = none) :
    tree.AddsDirectories (tree.put place .directory) := by
  intro other
  rw [at?_put (by simp [free])]
  split
  · rename_i same
    exact .inr ⟨same ▸ free, rfl⟩
  · exact .inl rfl

theorem addsDirectories_makeDirectories (tree : FileTree) (current : List String)
    (path : FilePath) : tree.AddsDirectories (tree.makeDirectories current path).tree := by
  apply makeDirectories_induction path _ (.refl tree)
  intro reached path adds
  rcases makeDirectory_cases reached current path with same | ⟨place, _, free, made⟩
  · rwa [same]
  · rw [made]
    exact adds.trans (addsDirectories_put free)

theorem IsSound.makeDirectories (sound : tree.IsSound current) (path : FilePath) :
    (tree.makeDirectories current path).tree.IsSound current := by
  apply makeDirectories_induction path _ sound
  intro reached path isSound
  rcases makeDirectory_cases reached current path with same | ⟨place, found, free, made⟩
  · rwa [same]
  · rw [made]
    exact isSound.put (by simp [free]) (isSound.above_of_placeOf found) .directory

end Checkout.FileTree
