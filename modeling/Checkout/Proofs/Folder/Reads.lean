import Checkout.Proofs.Folder.Content
import Checkout.Proofs.Folder.Walk

/-!
# What reading does to files

A data file is read as it is if it is there.  Otherwise its default is read and may be written into
the folder, in directories that are made on the way, so reading changes files.  It changes at most
the file that its path leads to, and only if nothing was found there, and no file at all if it
fails.

Whether something is there is told before the directories are made.  A path that leads back over
a missing directory leads nowhere then, and to a file later, which is overwritten.  Any other path
leads to the same place at all times.  So as long as no path leads back, files that are there are
safe, and a path is read as the same text whenever it is read.
-/

namespace Checkout

namespace DataFolder

open FileTree (AddsDirectories IsSound Keeps bytesOf? readNode textOf?)
open FilePath (IsPlain)

/-! ## One call -/

variable {folder : DataFolder} {current : List String} {tree after : FileTree} {name : String}
  {outcome : Except Fault String}

/-- What a call comes to, and the files that it leaves. -/
inductive ReadEffect (folder : DataFolder) (current : List String) (tree : FileTree)
    (name : String) : Except Fault String → FileTree → Prop
  /-- Something is there and is read. -/
  | found {node : FileNode} :
      tree.look current (folder.pathOf name) = .ok (some node) →
        ReadEffect folder current tree name (readNode node) tree
  /-- The call fails, after some directories may have been made. -/
  | failed {fault : Fault} {after : FileTree} :
      tree.AddsDirectories after → (tree.IsSound current → after.IsSound current) →
        ReadEffect folder current tree name (.error fault) after
  /-- The default is read and not written. -/
  | replaced {text : String} :
      tree.look current (folder.pathOf name) = .ok none →
        Folder.defaultOf? name = .ok (some text) → folder.createMissing = false →
          ReadEffect folder current tree name (.ok text) tree
  /-- The default is read and written, where the path leads to after directories were made. -/
  | created {text : String} {made : FileTree} {place : List String} {content : ByteArray} :
      tree.look current (folder.pathOf name) = .ok none →
        Folder.defaultOf? name = .ok (some text) → folder.createMissing = true →
          tree.AddsDirectories made → (tree.IsSound current → made.IsSound current) →
            made.placeOf current (folder.pathOf name) = .ok place →
              made.at? place ≠ some .directory →
                bytesOf? text = some content → textOf? content = some text →
                  ReadEffect folder current tree name (.ok text) (made.put place (.file content))

theorem write_of_placeOf {path : FilePath} {place : List String} {text : String}
    {content : ByteArray} (found : tree.placeOf current path = .ok place)
    (noDirectory : tree.at? place ≠ some .directory) (isWritten : bytesOf? text = some content) :
    (tree.write current path text).logged.outcome = .ok () ∧
      (tree.write current path text).tree = tree.put place (.file content) := by
  unfold FileTree.write
  rw [found, isWritten]
  dsimp only
  split
  · rename_i isDirectory
    exact absurd isDirectory noDirectory
  · rename_i impossible _
    cases impossible
  · rename_i isContent _
    cases isContent
    exact ⟨rfl, rfl⟩

theorem write_cases (tree : FileTree) (current : List String) (path : FilePath) {text : String}
    {content : ByteArray} (isWritten : bytesOf? text = some content) :
    (∃ fault, (tree.write current path text).logged.outcome = .error fault ∧
        (tree.write current path text).tree = tree) ∨
      ∃ place, tree.placeOf current path = .ok place ∧ tree.at? place ≠ some .directory ∧
        (tree.write current path text).logged.outcome = .ok () ∧
          (tree.write current path text).tree = tree.put place (.file content) := by
  cases found : tree.placeOf current path with
  | error obstacle =>
    rw [FileTree.write, found]
    exact .inl ⟨_, rfl, rfl⟩
  | ok place =>
    by_cases isDirectory : tree.at? place = some .directory
    · refine .inl ⟨.isDirectory, ?_⟩
      simp [FileTree.write, found, isDirectory, Visit.ofOutcome, Logged.ofOutcome]
    · exact .inr ⟨place, rfl, isDirectory, write_of_placeOf found isDirectory isWritten⟩

theorem useDefault_of_create (create : folder.createMissing = true) (text : String) :
    (folder.useDefault current tree name text).logged.outcome =
        (createFile tree current (folder.pathOf name) text).logged.outcome.map (fun _ => text) ∧
      (folder.useDefault current tree name text).tree =
        (createFile tree current (folder.pathOf name) text).tree := by
  rw [useDefault, if_pos create]
  dsimp only [Visit.map, Visit.andThen, Logged.outcome_tell]
  rw [Logged.outcome_andThen]
  cases (createFile tree current (folder.pathOf name) text).logged.outcome <;> exact ⟨rfl, rfl⟩

theorem createFile_of_error {path : FilePath} {fault : Fault} (text : String)
    (failed : (tree.makeDirectories current path.parent).logged.outcome = .error fault) :
    (createFile tree current path text).logged.outcome = .error fault ∧
      (createFile tree current path text).tree =
        (tree.makeDirectories current path.parent).tree := by
  simp [createFile, Visit.andThen, failed]

theorem createFile_of_ok {path : FilePath} (text : String)
    (isMade : (tree.makeDirectories current path.parent).logged.outcome = .ok ()) :
    let written := (tree.makeDirectories current path.parent).tree.write current path text
    (createFile tree current path text).logged.outcome = written.logged.outcome ∧
      (createFile tree current path text).tree = written.tree := by
  simp [createFile, Visit.andThen, isMade]

/-- The default is read, and what making directories and writing come to is what the call comes
to. -/
theorem readEffect_useDefault {text : String}
    (absent : tree.look current (folder.pathOf name) = .ok none)
    (isDefault : Folder.defaultOf? name = .ok (some text)) :
    ReadEffect folder current tree name (folder.useDefault current tree name text).logged.outcome
      (folder.useDefault current tree name text).tree := by
  obtain ⟨content, isText⟩ := Folder.exists_content_of_defaultOf? isDefault
  obtain ⟨written, isWritten, isRead⟩ := FileTree.exists_bytesOf?_of_textOf? isText
  cases create : folder.createMissing with
  | false =>
    rw [useDefault, create]
    exact .replaced absent isDefault create
  | true =>
    have adds := FileTree.addsDirectories_makeDirectories tree current (folder.pathOf name).parent
    have sound : tree.IsSound current → _ :=
      fun sound => sound.makeDirectories (folder.pathOf name).parent
    obtain ⟨isOutcome, isTree⟩ := useDefault_of_create create text
    rw [isOutcome, isTree]
    cases made : (tree.makeDirectories current (folder.pathOf name).parent).logged.outcome with
    | error fault =>
      obtain ⟨isFault, same⟩ := createFile_of_error text made
      rw [isFault, same]
      exact .failed adds sound
    | ok _ =>
      obtain ⟨sameOutcome, sameTree⟩ := createFile_of_ok text made
      rw [sameOutcome, sameTree]
      rcases write_cases (tree.makeDirectories current (folder.pathOf name).parent).tree current
          (folder.pathOf name) isWritten with
        ⟨fault, failed, same⟩ | ⟨place, found, noDirectory, done, put⟩
      · rw [failed, same]
        exact .failed adds sound
      · rw [done, put]
        exact .created absent isDefault create adds sound found noDirectory isWritten isRead

theorem read_of_error {fault : Fault}
    (refused : tree.look current (folder.pathOf name) = .error fault) :
    folder.read current tree name = Visit.ofOutcome tree (.error fault) := by
  unfold read
  dsimp only
  rw [refused]

theorem read_of_absent (absent : tree.look current (folder.pathOf name) = .ok none) :
    folder.read current tree name = folder.readDefault current tree name := by
  unfold read
  dsimp only
  rw [absent]

theorem readEffect_ofOutcome (fault : Fault) :
    ReadEffect folder current tree name
      (Visit.ofOutcome tree (.error fault : Except Fault String)).logged.outcome
      (Visit.ofOutcome tree (.error fault : Except Fault String)).tree :=
  .failed (.refl tree) id

theorem readDefault_of_default {text : String}
    (isDefault : Folder.defaultOf? name = .ok (some text)) :
    folder.readDefault current tree name = folder.useDefault current tree name text := by
  unfold readDefault
  rw [isDefault]

theorem readEffect_readDefault (absent : tree.look current (folder.pathOf name) = .ok none)
    (known : Except Fault (Option String)) (isKnown : Folder.defaultOf? name = known) :
    ReadEffect folder current tree name (folder.readDefault current tree name).logged.outcome
      (folder.readDefault current tree name).tree := by
  rcases known with fault | _ | text
  · have refused : folder.readDefault current tree name = Visit.ofOutcome tree (.error fault) := by
      unfold readDefault
      rw [isKnown]
    rw [refused]
    exact readEffect_ofOutcome fault
  · have missing : folder.readDefault current tree name =
        Visit.ofOutcome tree (.error (folder.missing name)) := by
      unfold readDefault
      rw [isKnown]
    rw [missing]
    exact readEffect_ofOutcome (folder.missing name)
  · rw [readDefault_of_default isKnown]
    exact readEffect_useDefault absent isKnown

/-- Every call comes to one of these. -/
theorem readEffect_read (folder : DataFolder) (current : List String) (tree : FileTree)
    (name : String) :
    ReadEffect folder current tree name (folder.read current tree name).logged.outcome
      (folder.read current tree name).tree := by
  cases found : tree.look current (folder.pathOf name) with
  | error fault =>
    rw [read_of_error found]
    exact readEffect_ofOutcome fault
  | ok node =>
    cases node with
    | some node =>
      have same : (folder.read current tree name).tree = tree := by
        unfold read
        dsimp only
        rw [found]
      rw [outcome_read found, same]
      exact .found found
    | none =>
      rw [read_of_absent found]
      exact readEffect_readDefault found _ rfl

theorem textOf?_of_readNode {content : ByteArray} {text : String}
    (isRead : readNode (.file content) = .ok text) : textOf? content = some text := by
  unfold readNode at isRead
  dsimp only at isRead
  split at isRead
  · rename_i known isKnown
    cases isRead
    exact isKnown
  · cases isRead

/-! ## Files before and after a call -/

/-- What a call does to files, wherever its path leads. -/
structure Touches (folder : DataFolder) (current : List String) (tree : FileTree) (name : String)
    (outcome : Except Fault String) (after : FileTree) : Prop where
  /-- A call that fails leaves all files as they are, and makes none. -/
  failed : ∀ fault, outcome = .error fault → ∀ place content,
    after.at? place = some (.file content) ↔ tree.at? place = some (.file content)
  /-- A file that is new or not the same is the one that the path leads to.  Nothing was found
  there, the name has a default, and the file holds the text that the call returns. -/
  written : ∀ place content, after.at? place = some (.file content) →
    tree.at? place ≠ some (.file content) →
      tree.look current (folder.pathOf name) = .ok none ∧ folder.createMissing = true ∧
        after.placeOf current (folder.pathOf name) = .ok place ∧
          ∃ text, Folder.defaultOf? name = .ok (some text) ∧ outcome = .ok text ∧
            bytesOf? text = some content ∧ textOf? content = some text
  /-- If nothing is found and the reader may create files, then a text that is returned is in the
  file that the path now leads to. -/
  supplied : tree.look current (folder.pathOf name) = .ok none → folder.createMissing = true →
    ∀ text, outcome = .ok text → ∃ content,
      after.look current (folder.pathOf name) = .ok (some (.file content)) ∧
        textOf? content = some text

theorem ReadEffect.touches (effect : ReadEffect folder current tree name outcome after) :
    Touches folder current tree name outcome after where
  failed := by
    intro fault isFault place content
    cases effect with
    | found _ => rfl
    | failed adds _ => exact adds.file_iff place content
    | replaced _ _ _ => rfl
    | created => cases isFault
  written := by
    intro place content stands isNew
    cases effect with
    | found _ => exact absurd stands isNew
    | failed adds _ => exact absurd ((adds.file_iff place content).mp stands) isNew
    | replaced _ _ _ => exact absurd stands isNew
    | @created text made known written absent isDefault create adds _ found noDirectory isWritten
        isRead =>
      rw [FileTree.at?_put noDirectory] at stands
      split at stands
      · rename_i same
        cases same
        cases stands
        exact ⟨absent, create, FileTree.placeOf_put_file noDirectory content found, text,
          isDefault, rfl, isWritten, isRead⟩
      · exact absurd ((adds.file_iff place content).mp stands) isNew
  supplied := by
    intro absent create text isText
    cases effect with
    | found found =>
      rw [absent] at found
      cases found
    | failed _ _ => cases isText
    | replaced _ _ keep =>
      rw [create] at keep
      cases keep
    | @created known made place content _ _ _ _ _ found noDirectory _ isRead =>
      cases isText
      have stands : (made.put place (.file content)).at? place = some (.file content) := by
        rw [FileTree.at?_put noDirectory, if_pos rfl]
      have way := FileTree.placeOf_put_file noDirectory content found
      exact ⟨content, FileTree.look_eq_some_iff.mpr ⟨place, way, stands⟩, isRead⟩

/-! ## Paths that do not lead back -/

/-- What is created on a path that does not lead back is created where nothing stood. -/
theorem at?_eq_none_of_created {made : FileTree} {path : FilePath} {place : List String}
    (sound : tree.IsSound current) (onward : ¬tree.LeadsBack current path)
    (absent : tree.look current path = .ok none) (adds : tree.AddsDirectories made)
    (found : made.placeOf current path = .ok place)
    (noDirectory : made.at? place ≠ some .directory) :
    made.at? place = none := by
  have free : tree.at? place = none := by
    apply sound.at?_eq_none_of_placeOf adds.keeps onward _ found
    rw [absent]
    nofun
  rcases adds place with same | ⟨_, isDirectory⟩
  · exact same.trans free
  · exact absurd isDirectory noDirectory

theorem ReadEffect.isSound (effect : ReadEffect folder current tree name outcome after)
    (sound : tree.IsSound current) : after.IsSound current := by
  cases effect with
  | found _ => exact sound
  | failed _ kept => exact kept sound
  | replaced _ _ _ => exact sound
  | created _ _ _ _ kept found noDirectory =>
    exact (kept sound).put noDirectory ((kept sound).above_of_placeOf found) _

theorem ReadEffect.keeps (effect : ReadEffect folder current tree name outcome after)
    (sound : tree.IsSound current) (onward : ¬tree.LeadsBack current (folder.pathOf name)) :
    tree.Keeps after := by
  cases effect with
  | found _ => exact .refl tree
  | failed adds _ => exact adds.keeps
  | replaced _ _ _ => exact .refl tree
  | created absent _ _ adds _ found noDirectory =>
    have free := at?_eq_none_of_created sound onward absent adds found noDirectory
    exact adds.keeps.trans (FileTree.keeps_put free _)

/-- Files are only added, where nothing stood before. -/
structure Spares (tree after : FileTree) : Prop where
  kept : ∀ place content, tree.at? place = some (.file content) →
    after.at? place = some (.file content)
  fresh : ∀ place content, after.at? place = some (.file content) →
    tree.at? place ≠ some (.file content) → tree.at? place = none

theorem ReadEffect.spares (effect : ReadEffect folder current tree name outcome after)
    (sound : tree.IsSound current) (onward : ¬tree.LeadsBack current (folder.pathOf name)) :
    Spares tree after where
  kept place content := effect.keeps sound onward place (.file content)
  fresh place content stands isNew := by
    obtain ⟨absent, _, found, _⟩ := effect.touches.written place content stands isNew
    apply sound.at?_eq_none_of_placeOf (effect.keeps sound onward) onward _ found
    rw [absent]
    nofun

/-! ## One call after another -/

theorem pathOf_of_isPlain (folder : DataFolder) (plain : IsPlain name) :
    folder.pathOf name =
      { folder.directory with parts := folder.directory.parts ++ [name] } := by
  rw [pathOf, FilePath.ofText_of_isPlain plain]
  rfl

/-- The path of a plain name ends in that name. -/
theorem exists_append_of_placeOf (plain : IsPlain name) {place : List String}
    (found : tree.placeOf current (folder.pathOf name) = .ok place) :
    ∃ init, place = init ++ [Folder.canonical name] := by
  rw [pathOf_of_isPlain folder plain] at found
  obtain ⟨_, _, walked⟩ := FileTree.placeOf_eq_ok_iff.mp found
  obtain ⟨middle, _, last⟩ := FileTree.walk_append_eq_ok_iff.mp walked
  obtain ⟨_, _, reached⟩ := FileTree.walk_cons_eq_ok_iff.mp last
  cases reached
  exact ⟨middle, if_neg plain.notAbove⟩

/-- What calls have made of a tree: all that was there is there, and every other file holds the
default of its name. -/
structure Supplied (current : List String) (start tree : FileTree) : Prop where
  keeps : start.Keeps tree
  isSound : tree.IsSound current
  file_cases : ∀ place content, tree.at? place = some (.file content) →
    start.at? place = some (.file content) ∨
      ∃ init last text, place = init ++ [last] ∧ Folder.defaultAt? last = some text ∧
        textOf? content = some text

variable {start : FileTree}

theorem supplied_refl (sound : start.IsSound current) : Supplied current start start where
  keeps := .refl start
  isSound := sound
  file_cases _ _ stands := .inl stands

/-- One more call. -/
theorem Supplied.step (supplied : Supplied current start tree) (plain : IsPlain name)
    (onward : ¬start.LeadsBack current (folder.pathOf name))
    (effect : ReadEffect folder current tree name outcome after) :
    Supplied current start after where
  keeps := supplied.keeps.trans
    (effect.keeps supplied.isSound (supplied.keeps.not_leadsBack onward))
  isSound := effect.isSound supplied.isSound
  file_cases := by
    intro place content stands
    by_cases isOld : tree.at? place = some (.file content)
    · exact supplied.file_cases place content isOld
    · obtain ⟨_, _, found, text, isDefault, _, _, isRead⟩ :=
        effect.touches.written place content stands isOld
      obtain ⟨init, isPlace⟩ := exists_append_of_placeOf plain found
      exact .inr ⟨init, _, text, isPlace, Folder.defaultAt?_of_defaultOf? plain isDefault, isRead⟩

/-- The text that stands on a path at first: that of the file that is there, or else the default of
the name. -/
def textAtFirst (start : FileTree) (current : List String) (path : FilePath) : Option String :=
  match start.look current path with
  | .ok (some node) => (readNode node).toOption
  | _ => Folder.defaultAt? (Folder.canonical path.name)

theorem textAtFirst_of_found {path : FilePath} {node : FileNode}
    (found : start.look current path = .ok (some node)) :
    textAtFirst start current path = (readNode node).toOption := by
  rw [textAtFirst, found]

theorem textAtFirst_of_absent (plain : IsPlain name)
    (absent : ∀ node, start.look current (folder.pathOf name) ≠ .ok (some node)) :
    textAtFirst start current (folder.pathOf name) =
      Folder.defaultAt? (Folder.canonical name) := by
  have isLast : (folder.pathOf name).name = name := by
    rw [pathOf_of_isPlain folder plain, FilePath.name, List.getLastD_concat]
  unfold textAtFirst
  split
  · rename_i node found
    exact absurd found (absent node)
  · rw [isLast]

/-- A file that is found where nothing was at first holds the default of its name. -/
theorem Supplied.defaultAt?_eq (supplied : Supplied current start tree)
    (startSound : start.IsSound current) (plain : IsPlain name)
    (onward : ¬start.LeadsBack current (folder.pathOf name))
    (absent : ∀ node, start.look current (folder.pathOf name) ≠ .ok (some node))
    {content : ByteArray}
    (found : tree.look current (folder.pathOf name) = .ok (some (.file content))) :
    Folder.defaultAt? (Folder.canonical name) = textOf? content := by
  obtain ⟨place, isPlace, stands⟩ := FileTree.look_eq_some_iff.mp found
  have free := startSound.at?_eq_none_of_placeOf supplied.keeps onward absent isPlace
  rcases supplied.file_cases place content stands with
    isOld | ⟨init, last, text, isConcat, isDefault, isRead⟩
  · rw [free] at isOld
    cases isOld
  · obtain ⟨_, isNamed⟩ := exists_append_of_placeOf plain isPlace
    have sameLast := (List.append_inj' (isConcat.symm.trans isNamed) rfl).2
    cases sameLast
    rw [isDefault, isRead]

/-- Whenever a call returns a text, it is the one that stood on the path at first. -/
theorem Supplied.textAtFirst_eq (supplied : Supplied current start tree)
    (startSound : start.IsSound current) (plain : IsPlain name)
    (onward : ¬start.LeadsBack current (folder.pathOf name))
    (effect : ReadEffect folder current tree name outcome after) {text : String}
    (isText : outcome = .ok text) :
    textAtFirst start current (folder.pathOf name) = some text := by
  -- Where nothing is found now, nothing was found at first.
  have absentAtFirst : tree.look current (folder.pathOf name) = .ok none →
      ∀ node, start.look current (folder.pathOf name) ≠ .ok (some node) := by
    intro absent node found
    rw [supplied.keeps.look_eq_some found] at absent
    cases absent
  cases effect with
  | @found node found =>
    by_cases known : ∃ other, start.look current (folder.pathOf name) = .ok (some other)
    · obtain ⟨other, isOther⟩ := known
      have same := found.symm.trans (supplied.keeps.look_eq_some isOther)
      cases same
      rw [textAtFirst_of_found isOther, isText]
      rfl
    · have absent := not_exists.mp known
      rw [textAtFirst_of_absent plain absent]
      cases node with
      | directory => cases isText
      | file content =>
        rw [supplied.defaultAt?_eq startSound plain onward absent found]
        exact textOf?_of_readNode isText
  | failed _ _ => cases isText
  | replaced absent isDefault _ =>
    cases isText
    rw [textAtFirst_of_absent plain (absentAtFirst absent)]
    exact Folder.defaultAt?_of_defaultOf? plain isDefault
  | created absent isDefault =>
    cases isText
    rw [textAtFirst_of_absent plain (absentAtFirst absent)]
    exact Folder.defaultAt?_of_defaultOf? plain isDefault

/-- The files that calls leave one after another, each by a folder and a name. -/
def readAll (current : List String) (tree : FileTree) (calls : List (DataFolder × String)) :
    FileTree :=
  calls.foldl (fun tree call => (call.1.read current tree call.2).tree) tree

theorem readAll_cons (call : DataFolder × String) (calls : List (DataFolder × String)) :
    readAll current tree (call :: calls) =
      readAll current (call.1.read current tree call.2).tree calls := by
  rw [readAll, List.foldl_cons, readAll]

theorem isSound_readAll (sound : tree.IsSound current) (calls : List (DataFolder × String)) :
    (readAll current tree calls).IsSound current := by
  induction calls generalizing tree with
  | nil => exact sound
  | cons call rest ih =>
    rw [readAll_cons]
    exact ih ((readEffect_read call.1 current tree call.2).isSound sound)

theorem Supplied.readAll {calls : List (DataFolder × String)}
    (supplied : Supplied current start tree) (plain : ∀ call ∈ calls, IsPlain call.2)
    (onward : ∀ call ∈ calls, ¬start.LeadsBack current (call.1.pathOf call.2)) :
    Supplied current start (readAll current tree calls) := by
  induction calls generalizing tree with
  | nil => exact supplied
  | cons call rest ih =>
    rw [List.forall_mem_cons] at plain onward
    have next := supplied.step plain.1 onward.1 (readEffect_read call.1 current tree call.2)
    rw [readAll_cons]
    exact ih next plain.2 onward.2

/-- Reading data files is careful.  Any readers are called one after another, each for a plain name,
on a tree of files in which everything stands in a directory.

Whatever path it has, a call that fails leaves every file as it is.  Any other call changes at most
the file that its path leads to, and only if it found nothing there, the name has a default and the
reader may create files; then the file holds the text that is returned.  A path that does not lead
back over a missing directory spares all files that are there.

If no path leads back in the tree that there is at first, none does later on, and all calls for a
path that return a text return the same. -/
theorem readAll_careful {current : List String} {start : FileTree} (sound : start.IsSound current)
    {calls : List (DataFolder × String)} (plain : ∀ call ∈ calls, IsPlain call.2) :
    (∀ before folder name later, calls = before ++ (folder, name) :: later →
      let tree := readAll current start before
      let visit := DataFolder.read folder current tree name
      Touches folder current tree name visit.logged.outcome visit.tree ∧
        (¬tree.LeadsBack current (folder.pathOf name) → Spares tree visit.tree)) ∧
    ((∀ call ∈ calls, ¬start.LeadsBack current (call.1.pathOf call.2)) →
      (∀ before folder name later, calls = before ++ (folder, name) :: later →
        ¬(readAll current start before).LeadsBack current (folder.pathOf name)) ∧
      ∀ before folder name between other again later,
        calls = before ++ (folder, name) :: between ++ (other, again) :: later →
          folder.pathOf name = other.pathOf again → ∀ text otherText,
            (folder.read current (readAll current start before) name).logged.outcome = .ok text →
            (other.read current (readAll current start (before ++ (folder, name) :: between))
              again).logged.outcome = .ok otherText → text = otherText) := by
  refine ⟨?each, fun onward => ?_⟩
  case each =>
    intro before folder name later _
    have effect := readEffect_read folder current (readAll current start before) name
    exact ⟨effect.touches, effect.spares (isSound_readAll sound before)⟩
  have supplied : ∀ before later, calls = before ++ later →
      Supplied current start (readAll current start before) := by
    rintro before later rfl
    exact (supplied_refl sound).readAll
      (fun call isCall => plain call (List.mem_append_left _ isCall))
      (fun call isCall => onward call (List.mem_append_left _ isCall))
  refine ⟨?later, ?same⟩
  case later =>
    intro before folder name later divided
    have isCall : (folder, name) ∈ calls := by simp [divided]
    exact (supplied before _ divided).keeps.not_leadsBack (onward (folder, name) isCall)
  case same =>
    intro before folder name between other again later divided samePath text otherText isText
      isOther
    have isCall : (folder, name) ∈ calls := by simp [divided]
    have isOtherCall : (other, again) ∈ calls := by simp [divided]
    have atFirst := (supplied before _ (by rw [divided, List.append_assoc])).textAtFirst_eq sound
      (plain _ isCall) (onward _ isCall) (readEffect_read folder current _ name) isText
    have otherAtFirst := (supplied (before ++ (folder, name) :: between) _ divided).textAtFirst_eq
      sound (plain _ isOtherCall) (onward _ isOtherCall) (readEffect_read other current _ again)
      isOther
    rw [samePath, otherAtFirst] at atFirst
    exact (Option.some.inj atFirst).symm

/-- A catalog of tea in a directory of its own. -/
def teaText : String :=
  "Tea 2.50\n"

def teaTree : FileTree :=
  ⟨[(["shop"], .directory), (["shop", "catalog.list"], .file teaText.toUTF8)]⟩

theorem isSound_teaTree : teaTree.IsSound [] :=
  FileTree.isSound_of_nodes (by decide) rfl

/-- A reader of that directory. -/
def teaShop (createMissing : Bool) : DataFolder :=
  ⟨⟨"", ["shop"]⟩, createMissing⟩

/-- The offers are read by a reader that creates no files and then by one that does. -/
def offerCalls : List (DataFolder × String) :=
  [(teaShop false, Folder.offersName), (teaShop true, Folder.offersName)]

/-- The default of a missing file is read and nothing is changed. -/
theorem read_teaShop_false : ∃ text,
    ((teaShop false).read [] teaTree Folder.offersName).logged.outcome = .ok text ∧
      ((teaShop false).read [] teaTree Folder.offersName).tree = teaTree := by
  obtain ⟨text, isDefault, _⟩ := Folder.exists_default_offers
  have found : teaTree.placeOf [] ((teaShop false).pathOf Folder.offersName) =
      .ok ["shop", "offers.list"] := by decide +kernel
  have absent : teaTree.look [] ((teaShop false).pathOf Folder.offersName) = .ok none := by
    rw [FileTree.look, found]
    rfl
  rw [read_of_absent absent, readDefault_of_default isDefault]
  exact ⟨text, rfl, rfl⟩

/-- Both calls return the same text, and the second, which creates the file, keeps the catalog. -/
theorem readAll_careful_tea :
    (teaTree.IsSound [] ∧ (∀ call ∈ offerCalls, IsPlain call.2) ∧
      ∀ call ∈ offerCalls, ¬teaTree.LeadsBack [] (call.1.pathOf call.2)) ∧
    (∃ text, ((teaShop false).read [] teaTree Folder.offersName).logged.outcome = .ok text ∧
      ∀ otherText,
        ((teaShop true).read [] (readAll [] teaTree [(teaShop false, Folder.offersName)])
          Folder.offersName).logged.outcome = .ok otherText → text = otherText) ∧
    ((teaShop true).read [] teaTree Folder.offersName).tree.at? ["shop", "catalog.list"] =
      some (.file teaText.toUTF8) := by
  have plain : ∀ call ∈ offerCalls, IsPlain call.2 := by decide
  have onward : ∀ call ∈ offerCalls, ¬teaTree.LeadsBack [] (call.1.pathOf call.2) := by
    decide +kernel
  obtain ⟨text, isText, unchanged⟩ := read_teaShop_false
  obtain ⟨each, steady⟩ := readAll_careful isSound_teaTree plain
  obtain ⟨later, same⟩ := steady onward
  refine ⟨⟨isSound_teaTree, plain, onward⟩, ⟨text, isText, ?_⟩, ?_⟩
  · exact fun otherText => same [] (teaShop false) Folder.offersName [] (teaShop true)
      Folder.offersName [] rfl rfl text otherText isText
  · let before := [(teaShop false, Folder.offersName)]
    have spares := (each before (teaShop true) Folder.offersName [] rfl).2
      (later before (teaShop true) Folder.offersName [] rfl)
    have kept := spares.kept ["shop", "catalog.list"] teaText.toUTF8
    rw [readAll_cons, readAll, List.foldl_nil, unchanged] at kept
    exact kept rfl

/-! ## A path that leads back -/

/-- Where nothing is found, the default is written to the place that the path leads to after
directories were made, whatever file stands there. -/
theorem tree_read_of_default {text : String} {content : ByteArray} {place : List String}
    (absent : tree.look current (folder.pathOf name) = .ok none)
    (isDefault : Folder.defaultOf? name = .ok (some text)) (create : folder.createMissing = true)
    (isMade : (tree.makeDirectories current (folder.pathOf name).parent).logged.outcome = .ok ())
    (found : (tree.makeDirectories current (folder.pathOf name).parent).tree.placeOf current
      (folder.pathOf name) = .ok place)
    (noDirectory : (tree.makeDirectories current (folder.pathOf name).parent).tree.at? place ≠
      some .directory) (isWritten : bytesOf? text = some content) :
    (folder.read current tree name).tree =
      (tree.makeDirectories current (folder.pathOf name).parent).tree.put place
        (.file content) := by
  rw [read_of_absent absent, readDefault_of_default isDefault,
    (useDefault_of_create create text).2, (createFile_of_ok text isMade).2,
    (write_of_placeOf found noDirectory isWritten).2]

/-- The directory of the catalog, by way of one that is not there. -/
def detour : DataFolder where
  directory := ⟨"", ["old", "..", "shop"]⟩

/-- A catalog file that is there is changed by a call on a path that leads to it over a directory
that is missing. -/
theorem read_changes_file_detour :
    teaTree.IsSound [] ∧ IsPlain Folder.catalogName ∧
      teaTree.at? ["shop", "catalog.list"] = some (.file teaText.toUTF8) ∧
        (detour.read [] teaTree Folder.catalogName).tree.at? ["shop", "catalog.list"] ≠
          some (.file teaText.toUTF8) := by
  refine ⟨isSound_teaTree, by decide, rfl, ?_⟩
  obtain ⟨text, isDefault, isComment⟩ := Folder.exists_default_catalog
  obtain ⟨content, isText⟩ := Folder.exists_content_of_defaultOf? isDefault
  obtain ⟨written, isWritten, isRead⟩ := FileTree.exists_bytesOf?_of_textOf? isText
  -- The directory `old` is made, and then the path leads to the catalog of tea.
  have missing : teaTree.placeOf [] (detour.pathOf Folder.catalogName) = .error .missing := by
    decide +kernel
  have absent : teaTree.look [] (detour.pathOf Folder.catalogName) = .ok none := by
    rw [FileTree.look, missing]
  let path := detour.pathOf Folder.catalogName
  have isMade : (teaTree.makeDirectories [] path.parent).logged.outcome = .ok () :=
    toOption_eq_some_iff.mp (by decide +kernel)
  have found : (teaTree.makeDirectories [] path.parent).tree.placeOf [] path =
      .ok ["shop", "catalog.list"] := by decide +kernel
  have stands : (teaTree.makeDirectories [] path.parent).tree.at? ["shop", "catalog.list"] ≠
      some .directory := by decide +kernel
  rw [tree_read_of_default absent isDefault rfl isMade found stands isWritten,
    FileTree.at?_put stands, if_pos rfl]
  intro same
  have isTea : textOf? teaText.toUTF8 = some teaText := by decide +kernel
  rw [FileNode.file.inj (Option.some.inj same), isTea] at isRead
  cases isRead
  exact absurd isComment (by decide)

end DataFolder

end Checkout
