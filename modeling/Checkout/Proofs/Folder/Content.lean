import Checkout.Folder.Defaults
import Checkout.Proofs.Folder.Supply
import Checkout.Proofs.Folder.Walk

/-!
# Texts that are kept in files

A text that was read from a file can be written into another, and is read from it again.  Reading
leaves no carriage return that could be taken for a line end the next time, and a text that was made
up of characters holds no half.

The default of a data file is such a text.  It is found by the bytes of the name alone.
-/

namespace Checkout

namespace Text

theorem isHalf_toNat (c : Char) : isHalf c.toNat = false := by
  have valid : c.toNat < 0xD800 ∨ 0xDFFF < c.toNat ∧ c.toNat < 0x110000 := c.valid
  simp only [isHalf, isHigh, isLow, Bool.or_eq_false_iff, Bool.and_eq_false_iff,
    decide_eq_false_iff_not]
  omega

theorem points_ofCharacters (characters : List Char) :
    points (ofCharacters characters) = characters.map Char.toNat := by
  have spelled : ofCharacters characters = ofPoints (characters.map Char.toNat) := by
    simp [ofCharacters, ofPoints, List.flatMap_map]
  rw [spelled, points_ofPoints]
  intro point isPoint
  obtain ⟨c, _, rfl⟩ := List.mem_map.mp isPoint
  have valid : c.toNat < 0xD800 ∨ 0xDFFF < c.toNat ∧ c.toNat < 0x110000 := c.valid
  omega

/-- A text is written with the characters that it was spelled with. -/
theorem characters?_ofCharacters (characters : List Char) :
    characters? (ofCharacters characters) = some characters := by
  rw [characters?, points_ofCharacters]
  induction characters with
  | nil => rfl
  | cons c rest ih =>
    rw [List.map_cons, List.mapM_cons, isHalf_toNat, ih]
    simp [Char.ofNat_toNat]

/-- Characters in front of the halves are in no spelling but their own. -/
theorem eq_of_mem_spell {c d : Char} (early : c.toNat < 0xD800) (isIn : c ∈ spell d.toNat) :
    c = d := by
  unfold spell at isIn
  split at isIn
  · rename_i paired
    have bounds : 0xD800 ≤ d.toNat ∧ d.toNat ≤ 0xE000 := isPaired_iff.mp paired
    have shifted : (Char.ofNat (d.toNat + distance)).toNat = d.toNat + distance :=
      toNat_ofNat_of_valid (by simp only [Nat.isValidChar, distance]; omega)
    have marked : mark.toNat = 0xE000 := by decide
    rcases List.mem_cons.mp isIn with rfl | isLast
    · omega
    · rw [List.mem_singleton.mp isLast, shifted, distance] at early
      omega
  · rwa [List.mem_singleton, Char.ofNat_toNat] at isIn

theorem head?_ofCharacters_ne {characters : List Char} (other : characters.head? ≠ some '\n') :
    (ofCharacters characters).head? ≠ some '\n' := by
  cases characters with
  | nil => exact other
  | cons c rest =>
    have notEmpty : spell c.toNat ≠ [] := by
      unfold spell
      split <;> simp
    have shape : ofCharacters (c :: rest) = spell c.toNat ++ ofCharacters rest := rfl
    rw [shape, List.head?_append_of_ne_nil _ notEmpty]
    intro isHead
    have same := eq_of_mem_spell (by decide) (List.mem_of_head? isHead)
    exact other (by rw [List.head?_cons, same])

theorem splitAt_of_notMem {separator : Char} {text : List Char} (whole : separator ∉ text) :
    splitAt separator text = [text] := by
  induction text with
  | nil => rfl
  | cons c rest ih =>
    rw [List.mem_cons, not_or] at whole
    rw [splitAt, if_neg (Ne.symm whole.1), ih whole.2]

end Text

namespace FileTree

open Text (ofCharacters spell)

/-! ## Reading again -/

/-- Line ends may be unified before or after the characters are spelled. -/
theorem unifyLineEnds_ofCharacters (characters : List Char) :
    unifyLineEnds (ofCharacters characters) = ofCharacters (unifyLineEnds characters) := by
  induction characters using unifyLineEnds.induct with
  | case1 => rfl
  | case2 rest ih =>
    have shape : ofCharacters ('\r' :: '\n' :: rest) = '\r' :: '\n' :: ofCharacters rest := rfl
    rw [shape, unifyLineEnds, ih, unifyLineEnds]
    rfl
  | case3 c rest notPair ih =>
    have shape : ofCharacters (c :: rest) = spell c.toNat ++ ofCharacters rest := rfl
    by_cases isReturn : c = '\r'
    · subst isReturn
      have alone : rest.head? ≠ some '\n' := by
        intro isHead
        obtain ⟨others, rfl⟩ := List.head?_eq_some_iff.mp isHead
        exact notPair others rfl rfl
      have own : spell '\r'.toNat = ['\r'] := rfl
      rw [shape, own, List.singleton_append,
        DataFile.unifyLineEnds_return (Text.head?_ofCharacters_ne alone), ih,
        DataFile.unifyLineEnds_return alone]
      rfl
    · have noReturn : '\r' ∉ spell c.toNat := fun isIn =>
        isReturn (Text.eq_of_mem_spell (by decide) isIn).symm
      rw [shape, DataFile.unifyLineEnds_append_of_noReturn noReturn, ih, unifyLineEnds,
        if_neg isReturn]
      · rfl
      · exact notPair

/-- A text that was read can be written, and is read again. -/
theorem exists_bytesOf?_of_textOf? {content : ByteArray} {text : String}
    (isText : textOf? content = some text) :
    ∃ written, bytesOf? text = some written ∧ textOf? written = some text := by
  obtain ⟨spelled, isContent, rfl⟩ := Option.map_eq_some_iff.mp isText
  obtain ⟨characters, _, rfl⟩ := Option.map_eq_some_iff.mp isContent
  have unified : unifyLineEnds (Text.spelled characters).toList =
      ofCharacters (unifyLineEnds characters.toList) := by
    rw [Text.spelled, String.toList_ofList, unifyLineEnds_ofCharacters]
  refine ⟨(String.ofList (unifyLineEnds characters.toList)).toUTF8, ?_, ?_⟩
  · rw [bytesOf?, unified, String.toList_ofList, Text.characters?_ofCharacters, Option.map_some]
  · rw [textOf?, contentOf?_toUTF8, Option.map_some, Text.spelled, String.toList_ofList,
      String.toList_ofList, unifyLineEnds_ofCharacters,
      DataFile.unifyLineEnds_of_noReturn (DataFile.noReturn_unifyLineEnds _), unified]

end FileTree

/-! ## Plain names -/

namespace FilePath

/-- A name of a file itself, and not of one in or above some other directory. -/
structure IsPlain (name : String) : Prop where
  noSlash : '/' ∉ name.toList
  named : name ≠ ""
  notHere : name ≠ "."
  notAbove : name ≠ ".."

instance (name : String) : Decidable (IsPlain name) :=
  decidable_of_iff ('/' ∉ name.toList ∧ name ≠ "" ∧ name ≠ "." ∧ name ≠ "..")
    ⟨fun ⟨noSlash, named, notHere, notAbove⟩ => ⟨noSlash, named, notHere, notAbove⟩,
      fun plain => ⟨plain.noSlash, plain.named, plain.notHere, plain.notAbove⟩⟩

theorem rootOf_of_noSlash {text : List Char} (noSlash : '/' ∉ text) : rootOf text = "" := by
  cases text with
  | nil => rfl
  | cons c rest =>
    rw [List.mem_cons, not_or] at noSlash
    unfold rootOf
    split <;> simp_all

theorem ofText_of_isPlain {name : String} (plain : IsPlain name) : ofText name = ⟨"", [name]⟩ := by
  rw [ofText, rootOf_of_noSlash plain.noSlash, Text.pieces, Text.splitAt_of_notMem plain.noSlash]
  simp [plain.named, plain.notHere]

end FilePath

/-! ## Defaults -/

namespace FileTree

theorem file_of_put {tree : FileTree} {place other : List String} {node : FileNode}
    {content : ByteArray} (stands : (tree.put place node).at? other = some (.file content)) :
    node = .file content ∨ tree.at? other = some (.file content) := by
  cases other with
  | nil => cases stands
  | cons name rest =>
    have found : (if place = name :: rest then some node else tree.at? (name :: rest)) =
        some (.file content) := (Entries.get?_put _ _ _ _).symm.trans stands
    split at found
    · exact .inl (Option.some.inj found)
    · exact .inr found

/-- Planting brings one file at most. -/
theorem file_of_plant {tree : FileTree} {names place : List String} {node : FileNode}
    {content : ByteArray} (stands : (tree.plant names node).at? place = some (.file content)) :
    node = .file content ∨ tree.at? place = some (.file content) := by
  have directories : ∀ (places : List (List String)) (tree : FileTree),
      (places.foldl (fun tree directory =>
        if (tree.at? directory).isSome then tree else tree.put directory .directory)
          tree).at? place = some (.file content) → tree.at? place = some (.file content) := by
    intro places
    induction places with
    | nil => exact fun _ isThere => isThere
    | cons directory rest ih =>
      intro tree isThere
      have before := ih _ isThere
      dsimp only at before
      split at before
      · exact before
      · rcases file_of_put before with isFile | stood
        · cases isFile
        · exact stood
  exact (file_of_put stands).imp_right (directories _ tree)

end FileTree

namespace Folder

open FileTree (textOf? unifyLineEnds)

theorem file_of_defaultTree {place : List String} {content : ByteArray}
    (stands : defaultTree.at? place = some (.file content)) :
    content = defaultCatalog.toUTF8 ∨ content = defaultOffers.toUTF8 := by
  rcases FileTree.file_of_plant stands with isOffers | others
  · exact .inr (FileNode.file.inj isOffers).symm
  · rcases FileTree.file_of_plant others with isCatalog | isNone
    · exact .inl (FileNode.file.inj isCatalog).symm
    · cases place <;> cases isNone

theorem head?_append {first : String} {c : Char} (isHead : first.toList.head? = some c)
    (second : String) : (first ++ second).toList.head? = some c := by
  rw [String.toList_append, List.head?_append, isHead, Option.some_or]

theorem head?_defaultCatalog : defaultCatalog.toList.head? = some '#' := by
  unfold defaultCatalog
  repeat apply head?_append
  rfl

theorem head?_defaultOffers : defaultOffers.toList.head? = some '#' := by
  unfold defaultOffers
  repeat apply head?_append
  rfl

/-- A text that begins with a comment is read as one that does. -/
theorem exists_comment {characters : String} (isComment : characters.toList.head? = some '#') :
    ∃ text, textOf? characters.toUTF8 = some text ∧ text.toList.head? = some '#' := by
  obtain ⟨rest, shape⟩ := List.head?_eq_some_iff.mp isComment
  refine ⟨_, by rw [textOf?, FileTree.contentOf?_toUTF8, Option.map_some], ?_⟩
  have own : Text.spell '#'.toNat = ['#'] := rfl
  have spelled : (Text.spelled characters).toList = '#' :: Text.ofCharacters rest := by
    rw [Text.spelled, String.toList_ofList, shape, Text.ofCharacters, List.flatMap_cons, own]
    rfl
  rw [String.toList_ofList, spelled, DataFile.unifyLineEnds_of_inside (by decide)]
  rfl

/-- Every default begins with a comment. -/
theorem exists_comment_of_file {place : List String} {content : ByteArray}
    (stands : defaultTree.at? place = some (.file content)) :
    ∃ text, textOf? content = some text ∧ text.toList.head? = some '#' := by
  rcases file_of_defaultTree stands with isCatalog | isOffers
  · rw [isCatalog]
    exact exists_comment head?_defaultCatalog
  · rw [isOffers]
    exact exists_comment head?_defaultOffers

/-- The text that is kept with the defaults under the bytes of a name. -/
def defaultAt? (name : String) : Option String :=
  match defaultTree.at? (defaultDirectory ++ [name]) with
  | some (.file content) => textOf? content
  | _ => none

/-- A default is what the file of its name holds. -/
theorem exists_file_of_defaultOf? {name text : String} (plain : FilePath.IsPlain name)
    (isDefault : defaultOf? name = .ok (some text)) :
    ∃ content, defaultTree.at? (defaultDirectory ++ [canonical name]) = some (.file content) ∧
      textOf? content = some text := by
  rw [defaultOf?, FilePath.ofText_of_isPlain plain] at isDefault
  obtain ⟨node, found, isDefault⟩ := bind_eq_ok_iff.mp isDefault
  split at isDefault
  · rename_i content
    obtain ⟨place, isPlace, stands⟩ := FileTree.look_eq_some_iff.mp found
    obtain ⟨_, _, walked⟩ := FileTree.placeOf_eq_ok_iff.mp isPlace
    obtain ⟨_, _, reached⟩ := FileTree.walk_cons_eq_ok_iff.mp walked
    cases reached
    have next : FileTree.next defaultDirectory name = defaultDirectory ++ [canonical name] :=
      if_neg plain.notAbove
    have start : FileTree.startOf defaultDirectory ⟨"", [name]⟩ = defaultDirectory := rfl
    rw [start, next] at stands
    exact ⟨content, stands, Except.ok.inj isDefault⟩
  · cases isDefault

theorem exists_content_of_defaultOf? {name text : String}
    (isDefault : defaultOf? name = .ok (some text)) :
    ∃ content, textOf? content = some text := by
  obtain ⟨node, _, isDefault⟩ := bind_eq_ok_iff.mp isDefault
  split at isDefault
  · exact ⟨_, Except.ok.inj isDefault⟩
  · cases isDefault

theorem defaultAt?_of_defaultOf? {name text : String} (plain : FilePath.IsPlain name)
    (isDefault : defaultOf? name = .ok (some text)) : defaultAt? (canonical name) = some text := by
  obtain ⟨content, stands, isText⟩ := exists_file_of_defaultOf? plain isDefault
  rw [defaultAt?, stands]
  exact isText

/-- A file that is found among the defaults gives a default. -/
theorem exists_defaultOf? {name : String} {place : List String}
    (found : defaultTree.placeOf defaultDirectory (FilePath.ofText name) = .ok place)
    (stands : defaultTree.at? place ≠ none)
    (noDirectory : defaultTree.at? place ≠ some .directory) :
    ∃ text, defaultOf? name = .ok (some text) ∧ text.toList.head? = some '#' := by
  obtain ⟨node, isNode⟩ := Option.ne_none_iff_exists'.mp stands
  cases node with
  | directory => exact absurd isNode noDirectory
  | file content =>
    obtain ⟨text, isText, isComment⟩ := exists_comment_of_file isNode
    have isFound := FileTree.look_eq_some_iff.mpr ⟨place, found, isNode⟩
    refine ⟨text, ?_, isComment⟩
    rw [defaultOf?, isFound]
    exact congrArg Except.ok isText

theorem exists_default_catalog :
    ∃ text, defaultOf? catalogName = .ok (some text) ∧ text.toList.head? = some '#' := by
  have found : defaultTree.placeOf defaultDirectory (FilePath.ofText catalogName) =
      .ok (defaultDirectory ++ [catalogName]) := by decide +kernel
  exact exists_defaultOf? found (by decide +kernel) (by decide +kernel)

theorem exists_default_offers :
    ∃ text, defaultOf? offersName = .ok (some text) ∧ text.toList.head? = some '#' := by
  have found : defaultTree.placeOf defaultDirectory (FilePath.ofText offersName) =
      .ok (defaultDirectory ++ [offersName]) := by decide +kernel
  exact exists_defaultOf? found (by decide +kernel) (by decide +kernel)

end Folder

end Checkout
