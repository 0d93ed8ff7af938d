import Checkout.Proofs.Folder.Content

/-!
# Names that are read back as they are

The characters in front of the halves are spelled with themselves.  A name that is made up of them
holds the bytes of its characters, one behind the other, and these bytes are read as the same
characters again.  So the place that a path with such names leads to is told without its bytes.
-/

namespace Checkout

namespace Text

/-- All characters have codes in front of those of the halves. -/
def IsEarly (text : List Char) : Prop :=
  ∀ c ∈ text, c.toNat < 0xD800

theorem ofCharacters_of_isEarly {text : List Char} (early : IsEarly text) :
    ofCharacters text = text := by
  induction text with
  | nil => rfl
  | cons c rest ih =>
    have inFront : c.toNat < 0xD800 := early c List.mem_cons_self
    have single : isPaired c.toNat = false := by
      rw [← Bool.not_eq_true, isPaired_iff]
      omega
    have shape : ofCharacters (c :: rest) = spell c.toNat ++ ofCharacters rest := rfl
    rw [shape, ih fun d isIn => early d (List.mem_cons_of_mem c isIn), spell, single,
      Char.ofNat_toNat]
    rfl

theorem points_of_isEarly {text : List Char} (early : IsEarly text) :
    points text = text.map Char.toNat := by
  rw [← points_ofCharacters, ofCharacters_of_isEarly early]

theorem ofPoints_of_isEarly {text : List Char} (early : IsEarly text) :
    ofPoints (text.map Char.toNat) = text := by
  rw [ofPoints, List.flatMap_map]
  exact ofCharacters_of_isEarly early

end Text

namespace Folder

theorem pointBytes?_toNat {c : Char} (early : c.toNat < 0xD800) :
    pointBytes? c.toNat = some (String.utf8EncodeChar c) := by
  have noByte : isByte c.toNat = false := by
    have inFront : ¬byteBase + 0x80 ≤ c.toNat := by
      rw [byteBase]
      omega
    rw [isByte, decide_eq_false inFront, Bool.false_and]
  rw [pointBytes?, noByte, Text.isHalf_toNat, Char.ofNat_toNat]
  rfl

theorem nameBytes?_of_isEarly {name : String} (early : Text.IsEarly name.toList) :
    nameBytes? name = some name.toList.utf8Encode := by
  have bytes : (name.toList.map Char.toNat).mapM pointBytes? =
      some (name.toList.map String.utf8EncodeChar) := by
    generalize name.toList = text at early
    induction text with
    | nil => rfl
    | cons c rest ih =>
      rw [List.map_cons, List.mapM_cons, pointBytes?_toNat (early c List.mem_cons_self),
        ih fun d isIn => early d (List.mem_cons_of_mem c isIn)]
      rfl
  rw [nameBytes?, Text.points_of_isEarly early, bytes, Option.map_some, List.utf8Encode,
    List.flatMap_def]
  exact congrArg some (ByteArray.ext List.data_toByteArray.symm)

/-- Characters are read one by one from behind some bytes on. -/
theorem pointsFrom_append (front : ByteArray) (text : List Char) :
    pointsFrom (front ++ text.utf8Encode) front.size = text.map Char.toNat := by
  induction text generalizing front with
  | nil =>
    rw [pointsFrom, dif_neg]
    · rfl
    · simp
  | cons c rest ih =>
    have behind : (front ++ (c :: rest).utf8Encode).utf8DecodeChar? front.size = some c := by
      rw [ByteArray.utf8DecodeChar?_eq_utf8DecodeChar?_extract,
        ByteArray.extract_append_eq_right rfl ByteArray.size_append,
        List.utf8DecodeChar?_utf8Encode_cons]
    have next : front ++ (c :: rest).utf8Encode = front ++ [c].utf8Encode ++ rest.utf8Encode := by
      rw [List.utf8Encode_cons, ByteArray.append_assoc]
    have size : front.size + c.utf8Size = (front ++ [c].utf8Encode).size := by
      rw [ByteArray.size_append, List.utf8Encode_singleton, List.size_toByteArray,
        String.length_utf8EncodeChar]
    have inside : front.size < (front ++ (c :: rest).utf8Encode).size :=
      ByteArray.lt_size_of_isSome_utf8DecodeChar? (by rw [behind]; rfl)
    rw [pointsFrom, dif_pos inside]
    split
    · rename_i d decoded
      rw [behind, Option.some.injEq] at decoded
      subst decoded
      rw [size, next, ih, List.map_cons]
    · rename_i undecoded
      rw [behind] at undecoded
      cases undecoded

theorem canonical_of_isEarly {name : String} (early : Text.IsEarly name.toList) :
    canonical name = name := by
  have read := pointsFrom_append ByteArray.empty name.toList
  rw [ByteArray.empty_append, ByteArray.size_empty] at read
  rw [canonical, nameBytes?_of_isEarly early]
  dsimp only
  rw [read, Text.ofPoints_of_isEarly early, String.ofList_toList]

end Folder

namespace FileTree

theorem nameSize_of_isEarly {name : String} (early : Text.IsEarly name.toList) :
    nameSize name = (name.toList.map Char.utf8Size).sum := by
  rw [nameSize, Folder.nameBytes?_of_isEarly early, Option.map_some, Option.getD_some,
    List.utf8Encode, List.size_toByteArray, List.length_flatMap]
  simp only [String.length_utf8EncodeChar]

theorem nameObstacle?_of_isEarly {name : String} (early : Text.IsEarly name.toList)
    (noNull : '\x00' ∉ name.toList) : nameObstacle? name = none := by
  simp [nameObstacle?, Folder.nameBytes?_of_isEarly early, noNull]

end FileTree

end Checkout
