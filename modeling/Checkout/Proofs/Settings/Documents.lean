import Checkout.Proofs.Outcomes
import Checkout.Yaml.File

/-!
# Documents of settings files

What a settings file holds is read as its format says, and then judged: a mapping is put over the
defaults, and anything else is refused.  YAML documents go through one more stage in between.  A
file without a document is read as nothing, and to let it pass, whatever counts as absent is taken
for an empty mapping.  So zero, false, and an empty text or list pass with it, and the defaults come
of them, where the same document is refused in JSON.  On all other documents the formats agree,
whichever loader reads YAML.
-/

namespace Checkout

namespace Value

/-- A document is nothing, false, zero, the empty text or the empty list: it counts as absent, and
is no mapping. -/
inductive IsHollow : Value → Prop
  | null : IsHollow .null
  | flag : IsHollow (.flag false)
  | whole : IsHollow (.whole 0)
  | fraction {value : Binary} : value.isZero = true → IsHollow (.fraction value)
  | text : IsHollow (.text "")
  | list : IsHollow (.list [])

theorem isHollow_iff {value : Value} :
    value.IsHollow ↔ value.entries? = none ∧ value.isEmpty = true := by
  constructor
  · intro hollow
    cases hollow with
    | fraction isZero => exact ⟨rfl, isZero⟩
    | _ => exact ⟨rfl, rfl⟩
  · rintro ⟨plain, isEmpty⟩
    cases value with
    | null => exact .null
    | flag value =>
      cases value with
      | false => exact .flag
      | true => cases isEmpty
    | whole value =>
      obtain rfl : value = 0 := of_decide_eq_true isEmpty
      exact .whole
    | fraction value => exact .fraction isEmpty
    | text value =>
      obtain rfl : value = "" := String.isEmpty_iff.mp isEmpty
      exact .text
    | list items =>
      obtain rfl : items = [] := List.isEmpty_iff.mp isEmpty
      exact .list
    | mapping entries => cases plain
    | other listing => cases isEmpty

end Value

namespace Settings

/-- A content holds a document in a format: the loader makes the document of it, or its text is the
document in JSON. -/
inductive IsDocument (load : Loader) (content : ByteArray) (document : Value) : Format → Prop
  | yaml : load content = .ok document → IsDocument load content document .yaml
  | json {text : String} : FileTree.textOf? content = some text →
      Json.read text.toList = .ok document → IsDocument load content document .json

/-- A path leads to a file that holds a document in the format of its suffix. -/
structure HoldsDocument (load : Loader) (tree : FileTree) (current : List String) (path : FilePath)
    (format : Format) (document : Value) : Prop where
  ofSuffix : Format.ofSuffix? path.suffix = some format
  held : ∃ content, tree.look current path = .ok (some (.file content)) ∧
    IsDocument load content document format

variable {load : Loader} {tree : FileTree} {current : List String} {path : FilePath}
  {document : Value}

theorem ofDocument_of_plain (path : FilePath) (plain : document.entries? = none) :
    ofDocument path document = .error (.problem (.settings (.notAMapping path.toText))) := by
  cases document with
  | mapping entries => cases plain
  | _ => rfl

/-- The file is judged by the value that is read from it. -/
theorem ofFile_of_read {format : Format} {content : ByteArray}
    (ofSuffix : Format.ofSuffix? path.suffix = some format)
    (stands : tree.look current path = .ok (some (.file content)))
    (read : format.read load content = .ok document) :
    ofFile load tree current path = ofDocument path document := by
  rw [ofFile, stands]
  simp only [bind, bind_ok, ofNode, ofSuffix, ofContent, read, Except.mapError]

/-- A JSON document is judged as it is. -/
theorem HoldsDocument.ofFile_json (holds : HoldsDocument load tree current path .json document) :
    ofFile load tree current path = ofDocument path document := by
  obtain ⟨content, stands, isDocument⟩ := holds.held
  cases isDocument with
  | json isText isJson =>
    have read : Format.read load .json content = .ok document := by
      rw [Format.read, readJson, isText]
      dsimp only
      rw [isJson]
      rfl
    exact ofFile_of_read holds.ofSuffix stands read

/-- A YAML document is judged as it is, or as an empty mapping. -/
theorem HoldsDocument.ofFile_yaml (holds : HoldsDocument load tree current path .yaml document) :
    ofFile load tree current path =
      ofDocument path (if document.isEmpty then .mapping [] else document) := by
  obtain ⟨content, stands, isDocument⟩ := holds.held
  cases isDocument with
  | yaml loaded =>
    have read : Format.read load .yaml content =
        .ok (if document.isEmpty then .mapping [] else document) := by
      rw [Format.read, loaded]
      rfl
    exact ofFile_of_read holds.ofSuffix stands read

/-- A mapping is put over the defaults, be it YAML or JSON.  Any other document is refused in JSON;
in YAML it is refused unless it is hollow, and the defaults come of a hollow one. -/
theorem documents_judged {yaml json : FilePath}
    (inYaml : HoldsDocument load tree current yaml .yaml document)
    (inJson : HoldsDocument load tree current json .json document) :
    (∀ entries, document = .mapping entries →
      ofFile load tree current yaml =
        .ok { tree := overlay defaults entries, source := some yaml } ∧
      ofFile load tree current json =
        .ok { tree := overlay defaults entries, source := some json }) ∧
    (document.entries? = none →
      ofFile load tree current json = .error (.problem (.settings (.notAMapping json.toText))) ∧
      (¬document.IsHollow →
        ofFile load tree current yaml = .error (.problem (.settings (.notAMapping yaml.toText)))) ∧
      (document.IsHollow →
        ofFile load tree current yaml = .ok { tree := defaults, source := some yaml })) := by
  rw [inYaml.ofFile_yaml, inJson.ofFile_json]
  constructor
  · rintro entries rfl
    refine ⟨?_, rfl⟩
    cases entries with
    | nil => rfl
    | cons entry rest => rfl
  · intro plain
    refine ⟨ofDocument_of_plain json plain, fun notHollow => ?_, fun hollow => ?_⟩
    · have notEmpty : ¬document.isEmpty = true := fun isEmpty =>
        notHollow (Value.isHollow_iff.mpr ⟨plain, isEmpty⟩)
      rw [if_neg notEmpty]
      exact ofDocument_of_plain yaml plain
    · rw [if_pos (Value.isHollow_iff.mp hollow).2]
      rfl

/-- A list in two files, one of each format. -/
def listedTree : FileTree :=
  ⟨[(["c.yml"], .file "[1]\n".toUTF8), (["c.json"], .file "[1]\n".toUTF8)]⟩

/-- The list is refused in both formats. -/
theorem documents_judged_listed :
    ofFile Yaml.load listedTree [] ⟨"", ["c.yml"]⟩ =
        .error (.problem (.settings (.notAMapping "c.yml"))) ∧
      ofFile Yaml.load listedTree [] ⟨"", ["c.json"]⟩ =
        .error (.problem (.settings (.notAMapping "c.json"))) := by
  have inYaml : HoldsDocument Yaml.load listedTree [] ⟨"", ["c.yml"]⟩ .yaml (.list [.whole 1]) := by
    have node : Yaml.Node.ofTokens [.flowListStart, .scalar ['1'] true, .flowListEnd] =
        .ok (some (.list [.scalar ['1'] true])) := by
      simp [Yaml.Node.ofTokens, Yaml.Node.content, Yaml.Node.read, Yaml.Node.flowItems,
        Yaml.Node.deepest, Yaml.Node.finish, bind, Except.bind]
    have readable : FileTree.readable "[1]\n".toUTF8 = (['[', '1', ']', '\n'], false) := by
      decide +kernel
    have tokens : Yaml.tokens ['[', '1', ']', '\n'] false =
        [.flowListStart, .scalar ['1'] true, .flowListEnd] := by decide +kernel
    exact ⟨by decide +kernel, "[1]\n".toUTF8, toOption_eq_some_iff.mp (by decide +kernel),
      .yaml (Yaml.load_of_tokens readable tokens node rfl)⟩
  have inJson : HoldsDocument Yaml.load listedTree [] ⟨"", ["c.json"]⟩ .json
      (.list [.whole 1]) := by
    have text : FileTree.textOf? "[1]\n".toUTF8 = some "[1]\n" := by decide +kernel
    have read : Json.read "[1]\n".toList = .ok (.list [.whole 1]) := by
      have characters : "[1]\n".toList = ['[', '1', ']', '\n'] := by decide
      have isNumber : Json.readNumber ['1', ']', '\n'] = .ok (.whole 1, [']', '\n']) := rfl
      have noConstant : Json.readConstant? ['1', ']', '\n'] = none := rfl
      simp [characters, isNumber, noConstant, Json.read, Json.readValue, Json.readItems,
        Json.skipBlanks, Json.deepest, bind, Except.bind]
    exact ⟨by decide +kernel, "[1]\n".toUTF8, toOption_eq_some_iff.mp (by decide +kernel),
      .json text read⟩
  have refused := (documents_judged inYaml inJson).2 rfl
  have full : ¬(Value.list [.whole 1]).IsHollow := by rintro ⟨⟩
  exact ⟨refused.2.1 full, refused.1⟩

/-- A YAML file with an empty list. -/
def emptyTree : FileTree :=
  ⟨[(["c.yml"], .file "[]\n".toUTF8)]⟩

/-- The empty list is no mapping, and passes all the same. -/
theorem documents_misjudged_empty :
    HoldsDocument Yaml.load emptyTree [] ⟨"", ["c.yml"]⟩ .yaml (.list []) ∧
      ofFile Yaml.load emptyTree [] ⟨"", ["c.yml"]⟩ ≠
        .error (.problem (.settings (.notAMapping "c.yml"))) := by
  have inYaml : HoldsDocument Yaml.load emptyTree [] ⟨"", ["c.yml"]⟩ .yaml (.list []) := by
    have node : Yaml.Node.ofTokens [.flowListStart, .flowListEnd] = .ok (some (.list [])) := by
      simp [Yaml.Node.ofTokens, Yaml.Node.content, Yaml.Node.read, Yaml.Node.flowItems,
        Yaml.Node.deepest, Yaml.Node.finish, bind, Except.bind]
    have readable : FileTree.readable "[]\n".toUTF8 = (['[', ']', '\n'], false) := by
      decide +kernel
    have tokens : Yaml.tokens ['[', ']', '\n'] false = [.flowListStart, .flowListEnd] := by
      decide +kernel
    exact ⟨by decide +kernel, "[]\n".toUTF8, toOption_eq_some_iff.mp (by decide +kernel),
      .yaml (Yaml.load_of_tokens readable tokens node rfl)⟩
  refine ⟨inYaml, ?_⟩
  rw [inYaml.ofFile_yaml]
  intro refused
  cases refused

end Settings

end Checkout
