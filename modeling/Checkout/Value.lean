import Checkout.Binary.Printer
import Checkout.Entries
import Checkout.Text.Quoted

/-!
# Plain values

Settings, details of a problem and the context of a log record are trees of plain values: nothing,
a truth value, a number, a text, a list, or a mapping whose entries stand in order of first
insertion.  Numbers with a fraction or a power of ten are binary numbers, and anything else is known
by the way it is listed.

The keys of a mapping are values without parts.  Most are texts.  Numbers of equal value are the
same key, and a truth value is the same key as the number it counts as, so a mapping never holds two
of them; the one that came first stays.
-/

namespace Checkout

/-- What an entry of a mapping is found under. -/
inductive Key
  | null
  | flag (value : Bool)
  | whole (value : Int)
  | fraction (value : Binary)
  | text (value : String)
  deriving DecidableEq

/-- A tree of plain values. -/
inductive Value
  | null
  | flag (value : Bool)
  | whole (value : Int)
  | fraction (value : Binary)
  | text (value : String)
  | list (items : List Value)
  | mapping (entries : List (Key × Value))
  /-- Something else, by the way it is listed. -/
  | other (listing : String)
  deriving Inhabited

instance : Coe String Key :=
  ⟨.text⟩

/-- Keyed values in order of first insertion. -/
abbrev Mapping :=
  List (Key × Value)

/-! ## Keys -/

namespace Key

/-- The key with a truth value replaced by the number it counts as, and a number by the whole number
that it is equal to. -/
def canonical : Key → Key
  | .flag value => .whole value.toNat
  | .fraction value => (value.whole?.map Key.whole).getD (.fraction value)
  | key => key

/-- The key among some that is the same as another, or that other. -/
def spelledAs (keys : List Key) (key : Key) : Key :=
  (keys.find? fun known => known.canonical = key.canonical).getD key

/-- The key as a value. -/
def value : Key → Value
  | .null => .null
  | .flag value => .flag value
  | .whole value => .whole value
  | .fraction value => .fraction value
  | .text value => .text value

/-- The text that stands for the key where only texts are keys. -/
def word : Key → String
  | .null => "null"
  | .flag true => "true"
  | .flag false => "false"
  | .whole value => Text.Numeral.text value
  | .fraction value => String.ofList value.writeNamed
  | .text value => value

/-- Whether the key is no number, or one that is short enough to be shown. -/
def isShowable : Key → Bool
  | .whole value => Text.Numeral.isShort value
  | _ => true

/-- The key as it stands in a listing. -/
def listing : Key → List Char
  | .null => "None".toList
  | .flag true => "True".toList
  | .flag false => "False".toList
  | .whole value => Text.Numeral.ofInt value
  | .fraction value => value.write
  | .text value => Text.Quoted.encode value.toList

end Key

/-! ## Mappings -/

namespace Mapping

/-- The value under a text. -/
def get? (name : String) (entries : Mapping) : Option Value :=
  Entries.get? (.text name) entries

/-- The mapping with a value under a text. -/
def put (name : String) (value : Value) (entries : Mapping) : Mapping :=
  Entries.put (.text name) value entries

/-- The mapping with a value under a key; a key that is the same as a known one keeps its first
spelling. -/
def putKey (key : Key) (value : Value) (entries : Mapping) : Mapping :=
  Entries.put (key.spelledAs (entries.map Prod.fst)) value entries

/-- The mapping with entries put onto it one after another. -/
def putAll (others entries : Mapping) : Mapping :=
  others.foldl (fun entries other => putKey other.1 other.2 entries) entries

/-- A value is found under the text it was put under, and other texts keep theirs. -/
@[simp]
theorem get?_put (name other : String) (value : Value) (entries : Mapping) :
    get? other (put name value entries) =
      if name = other then some value else get? other entries := by
  simp [get?, put]

end Mapping

namespace Value

/-- The entries of a mapping. -/
def entries? : Value → Option Mapping
  | .mapping entries => some entries
  | _ => none

/-- The characters of a text. -/
def text? : Value → Option String
  | .text value => some value
  | _ => none

/-- The whole number that a value counts as. -/
def whole? : Value → Option Int
  | .whole value => some value
  | .flag value => some value.toNat
  | _ => none

/-- The key that a value can be; what has parts can be none. -/
def key? : Value → Option Key
  | .null => some .null
  | .flag value => some (.flag value)
  | .whole value => some (.whole value)
  | .text value => some (.text value)
  | .fraction value => some (.fraction value)
  | .other listing => some (.text listing)
  | .list _ => none
  | .mapping _ => none

def isNull : Value → Bool
  | .null => true
  | _ => false

/-- Whether a value counts as absent where a setting is tested: nothing, false, zero, and whatever
is empty. -/
def isEmpty : Value → Bool
  | .null => true
  | .flag value => !value
  | .whole value => value = 0
  | .fraction value => value.isZero
  | .text value => value.isEmpty
  | .list items => items.isEmpty
  | .mapping entries => entries.isEmpty
  | .other _ => false

/-- The parts that a value is made of: the items of a list, the code points of a text, the keys of a
mapping. -/
def parts? : Value → Option (List Value)
  | .list items => some items
  | .text value =>
    some ((Text.points value.toList).map fun point => .text (String.ofList (Text.spell point)))
  | .mapping entries => some (entries.map fun entry => entry.1.value)
  | _ => none

/-! ## Equality -/

/-- The value under the same key. -/
def underSame? (key : Key) (entries : Mapping) : Option Value :=
  (entries.find? fun entry => entry.1.canonical = key.canonical).map Prod.snd

/-- The whole number that a value is equal to. -/
def equalWhole? : Value → Option Int
  | .fraction value => value.whole?
  | value => value.whole?

mutual

/-- Whether two values are equal: numbers are equal by value, a truth value is equal to the number
it counts as, and the order of entries does not matter. -/
def same : Value → Value → Bool
  | .null, .null => true
  | .flag first, second => second.equalWhole? == some (first.toNat : Int)
  | .whole first, second => second.equalWhole? == some first
  | .fraction first, .fraction second => first.same second
  | .fraction first, second => first.whole?.isSome && first.whole? == second.whole?
  | .text first, .text second => first == second
  | .other first, .other second => first == second
  | .list first, .list second => sameItems first second
  | .mapping first, .mapping second =>
    first.length == second.length && sameWithin first second
  | _, _ => false

/-- Whether two lists have equal items in the same places. -/
def sameItems : List Value → List Value → Bool
  | [], [] => true
  | first :: firsts, second :: seconds => same first second && sameItems firsts seconds
  | _, _ => false

/-- Whether every entry has an equal one under the same key. -/
def sameWithin : List (Key × Value) → List (Key × Value) → Bool
  | [], _ => true
  | (key, value) :: rest, entries =>
    (match underSame? key entries with
     | some found => same value found
     | none => false) && sameWithin rest entries

end

/-! ## Size -/

mutual

/-- How deep lists and mappings are nested. -/
def depth : Value → Nat
  | .list items => itemsDepth items + 1
  | .mapping entries => entriesDepth entries + 1
  | _ => 0

/-- How deep lists and mappings are nested in items. -/
def itemsDepth : List Value → Nat
  | [] => 0
  | item :: rest => max item.depth (itemsDepth rest)

/-- How deep lists and mappings are nested in the values of entries. -/
def entriesDepth : List (Key × Value) → Nat
  | [] => 0
  | (_, value) :: rest => max value.depth (entriesDepth rest)

end

mutual

/-- Whether every number in a value is short enough to be shown. -/
def isShowable : Value → Bool
  | .whole value => Text.Numeral.isShort value
  | .list items => itemsShowable items
  | .mapping entries => entriesShowable entries
  | _ => true

/-- Whether every number in items is short enough to be shown. -/
def itemsShowable : List Value → Bool
  | [] => true
  | item :: rest => item.isShowable && itemsShowable rest

/-- Whether every number in entries is short enough to be shown. -/
def entriesShowable : List (Key × Value) → Bool
  | [] => true
  | (key, value) :: rest => key.isShowable && value.isShowable && entriesShowable rest

end

/-! ## Listings -/

/-- Pieces of a listing with a comma and a space between them. -/
def separated (pieces : List (List Char)) : List Char :=
  (pieces.intersperse [',', ' ']).flatten

mutual

/-- A value as it stands in a listing, where a text is quoted. -/
def listing : Value → List Char
  | .null => "None".toList
  | .flag true => "True".toList
  | .flag false => "False".toList
  | .whole value => Text.Numeral.ofInt value
  | .fraction value => value.write
  | .text value => Text.Quoted.encode value.toList
  | .list items => '[' :: separated (listingItems items) ++ [']']
  | .mapping entries => '\x7b' :: separated (listingEntries entries) ++ ['\x7d']
  | .other listing => listing.toList

/-- The items of a list as they stand in a listing. -/
def listingItems : List Value → List (List Char)
  | [] => []
  | item :: rest => listing item :: listingItems rest

/-- The entries of a mapping as they stand in a listing. -/
def listingEntries : List (Key × Value) → List (List Char)
  | [] => []
  | (key, value) :: rest => (key.listing ++ ':' :: ' ' :: listing value) :: listingEntries rest

end

/-- A value as it is shown by itself: a text as it is, everything else as in a listing. -/
def shown : Value → String
  | .text value => value
  | value => String.ofList value.listing

/-- A value as it is shown in a listing. -/
def listed (value : Value) : String :=
  String.ofList value.listing

end Value

end Checkout
