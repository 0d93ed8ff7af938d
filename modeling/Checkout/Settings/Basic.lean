import Checkout.Folder.Path
import Checkout.Settings.Tree

/-!
# The settings of a shop

Every setting has a default.  A settings file is put over the defaults, and variables of the
environment are put over both.
-/

namespace Checkout

/-- The settings in force, and the file that they come from, if they come from one. -/
structure Settings where
  tree : Mapping
  source : Option FilePath := none

namespace Settings

/-- The settings that hold where nothing else is said. -/
def defaults : Mapping :=
  [("data", .mapping
      [("dir", .text "."),
       ("catalog_file", .text "catalog.list"),
       ("offers_file", .text "offers.list"),
       ("create_missing", .flag true)]),
   ("offers", .mapping
      [("disabled_parsers", .list []),
       ("discover_plugins", .flag true)]),
   ("report", .mapping
      [("currency_symbol", .text "£"),
       ("minor_unit_suffix", .text "p"),
       ("format", .text "text")]),
   ("logging", .mapping
      [("level", .text "WARNING"),
       ("format", .text "text")])]

/-- The defaults with a tree put over them. -/
def ofTree (tree : Mapping) (source : Option FilePath := none) : Settings :=
  { tree := overlay defaults tree, source }

/-- The names of the variables that override settings, each with the setting. -/
def overridingVariables : List (String × String) :=
  [("PRICEBASKET_DATA_DIR", "data.dir"),
   ("PRICEBASKET_CURRENCY_SYMBOL", "report.currency_symbol"),
   ("PRICEBASKET_LOG_LEVEL", "logging.level"),
   ("PRICEBASKET_LOG_FORMAT", "logging.format")]

/-- The tree with some variables of an environment put over it.  An empty variable counts as not
set. -/
def overrideBy (environment : List (String × String)) (tree : Mapping) :
    List (String × String) → Mapping
  | [] => tree
  | (name, setting) :: rest =>
    let next :=
      match Entries.get? name environment with
      | some value => if value.isEmpty then tree else put tree setting (.text value)
      | none => tree
    overrideBy environment next rest

/-- The settings with the variables of an environment put over them. -/
def withEnvironment (settings : Settings) (environment : List (String × String)) : Settings :=
  { settings with tree := overrideBy environment settings.tree overridingVariables }

end Settings

end Checkout
