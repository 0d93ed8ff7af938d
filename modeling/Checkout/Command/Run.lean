import Checkout.Command.Tools
import Checkout.Folder.Reader
import Checkout.Journal.Logger
import Checkout.Offer.Registry
import Checkout.Receipt
import Checkout.Report
import Checkout.Shop

/-!
# Running the command

The command prices the items among its arguments.  Settings come from a file, the environment and
the options, the later over the earlier; the catalog and the offers come from the data folder they
name.  A receipt is printed only if all of these are in order and every item is in the catalog;
otherwise the first problem is reported and the exit code tells its kind.
-/

namespace Checkout.Command

/-- The surroundings of a run: the tools, the files, the current directory, the environment and the
installed extensions. -/
structure Surroundings where
  tools : Tools
  tree : FileTree
  current : List String := []
  environment : List (String × String) := []
  extensions : List Offer.Extension := []

/-- How a run ends that no fault interrupts. -/
inductive Ending
  /-- Something is printed, and all is well. -/
  | printed (text : String)
  /-- A message is printed, and the exit code tells of a failure. -/
  | refused (code : Nat) (message : String)

/-- The exit code of a run with corrupt data or settings. -/
def corruptCode : Nat :=
  1

/-- The exit code of a run with a bad item, or with arguments that can not be used. -/
def misuseCode : Nat :=
  2

/-! ## Settings -/

/-- The settings of the file that is named, or of the nearest. -/
def fileSettings (surroundings : Surroundings) (request : Request) : Except Fault Settings :=
  match request.settingsFile with
  | some path =>
    Settings.ofFile surroundings.tools.load surroundings.tree surroundings.current path
  | none =>
    Settings.nearest surroundings.tools.load surroundings.tree surroundings.current
      ⟨"/", surroundings.current⟩

/-- The tree of settings with the options put over it. -/
def overrideByOptions (request : Request) (tree : Mapping) : Mapping :=
  let located :=
    match request.dataDirectory with
    | some path => Settings.put tree "data.dir" (.text path.toText)
    | none => tree
  let shaped :=
    if request.asJson then Settings.put located "report.format" (.text "json") else located
  if request.isVerbose then Settings.put shaped "logging.level" (.text "DEBUG") else shaped

/-- The settings in force: options over the environment over the file over the defaults. -/
def settingsOf (surroundings : Surroundings) (request : Request) : Except Fault Mapping := do
  let settings ← fileSettings surroundings request
  .ok (overrideByOptions request (settings.withEnvironment surroundings.environment).tree)

/-- The shop's own logger set up by the settings. -/
def loggersOf (settings : Mapping) (onTerminal : Bool) : Except Fault Journal.Loggers :=
  match Settings.get settings "logging.level" (.text "WARNING") with
  | .text level =>
    let asJson :=
      match Settings.get settings "logging.format" .null with
      | .text "json" => true
      | _ => false
    let stream : Journal.Stream := { name := Journal.standardError, isTerminal := .ok onTerminal }
    let (loggers, outcome) :=
      ({} : Journal.Loggers).setUp Journal.shopLogger stream { level, asJson }
    outcome.map fun _ => loggers
  | _ => .error .lacking

/-- The data folder that the settings name. -/
def folderOf (settings : Mapping) : Except Fault DataFolder :=
  match Settings.get settings "data.dir" (.text ".") with
  | .text directory =>
    .ok { directory := FilePath.ofText directory,
          createMissing := !(Settings.get settings "data.create_missing" (.flag true)).isEmpty }
  | _ => .error .wrongKind

/-- The name of a data file that the settings give. -/
def fileName (settings : Mapping) (setting : String) : Except Fault String :=
  match Settings.get settings setting .null with
  | .text name => .ok name
  | _ => .error .wrongKind

/-! ## Pricing -/

/-- The name of the logger of the command. -/
def logger : String :=
  "pricebasket.cli"

/-- The name that a setting gives to a data file, which does not touch the files. -/
def named (settings : Mapping) (setting : String) (tree : FileTree) : Visit String :=
  ⟨Logged.ofOutcome (fileName settings setting), tree⟩

/-- The catalog that the data folder holds. -/
def openCatalog (surroundings : Surroundings) (settings : Mapping) (folder : DataFolder) :
    Visit Catalog :=
  (named settings "data.catalog_file" surroundings.tree).andThen fun tree name =>
    folder.readCatalog surroundings.current tree name

/-- The book of offers on a catalog that the data folder holds. -/
def openOffers (surroundings : Surroundings) (settings : Mapping) (folder : DataFolder)
    (catalog : Catalog) (tree : FileTree) : Visit Offer.Book :=
  let loaded : Visit (List Parser) :=
    ⟨(Logged.ofOutcome (Settings.copy settings)).andThen
      (Offer.Registry.load surroundings.extensions), tree⟩
  loaded.andThen fun tree parsers =>
    (named settings "data.offers_file" tree).andThen fun tree name =>
      folder.readOffers surroundings.current tree parsers catalog name

/-- The shop that the data folder holds. -/
def openShop (surroundings : Surroundings) (settings : Mapping) (folder : DataFolder) :
    Visit Shop :=
  (openCatalog surroundings settings folder).andThen fun tree catalog =>
    (openOffers surroundings settings folder catalog tree).map fun offers =>
      pure { catalog, offers }

/-- The basket with items put into it one after another, up to the first that can not be. -/
def fill (basket : Basket) : List String → Logged Basket
  | [] => pure basket
  | name :: rest => do
    let (_, next) ← basket.add (.named name)
    fill next rest

/-- The receipt for a basket. -/
def receipt (surroundings : Surroundings) (shop : Shop) (settings : Mapping) (basket : Basket) :
    Logged Ending := do
  if basket.isEmpty then
    Logged.tell [.info logger "No items given, pricing an empty basket"]
  let price ← shop.price basket
  let copied ← Logged.ofOutcome (Settings.copy settings)
  let layout ← Logged.ofOutcome (Receipt.Layout.ofSettings copied)
  let text ← Logged.ofOutcome (Receipt.render layout price none)
  let printed ← Logged.ofOutcome (surroundings.tools.print surroundings.environment text)
  pure (.printed printed)

/-- The message about an error. -/
def Message.error (problem : Problem) : Message :=
  ⟨"Error", [problem.message]⟩

/-- The message about data that can not be used, if a fault is one of the data. -/
def dataMessage? : Fault → Option Message
  | .problem (.corruptData corruption) =>
    let source :=
      match corruption.source with
      | some name => if name.isEmpty then "" else name ++ ": "
      | none => ""
    some ⟨"Corrupt data file", [source, (Problem.corruptData corruption).message]⟩
  | .problem (.missingDataFile name searched) => some (.error (.missingDataFile name searched))
  | _ => none

/-- The message about a bad item, if a fault is one. -/
def itemMessage? : Fault → Option Message
  | .problem (.blankItem name) => some (.error (.blankItem name))
  | .problem (.unknownItem item) => some (.error (.unknownItem item))
  | _ => none

/-- The message about settings that can not be used, if a fault is one of the settings. -/
def settingsMessage? : Fault → Option Message
  | .problem (.settings defect) => some (.error (.settings defect))
  | _ => none

/-- The ending that a fault leads to: a message if there is one for it, else the fault itself. -/
def endingOf (surroundings : Surroundings) (code : Nat) (message? : Fault → Option Message)
    (fault : Fault) : Except Fault Ending :=
  match message? fault with
  | some message =>
    (surroundings.tools.printMessage surroundings.environment message).map (.refused code)
  | none => .error fault

/-- What follows on an outcome: the next step, or the ending that its fault leads to. -/
def refuse (surroundings : Surroundings) (code : Nat) (message? : Fault → Option Message)
    {Result : Type} (outcome : Except Fault Result) (next : Result → Logged Ending) :
    Logged Ending :=
  match outcome with
  | .ok result => next result
  | .error fault => Logged.ofOutcome (endingOf surroundings code message? fault)

/-- The ending of a run whose shop is open. -/
def serve (surroundings : Surroundings) (shop : Shop) (settings : Mapping) (items : List String) :
    Logged Ending :=
  let filled := fill shop.newBasket items
  (Logged.tell filled.records).andThen fun _ =>
    refuse surroundings misuseCode itemMessage? filled.outcome
      (receipt surroundings shop settings)

/-- The records and the ending of a run under some settings, and the files after it. -/
def price (surroundings : Surroundings) (settings : Mapping) (items : List String) : Visit Ending :=
  let announced : Logged DataFolder := do
    Logged.tell [.starting logger (.text "price_basket") [("items", .list (items.map .text))]]
    Logged.ofOutcome (folderOf settings)
  (Visit.mk announced surroundings.tree).andThen fun tree folder =>
    let opened := openShop { surroundings with tree } settings folder
    let ending :=
      (Logged.tell opened.logged.records).andThen fun _ =>
        refuse surroundings corruptCode dataMessage? opened.logged.outcome fun shop =>
          serve surroundings shop settings items
    ⟨ending, opened.tree⟩

/-! ## The whole run -/

/-- What a run leaves behind. -/
structure Run where
  /-- The ending, or the fault that interrupted the run. -/
  ending : Except Fault Ending
  /-- The records that were written. -/
  records : List Journal.Record := []
  /-- The loggers that decide which records are shown. -/
  loggers : Journal.Loggers := {}
  tree : FileTree

namespace Run

/-- The exit code of the run. -/
def exitCode (run : Run) : Nat :=
  match run.ending with
  | .ok (.printed _) => 0
  | .ok (.refused code _) => code
  | .error _ => 1

/-- What the run prints. -/
def output (run : Run) : String :=
  match run.ending with
  | .ok (.printed text) => text
  | _ => ""

/-- The message that the run prints behind its journal. -/
def message (run : Run) : String :=
  match run.ending with
  | .ok (.refused _ message) => message
  | _ => ""

/-- The part of the journal that is shown. -/
def journal (run : Run) (time : Journal.Style → String) : Except Fault String := do
  let lines ← run.records.mapM fun record =>
    let module := (Text.pieces '.' record.logger).getLastD ""
    run.loggers.write Journal.standardError record.logger record.level.rank
      (record.entry module 0) time Journal.standardError
  .ok (Text.escapeHalves (String.join lines))

end Run

/-- A run that ends before any file is read or written. -/
def Run.stopped (surroundings : Surroundings) (ending : Except Fault Ending) : Run :=
  { ending, tree := surroundings.tree }

/-- The run for a request. -/
def runFor (surroundings : Surroundings) (onTerminal : Bool) (request : Request) : Run :=
  match settingsOf surroundings request with
  | .error fault =>
    .stopped surroundings (endingOf surroundings corruptCode settingsMessage? fault)
  | .ok settings =>
    match loggersOf settings onTerminal with
    | .error fault => .stopped surroundings (.error fault)
    | .ok loggers =>
      let visit := price surroundings settings request.items
      { ending := visit.logged.outcome, records := visit.logged.records, loggers,
        tree := visit.tree }

/-- The run with some arguments. -/
def run (surroundings : Surroundings) (onTerminal : Bool) (arguments : List String) : Run :=
  let reading := surroundings.tools.ask surroundings.tree surroundings.current
    surroundings.environment arguments
  match reading with
  | .error fault => .stopped surroundings (.error fault)
  | .ok (.misuse text) => .stopped surroundings (.ok (.refused misuseCode text))
  | .ok (.information text) => .stopped surroundings (.ok (.printed text))
  | .ok (.request request) => runFor surroundings onTerminal request

end Checkout.Command
