import Checkout.Proofs.Basket.Counted
import Checkout.Proofs.Command.Layers
import Checkout.Proofs.Journal.SetUp

/-!
# The stages of a run

A run settles its settings, sets up the journal, opens the catalog, then the offers, then fills a
basket and writes the receipt.  Each stage is described here by its outcome alone, without the
records that it writes: what it takes from the settings, and what it makes of that with the readers
of files, the parsers in use and the prices.  Filling is the only stage that repeats a step: it goes
on as long as the catalog knows the names, and ends at the first name that it does not know.
-/

namespace Checkout

namespace Visit

variable {First Second : Type}

theorem outcome_andThen (visit : Visit First) (next : FileTree → First → Visit Second) :
    (visit.andThen next).logged.outcome =
      visit.logged.outcome.bind fun value => (next visit.tree value).logged.outcome := by
  rw [andThen]
  cases visit.logged.outcome <;> rfl

/-- What is there without a visit is worked on as it is. -/
theorem andThen_ofOutcome_ok (value : First) (tree : FileTree)
    (next : FileTree → First → Visit Second) :
    (Visit.mk (Logged.ofOutcome (.ok value)) tree).andThen next = next tree value := by
  rw [andThen]
  rfl

end Visit

/-! ## Names of items -/

namespace Catalog

/-- The catalog has an item of a name. -/
def Knows (catalog : Catalog) (name : String) : Prop :=
  ∃ item ∈ catalog.items, item.name = normalizeName name

/-- Items of the catalog have certain names, in order. -/
def AreNamed (catalog : Catalog) (names : List String) (items : List ItemId) : Prop :=
  List.Forall₂ (fun name item => item ∈ catalog.items ∧ item.name = normalizeName name) names items

/-- Either the catalog knows all names, or there is a first one that it does not know. -/
theorem areNamed_or_first_unknown (catalog : Catalog) (names : List String) :
    (∃ items, catalog.AreNamed names items) ∨
      ∃ before name after items, names = before ++ name :: after ∧
        catalog.AreNamed before items ∧ ¬catalog.Knows name := by
  induction names with
  | nil => exact .inl ⟨[], .nil⟩
  | cons name rest ih =>
    by_cases known : catalog.Knows name
    · obtain ⟨item, isNamed⟩ := known
      rcases ih with ⟨items, named⟩ | ⟨before, bad, after, items, rfl, named, unknown⟩
      · exact .inl ⟨item :: items, .cons isNamed named⟩
      · exact .inr ⟨name :: before, bad, after, item :: items, rfl, .cons isNamed named, unknown⟩
    · exact .inr ⟨[], name, rest, [], rfl, .nil, known⟩

theorem exists_areNamed {catalog : Catalog} {names : List String}
    (known : ∀ name ∈ names, catalog.Knows name) : ∃ items, catalog.AreNamed names items := by
  rcases catalog.areNamed_or_first_unknown names with
    named | ⟨before, name, after, _, rfl, _, unknown⟩
  · exact named
  · exact absurd (known name (List.mem_append_right _ List.mem_cons_self)) unknown

end Catalog

/-- What is wrong with a name that a catalog does not know: it is blank or unknown. -/
def Problem.ofName (name : String) : Problem :=
  if normalizeName name = "" then .blankItem name else .unknownItem (normalizeName name)

/-! ## Filling a basket -/

namespace Basket

/-- A basket holds the items of some names: each item once, in the order in which they were first
named, with the number of times that they were. -/
structure Holds (catalog : Catalog) (names : List String) (basket : Basket) : Prop where
  catalog_eq : basket.catalog = catalog
  counts : ∃ items, catalog.AreNamed names items ∧
    basket.counts = items.eraseDups.map fun item => (item, items.count item)

variable {catalog : Catalog} {basket : Basket} {name : String}

theorem add_of_not_knows (same : basket.catalog = catalog) (unknown : ¬catalog.Knows name) :
    (basket.add (.named name)).outcome = .error (.problem (.ofName name)) := by
  have judged := judges same (.named name)
  rw [Problem.ofName]
  split
  · rename_i blank
    obtain ⟨raw, isRaw, failed⟩ := judged.blank blank
    cases isRaw
    exact failed
  · rename_i named
    exact judged.unknown named unknown

theorem catalog_foldl_put (basket : Basket) (items : List ItemId) :
    (items.foldl put basket).catalog = basket.catalog := by
  induction items generalizing basket with
  | nil => rfl
  | cons item rest ih => exact ih (basket.put item)

theorem counts_foldl_put (basket : Basket) (items : List ItemId) :
    (items.foldl put basket).counts =
      Entries.collect basket.counts (items.map fun item => (item, 1)) := by
  induction items generalizing basket with
  | nil => rfl
  | cons item rest ih => exact ih (basket.put item)

/-- A new basket with items put into it is the tally of these items. -/
theorem foldl_put_empty (catalog : Catalog) (items : List ItemId) :
    items.foldl put (empty catalog) =
      ⟨catalog, items.eraseDups.map fun item => (item, items.count item)⟩ := by
  have counts := (counts_foldl_put (empty catalog) items).trans (Entries.collect_ones items)
  have same := catalog_foldl_put (empty catalog) items
  generalize items.foldl put (empty catalog) = basket at counts same
  cases basket
  cases same
  cases counts
  rfl

theorem holds_foldl_put {names : List String} {items : List ItemId}
    (named : catalog.AreNamed names items) :
    Holds catalog names (items.foldl put (empty catalog)) := by
  rw [foldl_put_empty]
  exact ⟨rfl, items, named, rfl⟩

end Basket

namespace Command

open Catalog (AreNamed)

variable {catalog : Catalog} {basket : Basket} {names : List String} {items : List ItemId}

theorem outcome_fill_cons (basket : Basket) (name : String) (rest : List String) :
    (fill basket (name :: rest)).outcome =
      (basket.add (.named name)).outcome.bind fun result => (fill result.2 rest).outcome := by
  rw [fill, Logged.outcome_bind]

/-- Filling puts in the items of known names one after another, and then goes on with the rest. -/
theorem fill_append (named : catalog.AreNamed names items) (same : basket.catalog = catalog)
    (rest : List String) :
    (fill basket (names ++ rest)).outcome =
      (fill (items.foldl Basket.put basket) rest).outcome := by
  induction named generalizing basket with
  | nil => rfl
  | cons isNamed _ ih =>
    have added := (Basket.judges same (.named _)).added _ isNamed.1 isNamed.2
    rw [List.cons_append, outcome_fill_cons, added, Except.bind, List.foldl_cons]
    exact ih same

theorem fill_of_areNamed (named : catalog.AreNamed names items) :
    (fill (.empty catalog) names).outcome = .ok (items.foldl Basket.put (.empty catalog)) := by
  have filled := fill_append named (rfl : (Basket.empty catalog).catalog = catalog) []
  rwa [List.append_nil] at filled

/-- Filling ends at the first name that the catalog does not know, whatever names follow. -/
theorem fill_of_not_knows (named : catalog.AreNamed names items) {name : String}
    (unknown : ¬catalog.Knows name) (after : List String) :
    (fill (.empty catalog) (names ++ name :: after)).outcome =
      .error (.problem (.ofName name)) := by
  have same : (items.foldl Basket.put (.empty catalog)).catalog = catalog :=
    Basket.catalog_foldl_put _ items
  rw [fill_append named rfl, outcome_fill_cons, Basket.add_of_not_knows same unknown, Except.bind]

/-- Filling with some names gives the basket that holds the items of just these names. -/
theorem fill_eq_ok_iff :
    (fill (.empty catalog) names).outcome = .ok basket ↔ Basket.Holds catalog names basket := by
  constructor
  · intro filled
    rcases catalog.areNamed_or_first_unknown names with
      ⟨items, named⟩ | ⟨before, name, after, items, rfl, named, unknown⟩
    · rw [fill_of_areNamed named] at filled
      cases filled
      exact Basket.holds_foldl_put named
    · rw [fill_of_not_knows named unknown] at filled
      cases filled
  · rintro ⟨same, items, named, counts⟩
    rw [fill_of_areNamed named, Except.ok.injEq]
    obtain ⟨known, others⟩ := basket
    subst same counts
    exact Basket.foldl_put_empty known items

/-! ## Writing the receipt -/

/-- Settings are handed on as they are, if they are handed on at all. -/
theorem eq_of_copy {settings copied : Mapping} (isCopied : Settings.copy settings = .ok copied) :
    copied = settings := by
  rw [Settings.copy] at isCopied
  split at isCopied
  · exact (Except.ok.inj isCopied).symm
  · cases isCopied

variable {surroundings : Surroundings} {settings : Mapping} {shop : Shop}

theorem outcome_receipt : (receipt surroundings shop settings basket).outcome =
    (shop.price basket).outcome.bind fun price =>
      (Settings.copy settings).bind fun copied =>
        (Receipt.Layout.ofSettings copied).bind fun layout =>
          (Receipt.render layout price none).bind fun text =>
            (surroundings.tools.print surroundings.environment text).bind fun printed =>
              .ok (.printed printed) := by
  unfold receipt
  split <;>
    simp only [Logged.outcome_bind, Logged.outcome_tell, Logged.outcome_ofOutcome,
      Logged.outcome_pure, Except.bind]

/-- The only ending of a receipt is that its text is printed. -/
theorem receipt_eq_ok_iff {ending : Ending} :
    (receipt surroundings shop settings basket).outcome = .ok ending ↔
      ∃ price copied layout text printed, (shop.price basket).outcome = .ok price ∧
        Settings.copy settings = .ok copied ∧ Receipt.Layout.ofSettings copied = .ok layout ∧
        Receipt.render layout price none = .ok text ∧
        surroundings.tools.print surroundings.environment text = .ok printed ∧
        ending = .printed printed := by
  rw [outcome_receipt]
  constructor
  · intro ends
    obtain ⟨price, priced, afterPrice⟩ := bind_eq_ok_iff.mp ends
    obtain ⟨copied, isCopied, afterCopy⟩ := bind_eq_ok_iff.mp afterPrice
    obtain ⟨layout, isLayout, afterLayout⟩ := bind_eq_ok_iff.mp afterCopy
    obtain ⟨text, rendered, afterText⟩ := bind_eq_ok_iff.mp afterLayout
    obtain ⟨printed, isPrinted, same⟩ := bind_eq_ok_iff.mp afterText
    exact ⟨price, copied, layout, text, printed, priced, isCopied, isLayout, rendered, isPrinted,
      (Except.ok.inj same).symm⟩
  · rintro ⟨price, copied, layout, text, printed, priced, isCopied, isLayout, rendered, isPrinted,
      rfl⟩
    simp only [priced, isCopied, isLayout, rendered, isPrinted, Except.bind]

/-! ## Serving -/

theorem serve_of_filled (shop : Shop) {items : List String}
    (filled : (fill (.empty shop.catalog) items).outcome = .ok basket) :
    (serve surroundings shop settings items).outcome =
      (receipt surroundings shop settings basket).outcome := by
  simp only [serve, Shop.newBasket, Logged.outcome_andThen, Logged.outcome_tell, filled, refuse,
    Except.bind]

theorem serve_of_unfilled (shop : Shop) {items : List String} {fault : Fault}
    (failed : (fill (.empty shop.catalog) items).outcome = .error fault) :
    (serve surroundings shop settings items).outcome =
      endingOf surroundings misuseCode itemMessage? fault := by
  simp only [serve, Shop.newBasket, Logged.outcome_andThen, Logged.outcome_tell, failed, refuse,
    Except.bind, Logged.outcome_ofOutcome]

/-! ## Settling the settings -/

variable {request : Request}

/-- The settings file of a run is the one that is named, or the nearest, and comes to something. -/
inductive FromFile (surroundings : Surroundings) (request : Request) :
    Except Fault Settings → Prop
  | named {path : FilePath} : request.settingsFile = some path →
      FromFile surroundings request
        (Settings.ofFile surroundings.tools.load surroundings.tree surroundings.current path)
  | nearest : request.settingsFile = none →
      FromFile surroundings request
        (Settings.nearest surroundings.tools.load surroundings.tree surroundings.current
          ⟨"/", surroundings.current⟩)

/-- Settings are in force: those of the settings file, with what the environment and the options
write over them. -/
def InForce (surroundings : Surroundings) (request : Request) (settings : Mapping) : Prop :=
  ∃ file, FromFile surroundings request (.ok file) ∧
    settings = (overrides request surroundings.environment).foldl Settings.putOverride file.tree

theorem fromFile_iff {outcome : Except Fault Settings} :
    FromFile surroundings request outcome ↔ fileSettings surroundings request = outcome := by
  rw [fileSettings]
  constructor
  · intro comes
    cases comes with
    | named isNamed => rw [isNamed]
    | nearest unnamed => rw [unnamed]
  · rintro rfl
    cases isNamed : request.settingsFile with
    | none => exact .nearest isNamed
    | some path => exact .named isNamed

theorem settingsOf_eq_ok_iff :
    settingsOf surroundings request = .ok settings ↔ InForce surroundings request settings := by
  constructor
  · intro settled
    obtain ⟨file, isFile, written⟩ := bind_eq_ok_iff.mp settled
    refine ⟨file, fromFile_iff.mpr isFile, ?_⟩
    rw [← overrideByOptions_eq_foldl]
    exact (Except.ok.inj written).symm
  · rintro ⟨file, comes, rfl⟩
    rw [settingsOf, fromFile_iff.mp comes, ← overrideByOptions_eq_foldl]
    rfl

theorem settingsOf_of_refused {fault : Fault}
    (refused : FromFile surroundings request (.error fault)) :
    settingsOf surroundings request = .error fault := by
  rw [settingsOf, fromFile_iff.mp refused]
  rfl

/-! ## What the settings name -/

/-- The journal can be set up: the level that the settings name is one. -/
def Journalled (settings : Mapping) : Prop :=
  ∃ level threshold, Settings.get settings "logging.level" (.text "WARNING") = .text level ∧
    Journal.Threshold.ofName level = .ok threshold

/-- Setting up the journal of a run goes well if its level is one. -/
theorem outcome_setUp_eq_ok_iff (level : String) (asJson onTerminal : Bool) :
    (({} : Journal.Loggers).setUp Journal.shopLogger
      { name := Journal.standardError, isTerminal := .ok onTerminal } { level, asJson }).2 =
        .ok () ↔ ∃ threshold, Journal.Threshold.ofName level = .ok threshold := by
  let stream : Journal.Stream := { name := Journal.standardError, isTerminal := .ok onTerminal }
  let call : Journal.Call := { level, asJson }
  change (({} : Journal.Loggers).setUp Journal.shopLogger stream call).2 = .ok () ↔
    ∃ threshold, Journal.Threshold.ofName call.level = .ok threshold
  have isStyle : ∃ style, call.style stream = .ok style := by
    cases asJson
    · exact ⟨_, rfl⟩
    · exact ⟨_, rfl⟩
  obtain ⟨style, isStyle⟩ := isStyle
  cases isLevel : Journal.Threshold.ofName call.level with
  | error fault =>
    rw [Journal.Loggers.setUp_of_noLevel isLevel]
    simp
  | ok threshold =>
    rw [Journal.Loggers.setUp_of_style isLevel isStyle]
    simp

theorem exists_map_eq_ok_iff {Made : Type} {outcome : Except Fault Unit} {work : Unit → Made} :
    (∃ made, outcome.map work = .ok made) ↔ outcome = .ok () := by
  cases outcome <;> simp [Except.map]

theorem exists_loggersOf_iff (onTerminal : Bool) :
    (∃ loggers, loggersOf settings onTerminal = .ok loggers) ↔ Journalled settings := by
  unfold loggersOf
  split
  · rename_i level isText
    refine exists_map_eq_ok_iff.trans ((outcome_setUp_eq_ok_iff level _ onTerminal).trans ?_)
    constructor
    · rintro ⟨threshold, isLevel⟩
      exact ⟨level, threshold, isText, isLevel⟩
    · rintro ⟨other, threshold, isOther, isLevel⟩
      cases isText.symm.trans isOther
      exact ⟨threshold, isLevel⟩
  · rename_i noText
    constructor
    · rintro ⟨_, isLoggers⟩
      cases isLoggers
    · rintro ⟨level, _, isText, _⟩
      exact absurd isText (noText level)

/-- A folder is the one that the settings name. -/
structure IsFolder (settings : Mapping) (folder : DataFolder) : Prop where
  directory : ∃ text, Settings.get settings "data.dir" (.text ".") = .text text ∧
    folder.directory = FilePath.ofText text
  createMissing : folder.createMissing =
    !(Settings.get settings "data.create_missing" (.flag true)).isEmpty

theorem folderOf_eq_ok_iff {folder : DataFolder} :
    folderOf settings = .ok folder ↔ IsFolder settings folder := by
  rw [folderOf]
  constructor
  · intro located
    split at located
    · rename_i text isText
      cases located
      exact ⟨⟨text, isText, rfl⟩, rfl⟩
    · cases located
  · rintro ⟨⟨text, isText, directory⟩, createMissing⟩
    rw [isText]
    dsimp only
    rw [← directory, ← createMissing]

theorem fileName_eq_ok_iff {setting name : String} :
    fileName settings setting = .ok name ↔ Settings.get settings setting .null = .text name := by
  rw [fileName]
  constructor
  · intro isName
    split at isName
    · rename_i text isText
      cases isName
      exact isText
    · cases isName
  · intro isText
    rw [isText]

/-! ## Opening the shop -/

variable {folder : DataFolder} {tree : FileTree}

/-- Reading the catalog file that the settings name in a folder comes to something, and leaves some
files. -/
inductive ReadsCatalog (surroundings : Surroundings) (settings : Mapping) (folder : DataFolder) :
    Except Fault Catalog → FileTree → Prop
  | read {name : String} {visit : Visit Catalog} :
      Settings.get settings "data.catalog_file" .null = .text name →
      folder.readCatalog surroundings.current surroundings.tree name = visit →
      ReadsCatalog surroundings settings folder visit.logged.outcome visit.tree

/-- Reading the offers file that the settings name in a folder, with the parsers that they leave in
use, comes to something. -/
inductive ReadsOffers (surroundings : Surroundings) (settings : Mapping) (folder : DataFolder)
    (catalog : Catalog) (tree : FileTree) : Except Fault Offer.Book → Prop
  | read {parsers : List Parser} {name : String} : Settings.copy settings = .ok settings →
      (Offer.Registry.load surroundings.extensions settings).outcome = .ok parsers →
      Settings.get settings "data.offers_file" .null = .text name →
      ReadsOffers surroundings settings folder catalog tree
        (folder.readOffers surroundings.current tree parsers catalog name).logged.outcome

theorem openCatalog_of_named {name : String}
    (isName : Settings.get settings "data.catalog_file" .null = .text name) :
    openCatalog surroundings settings folder =
      folder.readCatalog surroundings.current surroundings.tree name := by
  rw [openCatalog, named, fileName_eq_ok_iff.mpr isName, Visit.andThen_ofOutcome_ok]

theorem ReadsCatalog.openCatalog_eq {outcome : Except Fault Catalog}
    (reads : ReadsCatalog surroundings settings folder outcome tree) :
    (openCatalog surroundings settings folder).logged.outcome = outcome ∧
      (openCatalog surroundings settings folder).tree = tree := by
  cases reads with
  | read isName isVisit =>
    rw [openCatalog_of_named isName, isVisit]
    exact ⟨rfl, rfl⟩

theorem readsCatalog_of_ok
    (isCatalog : (openCatalog surroundings settings folder).logged.outcome = .ok catalog) :
    ReadsCatalog surroundings settings folder (.ok catalog)
      (openCatalog surroundings settings folder).tree := by
  have opened := isCatalog
  rw [openCatalog, Visit.outcome_andThen] at opened
  obtain ⟨name, isName, _⟩ := bind_eq_ok_iff.mp opened
  rw [← isCatalog]
  have isText := fileName_eq_ok_iff.mp isName
  exact .read isText (openCatalog_of_named isText).symm

theorem outcome_openOffers (surroundings : Surroundings) (settings : Mapping) (folder : DataFolder)
    (catalog : Catalog) (tree : FileTree) :
    (openOffers surroundings settings folder catalog tree).logged.outcome =
      (Settings.copy settings).bind fun copied =>
        (Offer.Registry.load surroundings.extensions copied).outcome.bind fun parsers =>
          (fileName settings "data.offers_file").bind fun name =>
            (folder.readOffers surroundings.current tree parsers catalog name).logged.outcome := by
  rw [openOffers, Visit.outcome_andThen]
  simp only [Visit.outcome_andThen, Logged.outcome_andThen, Logged.outcome_ofOutcome, named]
  cases Settings.copy settings <;> rfl

theorem ReadsOffers.outcome_eq {outcome : Except Fault Offer.Book}
    (reads : ReadsOffers surroundings settings folder catalog tree outcome) :
    (openOffers surroundings settings folder catalog tree).logged.outcome = outcome := by
  cases reads with
  | read isCopied areParsers isName =>
    rw [outcome_openOffers, isCopied, bind_ok, areParsers, bind_ok, fileName_eq_ok_iff.mpr isName,
      bind_ok]

/-- The parsers of offers are found in a copy of the settings, which the receipt needs as well. -/
theorem ReadsOffers.copied {outcome : Except Fault Offer.Book}
    (reads : ReadsOffers surroundings settings folder catalog tree outcome) :
    Settings.copy settings = .ok settings := by
  cases reads with
  | read isCopied _ _ => exact isCopied

theorem readsOffers_of_ok {offers : Offer.Book}
    (areOffers : (openOffers surroundings settings folder catalog tree).logged.outcome =
      .ok offers) :
    ReadsOffers surroundings settings folder catalog tree (.ok offers) := by
  rw [outcome_openOffers] at areOffers
  obtain ⟨copied, isCopied, afterCopy⟩ := bind_eq_ok_iff.mp areOffers
  obtain ⟨parsers, areParsers, afterParsers⟩ := bind_eq_ok_iff.mp afterCopy
  obtain ⟨name, isName, read⟩ := bind_eq_ok_iff.mp afterParsers
  cases eq_of_copy isCopied
  rw [← read]
  exact .read isCopied areParsers (fileName_eq_ok_iff.mp isName)

theorem outcome_openShop (surroundings : Surroundings) (settings : Mapping) (folder : DataFolder) :
    (openShop surroundings settings folder).logged.outcome =
      (openCatalog surroundings settings folder).logged.outcome.bind fun catalog =>
        (openOffers surroundings settings folder catalog
          (openCatalog surroundings settings folder).tree).logged.outcome.bind fun offers =>
            .ok { catalog, offers } := by
  rw [openShop, Visit.outcome_andThen]
  simp only [Visit.map, Logged.outcome_andThen, Logged.outcome_pure]

/-! ## From the request to the ending -/

/-- Nothing stops a run before it opens the catalog: settings are in force, the journal is set up by
them, and they name a folder. -/
structure Ready (surroundings : Surroundings) (request : Request) (settings : Mapping)
    (folder : DataFolder) : Prop where
  settled : InForce surroundings request settings
  journalled : Journalled settings
  located : IsFolder settings folder

variable {onTerminal : Bool}

theorem outcome_price (surroundings : Surroundings) (settings : Mapping) (items : List String) :
    (price surroundings settings items).logged.outcome =
      (folderOf settings).bind fun folder =>
        (refuse surroundings corruptCode dataMessage?
          (openShop surroundings settings folder).logged.outcome fun shop =>
            serve surroundings shop settings items).outcome := by
  rw [price, Visit.outcome_andThen]
  simp only [Logged.outcome_bind, Logged.outcome_tell, Logged.outcome_ofOutcome, Except.bind,
    Logged.outcome_andThen]

namespace Ready

theorem ending_eq (ready : Ready surroundings request settings folder) (onTerminal : Bool) :
    (runFor surroundings onTerminal request).ending =
      (refuse surroundings corruptCode dataMessage?
        (openShop surroundings settings folder).logged.outcome fun shop =>
          serve surroundings shop settings request.items).outcome := by
  obtain ⟨loggers, isLoggers⟩ := (exists_loggersOf_iff onTerminal).mpr ready.journalled
  simp only [runFor, settingsOf_eq_ok_iff.mpr ready.settled, isLoggers, outcome_price,
    folderOf_eq_ok_iff.mpr ready.located, Except.bind]

theorem ending_of_no_catalog (ready : Ready surroundings request settings folder)
    (onTerminal : Bool) {fault : Fault}
    (failed : (openCatalog surroundings settings folder).logged.outcome = .error fault) :
    (runFor surroundings onTerminal request).ending =
      endingOf surroundings corruptCode dataMessage? fault := by
  rw [ready.ending_eq, outcome_openShop, failed, Except.bind, refuse, Logged.outcome_ofOutcome]

theorem ending_of_no_offers (ready : Ready surroundings request settings folder)
    (onTerminal : Bool) (reads : ReadsCatalog surroundings settings folder (.ok catalog) tree)
    {fault : Fault}
    (failed : (openOffers surroundings settings folder catalog tree).logged.outcome =
      .error fault) :
    (runFor surroundings onTerminal request).ending =
      endingOf surroundings corruptCode dataMessage? fault := by
  rw [ready.ending_eq, outcome_openShop, reads.openCatalog_eq.1, reads.openCatalog_eq.2, bind_ok,
    failed, Except.bind, refuse, Logged.outcome_ofOutcome]

theorem ending_of_open (ready : Ready surroundings request settings folder) (onTerminal : Bool)
    (isCatalog : ReadsCatalog surroundings settings folder (.ok catalog) tree)
    {offers : Offer.Book}
    (areOffers : ReadsOffers surroundings settings folder catalog tree (.ok offers)) :
    (runFor surroundings onTerminal request).ending =
      (serve surroundings { catalog, offers } settings request.items).outcome := by
  rw [ready.ending_eq, outcome_openShop, isCatalog.openCatalog_eq.1, isCatalog.openCatalog_eq.2,
    bind_ok, areOffers.outcome_eq, bind_ok, refuse]

/-- The first name that the catalog does not know decides how a run with good data ends. -/
theorem ending_of_not_knows (ready : Ready surroundings request settings folder)
    (onTerminal : Bool)
    (isCatalog : ReadsCatalog surroundings settings folder (.ok catalog) tree)
    {offers : Offer.Book}
    (areOffers : ReadsOffers surroundings settings folder catalog tree (.ok offers))
    {before after : List String} {name : String}
    (given : request.items = before ++ name :: after)
    (known : ∀ other ∈ before, catalog.Knows other) (unknown : ¬catalog.Knows name) :
    (runFor surroundings onTerminal request).ending =
      endingOf surroundings misuseCode itemMessage? (.problem (.ofName name)) := by
  obtain ⟨items, named⟩ := Catalog.exists_areNamed known
  have filled : (fill (.empty catalog) request.items).outcome =
      .error (.problem (.ofName name)) := by
    rw [given]
    exact fill_of_not_knows named unknown after
  rw [ready.ending_of_open onTerminal isCatalog areOffers]
  exact serve_of_unfilled { catalog, offers } filled

end Ready

/-- A run for a request ends early, or it is ready to open the catalog. -/
theorem ending_or_ready (surroundings : Surroundings) (onTerminal : Bool) (request : Request) :
    (∃ fault, (runFor surroundings onTerminal request).ending =
        endingOf surroundings corruptCode settingsMessage? fault) ∨
      (∃ fault, (runFor surroundings onTerminal request).ending = .error fault) ∨
      ∃ settings folder, Ready surroundings request settings folder := by
  cases settled : settingsOf surroundings request with
  | error fault =>
    refine .inl ⟨fault, ?_⟩
    simp only [runFor, settled, Run.stopped]
  | ok settings =>
    refine .inr ?_
    cases isLoggers : loggersOf settings onTerminal with
    | error fault =>
      refine .inl ⟨fault, ?_⟩
      simp only [runFor, settled, isLoggers, Run.stopped]
    | ok loggers =>
      cases isFolder : folderOf settings with
      | error fault =>
        refine .inl ⟨fault, ?_⟩
        simp only [runFor, settled, isLoggers, outcome_price, isFolder, Except.bind]
      | ok folder =>
        exact .inr ⟨settings, folder, settingsOf_eq_ok_iff.mp settled,
          (exists_loggersOf_iff onTerminal).mp ⟨loggers, isLoggers⟩, folderOf_eq_ok_iff.mp isFolder⟩

end Command

end Checkout
