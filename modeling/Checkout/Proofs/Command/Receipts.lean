import Checkout.Proofs.Command.Stages

/-!
# Receipts and reports

A run that is asked for a price prints the receipt for all items that were given, or prints nothing
and reports what is wrong.  Settings are looked at before the catalog, the catalog before the
offers, and these before the items, so of several defects the first in this order is reported, and
of several bad items the first on the command line.

All this holds whatever the tools of a run are, as long as they print what they are given.  They may
fail to print it.  Then, as wherever else a fault is not foreseen, the run is interrupted and prints
nothing either.
-/

namespace Checkout.Command

/-! ## What is asked and answered -/

/-- The text of a message. -/
def Message.text (message : Message) : String :=
  message.label ++ ": " ++ String.join message.parts

/-- Texts and messages are printed just as they are given, with a line feed behind them, if they are
printed at all. -/
structure Tools.PrintAsGiven (tools : Tools) : Prop where
  print {environment : List (String × String)} {text printed : String} :
    tools.print environment text = .ok printed → printed = text ++ "\n"
  printMessage {environment : List (String × String)} {message : Message} {printed : String} :
    tools.printMessage environment message = .ok printed → printed = message.text ++ "\n"

/-- A text is the receipt for all items that are asked for: everything that is needed for it is in
order, and it is the rendered price of the basket that holds these items. -/
inductive IsReceipt (surroundings : Surroundings) (request : Request) : String → Prop
  | receipt {settings : Mapping} {folder : DataFolder} {catalog : Catalog} {tree : FileTree}
      {offers : Offer.Book} {basket : Basket} {price : Price} {layout : Receipt.Layout}
      {text : String} :
      Ready surroundings request settings folder →
        ReadsCatalog surroundings settings folder (.ok catalog) tree →
        ReadsOffers surroundings settings folder catalog tree (.ok offers) →
        Basket.Holds catalog request.items basket →
        (Price.ofBasket catalog basket offers).outcome = .ok price →
        Receipt.Layout.ofSettings settings = .ok layout →
        Receipt.render layout price none = .ok text →
        IsReceipt surroundings request text

/-- A run reports a message with an exit code and prints nothing else, unless printing the message
interrupts it. -/
structure Run.Reports (run : Run) (surroundings : Surroundings) (code : Nat) (message : Message) :
    Prop where
  told (printed : String) :
    surroundings.tools.printMessage surroundings.environment message = .ok printed →
      run.exitCode = code ∧ run.message = message.text ++ "\n" ∧ run.output = ""
  untold (fault : Fault) :
    surroundings.tools.printMessage surroundings.environment message = .error fault →
      run.ending = .error fault

/-- The name of a file in front of what is wrong with it. -/
def sourceLabel (source : Option String) : String :=
  (source.filter fun name => name ≠ "").elim "" fun name => name ++ ": "

/-- A fault says that data are corrupt, or that they are missing and have no default, and a message
reports it. -/
inductive IsDataReport : Fault → Message → Prop
  | corrupt (corruption : Corruption) :
      IsDataReport (.problem (.corruptData corruption))
        ⟨"Corrupt data file",
          [sourceLabel corruption.source, (Problem.corruptData corruption).message]⟩
  | missing (name searched : String) :
      IsDataReport (.problem (.missingDataFile name searched))
        ⟨"Error", [(Problem.missingDataFile name searched).message]⟩

/-- What a run for a request leaves behind. -/
structure Answered (surroundings : Surroundings) (request : Request) (run : Run) : Prop where
  /-- The receipt is printed exactly if the exit code is zero, and nothing else ever is. -/
  receipt : (run.exitCode = 0 ∧ ∃ text, IsReceipt surroundings request text ∧
      run.output = text ++ "\n") ∨
    (run.exitCode ≠ 0 ∧ run.output = "")
  /-- A run that has a receipt prints it, if it can be printed. -/
  served (text printed : String) : IsReceipt surroundings request text →
    surroundings.tools.print surroundings.environment text = .ok printed →
    run.exitCode = 0 ∧ run.output = text ++ "\n"
  interrupted (fault : Fault) : run.ending = .error fault → run.output = ""
  /-- Settings that are refused are reported, whatever else is wrong. -/
  settings (defect : SettingsDefect) :
    FromFile surroundings request (.error (.problem (.settings defect))) →
      run.Reports surroundings 1 ⟨"Error", [(Problem.settings defect).message]⟩
  /-- The catalog is reported, whatever the offers and items are. -/
  catalog (settings : Mapping) (folder : DataFolder) (tree : FileTree) (fault : Fault)
      (message : Message) :
    Ready surroundings request settings folder →
      ReadsCatalog surroundings settings folder (.error fault) tree →
      IsDataReport fault message → run.Reports surroundings 1 message
  /-- The offers on a good catalog are reported, whatever the items are. -/
  offers (settings : Mapping) (folder : DataFolder) (catalog : Catalog) (tree : FileTree)
      (fault : Fault) (message : Message) :
    Ready surroundings request settings folder →
      ReadsCatalog surroundings settings folder (.ok catalog) tree →
      ReadsOffers surroundings settings folder catalog tree (.error fault) →
      IsDataReport fault message → run.Reports surroundings 1 message
  /-- The first item that is blank or not in the catalog is reported, whatever items follow. -/
  item (settings : Mapping) (folder : DataFolder) (catalog : Catalog) (tree : FileTree)
      (book : Offer.Book) (before after : List String) (name : String) :
    Ready surroundings request settings folder →
      ReadsCatalog surroundings settings folder (.ok catalog) tree →
      ReadsOffers surroundings settings folder catalog tree (.ok book) →
      request.items = before ++ name :: after → (∀ known ∈ before, catalog.Knows known) →
      ¬catalog.Knows name →
      run.Reports surroundings 2 ⟨"Error", [(Problem.ofName name).message]⟩

/-! ## Messages -/

variable {surroundings : Surroundings} {onTerminal : Bool} {request : Request}
  {settings : Mapping} {folder : DataFolder} {catalog : Catalog} {tree : FileTree} {run : Run}
  {fault : Fault} {code : Nat} {message : Message} {message? : Fault → Option Message}

theorem Run.reports_of_ending (asGiven : surroundings.tools.PrintAsGiven)
    (told : message? fault = some message)
    (ends : run.ending = endingOf surroundings code message? fault) :
    run.Reports surroundings code message := by
  simp only [endingOf, told] at ends
  constructor
  · intro printed isPrinted
    rw [isPrinted] at ends
    simp only [exitCode, Run.message, output, ends, Except.map, asGiven.printMessage isPrinted,
      and_self]
  · intro fault failed
    rw [failed] at ends
    exact ends

theorem IsDataReport.told (isReport : IsDataReport fault message) :
    dataMessage? fault = some message := by
  cases isReport with
  | corrupt corruption =>
    obtain ⟨defect, line, source⟩ := corruption
    cases source with
    | none => rfl
    | some name =>
      by_cases empty : name = "" <;>
        simp [dataMessage?, sourceLabel, Option.filter_some, empty]
  | missing name searched => rfl

theorem itemMessage?_ofName (name : String) :
    itemMessage? (.problem (.ofName name)) = some ⟨"Error", [(Problem.ofName name).message]⟩ := by
  rw [Problem.ofName]
  split <;> rfl

/-! ## Endings -/

/-- An ending is a receipt that is printed, or a refusal with an exit code that tells of it. -/
def IsAnswer (surroundings : Surroundings) (request : Request) (outcome : Except Fault Ending) :
    Prop :=
  ∀ ending, outcome = .ok ending →
    (∃ text printed, ending = .printed printed ∧ IsReceipt surroundings request text ∧
      surroundings.tools.print surroundings.environment text = .ok printed) ∨
    ∃ code message, ending = .refused code message ∧ code ≠ 0

theorem isAnswer_endingOf (nonzero : code ≠ 0) (message? : Fault → Option Message)
    (fault : Fault) :
    IsAnswer surroundings request (endingOf surroundings code message? fault) := by
  intro ending ends
  rw [endingOf] at ends
  split at ends
  · rename_i message _
    cases printed : surroundings.tools.printMessage surroundings.environment message with
    | error fault =>
      rw [printed] at ends
      cases ends
    | ok text =>
      rw [printed] at ends
      cases ends
      exact .inr ⟨code, text, rfl, nonzero⟩
  · cases ends

/-- A shop that is open answers with the receipt, or refuses a name. -/
theorem isAnswer_serve {offers : Offer.Book}
    (ready : Ready surroundings request settings folder)
    (isCatalog : ReadsCatalog surroundings settings folder (.ok catalog) tree)
    (areOffers : ReadsOffers surroundings settings folder catalog tree (.ok offers)) :
    IsAnswer surroundings request
      (serve surroundings { catalog, offers } settings request.items).outcome := by
  cases filled : (fill (.empty catalog) request.items).outcome with
  | error fault =>
    rw [serve_of_unfilled { catalog, offers } filled]
    exact isAnswer_endingOf (by decide) itemMessage? fault
  | ok basket =>
    rw [serve_of_filled { catalog, offers } filled]
    intro ending ends
    obtain ⟨price, copied, layout, text, printed, priced, isCopied, isLayout, rendered, isPrinted,
      rfl⟩ := receipt_eq_ok_iff.mp ends
    rw [eq_of_copy isCopied] at isLayout
    exact .inl ⟨text, printed, rfl, .receipt ready isCatalog areOffers (fill_eq_ok_iff.mp filled)
      priced isLayout rendered, isPrinted⟩

theorem isAnswer_runFor (surroundings : Surroundings) (onTerminal : Bool) (request : Request) :
    IsAnswer surroundings request (runFor surroundings onTerminal request).ending := by
  rcases ending_or_ready surroundings onTerminal request with
    ⟨fault, ends⟩ | ⟨fault, ends⟩ | ⟨settings, folder, ready⟩
  · rw [ends]
    exact isAnswer_endingOf (by decide) settingsMessage? fault
  · rw [ends]
    intro ending isEnding
    cases isEnding
  · cases opened : (openCatalog surroundings settings folder).logged.outcome with
    | error fault =>
      rw [ready.ending_of_no_catalog onTerminal opened]
      exact isAnswer_endingOf (by decide) dataMessage? fault
    | ok catalog =>
      have isCatalog := readsCatalog_of_ok opened
      cases taken : (openOffers surroundings settings folder catalog
          (openCatalog surroundings settings folder).tree).logged.outcome with
      | error fault =>
        rw [ready.ending_of_no_offers onTerminal isCatalog taken]
        exact isAnswer_endingOf (by decide) dataMessage? fault
      | ok offers =>
        have areOffers := readsOffers_of_ok taken
        rw [ready.ending_of_open onTerminal isCatalog areOffers]
        exact isAnswer_serve ready isCatalog areOffers

/-- A run whose ending is an answer prints a receipt, or prints nothing and fails. -/
theorem receipt_or_silent (asGiven : surroundings.tools.PrintAsGiven)
    (answers : IsAnswer surroundings request run.ending) :
    (run.exitCode = 0 ∧ ∃ text, IsReceipt surroundings request text ∧
      run.output = text ++ "\n") ∨
    (run.exitCode ≠ 0 ∧ run.output = "") := by
  cases ends : run.ending with
  | error fault =>
    refine .inr ?_
    simp [Run.exitCode, Run.output, ends]
  | ok ending =>
    rcases answers ending ends with ⟨text, printed, rfl, isReceipt, isPrinted⟩ |
      ⟨code, message, rfl, nonzero⟩
    · refine .inl ?_
      simp only [Run.exitCode, Run.output, ends, true_and]
      exact ⟨text, isReceipt, asGiven.print isPrinted⟩
    · refine .inr ?_
      simp only [Run.exitCode, Run.output, ends, and_true]
      exact nonzero

/-- A run that has a receipt ends with the receipt as it is printed. -/
theorem IsReceipt.ending_eq {text printed : String}
    (isReceipt : IsReceipt surroundings request text) (onTerminal : Bool)
    (isPrinted : surroundings.tools.print surroundings.environment text = .ok printed) :
    (runFor surroundings onTerminal request).ending = .ok (.printed printed) := by
  obtain @⟨settings, folder, catalog, tree, offers, basket, price, layout, _, ready, isCatalog,
    areOffers, holds, priced, isLayout, rendered⟩ := isReceipt
  have filled := fill_eq_ok_iff.mpr holds
  rw [ready.ending_of_open onTerminal isCatalog areOffers,
    serve_of_filled { catalog, offers } filled]
  exact receipt_eq_ok_iff.mpr ⟨price, settings, layout, text, printed, priced, areOffers.copied,
    isLayout, rendered, isPrinted, rfl⟩

/-! ## The main result -/

theorem run_of_request {given : List String}
    (asked : surroundings.tools.ask surroundings.tree surroundings.current
      surroundings.environment given = .ok (.request request)) (onTerminal : Bool) :
    Command.run surroundings onTerminal given = runFor surroundings onTerminal request := by
  simp only [Command.run, asked]

/-- A market with plums and without offers, whose tools print what they are given. -/
def market : Surroundings where
  tools := { toolbox with
    print := fun _ text => .ok (text ++ "\n")
    printMessage := fun _ message => .ok (message.text ++ "\n") }
  tree := ⟨[(["catalog.list"], .file "Plums 1.00".toUTF8), (["offers.list"], .file "".toUTF8)]⟩

def marketFolder : DataFolder where
  directory := ⟨"", []⟩

def plums : ItemId :=
  ⟨"PLUMS", ⟨"plums", rfl⟩, by decide⟩

theorem printAsGiven_market : market.tools.PrintAsGiven where
  print isPrinted := (Except.ok.inj isPrinted).symm
  printMessage isPrinted := (Except.ok.inj isPrinted).symm

/-- The market has no settings file, so the defaults are in force. -/
theorem ready_market (items : List String) :
    Ready market { items } Settings.defaults marketFolder := by
  have nothing : Settings.search market.tree [] = .ok none :=
    toOption_eq_some_iff.mp (by decide +kernel)
  have read : fileSettings market { items } = .ok (Settings.ofTree []) := by
    change (Settings.search market.tree []).bind _ = _
    rw [nothing]
    rfl
  have settled : InForce market { items } Settings.defaults := by
    refine settingsOf_eq_ok_iff.mp ?_
    rw [settingsOf, read]
    rfl
  have journalled : Journalled Settings.defaults :=
    ⟨"WARNING", 30, rfl, toOption_eq_some_iff.mp (by decide +kernel)⟩
  exact ⟨settled, journalled, folderOf_eq_ok_iff.mp rfl⟩

example : (Command.run market false ["plums", " PLUMS"]).output =
    "Subtotal: £2.00\n(No offers available)\nTotal: £2.00\n" := by
  decide +kernel

end Checkout.Command
