import Checkout.Main
import Checkout.Proofs.Decimal.Rounding
import Checkout.Proofs.Decimal.Sum
import Checkout.Proofs.Money.Running
import Checkout.Proofs.Entries
import Checkout.Proofs.Basket.Filled
import Checkout.Proofs.Basket.Worth
import Checkout.Proofs.Decimal.Order
import Checkout.Proofs.Price.Combined
import Checkout.Proofs.Price.Settled
import Checkout.Proofs.Price.Exact
import Checkout.Proofs.Decimal.Range
import Checkout.Proofs.Price.Sound
import Checkout.Proofs.Offer.Granted
import Checkout.Proofs.Price.Bounded
import Checkout.Proofs.Basket.Runs
import Checkout.Proofs.Price.Independent
import Checkout.Proofs.Price.Growing
import Checkout.Proofs.Text.Words
import Checkout.Proofs.Text.Case
import Checkout.Proofs.Text.Case.Forms
import Checkout.Proofs.DataFile
import Checkout.Proofs.Money.Reading
import Checkout.Proofs.Item
import Checkout.Proofs.Catalog.Entry
import Checkout.Proofs.Catalog.Reading
import Checkout.Proofs.Offer.Reading
import Checkout.Proofs.Layout
import Checkout.Proofs.Basket.Counted
import Checkout.Proofs.Offer.Overlap
import Checkout.Proofs.Folder.Supply
import Checkout.Proofs.Price.Separate
import Checkout.Proofs.Offer.Written
import Checkout.Proofs.Command.Layers
import Checkout.Proofs.Command.Receipts
import Checkout.Proofs.Money.Spelling
import Checkout.Proofs.Offer.Percentage
import Checkout.Proofs.Offer.Bundled
import Checkout.Proofs.Money.Shown
import Checkout.Proofs.Offer.Described
import Checkout.Proofs.Offer.Rewritten
import Checkout.Proofs.Catalog.Rewritten
import Checkout.Proofs.Mapping
import Checkout.Proofs.Settings.Overlay
import Checkout.Proofs.Offer.Registered
import Checkout.Proofs.Offer.Shelf
import Checkout.Proofs.Outcomes
import Checkout.Proofs.Receipt
import Checkout.Proofs.Folder.Walk
import Checkout.Proofs.Folder.Content
import Checkout.Proofs.Folder.Reads
import Checkout.Proofs.Folder.Name
import Checkout.Proofs.Settings.Nearest
import Checkout.Proofs.Decimal.Residue
import Checkout.Proofs.Price.Equal
import Checkout.Proofs.Settings.Documents
import Checkout.Proofs.Journal.Hierarchy
import Checkout.Proofs.Journal.SetUp
import Checkout.Proofs.Item.Canonical
