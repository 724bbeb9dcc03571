import PartitionLedger.Collection.Ranked
import PartitionLedger.Identity.Order
import PartitionLedger.Identity.Source
import PartitionLedger.Partition.OfDocument
import PartitionLedger.Partition.OfJson
import PartitionLedger.Ledger.Plain
import PartitionLedger.Ledger.Summary
import PartitionLedger.Command
import PartitionLedger.Journal.Output
import PartitionLedger.Proofs.Identity.Spellings
import PartitionLedger.Proofs.Identity.Alphabetical
import PartitionLedger.Proofs.Partition.Restoration
import PartitionLedger.Proofs.Partition.Agreement
import PartitionLedger.Proofs.Partition.Forms
import PartitionLedger.Proofs.Ledger.Refinement
import PartitionLedger.Proofs.Ledger.Counting
import PartitionLedger.Proofs.Ledger.Commutation
import PartitionLedger.Proofs.Dispatch.Batches
import PartitionLedger.Proofs.Session.Faults
import PartitionLedger.Proofs.Session.Teardown
import PartitionLedger.Proofs.Session.Storage
import PartitionLedger.Proofs.Session.Settling
import PartitionLedger.Proofs.Session.Exactness
import PartitionLedger.Proofs.Session.Binding
import PartitionLedger.Proofs.Session.Forgetting
import PartitionLedger.Proofs.Session.Splitting
import PartitionLedger.Proofs.Session.Outcomes
import PartitionLedger.Proofs.Session.Reports
import PartitionLedger.Proofs.Settings.Loading
