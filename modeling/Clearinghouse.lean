import Clearinghouse.Main
import Clearinghouse.Store.Conformance
import Clearinghouse.Proofs.Store.Refinement
import Clearinghouse.Proofs.Store.Transactions
import Clearinghouse.Proofs.Batch.Phases
import Clearinghouse.Proofs.Batch.Failure
import Clearinghouse.Proofs.Medium.KeyStore
import Clearinghouse.Proofs.Medium.Memory
import Clearinghouse.Proofs.Medium.RowStore
import Clearinghouse.Proofs.Cache.Backend
import Clearinghouse.Proofs.Ledger.Backend
import Clearinghouse.Proofs.Batch.Adapters
import Clearinghouse.Proofs.Batch.Holdings
import Clearinghouse.Proofs.Batch.Transfer
import Clearinghouse.Proofs.Batch.Serving
import Clearinghouse.Proofs.Batch.AllOrNothing
import Clearinghouse.Proofs.Batch.SkipFailed
import Clearinghouse.Proofs.Batch.Admission
import Clearinghouse.Proofs.Medium.Bytes
import Clearinghouse.Proofs.Json.RoundTrip
import Clearinghouse.Proofs.Cache.Texts
import Clearinghouse.Proofs.Store.Settling
import Clearinghouse.Proofs.Batch.Debits
import Clearinghouse.Proofs.Ledger.Postings
import Clearinghouse.Proofs.Ledger.Booking
import Clearinghouse.Proofs.Ledger.Commit
import Clearinghouse.Proofs.Ledger.Settling
import Clearinghouse.Proofs.Application.Calls
import Clearinghouse.Proofs.Application.Signing
import Clearinghouse.Proofs.Agreement
import Clearinghouse.Proofs.Store.Mirroring
import Clearinghouse.Proofs.Batch.Mirroring
import Clearinghouse.Proofs.Application.Mirroring
import Clearinghouse.Proofs.Medium.Layout
import Clearinghouse.Proofs.Medium.Mirroring
import Clearinghouse.Proofs.Cache.Mirroring
import Clearinghouse.Proofs.Ledger.Denotation
import Clearinghouse.Proofs.Ledger.Mirroring
import Clearinghouse.Proofs.Application.Sessions
import Clearinghouse.Proofs.Store.Calls
import Clearinghouse.Proofs.Store.Company
import Clearinghouse.Proofs.Store.Withdrawal
import Clearinghouse.Proofs.Medium.Sharing
import Clearinghouse.Proofs.Store.Journal
import Clearinghouse.Proofs.Ledger.Company
import Clearinghouse.Proofs.Store.Confinement
import Clearinghouse.Proofs.Batch.Along
import Clearinghouse.Proofs.Ledger.Following
import Clearinghouse.Proofs.Cache.Following
import Clearinghouse.Proofs.Medium.Following
import Clearinghouse.Proofs.Application.Conservation
import Clearinghouse.Proofs.Batch.Seeding
import Clearinghouse.Proofs.Ledger.DoubleEntry
import Clearinghouse.Proofs.Store.Reopening
import Clearinghouse.Proofs.Medium.Directories
import Clearinghouse.Proofs.Medium.Reopening
import Clearinghouse.Proofs.Application.Probing
import Clearinghouse.Proofs.Ledger.Knowing
import Clearinghouse.Proofs.Application.Continuing
import Clearinghouse.Proofs.Application.Invisible
import Clearinghouse.Proofs.Application.Restarting
import Clearinghouse.Proofs.Application.Genesis
import Clearinghouse.Proofs.Batch.Wire
import Clearinghouse.Proofs.Batch.SignedText
import Clearinghouse.Proofs.Batch.Indivisible
import Clearinghouse.Proofs.Batch.Watching
import Clearinghouse.Proofs.Cache.Separate
import Clearinghouse.Proofs.Store.Traffic
import Clearinghouse.Proofs.Batch.Flushing
import Clearinghouse.Proofs.Batch.OneByOne
import Clearinghouse.Proofs.Store.Snapshots
import Clearinghouse.Proofs.Cache.Breaking
import Clearinghouse.Proofs.Cache.Listing
import Clearinghouse.Proofs.Ledger.Enumerating
import Clearinghouse.Proofs.Medium.Flushes
import Clearinghouse.Proofs.Ledger.Cluster
