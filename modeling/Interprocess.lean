import Interprocess.Main
import Interprocess.Proofs.Guard.Exclusion
import Interprocess.Proofs.Guard.Wakeup
import Interprocess.Proofs.Object.Serial
import Interprocess.Proofs.Table.Bitmap
import Interprocess.Proofs.Table.Layout
import Interprocess.Proofs.Memory.Words
import Interprocess.Proofs.Table.Allocation
import Interprocess.Proofs.Table.ObjectMap
import Interprocess.Proofs.Table.Represents
import Interprocess.Proofs.Table.Operations
import Interprocess.Proofs.Table.Objects
import Interprocess.Proofs.Table.Session
import Interprocess.Proofs.Object.Refusals
import Interprocess.Proofs.Object.History
import Interprocess.Proofs.Object.Units
import Interprocess.Proofs.Object.Signals
import Interprocess.Proofs.Object.Tenure
import Interprocess.Proofs.Object.Ownership
import Interprocess.Proofs.Table.Accounts
import Interprocess.Proofs.Table.Upkeep
import Interprocess.Proofs.Table.Balance
import Interprocess.Proofs.Table.Usage
import Interprocess.Proofs.Table.Sweep
import Interprocess.Proofs.Object.Reports
import Interprocess.Proofs.Guard.Alone
import Interprocess.Proofs.Object.Endings
import Interprocess.Proofs.Object.Lifecycle
import Interprocess.Proofs.Table.Sharing
import Interprocess.Proofs.Table.Concurrency
import Interprocess.Proofs.Table.Validation
import Interprocess.Proofs.Table.Crashes
import Interprocess.Proofs.Table.SlotViews
import Interprocess.Proofs.Table.Errands
import Interprocess.Proofs.Table.Strides
import Interprocess.Proofs.Table.Traffic
import Interprocess.Proofs.Table.Custody
import Interprocess.Proofs.Table.Abandonment
import Interprocess.Proofs.Table.Races
import Interprocess.Proofs.Guard.Attempts
import Interprocess.Proofs.Guard.Interference
import Interprocess.Proofs.Guard.Patience
import Interprocess.Proofs.Table.Creation
import Interprocess.Proofs.Table.SoleSweep
import Interprocess.Proofs.Table.Retirement
import Interprocess.Proofs.Table.SlotSearch
import Interprocess.Proofs.Table.Fullness
import Interprocess.Proofs.Table.Independence
import Interprocess.Proofs.Memory.Bytes
import Interprocess.Proofs.Table.Parts
import Interprocess.Proofs.Table.Accesses
import Interprocess.Proofs.Table.TableAccesses
import Interprocess.Proofs.Table.Dealings
import Interprocess.Proofs.Table.Bounds
import Interprocess.Proofs.Table.Erasure
import Interprocess.Proofs.Host.Files
import Interprocess.Proofs.Region.Mapping
import Interprocess.Proofs.Table.Inspection
import Interprocess.Proofs.CommandLine.TableFile
