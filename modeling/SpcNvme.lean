import SpcNvme.Lib.Machine
import SpcNvme.Lib.PhaseRing
import SpcNvme.Lib.SlotTable
import SpcNvme.Lib.BigEndian
import SpcNvme.Lib.Custody
import SpcNvme.Lib.Program
import SpcNvme.Lib.Access
import SpcNvme.Lib.Simulation
import SpcNvme.Lib.ScatterGather
import SpcNvme.Lib.BlockDevice
import SpcNvme.Lib.Schedule
import SpcNvme.Lib.Footprint
import SpcNvme.Lib.Independence
import SpcNvme.Lib.BlockPool
import SpcNvme.Lib.Ending
import SpcNvme.Nvme
import SpcNvme.Srb
import SpcNvme.SrbExt
import SpcNvme.CmdHistory
import SpcNvme.Queue
import SpcNvme.System
import SpcNvme.Prp
import SpcNvme.CmdBuilder
import SpcNvme.Device
import SpcNvme.Scsi
import SpcNvme.Ioctl
import SpcNvme.Miniport
import SpcNvme.Adapter
import SpcNvme.Config
import SpcNvme.Namespaces
import SpcNvme.Registers
import SpcNvme.Lifecycle
import SpcNvme.ModePages
import SpcNvme.PortConfig
import SpcNvme.Allocation
import SpcNvme.IoctlAccess
import SpcNvme.ReplyWrites
import SpcNvme.ReplyBytes
import SpcNvme.QueueBuffer
import SpcNvme.Doorbells
import SpcNvme.Restart
import SpcNvme.ModeSense
import SpcNvme.Transfers
import SpcNvme.Storage
import SpcNvme.SharedQueue
import SpcNvme.SharedSystem
import SpcNvme.Interrupts
import SpcNvme.Owners
import SpcNvme.Pool
import SpcNvme.Staged
import SpcNvme.Proofs.Steps
import SpcNvme.Proofs.Transition
import SpcNvme.Proofs.Layout
import SpcNvme.Proofs.Accounting
import SpcNvme.Proofs.Flow
import SpcNvme.Proofs.Delivery
import SpcNvme.Proofs.Ownership
import SpcNvme.Proofs.Throttle
import SpcNvme.Proofs.Completion
import SpcNvme.Proofs.Answers
import SpcNvme.Proofs.ExactlyOnce
import SpcNvme.Proofs.Status
import SpcNvme.Proofs.Host
import SpcNvme.Proofs.Transfer
import SpcNvme.Proofs.Buffers
import SpcNvme.Proofs.Outstanding
import SpcNvme.Proofs.Notification
import SpcNvme.Proofs.Depths
import SpcNvme.Proofs.NamespaceMap
import SpcNvme.Proofs.ControllerState
import SpcNvme.Proofs.Removal
import SpcNvme.Proofs.Registration
import SpcNvme.Proofs.Serving
import SpcNvme.Proofs.Entries
import SpcNvme.Proofs.Tags
import SpcNvme.Proofs.Ledger
import SpcNvme.Proofs.Interleaving
import SpcNvme.Proofs.Balance
import SpcNvme.Proofs.Handover
import SpcNvme.Proofs.Uninterrupted
import SpcNvme.Proofs.ModeSelect
import SpcNvme.Proofs.CacheModes
import SpcNvme.Proofs.NamespaceEntries
import SpcNvme.Proofs.PrpList
import SpcNvme.Proofs.PrpWalk
import SpcNvme.Proofs.QueueCount
import SpcNvme.Proofs.Ranges
import SpcNvme.Proofs.IoctlAccess
import SpcNvme.Proofs.Allocation
import SpcNvme.Proofs.ReplyWrites
import SpcNvme.Proofs.ReadWriteCdb
import SpcNvme.Proofs.PrpEntries
import SpcNvme.Proofs.Capacity
import SpcNvme.Proofs.VpdPages
import SpcNvme.Proofs.QueueBuffer
import SpcNvme.Proofs.FastForward
import SpcNvme.Proofs.QueueArray
import SpcNvme.Proofs.RegistrationResult
import SpcNvme.Proofs.Doorbells
import SpcNvme.Proofs.Restart
import SpcNvme.Proofs.ModeSense
import SpcNvme.Proofs.StartIo
import SpcNvme.Proofs.Projection
import SpcNvme.Proofs.QueuePairs
import SpcNvme.Proofs.Frame
import SpcNvme.Proofs.Provenance
import SpcNvme.Proofs.Dma
import SpcNvme.Proofs.BlockDevice
import SpcNvme.Proofs.DataPath
import SpcNvme.Proofs.Reported
import SpcNvme.Proofs.Retention
import SpcNvme.Proofs.Progress
import SpcNvme.Proofs.Finishing
import SpcNvme.Proofs.Linearization
import SpcNvme.Proofs.Concurrent
import SpcNvme.Proofs.Interrupts
import SpcNvme.Proofs.QueueUsers
import SpcNvme.Proofs.Independence
import SpcNvme.Proofs.BusReset
import SpcNvme.Proofs.CleanRemoval
import SpcNvme.Proofs.Staged
import SpcNvme.Proofs.NotifiedOnce
import SpcNvme.Proofs.StagedLedger
