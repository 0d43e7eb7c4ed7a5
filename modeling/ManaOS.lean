import ManaOS.Console.State
import ManaOS.Display.Line
import ManaOS.Elf.Placement
import ManaOS.Filesystem.Paths
import ManaOS.Input.Mouse
import ManaOS.Machine.Sleep
import ManaOS.Machine.Waiting
import ManaOS.Memory.HeapRuns
import ManaOS.Memory.InitialStack
import ManaOS.Memory.MappingPlacement
import ManaOS.Memory.ReservedTable
import ManaOS.Storage.BackupBootSector
import ManaOS.Storage.Checksums
import ManaOS.Storage.PartitionArray
import ManaOS.Storage.Transfers
import ManaOS.Sync.RingBuffer
import ManaOS.Syscall.EntryVectors
import ManaOS.Syscall.Getdents
import ManaOS.Syscall.MmapContents
import ManaOS.Syscall.WaitStatus
import ManaOS.Task.StackRanges
