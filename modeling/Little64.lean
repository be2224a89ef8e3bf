import Little64.Library.LittleEndian
import Little64.Library.ByteMemory
import Little64.Library.BitFields
import Little64.Library.RadixWalk
import Little64.Library.Runs
import Little64.Emulator.TlbCoherence
import Little64.Emulator.PageCrossing
import Little64.Emulator.DataFaults
import Little64.Emulator.Isolation
import Little64.Emulator.TrapNesting
import Little64.Emulator.Confinement
import Little64.Emulator.IrqDelivery
import Little64.Hdl.FrontendCoherence
import Little64.Hdl.WalkEquivalence
import Little64.Hdl.Reservation
import Little64.Hdl.FlagForwarding
import Little64.Hdl.OperandForwarding
import Little64.Hdl.PcLoads
import Little64.Hdl.BranchPrediction
import Little64.Hdl.FetchFaults
import Little64.Hdl.StepEquivalence
import Little64.Hdl.IrqLatch
import Little64.Hdl.TlbHits
import Little64.Hdl.BridgeRequests
import Little64.Linker.PcRelative
import Little64.Linker.SymbolResolution
import Little64.Linker.Containment
import Little64.Emulator.LoadContainment
import Little64.Emulator.RegionCache
import Little64.Emulator.PageTableBuilder
import Little64.Emulator.TraceRoundTrip
import Little64.Emulator.DeviceTermination
import Little64.Emulator.TrapReturn
import Little64.Emulator.FetchFaults
import Little64.Emulator.Breakpoints
import Little64.Emulator.LockupCheck
import Little64.Hdl.AluEquivalence
import Little64.Hdl.LsuExactness
import Little64.Emulator.LoadAtomicity
import Little64.Emulator.TimerAccounts
import Little64.Boot.Fat32Geometry
import Little64.Boot.Crc32Updates
import Little64.Hdl.LineCacheCoherence
import Little64.Emulator.DiskStore
import Little64.Emulator.BootSource
import Little64.Emulator.DebugPackets
import Little64.Emulator.TraceFollowing
import Little64.Boot.FlashBoot
import Little64.Boot.Fat32ChainSafety
import Little64.Boot.SoftwareMultiply
import Little64.Hdl.RegisterConfinement
import Little64.Boot.FlatteningAgreement
import Little64.Boot.CompilerRt
import Little64.Boot.SpiReads
import Little64.Boot.Stage0Boots
import Little64.Boot.CardUpdates
import Little64.Hdl.BasicPrograms
