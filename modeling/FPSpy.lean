import FPSpy.Lib.Run
import FPSpy.Lib.Outputs
import FPSpy.Lib.Search
import FPSpy.Lib.Pick
import FPSpy.Lib.Bits
import FPSpy.Lib.Fields
import FPSpy.Lib.Lcg
import FPSpy.Lib.Bytes
import FPSpy.Lib.Memory
import FPSpy.Lib.Stack
import FPSpy.Lib.Slots
import FPSpy.Lib.SlotMap
import FPSpy.Lib.Journal
import FPSpy.Lib.Fatal
import FPSpy.Lib.CString
import FPSpy.Trace.Record
import FPSpy.Trace.Encoding
import FPSpy.Trace.Reader
import FPSpy.Trace.Writer
import FPSpy.Trace.Torn
import FPSpy.Trace.Decoders
import FPSpy.Trace.Rate
import FPSpy.Machine.Arch
import FPSpy.Machine.Breakpoint
import FPSpy.Machine.X64
import FPSpy.Machine.Cpu
import FPSpy.Machine.Arm64
import FPSpy.Machine.Riscv64
import FPSpy.Machine.NextInstruction
import FPSpy.Machine.Platform
import FPSpy.Machine.Masking
import FPSpy.Machine.Rounding
import FPSpy.Machine.RoundField
import FPSpy.Machine.ConfigFields
import FPSpy.Machine.Status
import FPSpy.Monitor.Context
import FPSpy.Monitor.Sampler
import FPSpy.Monitor.Generator
import FPSpy.Monitor.Handlers
import FPSpy.Monitor.Abort
import FPSpy.Monitor.Effects
import FPSpy.Monitor.Shims
import FPSpy.Monitor.Timer
import FPSpy.Monitor.Bringup
import FPSpy.Monitor.Table
import FPSpy.Monitor.ContextMap
import FPSpy.Monitor.Exceptions
import FPSpy.Monitor.Enables
import FPSpy.Monitor.Rounding
import FPSpy.Monitor.ContextLock
import FPSpy.Monitor.Exclusion
import FPSpy.Monitor.Deadlock
import FPSpy.Monitor.Originals
import FPSpy.Monitor.Numbers
import FPSpy.Monitor.Trampoline
import FPSpy.Aggregate.Fenv
import FPSpy.Aggregate.Calls
import FPSpy.Aggregate.Report
import FPSpy.Aggregate.Threads
import FPSpy.Individual.Target
import FPSpy.Individual.Thread
import FPSpy.Individual.Transparency
import FPSpy.Individual.MaxCount
import FPSpy.Individual.Process
import FPSpy.Individual.AbortSafety
import FPSpy.Individual.Patching
import FPSpy.Individual.Stepping
import FPSpy.Individual.SharedCode
import FPSpy.Individual.Lifetime
import FPSpy.Individual.Supervision
import FPSpy.Individual.TraceFiles
import FPSpy.Individual.Completeness
import FPSpy.Individual.Delivery
import FPSpy.Individual.Kicks
import FPSpy.Individual.Coherence
import FPSpy.Individual.Retirement
import FPSpy.Individual.ForcedRounding
import FPSpy.Individual.OriginalRounding
import FPSpy.Individual.Upkeep
import FPSpy.Individual.Restoration
import FPSpy.Individual.InertRounding
import FPSpy.Individual.WordRestored
import FPSpy.Individual.EventCodes
import FPSpy.Individual.EstepProgress
import FPSpy.Individual.Occupancy
import FPSpy.Individual.SharedSignal
import FPSpy.Individual.Wakeups
import FPSpy.Individual.StartKicks
import FPSpy.Individual.FileNames
import FPSpy.Trace.FileBuffers
import FPSpy.Individual.Confined
import FPSpy.Individual.Pointers
import FPSpy.Individual.Sampling
import FPSpy.Kernel.HandlerList
import FPSpy.Kernel.ShortCircuit
import FPSpy.Kernel.Gate
import FPSpy.Kernel.Startup
import FPSpy.Kernel.TrapEntry
import FPSpy.Individual.Watching
import FPSpy.Individual.EventLog
import FPSpy.Machine.Unmasked
import FPSpy.Individual.ManyThreads
import FPSpy.Individual.ShortCodes
import FPSpy.Lib.Columns
import FPSpy.Trace.Histogram
import FPSpy.Individual.ReadBack
import FPSpy.Lib.LetterCase
import FPSpy.Monitor.Configuration
import FPSpy.Monitor.Requests
import FPSpy.Monitor.Inheritance
import FPSpy.Individual.FirstEvent
import FPSpy.Lib.LineBuffer
import FPSpy.Monitor.ExecRegions
import FPSpy.Monitor.Overlap
