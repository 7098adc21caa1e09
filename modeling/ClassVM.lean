import ClassVM.ClassFile.Basic
import ClassVM.ClassFile.Format
import ClassVM.ClassFile.ReadError
import ClassVM.ClassFile.ReadEvent
import ClassVM.ClassFile.Reader
import ClassVM.Code.Decode
import ClassVM.Code.Instruction
import ClassVM.Code.MethodCode
import ClassVM.Code.Opcode
import ClassVM.CommandLine.Help
import ClassVM.CommandLine.Listing
import ClassVM.CommandLine.Options
import ClassVM.CommandLine.Plan
import ClassVM.Cursor
import ClassVM.Descriptor
import ClassVM.Files.Path
import ClassVM.Files.Tree
import ClassVM.Log.Journal
import ClassVM.Log.Record
import ClassVM.Log.Traced
import ClassVM.Machine.Action
import ClassVM.Machine.Event
import ClassVM.Machine.Execution
import ClassVM.Machine.Fault
import ClassVM.Machine.Fuel
import ClassVM.Machine.Locals
import ClassVM.Machine.OperandStack
import ClassVM.Machine.Session
import ClassVM.Machine.Sink
import ClassVM.Machine.Step
import ClassVM.Main
import ClassVM.Pool.Basic
import ClassVM.Pool.Lookup
import ClassVM.Proofs.ByteMachine
import ClassVM.Proofs.CodeLayout
import ClassVM.Proofs.CursorReads
import ClassVM.Proofs.DepthLimit
import ClassVM.Proofs.Evolution
import ClassVM.Proofs.FormatExactness
import ClassVM.Proofs.History
import ClassVM.Proofs.Outcomes
import ClassVM.Proofs.PoolLookup
import ClassVM.Proofs.Recognition
import ClassVM.Proofs.Simulation
import ClassVM.Proofs.Stepping
import ClassVM.Proofs.WrittenForm
import ClassVM.Run
import ClassVM.Text.BreakClass
import ClassVM.Text.Cluster
import ClassVM.Text.CodeRange
import ClassVM.Text.GraphemeExtend
import ClassVM.Text.Ignorable
import ClassVM.Text.Layout
import ClassVM.Text.Likeness
import ClassVM.Text.Printable
import ClassVM.Text.Quoted
import ClassVM.Text.Utf8
import ClassVM.Value
import ClassVM.Proofs.FaultOrigins
import ClassVM.Proofs.Provenance
import ClassVM.Proofs.ProgramCounter
import ClassVM.Proofs.Encodings
import ClassVM.Proofs.MissingEntries
import ClassVM.Proofs.SelfDelimiting
import ClassVM.Proofs.Conduct
import ClassVM.Proofs.RoomierFrames
import ClassVM.Proofs.LargerClass
import ClassVM.Proofs.FullSink
import ClassVM.Proofs.CallBrackets
import ClassVM.Proofs.AddressRanges
import ClassVM.Proofs.BranchResolution
import ClassVM.Proofs.Expressions
import ClassVM.Proofs.PlainClusters
import ClassVM.Proofs.DescriptorGrammar
import ClassVM.Proofs.BoundedRuns
import ClassVM.Proofs.LoadedCode
import ClassVM.Proofs.StaticCalls
import ClassVM.Proofs.BrokenHops
import ClassVM.Proofs.VoidTypes
import ClassVM.Proofs.JoinedCode
import ClassVM.Proofs.ReadListings
import ClassVM.Proofs.CursorBounds
import ClassVM.Proofs.SlotAccess
import ClassVM.Proofs.SlotHistory
import ClassVM.Proofs.RepeatedPops
