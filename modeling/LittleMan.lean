import LittleMan.Channel
import LittleMan.Channel.Bench
import LittleMan.Channel.Keys
import LittleMan.Channel.Log
import LittleMan.Channel.Queue
import LittleMan.Channel.Streams
import LittleMan.Command.Environment
import LittleMan.Command.Line
import LittleMan.Command.Perform
import LittleMan.Console
import LittleMan.Cycle
import LittleMan.Fault
import LittleMan.Files
import LittleMan.Inspect
import LittleMan.Instruction
import LittleMan.Machine
import LittleMan.Main
import LittleMan.Memory
import LittleMan.Program.File
import LittleMan.Program.Line
import LittleMan.Program.Load
import LittleMan.Proofs.AbreastRuns
import LittleMan.Proofs.Atomicity
import LittleMan.Proofs.CallLog
import LittleMan.Proofs.ChannelAgreement
import LittleMan.Proofs.CheckedPrograms
import LittleMan.Proofs.CodeLines
import LittleMan.Proofs.CommandLines
import LittleMan.Proofs.CompletedCycles
import LittleMan.Proofs.CycleBudget
import LittleMan.Proofs.CycleFaults
import LittleMan.Proofs.CycleFrame
import LittleMan.Proofs.Decoration
import LittleMan.Proofs.Encoding
import LittleMan.Proofs.EscapeSequences
import LittleMan.Proofs.Exchange
import LittleMan.Proofs.ExecutedInstructions
import LittleMan.Proofs.FlagHistory
import LittleMan.Proofs.GuardedOperations
import LittleMan.Proofs.Halting
import LittleMan.Proofs.HighCells
import LittleMan.Proofs.Histories
import LittleMan.Proofs.InputElements
import LittleMan.Proofs.InputLines
import LittleMan.Proofs.InstructionTable
import LittleMan.Proofs.Invariant
import LittleMan.Proofs.JoinedTexts
import LittleMan.Proofs.LayoutEdits
import LittleMan.Proofs.LineEnds
import LittleMan.Proofs.LineShapes
import LittleMan.Proofs.LineStarts
import LittleMan.Proofs.Literals
import LittleMan.Proofs.LoadFailure
import LittleMan.Proofs.Loading
import LittleMan.Proofs.MaximalRuns
import LittleMan.Proofs.MemoryImages
import LittleMan.Proofs.MemoryTables
import LittleMan.Proofs.MinimalRuns
import LittleMan.Proofs.NumberReports
import LittleMan.Proofs.OperandCells
import LittleMan.Proofs.PipedRuns
import LittleMan.Proofs.Preemption
import LittleMan.Proofs.ProgramLines
import LittleMan.Proofs.ProgramListing
import LittleMan.Proofs.ProgramPrefix
import LittleMan.Proofs.Prompts
import LittleMan.Proofs.RegisterSelection
import LittleMan.Proofs.ReportTexts
import LittleMan.Proofs.ReportedPlaces
import LittleMan.Proofs.Resumption
import LittleMan.Proofs.RunEnds
import LittleMan.Proofs.RunRequests
import LittleMan.Proofs.SelectionHistory
import LittleMan.Proofs.Settings
import LittleMan.Proofs.SettledStreams
import LittleMan.Proofs.Shorthand
import LittleMan.Proofs.ShownTexts
import LittleMan.Proofs.SignedSums
import LittleMan.Proofs.Starvation
import LittleMan.Proofs.StoredCells
import LittleMan.Proofs.TerminalRuns
import LittleMan.Proofs.TokenSlots
import LittleMan.Proofs.TraceJournal
import LittleMan.Proofs.TraceLines
import LittleMan.Proofs.TraceSwitch
import LittleMan.Proofs.TypedLines
import LittleMan.Proofs.UnreadInput
import LittleMan.Proofs.Words
import LittleMan.Report
import LittleMan.Run
import LittleMan.Source
import LittleMan.Text.Blank
import LittleMan.Text.Extender
import LittleMan.Text.Layout
import LittleMan.Text.Numeral
import LittleMan.Text.Printable
import LittleMan.Text.Property
import LittleMan.Text.Quoted
import LittleMan.Text.Runs
import LittleMan.Text.Style
import LittleMan.Text.Width
import LittleMan.Trace
import LittleMan.Word
