import ChipEight.CallStack
import ChipEight.Command
import ChipEight.CommandLine.Basic
import ChipEight.CommandLine.Parse
import ChipEight.CommandLine.Word
import ChipEight.Decimal.Layout
import ChipEight.Decimal.Shortest
import ChipEight.Display
import ChipEight.Fault
import ChipEight.Font
import ChipEight.HostEvent
import ChipEight.Instruction.Assembly
import ChipEight.Instruction.Basic
import ChipEight.Instruction.Decode
import ChipEight.Keypad
import ChipEight.Machine.Basic
import ChipEight.Machine.Cycle
import ChipEight.Machine.Dump
import ChipEight.Machine.Execute
import ChipEight.Machine.Frame
import ChipEight.Machine.Trace
import ChipEight.Main
import ChipEight.Memory
import ChipEight.Random.Source
import ChipEight.Random.Twister
import ChipEight.Session.Basic
import ChipEight.Session.Storage
import ChipEight.Session.Surface
import ChipEight.Session.Terminal
import ChipEight.Session.Window
import ChipEight.Switch
import ChipEight.Text.Blank
import ChipEight.Text.Digit
import ChipEight.Text.Hex
import ChipEight.Text.Numeral
import ChipEight.Text.Printable
import ChipEight.Text.Quoted
import ChipEight.Text.Ranges
import ChipEight.Value
import ChipEight.Proofs.Command
import ChipEight.Proofs.Display
import ChipEight.Proofs.HostEvent
import ChipEight.Proofs.Instruction.Decode
import ChipEight.Proofs.Instruction.Pattern
import ChipEight.Proofs.Machine.Call
import ChipEight.Proofs.Machine.Cycle
import ChipEight.Proofs.Machine.Drive
import ChipEight.Proofs.Machine.Footprint
import ChipEight.Proofs.Machine.Refused
import ChipEight.Proofs.Machine.Run
import ChipEight.Proofs.Machine.Unknown
import ChipEight.Proofs.Machine.WellFormed
import ChipEight.Proofs.Memory
import ChipEight.Proofs.Refusal
import ChipEight.Proofs.Session.Shown
import ChipEight.Proofs.Session.Stage
import ChipEight.Proofs.Session.Surface
import ChipEight.Proofs.Session.Window
import ChipEight.Proofs.Machine.Bus
import ChipEight.Proofs.CommandLine.Parse
import ChipEight.Proofs.Machine.Course
import ChipEight.Proofs.Machine.Load
import ChipEight.Proofs.Session.Script
import ChipEight.Proofs.Session.Exit
import ChipEight.Proofs.Text.Digits
import ChipEight.Proofs.Instruction.Assembly
import ChipEight.Proofs.Machine.Trace
import ChipEight.Proofs.Machine.Straight
import ChipEight.Proofs.Session.Crash
import ChipEight.Proofs.Strokes
import ChipEight.Proofs.Machine.Randomness
import ChipEight.Proofs.Machine.Sprite
import ChipEight.Proofs.Machine.Arithmetic
import ChipEight.Proofs.Machine.Block
import ChipEight.Proofs.Machine.Effect
import ChipEight.Proofs.Machine.Flow
import ChipEight.Proofs.Machine.Frame
import ChipEight.Proofs.Machine.Rewiring
import ChipEight.Proofs.Machine.Exchange
import ChipEight.Proofs.Machine.Wait
import ChipEight.Proofs.Session.Render
import ChipEight.Proofs.Calls
import ChipEight.Proofs.Text.Listing
import ChipEight.Proofs.CallStack
import ChipEight.Proofs.Keypad
import ChipEight.Proofs.Text.Numeral
import ChipEight.Proofs.CommandLine.Argument
import ChipEight.Proofs.Machine.Dump
import ChipEight.Proofs.Switch
