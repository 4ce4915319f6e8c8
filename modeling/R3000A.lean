import R3000A.Bus.Device
import R3000A.Bus.Recorder
import R3000A.Machine
import R3000A.Main
import R3000A.Proofs.SystemControl.Entry
import R3000A.Proofs.Core.Transition
import R3000A.Proofs.System.Access
import R3000A.Proofs.Interrupt.Waiting
import R3000A.Proofs.Snapshot.RoundTrip
import R3000A.Proofs.Machine.Reachable
import R3000A.Proofs.Instruction.Fault
import R3000A.Proofs.Processor.Entered
import R3000A.Proofs.System.Outcome
import R3000A.Proofs.Exception.Precise
import R3000A.Proofs.Hazard.LoadDelay
import R3000A.Proofs.Hazard.BranchDelay
import R3000A.Proofs.Interrupt.Restart
import R3000A.Proofs.Slice.Invisible
import R3000A.Proofs.System.Calls
import R3000A.Proofs.Word.Half
import R3000A.Proofs.Geometry.Visible
import R3000A.Proofs.Geometry.Commands
import R3000A.Proofs.Core.Alike
import R3000A.Proofs.System.Alike
import R3000A.Proofs.Machine.Accessor
import R3000A.Proofs.Snapshot.Loading
import R3000A.Proofs.Snapshot.Resume
import R3000A.Proofs.Core.Handler
import R3000A.Proofs.Processor.Interruption
import R3000A.Proofs.Privilege.Confinement
import R3000A.Proofs.Privilege.Fetch
import R3000A.Proofs.Geometry.Unseen
import R3000A.Proofs.Geometry.Triple
import R3000A.Proofs.Slice.Invariant
import R3000A.Proofs.Machine.WellFormed
import R3000A.Proofs.SystemControl.Fixed
import R3000A.Proofs.Interrupt.Lines
import R3000A.Proofs.System.Discipline
import R3000A.Proofs.System.Isolated
import R3000A.Proofs.Geometry.Written
import R3000A.Proofs.Word.Signed
import R3000A.Proofs.Geometry.Result
import R3000A.Proofs.Geometry.Perspective
import R3000A.Proofs.Geometry.Product
import R3000A.Proofs.Geometry.Stages
import R3000A.Proofs.Geometry.Winding
import R3000A.Proofs.Geometry.Saturated
import R3000A.Proofs.Geometry.Repetition
import R3000A.Proofs.Slice.Uncut
import R3000A.Proofs.Ram.Byte
import R3000A.Proofs.Run.Slicing
import R3000A.Proofs.Checked.Arithmetic
import R3000A.Proofs.Checked.Geometry
import R3000A.Proofs.Checked.Lighting
import R3000A.Proofs.Checked.Command
import R3000A.Proofs.Checked.Instruction
import R3000A.Proofs.Checked.Slice
import R3000A.Proofs.Ram.Flat
import R3000A.Proofs.System.Issued
import R3000A.Proofs.Ram.Access
import R3000A.Proofs.Ram.ByteOrder
import R3000A.Proofs.Ram.Unaligned
import R3000A.Proofs.SystemControl.Nesting
import R3000A.Proofs.Instruction.Arithmetic
import R3000A.Proofs.System.Arithmetic
import R3000A.Proofs.Interrupt.Latch
import R3000A.Proofs.Interrupt.Delivery
import R3000A.Proofs.Geometry.View
import R3000A.Proofs.Machine.RegisterWrite
import R3000A.Proofs.Text.Numeral
import R3000A.Proofs.Text.Address
import R3000A.Proofs.Ini.Lookup
import R3000A.Proofs.Config.Key
import R3000A.Proofs.Config.Resolution
