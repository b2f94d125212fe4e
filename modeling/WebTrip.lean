import WebTrip.Main
import WebTrip.Tab
import WebTrip.Trip.Replay
import WebTrip.Trip.Session
import WebTrip.Proofs.Schema.Conformance
import WebTrip.Proofs.Schema.FirstMismatch
import WebTrip.Proofs.Program.Branches
import WebTrip.Proofs.Schema.Idempotence
import WebTrip.Proofs.Instruction.RoundTrip
import WebTrip.Proofs.Schema.NumericStrings
import WebTrip.Proofs.Trip.Queries
import WebTrip.Proofs.Connection.Interleaving
import WebTrip.Proofs.Connection.LifeCycle
import WebTrip.Proofs.Program.ReadBack
import WebTrip.Proofs.Program.Hoisting
import WebTrip.Proofs.Schema.Undeclared
import WebTrip.Proofs.Schema.Loosening
import WebTrip.Proofs.Instruction.Spellings
import WebTrip.Proofs.Program.Placements
import WebTrip.Proofs.Schema.WholeStrings
import WebTrip.Proofs.Connection.NumericCells
import WebTrip.Proofs.Schema.NumberCasts
import WebTrip.Proofs.Schema.Paths
import WebTrip.Proofs.Schema.Wrappers
import WebTrip.Proofs.Schema.Expectations
import WebTrip.Proofs.Schema.Reordering
import WebTrip.Proofs.Command.Names
import WebTrip.Proofs.Command.Execution
import WebTrip.Proofs.Connection.Resolution
import WebTrip.Proofs.Connection.Rows
import WebTrip.Proofs.Trip.Shapes
