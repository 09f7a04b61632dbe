import ManagementUnit.Location
import ManagementUnit.Proofs.Binary32
import ManagementUnit.Proofs.Detection.Excerpt
import ManagementUnit.Proofs.Detection.Log
import ManagementUnit.Proofs.Detection.Verdict
import ManagementUnit.Proofs.Dialogue.Lines
import ManagementUnit.Proofs.Error.Message
import ManagementUnit.Proofs.Location
import ManagementUnit.Proofs.PowerTable.Pattern
import ManagementUnit.Proofs.PowerTable.Snapshot
import ManagementUnit.Proofs.Session.FailFast
import ManagementUnit.Proofs.Session.Independence
import ManagementUnit.Proofs.Session.Itinerary
import ManagementUnit.Proofs.Session.Log
import ManagementUnit.Proofs.Session.Outcome
import ManagementUnit.Proofs.Session.Reconnection
import ManagementUnit.Proofs.Session.TableReads
import ManagementUnit.Proofs.Simulation.Commands
import ManagementUnit.Proofs.Simulation.Memory
import ManagementUnit.Proofs.Simulation.Opcodes
import ManagementUnit.Proofs.Simulation.Recorder
import ManagementUnit.Proofs.Version.Order
import ManagementUnit.Proofs.Version.Text
import ManagementUnit.Proofs.Wire
import ManagementUnit.Proofs.Workbench
import ManagementUnit.Simulation.Directory
import ManagementUnit.Simulation.Recorder
import ManagementUnit.Simulation.World
