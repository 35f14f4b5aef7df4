import ChipPower.Activity.Overview
import ChipPower.Main
import ChipPower.Proofs.Activity.Cycles
import ChipPower.Proofs.Activity.Geometry
import ChipPower.Proofs.Activity.Isolation
import ChipPower.Proofs.Activity.Signs
import ChipPower.Proofs.Config.Layering
import ChipPower.Proofs.Config.Lookups
import ChipPower.Proofs.Config.Spelling
import ChipPower.Proofs.Config.Written
import ChipPower.Proofs.Hierarchy.BankSettings
import ChipPower.Proofs.Hierarchy.Slices
import ChipPower.Proofs.Hierarchy.Topology
import ChipPower.Proofs.Memory.ClosedForm
import ChipPower.Proofs.Memory.Sockets
import ChipPower.Proofs.Memory.Traffic
import ChipPower.Proofs.Merge.Markers
import ChipPower.Proofs.Merge.Stopping
import ChipPower.Proofs.Nuca.Accesses
import ChipPower.Proofs.Nuca.InBank
import ChipPower.Proofs.Nuca.Settings
import ChipPower.Proofs.Numeric.Scaling
import ChipPower.Proofs.Report.Components
import ChipPower.Proofs.Report.Metrics
import ChipPower.Proofs.Report.Relabeling
import ChipPower.Proofs.Run.Failures
import ChipPower.Proofs.Stack.Collapsing
import ChipPower.Proofs.Stack.Conservation
import ChipPower.Proofs.Stack.Labels
import ChipPower.Proofs.Stack.Lenses
import ChipPower.Proofs.Stats.Sums
import ChipPower.Proofs.Template.Names
import ChipPower.Proofs.Template.Nesting
import ChipPower.Proofs.Template.Placeholders
import ChipPower.Proofs.Template.Privacy
import ChipPower.Stored.Options
