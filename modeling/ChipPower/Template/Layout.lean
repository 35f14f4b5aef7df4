import ChipPower.Template.Layout.Bank
import ChipPower.Template.Layout.Core
import ChipPower.Template.Layout.System

/-!
The built-in layout of the estimator input for a cache hierarchy: the system,
its cores, L2 banks and L3 banks in the order of their numbers, the network and
the controllers.
-/

namespace ChipPower.Template

namespace Layout

/-- The scope that the network's clock and voltage are taken for: the last part
laid out before it, which is an L3 bank, an L2 bank or a core. -/
def networkScope (h : Hierarchy) : Scope :=
  .unit (if 0 < h.l3Banks then h.l3Banks - 1
    else if 0 < h.l2Banks then h.l2Banks - 1
    else h.cores - 1)

/-- The lines of units that are numbered from zero. -/
def units (lines : List Line) (count : Nat) : Template :=
  (List.range count).flatMap (unitEntries lines)

end Layout

open Layout

/-- The layout for a cache hierarchy. -/
def ofHierarchy (h : Hierarchy) : Template :=
  systemEntries (head h) ++ units core h.cores ++ units l2Bank h.l2Banks ++
    units l3Bank h.l3Banks ++ systemEntries (divider ++ networkHead) ++
    networkDomain.map (Line.entry (networkScope h) 0) ++
    systemEntries (network ++ memoryController ++ networkInterface ++ pcie ++ flash ++ foot)

end ChipPower.Template
