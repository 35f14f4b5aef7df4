import ChipPower.Activity.Basic

/-!
The network on the chip: a mesh whose links are accounted for, a mesh of which
only the packets are counted, or a bus. Which of them it is shows in the
statistics that are there.
-/

namespace ChipPower

namespace Network

/-- The directions of the links of a mesh. -/
def directions : List String := ["up", "down", "left", "right"]

/-- The statistic of the links in a direction. -/
def linkStat (direction figure : String) : String :=
  "network.shmem-1.mesh.link-" ++ direction ++ "." ++ figure

/-- The statistic that shows that requests over links are counted. -/
def countedLinks : String := linkStat "in" "num-requests"

/-- The statistic of the packets of a mesh. -/
def packets : String := "network.shmem-1.mesh.packets-in"

variable {α : Type} [Scalar α]

/-- One for a mesh and zero for a bus. -/
def kind (stats : Stats α) : α :=
  if stats.contains countedLinks || stats.contains packets then 1.0 else 0.0

/-! ## Accesses -/

/-- The requests over the links of a direction. -/
def linkRequests (stats : Stats α) (direction : String) : Except Failure α := do
  return (← stats.require (linkStat direction "num-requests")).sum

/-- The statistic of the requests to a bus. -/
def busRequests (stats : Stats α) : String :=
  if stats.contains "network.shmem-1.bus.num-requests" then "network.shmem-1.bus.num-requests"
  else if stats.contains "network.shmem-1.bus.num-packets" then "network.shmem-1.bus.num-packets"
  else "bus.num-requests"

/-- The number of accesses to the network. -/
def accesses (stats : Stats α) : Except Failure α :=
  if stats.contains countedLinks then
    return Scalar.sum (← directions.mapM (linkRequests stats))
  else if stats.contains packets then
    return (← stats.require packets).sum
  else
    return Scalar.trunc (← stats.element (busRequests stats) 0)

/-! ## Duty cycle -/

/-- The time that the links of a direction were used, and how many of them saw
any traffic. -/
def linkUse (stats : Stats α) (direction : String) : Except Failure (α × Nat) := do
  let time := (← stats.require (linkStat direction "total-time-used")).sum
  let requests ← stats.list (linkStat direction "num-requests")
  return (time, (requests.filter fun n => Scalar.less 0.0 n).length)

/-- The mean time that a link was used, over the elapsed time. Links at the rim
of a mesh do not exist, so only those count that saw traffic. -/
def linkDutyCycle (stats : Stats α) : Except Failure α := do
  let uses ← directions.mapM (linkUse stats)
  let time := (uses.map (·.1)).foldl (· + ·) 0.0
  let links := (uses.map (·.2)).foldl (· + ·) 0
  let elapsed ← stats.element "performance_model.elapsed_time_end" 0
  let elapsed := if Scalar.isZero elapsed then 1.0 else elapsed
  return time / Scalar.ofNat (max links 1) / elapsed

/-- The time that a bus was used. -/
def busTime (stats : Stats α) : Except Failure α :=
  if stats.contains "network.shmem-1.bus.time-used" then
    stats.element "network.shmem-1.bus.time-used" 0
  else stats.element "bus.time-used" 0

/-- The duty cycle of a bus, in cycles of the last core. -/
def busDutyCycle (a : Activity α) : Except Failure α := do
  let time ← busTime a.stats
  match a.cores.getLast? with
  | none => fail .noCores
  | some core => return a.dutyCycle (core.cyclesScale * time)

/-- The duty cycle of the network. -/
def dutyCycle (a : Activity α) : Except Failure α :=
  if a.stats.contains (linkStat "left" "total-time-used") then linkDutyCycle a.stats
  else if a.stats.contains packets then return 0.5
  else busDutyCycle a

end Network

end ChipPower
