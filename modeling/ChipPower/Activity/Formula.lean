import ChipPower.Activity.Network

/-!
Formulas: how a statistic of the estimator input is computed from the activity
of a run. A formula is data, so its properties can be read off its shape, and it
has one evaluation, in which the leftmost part that has no value decides the
failure.
-/

namespace ChipPower

/-- A counter of a core. -/
inductive Counter
  | instructions
  | cycles
  | idleCycles
  | fpInstructions
  | fpMulDiv
  | branchInstructions
  | intAccesses
  deriving DecidableEq, Repr

/-- The value of a counter. -/
def CoreCounters.get {α : Type} (counters : CoreCounters α) : Counter → α
  | .instructions => counters.instructions
  | .cycles => counters.cycles
  | .idleCycles => counters.idleCycles
  | .fpInstructions => counters.fpInstructions
  | .fpMulDiv => counters.fpMulDiv
  | .branchInstructions => counters.branchInstructions
  | .intAccesses => counters.intAccesses

/-- What is known about the network. -/
inductive NetworkFigure
  | kind
  | accesses
  | dutyCycle
  deriving DecidableEq, Repr

/-- A formula. -/
inductive Formula
  /-- A decimal literal: a mantissa, whether the power of ten is negative, and
  the power of ten. -/
  | number (mantissa : Nat) (negative : Bool) (exponent : Nat)
  /-- A counter of the core. -/
  | counter (c : Counter)
  /-- The highest cycle count of all cores. -/
  | maxCycles
  /-- The core's element of a statistic. -/
  | element (name : String)
  /-- The core's element of a statistic, or zero without the statistic. -/
  | elementOrZero (name : String)
  /-- The first element of a statistic of the whole system. -/
  | first (name : String)
  /-- The sum of the sharing cores' elements of a statistic. -/
  | sum (sharing : Sharing) (name : String)
  /-- The sum of the sharing cores' elements of a statistic, or zero without the
  statistic. -/
  | sumOrZero (sharing : Sharing) (name : String)
  /-- A value without its fraction. -/
  | trunc (f : Formula)
  | add (f g : Formula)
  | sub (f g : Formula)
  | mul (f g : Formula)
  /-- A value over the highest cycle count, at most 1. -/
  | dutyCycle (f : Formula)
  /-- A value, to which another is added if implicit accesses count. -/
  | withImplicit (f extra : Formula)
  /-- A value, or zero without a statistic. -/
  | ifPresent (name : String) (f : Formula)
  /-- A value for each way to lay out operands in banks. -/
  | byPolicy (allWays moreSets : Formula)
  /-- A value if the in-bank fraction is set, and one if it is not. -/
  | byFraction (fraction counted : Formula)
  /-- A value times the in-bank fraction, if that is set. -/
  | timesFraction (f : Formula)
  /-- The share of the integer units' issue slots that instructions take, at
  most 1. -/
  | aluDutyCycle
  /-- A figure of the network. -/
  | network (figure : NetworkFigure)
  deriving DecidableEq, Repr

namespace Formula

instance : OfScientific Formula := ⟨.number⟩
instance : Add Formula := ⟨.add⟩
instance : Sub Formula := ⟨.sub⟩
instance : Mul Formula := ⟨.mul⟩

variable {α : Type} [Scalar α]

/-- The share of the integer units' issue slots that instructions take. A core
has as many integer units as it issues instructions at most. -/
def evalAluDutyCycle (a : Activity α) (scope : Scope) : Except Failure α := do
  let core ← a.counters scope
  let alus ← a.config.peakIssueWidth scope.core?
  if Scalar.less 0.0 alus then
    return Scalar.min ((core.instructions - core.fpInstructions) / (a.maxCycles * alus)) 1.0
  else fail .noAlus

/-- The value of a formula for a scope. -/
def eval (a : Activity α) (scope : Scope) : Formula → Except Failure α
  | .number mantissa negative exponent =>
    return OfScientific.ofScientific mantissa negative exponent
  | .counter c => return (← a.counters scope).get c
  | .maxCycles => return a.maxCycles
  | .element name => do a.stats.element name (← Activity.core scope)
  | .elementOrZero name => do a.stats.elementOrZero name (← Activity.core scope)
  | .first name => a.stats.element name 0
  | .sum sharing name => do a.stats.sumOver name (← a.sharers sharing scope)
  | .sumOrZero sharing name => do a.stats.sumOverOrZero name (← a.sharers sharing scope)
  | .trunc f => return Scalar.trunc (← f.eval a scope)
  | .add f g => return (← f.eval a scope) + (← g.eval a scope)
  | .sub f g => return (← f.eval a scope) - (← g.eval a scope)
  | .mul f g => return (← f.eval a scope) * (← g.eval a scope)
  | .dutyCycle f => return a.dutyCycle (← f.eval a scope)
  | .withImplicit f extra => do
    let x ← f.eval a scope
    if a.options.implicitAccesses then return x + (← extra.eval a scope) else return x
  | .ifPresent name f => if a.stats.contains name then f.eval a scope else return 0.0
  | .byPolicy allWays moreSets =>
    match a.options.bankMapPolicy with
    | .allWays => allWays.eval a scope
    | .moreSets => moreSets.eval a scope
  | .byFraction fraction counted =>
    if a.options.inBankFraction.isSome then fraction.eval a scope else counted.eval a scope
  | .timesFraction f => do
    let x ← f.eval a scope
    match a.options.inBankFraction with
    | some fraction => return fraction * x
    | none => return x
  | .aluDutyCycle => evalAluDutyCycle a scope
  | .network .kind => return Network.kind a.stats
  | .network .accesses => Network.accesses a.stats
  | .network .dutyCycle => Network.dutyCycle a

end Formula

end ChipPower
