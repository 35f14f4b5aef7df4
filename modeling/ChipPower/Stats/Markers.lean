import ChipPower.Stats.Merge

/-!
Markers: the numbered intervals of a run, each between a begin and an end tag.
The result sets of a range of markers are fetched one by one in ascending order
and merged. A source of result sets may keep a state from fetch to fetch.
-/

namespace ChipPower

/-- The tag at which an interval begins. -/
def Marker.beginTag (index : Nat) : String :=
  "marker-1-" ++ toString index

/-- The tag at which an interval ends. -/
def Marker.endTag (index : Nat) : String :=
  "marker-2-" ++ toString index

/-- The name of an interval in messages. -/
def Marker.label (index : Nat) : String :=
  Marker.beginTag index ++ ".." ++ Marker.endTag index

/-- The markers from `first` up to, but without, `last`. -/
structure Markers where
  first : Nat := 64
  last : Nat := 5000
  deriving DecidableEq, Repr

/-- How many markers there are. -/
def Markers.count (markers : Markers) : Nat :=
  markers.last - markers.first

/-- The numbers of the markers, ascending. -/
def Markers.indices (markers : Markers) : List Nat :=
  List.range' markers.first markers.count

/-- A source of result sets with a state. A marker may have no result set. -/
abbrev ResultSource (σ α : Type) :=
  Nat → σ → Except Failure (Option (ResultSet α)) × σ

/-- What was gathered from markers. -/
structure Gathered (α : Type) where
  merged : MergedResult α := {}
  /-- The number of markers visited, with a result set or without. -/
  visited : Nat := 0
  deriving DecidableEq

namespace Gathered

variable {α σ : Type} [Add α]

/-- Adds the result set of a marker. -/
def add (gathered : Gathered α) (index : Nat) :
    Option (ResultSet α) → Except Failure (Gathered α)
  | none => .ok { gathered with visited := gathered.visited + 1 }
  | some set =>
    match gathered.merged.absorb set with
    | (merged, none) => .ok { merged, visited := gathered.visited + 1 }
    | (_, some failure) => .error (failure.within (.mergeInterval (Marker.label index)))

/-- Visits a marker. -/
def visit (source : ResultSource σ α) (gathered : Gathered α) (index : Nat) (state : σ) :
    Except Failure (Gathered α) × σ :=
  match source index state with
  | (.error failure, state) =>
    (.error (failure.within (.fetchInterval (Marker.label index))), state)
  | (.ok set, state) => (gathered.add index set, state)

/-- Visits as many markers as `count` says, from the one at `index` on and up to the
first failure. -/
def visitFrom (source : ResultSource σ α) (gathered : Gathered α) (index : Nat) :
    (count : Nat) → σ → Except Failure (Gathered α) × σ
  | 0, state => (.ok gathered, state)
  | count + 1, state =>
    match gathered.visit source index state with
    | (.ok gathered, state) => gathered.visitFrom source (index + 1) count state
    | stopped => stopped

end Gathered

/-- Gathers the result sets of all markers. -/
def Markers.gather {α σ : Type} [Add α] (markers : Markers) (source : ResultSource σ α)
    (state : σ) : Except Failure (Gathered α) × σ :=
  ({} : Gathered α).visitFrom source markers.first markers.count state

end ChipPower
