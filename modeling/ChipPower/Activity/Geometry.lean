import ChipPower.Activity.Basic
import ChipPower.Activity.PowerOfTwo

/-!
The geometry of a cache, as the estimator input lists it: size in bytes, block
size, associativity, banks, throughput, latency and some fixed fields. Sizes and
latencies are computed in 64-bit words, and a product that does not fit in one is
a failure.
-/

namespace ChipPower

/-- A cache whose geometry the estimator input lists. -/
inductive CacheTuple
  | icache
  | dcache
  | l2
  | l3
  deriving DecidableEq, Repr

namespace CacheTuple

/-- All caches. -/
def all : List CacheTuple := [.icache, .dcache, .l2, .l3]

/-- The name of a cache's list in templates. -/
def name : CacheTuple → String
  | .icache => "icache_cfg"
  | .dcache => "dcache_cfg"
  | .l2 => "L2_config"
  | .l3 => "L3_config"

/-- The cache of a name. -/
def ofName? (name : String) : Option CacheTuple :=
  all.find? fun cache => cache.name == name

theorem ofName?_name (cache : CacheTuple) : ofName? cache.name = some cache := by
  cases cache <;> rfl

/-- The configuration section of a cache. -/
def configSection : CacheTuple → String
  | .icache => "perf_model/l1_icache"
  | .dcache => "perf_model/l1_dcache"
  | .l2 => "perf_model/l2_cache"
  | .l3 => "perf_model/l3_cache"

/-- Whether the access time has to be configured. Without one a shared cache has
none. -/
def needsLatency : CacheTuple → Bool
  | .icache | .dcache => true
  | .l2 | .l3 => false

end CacheTuple

/-- The geometry of a cache, as it is configured. -/
structure Geometry where
  /-- The size in KiB. -/
  kibibytes : Nat
  blockSize : Nat
  associativity : Nat
  latency : Nat
  deriving DecidableEq, Repr

namespace Geometry

/-- The latency of a cache. -/
def latencyOf (config : Config) (core : Nat) (cache : CacheTuple) : Except Failure Nat :=
  let key := cache.configSection ++ "/data_access_time"
  if cache.needsLatency then config.word key (some core) else config.wordOr key (some core) 0

/-- The geometry of a cache of a core. A size that is not configured is zero. -/
def ofConfig (config : Config) (core : Nat) (cache : CacheTuple) : Except Failure Geometry := do
  let kibibytes ← config.wordOr (cache.configSection ++ "/cache_size") (some core) 0
  let blockSize ← config.wordOr (cache.configSection ++ "/cache_block_size") (some core) 0
  let associativity ← config.wordOr (cache.configSection ++ "/associativity") (some core) 0
  let latency ← latencyOf config core cache
  return { kibibytes, blockSize, associativity, latency }

/-- The product of two 64-bit words, which has to be one, too. -/
def wordProduct (a b : Nat) : Except Failure Nat :=
  if a * b < Nat.pow 2 64 then .ok (a * b) else fail .overflow

/-- The size in bytes. -/
def bytes (g : Geometry) : Except Failure Nat :=
  wordProduct g.kibibytes 1024

/-- The latency that a cache's list has. That of the data cache is relaxed, or the
estimator would make the cache too large in order to meet it. -/
def listedLatency (g : Geometry) : CacheTuple → Except Failure Nat
  | .dcache => wordProduct 10 g.latency
  | .icache | .l2 | .l3 => .ok g.latency

/-- The associativity that the estimator takes. -/
def ways (g : Geometry) : Nat :=
  PowerOfTwo.roundUp g.associativity

/-- A cache's list with a size in bytes and a latency. The throughput of the data
cache is relaxed like its latency. The L3 always has blocks of 64 bytes and one
field less. -/
def layOut (g : Geometry) (bytes latency : Nat) : CacheTuple → List Nat
  | .icache => [bytes, g.blockSize, g.ways, 1, 1, latency, 0, 1]
  | .dcache => [bytes, g.blockSize, g.ways, 2, 10, latency, 0, 1]
  | .l2 => [bytes, g.blockSize, g.ways, 8, 1, latency, 0, 1]
  | .l3 => [bytes, 64, g.ways, 16, 16, latency, 1]

/-- The fields of a cache's list. -/
def fields (g : Geometry) (cache : CacheTuple) : Except Failure (List Nat) := do
  return g.layOut (← g.bytes) (← g.listedLatency cache) cache

theorem fields_eq_ok_iff {g : Geometry} {cache : CacheTuple} {words : List Nat} :
    g.fields cache = .ok words ↔ ∃ bytes latency, g.bytes = .ok bytes ∧
      g.listedLatency cache = .ok latency ∧ g.layOut bytes latency cache = words := by
  simp only [fields, bind_eq_ok_iff, pure_eq_ok_iff, exists_and_left]

end Geometry

namespace Activity

variable {α : Type} [Scalar α]

/-- The geometry of a cache of a scope. -/
def geometry (a : Activity α) (cache : CacheTuple) (scope : Scope) : Except Failure Geometry := do
  Geometry.ofConfig a.config (← core scope) cache

/-- The fields of the list of a name, and the number that was rounded to a power
of two for them. It is rounded before the fields are computed. -/
def tuple (a : Activity α) (name : String) (scope : Scope) (rounded : Rounded) :
    Except Failure (List α) × Rounded :=
  match CacheTuple.ofName? name with
  | none => (fail (.unknownTuple name), rounded)
  | some cache =>
    match a.geometry cache scope with
    | .error failure => (.error failure, rounded)
    | .ok g =>
      ((g.fields cache).map (List.map Scalar.ofNat), PowerOfTwo.note rounded g.associativity)

/-- What was rounded before does not show in a list. -/
theorem tuple_name (a : Activity α) (cache : CacheTuple) (scope : Scope) (rounded : Rounded) :
    (a.tuple cache.name scope rounded).1 =
      a.geometry cache scope >>= fun g => (g.fields cache).map (List.map Scalar.ofNat) := by
  unfold tuple
  rw [cache.ofName?_name]
  dsimp only
  cases a.geometry cache scope <;> rfl

end Activity

end ChipPower
