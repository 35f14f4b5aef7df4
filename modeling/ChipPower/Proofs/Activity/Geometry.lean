import ChipPower.Activity.Geometry
import ChipPower.Proofs.Activity.DutyCycles
import ChipPower.Proofs.Activity.PowerOfTwo

/-!
# The words of a cache's list

Whatever is configured for a cache is a 64-bit word, and so is all that its list has. Two of
the numbers are products: the size in bytes, and for the data cache the relaxed latency. If
there is no room for one of them in a word, there is no list.

`Activity.tuple_exact` says that a list has the products themselves, and for which geometries
there is one (`Geometry.Fits`).
-/

namespace ChipPower

/-! ## What is configured -/

namespace Config

variable {config : Config} {key : String} {core : Option Nat} {n : Nat}

/-- A text that is read as a word is one. -/
theorem parse_word_lt {text : String} (parsed : parse Numeral.word key text = .ok n) :
    n < 2 ^ 64 := by
  unfold parse at parsed
  split at parsed
  · rename_i m read
    obtain rfl := Except.ok.inj parsed
    exact (Numeral.natural_le read).trans_lt (by decide)
  · cases parsed

theorem word_lt (found : config.word key core = .ok n) : n < 2 ^ 64 := by
  obtain ⟨text, -, parsed⟩ := bind_eq_ok_iff.1 found
  exact parse_word_lt parsed

theorem wordOr_zero_lt (found : config.wordOr key core 0 = .ok n) : n < 2 ^ 64 := by
  unfold wordOr readOr at found
  split at found
  · exact parse_word_lt found
  · obtain rfl := Except.ok.inj found
    decide

end Config

namespace Geometry

/-- All numbers of a geometry are 64-bit words. -/
structure Words (g : Geometry) : Prop where
  kibibytes : g.kibibytes < 2 ^ 64
  blockSize : g.blockSize < 2 ^ 64
  associativity : g.associativity < 2 ^ 64
  latency : g.latency < 2 ^ 64

theorem latencyOf_lt {config : Config} {core : Nat} {cache : CacheTuple} {latency : Nat}
    (found : latencyOf config core cache = .ok latency) : latency < 2 ^ 64 := by
  unfold latencyOf at found
  split at found
  · exact Config.word_lt found
  · exact Config.wordOr_zero_lt found

/-- A geometry that is configured has words only. -/
theorem words_of_ofConfig {config : Config} {core : Nat} {cache : CacheTuple} {g : Geometry}
    (configured : ofConfig config core cache = .ok g) : g.Words := by
  simp only [ofConfig, bind_eq_ok_iff, pure_eq_ok_iff] at configured
  obtain ⟨kibibytes, size, blockSize, block, associativity, ways, latency, time, rfl⟩ := configured
  exact ⟨Config.wordOr_zero_lt size, Config.wordOr_zero_lt block, Config.wordOr_zero_lt ways,
    latencyOf_lt time⟩

/-! ## What is listed -/

/-- What the latency of a cache is multiplied with. -/
def relaxation : CacheTuple → Nat
  | .dcache => 10
  | .icache | .l2 | .l3 => 1

variable {g : Geometry} {cache : CacheTuple}

/-- A word has room for the size in bytes and for the relaxed latency. -/
structure Fits (g : Geometry) (cache : CacheTuple) : Prop where
  bytes : 1024 * g.kibibytes < 2 ^ 64
  latency : relaxation cache * g.latency < 2 ^ 64

/-- `Lists g cache words`: a list of words has the size in bytes and the relaxed latency
themselves. -/
structure Lists (g : Geometry) (cache : CacheTuple) (words : List Nat) : Prop where
  bytes : words[0]? = some (1024 * g.kibibytes)
  latency : words[5]? = some (relaxation cache * g.latency)
  bounded : ∀ n ∈ words, n < 2 ^ 64

section Products

variable {a b : Nat}

/-- A product that a word has room for is computed. -/
theorem wordProduct_of_lt (room : a * b < 2 ^ 64) : wordProduct a b = .ok (a * b) :=
  if_pos room

/-- For any other product the program ends. -/
theorem wordProduct_of_le (large : 2 ^ 64 ≤ a * b) : wordProduct a b = fail .overflow :=
  if_neg (Nat.not_lt.2 large)

end Products

theorem bytes_of_lt (room : 1024 * g.kibibytes < 2 ^ 64) :
    g.bytes = .ok (1024 * g.kibibytes) := by
  rw [Nat.mul_comm] at room ⊢
  exact wordProduct_of_lt room

theorem bytes_of_le (large : 2 ^ 64 ≤ 1024 * g.kibibytes) : g.bytes = fail .overflow := by
  rw [Nat.mul_comm] at large
  exact wordProduct_of_le large

theorem eq_of_bytes {n : Nat} (listed : g.bytes = .ok n) : 1024 * g.kibibytes = n := by
  by_cases room : 1024 * g.kibibytes < 2 ^ 64
  · exact Except.ok.inj ((bytes_of_lt room).symm.trans listed)
  · cases (bytes_of_le (Nat.not_lt.1 room)).symm.trans listed

theorem listedLatency_of_lt (room : relaxation cache * g.latency < 2 ^ 64) :
    g.listedLatency cache = .ok (relaxation cache * g.latency) := by
  cases cache with
  | dcache => exact wordProduct_of_lt room
  | icache | l2 | l3 => exact congrArg Except.ok (Nat.one_mul g.latency).symm

/-- A latency that is not relaxed is a word as it was configured, so only the relaxed one can be
too large. -/
theorem listedLatency_of_le (words : g.Words)
    (large : 2 ^ 64 ≤ relaxation cache * g.latency) :
    g.listedLatency cache = fail .overflow := by
  cases cache with
  | dcache => exact wordProduct_of_le large
  | icache | l2 | l3 =>
    rw [relaxation, Nat.one_mul] at large
    exact absurd words.latency (Nat.not_lt.2 large)

/-- The list of a geometry whose products fit is laid out with the products themselves. -/
theorem fields_of_fits (fits : g.Fits cache) :
    g.fields cache =
      .ok (g.layOut (1024 * g.kibibytes) (relaxation cache * g.latency) cache) :=
  fields_eq_ok_iff.2 ⟨_, _, bytes_of_lt fits.bytes, listedLatency_of_lt fits.latency, rfl⟩

/-- There is no list of a geometry with a product that does not fit. -/
theorem fields_of_not_fits (words : g.Words) (large : ¬ g.Fits cache) :
    g.fields cache = fail .overflow := by
  unfold fields
  by_cases size : 1024 * g.kibibytes < 2 ^ 64
  · have time : 2 ^ 64 ≤ relaxation cache * g.latency :=
      Nat.not_lt.1 fun room => large ⟨size, room⟩
    rw [bytes_of_lt size, listedLatency_of_le words time]
    rfl
  · rw [bytes_of_le (Nat.not_lt.1 size)]
    rfl

/-- A geometry that has a list has room for it. -/
theorem fits_of_fields (words : g.Words) {list : List Nat} (listed : g.fields cache = .ok list) :
    g.Fits cache := by
  by_contra large
  cases listed.symm.trans (fields_of_not_fits words large)

/-- A list has the products themselves, and no number beyond words. -/
theorem lists_of_fields (words : g.Words) {list : List Nat}
    (listed : g.fields cache = .ok list) : g.Lists cache list := by
  have fits := fits_of_fields words listed
  obtain rfl := Except.ok.inj ((fields_of_fits fits).symm.trans listed)
  have ways : g.ways < 2 ^ 64 := PowerOfTwo.roundUp_lt_of_lt words.associativity
  have block := words.blockSize
  obtain ⟨bytes, latency⟩ := fits
  constructor
  case bytes => cases cache <;> rfl
  case latency => cases cache <;> rfl
  case bounded =>
    intro n member
    cases cache <;>
      simp only [layOut, List.mem_cons, List.not_mem_nil, or_false] at member <;> omega

end Geometry

namespace Activity

theorem core_eq_ok_iff {scope : Scope} {core : Nat} :
    Activity.core scope = .ok core ↔ scope.core? = some core := by
  unfold Activity.core
  cases scope.core? <;> simp [fail]

/-- A cache has the geometry that is configured for the core of its scope. -/
theorem geometry_eq_ok_iff {α : Type} {a : Activity α} {cache : CacheTuple} {scope : Scope}
    {g : Geometry} :
    a.geometry cache scope = .ok g ↔
      ∃ core, scope.core? = some core ∧ Geometry.ofConfig a.config core cache = .ok g := by
  unfold geometry
  simp only [bind_eq_ok_iff, core_eq_ok_iff]

/-- The list of a cache evaluates only if a word has room for its size in bytes and for its
relaxed latency. Then it has these themselves, and all of it are words that are converted one
by one. A cache that is configured otherwise has no list. -/
theorem tuple_exact {α : Type} [Scalar α] (a : Activity α) (cache : CacheTuple) (scope : Scope)
    (rounded : Rounded) :
    (∀ values, (a.tuple cache.name scope rounded).1 = .ok values →
      ∃ core g words, scope.core? = some core ∧ Geometry.ofConfig a.config core cache = .ok g ∧
        g.Fits cache ∧ g.Lists cache words ∧ values = words.map Scalar.ofNat) ∧
    ∀ g, a.geometry cache scope = .ok g →
      ((∃ values, (a.tuple cache.name scope rounded).1 = .ok values) ↔ g.Fits cache) ∧
      (¬ g.Fits cache → (a.tuple cache.name scope rounded).1 = fail .overflow) := by
  constructor
  · intro values evaluated
    rw [a.tuple_name] at evaluated
    obtain ⟨g, found, converted⟩ := bind_eq_ok_iff.1 evaluated
    obtain ⟨words, listed, rfl⟩ := map_eq_ok_iff.1 converted
    obtain ⟨core, inside, configured⟩ := geometry_eq_ok_iff.1 found
    have sound := Geometry.words_of_ofConfig configured
    exact ⟨core, g, words, inside, configured, Geometry.fits_of_fields sound listed,
      Geometry.lists_of_fields sound listed, rfl⟩
  · intro g found
    obtain ⟨core, -, configured⟩ := geometry_eq_ok_iff.1 found
    have evaluated : (a.tuple cache.name scope rounded).1 =
        (g.fields cache).map (List.map Scalar.ofNat) := by
      rw [a.tuple_name, found]
      rfl
    rw [evaluated]
    by_cases fits : g.Fits cache
    · rw [Geometry.fields_of_fits fits]
      exact ⟨iff_of_true ⟨_, rfl⟩ fits, fun large => absurd fits large⟩
    · rw [Geometry.fields_of_not_fits (Geometry.words_of_ofConfig configured) fits]
      refine ⟨iff_of_false ?_ fits, fun _ => rfl⟩
      rintro ⟨values, missing⟩
      cases missing

/-- A data cache of 32 KiB, with overrides that the second core has to a size and a latency of
words that leave no room for their products. -/
def oversizedConfig : Config :=
  .ofList [
    ("perf_model/l1_dcache/associativity", "8"),
    ("perf_model/l1_dcache/cache_block_size", "64"),
    ("perf_model/l1_dcache/cache_size", "32"),
    ("perf_model/l1_dcache/cache_size[1]", "18014398509481985"),
    ("perf_model/l1_dcache/data_access_time", "4"),
    ("perf_model/l1_dcache/data_access_time[1]", "1844674407370955162")]

/-- What is configured for the data caches of the two cores, and what is listed for the
first. -/
theorem oversizedConfig_dcaches :
    (∃ a, ofRun busRun oversizedConfig busChip {} = .ok a ∧
        (a.tuple "dcache_cfg" (.unit 0) ∅).1 = .ok [32768, 64, 8, 2, 10, 40, 0, 1]) ∧
      Geometry.ofConfig oversizedConfig 0 .dcache = .ok ⟨32, 64, 8, 4⟩ ∧
      Geometry.ofConfig oversizedConfig 1 .dcache =
        .ok ⟨18014398509481985, 64, 8, 1844674407370955162⟩ := by
  have shown : (do
      let a ← ofRun busRun oversizedConfig busChip {}
      let first ← (a.tuple "dcache_cfg" (.unit 0) ∅).1
      let small ← Geometry.ofConfig oversizedConfig 0 .dcache
      let large ← Geometry.ofConfig oversizedConfig 1 .dcache
      return (first, small, large)) =
        .ok (([32768, 64, 8, 2, 10, 40, 0, 1] : List Rat),
          ⟨32, 64, 8, 4⟩, ⟨18014398509481985, 64, 8, 1844674407370955162⟩) := by
    decide +kernel
  simp only [bind_eq_ok_iff, pure_eq_ok_iff, Prod.mk.injEq] at shown
  obtain ⟨a, created, _, first, _, small, _, large, rfl, rfl, rfl⟩ := shown
  exact ⟨⟨a, created, first⟩, small, large⟩

/-- The data cache of the first core is listed with 32 KiB and ten times the latency. That of the
second core is not, as there is no room for a size of `2 ^ 64 + 1024` bytes. -/
theorem tuple_exact_oversized :
    ∃ a, ofRun busRun oversizedConfig busChip {} = .ok a ∧
      (a.tuple "dcache_cfg" (.unit 0) ∅).1 = .ok [32768, 64, 8, 2, 10, 40, 0, 1] ∧
      (∃ words, Geometry.Lists ⟨32, 64, 8, 4⟩ .dcache words ∧
        ([32768, 64, 8, 2, 10, 40, 0, 1] : List Rat) = words.map Scalar.ofNat) ∧
      (a.tuple "dcache_cfg" (.unit 1) ∅).1 = fail .overflow := by
  obtain ⟨⟨a, created, listed⟩, small, large⟩ := oversizedConfig_dcaches
  have same : a.config = oversizedConfig := by
    obtain ⟨cores, -, rfl⟩ := ofRun_eq_ok created
    rfl
  rw [← same] at small large
  refine ⟨a, created, listed, ?first, ?second⟩
  case first =>
    obtain ⟨core, g, words, inside, configured, -, lists, values⟩ :=
      (tuple_exact a .dcache (.unit 0) ∅).1 _ listed
    obtain rfl : 0 = core := Option.some.inj inside
    obtain rfl := Except.ok.inj (small.symm.trans configured)
    exact ⟨words, lists, values⟩
  case second =>
    have found : a.geometry .dcache (.unit 1) =
        .ok ⟨18014398509481985, 64, 8, 1844674407370955162⟩ :=
      geometry_eq_ok_iff.2 ⟨1, rfl, large⟩
    refine ((tuple_exact a .dcache (.unit 1) ∅).2 _ found).2 fun fits => ?_
    exact absurd fits.bytes (by norm_num)

end Activity

end ChipPower
