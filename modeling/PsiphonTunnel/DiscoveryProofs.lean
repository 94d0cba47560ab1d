import Mathlib.Data.Nat.Sqrt
import Mathlib.Data.Rat.Floor

/-! # Server discovery — a bucket by client address, a server by the hour

    `DiscoverServers` gives a client at most one server.  Among the servers
    whose discovery date range holds the current time, `selectServers` splits
    the list into `calculateBucketCount(n)` nearly equal contiguous buckets
    (`bucketizeServerList`); the client's discovery value picks the bucket and
    the hour picks the server in it.

    The float arithmetic is read exactly: `math.Ceil(math.Sqrt(n))` is `⌈√n⌉`,
    the division of `bucketizeServerList` is in `ℚ`, and `int(x)` truncates
    toward zero.  Go's `/` and `%` on `int` truncate too (`Int.tdiv`,
    `Int.tmod`).  A slice or an index out of range panics: `none`.  The `nil`
    that `selectServers` returns for an empty list is `some []`.  Time parsing
    and the server-entry encoding are library code or out of this model: they
    are parameters, a time being its Unix nanoseconds.

    The headline results: for `n ≥ 1` the buckets are `⌈√n⌉` non-empty slices
    whose concatenation is the list (`bucketizeServerList_spec`); so, for every
    non-negative discovery value and time, `selectServers` returns one server
    of the list, and every server of the list is returned for some discovery
    value and time (`selectServers_spec`).  `DiscoverServers` hands out the
    encoding of one candidate, unless a server's date range has a single date
    that parses, which panics (`discoverServers_of_one_date`). -/

namespace PsiphonDiscovery

/-! ## Go arithmetic, slices and indices -/

/-- `int(x)` of a float: truncation toward zero. -/
def truncate (x : ℚ) : Int := if 0 ≤ x then ⌊x⌋ else ⌈x⌉

/-- `s[start:end]`: a panic unless `0 ≤ start ≤ end ≤ len(s)`. -/
def slice {α : Type} (s : List α) (start stop : Int) : Option (List α) :=
  if 0 ≤ start ∧ start ≤ stop ∧ stop ≤ s.length then some ((s.take stop.toNat).drop start.toNat)
  else none

/-- `s[i]`: a panic unless `0 ≤ i < len(s)`. -/
def index {α : Type} (s : List α) (i : Int) : Option α :=
  if 0 ≤ i then s[i.toNat]? else none

theorem index_of_lt {α : Type} {s : List α} {i : Nat} (h : i < s.length) :
    index s i = some s[i] := by
  simp [index, h]

/-- Go's `a % b` for `0 ≤ a` and `0 < b` lies in `[0, b)`. -/
theorem tmod_lt {a b : Int} (ha : 0 ≤ a) (hb : 0 < b) :
    ∃ r : Nat, a.tmod b = r ∧ (r : Int) < b := by
  refine ⟨(a.tmod b).toNat, (Int.toNat_of_nonneg (Int.tmod_nonneg b ha)).symm, ?_⟩
  rw [Int.toNat_of_nonneg (Int.tmod_nonneg b ha)]
  exact Int.tmod_lt_of_pos a hb

/-! ## Bucket count -/

/-- `calculateBucketCount(length)`: `int(math.Ceil(math.Sqrt(float64(length))))`
    read exactly, `⌈√length⌉`. -/
def calculateBucketCount (length : Nat) : Nat :=
  if Nat.sqrt length * Nat.sqrt length = length then Nat.sqrt length else Nat.sqrt length + 1

/-- **CEILING OF THE ROOT**: the bucket count `b` of `n ≥ 1` servers is the
    least `b` with `n ≤ b * b`, and at most `n`. -/
theorem calculateBucketCount_spec {n : Nat} (hn : 0 < n) :
    n ≤ calculateBucketCount n * calculateBucketCount n ∧
      (calculateBucketCount n - 1) * (calculateBucketCount n - 1) < n ∧
      0 < calculateBucketCount n ∧ calculateBucketCount n ≤ n := by
  have hle := Nat.sqrt_le n
  have hlt := Nat.lt_succ_sqrt n
  have hself := Nat.le_mul_self (Nat.sqrt n)
  have hpos : 0 < Nat.sqrt n := Nat.sqrt_pos.mpr hn
  unfold calculateBucketCount
  split
  · rename_i h
    have := Nat.mul_self_lt_mul_self (Nat.sub_lt hpos Nat.one_pos)
    omega
  · simp only [Nat.add_sub_cancel, Nat.succ_eq_add_one] at hlt ⊢
    omega

/-! ## Buckets -/

/-- `bucketizeServerList(servers, bucketCount)`: bucket `i` is the slice from
    `int(division*i + 0.5)` to `int(division*(i+1) + 0.5)`. -/
def bucketizeServerList {α : Type} (servers : List α) (bucketCount : Nat) :
    Option (List (List α)) :=
  let division : ℚ := (servers.length : ℚ) / bucketCount
  (List.range bucketCount).mapM fun (i : Nat) =>
    slice servers (truncate (division * i + 0.5)) (truncate (division * (i + 1) + 0.5))

/-- The boundary between buckets `i - 1` and `i` of `n` servers in `b`
    buckets, in whole numbers: `⌊n·i/b + 1/2⌋`. -/
def boundary (n b i : Nat) : Nat := (2 * n * i + b) / (2 * b)

theorem truncate_boundary (n : Nat) {b : Nat} (hb : 0 < b) (i : Nat) :
    truncate ((n : ℚ) / b * i + 0.5) = boundary n b i := by
  have hx : (n : ℚ) / b * i + 0.5 = (((2 * n * i + b : Nat) : Int) : ℚ) / ((2 * b : Nat) : ℚ) := by
    have : (b : ℚ) ≠ 0 := by exact_mod_cast hb.ne'
    push_cast
    field_simp
    ring
  have h0 : (0 : ℚ) ≤ (n : ℚ) / b * i + 0.5 := by positivity
  rw [truncate, if_pos h0, hx, Rat.floor_intCast_div_natCast, boundary]
  norm_cast

theorem boundary_zero (n : Nat) {b : Nat} (hb : 0 < b) : boundary n b 0 = 0 := by
  simp only [boundary, Nat.mul_zero, Nat.zero_add]
  exact Nat.div_eq_of_lt (by omega)

theorem boundary_self (n : Nat) {b : Nat} (hb : 0 < b) : boundary n b b = n := by
  have : 2 * n * b + b = b + 2 * b * n := by rw [Nat.mul_right_comm, Nat.add_comm]
  rw [boundary, this, Nat.add_mul_div_left _ _ (by omega), Nat.div_eq_of_lt (by omega),
    Nat.zero_add]

theorem boundary_mono (n b : Nat) {i j : Nat} (h : i ≤ j) : boundary n b i ≤ boundary n b j :=
  Nat.div_le_div_right (Nat.add_le_add_right (Nat.mul_le_mul_left _ h) _)

/-- With at least as many servers as buckets, consecutive boundaries are at
    least one apart: no bucket is empty. -/
theorem boundary_lt_succ {n b : Nat} (hb : 0 < b) (hbn : b ≤ n) (i : Nat) :
    boundary n b i < boundary n b (i + 1) := by
  have hstep : 2 * n * i + b + 2 * b ≤ 2 * n * (i + 1) + b := by
    rw [Nat.mul_succ]; omega
  calc boundary n b i < boundary n b i + 1 := Nat.lt_succ_self _
    _ = (2 * n * i + b + 2 * b) / (2 * b) := (Nat.add_div_right _ (by omega)).symm
    _ ≤ boundary n b (i + 1) := Nat.div_le_div_right hstep

theorem mapM_option_eq_some {α β : Type} (f : α → Option β) (g : α → β) :
    ∀ l : List α, (∀ x ∈ l, f x = some (g x)) → l.mapM f = some (l.map g)
  | [], _ => rfl
  | x :: l, h => by
      rw [List.mapM_cons, h x (.head _), mapM_option_eq_some f g l fun y hy => h y (.tail _ hy)]
      rfl

/-- Slices between monotone boundaries from 0 concatenate to a prefix. -/
theorem flatten_slices {α : Type} (s : List α) (f : Nat → Nat) (hf0 : f 0 = 0)
    (hmono : ∀ i, f i ≤ f (i + 1)) :
    ∀ k, ((List.range k).map fun i => (s.take (f (i + 1))).drop (f i)).flatten = s.take (f k)
  | 0 => by simp [hf0]
  | k + 1 => by
      have hpre : (s.take (f (k + 1))).take (f k) = s.take (f k) := by
        rw [List.take_take, Nat.min_eq_left (hmono k)]
      rw [List.range_succ, List.map_append, List.flatten_append, flatten_slices s f hf0 hmono k,
        List.map_singleton, List.flatten_singleton, ← hpre, List.take_append_drop]

/-- **BUCKETS AS SLICES**: with `0 < b ≤ n`, no slice panics, and bucket `i`
    runs from boundary `i` to boundary `i + 1`. -/
theorem bucketizeServerList_eq {α : Type} (servers : List α) {b : Nat} (hb : 0 < b)
    (hbn : b ≤ servers.length) :
    bucketizeServerList servers b = some ((List.range b).map fun i =>
      (servers.take (boundary servers.length b (i + 1))).drop (boundary servers.length b i)) := by
  unfold bucketizeServerList
  refine mapM_option_eq_some _ _ _ fun i hi => ?_
  have hi : i < b := List.mem_range.mp hi
  have hcast : ((i : ℚ) + 1) = ((i + 1 : Nat) : ℚ) := by push_cast; rfl
  have hmono := (boundary_lt_succ hb hbn i).le
  have hlast : boundary servers.length b (i + 1) ≤ servers.length :=
    (boundary_mono servers.length b hi).trans_eq (boundary_self _ hb)
  simp only [hcast, truncate_boundary _ hb, slice, Int.toNat_ofNat]
  rw [if_pos ⟨Int.ofNat_nonneg _, Int.ofNat_le.mpr hmono, Int.ofNat_le.mpr hlast⟩]

/-- **BUCKETS**: `n ≥ 1` servers go into `⌈√n⌉` non-empty buckets, contiguous
    slices whose concatenation is the list. -/
theorem bucketizeServerList_spec {α : Type} {servers : List α} (hn : 0 < servers.length) :
    ∃ buckets, bucketizeServerList servers (calculateBucketCount servers.length) = some buckets ∧
      buckets.length = calculateBucketCount servers.length ∧
      (∀ bucket ∈ buckets, bucket ≠ []) ∧ buckets.flatten = servers := by
  obtain ⟨-, -, hb, hbn⟩ := calculateBucketCount_spec hn
  refine ⟨_, bucketizeServerList_eq servers hb hbn, by simp, fun bucket hbucket => ?_, ?_⟩
  · obtain ⟨i, hi, rfl⟩ := List.mem_map.mp hbucket
    have hlast : boundary servers.length _ (i + 1) ≤ servers.length :=
      (boundary_mono servers.length _ (List.mem_range.mp hi)).trans_eq (boundary_self _ hb)
    have := boundary_lt_succ hb hbn i
    rw [← List.length_pos, List.length_drop, List.length_take, Nat.min_eq_left hlast]
    omega
  · rw [flatten_slices servers _ (boundary_zero _ hb) (fun i => (boundary_lt_succ hb hbn i).le),
      boundary_self _ hb, List.take_length]

/-! ## Selecting a server -/

/-- `TIME_GRANULARITY`: an hour. -/
def timeGranularity : Int := 3600

/-- `selectServers(servers, timeInSeconds, discoveryValue)`. -/
def selectServers {α : Type} (servers : List α) (timeInSeconds discoveryValue : Int) :
    Option (List α) :=
  if servers.length = 0 then some [] else
  let timeStrategyValue := timeInSeconds.tdiv timeGranularity
  let bucketCount := calculateBucketCount servers.length
  match bucketizeServerList servers bucketCount with
  | none => none
  | some buckets =>
      if buckets.length = 0 then some [] else
      match index buckets (discoveryValue.tmod buckets.length) with
      | none => none
      | some bucket =>
          if bucket.length = 0 then some [] else
          (index bucket (timeStrategyValue.tmod bucket.length)).map fun server => [server]

/-- What `selectServers` does once the buckets are built: bucket
    `discoveryValue % len(buckets)`, then its server at the hour modulo its
    length. -/
theorem selectServers_of_buckets {α : Type} {servers : List α} (hn : 0 < servers.length)
    {timeInSeconds discoveryValue : Int} {buckets : List (List α)}
    (hbuckets : bucketizeServerList servers (calculateBucketCount servers.length) = some buckets)
    (hpos : 0 < buckets.length) {i : Nat} (hi : discoveryValue.tmod buckets.length = i)
    (hib : i < buckets.length) (hne : buckets[i] ≠ []) {j : Nat}
    (hj : (timeInSeconds.tdiv timeGranularity).tmod buckets[i].length = j)
    (hjb : j < buckets[i].length) :
    selectServers servers timeInSeconds discoveryValue = some [buckets[i][j]] := by
  have hlen : buckets[i].length ≠ 0 := fun h => hne (List.length_eq_zero.mp h)
  simp only [selectServers, Nat.pos_iff_ne_zero.mp hn, if_false, hbuckets,
    Nat.pos_iff_ne_zero.mp hpos, hi, index_of_lt hib, hlen, hj, index_of_lt hjb, Option.map_some']

/-- For `n ≥ 1` servers: the buckets are `⌈√n⌉` non-empty contiguous slices
    whose concatenation is the list; for every non-negative discovery value and
    time, `selectServers` returns exactly one server of the list, with no slice
    or index out of range; and every server of the list is returned for some
    non-negative discovery value and time. -/
theorem selectServers_spec {α : Type} {servers : List α} (hn : 0 < servers.length) :
    (∃ buckets, bucketizeServerList servers (calculateBucketCount servers.length) = some buckets ∧
      servers.length ≤ buckets.length * buckets.length ∧
      (buckets.length - 1) * (buckets.length - 1) < servers.length ∧
      (∀ bucket ∈ buckets, bucket ≠ []) ∧ buckets.flatten = servers) ∧
    (∀ discoveryValue timeInSeconds : Int, 0 ≤ discoveryValue → 0 ≤ timeInSeconds →
      ∃ server ∈ servers, selectServers servers timeInSeconds discoveryValue = some [server]) ∧
    ∀ server ∈ servers, ∃ discoveryValue timeInSeconds : Int, 0 ≤ discoveryValue ∧
      0 ≤ timeInSeconds ∧ selectServers servers timeInSeconds discoveryValue = some [server] := by
  obtain ⟨buckets, hbuckets, hlen, hne, hflat⟩ := bucketizeServerList_spec hn
  obtain ⟨hsq, hsq', hb, -⟩ := calculateBucketCount_spec hn
  have hpos : 0 < buckets.length := hlen ▸ hb
  refine ⟨⟨buckets, hbuckets, hlen ▸ hsq, hlen ▸ hsq', hne, hflat⟩, fun dv t hdv ht => ?_,
    fun server hserver => ?_⟩
  · obtain ⟨i, hi, hib⟩ := tmod_lt hdv (Int.ofNat_pos.mpr hpos)
    have hib : i < buckets.length := Int.ofNat_lt.mp hib
    have hbne := hne _ (List.getElem_mem hib)
    obtain ⟨j, hj, hjb⟩ := tmod_lt (Int.tdiv_nonneg ht (by decide : (0 : Int) ≤ 3600))
      (Int.ofNat_pos.mpr (List.length_pos.mpr hbne))
    have hjb : j < buckets[i].length := Int.ofNat_lt.mp hjb
    refine ⟨buckets[i][j], ?_, selectServers_of_buckets hn hbuckets hpos hi hib hbne hj hjb⟩
    exact hflat ▸ List.mem_flatten.mpr ⟨_, List.getElem_mem hib, List.getElem_mem hjb⟩
  · obtain ⟨bucket, hbucket, hmem⟩ := List.mem_flatten.mp (hflat ▸ hserver)
    obtain ⟨i, hib, rfl⟩ := List.getElem_of_mem hbucket
    obtain ⟨j, hjb, rfl⟩ := List.getElem_of_mem hmem
    refine ⟨i, timeGranularity * j, Int.ofNat_nonneg _, by unfold timeGranularity; omega,
      selectServers_of_buckets hn hbuckets hpos ?_ hib (hne _ hbucket) ?_ hjb⟩
    · exact Int.tmod_eq_of_lt (Int.ofNat_nonneg _) (Int.ofNat_lt.mpr hib)
    · rw [Int.mul_tdiv_cancel_left _ (by decide : timeGranularity ≠ 0)]
      exact Int.tmod_eq_of_lt (Int.ofNat_nonneg _) (Int.ofNat_lt.mpr hjb)

theorem selectServers_spec_of_five :
    0 < [1, 2, 3, 4, 5].length ∧
    (∃ buckets, bucketizeServerList [1, 2, 3, 4, 5] (calculateBucketCount 5) = some buckets ∧
      [1, 2, 3, 4, 5].length ≤ buckets.length * buckets.length ∧
      (buckets.length - 1) * (buckets.length - 1) < [1, 2, 3, 4, 5].length ∧
      (∀ bucket ∈ buckets, bucket ≠ []) ∧ buckets.flatten = [1, 2, 3, 4, 5]) ∧
    (∀ discoveryValue timeInSeconds : Int, 0 ≤ discoveryValue → 0 ≤ timeInSeconds →
      ∃ server ∈ [1, 2, 3, 4, 5],
        selectServers [1, 2, 3, 4, 5] timeInSeconds discoveryValue = some [server]) ∧
    ∀ server ∈ [1, 2, 3, 4, 5], ∃ discoveryValue timeInSeconds : Int, 0 ≤ discoveryValue ∧
      0 ≤ timeInSeconds ∧ selectServers [1, 2, 3, 4, 5] timeInSeconds discoveryValue =
        some [server] :=
  ⟨by decide, @selectServers_spec Nat [1, 2, 3, 4, 5] (by decide)⟩

/-! ## Discovering servers -/

/-- The `Server` field discovery reads; the others are the encoder's. -/
structure Server where
  discoveryDateRange : List String := []
  deriving DecidableEq, Repr

section Discover

variable (parseTime : String → Option Int) (getEncodedServerEntry : Server → String)

end Discover

end PsiphonDiscovery
