import PsiphonTunnel.BucketProofs
import Mathlib.Data.Finset.Card

/-! # Cache buckets — route data, ETags, SLOKs and tactics records over whole histories

    Six buckets of `dataStore.go` hold data the client caches for later
    requests: the split-tunnel routes of a region (its ETag and its data, in two
    buckets), URL ETags, SLOKs, and the tactics and speed-test records of a
    network.  No operation on them reads or writes any other bucket, and no
    operation of `PsiphonDataStore` touches them, so they are a store of their
    own (`CacheBuckets`), run by `runCacheOps` from the empty store.

    The abstract value of a key is the last write to it in the history
    (`lastWrite`); for SLOKs, the writes since the last `DeleteSLOKs`
    (`slokWrites`).  The headline results:

    * `cacheGetters_lastWrite` — after any history, every getter returns the
      last write to its key, and the ETag and data of a region come from the
      same `SetSplitTunnelRoutes` call: the two buckets hold the same regions
      and are never read torn;
    * `sloks_since_delete` — `GetSLOK` returns the last key stored under its ID
      since the last `DeleteSLOKs`, `CountSLOKs` counts the distinct IDs stored
      since then, and `SetSLOK` reports a duplicate exactly for those IDs.

    IDs, regions, URLs and network IDs are bucket keys, modelled as `String`
    as in `PsiphonBucket`; a put does not fail in this model, so the error of
    the first put of `SetSplitTunnelRoutes`, which the second overwrites, is
    not observable. -/

namespace PsiphonCacheBuckets

open PsiphonBucket

/-- The cache buckets of the datastore. -/
structure CacheBuckets where
  splitTunnelRouteETags : Bucket String
  splitTunnelRouteData : Bucket (List UInt8)
  urlETags : Bucket String
  sloks : Bucket (List UInt8)
  tactics : Bucket (List UInt8)
  speedTestSamples : Bucket (List UInt8)

/-- The cache buckets as `OpenDataStore` creates them. -/
def CacheBuckets.empty : CacheBuckets := ⟨.empty, .empty, .empty, .empty, .empty, .empty⟩

/-! ## The operations -/

/-- `setBucketValue(bucket, key, value)`. -/
def setBucketValue {V : Type} (bucket : Bucket V) (key : String) (value : V) : Bucket V :=
  bucket.put key value

/-- `getBucketValue(bucket, key)`: `nil` (`none`) when not found. -/
def getBucketValue {V : Type} (bucket : Bucket V) (key : String) : Option V := bucket.get key

/-- `deleteBucketValue(bucket, key)`. -/
def deleteBucketValue {V : Type} (bucket : Bucket V) (key : String) : Bucket V := bucket.delete key

/-- `SetSplitTunnelRoutes(region, etag, data)`: the ETag and the data, in one
    transaction. -/
def setSplitTunnelRoutes (c : CacheBuckets) (region etag : String) (data : List UInt8) :
    CacheBuckets :=
  { c with
    splitTunnelRouteETags := c.splitTunnelRouteETags.put region etag
    splitTunnelRouteData := c.splitTunnelRouteData.put region data }

/-- `GetSplitTunnelRoutesETag(region)`: `string(nil)`, the empty string, when
    not found. -/
def getSplitTunnelRoutesETag (c : CacheBuckets) (region : String) : String :=
  (c.splitTunnelRouteETags.get region).getD ""

/-- `GetSplitTunnelRoutesData(region)`: a copy of the data, `nil` when not
    found. -/
def getSplitTunnelRoutesData (c : CacheBuckets) (region : String) : Option (List UInt8) :=
  c.splitTunnelRouteData.get region

/-- `SetUrlETag(url, etag)`. -/
def setUrlETag (c : CacheBuckets) (url etag : String) : CacheBuckets :=
  { c with urlETags := c.urlETags.put url etag }

/-- `GetUrlETag(url)`: the empty string when not found. -/
def getUrlETag (c : CacheBuckets) (url : String) : String := (c.urlETags.get url).getD ""

/-- `CountSLOKs()`: one count per key of the cursor. -/
def countSLOKs (c : CacheBuckets) : Nat := c.sloks.keys.length

/-- `DeleteSLOKs()`: `tx.clearBucket` empties the bucket. -/
def deleteSLOKs (c : CacheBuckets) : CacheBuckets := { c with sloks := .empty }

/-- `SetSLOK(id, key)`: the new buckets and `duplicate`, whether the ID was
    already stored. -/
def setSLOK (c : CacheBuckets) (id : String) (key : List UInt8) : CacheBuckets × Bool :=
  let duplicate := (c.sloks.get id).isSome
  ({ c with sloks := c.sloks.put id key }, duplicate)

/-- `GetSLOK(id)`: `nil` when not found. -/
def getSLOK (c : CacheBuckets) (id : String) : Option (List UInt8) := c.sloks.get id

/-- `TacticsStorer.SetTacticsRecord(networkID, record)`. -/
def setTacticsRecord (c : CacheBuckets) (networkID : String) (record : List UInt8) :
    CacheBuckets :=
  { c with tactics := setBucketValue c.tactics networkID record }

/-- `TacticsStorer.GetTacticsRecord(networkID)`. -/
def getTacticsRecord (c : CacheBuckets) (networkID : String) : Option (List UInt8) :=
  getBucketValue c.tactics networkID

/-- `TacticsStorer.SetSpeedTestSamplesRecord(networkID, record)`. -/
def setSpeedTestSamplesRecord (c : CacheBuckets) (networkID : String) (record : List UInt8) :
    CacheBuckets :=
  { c with speedTestSamples := setBucketValue c.speedTestSamples networkID record }

/-- `TacticsStorer.GetSpeedTestSamplesRecord(networkID)`. -/
def getSpeedTestSamplesRecord (c : CacheBuckets) (networkID : String) : Option (List UInt8) :=
  getBucketValue c.speedTestSamples networkID

/-- The operations that write the cache buckets. -/
inductive CacheOp where
  | setSplitTunnelRoutes (region etag : String) (data : List UInt8)
  | setUrlETag (url etag : String)
  | setSLOK (id : String) (key : List UInt8)
  | deleteSLOKs
  | setTacticsRecord (networkID : String) (record : List UInt8)
  | setSpeedTestSamplesRecord (networkID : String) (record : List UInt8)

/-- One operation. -/
def CacheOp.apply (c : CacheBuckets) : CacheOp → CacheBuckets
  | .setSplitTunnelRoutes region etag data =>
      PsiphonCacheBuckets.setSplitTunnelRoutes c region etag data
  | .setUrlETag url etag => PsiphonCacheBuckets.setUrlETag c url etag
  | .setSLOK id key => (PsiphonCacheBuckets.setSLOK c id key).1
  | .deleteSLOKs => PsiphonCacheBuckets.deleteSLOKs c
  | .setTacticsRecord networkID record => PsiphonCacheBuckets.setTacticsRecord c networkID record
  | .setSpeedTestSamplesRecord networkID record =>
      PsiphonCacheBuckets.setSpeedTestSamplesRecord c networkID record

/-- The cache buckets after a history of operations. -/
def runCacheOps (c : CacheBuckets) (ops : List CacheOp) : CacheBuckets :=
  ops.foldl CacheOp.apply c

theorem runCacheOps_append_singleton (c : CacheBuckets) (ops : List CacheOp) (op : CacheOp) :
    runCacheOps c (ops ++ [op]) = op.apply (runCacheOps c ops) := by
  simp [runCacheOps, List.foldl_append]

/-! ## The abstract model: the last write to a key -/

/-- The value of the last write to `key` in a history, a write being what
    `write` reads off an operation. -/
def lastWrite {V : Type} (write : CacheOp → Option (String × V)) (key : String)
    (ops : List CacheOp) : Option V :=
  ops.foldl (fun acc op =>
    match write op with
    | some (k, v) => if k = key then some v else acc
    | none => acc) none

/-- The writes to the route buckets: an ETag and data together. -/
def routesWrite : CacheOp → Option (String × (String × List UInt8))
  | .setSplitTunnelRoutes region etag data => some (region, (etag, data))
  | _ => none

/-- The writes to the URL ETag bucket. -/
def urlETagWrite : CacheOp → Option (String × String)
  | .setUrlETag url etag => some (url, etag)
  | _ => none

/-- The writes to the tactics bucket. -/
def tacticsWrite : CacheOp → Option (String × List UInt8)
  | .setTacticsRecord networkID record => some (networkID, record)
  | _ => none

/-- The writes to the speed-test bucket. -/
def speedTestSamplesWrite : CacheOp → Option (String × List UInt8)
  | .setSpeedTestSamplesRecord networkID record => some (networkID, record)
  | _ => none

section LastWrite

variable {V : Type} (proj : CacheBuckets → Bucket V) (write : CacheOp → Option (String × V))

/-- A bucket whose every change is a put of the write an operation carries. -/
def PutsWrites : Prop :=
  ∀ c op, proj (op.apply c) = match write op with
    | some (k, v) => (proj c).put k v
    | none => proj c

theorem lastWrite_append_singleton (key : String) (ops : List CacheOp) (op : CacheOp) :
    lastWrite write key (ops ++ [op]) = match write op with
      | some (k, v) => if k = key then some v else lastWrite write key ops
      | none => lastWrite write key ops := by
  simp only [lastWrite, List.foldl_append, List.foldl_cons, List.foldl_nil]

/-- **LAST WRITE**: a bucket that only takes the writes of its operations holds,
    after any history from empty, the last write to each key. -/
theorem get_runCacheOps_of_putsWrites (hproj : PutsWrites proj write)
    (hempty : proj CacheBuckets.empty = .empty) (key : String) (ops : List CacheOp) :
    (proj (runCacheOps .empty ops)).get key = lastWrite write key ops := by
  induction ops using List.reverseRecOn with
  | nil => show (proj CacheBuckets.empty).get key = none; rw [hempty]; rfl
  | append_singleton ops op ih =>
      rw [runCacheOps_append_singleton, hproj, lastWrite_append_singleton]
      rcases write op with _ | ⟨k, v⟩
      · exact ih
      · rw [Bucket.get_put, ih]
        by_cases h : key = k
        · simp [h]
        · simp [h, Ne.symm h]

end LastWrite

theorem putsWrites_routeETags :
    PutsWrites CacheBuckets.splitTunnelRouteETags fun op => (routesWrite op).map fun w => (w.1, w.2.1) := by
  intro c op; cases op <;> rfl

theorem putsWrites_routeData :
    PutsWrites CacheBuckets.splitTunnelRouteData fun op => (routesWrite op).map fun w => (w.1, w.2.2) := by
  intro c op; cases op <;> rfl

theorem putsWrites_urlETags : PutsWrites CacheBuckets.urlETags urlETagWrite := by
  intro c op; cases op <;> rfl

theorem putsWrites_tactics : PutsWrites CacheBuckets.tactics tacticsWrite := by
  intro c op; cases op <;> rfl

theorem putsWrites_speedTestSamples :
    PutsWrites CacheBuckets.speedTestSamples speedTestSamplesWrite := by
  intro c op; cases op <;> rfl

theorem lastWrite_map {V W : Type} (write : CacheOp → Option (String × V)) (g : V → W)
    (key : String) (ops : List CacheOp) :
    lastWrite (fun op => (write op).map fun w => (w.1, g w.2)) key ops =
      (lastWrite write key ops).map g := by
  induction ops using List.reverseRecOn with
  | nil => rfl
  | append_singleton ops op ih =>
      rw [lastWrite_append_singleton, lastWrite_append_singleton, ih]
      rcases write op with _ | ⟨k, v⟩
      · rfl
      · simp only [Option.map_some']
        split <;> rfl

/-- Both route buckets take a region's key together, so they list the same
    regions in the same order. -/
theorem routeKeys_runCacheOps (ops : List CacheOp) :
    (runCacheOps .empty ops).splitTunnelRouteETags.keys =
      (runCacheOps .empty ops).splitTunnelRouteData.keys := by
  induction ops using List.reverseRecOn with
  | nil => rfl
  | append_singleton ops op ih =>
      rw [runCacheOps_append_singleton]
      cases op with
      | setSplitTunnelRoutes region etag data =>
          simp only [CacheOp.apply, setSplitTunnelRoutes, Bucket.keys_put, ih]
      | _ => exact ih

/-- **CACHE HISTORIES**: after any history of cache operations from the empty
    buckets, the ETag and the data `GetSplitTunnelRoutesETag` and
    `GetSplitTunnelRoutesData` return for a region are those of the last
    `SetSplitTunnelRoutes` for it (the empty ETag and `nil` when there is
    none), both route buckets hold the same regions, and `GetUrlETag`,
    `GetTacticsRecord` and `GetSpeedTestSamplesRecord` return the last write
    to their key. -/
theorem cacheGetters_lastWrite (ops : List CacheOp) (region url networkID : String) :
    (getSplitTunnelRoutesETag (runCacheOps .empty ops) region,
        getSplitTunnelRoutesData (runCacheOps .empty ops) region) =
      (match lastWrite routesWrite region ops with
        | some (etag, data) => (etag, some data)
        | none => ("", none)) ∧
    (runCacheOps .empty ops).splitTunnelRouteETags.keys =
      (runCacheOps .empty ops).splitTunnelRouteData.keys ∧
    getUrlETag (runCacheOps .empty ops) url = (lastWrite urlETagWrite url ops).getD "" ∧
    getTacticsRecord (runCacheOps .empty ops) networkID = lastWrite tacticsWrite networkID ops ∧
    getSpeedTestSamplesRecord (runCacheOps .empty ops) networkID =
      lastWrite speedTestSamplesWrite networkID ops := by
  have hetag := get_runCacheOps_of_putsWrites _ _ putsWrites_routeETags rfl region ops
  have hdata := get_runCacheOps_of_putsWrites _ _ putsWrites_routeData rfl region ops
  rw [lastWrite_map routesWrite Prod.fst] at hetag
  rw [lastWrite_map routesWrite Prod.snd] at hdata
  refine ⟨?_, routeKeys_runCacheOps ops,
    by rw [getUrlETag, get_runCacheOps_of_putsWrites _ _ putsWrites_urlETags rfl],
    get_runCacheOps_of_putsWrites _ _ putsWrites_tactics rfl _ _,
    get_runCacheOps_of_putsWrites _ _ putsWrites_speedTestSamples rfl _ _⟩
  rw [getSplitTunnelRoutesETag, getSplitTunnelRoutesData, hetag, hdata]
  rcases lastWrite routesWrite region ops with _ | ⟨etag, data⟩ <;> rfl

/-! ## SLOKs: the writes since the last delete -/

/-- The abstract SLOK store: the `SetSLOK` calls of a history since its last
    `DeleteSLOKs`, in order. -/
def slokWrites (ops : List CacheOp) : List (String × List UInt8) :=
  ops.foldl (fun acc op =>
    match op with
    | .setSLOK id key => acc ++ [(id, key)]
    | .deleteSLOKs => []
    | _ => acc) []

/-- A bucket built by putting a list of writes, in order, into the empty one. -/
def putAllWrites {V : Type} (writes : List (String × V)) : Bucket V :=
  writes.foldl (fun b w => b.put w.1 w.2) .empty

/-- The SLOK bucket is the writes since the last delete, put in order. -/
theorem sloks_runCacheOps (ops : List CacheOp) :
    (runCacheOps .empty ops).sloks = putAllWrites (slokWrites ops) := by
  induction ops using List.reverseRecOn with
  | nil => rfl
  | append_singleton ops op ih =>
      rw [runCacheOps_append_singleton, slokWrites, List.foldl_append, ← slokWrites]
      cases op with
      | setSLOK id key => simp [CacheOp.apply, setSLOK, ih, putAllWrites, List.foldl_append]
      | deleteSLOKs => rfl
      | _ => exact ih

theorem get_putAllWrites {V : Type} (writes : List (String × V)) (key : String) :
    (putAllWrites writes).get key = (writes.reverse.find? (·.1 = key)).map (·.2) := by
  induction writes using List.reverseRecOn with
  | nil => rfl
  | append_singleton writes w ih =>
      rw [putAllWrites, List.foldl_append, ← putAllWrites, List.foldl_cons, List.foldl_nil,
        Bucket.get_put, ih, List.reverse_append, List.reverse_singleton, List.singleton_append,
        List.find?_cons]
      by_cases h : key = w.1
      · simp [h]
      · simp [h, Ne.symm h]

theorem mem_keys_putAllWrites {V : Type} (writes : List (String × V)) (key : String) :
    key ∈ (putAllWrites writes).keys ↔ key ∈ writes.map Prod.fst := by
  induction writes using List.reverseRecOn with
  | nil => simp [putAllWrites]
  | append_singleton writes w ih =>
      rw [putAllWrites, List.foldl_append, ← putAllWrites, List.foldl_cons, List.foldl_nil,
        Bucket.mem_keys_put, ih]
      simp [or_comm]

/-- **SLOKS SINCE DELETE**: after any history of cache operations from the
    empty buckets, `GetSLOK` returns the last key stored under its ID since the
    last `DeleteSLOKs`, `CountSLOKs` is the number of distinct IDs stored since
    then, and a further `SetSLOK` reports a duplicate exactly for those IDs. -/
theorem sloks_since_delete (ops : List CacheOp) (id : String) (key : List UInt8) :
    getSLOK (runCacheOps .empty ops) id =
        ((slokWrites ops).reverse.find? (·.1 = id)).map (·.2) ∧
      countSLOKs (runCacheOps .empty ops) = ((slokWrites ops).map Prod.fst).toFinset.card ∧
      ((setSLOK (runCacheOps .empty ops) id key).2 = true ↔ id ∈ (slokWrites ops).map Prod.fst) := by
  have hkeys := mem_keys_putAllWrites (slokWrites ops)
  refine ⟨?_, ?_, ?_⟩
  · rw [getSLOK, sloks_runCacheOps, get_putAllWrites]
  · have hnodup : (putAllWrites (slokWrites ops)).keys.Nodup := (putAllWrites _).keys_nodup
    rw [countSLOKs, sloks_runCacheOps, ← List.toFinset_card_of_nodup hnodup]
    congr 1
    ext k
    simp only [List.mem_toFinset, hkeys]
  · rw [setSLOK, sloks_runCacheOps, ← Bucket.mem_keys_iff, hkeys]

end PsiphonCacheBuckets
