import PsiphonTunnel.DataStoreRunProofs
import Mathlib.Data.Finset.Card
import Mathlib.Algebra.Order.Ring.Nat

/-! # Batch stores and scans — StoreServerEntries, its streaming twin, and the counts

    `StoreServerEntries` stores a list of entries with one transaction each;
    `StreamingStoreServerEntries` does the same for the entries a decoder hands
    out one at a time.  `scanServerEntries` walks the server-entry bucket with a
    fresh `nil` pointer for every record and skips the records whose decode
    reports an error; `CountServerEntries`, `CountServerEntriesWithConstraints`
    and `ReportAvailableRegions` are folds over what it visits.
    `CountUnreportedPersistentStats` walks the stat buckets.

    The headline results:

    * `countServerEntries_runOps` — after any run from the empty datastore that
      stores only well-typed entries, CountServerEntries is the number of
      distinct IP addresses stored;
    * `reportAvailableRegions_spec` — the regions reported are, each once, the
      non-empty regions whose constrained count is positive;
    * `countUnreportedPersistentStats_add_outstanding` — in every persistent
      stat state reached from open, the unreported records and the outstanding
      batches together account for every record once.

    The garbage collection these loops trigger every
    `datastoreServerEntryFetchGCThreshold` entries changes no datastore state
    and is left out, as is the error of a view on a closed database. -/

namespace PsiphonStoreScan

open PsiphonBucket PsiphonServerEntry PsiphonDataStore PsiphonDataStoreRun PsiphonPersistentStat

/-! ## Storing a list of entries -/

/-- `StoreServerEntries(config, serverEntries, replaceIfExists)`, with the
    datastore it leaves: each entry is stored in its own transaction, and the
    first error ends the loop with the entries before it stored. -/
def storeServerEntries (db : DataStore) (serverEntries : List ServerEntryFields)
    (replaceIfExists : Bool) : DataStore × Except String Unit :=
  match serverEntries with
  | [] => (db, .ok ())
  | serverEntryFields :: rest =>
      match storeServerEntry db serverEntryFields replaceIfExists with
      | .error err => (db, .error err)
      | .ok db => storeServerEntries db rest replaceIfExists

/-- `StreamingStoreServerEntries(config, serverEntries, replaceIfExists)`: the
    decoder is the list of what its `Next` returns, an entry or an error, and
    its end is the end of the list (`nil, nil`). -/
def streamingStoreServerEntries (db : DataStore)
    (serverEntries : List (Except String ServerEntryFields)) (replaceIfExists : Bool) :
    DataStore × Except String Unit :=
  match serverEntries with
  | [] => (db, .ok ())
  | .error err :: _ => (db, .error err)
  | .ok serverEntry :: rest =>
      match storeServerEntry db serverEntry replaceIfExists with
      | .error err => (db, .error err)
      | .ok db => streamingStoreServerEntries db rest replaceIfExists

/-! ## Scans and counts -/

/-- `scanServerEntries(scanner)`: the entries `scanner` is called with, in
    cursor order.  The pointer is declared inside the loop, so every record is
    decoded into a fresh `nil` one; a record whose decode reports an error is
    skipped. -/
def scanServerEntries (db : DataStore) : List ServerEntry :=
  db.serverEntries.entries.filterMap fun entry => (unmarshalServerEntry none entry.2).toOption

/-- `CountServerEntries()`: one count per entry the scan visits. -/
def countServerEntries (db : DataStore) : Nat := (scanServerEntries db).length

theorem toOption_unmarshalServerEntry_none (r : ServerEntryRecord) :
    (unmarshalServerEntry none r).toOption = decodeFresh r := by
  cases r with
  | json f => cases h : f.illTyped <;> simp [unmarshalServerEntry, decodeFresh, h, Except.toOption]
  | invalidJSON => rfl

/-- Every stored record decodes from a fresh pointer. -/
def AllDecode (db : DataStore) : Prop :=
  ∀ ip record, db.serverEntries.get ip = some record → (decodeFresh record).isSome

/-- With every record decoding, the scan visits every stored server once. -/
theorem countServerEntries_of_allDecode {db : DataStore} (h : AllDecode db) :
    countServerEntries db = db.serverEntries.keys.toFinset.card := by
  have hnodup : db.serverEntries.keys.Nodup := db.serverEntries.keys_nodup
  rw [List.toFinset_card_of_nodup hnodup, countServerEntries, scanServerEntries, Bucket.keys,
    List.length_map]
  suffices ∀ l : List (String × ServerEntryRecord), (∀ e ∈ l, (decodeFresh e.2).isSome) →
      (l.filterMap fun e => (unmarshalServerEntry none e.2).toOption).length = l.length from
    this _ fun e he => h e.1 e.2 (Bucket.get_of_mem_entries he)
  intro l hl
  induction l with
  | nil => rfl
  | cons e l ih =>
      obtain ⟨v, hv⟩ := Option.isSome_iff_exists.mp (hl e (.head _))
      rw [List.filterMap_cons, toOption_unmarshalServerEntry_none, hv, List.length_cons,
        ih fun e' he' => hl e' (.tail _ he'), List.length_cons]

/-- The IP addresses a run stores entries under: those of its
    `StoreServerEntry` calls whose entry validates. -/
def storedIPAddresses : List DataStoreOp → List String
  | [] => []
  | .storeServerEntry f _ :: ops =>
      if (validateServerEntryFields f).toBool then f.getIPAddress :: storedIPAddresses ops
      else storedIPAddresses ops
  | _ :: ops => storedIPAddresses ops

theorem storedIPAddresses_cons (op : DataStoreOp) (ops : List DataStoreOp) :
    storedIPAddresses (op :: ops) = storedIPAddresses [op] ++ storedIPAddresses ops := by
  cases op <;> simp only [storedIPAddresses, List.nil_append, List.singleton_append]
  split <;> rfl

/-- A store that keeps the stored record finds one there. -/
theorem mem_keys_of_not_storeServerEntryUpdates {db : DataStore} {f : ServerEntryFields}
    {r : Bool} (h : storeServerEntryUpdates db f r = false) : f.getIPAddress ∈ db.serverEntries.keys := by
  rw [Bucket.mem_keys_iff, Option.isSome_iff_ne_none]
  intro hnone
  simp [storeServerEntryUpdates, existingConfigurationVersion, hnone] at h

/-- **COUNT STEP**: an operation that stores only well-typed entries keeps every
    record decoding and adds exactly the IP address it stores to the keys. -/
theorem allDecode_apply (isValidJSON : String → Bool) {db : DataStore} (hdb : AllDecode db)
    (op : DataStoreOp) (hop : ∀ f r, op = .storeServerEntry f r → f.illTyped = false) :
    AllDecode (op.apply isValidJSON db) ∧
      (op.apply isValidJSON db).serverEntries.keys.toFinset =
        db.serverEntries.keys.toFinset ∪ (storedIPAddresses [op]).toFinset := by
  by_cases hs : ∀ f r, op ≠ .storeServerEntry f r
  · have hsame := serverEntries_apply isValidJSON db op hs
    have hnil : storedIPAddresses [op] = [] := by cases op <;> first | exact absurd rfl (hs _ _) | rfl
    refine ⟨fun ip v h => hdb ip v (hsame ▸ h), by rw [hsame, hnil]; simp⟩
  push_neg at hs
  obtain ⟨f, r, rfl⟩ := hs
  cases hv : validateServerEntryFields f with
  | error err =>
      have happly : (DataStoreOp.storeServerEntry f r).apply isValidJSON db = db := by
        simp [DataStoreOp.apply, storeServerEntry, hv, Except.toOption]
      rw [happly]
      exact ⟨hdb, by simp [storedIPAddresses, hv, Except.toBool]⟩
  | ok u =>
      cases u
      have hwt := hop f r rfl
      rw [apply_storeServerEntry isValidJSON r hv]
      simp only [storedIPAddresses, hv, Except.toBool, if_true, List.toFinset_cons,
        List.toFinset_nil, insert_emptyc_eq]
      cases hupd : storeServerEntryUpdates db f r
      · have hmem := List.mem_toFinset.mpr (mem_keys_of_not_storeServerEntryUpdates hupd)
        simp only [Bool.false_eq_true, if_false]
        exact ⟨hdb, (Finset.union_eq_left.mpr (Finset.singleton_subset_iff.mpr hmem)).symm⟩
      · simp only [if_true]
        refine ⟨fun ip v h => ?_, ?_⟩
        · rw [Bucket.get_put] at h
          split at h
          · cases h; simp [decodeFresh, hwt]
          · exact hdb ip v h
        · ext ip
          simp [Bucket.mem_keys_put, or_comm]

/-- The run lemma behind `countServerEntries_runOps`, from any datastore whose
    records decode. -/
theorem allDecode_runOps (isValidJSON : String → Bool) :
    ∀ (ops : List DataStoreOp) (db : DataStore), AllDecode db →
      (∀ f r, DataStoreOp.storeServerEntry f r ∈ ops → f.illTyped = false) →
      AllDecode (runOps isValidJSON db ops) ∧
        (runOps isValidJSON db ops).serverEntries.keys.toFinset =
          db.serverEntries.keys.toFinset ∪ (storedIPAddresses ops).toFinset
  | [], db, hdb, _ => ⟨hdb, by simp [runOps, storedIPAddresses]⟩
  | op :: ops, db, hdb, hops => by
      obtain ⟨hdb', hkeys⟩ := allDecode_apply isValidJSON hdb op fun f r h => hops f r (h ▸ .head _)
      obtain ⟨hrun, hkeys'⟩ := allDecode_runOps isValidJSON ops _ hdb' fun f r h => hops f r (.tail _ h)
      refine ⟨hrun, ?_⟩
      simp only [runOps, List.foldl_cons] at hrun hkeys' ⊢
      rw [hkeys', hkeys, storedIPAddresses_cons op ops, List.toFinset_append, Finset.union_assoc]

/-- **COUNT AFTER A RUN**: from the empty datastore, after any run that stores
    only well-typed entries, `CountServerEntries` is the number of distinct IP
    addresses the run stored entries under, whatever the versions and the
    replace flags. -/
theorem countServerEntries_runOps (isValidJSON : String → Bool) (ops : List DataStoreOp)
    (hops : ∀ f r, DataStoreOp.storeServerEntry f r ∈ ops → f.illTyped = false) :
    countServerEntries (runOps isValidJSON .empty ops) = (storedIPAddresses ops).toFinset.card := by
  obtain ⟨hdec, hkeys⟩ := allDecode_runOps isValidJSON ops .empty (fun _ _ h => nomatch h) hops
  rw [countServerEntries_of_allDecode hdec, hkeys]
  simp [DataStore.empty, Bucket.empty, Bucket.keys]

/-- Three stores of two servers, one of them twice: two servers counted. -/
theorem countServerEntries_runOps_three_stores :
    let ops := [DataStoreOp.storeServerEntry { ipAddress := some "192.0.2.1" } false,
      .storeServerEntry { ipAddress := some "192.0.2.1", configurationVersion := some 1 } false,
      .storeServerEntry { ipAddress := some "192.0.2.2" } true]
    (∀ f r, DataStoreOp.storeServerEntry f r ∈ ops → f.illTyped = false) ∧
      countServerEntries (runOps (fun _ => true) .empty ops) = (storedIPAddresses ops).toFinset.card :=
  have hops : ∀ f r, DataStoreOp.storeServerEntry f r ∈
      [DataStoreOp.storeServerEntry { ipAddress := some "192.0.2.1" } false,
        .storeServerEntry { ipAddress := some "192.0.2.1", configurationVersion := some 1 } false,
        .storeServerEntry { ipAddress := some "192.0.2.2" } true] → f.illTyped = false := by
    intro f r h
    simp only [List.mem_cons, DataStoreOp.storeServerEntry.injEq, List.mem_nil_iff, or_false] at h
    rcases h with ⟨rfl, -⟩ | ⟨rfl, -⟩ | ⟨rfl, -⟩ <;> rfl
  ⟨hops, countServerEntries_runOps (fun _ => true) _ hops⟩

section Constraints

variable (isInitialCandidate isCandidate : ServerEntry → Bool)

/-- One pass of the scanner of `CountServerEntriesWithConstraints`. -/
def countStep (region : String) (counts : Nat × Nat) (serverEntry : ServerEntry) : Nat × Nat :=
  if region = "" ∨ serverEntry.region = region then
    (if isInitialCandidate serverEntry then counts.1 + 1 else counts.1,
      if isCandidate serverEntry then counts.2 + 1 else counts.2)
  else counts

/-- `CountServerEntriesWithConstraints(useUpstreamProxy, region, constraints)`:
    `(initialCount, count)`.  `constraints.isInitialCandidate` and
    `constraints.isCandidate`, with `excludeIntensive` false, are the
    parameters; `useUpstreamProxy` is not read. -/
def countServerEntriesWithConstraints (db : DataStore) (region : String) : Nat × Nat :=
  (scanServerEntries db).foldl (countStep isInitialCandidate isCandidate region) (0, 0)

/-- One pass of the scanner of `ReportAvailableRegions`: the candidate test
    is the initial one when the constraints have initial protocols. -/
def regionsStep (hasInitialProtocols : Bool) (regions : Bucket Bool) (serverEntry : ServerEntry) :
    Bucket Bool :=
  if (if hasInitialProtocols then isInitialCandidate serverEntry else isCandidate serverEntry) then
    regions.put serverEntry.region true
  else regions

/-- `ReportAvailableRegions(config, constraints)`: the region list it notices.
    The `regions` map is a bucket; Go ranges over a map in no fixed order, and
    nothing below depends on the order. -/
def reportAvailableRegions (hasInitialProtocols : Bool) (db : DataStore) : List String :=
  let regions := (scanServerEntries db).foldl
    (regionsStep isInitialCandidate isCandidate hasInitialProtocols) .empty
  regions.keys.filter (· ≠ "")

theorem foldl_countStep (region : String) :
    ∀ (l : List ServerEntry) (counts : Nat × Nat),
      l.foldl (countStep isInitialCandidate isCandidate region) counts =
        (counts.1 + l.countP (fun e => decide (region = "" ∨ e.region = region) && isInitialCandidate e),
          counts.2 + l.countP fun e => decide (region = "" ∨ e.region = region) && isCandidate e)
  | [], _ => rfl
  | e :: l, counts => by
      rw [List.foldl_cons, foldl_countStep region l, List.countP_cons, List.countP_cons]
      unfold countStep
      by_cases hr : region = "" ∨ e.region = region <;>
        cases isInitialCandidate e <;> cases isCandidate e <;> simp [hr] <;> omega

theorem mem_keys_foldl_regionsStep (hasInitialProtocols : Bool) (region : String) :
    ∀ (l : List ServerEntry) (regions : Bucket Bool),
      region ∈ (l.foldl (regionsStep isInitialCandidate isCandidate hasInitialProtocols) regions).keys ↔
        region ∈ regions.keys ∨ ∃ e ∈ l, e.region = region ∧
          (if hasInitialProtocols then isInitialCandidate e else isCandidate e) = true
  | [], _ => by simp
  | e :: l, regions => by
      rw [List.foldl_cons, mem_keys_foldl_regionsStep hasInitialProtocols region l]
      simp only [List.mem_cons, exists_eq_or_imp]
      by_cases hc : (if hasInitialProtocols then isInitialCandidate e else isCandidate e) = true
      · simp only [regionsStep, hc, if_true, Bucket.mem_keys_put, and_true, @eq_comm _ region e.region]
        tauto
      · simp only [regionsStep, hc, Bool.false_eq_true, if_false, and_false, false_or]

/-- **AVAILABLE REGIONS**: `ReportAvailableRegions` reports each region once,
    and a region is reported exactly when it is not empty and
    `CountServerEntriesWithConstraints` for it counts a candidate of the kind
    the constraints select. -/
theorem reportAvailableRegions_spec (hasInitialProtocols : Bool) (db : DataStore) :
    (reportAvailableRegions isInitialCandidate isCandidate hasInitialProtocols db).Nodup ∧
      ∀ region, region ∈ reportAvailableRegions isInitialCandidate isCandidate hasInitialProtocols db ↔
        region ≠ "" ∧ 0 < if hasInitialProtocols then
          (countServerEntriesWithConstraints isInitialCandidate isCandidate db region).1
          else (countServerEntriesWithConstraints isInitialCandidate isCandidate db region).2 := by
  refine ⟨Bucket.keys_nodup _ |>.filter _, fun region => ?_⟩
  simp only [reportAvailableRegions, countServerEntriesWithConstraints, List.mem_filter,
    mem_keys_foldl_regionsStep, Bucket.keys_empty, List.not_mem_nil, false_or, foldl_countStep,
    zero_add, decide_eq_true_eq, ne_eq]
  constructor
  · rintro ⟨⟨e, he, rfl, hc⟩, hne⟩
    refine ⟨hne, ?_⟩
    cases hasInitialProtocols <;> exact List.countP_pos_iff.mpr ⟨e, he, by simpa using hc⟩
  · rintro ⟨hne, hpos⟩
    refine ⟨?_, hne⟩
    cases hasInitialProtocols <;>
      obtain ⟨e, he, hc⟩ := List.countP_pos_iff.mp hpos <;>
      exact ⟨e, he, by simp_all⟩

end Constraints

/-! ## Unreported persistent stats -/

/-- `CountUnreportedPersistentStats()`: the records in state unreported, over
    the buckets of every stat type. -/
def countUnreportedPersistentStats (db : DataStore) : Nat :=
  (persistentStatTypes.map fun statType =>
    (statBucket db statType).entries.countP fun entry => entry.2 = persistentStatStateUnreported).sum

section Count

variable (isValidJSON : String → Bool)

/-- Per stat type, the invariant splits the records into the unreported ones
    and those of the outstanding batches. -/
theorem countP_unreported_add_outstanding {s : StatsState} (hinv : StatsInvariant isValidJSON s)
    (t : PersistentStatType) :
    (statBucket s.db t).entries.countP (fun entry => entry.2 = persistentStatStateUnreported) +
        (s.outstanding.flatMap (· t)).length = (statBucket s.db t).keys.length := by
  set b := statBucket s.db t with hb
  have hstate : ∀ e ∈ b.entries, b.get e.1 = some e.2 := fun e he => Bucket.get_of_mem_entries he
  -- every record is unreported or reporting
  have hsplit : b.entries.length =
      b.entries.countP (fun e => e.2 = persistentStatStateUnreported) +
        b.entries.countP (fun e => e.2 = persistentStatStateReporting) := by
    rw [List.length_eq_countP_add_countP (fun e => decide (e.2 = persistentStatStateUnreported))]
    congr 1
    refine List.countP_congr fun e he => ?_
    rcases hinv.states t e.1 e.2 (hstate e he) with h | h <;>
      simp [h, unreported_ne_reporting, unreported_ne_reporting.symm]
  -- the reporting records are the keys held by an outstanding batch
  have hrep : b.entries.countP (fun e => e.2 = persistentStatStateReporting) =
      (b.keys.filter fun k => ∃ batch ∈ s.outstanding, k ∈ batch t).length := by
    rw [← List.countP_eq_length_filter, Bucket.keys, List.countP_map]
    refine List.countP_congr fun e he => ?_
    simp only [Function.comp_apply, decide_eq_true_eq, ← hinv.reporting t e.1, hb, hstate e he,
      Option.some.injEq, eq_comm]
  have hperm : (b.keys.filter fun k => ∃ batch ∈ s.outstanding, k ∈ batch t).Perm
      (s.outstanding.flatMap (· t)) := by
    refine (List.perm_ext_iff_of_nodup (b.keys_nodup.filter _) ?_).mpr fun k => ?_
    · exact List.nodup_flatMap.mpr ⟨fun batch h => hinv.nodup batch h t,
        hinv.disjoint.imp fun h k hk hk' => h t k hk hk'⟩
    · simp only [List.mem_filter, List.mem_flatMap, decide_eq_true_eq]
      refine ⟨And.right, fun h => ⟨Bucket.mem_keys_iff.mpr ?_, h⟩⟩
      rw [hb, (hinv.reporting t k).mpr h]; rfl
  rw [hperm.length_eq.symm, ← hrep, ← hsplit, Bucket.keys, List.length_map]

/-- **NOTHING UNCOUNTED**: in every persistent-stat state reached from the
    reset at open, `CountUnreportedPersistentStats` plus the sizes of the
    batches handed out and not yet put back or cleared is the number of stored
    records. -/
theorem countUnreportedPersistentStats_add_outstanding {s : StatsState}
    (h : StatsReachable isValidJSON s) :
    countUnreportedPersistentStats s.db +
        (s.outstanding.map fun batch => (persistentStatTypes.map fun t => (batch t).length).sum).sum =
      (persistentStatTypes.map fun t => (statBucket s.db t).keys.length).sum := by
  have hinv : StatsInvariant isValidJSON s := by
    induction h with
    | opened db => exact statsInvariant_opened isValidJSON db
    | step _ _ hs ih => exact statsStep_invariant isValidJSON ih hs
  have hrsl := countP_unreported_add_outstanding isValidJSON hinv .remoteServerList
  have hft := countP_unreported_add_outstanding isValidJSON hinv .failedTunnel
  rw [List.length_flatMap] at hrsl hft
  simp only [countUnreportedPersistentStats, persistentStatTypes, List.map_cons, List.map_nil,
    List.sum_cons, List.sum_nil, add_zero, List.sum_map_add] at hrsl hft ⊢
  simp only [Function.comp_def] at hrsl hft
  rw [← hrsl, ← hft]
  ac_rfl

/-- After a stored stat and one TakeOut, the taken record is counted in its
    batch and not as unreported. -/
theorem countUnreportedPersistentStats_after_takeOut :
    let s₀ : StatsState := ⟨resetAllPersistentStatsToUnreported DataStore.empty, []⟩
    let s₁ : StatsState := (statsStep (fun _ => true) s₀
      (.storePersistentStat { persistentStatsMaxStoreRecords := 10 } "failedTunnelStats"
        "{}")).getD s₀
    let s₂ : StatsState := (statsStep (fun _ => true) s₁
      (.takeOut { persistentStatsMaxSendBytes := 100 })).getD s₁
    countUnreportedPersistentStats s₂.db +
        (s₂.outstanding.map fun batch => (persistentStatTypes.map fun t => (batch t).length).sum).sum =
      (persistentStatTypes.map fun t => (statBucket s₂.db t).keys.length).sum :=
  countUnreportedPersistentStats_add_outstanding (fun _ => true)
    (.step (.takeOut { persistentStatsMaxSendBytes := 100 })
      (.step (.storePersistentStat { persistentStatsMaxStoreRecords := 10 }
        "failedTunnelStats" "{}") (.opened DataStore.empty) rfl) rfl)

end Count

end PsiphonStoreScan
