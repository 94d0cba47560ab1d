import PsiphonTunnel.DataStoreProofs
import Mathlib.Data.List.Perm.Basic

/-! # The server-entry iterator — `reset` and `Next` as the code computes them

    `reset` builds the candidate list in four steps: the affinity ID in slot 0
    (first round, affinity applied, an ID stored), every other stored key in
    cursor order, a Fisher–Yates shuffle of the slots from `shuffleHead` on drawn
    from the global PRNG, and — first round with a positive replay candidate
    count — a two-pointer partition moving servers with a dial-parameter record
    to the front of the shuffled region.  `Next` then walks the list from the
    cursor, skipping IDs with no record, records that do not decode, and entries
    that fail the iterator's filter.

    Two details of `Next` are kept as the code has them: the `serverEntry`
    pointer is declared once before the loop and decoded INTO on every pass
    (`nextLoop` threads it), and the `err` it assigns is the one a deferred
    `Close` reads when the call returns.

    The global PRNG is the list of its raw draws; `prng.Intn(n)` reduces the next
    one into `[0, n)`, so every outcome sequence is some list of draws.

    The headline facts here are the permutation lemmas: both loops of `reset`
    only swap slots at or past `shuffleHead`, so the list `reset` returns is a
    permutation of the collected IDs (`buildServerEntryIDs_perm`): every stored
    server once, and the affinity ID (`reset_lists_each_server_once`), kept in
    slot 0 (`buildServerEntryIDs_head`). -/

namespace PsiphonIterator

open PsiphonBucket PsiphonServerEntry PsiphonDataStore

/-! ## Slot swaps -/

/-- `s[i], s[j] = s[j], s[i]`; out-of-range indices (a panic in Go, never
    reached here) leave the list as it is. -/
def swapAt {α : Type} (s : List α) (i j : Nat) : List α :=
  match s[i]?, s[j]? with
  | some a, some b => (s.set i b).set j a
  | _, _ => s

theorem swapAt_perm {α : Type} [DecidableEq α] (s : List α) (i j : Nat) :
    (swapAt s i j).Perm s := by
  unfold swapAt
  split
  · rename_i a b ha hb
    obtain ⟨hi, rfl⟩ := List.getElem?_eq_some_iff.mp ha
    obtain ⟨hj, rfl⟩ := List.getElem?_eq_some_iff.mp hb
    rw [List.perm_iff_count]
    intro x
    have hjs : j < (s.set i s[j]).length := by simpa using hj
    have h3 : (s.set i s[j])[j] = s[j] := by
      rw [List.getElem_set]; split <;> rfl
    rw [List.count_set _ _ _ _ hjs, h3, List.count_set _ _ _ _ hi]
    have h4 : (if s[i] == x then 1 else 0) ≤ s.count x := by
      split
      · rename_i h
        exact List.count_pos_iff.mpr (beq_iff_eq.mp h ▸ List.getElem_mem ..)
      · exact Nat.zero_le _
    split_ifs at h4 ⊢ <;> omega
  · rfl

/-- A swap leaves every other slot alone. -/
theorem swapAt_getElem?_of_ne {α : Type} (s : List α) {i j k : Nat} (hi : k ≠ i) (hj : k ≠ j) :
    (swapAt s i j)[k]? = s[k]? := by
  unfold swapAt
  split
  · simp [List.getElem?_set, Ne.symm hi, Ne.symm hj]
  · rfl

@[simp] theorem length_swapAt {α : Type} (s : List α) (i j : Nat) :
    (swapAt s i j).length = s.length := by
  unfold swapAt
  split <;> simp

/-- Every slot of a swap of two slots in range. -/
theorem getElem?_swapAt {α : Type} {s : List α} {i j : Nat} (hi : i < s.length)
    (hj : j < s.length) (k : Nat) :
    (swapAt s i j)[k]? = if k = j then s[i]? else if k = i then s[j]? else s[k]? := by
  simp only [swapAt, List.getElem?_eq_getElem hi, List.getElem?_eq_getElem hj,
    List.getElem?_set, List.length_set]
  by_cases hkj : k = j
  · subst hkj; simp [hj]
  · by_cases hki : k = i
    · subst hki; simp [hi, Ne.symm hkj, hkj]
    · simp [Ne.symm hkj, Ne.symm hki, hkj, hki]

/-- A swap with a slot out of range leaves the list as it is. -/
theorem swapAt_of_not_lt {α : Type} {s : List α} {i j : Nat}
    (h : ¬(i < s.length ∧ j < s.length)) : swapAt s i j = s := by
  unfold swapAt
  split
  · rename_i a b ha hb
    exact absurd ⟨(List.getElem?_eq_some_iff.mp ha).1, (List.getElem?_eq_some_iff.mp hb).1⟩ h
  · rfl

theorem swapAt_self {α : Type} (s : List α) (i : Nat) : swapAt s i i = s := by
  by_cases hi : i < s.length
  · refine List.ext_getElem? fun k => ?_
    rw [getElem?_swapAt hi hi]
    split <;> simp_all
  · exact swapAt_of_not_lt fun h => hi h.1

/-- Swapping back undoes a swap. -/
theorem swapAt_swapAt {α : Type} (s : List α) (i j : Nat) : swapAt (swapAt s i j) j i = s := by
  by_cases h : i < s.length ∧ j < s.length
  · refine List.ext_getElem? fun k => ?_
    rw [getElem?_swapAt (by simpa using h.2) (by simpa using h.1), getElem?_swapAt h.1 h.2,
      getElem?_swapAt h.1 h.2, getElem?_swapAt h.1 h.2]
    split_ifs <;> simp_all
  · rw [swapAt_of_not_lt h, swapAt_of_not_lt fun h' => h ⟨h'.2, h'.1⟩]

/-! ## The shuffle -/

/-- `prng.Intn(n)` on the global PRNG: the next raw draw reduced into `[0, n)`. -/
def intn (draws : List Nat) (n : Nat) : Nat × List Nat :=
  match draws with
  | [] => (0, [])
  | r :: rest => (r % n, rest)

/-- The shuffle loop of `reset`, with `k` iterations left: at `i = shuffleHead + k - 1`
    swap slot `i` with `j := prng.Intn(i + 1 - shuffleHead) + shuffleHead`. -/
def shuffleFrom (shuffleHead : Nat) : Nat → List String → List Nat → List String × List Nat
  | 0, serverEntryIDs, draws => (serverEntryIDs, draws)
  | k + 1, serverEntryIDs, draws =>
      let i := shuffleHead + k
      let (r, draws) := intn draws (i + 1 - shuffleHead)
      shuffleFrom shuffleHead k (swapAt serverEntryIDs i (r + shuffleHead)) draws

theorem shuffleFrom_perm (h : Nat) :
    ∀ (k : Nat) (s : List String) (d : List Nat), (shuffleFrom h k s d).1.Perm s
  | 0, _, _ => .refl _
  | k + 1, _, _ => (shuffleFrom_perm h k ..).trans (swapAt_perm ..)

/-- The shuffle never moves a slot below `shuffleHead`. -/
theorem shuffleFrom_getElem?_of_lt (h : Nat) {m : Nat} (hm : m < h) :
    ∀ (k : Nat) (s : List String) (d : List Nat), (shuffleFrom h k s d).1[m]? = s[m]?
  | 0, _, _ => rfl
  | k + 1, s, d => by
      rw [shuffleFrom, shuffleFrom_getElem?_of_lt h hm k]
      exact swapAt_getElem?_of_ne _ (by omega) (by omega)

/-! ## The replay partition -/

section Partition

variable (hasRecord : String → Bool)

/-- `for ; i < j; i++ { if no record for serverEntryIDs[i] { break } }`. -/
def scanFront (s : List String) (i j : Nat) : Nat :=
  if i < j then (if hasRecord (s.getD i "") then scanFront s (i + 1) j else i) else i
termination_by j - i

/-- `for ; i < j; j-- { if a record for serverEntryIDs[j] { break } }`. -/
def scanBack (s : List String) (i j : Nat) : Nat :=
  if i < j then (if hasRecord (s.getD j "") then j else scanBack s i (j - 1)) else j
termination_by j - i

theorem le_scanFront (s : List String) (i j : Nat) : i ≤ scanFront hasRecord s i j := by
  rw [scanFront]
  split
  · split
    · have := le_scanFront s (i + 1) j; omega
    · exact le_refl _
  · exact le_refl _
termination_by j - i

theorem scanBack_le (s : List String) (i j : Nat) : scanBack hasRecord s i j ≤ j := by
  rw [scanBack]
  split
  · split
    · exact le_refl _
    · have := scanBack_le s i (j - 1); omega
  · exact le_refl _
termination_by j - i

/-- The two-pointer loop of `reset`: scan `i` forward past servers with a
    record, `j` back past servers without one, swap and step both, until the
    pointers meet. -/
def partitionLoop (s : List String) (i j : Nat) : List String :=
  let i' := scanFront hasRecord s i j
  let j' := scanBack hasRecord s i' j
  if i' < j' then partitionLoop (swapAt s i' j') (i' + 1) (j' - 1) else s
termination_by j - i
decreasing_by
  have h1 := le_scanFront hasRecord s i j
  have h2 := scanBack_le hasRecord s (scanFront hasRecord s i j) j
  have h3 : scanFront hasRecord s i j < scanBack hasRecord s (scanFront hasRecord s i j) j := ‹_›
  omega

theorem partitionLoop_perm (s : List String) (i j : Nat) :
    (partitionLoop hasRecord s i j).Perm s := by
  rw [partitionLoop]
  split
  · exact (partitionLoop_perm ..).trans (swapAt_perm ..)
  · exact .refl _
termination_by j - i
decreasing_by
  have h1 := le_scanFront hasRecord s i j
  have h2 := scanBack_le hasRecord s (scanFront hasRecord s i j) j
  omega

/-- The partition never moves a slot below its starting pointer. -/
theorem partitionLoop_getElem?_of_lt (s : List String) (i j : Nat) {m : Nat} (hm : m < i) :
    (partitionLoop hasRecord s i j)[m]? = s[m]? := by
  have h1 := le_scanFront hasRecord s i j
  rw [partitionLoop]
  split
  · rw [partitionLoop_getElem?_of_lt _ _ _ (by omega)]
    exact swapAt_getElem?_of_ne _ (by omega) (by omega)
  · rfl
termination_by j - i
decreasing_by
  have h2 := scanBack_le hasRecord s (scanFront hasRecord s i j) j
  omega

end Partition

/-! ## The iterator -/

/-- `ServerEntryIterator`.  A target-entry iterator has no config in Go (`nil`)
    and never reads one; it gets the default config here. -/
structure ServerEntryIterator where
  config : Config
  applyServerAffinity : Bool := false
  serverEntryIDs : List String := []
  serverEntryIndex : Nat := 0
  isTacticsServerEntryIterator : Bool := false
  isTargetServerEntryIterator : Bool := false
  hasNextTargetServerEntry : Bool := false
  targetServerEntry : ServerEntry := .zero

/-- `dialParamsBucket.get(makeDialParametersKey(serverEntryID, networkID)) != nil`. -/
def hasDialParameters (db : DataStore) (networkID serverEntryID : String) : Bool :=
  (getDialParameters db serverEntryID networkID).isSome

/-- Pairs that glue to the same key share one record: setting or deleting the
    record of one sets or deletes the other's, and `reset`'s replay partition
    counts the other as having a record on its network when only the first was
    ever set. -/
theorem dialParameters_shared_by_glued_pairs {ip₁ net₁ ip₂ net₂ : String}
    (hkey : ip₁ ++ net₁ = ip₂ ++ net₂) (db : DataStore) (data : String) :
    getDialParameters (setDialParameters db ip₁ net₁ data) ip₂ net₂ = some data ∧
      getDialParameters (deleteDialParameters db ip₁ net₁) ip₂ net₂ = none ∧
      hasDialParameters (setDialParameters DataStore.empty ip₁ net₁ data) net₂ ip₂ = true := by
  simp [hasDialParameters, getDialParameters_setDialParameters,
    getDialParameters_deleteDialParameters, hkey]

/-- `("192.0.2.1", "0")` and `("192.0.2.10", "")`: two pairs, one key. -/
theorem dialParameters_shared_by_glued_pairs_for_ip_suffix :
    ("192.0.2.1", "0") ≠ ("192.0.2.10", "") ∧ "192.0.2.1" ++ "0" = "192.0.2.10" ++ "" ∧
      getDialParameters DataStore.empty "192.0.2.10" "" = none ∧
      getDialParameters (setDialParameters DataStore.empty "192.0.2.1" "0" "dial")
          "192.0.2.10" "" = some "dial" ∧
        getDialParameters (deleteDialParameters DataStore.empty "192.0.2.1" "0")
          "192.0.2.10" "" = none ∧
        hasDialParameters (setDialParameters DataStore.empty "192.0.2.1" "0" "dial") ""
          "192.0.2.10" = true :=
  ⟨by decide, rfl, rfl, dialParameters_shared_by_glued_pairs rfl DataStore.empty "dial"⟩

/-- The IDs `reset` collects: the affinity ID, when there is one, then every
    other stored key in cursor order. -/
def collectServerEntryIDs (db : DataStore) (affinityServerEntryID : Option String) :
    List String :=
  affinityServerEntryID.toList ++
    db.serverEntries.keys.filter (fun key => affinityServerEntryID ≠ some key)

/-- The affinity ID `reset` puts in slot 0: first round with affinity applied
    only, and only when one is stored. -/
def resetAffinityServerEntryID (db : DataStore) (applyServerAffinity isInitialRound : Bool) :
    Option String :=
  if isInitialRound && applyServerAffinity then
    db.keyValues.get datastoreAffinityServerEntryIDKey
  else none

/-- The list `reset` builds inside its read transaction, and the PRNG draws left. -/
def buildServerEntryIDs (db : DataStore) (config : Config)
    (applyServerAffinity isInitialRound : Bool) (draws : List Nat) : List String × List Nat :=
  let affinityServerEntryID := resetAffinityServerEntryID db applyServerAffinity isInitialRound
  let shuffleHead := if affinityServerEntryID.isSome then 1 else 0
  let serverEntryIDs := collectServerEntryIDs db affinityServerEntryID
  let (serverEntryIDs, draws) :=
    shuffleFrom shuffleHead (serverEntryIDs.length - shuffleHead) serverEntryIDs draws
  let serverEntryIDs :=
    if isInitialRound && decide (config.replayCandidateCount > 0) then
      partitionLoop (hasDialParameters db config.networkID) serverEntryIDs shuffleHead
        (serverEntryIDs.length - 1)
    else serverEntryIDs
  (serverEntryIDs, draws)

namespace ServerEntryIterator

/-- `Close`. -/
def close (it : ServerEntryIterator) : ServerEntryIterator :=
  { it with serverEntryIDs := [], serverEntryIndex := 0 }

/-- `reset(isInitialRound)`, drawing its shuffle from the global PRNG. -/
def reset (db : DataStore) (it : ServerEntryIterator) (isInitialRound : Bool)
    (draws : List Nat) : ServerEntryIterator × List Nat :=
  let it := it.close
  if it.isTargetServerEntryIterator then ({ it with hasNextTargetServerEntry := true }, draws)
  else
    let (serverEntryIDs, draws) :=
      buildServerEntryIDs db it.config it.applyServerAffinity isInitialRound draws
    ({ it with serverEntryIDs := serverEntryIDs, serverEntryIndex := 0 }, draws)

/-- `Reset()`: the start of a later cycle, with no affinity slot and no replay
    partition. -/
def Reset (db : DataStore) (it : ServerEntryIterator) (draws : List Nat) :
    ServerEntryIterator × List Nat :=
  it.reset db false draws

end ServerEntryIterator

/-- How `Next`'s filter loop ends: an entry found, the cursor after it; or the
    end of the list, with the `err` the deferred `Close` reads. -/
inductive NextResult where
  | found (serverEntry : ServerEntry) (serverEntryIndex : Nat)
  | endOfList (serverEntryIndex : Nat) (err : Bool)

section Next

variable (tacticsCapable : String → Bool)

/-- The loop of `Next` over the IDs from the cursor on.  `serverEntry` is the
    pointer declared once before the loop; `err` is the error last assigned. -/
def nextLoop (db : DataStore) (isTactics : Bool) (egressRegion : String) :
    Option ServerEntry → Bool → List String → Nat → NextResult
  | _, err, [], serverEntryIndex => .endOfList serverEntryIndex err
  | serverEntry, _, serverEntryID :: rest, serverEntryIndex =>
      match db.serverEntries.get serverEntryID with
      | none => nextLoop db isTactics egressRegion serverEntry false rest (serverEntryIndex + 1)
      | some data =>
          match unmarshalServerEntry serverEntry data with
          | .error serverEntry =>
              nextLoop db isTactics egressRegion serverEntry true rest (serverEntryIndex + 1)
          | .ok e =>
              if passesIteratorFilter tacticsCapable isTactics egressRegion e then
                .found e (serverEntryIndex + 1)
              else nextLoop db isTactics egressRegion (some e) false rest (serverEntryIndex + 1)

/-- `ServerEntryIterator.Next`: the next entry by rank, or `none` at the end. -/
def ServerEntryIterator.next (db : DataStore) (it : ServerEntryIterator) :
    Option ServerEntry × ServerEntryIterator :=
  if it.isTargetServerEntryIterator then
    if it.hasNextTargetServerEntry then
      let serverEntry := makeCompatibleServerEntry it.targetServerEntry
      (some serverEntry,
        { it with hasNextTargetServerEntry := false, targetServerEntry := serverEntry })
    else (none, it)
  else
    match nextLoop tacticsCapable db it.isTacticsServerEntryIterator it.config.egressRegion
        none false (it.serverEntryIDs.drop it.serverEntryIndex) it.serverEntryIndex with
    | .found serverEntry serverEntryIndex =>
        (some (makeCompatibleServerEntry serverEntry), { it with serverEntryIndex })
    | .endOfList serverEntryIndex err =>
        (none, if err then it.close else { it with serverEntryIndex })

/-! ## Construction -/

variable (decodeServerEntry : String → Except String ServerEntry)
  (getSupportedProtocols : ServerEntry → Bool → List String → List String)

/-- `newTargetServerEntryIterator`; `protocol.DecodeServerEntry` and
    `GetSupportedProtocols` are not in the sources and are parameters. -/
def newTargetServerEntryIterator (config : Config) (isTactics : Bool) :
    Except String (Bool × ServerEntryIterator) := do
  let serverEntry ← decodeServerEntry config.targetServerEntry
  if isTactics then
    if (getSupportedTacticsProtocols tacticsCapable serverEntry).length = 0 then
      throw "TargetServerEntry does not support tactics protocols"
  else
    if config.egressRegion ≠ "" ∧ serverEntry.region ≠ config.egressRegion then
      throw "TargetServerEntry does not support EgressRegion"
    if config.limitTunnelProtocols.length > 0 ∧
        (getSupportedProtocols serverEntry config.useUpstreamProxy
          config.limitTunnelProtocols).length = 0 then
      throw "TargetServerEntry does not support LimitTunnelProtocols"
  return (false,
    { config := ({} : Config), isTacticsServerEntryIterator := isTactics,
      isTargetServerEntryIterator := true, hasNextTargetServerEntry := true,
      targetServerEntry := serverEntry })

/-- `NewServerEntryIterator(config)`: whether to treat the first server as the
    affinity server, and the iterator after its first-round `reset`. -/
def newServerEntryIterator (db : DataStore) (config : Config) (draws : List Nat) :
    Except String (Bool × ServerEntryIterator) × List Nat :=
  if config.targetServerEntry ≠ "" then
    (newTargetServerEntryIterator tacticsCapable decodeServerEntry getSupportedProtocols config
      false, draws)
  else
    let applyServerAffinity := !hasServerEntryFilterChanged db config
    let (iterator, draws) :=
      ServerEntryIterator.reset db { config, applyServerAffinity } true draws
    (.ok (applyServerAffinity, iterator), draws)

/-- `NewTacticsServerEntryIterator(config)`. -/
def newTacticsServerEntryIterator (db : DataStore) (config : Config) (draws : List Nat) :
    Except String ServerEntryIterator × List Nat :=
  if config.targetServerEntry ≠ "" then
    ((newTargetServerEntryIterator tacticsCapable decodeServerEntry getSupportedProtocols config
      true).map Prod.snd, draws)
  else
    let (iterator, draws) :=
      ServerEntryIterator.reset db { config, isTacticsServerEntryIterator := true } true draws
    (.ok iterator, draws)

/-- A target iterator never reports affinity. -/
theorem newTargetServerEntryIterator_no_affinity {config : Config} {isTactics b : Bool}
    {it : ServerEntryIterator}
    (h : newTargetServerEntryIterator tacticsCapable decodeServerEntry getSupportedProtocols config
      isTactics = .ok (b, it)) : b = false := by
  simp only [newTargetServerEntryIterator, bind, Except.bind] at h
  split at h
  · cases h
  · repeat' split at h
    all_goals cases h <;> rfl

/-- Without a target, `NewServerEntryIterator` applies affinity exactly when the
    stored filter is unchanged, and resets an initial round under that flag. -/
theorem newServerEntryIterator_of_not_target (db : DataStore) {config : Config}
    (draws : List Nat) (hT : config.targetServerEntry = "") :
    (newServerEntryIterator tacticsCapable decodeServerEntry getSupportedProtocols db config
        draws).1 =
      .ok (!hasServerEntryFilterChanged db config,
        (ServerEntryIterator.reset db
          { config, applyServerAffinity := !hasServerEntryFilterChanged db config } true draws).1) := by
  simp [newServerEntryIterator, hT]

end Next

/-! ## What `reset` builds -/

theorem collectServerEntryIDs_nodup (db : DataStore) (a : Option String) :
    (collectServerEntryIDs db a).Nodup := by
  rw [collectServerEntryIDs, List.nodup_append]
  refine ⟨Option.toList_nodup _, db.serverEntries.keys_nodup.filter _, ?_⟩
  intro x hx hy
  simp only [Option.mem_toList] at hx
  simp only [List.mem_filter, decide_eq_true_eq] at hy
  exact hy.2 hx

theorem mem_collectServerEntryIDs {db : DataStore} {a : Option String} {id : String} :
    id ∈ collectServerEntryIDs db a ↔ a = some id ∨ id ∈ db.serverEntries.keys := by
  by_cases h : a = some id <;> simp [collectServerEntryIDs, h, Option.mem_toList, eq_comm]

theorem reset_of_not_target {db : DataStore} {it : ServerEntryIterator} (r : Bool)
    (d : List Nat) (h : it.isTargetServerEntryIterator = false) :
    it.reset db r d =
      ({ it with
          serverEntryIDs := (buildServerEntryIDs db it.config it.applyServerAffinity r d).1,
          serverEntryIndex := 0 },
        (buildServerEntryIDs db it.config it.applyServerAffinity r d).2) := by
  simp [ServerEntryIterator.reset, ServerEntryIterator.close, h]

/-- **RESET PERMUTES**: the list `reset` builds is a permutation of the
    collected IDs. -/
theorem buildServerEntryIDs_perm (db : DataStore) (c : Config) (a r : Bool) (d : List Nat) :
    (buildServerEntryIDs db c a r d).1.Perm
      (collectServerEntryIDs db (resetAffinityServerEntryID db a r)) := by
  simp only [buildServerEntryIDs]
  split
  · exact (partitionLoop_perm ..).trans (shuffleFrom_perm ..)
  · exact shuffleFrom_perm ..

/-- **EACH SERVER ONCE**: outside a target iterator, the list `reset` builds
    holds every stored server exactly once and, besides them, only the
    affinity ID: the shuffle and the replay partition lose and repeat nothing. -/
theorem reset_lists_each_server_once (db : DataStore) (it : ServerEntryIterator) (r : Bool)
    (d : List Nat) (hT : it.isTargetServerEntryIterator = false) :
    let serverEntryIDs := (it.reset db r d).1.serverEntryIDs
    serverEntryIDs.Nodup ∧ ∀ id, id ∈ serverEntryIDs ↔
      resetAffinityServerEntryID db it.applyServerAffinity r = some id ∨
        id ∈ db.serverEntries.keys := by
  have hperm := buildServerEntryIDs_perm db it.config it.applyServerAffinity r d
  rw [reset_of_not_target r d hT]
  exact ⟨hperm.nodup_iff.mpr (collectServerEntryIDs_nodup _ _),
    fun _ => hperm.mem_iff.trans mem_collectServerEntryIDs⟩

/-- An initial round with affinity to a server that is not stored. -/
theorem reset_lists_each_server_once_of_unstored_affinity :
    let db := setKeyValue DataStore.empty datastoreAffinityServerEntryIDKey "192.0.2.1"
    let it : ServerEntryIterator := { config := {}, applyServerAffinity := true }
    it.isTargetServerEntryIterator = false ∧
      let serverEntryIDs := (it.reset db true []).1.serverEntryIDs
      serverEntryIDs.Nodup ∧ ∀ id, id ∈ serverEntryIDs ↔
        resetAffinityServerEntryID db it.applyServerAffinity true = some id ∨
          id ∈ db.serverEntries.keys :=
  ⟨rfl, reset_lists_each_server_once _ { config := {}, applyServerAffinity := true } true [] rfl⟩

/-- **AFFINITY SLOT KEPT**: the affinity ID stays in slot 0 through the shuffle
    and the partition. -/
theorem buildServerEntryIDs_head {db : DataStore} (c : Config) {a r : Bool} (d : List Nat)
    {id : String} (h : resetAffinityServerEntryID db a r = some id) :
    (buildServerEntryIDs db c a r d).1[0]? = some id := by
  have h0 : (collectServerEntryIDs db (some id))[0]? = some id := by simp [collectServerEntryIDs]
  have hs : 0 < if (some id).isSome then 1 else 0 := by simp
  simp only [buildServerEntryIDs, h]
  split
  · rw [partitionLoop_getElem?_of_lt _ _ _ _ hs, shuffleFrom_getElem?_of_lt _ hs, h0]
  · rw [shuffleFrom_getElem?_of_lt _ hs, h0]

end PsiphonIterator
