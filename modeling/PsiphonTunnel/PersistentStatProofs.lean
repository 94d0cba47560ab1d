import PsiphonTunnel.DataStoreProofs
import Mathlib.Data.List.Perm.Basic
import Mathlib.Algebra.Ring.Int.Defs

/-! # Persistent stats — take out, put back, clear: nothing lost, nothing twice

    Persistent stat records live in two buckets, one per stat type, each record
    a stat (its JSON is the key) and a one-byte state: unreported (`"0"`) or
    reporting (`"1"`).  `TakeOutUnreportedPersistentStats` marks a batch of
    unreported records as reporting and hands it out; the caller then either
    puts the batch back (`PutBackUnreportedPersistentStats`) or deletes it
    (`ClearReportedPersistentStats`).  `OpenDataStore` first resets every record
    to unreported.

    The state machine (`statsStep`) runs these operations on the datastore and
    keeps the batches handed out and not yet consumed; each batch is consumed
    once.  Its invariant (`StatsInvariant`): every state is one of the two, the
    reporting records are exactly those of the outstanding batches, and the
    batches are disjoint and duplicate-free.  Together with `RemovalsAllowed` —
    a record leaves only by being cleared or by failing TakeOut's JSON test —
    this is `persistentStats_invariant`. -/

namespace PsiphonPersistentStat

open PsiphonBucket PsiphonDataStore

/-- `persistentStatStateUnreported`. -/
def persistentStatStateUnreported : String := "0"

/-- `persistentStatStateReporting`. -/
def persistentStatStateReporting : String := "1"

/-- The entries of `persistentStatTypes`, each naming its bucket. -/
inductive PersistentStatType where
  | remoteServerList
  | failedTunnel
  deriving DecidableEq, Repr

/-- `persistentStatTypes`. -/
def persistentStatTypes : List PersistentStatType := [.remoteServerList, .failedTunnel]

/-- `common.Contains(persistentStatTypes, statType)`: the type a stat type
    string names, if any. -/
def persistentStatTypeOf (statType : String) : Option PersistentStatType :=
  if statType = "remoteServerListStats" then some .remoteServerList
  else if statType = "failedTunnelStats" then some .failedTunnel
  else none

/-- The bucket of a stat type. -/
def statBucket (db : DataStore) : PersistentStatType → Bucket String
  | .remoteServerList => db.remoteServerListStats
  | .failedTunnel => db.failedTunnelStats

/-- Replace the bucket of a stat type. -/
def setStatBucket (db : DataStore) : PersistentStatType → Bucket String → DataStore
  | .remoteServerList, b => { db with remoteServerListStats := b }
  | .failedTunnel, b => { db with failedTunnelStats := b }

@[simp] theorem statBucket_setStatBucket (db : DataStore) (t t' : PersistentStatType)
    (b : Bucket String) :
    statBucket (setStatBucket db t b) t' = if t' = t then b else statBucket db t' := by
  cases t <;> cases t' <;> rfl

/-- Apply `f` to the bucket of every stat type, in `persistentStatTypes` order. -/
def forEachStatType (f : PersistentStatType → Bucket String → Bucket String) (db : DataStore) :
    DataStore :=
  persistentStatTypes.foldl (fun db t => setStatBucket db t (f t (statBucket db t))) db

@[simp] theorem statBucket_forEachStatType (f : PersistentStatType → Bucket String → Bucket String)
    (db : DataStore) (t : PersistentStatType) :
    statBucket (forEachStatType f db) t = f t (statBucket db t) := by
  cases t <;> simp [forEachStatType, persistentStatTypes]

/-- A stat-record map `map[string][][]byte`, by stat type. -/
abbrev PersistentStats := PersistentStatType → List String

/-- Put `value` under each of `keys`, in order. -/
def putAll (b : Bucket String) (keys : List String) (value : String) : Bucket String :=
  keys.foldl (fun b key => b.put key value) b

/-- Delete each of `keys`. -/
def deleteAll (b : Bucket String) (keys : List String) : Bucket String :=
  keys.foldl (fun b key => b.delete key) b

theorem get_putAll (b : Bucket String) (keys : List String) (value k : String) :
    (putAll b keys value).get k = if k ∈ keys then some value else b.get k := by
  induction keys generalizing b with
  | nil => simp [putAll]
  | cons key keys ih =>
      simp only [putAll, List.foldl_cons] at ih ⊢
      rw [ih, Bucket.get_put]
      by_cases h : k = key <;> simp [h]

theorem get_deleteAll (b : Bucket String) (keys : List String) (k : String) :
    (deleteAll b keys).get k = if k ∈ keys then none else b.get k := by
  induction keys generalizing b with
  | nil => simp [deleteAll]
  | cons key keys ih =>
      simp only [deleteAll, List.foldl_cons] at ih ⊢
      rw [ih, Bucket.get_delete]
      by_cases h : k = key <;> simp [h]

/-! ## The operations -/

/-- `StorePersistentStat(config, statType, stat)`: a new unreported record,
    silently discarded once the bucket holds `PersistentStatsMaxStoreRecords`. -/
def storePersistentStat (db : DataStore) (config : Config) (statType stat : String) :
    Except String DataStore :=
  match persistentStatTypeOf statType with
  | none => .error ("invalid persistent stat type: " ++ statType)
  | some t =>
      let bucket := statBucket db t
      if (bucket.keys.length : Int) ≥ config.persistentStatsMaxStoreRecords then .ok db
      else .ok (setStatBucket db t (bucket.put stat persistentStatStateUnreported))

section TakeOut

variable (isValidJSON : String → Bool) (maxSendBytes : Int)

/-- The cursor loop of `TakeOutUnreportedPersistentStats` over one bucket's
    records: delete a record whose key is not JSON, take an unreported one and
    count its bytes, and stop this bucket once the count reaches
    `maxSendBytes`.  Returns the bucket after the deletes, the keys taken and
    the byte count. -/
def takeOutCursor : List (String × String) → Bucket String → List String → Int →
    Bucket String × List String × Int
  | [], bucket, taken, sendBytes => (bucket, taken, sendBytes)
  | (key, value) :: rest, bucket, taken, sendBytes =>
      if isValidJSON key = false then takeOutCursor rest (bucket.delete key) taken sendBytes
      else if value = persistentStatStateUnreported then
        if sendBytes + key.utf8ByteSize ≥ maxSendBytes then
          (bucket, taken ++ [key], sendBytes + key.utf8ByteSize)
        else takeOutCursor rest bucket (taken ++ [key]) (sendBytes + key.utf8ByteSize)
      else takeOutCursor rest bucket taken sendBytes

/-- The loop over `persistentStatTypes`: each bucket's cursor pass, then its
    taken records set to reporting. -/
def takeOutLoop : List PersistentStatType → DataStore → PersistentStats → Int →
    DataStore × PersistentStats
  | [], db, stats, _ => (db, stats)
  | statType :: rest, db, stats, sendBytes =>
      let bucket := statBucket db statType
      let (bucket, taken, sendBytes) := takeOutCursor isValidJSON maxSendBytes bucket.entries
        bucket [] sendBytes
      takeOutLoop rest (setStatBucket db statType (putAll bucket taken persistentStatStateReporting))
        (fun t => if t = statType then taken else stats t) sendBytes

end TakeOut

/-- `TakeOutUnreportedPersistentStats(config)`; `isValidJSON` is the test
    unmarshal of a key. -/
def takeOutUnreportedPersistentStats (isValidJSON : String → Bool) (db : DataStore)
    (config : Config) : DataStore × PersistentStats :=
  takeOutLoop isValidJSON config.persistentStatsMaxSendBytes persistentStatTypes db
    (fun _ => []) 0

/-- `PutBackUnreportedPersistentStats(stats)`. -/
def putBackUnreportedPersistentStats (db : DataStore) (stats : PersistentStats) : DataStore :=
  forEachStatType (fun t b => putAll b (stats t) persistentStatStateUnreported) db

/-- `ClearReportedPersistentStats(stats)`. -/
def clearReportedPersistentStats (db : DataStore) (stats : PersistentStats) : DataStore :=
  forEachStatType (fun t b => deleteAll b (stats t)) db

/-- `resetAllPersistentStatsToUnreported`, run by `OpenDataStore`. -/
def resetAllPersistentStatsToUnreported (db : DataStore) : DataStore :=
  forEachStatType (fun _ b => putAll b b.keys persistentStatStateUnreported) db

/-! ## What TakeOut does to one bucket -/

/-- The bytes of a batch: `len(data)` summed over its records. -/
def sendBytesOf (keys : List String) : Int := (keys.map fun k => (k.utf8ByteSize : Int)).sum

/-- The records among a cursor's entries that TakeOut may take: a JSON key,
    unreported. -/
def unreportedKeys (isValidJSON : String → Bool) (es : List (String × String)) : List String :=
  (es.filter fun p => isValidJSON p.1 && decide (p.2 = persistentStatStateUnreported)).map
    Prod.fst

@[simp] theorem sendBytesOf_nil : sendBytesOf [] = 0 := rfl

@[simp] theorem sendBytesOf_cons (k : String) (keys : List String) :
    sendBytesOf (k :: keys) = k.utf8ByteSize + sendBytesOf keys := by
  simp [sendBytesOf]

section TakeOutSpec

variable {isValidJSON : String → Bool} {maxSendBytes : Int}

/-- Mid-loop, against the bucket `orig` the cursor snapshot was taken from:
    the bucket lost only keys that are not JSON, and every key taken was an
    unreported record with a JSON key. -/
def CursorInv (isValidJSON : String → Bool) (orig b : Bucket String) (taken : List String) :
    Prop :=
  (∀ k, b.get k = orig.get k ∨ (b.get k = none ∧ isValidJSON k = false)) ∧
    ∀ k ∈ taken, orig.get k = some persistentStatStateUnreported ∧ isValidJSON k = true

/-- **CURSOR SPEC**: the cursor pass keeps `CursorInv` and takes no key twice. -/
theorem takeOutCursor_spec {orig : Bucket String} :
    ∀ (es : List (String × String)) (b : Bucket String) (taken : List String) (sb : Int),
      (∀ p ∈ es, orig.get p.1 = some p.2) → (taken ++ es.map Prod.fst).Nodup →
      CursorInv isValidJSON orig b taken →
      CursorInv isValidJSON orig (takeOutCursor isValidJSON maxSendBytes es b taken sb).1
        (takeOutCursor isValidJSON maxSendBytes es b taken sb).2.1 ∧
      (takeOutCursor isValidJSON maxSendBytes es b taken sb).2.1.Nodup
  | [], b, taken, sb, _, hnd, hinv => ⟨hinv, by simpa using hnd⟩
  | (key, value) :: rest, b, taken, sb, hes, hnd, ⟨hb, ht⟩ => by
      have hes' : ∀ p ∈ rest, orig.get p.1 = some p.2 := fun p hp => hes p (.tail _ hp)
      have hkey : orig.get key = some value := hes _ (.head _)
      have hskip : (taken ++ rest.map Prod.fst).Nodup :=
        hnd.sublist (((List.sublist_cons_self key _).append_left taken))
      have htake : (taken ++ [key] ++ rest.map Prod.fst).Nodup := by simpa using hnd
      have hcons : ∀ (hv : isValidJSON key = true) (hu : value = persistentStatStateUnreported),
          CursorInv isValidJSON orig b (taken ++ [key]) := fun hv hu =>
        ⟨hb, fun k hk => by
          rcases List.mem_append.mp hk with hk | hk
          · exact ht k hk
          · rw [List.mem_singleton.mp hk, hkey, hu]; exact ⟨rfl, hv⟩⟩
      simp only [takeOutCursor]
      split
      · refine takeOutCursor_spec rest _ taken sb hes' hskip ⟨fun k => ?_, ht⟩
        rw [Bucket.get_delete]
        split
        · subst_vars; exact .inr ⟨rfl, by assumption⟩
        · exact hb k
      · rename_i hv
        simp only [Bool.not_eq_false] at hv
        split
        · rename_i hu
          split
          · exact ⟨hcons hv hu, htake.sublist (List.sublist_append_left _ _)⟩
          · exact takeOutCursor_spec rest b _ _ hes' htake (hcons hv hu)
        · exact takeOutCursor_spec rest b taken sb hes' hskip ⟨hb, ht⟩

theorem mem_persistentStatTypes (t : PersistentStatType) : t ∈ persistentStatTypes := by
  cases t <;> simp [persistentStatTypes]

/-- A stat type the loop has yet to reach keeps its bucket and its batch. -/
theorem takeOutLoop_of_not_mem {t : PersistentStatType} :
    ∀ {ts : List PersistentStatType} (db : DataStore) (stats : PersistentStats) (sb : Int),
      t ∉ ts → statBucket (takeOutLoop isValidJSON maxSendBytes ts db stats sb).1 t =
        statBucket db t ∧ (takeOutLoop isValidJSON maxSendBytes ts db stats sb).2 t = stats t
  | [], _, _, _, _ => ⟨rfl, rfl⟩
  | t' :: ts, db, stats, sb, ht => by
      rw [List.mem_cons, not_or] at ht
      simp only [takeOutLoop]
      rw [(takeOutLoop_of_not_mem _ _ _ ht.2).1, (takeOutLoop_of_not_mem _ _ _ ht.2).2]
      simp [ht.1]

/-- The loop gives each listed stat type one cursor pass, from some byte count,
    over that type's bucket as it was. -/
theorem takeOutLoop_of_mem {t : PersistentStatType} :
    ∀ {ts : List PersistentStatType} (db : DataStore) (stats : PersistentStats) (sb : Int),
      ts.Nodup → t ∈ ts → ∃ sb',
        let c := takeOutCursor isValidJSON maxSendBytes (statBucket db t).entries
          (statBucket db t) [] sb'
        statBucket (takeOutLoop isValidJSON maxSendBytes ts db stats sb).1 t =
          putAll c.1 c.2.1 persistentStatStateReporting ∧
        (takeOutLoop isValidJSON maxSendBytes ts db stats sb).2 t = c.2.1
  | [], _, _, _, _, ht => by cases ht
  | t' :: ts, db, stats, sb, hnd, ht => by
      rw [List.nodup_cons] at hnd
      simp only [takeOutLoop]
      by_cases h : t = t'
      · subst h
        refine ⟨sb, ?_⟩
        rw [(takeOutLoop_of_not_mem _ _ _ hnd.1).1, (takeOutLoop_of_not_mem _ _ _ hnd.1).2]
        simp
      · obtain ⟨sb', hsb⟩ := takeOutLoop_of_mem (t := t) (setStatBucket db t' _) (fun t0 => _) _
          hnd.2 ((List.mem_cons.mp ht).resolve_left h)
        refine ⟨sb', ?_⟩
        simpa [h] using hsb

/-- **TAKEOUT SPEC**: for every stat type, TakeOut's bucket and batch come from
    one cursor pass over that type's bucket. -/
theorem takeOutUnreportedPersistentStats_spec (db : DataStore) (config : Config)
    (t : PersistentStatType) : ∃ sb,
    let c := takeOutCursor isValidJSON config.persistentStatsMaxSendBytes
      (statBucket db t).entries (statBucket db t) [] sb
    statBucket (takeOutUnreportedPersistentStats isValidJSON db config).1 t =
        putAll c.1 c.2.1 persistentStatStateReporting ∧
      (takeOutUnreportedPersistentStats isValidJSON db config).2 t = c.2.1 :=
  takeOutLoop_of_mem _ _ _ (by decide) (mem_persistentStatTypes t)

/-- **CURSOR BATCH**: the cursor appends a batch to what was taken and adds its
    bytes to the count; before every record of the batch but the first, the
    count was below `maxSendBytes`. -/
theorem takeOutCursor_batch :
    ∀ (es : List (String × String)) (b : Bucket String) (taken : List String) (sb : Int),
      ∃ batch, (takeOutCursor isValidJSON maxSendBytes es b taken sb).2.1 = taken ++ batch ∧
        (takeOutCursor isValidJSON maxSendBytes es b taken sb).2.2 = sb + sendBytesOf batch ∧
        ∀ m, 0 < m → m < batch.length → sb + sendBytesOf (batch.take m) < maxSendBytes
  | [], _, taken, sb => ⟨[], by simp [takeOutCursor]⟩
  | (key, value) :: rest, b, taken, sb => by
      simp only [takeOutCursor]
      split
      · exact takeOutCursor_batch rest _ taken sb
      split
      · split
        · exact ⟨[key], rfl, by simp, fun m h0 hm => by simp at hm; omega⟩
        · rename_i hlt
          obtain ⟨batch, h1, h2, h3⟩ := takeOutCursor_batch rest b (taken ++ [key])
            (sb + key.utf8ByteSize)
          refine ⟨key :: batch, by simp [h1], by simp [h2]; omega, fun m h0 hm => ?_⟩
          obtain ⟨m, rfl⟩ : ∃ m', m = m' + 1 := ⟨m - 1, by omega⟩
          rcases Nat.eq_zero_or_pos m with rfl | hpos
          · simp; omega
          · have := h3 m hpos (by simpa using hm)
            simp only [List.take_succ_cons, sendBytesOf_cons]
            omega
      · exact takeOutCursor_batch rest b taken sb

/-- Once the count can reach `maxSendBytes` on the cursor's records, it does. -/
theorem le_takeOutCursor_sendBytes :
    ∀ (es : List (String × String)) (b : Bucket String) (taken : List String) (sb : Int),
      maxSendBytes ≤ sb + sendBytesOf (unreportedKeys isValidJSON es) →
      maxSendBytes ≤ (takeOutCursor isValidJSON maxSendBytes es b taken sb).2.2
  | [], _, _, sb, h => by simpa [unreportedKeys] using h
  | (key, value) :: rest, b, taken, sb, h => by
      simp only [takeOutCursor]
      split
      · rename_i hv
        exact le_takeOutCursor_sendBytes rest _ taken sb (by simpa [unreportedKeys, hv] using h)
      split
      · rename_i hv hu
        simp only [Bool.not_eq_false] at hv
        split
        · assumption
        · refine le_takeOutCursor_sendBytes rest b _ _ ?_
          have hkeys : unreportedKeys isValidJSON ((key, value) :: rest) =
              key :: unreportedKeys isValidJSON rest := by simp [unreportedKeys, hv, hu]
          rw [hkeys, sendBytesOf_cons] at h
          omega
      · rename_i hv hu
        exact le_takeOutCursor_sendBytes rest b taken sb (by simpa [unreportedKeys, hu] using h)

/-- A cursor over an unreported record with a JSON key takes something. -/
theorem takeOutCursor_ne_nil :
    ∀ (es : List (String × String)) (b : Bucket String) (taken : List String) (sb : Int),
      unreportedKeys isValidJSON es ≠ [] →
      (takeOutCursor isValidJSON maxSendBytes es b taken sb).2.1 ≠ []
  | [], _, _, _, h => by simp [unreportedKeys] at h
  | (key, value) :: rest, b, taken, sb, h => by
      simp only [takeOutCursor]
      split
      · rename_i hv
        exact takeOutCursor_ne_nil rest _ taken sb (by simpa [unreportedKeys, hv] using h)
      split
      · split
        · simp
        · obtain ⟨batch, h1, -⟩ := @takeOutCursor_batch isValidJSON maxSendBytes rest b
            (taken ++ [key]) (sb + key.utf8ByteSize)
          simp [h1]
      · rename_i hu
        exact takeOutCursor_ne_nil rest b taken sb (by simpa [unreportedKeys, hu] using h)

/-- TakeOut's two passes, in `persistentStatTypes` order: remote server list
    stats from a count of 0, then failed tunnel stats from where the first pass
    left the count. -/
theorem takeOutUnreportedPersistentStats_batches (db : DataStore) (config : Config) :
    let c₁ := takeOutCursor isValidJSON config.persistentStatsMaxSendBytes
      (statBucket db .remoteServerList).entries (statBucket db .remoteServerList) [] 0
    let c₂ := takeOutCursor isValidJSON config.persistentStatsMaxSendBytes
      (statBucket db .failedTunnel).entries (statBucket db .failedTunnel) [] c₁.2.2
    (takeOutUnreportedPersistentStats isValidJSON db config).2 .remoteServerList = c₁.2.1 ∧
      (takeOutUnreportedPersistentStats isValidJSON db config).2 .failedTunnel = c₂.2.1 := by
  simp [takeOutUnreportedPersistentStats, takeOutLoop, persistentStatTypes]

/-- **WHAT THE BUDGET BOUNDS**: when either bucket holds an unreported record
    with a JSON key, TakeOut hands out at least one record; and in the order it
    takes them, the count is below `PersistentStatsMaxSendBytes` before every
    record but the first of each stat type, the count carrying over from one
    type to the next. -/
theorem takeOutUnreportedPersistentStats_budget_per_type (db : DataStore) (config : Config) :
    let stats := (takeOutUnreportedPersistentStats isValidJSON db config).2
    ((∃ t, unreportedKeys isValidJSON (statBucket db t).entries ≠ []) →
      stats .remoteServerList ++ stats .failedTunnel ≠ []) ∧
    (∀ m, 0 < m → m < (stats .remoteServerList).length →
      sendBytesOf ((stats .remoteServerList).take m) < config.persistentStatsMaxSendBytes) ∧
    ∀ m, 0 < m → m < (stats .failedTunnel).length →
      sendBytesOf (stats .remoteServerList) + sendBytesOf ((stats .failedTunnel).take m) <
        config.persistentStatsMaxSendBytes := by
  obtain ⟨h₁, h₂⟩ := @takeOutUnreportedPersistentStats_batches isValidJSON db config
  obtain ⟨b₁, e₁, s₁, l₁⟩ := @takeOutCursor_batch isValidJSON config.persistentStatsMaxSendBytes
    (statBucket db .remoteServerList).entries (statBucket db .remoteServerList) [] 0
  obtain ⟨b₂, e₂, -, l₂⟩ := @takeOutCursor_batch isValidJSON config.persistentStatsMaxSendBytes
    (statBucket db .failedTunnel).entries (statBucket db .failedTunnel) []
    (takeOutCursor isValidJSON config.persistentStatsMaxSendBytes
      (statBucket db .remoteServerList).entries (statBucket db .remoteServerList) [] 0).2.2
  dsimp only at h₁ h₂ ⊢
  rw [h₁, h₂]
  refine ⟨fun ⟨t, ht⟩ => ?_, ?_⟩
  · rw [Ne, List.append_eq_nil, not_and_or]
    cases t
    · exact .inl (takeOutCursor_ne_nil _ _ _ _ ht)
    · exact .inr (takeOutCursor_ne_nil _ _ _ _ ht)
  · rw [e₁, e₂, List.nil_append, List.nil_append]
    rw [s₁, Int.zero_add] at l₂
    exact ⟨fun m h0 hm => by simpa using l₁ m h0 hm, l₂⟩

/-- When the remote server list records alone can reach the budget, and a
    failed tunnel record is unreported, TakeOut takes the first type's records
    up to the budget and then one more of the second type: the records taken
    before that one already total `PersistentStatsMaxSendBytes` or more. -/
theorem takeOutUnreportedPersistentStats_takes_past_budget (db : DataStore) (config : Config)
    (hrsl : config.persistentStatsMaxSendBytes ≤
      sendBytesOf (unreportedKeys isValidJSON (statBucket db .remoteServerList).entries))
    (hft : unreportedKeys isValidJSON (statBucket db .failedTunnel).entries ≠ []) :
    config.persistentStatsMaxSendBytes ≤
        sendBytesOf ((takeOutUnreportedPersistentStats isValidJSON db config).2 .remoteServerList) ∧
      (takeOutUnreportedPersistentStats isValidJSON db config).2 .failedTunnel ≠ [] := by
  obtain ⟨h₁, h₂⟩ := @takeOutUnreportedPersistentStats_batches isValidJSON db config
  obtain ⟨b₁, e₁, s₁, -⟩ := @takeOutCursor_batch isValidJSON config.persistentStatsMaxSendBytes
    (statBucket db .remoteServerList).entries (statBucket db .remoteServerList) [] 0
  have hle := @le_takeOutCursor_sendBytes isValidJSON config.persistentStatsMaxSendBytes
    (statBucket db .remoteServerList).entries (statBucket db .remoteServerList) [] 0
    (by rwa [Int.zero_add])
  rw [h₁, h₂, e₁, List.nil_append]
  rw [s₁, Int.zero_add] at hle
  exact ⟨hle, takeOutCursor_ne_nil _ _ _ _ hft⟩

end TakeOutSpec

/-- Remote server list stats reach a budget of one byte with their only record,
    and a failed tunnel record is taken after it. -/
theorem takeOutUnreportedPersistentStats_takes_past_budget_of_one_byte :
    let db : DataStore := { DataStore.empty with
      remoteServerListStats := Bucket.empty.put "{}" persistentStatStateUnreported,
      failedTunnelStats := Bucket.empty.put "{}" persistentStatStateUnreported }
    let config : Config := { persistentStatsMaxSendBytes := 1 }
    config.persistentStatsMaxSendBytes ≤
        sendBytesOf (unreportedKeys (fun _ => true) (statBucket db .remoteServerList).entries) ∧
      unreportedKeys (fun _ => true) (statBucket db .failedTunnel).entries ≠ [] ∧
      config.persistentStatsMaxSendBytes ≤
        sendBytesOf ((takeOutUnreportedPersistentStats (fun _ => true) db config).2
          .remoteServerList) ∧
      (takeOutUnreportedPersistentStats (fun _ => true) db config).2 .failedTunnel ≠ [] := by
  intro db config
  have hrsl : config.persistentStatsMaxSendBytes ≤
      sendBytesOf (unreportedKeys (fun _ => true) (statBucket db .remoteServerList).entries) := by
    decide
  have hft : unreportedKeys (fun _ => true) (statBucket db .failedTunnel).entries ≠ [] := by
    decide
  exact ⟨hrsl, hft, takeOutUnreportedPersistentStats_takes_past_budget db config hrsl hft⟩

/-! ## The state machine -/

/-- The datastore, with the batches handed out by TakeOut and not yet put back
    or cleared. -/
structure StatsState where
  db : DataStore
  outstanding : List PersistentStats

/-- The operations on persistent stats; `putBack i` and `clearReported i`
    consume outstanding batch `i`. -/
inductive StatsOp where
  | storePersistentStat (config : Config) (statType stat : String)
  | takeOut (config : Config)
  | putBack (batch : Nat)
  | clearReported (batch : Nat)

section Machine

variable (isValidJSON : String → Bool)

/-- One operation; `none` when its precondition fails: a stat already stored
    under its type, or no outstanding batch `i`. -/
def statsStep (s : StatsState) : StatsOp → Option StatsState
  | .storePersistentStat config statType stat =>
      if (persistentStatTypeOf statType).any (fun t => stat ∈ (statBucket s.db t).keys) then none
      else
        match storePersistentStat s.db config statType stat with
        | .ok db => some { s with db }
        | .error _ => some s
  | .takeOut config =>
      let taken := takeOutUnreportedPersistentStats isValidJSON s.db config
      some ⟨taken.1, s.outstanding ++ [taken.2]⟩
  | .putBack i => s.outstanding[i]?.map fun stats =>
      ⟨putBackUnreportedPersistentStats s.db stats, s.outstanding.eraseIdx i⟩
  | .clearReported i => s.outstanding[i]?.map fun stats =>
      ⟨clearReportedPersistentStats s.db stats, s.outstanding.eraseIdx i⟩

/-- The states reached from `OpenDataStore`'s reset by any operations. -/
inductive StatsReachable : StatsState → Prop
  | opened (db : DataStore) : StatsReachable ⟨resetAllPersistentStatsToUnreported db, []⟩
  | step {s s' : StatsState} (op : StatsOp) :
      StatsReachable s → statsStep isValidJSON s op = some s' → StatsReachable s'

/-- The invariant of the persistent-stat buckets. -/
structure StatsInvariant (s : StatsState) : Prop where
  states : ∀ t k v, (statBucket s.db t).get k = some v →
    v = persistentStatStateUnreported ∨ v = persistentStatStateReporting
  reporting : ∀ t k, (statBucket s.db t).get k = some persistentStatStateReporting ↔
    ∃ b ∈ s.outstanding, k ∈ b t
  disjoint : s.outstanding.Pairwise fun b b' => ∀ t k, k ∈ b t → k ∉ b' t
  nodup : ∀ b ∈ s.outstanding, ∀ t, (b t).Nodup
  validJSON : ∀ b ∈ s.outstanding, ∀ t k, k ∈ b t → isValidJSON k = true

/-- A record leaves its bucket only when a batch holding it is cleared, or when
    TakeOut finds its key is not JSON. -/
def RemovalsAllowed (s : StatsState) (op : StatsOp) (s' : StatsState) : Prop :=
  ∀ t k, k ∈ (statBucket s.db t).keys → k ∉ (statBucket s'.db t).keys →
    (∃ i b, op = .clearReported i ∧ s.outstanding[i]? = some b ∧ k ∈ b t) ∨
      ((∃ config, op = .takeOut config) ∧ isValidJSON k = false)

/-! ## One step keeps the invariant -/

theorem perm_cons_eraseIdx {α : Type} {l : List α} {i : Nat} {b : α} (h : l[i]? = some b) :
    (b :: l.eraseIdx i).Perm l := by
  obtain ⟨hi, rfl⟩ := List.getElem?_eq_some_iff.mp h
  rw [List.eraseIdx_eq_take_drop_succ]
  refine List.perm_middle.symm.trans ?_
  rw [← List.drop_eq_getElem_cons hi, List.take_append_drop]

theorem unreported_ne_reporting : persistentStatStateUnreported ≠ persistentStatStateReporting := by
  decide

theorem statsInvariant_opened (db : DataStore) :
    StatsInvariant isValidJSON ⟨resetAllPersistentStatsToUnreported db, []⟩ where
  states t k v h := by
    simp only [resetAllPersistentStatsToUnreported, statBucket_forEachStatType, get_putAll] at h
    split at h
    · exact .inl (Option.some.inj h).symm
    · rename_i hk
      exact absurd (Bucket.mem_keys_iff.mpr (by simp [h])) hk
  reporting t k := by
    simp only [resetAllPersistentStatsToUnreported, statBucket_forEachStatType, get_putAll]
    split
    · simp [unreported_ne_reporting]
    · rename_i hk
      simp [Bucket.get_eq_none_iff.mpr hk]
  disjoint := .nil
  nodup _ h := nomatch h
  validJSON _ h := nomatch h

/-- Storing a stat either changes nothing or adds it, unreported, to its type's
    bucket. -/
theorem storePersistentStat_ok {db db' : DataStore} {config : Config} {statType stat : String}
    (h : storePersistentStat db config statType stat = .ok db') :
    db' = db ∨ ∃ t, persistentStatTypeOf statType = some t ∧
      db' = setStatBucket db t ((statBucket db t).put stat persistentStatStateUnreported) := by
  unfold storePersistentStat at h
  split at h
  · cases h
  · rename_i t ht
    dsimp only at h
    split at h
    · exact .inl (Except.ok.inj h).symm
    · exact .inr ⟨t, ht, (Except.ok.inj h).symm⟩

theorem statsInvariant_store {s : StatsState} {t : PersistentStatType} {stat : String}
    (hinv : StatsInvariant isValidJSON s) (hnew : stat ∉ (statBucket s.db t).keys) :
    StatsInvariant isValidJSON
      { s with db := setStatBucket s.db t ((statBucket s.db t).put stat
          persistentStatStateUnreported) } where
  states t' k v h := by
    by_cases h1 : t' = t
    · subst h1
      simp only [statBucket_setStatBucket, if_true, Bucket.get_put] at h
      split at h
      · exact .inl (Option.some.inj h).symm
      · exact hinv.states _ _ _ h
    · simp only [statBucket_setStatBucket, h1, if_false] at h
      exact hinv.states _ _ _ h
  reporting t' k := by
    by_cases h1 : t' = t
    · subst h1
      simp only [statBucket_setStatBucket, if_true, Bucket.get_put]
      split
      · subst_vars
        simp only [Option.some.injEq, unreported_ne_reporting, false_iff]
        rintro hb
        exact hnew (Bucket.mem_keys_iff.mpr (by simp [(hinv.reporting _ _).mpr hb]))
      · exact hinv.reporting _ _
    · simp only [statBucket_setStatBucket, h1, if_false]
      exact hinv.reporting _ _
  disjoint := hinv.disjoint
  nodup := hinv.nodup
  validJSON := hinv.validJSON

/-- What TakeOut leaves in one bucket: its batch keys reporting (they were
    unreported, with JSON keys, once each), every other key as it was or, when
    it is not JSON, deleted. -/
theorem takeOut_statBucket (db : DataStore) (config : Config) (t : PersistentStatType) :
    let r := takeOutUnreportedPersistentStats isValidJSON db config
    (r.2 t).Nodup ∧
      (∀ k ∈ r.2 t, (statBucket r.1 t).get k = some persistentStatStateReporting ∧
        (statBucket db t).get k = some persistentStatStateUnreported ∧ isValidJSON k = true) ∧
      ∀ k ∉ r.2 t, (statBucket r.1 t).get k = (statBucket db t).get k ∨
        ((statBucket r.1 t).get k = none ∧ isValidJSON k = false) := by
  obtain ⟨sb, hb, hstats⟩ := @takeOutUnreportedPersistentStats_spec isValidJSON db config t
  obtain ⟨⟨hc, ht⟩, hnd⟩ := @takeOutCursor_spec isValidJSON config.persistentStatsMaxSendBytes
    (statBucket db t) _ _ [] sb
    (fun p hp => Bucket.get_of_mem_entries hp) (statBucket db t).keys_nodup
    ⟨fun _ => .inl rfl, fun _ h => nomatch h⟩
  intro r
  rw [show r.2 t = _ from hstats]
  refine ⟨hnd, fun k hk => ⟨?_, ht k hk⟩, fun k hk => ?_⟩
  · rw [show statBucket r.1 t = _ from hb, get_putAll, if_pos hk]
  · rw [show statBucket r.1 t = _ from hb, get_putAll, if_neg hk]; exact hc k

theorem statsInvariant_takeOut {s : StatsState} (config : Config)
    (hinv : StatsInvariant isValidJSON s) :
    StatsInvariant isValidJSON ⟨(takeOutUnreportedPersistentStats isValidJSON s.db config).1,
      s.outstanding ++ [(takeOutUnreportedPersistentStats isValidJSON s.db config).2]⟩ where
  states t k v h := by
    obtain ⟨-, hin, hout⟩ := takeOut_statBucket isValidJSON s.db config t
    by_cases hk : k ∈ (takeOutUnreportedPersistentStats isValidJSON s.db config).2 t
    · rw [(hin k hk).1] at h; exact .inr (Option.some.inj h).symm
    · rcases hout k hk with h' | ⟨h', -⟩
      · rw [h'] at h; exact hinv.states _ _ _ h
      · rw [h'] at h; cases h
  reporting t k := by
    obtain ⟨-, hin, hout⟩ := takeOut_statBucket isValidJSON s.db config t
    simp only [List.mem_append, List.mem_singleton, exists_eq_or_imp, or_comm, exists_eq_left]
    by_cases hk : k ∈ (takeOutUnreportedPersistentStats isValidJSON s.db config).2 t
    · simp only [(hin k hk).1, hk, true_or]
    · simp only [hk, false_or]
      rcases hout k hk with h' | ⟨h', hv⟩
      · rw [h']; exact hinv.reporting t k
      · rw [h']
        simp only [reduceCtorEq, false_iff, not_exists, not_and]
        exact fun b hb hkb => by simp [hinv.validJSON b hb t k hkb] at hv
  disjoint := by
    refine List.pairwise_append.mpr ⟨hinv.disjoint, List.pairwise_singleton _ _, ?_⟩
    intro b hb b' hb' t k hk hk'
    obtain rfl := List.mem_singleton.mp hb'
    have h1 := (hinv.reporting t k).mpr ⟨b, hb, hk⟩
    have h2 := ((takeOut_statBucket isValidJSON s.db config t).2.1 k hk').2.1
    rw [h1] at h2
    exact unreported_ne_reporting (Option.some.inj h2).symm
  nodup b hb t := by
    rcases List.mem_append.mp hb with hb | hb
    · exact hinv.nodup b hb t
    · rw [List.mem_singleton.mp hb]; exact (takeOut_statBucket isValidJSON s.db config t).1
  validJSON b hb t k hk := by
    rcases List.mem_append.mp hb with hb | hb
    · exact hinv.validJSON b hb t k hk
    · rw [List.mem_singleton.mp hb] at hk
      exact ((takeOut_statBucket isValidJSON s.db config t).2.1 k hk).2.2

/-- Consuming outstanding batch `i` — its keys set to `x`, unreported or
    deleted — keeps the invariant. -/
theorem statsInvariant_consume {s : StatsState} {i : Nat} {b : PersistentStats}
    {db' : DataStore} (hinv : StatsInvariant isValidJSON s) (hb : s.outstanding[i]? = some b)
    (x : Option String) (hx : x = none ∨ x = some persistentStatStateUnreported)
    (hdb : ∀ t k, (statBucket db' t).get k = if k ∈ b t then x else (statBucket s.db t).get k) :
    StatsInvariant isValidJSON ⟨db', s.outstanding.eraseIdx i⟩ := by
  have hp := perm_cons_eraseIdx hb
  have hpw := (hp.pairwise_iff fun h t k hk hk' => h t k hk' hk).mpr hinv.disjoint
  have hmem : ∀ b' ∈ s.outstanding.eraseIdx i, b' ∈ s.outstanding :=
    fun b' h => hp.subset (.tail _ h)
  refine ⟨fun t k v h => ?_, fun t k => ?_, hpw.of_cons, fun b' h => hinv.nodup b' (hmem b' h),
    fun b' h => hinv.validJSON b' (hmem b' h)⟩
  · rw [hdb] at h
    split at h
    · rcases hx with rfl | rfl
      · cases h
      · exact .inl (Option.some.inj h).symm
    · exact hinv.states _ _ _ h
  · rw [hdb]
    split
    · rename_i hk
      refine ⟨fun h => ?_, fun ⟨b', hb', hk'⟩ => ?_⟩
      · rcases hx with rfl | rfl
        · cases h
        · exact absurd (Option.some.inj h) unreported_ne_reporting
      · exact ((List.pairwise_cons.mp hpw).1 b' hb' t k hk hk').elim
    · rename_i hk
      rw [hinv.reporting]
      refine ⟨fun ⟨b', hb', hk'⟩ => ?_, fun ⟨b', hb', hk'⟩ => ⟨b', hmem b' hb', hk'⟩⟩
      rcases List.mem_cons.mp (hp.symm.subset hb') with rfl | h
      · exact absurd hk' hk
      · exact ⟨b', h, hk'⟩

/-- **STEP**: every operation keeps the invariant. -/
theorem statsStep_invariant {s s' : StatsState} {op : StatsOp}
    (hinv : StatsInvariant isValidJSON s) (h : statsStep isValidJSON s op = some s') :
    StatsInvariant isValidJSON s' := by
  cases op with
  | storePersistentStat config statType stat =>
      simp only [statsStep] at h
      split at h
      · cases h
      · rename_i hnew
        split at h <;> cases h
        · rename_i db' hok
          rcases storePersistentStat_ok hok with rfl | ⟨t, ht, rfl⟩
          · exact hinv
          · exact statsInvariant_store isValidJSON hinv (by simpa [ht] using hnew)
        · exact hinv
  | takeOut config => cases h; exact statsInvariant_takeOut isValidJSON config hinv
  | putBack i =>
      obtain ⟨b, hb, rfl⟩ := Option.map_eq_some'.mp h
      exact statsInvariant_consume isValidJSON hinv hb _ (.inr rfl) fun t k => by
        simp [putBackUnreportedPersistentStats, get_putAll]
  | clearReported i =>
      obtain ⟨b, hb, rfl⟩ := Option.map_eq_some'.mp h
      exact statsInvariant_consume isValidJSON hinv hb _ (.inl rfl) fun t k => by
        simp [clearReportedPersistentStats, get_deleteAll]

/-! ## Where records leave -/

theorem mem_keys_putAll {b : Bucket String} {keys : List String} {v k : String}
    (h : k ∈ b.keys) : k ∈ (putAll b keys v).keys := by
  rw [Bucket.mem_keys_iff, get_putAll]
  split
  · rfl
  · exact Bucket.mem_keys_iff.mp h

/-- **REMOVALS**: a step removes a record only by clearing a batch that holds
    it, or by TakeOut deleting a key that is not JSON. -/
theorem statsStep_removals {s s' : StatsState} {op : StatsOp}
    (h : statsStep isValidJSON s op = some s') : RemovalsAllowed isValidJSON s op s' := by
  intro t k hk hk'
  cases op with
  | storePersistentStat config statType stat =>
      simp only [statsStep] at h
      split at h
      · cases h
      · split at h <;> cases h
        · rcases storePersistentStat_ok ‹_› with rfl | ⟨t', -, rfl⟩
          · exact absurd hk hk'
          · refine absurd ?_ hk'
            simp only [statBucket_setStatBucket]
            split
            · subst_vars; exact Bucket.mem_keys_put.mpr (.inr hk)
            · exact hk
        · exact absurd hk hk'
  | takeOut config =>
      simp only [statsStep, Option.some.injEq] at h
      subst h
      obtain ⟨-, hin, hout⟩ := takeOut_statBucket isValidJSON s.db config t
      have hnone := Bucket.get_eq_none_iff.mpr hk'
      refine .inr ⟨⟨config, rfl⟩, ?_⟩
      by_cases hb : k ∈ (takeOutUnreportedPersistentStats isValidJSON s.db config).2 t
      · rw [(hin k hb).1] at hnone; cases hnone
      · rcases hout k hb with h' | ⟨-, hv⟩
        · rw [h'] at hnone; exact absurd hk (Bucket.get_eq_none_iff.mp hnone)
        · exact hv
  | putBack i =>
      obtain ⟨b, -, rfl⟩ := Option.map_eq_some'.mp h
      exact absurd (by simpa [putBackUnreportedPersistentStats] using mem_keys_putAll hk) hk'
  | clearReported i =>
      obtain ⟨b, hb, rfl⟩ := Option.map_eq_some'.mp h
      refine .inl ⟨i, b, rfl, hb, Classical.byContradiction fun hkb => hk' ?_⟩
      simp only [clearReportedPersistentStats, statBucket_forEachStatType, Bucket.mem_keys_iff,
        get_deleteAll, hkb, if_false]
      exact Bucket.mem_keys_iff.mp hk

/-- **PERSISTENT STATS INVARIANT**: in every state reached from the reset at
    open, every record is unreported or reporting, the reporting records are
    exactly those of the outstanding batches, the outstanding batches are
    disjoint and duplicate-free, and every step removes a record only by
    clearing a batch holding it or by dropping a key that is not JSON. -/
theorem persistentStats_invariant {s : StatsState} (h : StatsReachable isValidJSON s) :
    StatsInvariant isValidJSON s ∧
      ∀ op s', statsStep isValidJSON s op = some s' → RemovalsAllowed isValidJSON s op s' := by
  refine ⟨?_, fun _ _ => statsStep_removals isValidJSON⟩
  induction h with
  | opened db => exact statsInvariant_opened isValidJSON db
  | step _ _ hs ih => exact statsStep_invariant isValidJSON ih hs

/-- The invariant at open, after one stored stat and one TakeOut. -/
theorem persistentStats_invariant_after_takeOut :
    let s₀ : StatsState := ⟨resetAllPersistentStatsToUnreported DataStore.empty, []⟩
    let s₁ : StatsState := (statsStep (fun _ => true) s₀
      (.storePersistentStat { persistentStatsMaxStoreRecords := 10 } "failedTunnelStats"
        "{}")).getD s₀
    let s₂ : StatsState := (statsStep (fun _ => true) s₁
      (.takeOut { persistentStatsMaxSendBytes := 100 })).getD s₁
    StatsInvariant (fun _ => true) s₂ ∧ ∀ op s', statsStep (fun _ => true) s₂ op = some s' →
      RemovalsAllowed (fun _ => true) s₂ op s' :=
  persistentStats_invariant (fun _ => true)
    (.step (.takeOut { persistentStatsMaxSendBytes := 100 })
      (.step (.storePersistentStat { persistentStatsMaxStoreRecords := 10 }
        "failedTunnelStats" "{}") (.opened DataStore.empty) rfl) rfl)

end Machine

end PsiphonPersistentStat
