import PsiphonTunnel.PersistentStatProofs

/-! # The datastore singleton — open, close, and what the mutex covers

    `OpenDataStore`, `CloseDataStore`, `datastoreView` and `datastoreUpdate`
    share the process-wide `activeDatastoreDB` under `datastoreMutex`.  A view
    or update of a closed store fails with "database not open", opening an open
    store fails with "db already open", and closing a closed store does
    nothing.  The bolt file outlives a close, and so do the batches the stats
    reporter holds.

    `OpenDataStore` is two atomic sections, not one: it sets
    `activeDatastoreDB` and unlocks the mutex, and only then runs
    `resetAllPersistentStatsToUnreported` as an ordinary update, so that
    another goroutine's update can run in between.  The headline results:

    * `processDatastore_statsInvariant` — over every run of calls in which each
      `OpenDataStore` runs whole and finds no batch handed out, the
      persistent-stats invariant holds whenever the store is open;
    * `deferredReset_hands_out_twice` — when a batch is outstanding as the
      reset runs (a TakeOut between the two sections of `OpenDataStore`), the
      next TakeOut with room in its budget hands its records out again. -/

namespace PsiphonDataStoreLifecycle

open PsiphonBucket PsiphonDataStore PsiphonPersistentStat

/-- The process-wide store: whether `activeDatastoreDB` is set, and the bolt
    file `datastoreOpenDB` opens, with the batches TakeOut has handed out;
    both outlive a close. -/
structure ProcessDatastore where
  activeDatastoreDB : Bool
  stats : StatsState

/-- A process before its first `OpenDataStore`: the file as an earlier run
    left it, and no batch handed out. -/
def ProcessDatastore.start (db : DataStore) : ProcessDatastore := ⟨false, ⟨db, []⟩⟩

/-! ## The functions -/

/-- `datastoreView(fn)`. -/
def datastoreView {α : Type} (s : ProcessDatastore) (fn : StatsState → Except String α) :
    Except String α :=
  if s.activeDatastoreDB then fn s.stats else .error "database not open"

/-- `datastoreUpdate(fn)`; `none` when `fn` is a stats operation whose
    precondition fails. -/
def datastoreUpdate (s : ProcessDatastore) (fn : StatsState → Option StatsState) :
    Option (Except String Unit × ProcessDatastore) :=
  if s.activeDatastoreDB then (fn s.stats).map fun stats => (.ok (), { s with stats })
  else some (.error "database not open", s)

/-- The section of `OpenDataStore` under `datastoreMutex`; `openErr` is the
    error of `datastoreOpenDB`, if any. -/
def openLocked (s : ProcessDatastore) (openErr : Option String) :
    Except String Unit × ProcessDatastore :=
  if s.activeDatastoreDB then (.error "db already open", s)
  else
    match openErr with
    | some err => (.error err, s)
    | none => (.ok (), { s with activeDatastoreDB := true })

/-- `resetAllPersistentStatsToUnreported` as the update `OpenDataStore` runs. -/
def resetAll (stats : StatsState) : Option StatsState :=
  some { stats with db := resetAllPersistentStatsToUnreported stats.db }

/-- `OpenDataStore(config)`: the locked section, then, once unlocked, the
    reset, whose error is discarded. -/
def openDataStore (s : ProcessDatastore) (openErr : Option String) :
    Option (Except String Unit × ProcessDatastore) :=
  match openLocked s openErr with
  | (.ok (), s) => (datastoreUpdate s resetAll).map fun r => (.ok (), r.2)
  | r => some r

/-- `CloseDataStore()`: an error closing the file is only noticed. -/
def closeDataStore (s : ProcessDatastore) : ProcessDatastore :=
  { s with activeDatastoreDB := false }

theorem datastoreUpdate_of_closed {s : ProcessDatastore} (h : s.activeDatastoreDB = false)
    (fn : StatsState → Option StatsState) :
    datastoreUpdate s fn = some (.error "database not open", s) := by
  simp [datastoreUpdate, h]

theorem datastoreUpdate_of_open {s : ProcessDatastore} (h : s.activeDatastoreDB = true)
    (fn : StatsState → Option StatsState) :
    datastoreUpdate s fn = (fn s.stats).map fun stats => (.ok (), { s with stats }) := by
  simp [datastoreUpdate, h]

/-- What `OpenDataStore` can do: refuse and change nothing, or open the store
    and reset its stats, keeping the batches handed out. -/
theorem openDataStore_cases {s s' : ProcessDatastore} {openErr : Option String}
    {r : Except String Unit} (h : openDataStore s openErr = some (r, s')) :
    s' = s ∨ s.activeDatastoreDB = false ∧
      s' = ⟨true, ⟨resetAllPersistentStatsToUnreported s.stats.db, s.stats.outstanding⟩⟩ := by
  cases hopen : s.activeDatastoreDB <;> cases openErr <;>
    simp_all [openDataStore, openLocked, datastoreUpdate, resetAll]

/-! ## Runs of calls -/

/-- The calls of a process, each `OpenDataStore` run whole. -/
inductive DatastoreCall where
  | openDataStore (openErr : Option String)
  | closeDataStore
  | update (op : StatsOp)

section Calls

variable (isValidJSON : String → Bool)

/-- One call. -/
def DatastoreCall.step (s : ProcessDatastore) :
    DatastoreCall → Option (Except String Unit × ProcessDatastore)
  | .openDataStore openErr => PsiphonDataStoreLifecycle.openDataStore s openErr
  | .closeDataStore => some (.ok (), PsiphonDataStoreLifecycle.closeDataStore s)
  | .update op => datastoreUpdate s (statsStep isValidJSON · op)

/-- `OpenDataStore` is called only when the reporter holds no batch. -/
def DatastoreCall.findsNoBatch (s : ProcessDatastore) : DatastoreCall → Prop
  | .openDataStore _ => s.stats.outstanding = []
  | _ => True

/-- The states a process reaches by calls, from any file an earlier run left. -/
inductive CallsReachable : ProcessDatastore → Prop
  | start (db : DataStore) : CallsReachable (.start db)
  | step {s s' : ProcessDatastore} {r : Except String Unit} (call : DatastoreCall) :
      CallsReachable s → call.findsNoBatch s → call.step isValidJSON s = some (r, s') →
        CallsReachable s'

/-- The stats invariant, while the store is open. -/
def OpenInvariant (s : ProcessDatastore) : Prop :=
  s.activeDatastoreDB = true → StatsInvariant isValidJSON s.stats

/-- **STEP**: every call keeps `OpenInvariant`. -/
theorem openInvariant_step {s s' : ProcessDatastore} {r : Except String Unit}
    {call : DatastoreCall} (hinv : OpenInvariant isValidJSON s) (hcall : call.findsNoBatch s)
    (h : call.step isValidJSON s = some (r, s')) : OpenInvariant isValidJSON s' := by
  cases call with
  | openDataStore openErr =>
      rcases openDataStore_cases h with rfl | ⟨-, rfl⟩
      · exact hinv
      · have hnil : s.stats.outstanding = [] := hcall
        rw [hnil]
        exact fun _ => statsInvariant_opened isValidJSON s.stats.db
  | closeDataStore =>
      cases h
      exact fun hopen => nomatch hopen
  | update op =>
      cases hopen : s.activeDatastoreDB
      · rw [DatastoreCall.step, datastoreUpdate_of_closed hopen] at h
        cases h
        exact hinv
      · rw [DatastoreCall.step, datastoreUpdate_of_open hopen] at h
        obtain ⟨stats, hstats, hr⟩ := Option.map_eq_some'.mp h
        cases hr
        exact fun _ => statsStep_invariant isValidJSON (hinv hopen) hstats

/-- **STATS INVARIANT ACROSS OPEN AND CLOSE**: in every state a process reaches
    by calls in which each `OpenDataStore` finds no batch handed out, the
    persistent-stats invariant holds whenever the store is open: a close, a
    refused call and a reopen of the file an earlier session left all keep it. -/
theorem processDatastore_statsInvariant {s : ProcessDatastore} (h : CallsReachable isValidJSON s)
    (hopen : s.activeDatastoreDB = true) : StatsInvariant isValidJSON s.stats := by
  suffices ∀ {s}, CallsReachable isValidJSON s → OpenInvariant isValidJSON s from this h hopen
  intro s h
  induction h with
  | start db => exact fun h => nomatch h
  | step call _ hcall hs ih => exact openInvariant_step isValidJSON ih hcall hs

end Calls

/-- A process opens a file holding one failed tunnel stat, stores another and
    takes both out. -/
theorem processDatastore_statsInvariant_after_takeOut :
    let db : DataStore :=
      { DataStore.empty with failedTunnelStats := Bucket.empty.put "{}" persistentStatStateReporting }
    let s₁ : ProcessDatastore := ⟨true, ⟨resetAllPersistentStatsToUnreported db, []⟩⟩
    let s₂ : ProcessDatastore := ⟨true, (statsStep (fun _ => true) s₁.stats (.storePersistentStat
      { persistentStatsMaxStoreRecords := 10 } "remoteServerListStats" "{}")).getD s₁.stats⟩
    let s₃ : ProcessDatastore := ⟨true, (statsStep (fun _ => true) s₂.stats
      (.takeOut { persistentStatsMaxSendBytes := 100 })).getD s₂.stats⟩
    CallsReachable (fun _ => true) s₃ ∧ s₃.activeDatastoreDB = true ∧
      StatsInvariant (fun _ => true) s₃.stats := by
  intro db s₁ s₂ s₃
  have h₁ : CallsReachable (fun _ => true) s₁ :=
    .step (r := .ok ()) (.openDataStore none) (.start db) rfl rfl
  have h₂ : CallsReachable (fun _ => true) s₂ := .step (r := .ok ()) (.update (.storePersistentStat
    { persistentStatsMaxStoreRecords := 10 } "remoteServerListStats" "{}")) h₁ trivial rfl
  have h₃ : CallsReachable (fun _ => true) s₃ := .step (r := .ok ())
    (.update (.takeOut { persistentStatsMaxSendBytes := 100 })) h₂ trivial rfl
  exact ⟨h₃, rfl, processDatastore_statsInvariant (fun _ => true) h₃ rfl⟩

/-! ## TakeOut with room in its budget -/

section TakeOutAll

variable {isValidJSON : String → Bool} {maxSendBytes : Int}

theorem sendBytesOf_nonneg (keys : List String) : 0 ≤ sendBytesOf keys := by
  induction keys with
  | nil => rfl
  | cons k keys ih => rw [sendBytesOf_cons]; omega

theorem sendBytesOf_unreportedKeys_le (es : List (String × String)) :
    sendBytesOf (unreportedKeys isValidJSON es) ≤ sendBytesOf (es.map Prod.fst) := by
  induction es with
  | nil => simp [unreportedKeys]
  | cons e es ih =>
      have hcons : unreportedKeys isValidJSON (e :: es) =
          if isValidJSON e.1 && decide (e.2 = persistentStatStateUnreported) then
            e.1 :: unreportedKeys isValidJSON es
          else unreportedKeys isValidJSON es := by
        simp only [unreportedKeys, List.filter_cons]
        split <;> rfl
      rw [hcons, List.map_cons, sendBytesOf_cons]
      split
      · rw [sendBytesOf_cons]; omega
      · omega

/-- A cursor whose budget outlasts its records takes every unreported record
    with a JSON key. -/
theorem takeOutCursor_all :
    ∀ (es : List (String × String)) (b : Bucket String) (taken : List String) (sb : Int),
      sb + sendBytesOf (unreportedKeys isValidJSON es) < maxSendBytes →
      (takeOutCursor isValidJSON maxSendBytes es b taken sb).2.1 =
        taken ++ unreportedKeys isValidJSON es
  | [], _, taken, _, _ => by simp [takeOutCursor, unreportedKeys]
  | (key, value) :: rest, b, taken, sb, h => by
      simp only [takeOutCursor]
      split
      · rename_i hv
        have hkeys : unreportedKeys isValidJSON ((key, value) :: rest) =
            unreportedKeys isValidJSON rest := by simp [unreportedKeys, hv]
        rw [hkeys] at h ⊢
        exact takeOutCursor_all rest _ taken sb h
      split
      · rename_i hv hu
        have hkeys : unreportedKeys isValidJSON ((key, value) :: rest) =
            key :: unreportedKeys isValidJSON rest := by
          have hv' : isValidJSON key = true := by simpa using hv
          simp [unreportedKeys, hv', hu]
        rw [hkeys, sendBytesOf_cons] at h
        rw [hkeys]
        have hrest := sendBytesOf_nonneg (unreportedKeys isValidJSON rest)
        rw [if_neg (by omega), takeOutCursor_all rest b _ _ (by omega)]
        simp
      · rename_i hu
        have hkeys : unreportedKeys isValidJSON ((key, value) :: rest) =
            unreportedKeys isValidJSON rest := by simp [unreportedKeys, hu]
        rw [hkeys] at h ⊢
        exact takeOutCursor_all rest b taken sb h

/-- **TAKEOUT ALL**: when the records TakeOut may take fit in its budget, it
    takes every one of them. -/
theorem takeOutUnreportedPersistentStats_all (db : DataStore) (config : Config)
    (h : sendBytesOf (unreportedKeys isValidJSON (statBucket db .remoteServerList).entries) +
      sendBytesOf (unreportedKeys isValidJSON (statBucket db .failedTunnel).entries) <
        config.persistentStatsMaxSendBytes) (t : PersistentStatType) :
    (takeOutUnreportedPersistentStats isValidJSON db config).2 t =
      unreportedKeys isValidJSON (statBucket db t).entries := by
  obtain ⟨h₁, h₂⟩ := @takeOutUnreportedPersistentStats_batches isValidJSON db config
  have hnn₁ := sendBytesOf_nonneg (unreportedKeys isValidJSON (statBucket db .remoteServerList).entries)
  have hnn₂ := sendBytesOf_nonneg (unreportedKeys isValidJSON (statBucket db .failedTunnel).entries)
  have hall₁ := @takeOutCursor_all isValidJSON config.persistentStatsMaxSendBytes
    (statBucket db .remoteServerList).entries (statBucket db .remoteServerList) [] 0 (by omega)
  obtain ⟨batch, hbatch, hsb, -⟩ := @takeOutCursor_batch isValidJSON
    config.persistentStatsMaxSendBytes (statBucket db .remoteServerList).entries
    (statBucket db .remoteServerList) [] 0
  rw [hall₁] at hbatch
  cases List.append_cancel_left hbatch
  cases t
  · rw [h₁, hall₁, List.nil_append]
  · rw [h₂, takeOutCursor_all _ _ _ _ (by rw [hsb]; omega), List.nil_append]

end TakeOutAll

/-! ## The deferred reset -/

/-- The reset keeps every stat type's keys. -/
theorem keys_resetAllPersistentStatsToUnreported (db : DataStore) (t : PersistentStatType) :
    (statBucket (resetAllPersistentStatsToUnreported db) t).keys = (statBucket db t).keys := by
  suffices ∀ (keys : List String) (b : Bucket String), (∀ k ∈ keys, k ∈ b.keys) →
      (putAll b keys persistentStatStateUnreported).keys = b.keys by
    simpa [resetAllPersistentStatsToUnreported] using this _ _ fun _ h => h
  intro keys
  induction keys with
  | nil => exact fun _ _ => rfl
  | cons key keys ih =>
      intro b hk
      have hput : (b.put key persistentStatStateUnreported).keys = b.keys := by
        rw [Bucket.keys_put, if_pos (hk key (.head _))]
      simp only [putAll, List.foldl_cons] at ih ⊢
      rw [ih _ (fun k h => hput ▸ hk k (.tail _ h)), hput]

section DeferredReset

variable (isValidJSON : String → Bool)

/-- The atomic sections of the datastore functions, each run under
    `datastoreMutex`: those of different goroutines interleave. -/
inductive DatastoreSection where
  | lockedOpen (openErr : Option String)
  | deferredReset
  | lockedClose
  | update (op : StatsOp)

/-- One section; `OpenDataStore` is `lockedOpen` and then `deferredReset`. -/
def DatastoreSection.step (s : ProcessDatastore) :
    DatastoreSection → Option (Except String Unit × ProcessDatastore)
  | .lockedOpen openErr => some (openLocked s openErr)
  | .deferredReset => datastoreUpdate s resetAll
  | .lockedClose => some (.ok (), closeDataStore s)
  | .update op => datastoreUpdate s (statsStep isValidJSON · op)

/-- **DEFERRED RESET HANDS OUT TWICE**: when a batch handed out still holds a
    stored record with a JSON key as `OpenDataStore`'s reset runs, the next
    TakeOut whose budget exceeds the bytes of every stored stat hands that
    record out again: two outstanding batches then hold it, and the stat is
    reported twice. -/
theorem deferredReset_hands_out_twice {s : ProcessDatastore} (hopen : s.activeDatastoreDB = true)
    {b : PersistentStats} (hb : b ∈ s.stats.outstanding) {t : PersistentStatType} {k : String}
    (hk : k ∈ b t) (hstored : k ∈ (statBucket s.stats.db t).keys) (hjson : isValidJSON k = true)
    (config : Config)
    (hbudget : sendBytesOf (statBucket s.stats.db .remoteServerList).keys +
      sendBytesOf (statBucket s.stats.db .failedTunnel).keys < config.persistentStatsMaxSendBytes) :
    ∃ s₁ s₂ b', DatastoreSection.deferredReset.step isValidJSON s = some (.ok (), s₁) ∧
      (DatastoreSection.update (.takeOut config)).step isValidJSON s₁ = some (.ok (), s₂) ∧
      s₂.stats.outstanding = s.stats.outstanding ++ [b'] ∧ b ∈ s₂.stats.outstanding ∧
      k ∈ b t ∧ k ∈ b' t := by
  set db := resetAllPersistentStatsToUnreported s.stats.db
  have hroom : ∀ t', sendBytesOf (unreportedKeys isValidJSON (statBucket db t').entries) ≤
      sendBytesOf (statBucket s.stats.db t').keys := fun t' =>
    keys_resetAllPersistentStatsToUnreported s.stats.db t' ▸ sendBytesOf_unreportedKeys_le _
  have hall := @takeOutUnreportedPersistentStats_all isValidJSON db config
    (by have := hroom .remoteServerList; have := hroom .failedTunnel; omega) t
  have hunrep : (statBucket db t).get k = some persistentStatStateUnreported := by
    simp only [db, resetAllPersistentStatsToUnreported, statBucket_forEachStatType, get_putAll,
      if_pos hstored]
  refine ⟨⟨true, ⟨db, s.stats.outstanding⟩⟩, _, _, ?_, rfl, rfl,
    List.mem_append_left _ hb, hk, ?_⟩
  · simp [DatastoreSection.step, datastoreUpdate, hopen, resetAll, db]
  · rw [hall]
    exact List.mem_map.mpr ⟨(k, _), List.mem_filter.mpr
      ⟨Bucket.mem_entries_of_get hunrep, by simp [hjson]⟩, rfl⟩

end DeferredReset

/-- A TakeOut runs between the two sections of an `OpenDataStore`: the record
    it takes is handed out again by the TakeOut after the reset. -/
theorem deferredReset_hands_out_twice_after_interleaved_takeOut :
    let db : DataStore :=
      { DataStore.empty with failedTunnelStats := Bucket.empty.put "{}" persistentStatStateUnreported }
    let config : Config := { persistentStatsMaxSendBytes := 100 }
    let taken := takeOutUnreportedPersistentStats (fun _ => true) db config
    let s : ProcessDatastore := ⟨true, ⟨taken.1, [taken.2]⟩⟩
    ((DatastoreSection.lockedOpen none).step (fun _ => true) (.start db)).bind
        (fun r => (DatastoreSection.update (.takeOut config)).step (fun _ => true) r.2) =
      some (.ok (), s) ∧
    s.activeDatastoreDB = true ∧ taken.2 ∈ s.stats.outstanding ∧ "{}" ∈ taken.2 .failedTunnel ∧
      "{}" ∈ (statBucket s.stats.db .failedTunnel).keys ∧
      sendBytesOf (statBucket s.stats.db .remoteServerList).keys +
        sendBytesOf (statBucket s.stats.db .failedTunnel).keys < config.persistentStatsMaxSendBytes ∧
      ∃ s₁ s₂ b', DatastoreSection.deferredReset.step (fun _ => true) s = some (.ok (), s₁) ∧
        (DatastoreSection.update (.takeOut config)).step (fun _ => true) s₁ = some (.ok (), s₂) ∧
        s₂.stats.outstanding = s.stats.outstanding ++ [b'] ∧ taken.2 ∈ s₂.stats.outstanding ∧
        "{}" ∈ taken.2 .failedTunnel ∧ "{}" ∈ b' .failedTunnel := by
  intro db config taken s
  have hk : "{}" ∈ taken.2 .failedTunnel := by decide
  have hstored : "{}" ∈ (statBucket s.stats.db .failedTunnel).keys := by decide
  have hbudget : sendBytesOf (statBucket s.stats.db .remoteServerList).keys +
      sendBytesOf (statBucket s.stats.db .failedTunnel).keys < config.persistentStatsMaxSendBytes := by
    decide
  exact ⟨rfl, rfl, .head _, hk, hstored, hbudget,
    deferredReset_hands_out_twice (fun _ => true) rfl (.head _) hk hstored rfl config hbudget⟩

end PsiphonDataStoreLifecycle
