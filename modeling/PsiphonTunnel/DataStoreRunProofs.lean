import PsiphonTunnel.IteratorCycleProofs
import PsiphonTunnel.PersistentStatProofs

/-! # Datastore runs — the store policy and server affinity over whole histories

    A run is a list of datastore operations applied from an empty datastore
    (`runOps`); a failed operation leaves the datastore as it was.  Two abstract
    records say what a history should leave behind:

    * `firstMaximal` — of the entries submitted for one IP address, the first
      with the highest configuration version: what `StoreServerEntry`'s
      replace-if-newer policy is for;
    * `lastPromotion` — the config and IP address of the last
      `PromoteServerEntry` call that found its server: what the affinity
      records are for.

    The store refines `firstMaximal` as long as versions are not negative
    (`serverEntries_runOps_firstMaximal`); a negative stored version collides
    with the `-1` that `StoreServerEntry` uses for "no usable record".  The
    affinity records refine `lastPromotion` (`affinityRecords_runOps`), which
    decides what `NewServerEntryIterator` returns and what its first `Next` can
    return: the promoted server's current entry, if it still passes the filter. -/

namespace PsiphonDataStoreRun

open PsiphonBucket PsiphonServerEntry PsiphonDataStore PsiphonIterator PsiphonIteratorCycle
  PsiphonPersistentStat

/-- The mutating datastore operations. -/
inductive DataStoreOp where
  | storeServerEntry (serverEntryFields : ServerEntryFields) (replaceIfExists : Bool)
  | promoteServerEntry (config : Config) (ipAddress : String)
  | setKeyValue (key value : String)
  | setDialParameters (serverIPAddress networkID data : String)
  | deleteDialParameters (serverIPAddress networkID : String)
  | storePersistentStat (config : Config) (statType stat : String)
  | takeOutUnreportedPersistentStats (config : Config)
  | putBackUnreportedPersistentStats (stats : PersistentStats)
  | clearReportedPersistentStats (stats : PersistentStats)

/-- The operations the affinity results are about: storing and promoting. -/
def DataStoreOp.IsServerEntryWrite : DataStoreOp → Prop
  | .storeServerEntry _ _ | .promoteServerEntry _ _ => True
  | _ => False

/-- The operations on the dial-parameter and persistent-stat buckets only. -/
def DataStoreOp.IsStatOrDialWrite : DataStoreOp → Prop
  | .storeServerEntry _ _ | .promoteServerEntry _ _ | .setKeyValue _ _ => False
  | _ => True

/-- The operations that leave the affinity records to `PromoteServerEntry`:
    all but a `SetKeyValue` on the affinity key or the last-filter key. -/
def DataStoreOp.KeepsAffinityKeys : DataStoreOp → Prop
  | .setKeyValue key _ =>
      key ≠ datastoreAffinityServerEntryIDKey ∧ key ≠ datastoreLastServerEntryFilterKey
  | _ => True

theorem DataStoreOp.IsServerEntryWrite.keepsAffinityKeys :
    ∀ {op : DataStoreOp}, op.IsServerEntryWrite → op.KeepsAffinityKeys
  | .storeServerEntry .., _ | .promoteServerEntry .., _ => trivial

section Run

variable (isValidJSON : String → Bool)

/-- One operation; an operation that fails leaves the datastore unchanged. -/
def DataStoreOp.apply (db : DataStore) : DataStoreOp → DataStore
  | .storeServerEntry f r => (PsiphonDataStore.storeServerEntry db f r).toOption.getD db
  | .promoteServerEntry config ip => PsiphonDataStore.promoteServerEntry db config ip
  | .setKeyValue key value => PsiphonDataStore.setKeyValue db key value
  | .setDialParameters ip networkID data =>
      PsiphonDataStore.setDialParameters db ip networkID data
  | .deleteDialParameters ip networkID => PsiphonDataStore.deleteDialParameters db ip networkID
  | .storePersistentStat config statType stat =>
      (PsiphonPersistentStat.storePersistentStat db config statType stat).toOption.getD db
  | .takeOutUnreportedPersistentStats config =>
      (PsiphonPersistentStat.takeOutUnreportedPersistentStats isValidJSON db config).1
  | .putBackUnreportedPersistentStats stats =>
      PsiphonPersistentStat.putBackUnreportedPersistentStats db stats
  | .clearReportedPersistentStats stats =>
      PsiphonPersistentStat.clearReportedPersistentStats db stats

/-- The datastore after a run of operations. -/
def runOps (db : DataStore) (ops : List DataStoreOp) : DataStore :=
  ops.foldl (DataStoreOp.apply isValidJSON) db

end Run

/-! ## Frames: what stat operations leave alone -/

/-- The buckets outside the stat buckets agree. -/
def SameServerSide (db db' : DataStore) : Prop :=
  db'.serverEntries = db.serverEntries ∧ db'.keyValues = db.keyValues

theorem sameServerSide_setStatBucket (db : DataStore) (t : PersistentStatType)
    (b : Bucket String) : SameServerSide db (setStatBucket db t b) := by
  cases t <;> exact ⟨rfl, rfl⟩

theorem SameServerSide.trans {a b c : DataStore} (h₁ : SameServerSide a b)
    (h₂ : SameServerSide b c) : SameServerSide a c :=
  ⟨h₂.1.trans h₁.1, h₂.2.trans h₁.2⟩

theorem sameServerSide_forEachStatType (f : PersistentStatType → Bucket String → Bucket String)
    (db : DataStore) : SameServerSide db (forEachStatType f db) := by
  simp only [forEachStatType, persistentStatTypes, List.foldl]
  exact (sameServerSide_setStatBucket _ _ _).trans (sameServerSide_setStatBucket _ _ _)

theorem sameServerSide_takeOutLoop (isValidJSON : String → Bool) (m : Int) :
    ∀ (ts : List PersistentStatType) (db : DataStore) (stats : PersistentStats) (sb : Int),
      SameServerSide db (takeOutLoop isValidJSON m ts db stats sb).1
  | [], _, _, _ => ⟨rfl, rfl⟩
  | _ :: ts, _, _, _ =>
      (sameServerSide_setStatBucket _ _ _).trans (sameServerSide_takeOutLoop isValidJSON m ts ..)

/-- The dial-parameter and stat operations leave the server-entry and key-value
    buckets alone. -/
theorem sameServerSide_apply (isValidJSON : String → Bool) (db : DataStore) :
    ∀ op : DataStoreOp, op.IsStatOrDialWrite → SameServerSide db (op.apply isValidJSON db)
  | .setDialParameters .., _ | .deleteDialParameters .., _ => ⟨rfl, rfl⟩
  | .storePersistentStat config statType stat, _ => by
      simp only [DataStoreOp.apply]
      cases h : PsiphonPersistentStat.storePersistentStat db config statType stat with
      | error => exact ⟨rfl, rfl⟩
      | ok db' =>
          rcases storePersistentStat_ok h with rfl | ⟨t, -, rfl⟩
          · exact ⟨rfl, rfl⟩
          · exact sameServerSide_setStatBucket _ _ _
  | .takeOutUnreportedPersistentStats _, _ => sameServerSide_takeOutLoop ..
  | .putBackUnreportedPersistentStats _, _ | .clearReportedPersistentStats _, _ =>
      sameServerSide_forEachStatType ..

/-- Every operation but `StoreServerEntry` leaves the server-entry bucket alone. -/
theorem serverEntries_apply (isValidJSON : String → Bool) (db : DataStore) :
    ∀ op : DataStoreOp, (∀ f r, op ≠ .storeServerEntry f r) →
      (op.apply isValidJSON db).serverEntries = db.serverEntries
  | .storeServerEntry f r, h => absurd rfl (h f r)
  | .promoteServerEntry .., _ => promoteServerEntry_serverEntries ..
  | .setKeyValue .., _ => rfl
  | .setDialParameters .., _ | .deleteDialParameters .., _ | .storePersistentStat .., _
  | .takeOutUnreportedPersistentStats _, _ | .putBackUnreportedPersistentStats _, _
  | .clearReportedPersistentStats _, _ => (sameServerSide_apply isValidJSON db _ (by trivial)).1

/-! ## The store policy: the first entry with the highest version -/

/-- One step of `firstMaximal`: a strictly higher version replaces the kept entry. -/
def keepFirstMaximal : Option ServerEntryFields → ServerEntryFields → Option ServerEntryFields
  | none, f => some f
  | some g, f => if g.getConfigurationVersion < f.getConfigurationVersion then some f else some g

/-- Of the entries submitted for one server, in order, the first with the
    highest configuration version. -/
def firstMaximal (entries : List ServerEntryFields) : Option ServerEntryFields :=
  entries.foldl keepFirstMaximal none

/-- The entries a run submits to `StoreServerEntry` for IP address `ip`, in order. -/
def submittedFor (ip : String) : List DataStoreOp → List ServerEntryFields
  | [] => []
  | .storeServerEntry f _ :: ops =>
      if f.getIPAddress = ip then f :: submittedFor ip ops else submittedFor ip ops
  | _ :: ops => submittedFor ip ops

theorem submittedFor_cons_of_ne {op : DataStoreOp} (ip : String) (ops : List DataStoreOp)
    (h : ∀ f r, op ≠ .storeServerEntry f r) : submittedFor ip (op :: ops) = submittedFor ip ops := by
  cases op <;> first | exact absurd rfl (h _ _) | rfl

theorem firstMaximal_append (l : List ServerEntryFields) (f : ServerEntryFields) :
    firstMaximal (l ++ [f]) = keepFirstMaximal (firstMaximal l) f := by
  simp [firstMaximal, List.foldl_append]

theorem firstMaximal_mem {l : List ServerEntryFields} {g : ServerEntryFields}
    (h : firstMaximal l = some g) : g ∈ l := by
  induction l using List.reverseRecOn generalizing g with
  | nil => cases h
  | append_singleton l f ih =>
      rw [firstMaximal_append] at h
      rcases hl : firstMaximal l with _ | g'
      · rw [hl, keepFirstMaximal] at h; cases h; simp
      · rw [hl, keepFirstMaximal] at h
        split at h <;> cases h
        · simp
        · exact List.mem_append_left _ (ih hl)

/-- The submissions `StoreServerEntry` handles as intended: not forced,
    passing validation, decoding without error, with a version that is not
    negative. -/
def StoresByVersion (op : DataStoreOp) : Prop :=
  ∀ f r, op = .storeServerEntry f r →
    r = false ∧ validateServerEntryFields f = .ok () ∧ f.illTyped = false ∧
      0 ≤ f.getConfigurationVersion

/-- The version `StoreServerEntry` reads back from a record it wrote. -/
theorem existingConfigurationVersion_json {db : DataStore} {ip : String} {g : ServerEntryFields}
    (h : db.serverEntries.get ip = some (.json g)) (hg : g.illTyped = false) :
    existingConfigurationVersion db ip = g.getConfigurationVersion := by
  simp [existingConfigurationVersion, h, unmarshalServerEntry, hg,
    ServerEntryFields.getConfigurationVersion, ServerEntry.zero]

/-- **STORE REFINES `firstMaximal`**: storing a well-behaved entry over a record
    that is the first maximal one of earlier well-behaved submissions leaves the
    first maximal one of all of them. -/
theorem storeServerEntry_firstMaximal {db : DataStore} {f : ServerEntryFields}
    {l : List ServerEntryFields}
    (hl : ∀ g ∈ l, g.illTyped = false ∧ 0 ≤ g.getConfigurationVersion)
    (hdb : db.serverEntries.get f.getIPAddress = (firstMaximal l).map .json) :
    (if storeServerEntryUpdates db f false then
        db.serverEntries.put f.getIPAddress (.json f) else db.serverEntries).get
      f.getIPAddress = (firstMaximal (l ++ [f])).map .json := by
  rw [firstMaximal_append]
  rcases hm : firstMaximal l with _ | g
  · have : existingConfigurationVersion db f.getIPAddress = -1 := by
      simp [existingConfigurationVersion, hdb, hm]
    simp [storeServerEntryUpdates, this, keepFirstMaximal]
  · rw [hm] at hdb
    obtain ⟨hg, hv⟩ := hl g (firstMaximal_mem hm)
    have he := existingConfigurationVersion_json hdb hg
    have hex : ¬g.getConfigurationVersion ≤ -1 := by omega
    by_cases hlt : g.getConfigurationVersion < f.getConfigurationVersion
    · simp [storeServerEntryUpdates, he, hex, hlt, keepFirstMaximal]
    · simp [storeServerEntryUpdates, he, hex, hlt, keepFirstMaximal, hdb]

/-- What a valid `StoreServerEntry` leaves behind, as a datastore operation. -/
theorem apply_storeServerEntry (isValidJSON : String → Bool) {db : DataStore}
    {f : ServerEntryFields} (r : Bool) (hv : validateServerEntryFields f = .ok ()) :
    (DataStoreOp.storeServerEntry f r).apply isValidJSON db =
      if storeServerEntryUpdates db f r then
        { db with serverEntries := db.serverEntries.put f.getIPAddress (.json f) }
      else db := by
  simp only [DataStoreOp.apply, storeServerEntry, hv]
  split <;> rfl

/-- The refinement along a run, from any datastore already refining the
    submissions `P` made before it. -/
theorem serverEntries_runOps_firstMaximal (isValidJSON : String → Bool) :
    ∀ (ops : List DataStoreOp) (db : DataStore) (P : String → List ServerEntryFields),
      (∀ op ∈ ops, StoresByVersion op) →
      (∀ ip, ∀ g ∈ P ip, g.illTyped = false ∧ 0 ≤ g.getConfigurationVersion) →
      (∀ ip, db.serverEntries.get ip = (firstMaximal (P ip)).map .json) →
      ∀ ip, (runOps isValidJSON db ops).serverEntries.get ip =
        (firstMaximal (P ip ++ submittedFor ip ops)).map .json
  | [], _, _, _, _, hdb, ip => by simpa [runOps, submittedFor] using hdb ip
  | op :: ops, db, P, hops, hP, hdb, ip => by
      have hrest := fun P' => serverEntries_runOps_firstMaximal isValidJSON ops
        (op.apply isValidJSON db) P' (fun o ho => hops o (.tail _ ho))
      simp only [runOps, List.foldl_cons] at hrest ⊢
      by_cases hs : ∀ f r, op ≠ .storeServerEntry f r
      · rw [submittedFor_cons_of_ne ip ops hs]
        exact hrest P hP (fun ip => by rw [serverEntries_apply isValidJSON db op hs]; exact hdb ip) ip
      push_neg at hs
      obtain ⟨f, r, rfl⟩ := hs
      obtain ⟨rfl, hv, ht, hnn⟩ := hops _ (.head _) f r rfl
      -- the submissions with `f` added to its own server's
      let P' := fun ip => if f.getIPAddress = ip then P ip ++ [f] else P ip
      have hP' : ∀ ip, ∀ g ∈ P' ip, g.illTyped = false ∧ 0 ≤ g.getConfigurationVersion := by
        intro ip g hg
        simp only [P'] at hg
        split at hg
        · rcases List.mem_append.mp hg with hg | hg
          · exact hP ip g hg
          · rw [List.mem_singleton.mp hg]; exact ⟨ht, hnn⟩
        · exact hP ip g hg
      have hdb' : ∀ ip, ((DataStoreOp.storeServerEntry f false).apply isValidJSON db).serverEntries.get
          ip = (firstMaximal (P' ip)).map .json := by
        intro ip
        rw [apply_storeServerEntry isValidJSON false hv]
        by_cases hip : f.getIPAddress = ip
        · subst hip
          simp only [P', if_pos rfl]
          split <;> simpa [*] using storeServerEntry_firstMaximal (hP _) (hdb f.getIPAddress)
        · simp only [P', if_neg hip]
          split
          · rw [Bucket.get_put_of_ne _ _ (Ne.symm hip)]; exact hdb ip
          · exact hdb ip
      have h := hrest P' hP' hdb' ip
      simp only [P'] at h
      split at h <;> simp [submittedFor, *]

/-- Folding on from a kept entry never lowers its version. -/
theorem foldl_keepFirstMaximal_version_le :
    ∀ (l : List ServerEntryFields) (g g' : ServerEntryFields),
      l.foldl keepFirstMaximal (some g) = some g' →
        g.getConfigurationVersion ≤ g'.getConfigurationVersion
  | [], g, g', h => by cases h; exact le_rfl
  | f :: l, g, g', h => by
      by_cases hlt : g.getConfigurationVersion < f.getConfigurationVersion
      · have := foldl_keepFirstMaximal_version_le l f g' (by simpa [keepFirstMaximal, hlt] using h)
        omega
      · exact foldl_keepFirstMaximal_version_le l g g' (by simpa [keepFirstMaximal, hlt] using h)

/-- The kept version of one server can only go up as submissions come in. -/
theorem firstMaximal_version_mono {l l' : List ServerEntryFields} {g g' : ServerEntryFields}
    (h : firstMaximal l = some g) (h' : firstMaximal (l ++ l') = some g') :
    g.getConfigurationVersion ≤ g'.getConfigurationVersion := by
  rw [firstMaximal, List.foldl_append, ← firstMaximal, h] at h'
  exact foldl_keepFirstMaximal_version_le l' g g' h'

theorem submittedFor_append (ip : String) :
    ∀ pre post : List DataStoreOp,
      submittedFor ip (pre ++ post) = submittedFor ip pre ++ submittedFor ip post
  | [], _ => rfl
  | .storeServerEntry f _ :: pre, post => by
      simp only [List.cons_append, submittedFor, List.append_eq, submittedFor_append ip pre post]
      split <;> rfl
  | .promoteServerEntry .. :: pre, post | .setKeyValue .. :: pre, post
  | .setDialParameters .. :: pre, post | .deleteDialParameters .. :: pre, post
  | .storePersistentStat .. :: pre, post | .takeOutUnreportedPersistentStats .. :: pre, post
  | .putBackUnreportedPersistentStats .. :: pre, post
  | .clearReportedPersistentStats .. :: pre, post => submittedFor_append ip pre post

/-- From an empty datastore, with every store unforced, valid, decodable and of a
    version that is not negative, each server's record is the first submitted
    entry of the highest version, and its version never goes down. -/
theorem storeServerEntry_keeps_first_highest_version (isValidJSON : String → Bool)
    (ops : List DataStoreOp) (hops : ∀ op ∈ ops, StoresByVersion op) (ip : String) :
    (runOps isValidJSON .empty ops).serverEntries.get ip =
        (firstMaximal (submittedFor ip ops)).map .json ∧
      ∀ (pre post : List DataStoreOp) (g g' : ServerEntryFields), ops = pre ++ post →
        (runOps isValidJSON .empty pre).serverEntries.get ip = some (.json g) →
        (runOps isValidJSON .empty ops).serverEntries.get ip = some (.json g') →
        g.getConfigurationVersion ≤ g'.getConfigurationVersion := by
  have hrun := fun ops (hops : ∀ op ∈ ops, StoresByVersion op) =>
    serverEntries_runOps_firstMaximal isValidJSON ops .empty (fun _ => []) hops
      (fun _ _ h => nomatch h) (fun _ => rfl) ip
  refine ⟨hrun ops hops, fun pre post g g' hsplit hg hg' => ?_⟩
  subst hsplit
  rw [hrun pre (fun op h => hops op (List.mem_append_left _ h))] at hg
  rw [hrun _ hops, submittedFor_append] at hg'
  simp only [List.nil_append, Option.map_eq_some', ServerEntryRecord.json.injEq] at hg hg'
  obtain ⟨g₁, h₁, rfl⟩ := hg
  obtain ⟨g₂, h₂, rfl⟩ := hg'
  exact firstMaximal_version_mono h₁ h₂

theorem storeServerEntry_keeps_first_highest_version_on_three_stores :
    let ops := [DataStoreOp.storeServerEntry
        { ipAddress := some "192.0.2.1", region := some "US", configurationVersion := some 1 } false,
      .storeServerEntry
        { ipAddress := some "192.0.2.1", region := some "CA", configurationVersion := some 1 } false,
      .storeServerEntry { ipAddress := some "192.0.2.1", configurationVersion := some 0 } false]
    (∀ op ∈ ops, StoresByVersion op) ∧
      ((runOps (fun _ => true) .empty ops).serverEntries.get "192.0.2.1" =
          (firstMaximal (submittedFor "192.0.2.1" ops)).map .json ∧
        ∀ (pre post : List DataStoreOp) (g g' : ServerEntryFields), ops = pre ++ post →
          (runOps (fun _ => true) .empty pre).serverEntries.get "192.0.2.1" = some (.json g) →
          (runOps (fun _ => true) .empty ops).serverEntries.get "192.0.2.1" = some (.json g') →
          g.getConfigurationVersion ≤ g'.getConfigurationVersion) :=
  have hops : ∀ op ∈ [DataStoreOp.storeServerEntry
        { ipAddress := some "192.0.2.1", region := some "US", configurationVersion := some 1 } false,
      .storeServerEntry
        { ipAddress := some "192.0.2.1", region := some "CA", configurationVersion := some 1 } false,
      .storeServerEntry { ipAddress := some "192.0.2.1", configurationVersion := some 0 } false],
      StoresByVersion op := by
    simp [StoresByVersion, validateServerEntryFields, ServerEntryFields.getIPAddress,
      ServerEntryFields.getConfigurationVersion]
  ⟨hops, storeServerEntry_keeps_first_highest_version (fun _ => true) _ hops "192.0.2.1"⟩

/-- A version of -1 reads back as "no usable record", so a later valid entry of
    version -2 replaces it: the stored version goes down, and the record left is
    not the first of the highest version. -/
theorem negative_version_replaced_by_lower :
    let e₁ : ServerEntryFields := { ipAddress := some "192.0.2.1", configurationVersion := some (-1) }
    let e₂ : ServerEntryFields := { ipAddress := some "192.0.2.1", configurationVersion := some (-2) }
    validateServerEntryFields e₁ = .ok () ∧ e₁.illTyped = false ∧
      validateServerEntryFields e₂ = .ok () ∧ e₂.illTyped = false ∧
      (runOps (fun _ => true) .empty [.storeServerEntry e₁ false]).serverEntries.get "192.0.2.1" =
        some (.json e₁) ∧
      (runOps (fun _ => true) .empty [.storeServerEntry e₁ false, .storeServerEntry e₂ false]
          ).serverEntries.get "192.0.2.1" = some (.json e₂) ∧
      firstMaximal (submittedFor "192.0.2.1"
        [.storeServerEntry e₁ false, .storeServerEntry e₂ false]) = some e₁ :=
  ⟨rfl, rfl, rfl, rfl, rfl, rfl, rfl⟩

/-! ## Affinity: the last promotion that found its server -/

/-- What one operation makes of the last promotion that found its server. -/
def DataStoreOp.promotion (db : DataStore) (last : Option (Config × String)) :
    DataStoreOp → Option (Config × String)
  | .promoteServerEntry config ip =>
      if (db.serverEntries.get ip).isSome then some (config, ip) else last
  | _ => last

/-- The config and IP address of the last `PromoteServerEntry` of a run that
    found its server. -/
def lastPromotion (isValidJSON : String → Bool) :
    DataStore → Option (Config × String) → List DataStoreOp → Option (Config × String)
  | _, last, [] => last
  | db, last, op :: ops =>
      lastPromotion isValidJSON (op.apply isValidJSON db) (op.promotion db last) ops

/-- The affinity records hold the last promotion: the filter it was made under,
    its IP address, and that server is still stored. -/
def AffinityRecords (db : DataStore) (last : Option (Config × String)) : Prop :=
  db.keyValues.get datastoreLastServerEntryFilterKey =
      last.map (fun p => makeServerEntryFilterValue p.1) ∧
    db.keyValues.get datastoreAffinityServerEntryIDKey = last.map Prod.snd ∧
    ∀ p ∈ last, (db.serverEntries.get p.2).isSome

theorem affinityRecords_empty : AffinityRecords DataStore.empty none :=
  ⟨rfl, rfl, fun _ h => nomatch h⟩

/-- A store either fails, and changes nothing, or writes its entry. -/
theorem apply_storeServerEntry_cases (isValidJSON : String → Bool) (db : DataStore)
    (f : ServerEntryFields) (r : Bool) :
    (DataStoreOp.storeServerEntry f r).apply isValidJSON db = db ∨
      (DataStoreOp.storeServerEntry f r).apply isValidJSON db =
        { db with serverEntries := db.serverEntries.put f.getIPAddress (.json f) } := by
  simp only [DataStoreOp.apply, storeServerEntry]
  split
  · exact .inl rfl
  · split
    · exact .inr rfl
    · exact .inl rfl

/-- Buckets that agree outside the stat buckets hold the same affinity records. -/
theorem SameServerSide.affinityRecords {db db' : DataStore} {last : Option (Config × String)}
    (h : SameServerSide db db') (ha : AffinityRecords db last) : AffinityRecords db' last := by
  rw [AffinityRecords, h.1, h.2]; exact ha

/-- **AFFINITY STEP**: every operation but a `SetKeyValue` on an affinity key
    keeps the affinity records equal to the last promotion that found its
    server. -/
theorem affinityRecords_apply (isValidJSON : String → Bool) {db : DataStore}
    {last : Option (Config × String)} {op : DataStoreOp} (hop : op.KeepsAffinityKeys)
    (h : AffinityRecords db last) :
    AffinityRecords (op.apply isValidJSON db) (op.promotion db last) := by
  obtain ⟨hf, ha, hs⟩ := h
  cases op with
  | storeServerEntry f r =>
      rcases apply_storeServerEntry_cases isValidJSON db f r with he | he <;> rw [he]
      · exact ⟨hf, ha, hs⟩
      · refine ⟨hf, ha, fun p hp => ?_⟩
        rw [Bucket.get_put]
        split
        · rfl
        · exact hs p hp
  | promoteServerEntry c ip =>
      simp only [DataStoreOp.promotion]
      rcases hget : db.serverEntries.get ip with _ | data
      · rw [DataStoreOp.apply, promoteServerEntry_of_get_none c hget]
        exact ⟨hf, ha, hs⟩
      · rw [DataStoreOp.apply, promoteServerEntry_of_get_some c hget]
        refine ⟨Bucket.get_put_self .., ?_, fun p hp => ?_⟩
        · rw [Bucket.get_put_of_ne _ _ (by decide), Bucket.get_put_self]; rfl
        · cases hp; simp [hget]
  | setKeyValue key value =>
      obtain ⟨hka, hkf⟩ := hop
      exact ⟨(Bucket.get_put_of_ne _ _ (Ne.symm hkf)).trans hf,
        (Bucket.get_put_of_ne _ _ (Ne.symm hka)).trans ha, hs⟩
  | _ =>
      exact (sameServerSide_apply isValidJSON db _ (by trivial)).affinityRecords ⟨hf, ha, hs⟩

/-- **AFFINITY RUN**: along a run that sets neither affinity key directly, the
    affinity records hold the last promotion that found its server. -/
theorem affinityRecords_runOps (isValidJSON : String → Bool) :
    ∀ (ops : List DataStoreOp) (db : DataStore) (last : Option (Config × String)),
      (∀ op ∈ ops, op.KeepsAffinityKeys) → AffinityRecords db last →
      AffinityRecords (runOps isValidJSON db ops) (lastPromotion isValidJSON db last ops)
  | [], _, _, _, h => h
  | op :: ops, _, _, hops, h =>
      affinityRecords_runOps isValidJSON ops _ _ (fun o ho => hops o (.tail _ ho))
        (affinityRecords_apply isValidJSON (hops op (.head _)) h)

/-- The stored filter is unchanged exactly when the last promotion was made
    under the current egress region. -/
theorem hasServerEntryFilterChanged_of_affinityRecords {db : DataStore}
    {last : Option (Config × String)} (h : AffinityRecords db last) (config : Config) :
    (!hasServerEntryFilterChanged db config) =
      last.any fun p => decide (p.1.egressRegion = config.egressRegion) := by
  rcases last with _ | ⟨c, ip⟩ <;>
    simp [hasServerEntryFilterChanged, h.1, makeServerEntryFilterValue]

/-- From an empty datastore and a run of stores and promotions, an iterator
    without a target applies affinity exactly when the last promotion that found
    its server was made under the same egress region; promoting an unknown
    server changes neither affinity record. -/
theorem newServerEntryIterator_affinity_iff_last_promotion (tacticsCapable : String → Bool)
    (decodeServerEntry : String → Except String ServerEntry)
    (getSupportedProtocols : ServerEntry → Bool → List String → List String)
    (isValidJSON : String → Bool) (ops : List DataStoreOp)
    (hops : ∀ op ∈ ops, op.IsServerEntryWrite) (config : Config)
    (hT : config.targetServerEntry = "") (draws : List Nat) :
    ((newServerEntryIterator tacticsCapable decodeServerEntry getSupportedProtocols
        (runOps isValidJSON .empty ops) config draws).1.map Prod.fst =
      .ok ((lastPromotion isValidJSON .empty none ops).any
        fun p => decide (p.1.egressRegion = config.egressRegion))) ∧
    ∀ (db : DataStore) (c : Config) (ip : String), db.serverEntries.get ip = none →
      (promoteServerEntry db c ip).keyValues = db.keyValues := by
  refine ⟨?_, fun db c ip h => by rw [promoteServerEntry_of_get_none c h]⟩
  rw [newServerEntryIterator_of_not_target _ _ _ _ _ hT]
  exact congrArg Except.ok (hasServerEntryFilterChanged_of_affinityRecords
    (affinityRecords_runOps isValidJSON ops _ _ (fun op h => (hops op h).keepsAffinityKeys)
      affinityRecords_empty) config)

theorem newServerEntryIterator_affinity_after_promotion :
    let ops := [DataStoreOp.storeServerEntry { ipAddress := some "192.0.2.1", region := some "US" }
      false, .promoteServerEntry { egressRegion := "US" } "192.0.2.1"]
    let config : Config := { egressRegion := "US" }
    (∀ op ∈ ops, op.IsServerEntryWrite) ∧ config.targetServerEntry = "" ∧
      ((newServerEntryIterator (fun _ => false) (fun _ => .error "") (fun _ _ _ => [])
          (runOps (fun _ => true) .empty ops) config [0]).1.map Prod.fst =
        .ok ((lastPromotion (fun _ => true) .empty none ops).any
          fun p => decide (p.1.egressRegion = config.egressRegion))) ∧
      ∀ (db : DataStore) (c : Config) (ip : String), db.serverEntries.get ip = none →
        (promoteServerEntry db c ip).keyValues = db.keyValues :=
  have hops : ∀ op ∈ [DataStoreOp.storeServerEntry
      { ipAddress := some "192.0.2.1", region := some "US" } false,
      .promoteServerEntry { egressRegion := "US" } "192.0.2.1"], op.IsServerEntryWrite := by
    simp [DataStoreOp.IsServerEntryWrite]
  ⟨hops, rfl, newServerEntryIterator_affinity_iff_last_promotion (fun _ => false)
    (fun _ => .error "") (fun _ _ _ => []) (fun _ => true) _ hops _ rfl [0]⟩

/-- **AFFINITY SLOT**: when `NewServerEntryIterator` reports affinity after a run
    that sets neither affinity key directly, the first ID of its list is the last promoted
    server, which is still stored, and the first `Next` returns that server's
    current entry whenever the entry decodes and passes the iterator's filter. -/
theorem first_next_returns_affinity_server (tacticsCapable : String → Bool)
    (decodeServerEntry : String → Except String ServerEntry)
    (getSupportedProtocols : ServerEntry → Bool → List String → List String)
    (isValidJSON : String → Bool) (ops : List DataStoreOp)
    (hops : ∀ op ∈ ops, op.KeepsAffinityKeys) (config : Config) (draws : List Nat)
    (it : ServerEntryIterator)
    (hit : (newServerEntryIterator tacticsCapable decodeServerEntry getSupportedProtocols
      (runOps isValidJSON .empty ops) config draws).1 = .ok (true, it)) :
    ∃ c ip data, lastPromotion isValidJSON .empty none ops = some (c, ip) ∧
      (runOps isValidJSON .empty ops).serverEntries.get ip = some data ∧
      it.serverEntryIDs[0]? = some ip ∧
      ∀ e, decodeFresh data = some e →
        passesIteratorFilter tacticsCapable false config.egressRegion e = true →
        (it.next tacticsCapable (runOps isValidJSON .empty ops)).1 =
          some (makeCompatibleServerEntry e) := by
  by_cases hT : config.targetServerEntry = ""
  swap
  · rw [newServerEntryIterator, if_pos hT] at hit
    exact absurd (newTargetServerEntryIterator_no_affinity _ _ _ hit) (by decide)
  have hA := affinityRecords_runOps isValidJSON ops _ _ hops affinityRecords_empty
  rw [newServerEntryIterator_of_not_target _ _ _ _ _ hT,
    hasServerEntryFilterChanged_of_affinityRecords hA] at hit
  obtain ⟨hany, rfl⟩ := Prod.mk.inj (Except.ok.inj hit)
  rw [hany, reset_of_not_target _ _ rfl]
  rcases hlast : lastPromotion isValidJSON .empty none ops with _ | ⟨c, ip⟩
  · simp [hlast] at hany
  obtain ⟨-, hid, hs⟩ := hA
  rw [hlast] at hid hs
  obtain ⟨data, hdata⟩ := Option.isSome_iff_exists.mp (hs _ rfl)
  have hres : resetAffinityServerEntryID (runOps isValidJSON .empty ops) true true = some ip := by
    simpa [resetAffinityServerEntryID] using hid
  have hhead := buildServerEntryIDs_head config draws hres
  refine ⟨c, ip, data, rfl, hdata, hhead, fun e hdec hpass => ?_⟩
  obtain ⟨rest, hrest⟩ := List.head?_eq_some_iff.1 ((List.head?_eq_getElem? _).trans hhead)
  rw [next_of_head_passes tacticsCapable rfl (by simpa using hrest) hdata hdec hpass]

theorem first_next_returns_affinity_server_after_promotion :
    let ops := [DataStoreOp.storeServerEntry { ipAddress := some "192.0.2.1", region := some "US" }
      false, .promoteServerEntry { egressRegion := "US" } "192.0.2.1",
      .setDialParameters "192.0.2.1" "WIFI" "{}", .setKeyValue "lastConnected" "2026-11-09"]
    let it : ServerEntryIterator :=
      { config := { egressRegion := "US" }, applyServerAffinity := true,
        serverEntryIDs := ["192.0.2.1"] }
    (∀ op ∈ ops, op.KeepsAffinityKeys) ∧
      (newServerEntryIterator (fun _ => false) (fun _ => .error "") (fun _ _ _ => [])
        (runOps (fun _ => true) .empty ops) { egressRegion := "US" } [] ).1 = .ok (true, it) ∧
      ∃ c ip data, lastPromotion (fun _ => true) .empty none ops = some (c, ip) ∧
        (runOps (fun _ => true) .empty ops).serverEntries.get ip = some data ∧
        it.serverEntryIDs[0]? = some ip ∧
        ∀ e, decodeFresh data = some e →
          passesIteratorFilter (fun _ => false) false "US" e = true →
          (it.next (fun _ => false) (runOps (fun _ => true) .empty ops)).1 =
            some (makeCompatibleServerEntry e) :=
  have hops : ∀ op ∈ [DataStoreOp.storeServerEntry
      { ipAddress := some "192.0.2.1", region := some "US" } false,
      .promoteServerEntry { egressRegion := "US" } "192.0.2.1",
      .setDialParameters "192.0.2.1" "WIFI" "{}", .setKeyValue "lastConnected" "2026-11-09"],
      op.KeepsAffinityKeys := by
    simp [DataStoreOp.KeepsAffinityKeys, datastoreAffinityServerEntryIDKey,
      datastoreLastServerEntryFilterKey]
  ⟨hops, rfl, first_next_returns_affinity_server (fun _ => false) (fun _ => .error "")
    (fun _ _ _ => []) (fun _ => true) _ hops { egressRegion := "US" } [] _ rfl⟩

/-- The affinity server's record was updated after its promotion to a region
    the iterator filters out: the iterator still reports affinity, and its first
    `Next` returns another server. -/
theorem affinity_first_next_returns_other_server :
    let ops := [DataStoreOp.storeServerEntry
        { ipAddress := some "192.0.2.1", region := some "US" } false,
      .storeServerEntry { ipAddress := some "192.0.2.2", region := some "US" } false,
      .promoteServerEntry { egressRegion := "US" } "192.0.2.1",
      .storeServerEntry
        { ipAddress := some "192.0.2.1", region := some "CA", configurationVersion := some 1 } false]
    lastPromotion (fun _ => true) .empty none ops = some ({ egressRegion := "US" }, "192.0.2.1") ∧
      (newServerEntryIterator (fun _ => false) (fun _ => .error "") (fun _ _ _ => [])
          (runOps (fun _ => true) .empty ops) { egressRegion := "US" } [0]).1.map
        (fun r => (r.1, ((r.2.next (fun _ => false) (runOps (fun _ => true) .empty ops)).1.map
          ServerEntry.ipAddress))) =
        .ok (true, some "192.0.2.2") :=
  ⟨rfl, rfl⟩

end PsiphonDataStoreRun
