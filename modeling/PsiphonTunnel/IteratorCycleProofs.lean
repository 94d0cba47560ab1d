import PsiphonTunnel.IteratorProofs

/-! # What `Next` returns — and the struct it reuses across skipped entries

    `ServerEntryIterator.Next` declares `serverEntry` once, before its filter
    loop, and `json.Unmarshal` decodes into the struct a non-`nil` pointer
    already points at.  So within one call, each record is decoded INTO the
    entry last skipped by the filter: members the record lacks keep that
    entry's values (`next_decodes_into_skipped`).  The sibling
    `scanServerEntries` declares its pointer inside its loop and never does this.

    A first slot whose record decodes and passes is returned as decoded from
    scratch (`next_of_head_passes`).  The two failing inputs at the end are
    reachable stores, two `StoreServerEntry` calls and a fresh iterator, on
    which `next_decodes_into_skipped` applies: once for a record skipped by
    the filter, once for a record that fails to decode. -/

namespace PsiphonIteratorCycle

open PsiphonBucket PsiphonServerEntry PsiphonDataStore PsiphonIterator

variable (tacticsCapable : String → Bool)

/-- **HEAD SLOT**: when the record at the cursor decodes from scratch to an entry
    that passes the filter, `Next` returns that entry, made compatible, and
    moves the cursor past it. -/
theorem next_of_head_passes {db : DataStore} {it : ServerEntryIterator} {id : String}
    {rest : List String} {data : ServerEntryRecord} {e : ServerEntry}
    (hT : it.isTargetServerEntryIterator = false)
    (hids : it.serverEntryIDs.drop it.serverEntryIndex = id :: rest)
    (hget : db.serverEntries.get id = some data) (hdec : decodeFresh data = some e)
    (hpass : passesIteratorFilter tacticsCapable it.isTacticsServerEntryIterator
      it.config.egressRegion e = true) :
    it.next tacticsCapable db =
      (some (makeCompatibleServerEntry e), { it with serverEntryIndex := it.serverEntryIndex + 1 }) := by
  have hu : unmarshalServerEntry none data = .ok e := unmarshalServerEntry_none.mpr hdec
  simp [ServerEntryIterator.next, hT, hids, nextLoop, hget, hu, hpass]

/-- **THE LEAK**: when `Next` skips the record at the cursor — it fails to
    decode, or decodes and fails the filter — and the next record decodes,
    `Next` decodes the second INTO the first: the entry it returns carries the
    first record's value of every member the second lacks. -/
theorem next_decodes_into_skipped {db : DataStore} {it : ServerEntryIterator} {a b : String}
    {rest : List String} {fa fb : ServerEntryFields}
    (hT : it.isTargetServerEntryIterator = false)
    (hids : it.serverEntryIDs.drop it.serverEntryIndex = a :: b :: rest)
    (ha : db.serverEntries.get a = some (.json fa)) (hb : db.serverEntries.get b = some (.json fb))
    (hskip : fa.illTyped = true ∨ passesIteratorFilter tacticsCapable
      it.isTacticsServerEntryIterator it.config.egressRegion (decodeInto .zero fa) = false)
    (htb : fb.illTyped = false)
    (hfb : passesIteratorFilter tacticsCapable it.isTacticsServerEntryIterator
      it.config.egressRegion (decodeInto (decodeInto .zero fa) fb) = true) :
    it.next tacticsCapable db =
      (some (makeCompatibleServerEntry (decodeInto (decodeInto .zero fa) fb)),
        { it with serverEntryIndex := it.serverEntryIndex + 2 }) := by
  cases hta : fa.illTyped
  · have hfa := hskip.resolve_left (by simp [hta])
    simp [ServerEntryIterator.next, hT, hids, nextLoop, ha, hb, unmarshalServerEntry, hta, htb,
      hfa, hfb]
  · simp [ServerEntryIterator.next, hT, hids, nextLoop, ha, hb, unmarshalServerEntry, hta, htb,
      hfb]

/-! ## Failing inputs

    Both stores come from two `StoreServerEntry` calls on an empty datastore;
    the iterator is `NewServerEntryIterator` for egress region `US`, with PRNG
    draws that leave the storage order in place.  No target entry is configured,
    so the target-entry parameters are never called. -/

/-- A tunnel iterator for `US` returns the `US` server with the fronting domain
    of the `CA` server it skipped: decoding its record from scratch, as
    `scanServerEntries` does, gives an entry with no fronting domain. -/
theorem next_leaks_skipped_fronting_domain :
    (storeServerEntry DataStore.empty
        { ipAddress := some "192.0.2.1", region := some "CA",
          meekFrontingDomain := some "front.example" } false >>=
      (storeServerEntry · { ipAddress := some "192.0.2.2", region := some "US" } false)).map
      (fun db => (newServerEntryIterator (fun _ => false) (fun _ => .error "") (fun _ _ _ => [])
          db { egressRegion := "US" } [1, 0]).1.map
        fun r => ((r.2.next (fun _ => false) db).1,
          ((db.serverEntries.get "192.0.2.2").bind decodeFresh).map makeCompatibleServerEntry)) =
      .ok (.ok (some ⟨"192.0.2.2", "US", [], 0, "front.example", ["front.example"]⟩,
        some ⟨"192.0.2.2", "US", [], 0, "", []⟩)) := by
  -- the store after the two writes, and the iterator, with the storage order kept
  obtain ⟨db, hdb, ha, hb, hit⟩ : ∃ db, (storeServerEntry DataStore.empty
        { ipAddress := some "192.0.2.1", region := some "CA",
          meekFrontingDomain := some "front.example" } false >>=
      (storeServerEntry · { ipAddress := some "192.0.2.2", region := some "US" } false)) = .ok db ∧
      db.serverEntries.get "192.0.2.1" = some (.json
        { ipAddress := some "192.0.2.1", region := some "CA",
          meekFrontingDomain := some "front.example" }) ∧
      db.serverEntries.get "192.0.2.2" =
        some (.json { ipAddress := some "192.0.2.2", region := some "US" }) ∧
      (newServerEntryIterator (fun _ => false) (fun _ => .error "") (fun _ _ _ => []) db
        { egressRegion := "US" } [1, 0]).1 =
        .ok (false,
          { config := { egressRegion := "US" }, serverEntryIDs := ["192.0.2.1", "192.0.2.2"] }) :=
    ⟨_, rfl, rfl, rfl, rfl⟩
  rw [hdb]
  simp only [Except.map, hit, hb, @next_decodes_into_skipped (fun _ => false) db
    { config := { egressRegion := "US" }, serverEntryIDs := ["192.0.2.1", "192.0.2.2"] } _ _ _ _ _
    rfl rfl ha hb (.inr rfl) rfl rfl]
  rfl

/-- A cycle with no writes returns a server whose record fails the filter: the
    record before it has a member of the wrong JSON type, so it does not decode,
    but the decode still set its region `US`, which the next record (no region)
    inherits.  The cycle returns that server and ends, though no stored record
    both decodes and passes the `US` filter. -/
theorem cycle_returns_ineligible_entry :
    (storeServerEntry DataStore.empty
        { ipAddress := some "192.0.2.1", region := some "US", illTyped := true } false >>=
      (storeServerEntry · { ipAddress := some "192.0.2.2" } false)).map
      (fun db => (newServerEntryIterator (fun _ => false) (fun _ => .error "") (fun _ _ _ => [])
          db { egressRegion := "US" } [1, 0]).1.map
        fun r =>
          let (first, it) := r.2.next (fun _ => false) db
          (first, (it.next (fun _ => false) db).1,
            ((db.serverEntries.get "192.0.2.1").bind decodeFresh,
              (db.serverEntries.get "192.0.2.2").bind decodeFresh))) =
      .ok (.ok (some ⟨"192.0.2.2", "US", [], 0, "", []⟩, none,
        (none, some ⟨"192.0.2.2", "", [], 0, "", []⟩))) := by
  -- the store after the two writes, and the iterator, with the storage order kept
  obtain ⟨db, hdb, ha, hb, hit⟩ : ∃ db, (storeServerEntry DataStore.empty
        { ipAddress := some "192.0.2.1", region := some "US", illTyped := true } false >>=
      (storeServerEntry · { ipAddress := some "192.0.2.2" } false)) = .ok db ∧
      db.serverEntries.get "192.0.2.1" =
        some (.json { ipAddress := some "192.0.2.1", region := some "US", illTyped := true }) ∧
      db.serverEntries.get "192.0.2.2" = some (.json { ipAddress := some "192.0.2.2" }) ∧
      (newServerEntryIterator (fun _ => false) (fun _ => .error "") (fun _ _ _ => []) db
        { egressRegion := "US" } [1, 0]).1 =
        .ok (false,
          { config := { egressRegion := "US" }, serverEntryIDs := ["192.0.2.1", "192.0.2.2"] }) :=
    ⟨_, rfl, rfl, rfl, rfl⟩
  rw [hdb]
  simp only [Except.map, hit, ha, hb, @next_decodes_into_skipped (fun _ => false) db
    { config := { egressRegion := "US" }, serverEntryIDs := ["192.0.2.1", "192.0.2.2"] } _ _ _ _ _
    rfl rfl ha hb (.inl rfl) rfl rfl]
  rfl

end PsiphonIteratorCycle
