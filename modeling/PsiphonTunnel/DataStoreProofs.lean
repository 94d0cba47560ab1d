import PsiphonTunnel.ServerEntryProofs

/-! # The datastore — server-entry store policy, affinity and dial parameters

    The open datastore is its buckets (`DataStore`); each operation of
    `dataStore.go` is a function of it, one bolt transaction each, with the
    datastore's error paths for a closed database left out.  This file holds the
    server-entry and key/value side:

    * `storeServerEntry` — insert, or replace only when forced or when the new
      configuration version is strictly higher than the stored one, with `-1`
      standing for "no record, or a record that does not decode";
    * `promoteServerEntry` — record the affinity ID and the filter it was
      promoted under, only for a stored server;
    * `hasServerEntryFilterChanged` — compare the stored filter with the current;
    * the dial-parameter records, keyed by IP address and network ID glued
      together (`makeDialParametersKey`).

    Each operation comes with its spec lemma: what it writes, and that it leaves
    every other bucket alone. -/

namespace PsiphonDataStore

open PsiphonBucket PsiphonServerEntry

/-- The `Config` fields and client parameters the datastore code reads. -/
structure Config where
  egressRegion : String := ""
  targetServerEntry : String := ""
  networkID : String := ""
  limitTunnelProtocols : List String := []
  useUpstreamProxy : Bool := false
  replayCandidateCount : Int := 0
  persistentStatsMaxStoreRecords : Int := 0
  persistentStatsMaxSendBytes : Int := 0
  deriving DecidableEq, Repr

/-- The open datastore: the buckets the modelled operations read and write.
    Dial-parameter values are the marshalled JSON of a `DialParameters`. -/
structure DataStore where
  serverEntries : Bucket ServerEntryRecord
  keyValues : Bucket String
  dialParameters : Bucket String
  remoteServerListStats : Bucket String
  failedTunnelStats : Bucket String

/-- A freshly created datastore: every bucket empty. -/
def DataStore.empty : DataStore := ⟨.empty, .empty, .empty, .empty, .empty⟩

/-- `datastoreAffinityServerEntryIDKey`. -/
def datastoreAffinityServerEntryIDKey : String := "affinityServerEntryID"

/-- `datastoreLastServerEntryFilterKey`. -/
def datastoreLastServerEntryFilterKey : String := "lastServerEntryFilter"

/-! ## Storing server entries -/

/-- Modelled from the spec: `protocol.ValidateServerEntryFields` is not in the
    sources; the spec rejects entries with empty required fields, and the IP
    address is the one the datastore depends on (it is the store key). -/
def validateServerEntryFields (f : ServerEntryFields) : Except String Unit :=
  if f.getIPAddress = "" then .error "server entry has invalid ipAddress" else .ok ()

/-- The version `StoreServerEntry` compares against: that of the stored record
    decoded from a `nil` pointer, or `-1` when there is no record or the decode
    reports an error. -/
def existingConfigurationVersion (db : DataStore) (ipAddress : String) : Int :=
  match db.serverEntries.get ipAddress with
  | none => -1
  | some existingData =>
      match unmarshalServerEntry none existingData with
      | .ok existingServerEntry => existingServerEntry.configurationVersion
      | .error _ => -1

/-- `StoreServerEntry`: the decision whether to write, as the code computes it. -/
def storeServerEntryUpdates (db : DataStore) (serverEntryFields : ServerEntryFields)
    (replaceIfExists : Bool) : Bool :=
  let existing := existingConfigurationVersion db serverEntryFields.getIPAddress
  let entryExists := decide (existing > -1)
  let newer := entryExists && decide (existing < serverEntryFields.getConfigurationVersion)
  !entryExists || replaceIfExists || newer

/-- `StoreServerEntry(serverEntryFields, replaceIfExists)`. -/
def storeServerEntry (db : DataStore) (serverEntryFields : ServerEntryFields)
    (replaceIfExists : Bool) : Except String DataStore :=
  match validateServerEntryFields serverEntryFields with
  | .error err => .error ("invalid server entry: " ++ err)
  | .ok () =>
      if storeServerEntryUpdates db serverEntryFields replaceIfExists then
        .ok { db with serverEntries :=
          db.serverEntries.put serverEntryFields.getIPAddress (.json serverEntryFields) }
      else .ok db

/-! ## Affinity -/

/-- `makeServerEntryFilterValue`: only the egress region breaks affinity. -/
def makeServerEntryFilterValue (config : Config) : String := config.egressRegion

/-- `PromoteServerEntry(config, ipAddress)`: for a stored server, set the
    affinity ID and the filter it was promoted under; ignore unknown servers. -/
def promoteServerEntry (db : DataStore) (config : Config) (ipAddress : String) : DataStore :=
  match db.serverEntries.get ipAddress with
  | none => db
  | some _ =>
      let bucket := db.keyValues.put datastoreAffinityServerEntryIDKey ipAddress
      { db with keyValues :=
          bucket.put datastoreLastServerEntryFilterKey (makeServerEntryFilterValue config) }

/-- `hasServerEntryFilterChanged(config)`: a missing stored filter counts as
    changed, even against an empty current filter. -/
def hasServerEntryFilterChanged (db : DataStore) (config : Config) : Bool :=
  match db.keyValues.get datastoreLastServerEntryFilterKey with
  | none => true
  | some previousFilter => previousFilter ≠ makeServerEntryFilterValue config

theorem promoteServerEntry_of_get_none {db : DataStore} {ip : String} (config : Config)
    (h : db.serverEntries.get ip = none) : promoteServerEntry db config ip = db := by
  simp [promoteServerEntry, h]

theorem promoteServerEntry_of_get_some {db : DataStore} {ip : String} {r : ServerEntryRecord}
    (config : Config) (h : db.serverEntries.get ip = some r) :
    promoteServerEntry db config ip = { db with keyValues :=
      ((db.keyValues.put datastoreAffinityServerEntryIDKey ip).put
        datastoreLastServerEntryFilterKey (makeServerEntryFilterValue config)) } := by
  simp [promoteServerEntry, h]

@[simp] theorem promoteServerEntry_serverEntries (db : DataStore) (config : Config) (ip : String) :
    (promoteServerEntry db config ip).serverEntries = db.serverEntries := by
  unfold promoteServerEntry; split <;> rfl

/-! ## Key/value records and dial parameters -/

/-- `SetKeyValue(key, value)`. -/
def setKeyValue (db : DataStore) (key value : String) : DataStore :=
  { db with keyValues := db.keyValues.put key value }

/-- `GetKeyValue(key)`: the empty string when not found. -/
def getKeyValue (db : DataStore) (key : String) : String := (db.keyValues.get key).getD ""

/-- `makeDialParametersKey`: the IP address followed by the network ID. -/
def makeDialParametersKey (serverIPAddress networkID : String) : String :=
  serverIPAddress ++ networkID

/-- `SetDialParameters`, given the marshalled `DialParameters`. -/
def setDialParameters (db : DataStore) (serverIPAddress networkID data : String) : DataStore :=
  { db with dialParameters :=
      db.dialParameters.put (makeDialParametersKey serverIPAddress networkID) data }

/-- `GetDialParameters`, up to the final unmarshal: the stored record, if any. -/
def getDialParameters (db : DataStore) (serverIPAddress networkID : String) : Option String :=
  db.dialParameters.get (makeDialParametersKey serverIPAddress networkID)

/-- `DeleteDialParameters`. -/
def deleteDialParameters (db : DataStore) (serverIPAddress networkID : String) : DataStore :=
  { db with dialParameters :=
      db.dialParameters.delete (makeDialParametersKey serverIPAddress networkID) }

/-- **DIAL PARAMETERS SPEC**: a record is found by the glued key, so what is set
    under one pair is read back under every pair glued to the same string. -/
theorem getDialParameters_setDialParameters (db : DataStore)
    (serverIPAddress networkID data serverIPAddress' networkID' : String) :
    getDialParameters (setDialParameters db serverIPAddress networkID data) serverIPAddress'
        networkID' =
      if serverIPAddress' ++ networkID' = serverIPAddress ++ networkID then some data
      else getDialParameters db serverIPAddress' networkID' :=
  Bucket.get_put _ _ _ _

/-- Likewise, a delete removes the record of every pair glued to the same string. -/
theorem getDialParameters_deleteDialParameters (db : DataStore)
    (serverIPAddress networkID serverIPAddress' networkID' : String) :
    getDialParameters (deleteDialParameters db serverIPAddress networkID) serverIPAddress'
        networkID' =
      if serverIPAddress' ++ networkID' = serverIPAddress ++ networkID then none
      else getDialParameters db serverIPAddress' networkID' :=
  Bucket.get_delete _ _ _

end PsiphonDataStore
