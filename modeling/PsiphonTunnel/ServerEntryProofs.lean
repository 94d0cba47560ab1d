import PsiphonTunnel.BucketProofs

/-! # Server entries — stored records and the decode `Next` reuses

    A stored server entry is the JSON object `StoreServerEntry` marshals from a
    `protocol.ServerEntryFields` map.  Decoding it with `json.Unmarshal` into a
    `*protocol.ServerEntry` behaves in two ways the iterator depends on:

    * a `nil` pointer is first pointed at a fresh zero struct, but a non-`nil`
      one is decoded INTO: members the object lacks keep the struct's old values
      (`decodeInto`);
    * a member whose JSON type does not fit its field is skipped, the others are
      still decoded, and an error is reported; text that is not JSON at all
      changes nothing (`unmarshalServerEntry`).

    The model keeps the `ServerEntry` fields that the datastore and iterator code
    read: the IP address (the store key), the region and capabilities (the
    iterator filters), the configuration version (the store policy) and the two
    meek fronting fields (`MakeCompatibleServerEntry`). -/

namespace PsiphonServerEntry

/-- `protocol.ServerEntry`, restricted to the fields the datastore code reads. -/
structure ServerEntry where
  ipAddress : String
  region : String
  capabilities : List String
  configurationVersion : Int
  meekFrontingDomain : String
  meekFrontingAddresses : List String
  deriving DecidableEq, Repr

/-- The zero `ServerEntry` a `nil` pointer is pointed at before decoding. -/
def ServerEntry.zero : ServerEntry := ⟨"", "", [], 0, "", []⟩

/-- The members of a server-entry JSON object, as `json.Unmarshal` sees them
    when decoding into a `ServerEntry`: each field's member when present with a
    JSON type that fits the field.  `illTyped` records that some member has a
    type that does not fit its field (that member counts as absent).  The same
    value stands for the `protocol.ServerEntryFields` map and for its JSON
    encoding, which has the same members. -/
structure ServerEntryFields where
  ipAddress : Option String := none
  region : Option String := none
  capabilities : Option (List String) := none
  configurationVersion : Option Int := none
  meekFrontingDomain : Option String := none
  meekFrontingAddresses : Option (List String) := none
  illTyped : Bool := false
  deriving DecidableEq, Repr

/-- A value of the server-entry bucket: a JSON object, or bytes that are not JSON. -/
inductive ServerEntryRecord where
  | json (fields : ServerEntryFields)
  | invalidJSON
  deriving DecidableEq, Repr

namespace ServerEntryFields

/-- Modelled from the spec: `ServerEntryFields.GetIPAddress` is not in the
    sources; the IP address member, or the empty string when absent. -/
def getIPAddress (f : ServerEntryFields) : String := f.ipAddress.getD ""

/-- Modelled from the spec: `ServerEntryFields.GetConfigurationVersion` is not in
    the sources; the configuration version member, or `0` when absent. -/
def getConfigurationVersion (f : ServerEntryFields) : Int := f.configurationVersion.getD 0

end ServerEntryFields

/-- `json.Unmarshal` of a server-entry object into the struct `base`: every
    present member overwrites its field, every absent member leaves it as it was. -/
def decodeInto (base : ServerEntry) (f : ServerEntryFields) : ServerEntry where
  ipAddress := f.ipAddress.getD base.ipAddress
  region := f.region.getD base.region
  capabilities := f.capabilities.getD base.capabilities
  configurationVersion := f.configurationVersion.getD base.configurationVersion
  meekFrontingDomain := f.meekFrontingDomain.getD base.meekFrontingDomain
  meekFrontingAddresses := f.meekFrontingAddresses.getD base.meekFrontingAddresses

/-- `err := json.Unmarshal(data, &serverEntry)` with `serverEntry` a
    `*protocol.ServerEntry` (`none` is `nil`): `.ok e` when no error is reported
    and the pointer now points at `e`; `.error p` when an error is reported and
    the pointer is `p` after the call. -/
def unmarshalServerEntry (serverEntry : Option ServerEntry) :
    ServerEntryRecord → Except (Option ServerEntry) ServerEntry
  | .json f =>
      let e := decodeInto (serverEntry.getD .zero) f
      if f.illTyped then .error (some e) else .ok e
  | .invalidJSON => .error serverEntry

/-- The entry a record decodes to from a fresh `nil` pointer, when the decode
    reports no error: what `scanServerEntries` hands its visitor. -/
def decodeFresh : ServerEntryRecord → Option ServerEntry
  | .json f => if f.illTyped then none else some (decodeInto .zero f)
  | .invalidJSON => none

/-- `MakeCompatibleServerEntry`: an entry with a single legacy fronting domain
    and no fronting addresses gets that domain as its one fronting address. -/
def makeCompatibleServerEntry (e : ServerEntry) : ServerEntry :=
  if e.meekFrontingAddresses.length = 0 ∧ e.meekFrontingDomain ≠ "" then
    { e with meekFrontingAddresses := e.meekFrontingAddresses ++ [e.meekFrontingDomain] }
  else e

/-! ## Decoding -/

@[simp] theorem decodeInto_region (b : ServerEntry) (f : ServerEntryFields) :
    (decodeInto b f).region = f.region.getD b.region := rfl

@[simp] theorem decodeInto_capabilities (b : ServerEntry) (f : ServerEntryFields) :
    (decodeInto b f).capabilities = f.capabilities.getD b.capabilities := rfl

@[simp] theorem decodeInto_configurationVersion (b : ServerEntry) (f : ServerEntryFields) :
    (decodeInto b f).configurationVersion = f.configurationVersion.getD b.configurationVersion :=
  rfl

@[simp] theorem makeCompatibleServerEntry_region (e : ServerEntry) :
    (makeCompatibleServerEntry e).region = e.region := by
  unfold makeCompatibleServerEntry; split <;> rfl

@[simp] theorem makeCompatibleServerEntry_capabilities (e : ServerEntry) :
    (makeCompatibleServerEntry e).capabilities = e.capabilities := by
  unfold makeCompatibleServerEntry; split <;> rfl

/-- A successful decode from a `nil` pointer is `decodeFresh`. -/
theorem unmarshalServerEntry_none {r : ServerEntryRecord} {e : ServerEntry} :
    unmarshalServerEntry none r = .ok e ↔ decodeFresh r = some e := by
  cases r with
  | json f => cases h : f.illTyped <;> simp [unmarshalServerEntry, decodeFresh, h]
  | invalidJSON => simp [unmarshalServerEntry, decodeFresh]

/-! ## The iterator filter -/

section Filter

variable (tacticsCapable : String → Bool)

/-- Modelled from the spec: `ServerEntry.GetSupportedTacticsProtocols` is not in
    the sources; the spec keeps an entry for tactics when it advertises at least
    one tactics-capable profile, so this is the entry's capabilities `c` with
    `tacticsCapable c`. -/
def getSupportedTacticsProtocols (e : ServerEntry) : List String :=
  e.capabilities.filter tacticsCapable

/-- The filter in `ServerEntryIterator.Next`: a tactics iterator keeps entries
    with a tactics protocol, a tunnel iterator those in its egress region (any
    region when `EgressRegion` is empty). -/
def passesIteratorFilter (isTactics : Bool) (egressRegion : String) (e : ServerEntry) : Bool :=
  if isTactics then decide ((getSupportedTacticsProtocols tacticsCapable e).length > 0)
  else egressRegion = "" || e.region = egressRegion

@[simp] theorem passesIteratorFilter_makeCompatibleServerEntry (t : Bool) (r : String)
    (e : ServerEntry) :
    passesIteratorFilter tacticsCapable t r (makeCompatibleServerEntry e) =
      passesIteratorFilter tacticsCapable t r e := by
  simp [passesIteratorFilter, getSupportedTacticsProtocols]

end Filter

end PsiphonServerEntry
