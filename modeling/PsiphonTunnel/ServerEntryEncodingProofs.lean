import PsiphonTunnel.PsinetProofs
import PsiphonTunnel.ObfuscatorProofs

/-! # Encoded server entries — the server-list format psinet hands out

    `getEncodedServerEntry` turns a psinet server into the hex string clients
    store: the legacy fields `ipAddress webServerPort webServerSecret
    webServerCertificate`, each followed by a space, then the JSON of the
    extended config.  A TCS host's certificate loses its PEM header and its
    last two lines; an entry with a blank credential is never handed out; an
    unfronted-meek server on a host whose meek port is 443 is advertised as
    unfronted-meek-HTTPS; the SSH host key is kept only for `ssh-rsa` keys.

    A Go string is read through its bytes where its bytes matter: `len(s)` is
    `utf8ByteSize`, `[]byte(s)` is `stringBytes`.  `json.Marshal` is library
    code and a parameter; `hex.EncodeToString` is `encodeToString`.  The client
    side of the format is not in the sources: `decodeServerEntry` follows the
    spec, a hex blob `ipAddress SP webPort SP secret SP pemBody SP jsonBody`.

    The headline results:

    * `parseSshKeyString_eq_iff` — `parseSshKeyString` returns a key type and
      key exactly for the string made of them and one space between, neither
      holding a space;
    * `getEncodedServerEntry_round_trip` — an entry handed out has no blank
      legacy field, and decoding it gives back the four legacy fields and the
      JSON, as long as the legacy fields hold no space byte. -/

namespace PsiphonServerEntryEncoding

open PsiphonBucket PsiphonPsinet PsiphonObfuscator

/-! ## Go strings -/

/-- `strings.Split(s, sep)` for a one-character separator. -/
def stringsSplit (s : String) (sep : Char) : List String := (s.toList.splitOn sep).map String.mk

/-- Every character of a piece of a split is a character of the string, and
    not the separator. -/
theorem mem_of_mem_splitOn {sep : Char} :
    ∀ {s l : List Char}, l ∈ s.splitOn sep → ∀ x ∈ l, x ≠ sep ∧ x ∈ s
  | [], l, h => by simp_all
  | c :: s, l, h => by
      have ih := @mem_of_mem_splitOn sep s
      simp only [List.splitOn, List.splitOnP_cons] at h ih
      split at h
      · rcases List.mem_cons.mp h with rfl | h
        · simp
        · exact fun x hx => (ih h x hx).imp_right (.tail _)
      · rename_i hc
        obtain ⟨w, ws, hw⟩ := List.exists_cons_of_ne_nil (List.splitOnP_ne_nil (· == sep) s)
        rw [hw, List.modifyHead_cons] at h
        have hw' : ∀ x ∈ w, x ≠ sep ∧ x ∈ s := ih (by rw [hw]; exact .head _)
        rcases List.mem_cons.mp h with rfl | h
        · rintro x (_ | ⟨_, hx⟩)
          · exact ⟨fun he => hc (by simp [he]), .head _⟩
          · exact (hw' x hx).imp_right (.tail _)
        · exact fun x hx => (ih (by rw [hw]; exact .tail _ h) x hx).imp_right (.tail _)

theorem not_mem_of_mem_splitOn {sep : Char} {s l : List Char} (h : l ∈ s.splitOn sep) :
    sep ∉ l :=
  fun hl => (mem_of_mem_splitOn h sep hl).1 rfl

/-! ## SSH host keys -/

/-- `parseSshKeyString(sshKeyString)`: a string of the form
    `"ssh-key-type ssh-key"`. -/
def parseSshKeyString (sshKeyString : String) : String × String :=
  match stringsSplit sshKeyString ' ' with
  | [keyType, key] => (keyType, key)
  | _ => ("", "")

/-- **SSH KEY FORMAT**: `parseSshKeyString` returns a key type and key (not
    both empty) exactly for the string made of the key type, one space and the
    key, when neither holds a space. -/
theorem parseSshKeyString_eq_iff (sshKeyString keyType key : String)
    (hne : (keyType, key) ≠ ("", "")) :
    parseSshKeyString sshKeyString = (keyType, key) ↔
      ' ' ∉ keyType.toList ∧ ' ' ∉ key.toList ∧ sshKeyString = keyType ++ " " ++ key := by
  have hmem : ∀ l ∈ sshKeyString.toList.splitOn ' ', ' ' ∉ l := fun _ hl => not_mem_of_mem_splitOn hl
  have hjoin := List.intercalate_splitOn sshKeyString.toList ' '
  constructor
  · intro h
    simp only [parseSshKeyString, stringsSplit] at h
    rcases hs : sshKeyString.toList.splitOn ' ' with _ | ⟨a, _ | ⟨b, _ | ⟨c, l⟩⟩⟩ <;>
      rw [hs] at h hjoin hmem <;> try exact absurd h.symm hne
    obtain ⟨rfl, rfl⟩ := Prod.mk.inj h
    refine ⟨hmem a (.head _), hmem b (.tail _ (.head _)), String.ext ?_⟩
    simpa [List.intercalate] using hjoin.symm
  · rintro ⟨ht, hk, rfl⟩
    have ht' : ' ' ∉ keyType.data := ht
    have hk' : ' ' ∉ key.data := hk
    have hsplit : (keyType.data ++ ' ' :: key.data).splitOn ' ' = [keyType.data, key.data] := by
      simpa [List.intercalate] using
        List.splitOn_intercalate [keyType.data, key.data] ' ' (by simp [ht', hk']) (by simp)
    simp [parseSshKeyString, stringsSplit, hsplit]

/-- An RSA host key and its key type. -/
theorem parseSshKeyString_eq_iff_rsa :
    ("ssh-rsa", "AAAAB3NzaC1yc2E") ≠ ("", "") ∧
      (parseSshKeyString "ssh-rsa AAAAB3NzaC1yc2E" = ("ssh-rsa", "AAAAB3NzaC1yc2E") ↔
        ' ' ∉ "ssh-rsa".toList ∧ ' ' ∉ "AAAAB3NzaC1yc2E".toList ∧
          "ssh-rsa AAAAB3NzaC1yc2E" = "ssh-rsa" ++ " " ++ "AAAAB3NzaC1yc2E") :=
  have hne : ("ssh-rsa", "AAAAB3NzaC1yc2E") ≠ ("", "") := by decide
  ⟨hne, parseSshKeyString_eq_iff "ssh-rsa AAAAB3NzaC1yc2E" "ssh-rsa" "AAAAB3NzaC1yc2E" hne⟩

/-! ## The entry -/

/-- `Host`, with the fields `getEncodedServerEntry` reads. -/
structure Host where
  isTCS : Bool := false
  meekCookieEncryptionPublicKey : String := ""
  meekServerObfuscatedKey : String := ""
  meekServerPort : Int := 0
  tacticsRequestPublicKey : String := ""
  tacticsRequestObfuscatedKey : String := ""
  region : String := ""

/-- `Server`, with the fields `getEncodedServerEntry` reads. -/
structure Server where
  alternateSshObfuscatedPorts : List String := []
  capabilities : Bucket Bool := .empty
  hostId : String := ""
  ipAddress : String := ""
  sshHostKey : String := ""
  sshObfuscatedKey : String := ""
  sshObfuscatedPort : Int := 0
  sshObfuscatedQUICPort : Int := 0
  sshObfuscatedTapdancePort : Int := 0
  sshPassword : String := ""
  sshPort : String := ""
  sshUsername : String := ""
  webServerCertificate : String := ""
  webServerPort : String := ""
  webServerSecret : String := ""
  configurationVersion : Int := 0

/-- The `extendedConfig` struct `getEncodedServerEntry` marshals. -/
structure ExtendedConfig where
  ipAddress : String
  webServerPort : String
  webServerSecret : String
  webServerCertificate : String
  sshPort : Int
  sshUsername : String
  sshPassword : String
  sshHostKey : String
  sshObfuscatedPort : Int
  sshObfuscatedQUICPort : Int
  sshObfuscatedTapdancePort : Int
  sshObfuscatedKey : String
  capabilities : List String
  region : String
  meekServerPort : Int
  meekCookieEncryptionPublicKey : String
  meekObfuscatedKey : String
  tacticsRequestPublicKey : String
  tacticsRequestObfuscatedKey : String
  configurationVersion : Int

/-- The certificate of the legacy fields: for a TCS host, the PEM certificate
    without its first line and its last two, joined. -/
def legacyWebServerCertificate (host : Host) (server : Server) : String :=
  if host.isTCS then
    let splitCert := stringsSplit server.webServerCertificate '\n'
    if splitCert.length ≤ 2 then "" else String.join ((splitCert.take (splitCert.length - 2)).drop 1)
  else server.webServerCertificate

/-- `serverCapabilities`: the server's capability map, with unfronted meek
    moved to unfronted-meek-HTTPS when the host's meek port is 443. -/
def serverCapabilities (host : Host) (server : Server) : Bucket Bool :=
  if (server.capabilities.get "UNFRONTED-MEEK").getD false = true ∧ host.meekServerPort = 443 then
    (server.capabilities.put "UNFRONTED-MEEK" false).put "UNFRONTED-MEEK-HTTPS" true
  else server.capabilities

/-- The loop appending every enabled capability of the map; Go ranges over a
    map in no fixed order, and nothing below depends on the order. -/
def enabledCapabilities (capabilities : Bucket Bool) : List String :=
  (capabilities.entries.filter fun entry => entry.2 = true).map Prod.fst

/-- `extendedConfig.SshObfuscatedPort`: the latest alternate port, when there
    is one that parses and the server is not unfronted meek. -/
def sshObfuscatedPortFor (server : Server) : Int :=
  match server.alternateSshObfuscatedPorts.getLast? with
  | some port =>
      if (server.capabilities.get "UNFRONTED-MEEK").getD false = false then
        (atoi port).getD server.sshObfuscatedPort
      else server.sshObfuscatedPort
  | none => server.sshObfuscatedPort

/-- `extendedConfig` as `getEncodedServerEntry` fills it in. -/
def makeExtendedConfig (host : Host) (server : Server) (webServerCertificate : String) :
    ExtendedConfig where
  ipAddress := server.ipAddress
  webServerPort := server.webServerPort
  webServerSecret := server.webServerSecret
  webServerCertificate := webServerCertificate
  sshPort := (atoi server.sshPort).getD 0
  sshUsername := server.sshUsername
  sshPassword := server.sshPassword
  sshHostKey :=
    if (parseSshKeyString server.sshHostKey).1 = "ssh-rsa" then (parseSshKeyString server.sshHostKey).2
    else ""
  sshObfuscatedPort := sshObfuscatedPortFor server
  sshObfuscatedQUICPort := server.sshObfuscatedQUICPort
  sshObfuscatedTapdancePort := server.sshObfuscatedTapdancePort
  sshObfuscatedKey := server.sshObfuscatedKey
  capabilities := enabledCapabilities (serverCapabilities host server)
  region := host.region
  meekServerPort := host.meekServerPort
  meekCookieEncryptionPublicKey := host.meekCookieEncryptionPublicKey
  meekObfuscatedKey := host.meekServerObfuscatedKey
  tacticsRequestPublicKey := host.tacticsRequestPublicKey
  tacticsRequestObfuscatedKey := host.tacticsRequestObfuscatedKey
  configurationVersion := server.configurationVersion

/-- The lowercase hex digit of `n < 16`. -/
def hexDigit (n : Nat) : Char := Char.ofNat (if n < 10 then 48 + n else 87 + n)

/-- `hex.EncodeToString(src)`: two lowercase hex digits per byte. -/
def encodeToString (src : List UInt8) : String :=
  String.mk (src.flatMap fun b => [hexDigit (b.toNat / 16), hexDigit (b.toNat % 16)])

/-- `prefixString`: the four legacy fields, each followed by a space. -/
def prefixString (server : Server) (webServerCertificate : String) : String :=
  server.ipAddress ++ " " ++ server.webServerPort ++ " " ++ server.webServerSecret ++ " " ++
    webServerCertificate ++ " "

/-- `getEncodedServerEntry(server)`, with `hosts` the database's `Hosts` and
    `marshal` the library's `json.Marshal`. -/
def getEncodedServerEntry (marshal : ExtendedConfig → Except String (List UInt8))
    (hosts : Bucket Host) (server : Server) : String :=
  match hosts.get server.hostId with
  | none => ""
  | some host =>
      let webServerCertificate := legacyWebServerCertificate host server
      if server.ipAddress.utf8ByteSize ≤ 1 ∨ server.webServerPort.utf8ByteSize ≤ 1 ∨
          server.webServerSecret.utf8ByteSize ≤ 1 ∨ webServerCertificate.utf8ByteSize ≤ 1 then ""
      else
        match marshal (makeExtendedConfig host server webServerCertificate) with
        | .error _ => ""
        | .ok jsonDump =>
            encodeToString (stringBytes (prefixString server webServerCertificate) ++ jsonDump)

/-! ## The client side, from the spec -/

/-- The value of a hex digit of either case. -/
def fromHexChar (c : Char) : Option Nat :=
  if '0' ≤ c ∧ c ≤ '9' then some (c.toNat - '0'.toNat)
  else if 'a' ≤ c ∧ c ≤ 'f' then some (c.toNat - 'a'.toNat + 10)
  else if 'A' ≤ c ∧ c ≤ 'F' then some (c.toNat - 'A'.toNat + 10)
  else none

/-- Modelled from the spec: `hex.DecodeString`, two digits a byte. -/
def decodeHexString : List Char → Option (List UInt8)
  | [] => some []
  | [_] => none
  | hi :: lo :: rest =>
      match fromHexChar hi, fromHexChar lo, decodeHexString rest with
      | some h, some l, some bytes => some (UInt8.ofNat (h * 16 + l) :: bytes)
      | _, _, _ => none

/-- The first `n` fields separated by a space byte, and the rest as the last
    one. -/
def splitFields : Nat → List UInt8 → List (List UInt8)
  | 0, bytes => [bytes]
  | n + 1, bytes =>
      match bytes.dropWhile (· != 32) with
      | [] => [bytes]
      | _ :: rest => bytes.takeWhile (· != 32) :: splitFields n rest

/-- Modelled from the spec: a server-list entry is a hex blob
    `ipAddress SP webPort SP secret SP pemBody SP jsonBody`; its five fields,
    or `none` when the hex does not decode or a field is missing. -/
def decodeServerEntry (encoded : String) : Option (List (List UInt8)) :=
  match decodeHexString encoded.toList with
  | none => none
  | some bytes =>
      let fields := splitFields 4 bytes
      if fields.length = 5 then some fields else none

/-! ## Round trip -/

theorem fromHexChar_hexDigit : ∀ n < 16, fromHexChar (hexDigit n) = some n := by decide

theorem decodeHexString_encodeToString (bytes : List UInt8) :
    decodeHexString (encodeToString bytes).toList = some bytes := by
  induction bytes with
  | nil => rfl
  | cons b bytes ih =>
      have hb : b.toNat < 2 ^ 8 := UInt8.toNat_lt_size b
      have hbyte : UInt8.ofNat (b.toNat / 16 * 16 + b.toNat % 16) = b := UInt8.toNat.inj (by
        rw [toNat_ofNat_byte, show b.toNat / 16 * 16 + b.toNat % 16 = b.toNat by omega]
        exact Nat.mod_eq_of_lt hb)
      simp only [encodeToString, String.toList, List.flatMap_cons, List.cons_append,
        List.nil_append] at ih ⊢
      rw [decodeHexString, fromHexChar_hexDigit _ (by omega), fromHexChar_hexDigit _ (by omega), ih]
      simp only [hbyte]

theorem stringBytes_append (a b : String) : stringBytes (a ++ b) = stringBytes a ++ stringBytes b := by
  simp [stringBytes, String.toUTF8, List.flatMap_append]

theorem stringBytes_space : stringBytes " " = [32] := rfl

/-- One field and its space come off the front. -/
theorem splitFields_append {field : List UInt8} (h : (32 : UInt8) ∉ field) (n : Nat)
    (rest : List UInt8) : splitFields (n + 1) (field ++ 32 :: rest) = field :: splitFields n rest := by
  have hpos : ∀ a ∈ field, (a != 32) = true := fun a ha => by
    simpa using fun he : a = 32 => h (he ▸ ha)
  simp [splitFields, List.dropWhile_append_of_pos hpos, List.takeWhile_append_of_pos hpos]

theorem data_join (l : List String) : (String.join l).data = (l.map String.data).flatten := by
  suffices ∀ acc : String, (l.foldl (· ++ ·) acc).data = acc.data ++ (l.map String.data).flatten from
    this ""
  induction l with
  | nil => simp
  | cons s l ih => intro acc; simp [ih, String.data_append]

/-- The characters of the legacy certificate are characters of the server's
    certificate. -/
theorem mem_legacyWebServerCertificate {host : Host} {server : Server} {c : Char}
    (h : c ∈ (legacyWebServerCertificate host server).data) : c ∈ server.webServerCertificate.data := by
  simp only [legacyWebServerCertificate] at h
  split at h
  · split at h
    · simp at h
    · rw [data_join] at h
      obtain ⟨_, hl, hc⟩ := List.mem_flatten.mp h
      obtain ⟨piece, hpiece, rfl⟩ := List.mem_map.mp hl
      obtain ⟨l, hl', rfl⟩ := List.mem_map.mp
        (List.take_subset _ _ (List.drop_subset _ _ hpiece))
      exact (mem_of_mem_splitOn hl' c hc).2
  · exact h

theorem stringBytes_eq (s : String) : stringBytes s = s.data.flatMap String.utf8EncodeChar := rfl

/-- The bytes of the legacy certificate are bytes of the server's certificate. -/
theorem mem_stringBytes_legacyWebServerCertificate {host : Host} {server : Server} {x : UInt8}
    (h : x ∈ stringBytes (legacyWebServerCertificate host server)) :
    x ∈ stringBytes server.webServerCertificate := by
  rw [stringBytes_eq, List.mem_flatMap] at h ⊢
  obtain ⟨c, hc, hx⟩ := h
  exact ⟨c, mem_legacyWebServerCertificate hc, hx⟩

/-- **ENTRY SPEC**: an entry handed out names a known host, has no blank
    legacy field, and is the hex of the legacy fields and the marshalled
    extended config. -/
theorem getEncodedServerEntry_ne_empty {marshal : ExtendedConfig → Except String (List UInt8)}
    {hosts : Bucket Host} {server : Server} (h : getEncodedServerEntry marshal hosts server ≠ "") :
    ∃ host jsonDump, hosts.get server.hostId = some host ∧
      1 < server.ipAddress.utf8ByteSize ∧ 1 < server.webServerPort.utf8ByteSize ∧
      1 < server.webServerSecret.utf8ByteSize ∧
      1 < (legacyWebServerCertificate host server).utf8ByteSize ∧
      marshal (makeExtendedConfig host server (legacyWebServerCertificate host server)) =
        .ok jsonDump ∧
      getEncodedServerEntry marshal hosts server =
        encodeToString (stringBytes (prefixString server (legacyWebServerCertificate host server)) ++
          jsonDump) := by
  unfold getEncodedServerEntry at h ⊢
  rcases hh : hosts.get server.hostId with _ | host
  · simp [hh] at h
  simp only [hh] at h ⊢
  split at h
  · exact absurd rfl h
  rename_i hblank
  rcases hm : marshal (makeExtendedConfig host server (legacyWebServerCertificate host server)) with
    err | jsonDump
  · simp [hm] at h
  exact ⟨host, jsonDump, rfl, by omega, by omega, by omega, by omega, hm, by simp [hblank, hm]⟩

/-- **ENCODED ENTRY ROUND TRIP**: an entry `getEncodedServerEntry` hands out
    names a known host and has no blank legacy field, and the spec's decoder
    reads back from it the four legacy fields and the marshalled extended
    config, as long as the server's legacy fields hold no space byte. -/
theorem getEncodedServerEntry_round_trip (marshal : ExtendedConfig → Except String (List UInt8))
    (hosts : Bucket Host) (server : Server)
    (hspace : (32 : UInt8) ∉ stringBytes server.ipAddress ∧
      (32 : UInt8) ∉ stringBytes server.webServerPort ∧
      (32 : UInt8) ∉ stringBytes server.webServerSecret ∧
      (32 : UInt8) ∉ stringBytes server.webServerCertificate)
    (h : getEncodedServerEntry marshal hosts server ≠ "") :
    ∃ host jsonDump, hosts.get server.hostId = some host ∧
      marshal (makeExtendedConfig host server (legacyWebServerCertificate host server)) =
        .ok jsonDump ∧
      1 < server.ipAddress.utf8ByteSize ∧ 1 < server.webServerPort.utf8ByteSize ∧
      1 < server.webServerSecret.utf8ByteSize ∧
      1 < (legacyWebServerCertificate host server).utf8ByteSize ∧
      decodeServerEntry (getEncodedServerEntry marshal hosts server) =
        some [stringBytes server.ipAddress, stringBytes server.webServerPort,
          stringBytes server.webServerSecret, stringBytes (legacyWebServerCertificate host server),
          jsonDump] := by
  obtain ⟨host, jsonDump, hh, h1, h2, h3, h4, hm, heq⟩ := getEncodedServerEntry_ne_empty h
  refine ⟨host, jsonDump, hh, hm, h1, h2, h3, h4, ?_⟩
  have hcert : (32 : UInt8) ∉ stringBytes (legacyWebServerCertificate host server) :=
    fun hx => hspace.2.2.2 (mem_stringBytes_legacyWebServerCertificate hx)
  rw [heq, decodeServerEntry, decodeHexString_encodeToString]
  simp only [prefixString, stringBytes_append, stringBytes_space, List.append_assoc,
    List.singleton_append, List.cons_append, List.nil_append]
  rw [splitFields_append hspace.1, splitFields_append hspace.2.1, splitFields_append hspace.2.2.1,
    splitFields_append hcert]
  rfl

/-- A host and a server with every legacy field filled in. -/
def exampleHosts : Bucket Host := Bucket.empty.put "host-1" { region := "CA" }

/-- The server of `exampleHosts`' host. -/
def exampleServer : Server where
  hostId := "host-1"
  ipAddress := "192.0.2.1"
  webServerPort := "8080"
  webServerSecret := "secret"
  webServerCertificate := "MIIB"

/-- The example server's entry decodes, with `{}` as the marshalled config. -/
theorem getEncodedServerEntry_round_trip_example :
    ((32 : UInt8) ∉ stringBytes exampleServer.ipAddress ∧
      (32 : UInt8) ∉ stringBytes exampleServer.webServerPort ∧
      (32 : UInt8) ∉ stringBytes exampleServer.webServerSecret ∧
      (32 : UInt8) ∉ stringBytes exampleServer.webServerCertificate) ∧
    getEncodedServerEntry (fun _ => .ok [123, 125]) exampleHosts exampleServer ≠ "" ∧
    ∃ host jsonDump, exampleHosts.get exampleServer.hostId = some host ∧
      (fun _ => .ok [123, 125] : ExtendedConfig → Except String (List UInt8))
          (makeExtendedConfig host exampleServer (legacyWebServerCertificate host exampleServer)) =
        .ok jsonDump ∧
      1 < exampleServer.ipAddress.utf8ByteSize ∧ 1 < exampleServer.webServerPort.utf8ByteSize ∧
      1 < exampleServer.webServerSecret.utf8ByteSize ∧
      1 < (legacyWebServerCertificate host exampleServer).utf8ByteSize ∧
      decodeServerEntry (getEncodedServerEntry (fun _ => .ok [123, 125]) exampleHosts exampleServer) =
        some [stringBytes exampleServer.ipAddress, stringBytes exampleServer.webServerPort,
          stringBytes exampleServer.webServerSecret,
          stringBytes (legacyWebServerCertificate host exampleServer), jsonDump] :=
  have hspace : (32 : UInt8) ∉ stringBytes exampleServer.ipAddress ∧
      (32 : UInt8) ∉ stringBytes exampleServer.webServerPort ∧
      (32 : UInt8) ∉ stringBytes exampleServer.webServerSecret ∧
      (32 : UInt8) ∉ stringBytes exampleServer.webServerCertificate := by decide
  have hne : getEncodedServerEntry (fun _ => .ok [123, 125]) exampleHosts exampleServer ≠ "" := by
    decide
  ⟨hspace, hne, getEncodedServerEntry_round_trip _ exampleHosts exampleServer hspace hne⟩

end PsiphonServerEntryEncoding
