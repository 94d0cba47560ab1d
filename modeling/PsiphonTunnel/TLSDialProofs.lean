import PsiphonTunnel.TrafficRulesProofs

/-! # CustomTLSDial — who holds the raw connection, and what was verified

    `CustomTLSDial` dials a raw connection, builds a TLS client of the selected
    profile around it, and handshakes, the handshake racing the context's
    cancellation.  Its SNI decision fixes what gets verified: with the dial
    host or the configured SNI name, the TLS library verifies the chain for
    that name; with no SNI, the library's check is off and the dial verifies
    after the handshake, against the pinned legacy certificate or, with no pin,
    against the dial host name.

    The network, `net.SplitHostPort`, hex decoding, the file system, the
    PRNGs, the `protocol` profile tables, the TLS libraries and x509
    verification are library code: the environment `DialEnv` gives their
    results.  `SelectTLSProfile` and `useUTLS` are this file's code and are
    modelled here.  The raw connection's state is part of the result, and a
    Go panic is an outcome of its own.  Errors carry their message; the
    `ContextError` prefix is left out.

    The headline results.  Once the raw dial succeeds, an error from building
    the TLS client (session-ticket key, CA file, seed, session state, TLS 1.3
    check) comes back with the raw connection still open, and every other error
    closes it (`customTLSDial_raw_conn_on_error`).  With verification on, no
    SNI and no pin, an empty peer certificate list panics in
    `verifyServerCerts`, and a pin with `UseDialAddrSNI` is never compared
    (`customTLSDial_verification_gaps`); otherwise a connection comes back only
    after the verification the configuration asks for
    (`customTLSDial_conn_verified`), and that empty list is the only panic
    (`customTLSDial_panic`). -/

namespace PsiphonTLSDial

open PsiphonTrafficRules

/-! ## Configuration, environment, outcomes -/

/-- An x509 certificate, of which the dial reads the raw DER bytes. -/
structure Certificate where
  raw : List UInt8
  deriving DecidableEq, Repr

/-- The `CustomTLSConfig` fields `CustomTLSDial` reads; `Dial` and the client
    parameters are in the environment. -/
structure CustomTLSConfig where
  dialAddr : String := ""
  tlsProfile : String := ""
  skipVerify : Bool := false
  useDialAddrSNI : Bool := false
  sniServerName : String := ""
  verifyLegacyCertificate : Option Certificate := none
  trustedCACertificatesFilename : String := ""
  obfuscatedSessionTicketKey : String := ""
  randomizedTLSProfileSeed : Option (List UInt8) := none
  deriving DecidableEq, Repr

/-- The TLS library a profile selects: utls, or tris for TLS 1.3. -/
inductive TLSProvider where
  | utls
  | tris
  deriving DecidableEq, Repr

/-- The TLS client built around the raw connection: its provider and the
    `Config` fields `CustomTLSDial` sets, with the CA file's contents, the
    ClientHello seed and the session-ticket key. -/
structure TLSClientConfig where
  provider : TLSProvider
  rootCAs : Option (List UInt8)
  insecureSkipVerify : Bool
  serverName : String
  clientHelloPRNGSeed : Option (List UInt8)
  obfuscatedSessionTicketKey : Option (List UInt8)
  deriving DecidableEq, Repr

/-- How the `select` on the handshake ends: the handshake's result, with the
    peer certificates on success, or `ctx.Err()` when the context is done
    first. -/
inductive HandshakeOutcome where
  | completed (peerCertificates : List Certificate)
  | failed (err : String)
  | cancelled (err : String)
  deriving DecidableEq, Repr

/-- The results of the library code `CustomTLSDial` calls.  The profile
    tables are `protocol.SupportedTLSProfiles`, the `LimitTLSProfiles`
    parameter and `protocol.TLS_PROFILE_TLS13_RANDOMIZED`; `intn` is the
    global `prng.Intn`, whose draw is below its argument, so the `getD`
    default of `selectTLSProfile` is never read.  `handshake` is the TLS library's handshake, including
    its own chain verification when `insecureSkipVerify` is off; `verify` is
    `certs[0].Verify(opts)` with the other certificates as intermediates and
    the host as DNS name. -/
structure DialEnv where
  dial : String → String → Except String Unit
  splitHostPort : String → Except String (String × String)
  supportedTLSProfiles : List String
  limitTLSProfiles : List String
  intn : Nat → Nat
  tls13Randomized : String
  isRandomized : String → Bool
  isTLS13 : String → Bool
  hexDecode : String → Except String (List UInt8)
  readFile : String → Except String (List UInt8)
  newSeed : Except String (List UInt8)
  newObfuscatedClientSessionState : List UInt8 → Except String Unit
  handshake : TLSClientConfig → HandshakeOutcome
  verify : Certificate → List Certificate → String → Except String Unit

/-- The raw connection: never dialed, open (held by the caller's result or
    leaked), or closed. -/
inductive RawConnState where
  | notDialed
  | opened
  | closed
  deriving DecidableEq, Repr

/-- How `CustomTLSDial` ends: a connection, an error, or a panic. -/
inductive DialOutcome where
  | conn (tlsConfig : TLSClientConfig) (peerCertificates : List Certificate)
  | error (err : String)
  | panic
  deriving DecidableEq, Repr

/-! ## The dial -/

section Dial

variable (env : DialEnv)

/-- `dialAddr`: `config.DialAddr` when set, else `addr`. -/
def CustomTLSConfig.dialAddrFor (config : CustomTLSConfig) (addr : String) : String :=
  if config.dialAddr ≠ "" then config.dialAddr else addr

/-- `SelectTLSProfile(p)`: the profile `prng.Intn` picks among the supported
    ones that a non-empty `LimitTLSProfiles` allows, or the empty string when
    there is none. -/
def selectTLSProfile : String :=
  let tlsProfiles := env.supportedTLSProfiles.filter fun tlsProfile =>
    !(env.limitTLSProfiles.length > 0 && !contains env.limitTLSProfiles tlsProfile)
  if tlsProfiles.length = 0 then "" else tlsProfiles.getD (env.intn tlsProfiles.length) ""

/-- `useUTLS(tlsProfile)`: every profile but TLS 1.3 randomized uses utls. -/
def useUTLS (tlsProfile : String) : Bool := tlsProfile != env.tls13Randomized

/-- `selectedTLSProfile`: the configured profile, else `SelectTLSProfile`'s. -/
def selectedTLSProfile (config : CustomTLSConfig) : String :=
  if config.tlsProfile = "" then selectTLSProfile env else config.tlsProfile

/-- The SNI decision: `(tlsConfigInsecureSkipVerify, tlsConfigServerName)`. -/
def tlsConfigFor (config : CustomTLSConfig) (hostname : String) : Bool × String :=
  if config.useDialAddrSNI then (config.skipVerify, hostname)
  else if config.sniServerName ≠ "" ∧ config.verifyLegacyCertificate = none then
    (config.skipVerify, config.sniServerName)
  else (true, "")

/-- `obfuscatedSessionTicketKey`: the decoded key, when one is configured. -/
def obfuscatedSessionTicketKey (config : CustomTLSConfig) : Except String (Option (List UInt8)) :=
  if config.obfuscatedSessionTicketKey ≠ "" then
    match env.hexDecode config.obfuscatedSessionTicketKey with
    | .error err => .error err
    | .ok key =>
        if key.length ≠ 32 then .error "invalid obfuscated session key length" else .ok (some key)
  else .ok none

/-- `tlsRootCAs`: the CA file, read only when the library is the verifier. -/
def tlsRootCAs (config : CustomTLSConfig) : Except String (Option (List UInt8)) :=
  if config.skipVerify = false ∧ config.verifyLegacyCertificate = none ∧
      config.trustedCACertificatesFilename ≠ "" then
    (env.readFile config.trustedCACertificatesFilename).map some
  else .ok none

/-- `randomizedTLSProfileSeed`: a fresh seed for a randomized profile without
    a configured one. -/
def randomizedTLSProfileSeed (config : CustomTLSConfig) (selectedTLSProfile : String) :
    Except String (Option (List UInt8)) :=
  if env.isRandomized selectedTLSProfile ∧ config.randomizedTLSProfileSeed = none then
    env.newSeed.map some
  else .ok config.randomizedTLSProfileSeed

/-- The TLS client `CustomTLSDial` builds between the SNI decision and the
    handshake; its errors are the ones the code returns on that stretch. -/
def newTLSClient (config : CustomTLSConfig) (selectedTLSProfile : String)
    (insecureSkipVerify : Bool) (serverName : String) : Except String TLSClientConfig := do
  let key ← obfuscatedSessionTicketKey env config
  let rootCAs ← tlsRootCAs env config
  let seed ← randomizedTLSProfileSeed env config selectedTLSProfile
  if useUTLS env selectedTLSProfile then
    match key with
    | some key =>
        match env.newObfuscatedClientSessionState key with
        | .error err => .error err
        | .ok () => .ok ⟨.utls, rootCAs, insecureSkipVerify, serverName, seed, some key⟩
    | none => .ok ⟨.utls, rootCAs, insecureSkipVerify, serverName, seed, none⟩
  else if env.isTLS13 selectedTLSProfile then
    .ok ⟨.tris, rootCAs, insecureSkipVerify, serverName, seed, none⟩
  else .error "TLS profile is not TLS 1.3"

/-- `verifyLegacyCertificate(conn, expectedCertificate)`. -/
def verifyLegacyCertificate (certs : List Certificate) (expectedCertificate : Certificate) :
    Except String Unit :=
  match certs with
  | [] => .error "no certificate to verify"
  | cert :: _ =>
      if cert.raw = expectedCertificate.raw then .ok () else .error "unexpected certificate"

/-- `verifyServerCerts(conn, hostname)`: it reads `certs[0]` with no length
    check, so an empty list panics (`none`). -/
def verifyServerCerts (certs : List Certificate) (hostname : String) :
    Option (Except String Unit) :=
  match certs with
  | [] => none
  | cert :: intermediates => some (env.verify cert intermediates hostname)

theorem verifyLegacyCertificate_ok {certs : List Certificate} {expectedCertificate : Certificate}
    (h : verifyLegacyCertificate certs expectedCertificate = .ok ()) :
    ∃ cert rest, certs = cert :: rest ∧ cert.raw = expectedCertificate.raw := by
  cases certs with
  | nil => cases h
  | cons cert rest =>
    refine ⟨cert, rest, rfl, ?_⟩
    by_contra hne
    simp [verifyLegacyCertificate, hne] at h

theorem verifyServerCerts_eq_some {certs : List Certificate} {hostname : String}
    {r : Except String Unit} (h : verifyServerCerts env certs hostname = some r) :
    ∃ cert rest, certs = cert :: rest ∧ env.verify cert rest hostname = r := by
  cases certs with
  | nil => cases h
  | cons cert rest => exact ⟨cert, rest, rfl, Option.some.inj h⟩

theorem verifyServerCerts_eq_none {certs : List Certificate} {hostname : String}
    (h : verifyServerCerts env certs hostname = none) : certs = [] := by
  cases certs with
  | nil => rfl
  | cons => cases h

/-- With the library's check on, it checks the name the SNI decision sent. -/
theorem tlsConfigFor_of_fst_false {config : CustomTLSConfig} {hostname : String}
    (h : (tlsConfigFor config hostname).1 = false) :
    (tlsConfigFor config hostname).2 =
      if config.useDialAddrSNI then hostname else config.sniServerName := by
  unfold tlsConfigFor at h ⊢
  split_ifs at h ⊢ <;> simp_all

/-- With verification on, the library's check is off only with no SNI. -/
theorem tlsConfigFor_of_fst_true {config : CustomTLSConfig} {hostname : String}
    (hskip : config.skipVerify = false) (h : (tlsConfigFor config hostname).1 = true) :
    config.useDialAddrSNI = false ∧
      (config.sniServerName = "" ∨ config.verifyLegacyCertificate ≠ none) := by
  unfold tlsConfigFor at h
  split_ifs at h with h1 h2
  · simp_all
  · simp_all
  · exact ⟨by simpa using h1, by tauto⟩

/-- `CustomTLSDial(ctx, network, addr, config)`, with the raw connection's
    state when it returns. -/
def customTLSDial (network addr : String) (config : CustomTLSConfig) :
    DialOutcome × RawConnState :=
  match env.dial network (config.dialAddrFor addr) with
  | .error err => (.error err, .notDialed)
  | .ok () =>
    match env.splitHostPort (config.dialAddrFor addr) with
    | .error err => (.error err, .closed)
    | .ok (hostname, _) =>
      match newTLSClient env config (selectedTLSProfile env config)
          (tlsConfigFor config hostname).1 (tlsConfigFor config hostname).2 with
      | .error err => (.error err, .opened)
      | .ok tlsConfig =>
        match env.handshake tlsConfig with
        | .cancelled err => (.error err, .closed)
        | .failed err => (.error err, .closed)
        | .completed certs =>
          if config.skipVerify = false ∧ (tlsConfigFor config hostname).1 = true then
            match config.verifyLegacyCertificate with
            | some expectedCertificate =>
                match verifyLegacyCertificate certs expectedCertificate with
                | .error err => (.error err, .closed)
                | .ok () => (.conn tlsConfig certs, .opened)
            | none =>
                match verifyServerCerts env certs hostname with
                | none => (.panic, .opened)
                | some (.error err) => (.error err, .closed)
                | some (.ok ()) => (.conn tlsConfig certs, .opened)
          else (.conn tlsConfig certs, .opened)

/-! ## Building the TLS client -/

/-- The client carries the SNI decision it was built with. -/
theorem newTLSClient_ok {config : CustomTLSConfig} {profile serverName : String}
    {insecureSkipVerify : Bool} {tlsConfig : TLSClientConfig}
    (h : newTLSClient env config profile insecureSkipVerify serverName = .ok tlsConfig) :
    tlsConfig.insecureSkipVerify = insecureSkipVerify ∧ tlsConfig.serverName = serverName := by
  simp only [newTLSClient, bind, Except.bind] at h
  repeat' split at h
  all_goals (cases h; try exact ⟨rfl, rfl⟩)

/-! ## The raw connection on the error paths -/

/-- Once the raw dial succeeds: an error from building the TLS client comes
    back with the raw connection still open, and every other error comes back
    with it closed. -/
theorem customTLSDial_raw_conn_on_error {network addr : String} {config : CustomTLSConfig}
    (hdial : env.dial network (config.dialAddrFor addr) = .ok ()) (err : String) :
    (∀ hostname port, env.splitHostPort (config.dialAddrFor addr) = .ok (hostname, port) →
        newTLSClient env config (selectedTLSProfile env config) (tlsConfigFor config hostname).1
          (tlsConfigFor config hostname).2 = .error err →
        customTLSDial env network addr config = (.error err, .opened)) ∧
      ∀ st, customTLSDial env network addr config = (.error err, st) →
        st = .closed ∨ ∃ hostname port,
          env.splitHostPort (config.dialAddrFor addr) = .ok (hostname, port) ∧
          newTLSClient env config (selectedTLSProfile env config) (tlsConfigFor config hostname).1
            (tlsConfigFor config hostname).2 = .error err := by
  refine ⟨fun hostname port hsplit hclient => ?_, fun st h => ?_⟩
  · simp only [customTLSDial, hdial, hsplit, hclient]
  · simp only [customTLSDial, hdial] at h
    repeat' split at h
    all_goals simp only [Prod.mk.injEq, DialOutcome.error.injEq, reduceCtorEq, false_and] at h
    all_goals first | exact .inl h.2.symm | skip
    obtain ⟨rfl, -⟩ := h
    exact .inr ⟨_, _, ‹_›, ‹_›⟩

/-- An invalid hex session-ticket key on a dial that connects. -/
theorem customTLSDial_raw_conn_on_error_for_bad_ticket_key :
    let env : DialEnv :=
      { dial := fun _ _ => .ok (), splitHostPort := fun _ => .ok ("192.0.2.1", "443"),
        supportedTLSProfiles := [], limitTLSProfiles := [], intn := fun _ => 0,
        tls13Randomized := "TLS-1.3-Randomized", isRandomized := fun _ => false,
        isTLS13 := fun _ => false, hexDecode := fun _ => .error "encoding/hex: invalid byte",
        readFile := fun _ => .error "", newSeed := .error "",
        newObfuscatedClientSessionState := fun _ => .ok (),
        handshake := fun _ => .completed [], verify := fun _ _ _ => .ok () }
    let config : CustomTLSConfig := { obfuscatedSessionTicketKey := "zz" }
    env.dial "tcp" (config.dialAddrFor "192.0.2.1:443") = .ok () ∧
      env.splitHostPort (config.dialAddrFor "192.0.2.1:443") = .ok ("192.0.2.1", "443") ∧
      newTLSClient env config (selectedTLSProfile env config)
        (tlsConfigFor config "192.0.2.1").1 (tlsConfigFor config "192.0.2.1").2 =
          .error "encoding/hex: invalid byte" ∧
      ((∀ hostname port, env.splitHostPort (config.dialAddrFor "192.0.2.1:443") =
            .ok (hostname, port) →
          newTLSClient env config (selectedTLSProfile env config) (tlsConfigFor config hostname).1
            (tlsConfigFor config hostname).2 = .error "encoding/hex: invalid byte" →
          customTLSDial env "tcp" "192.0.2.1:443" config =
            (.error "encoding/hex: invalid byte", .opened)) ∧
        ∀ st, customTLSDial env "tcp" "192.0.2.1:443" config =
            (.error "encoding/hex: invalid byte", st) →
          st = .closed ∨ ∃ hostname port,
            env.splitHostPort (config.dialAddrFor "192.0.2.1:443") = .ok (hostname, port) ∧
            newTLSClient env config (selectedTLSProfile env config)
              (tlsConfigFor config hostname).1 (tlsConfigFor config hostname).2 =
                .error "encoding/hex: invalid byte") := by
  intro env config
  exact ⟨rfl, rfl, rfl, customTLSDial_raw_conn_on_error env rfl _⟩

/-! ## What a returned connection was verified by -/

/-- **VERIFIED**: a connection comes back, holding the raw connection, after
    the handshake completed and either verification is off, or the TLS
    library verified the chain for the name it sent (the dial host, or the
    SNI name), or the peer's first certificate is the pin, or, with no pin,
    `verifyServerCerts` verified the chain for the dial host. -/
theorem customTLSDial_conn_verified {network addr : String} {config : CustomTLSConfig}
    {tlsConfig : TLSClientConfig} {certs : List Certificate} {st : RawConnState}
    (h : customTLSDial env network addr config = (.conn tlsConfig certs, st)) :
    st = .opened ∧ env.handshake tlsConfig = .completed certs ∧
      ∃ hostname port, env.splitHostPort (config.dialAddrFor addr) = .ok (hostname, port) ∧
        (config.skipVerify = true ∨
          (tlsConfig.insecureSkipVerify = false ∧
            tlsConfig.serverName =
              if config.useDialAddrSNI then hostname else config.sniServerName) ∨
          (∃ expected, config.verifyLegacyCertificate = some expected ∧
            ∃ cert rest, certs = cert :: rest ∧ cert.raw = expected.raw) ∨
          (config.verifyLegacyCertificate = none ∧
            ∃ cert rest, certs = cert :: rest ∧ env.verify cert rest hostname = .ok ())) := by
  simp only [customTLSDial] at h
  split at h
  · cases h
  split at h
  · cases h
  rename_i hostname port hsplit
  split at h
  · cases h
  rename_i tlsConfig' hclient
  split at h <;> try cases h
  rename_i certs' hhs
  split at h
  · -- verification deferred to after the handshake
    split at h
    · split at h
      · cases h
      · cases h
        exact ⟨rfl, hhs, hostname, port, hsplit,
          .inr (.inr (.inl ⟨_, ‹_›, verifyLegacyCertificate_ok ‹_›⟩))⟩
    · split at h
      · cases h
      · cases h
      · cases h
        exact ⟨rfl, hhs, hostname, port, hsplit,
          .inr (.inr (.inr ⟨‹_›, verifyServerCerts_eq_some env ‹_›⟩))⟩
  · -- verification off, or done by the library
    rename_i hcond
    cases h
    refine ⟨rfl, hhs, hostname, port, hsplit, ?_⟩
    cases hskip : config.skipVerify
    · have hcfg := newTLSClient_ok env hclient
      have hfst : (tlsConfigFor config hostname).1 = false := by simpa [hskip] using hcond
      exact .inr (.inl ⟨hcfg.1.trans hfst, hcfg.2.trans (tlsConfigFor_of_fst_false hfst)⟩)
    · exact .inl rfl

/-- A dial environment in which every step succeeds and the peer presents
    `certs`. -/
def acceptingDialEnv (certs : List Certificate) : DialEnv where
  dial _ _ := .ok ()
  splitHostPort _ := .ok ("192.0.2.1", "443")
  supportedTLSProfiles := []
  limitTLSProfiles := []
  intn _ := 0
  tls13Randomized := "TLS-1.3-Randomized"
  isRandomized _ := false
  isTLS13 _ := false
  hexDecode _ := .error "encoding/hex: invalid byte"
  readFile _ := .error "no such file"
  newSeed := .error "no seed"
  newObfuscatedClientSessionState _ := .ok ()
  handshake _ := .completed certs
  verify _ _ _ := .ok ()

/-- A pinned dial whose peer presents the pinned certificate. -/
theorem customTLSDial_conn_verified_of_pin :
    let certs : List Certificate := [⟨[1]⟩]
    let env := acceptingDialEnv certs
    let config : CustomTLSConfig := { verifyLegacyCertificate := some ⟨[1]⟩ }
    let tlsConfig : TLSClientConfig := ⟨.utls, none, true, "", none, none⟩
    customTLSDial env "tcp" "192.0.2.1:443" config = (.conn tlsConfig certs, .opened) ∧
      RawConnState.opened = .opened ∧ env.handshake tlsConfig = .completed certs ∧
      ∃ hostname port, env.splitHostPort (config.dialAddrFor "192.0.2.1:443") =
          .ok (hostname, port) ∧
        (config.skipVerify = true ∨
          (tlsConfig.insecureSkipVerify = false ∧
            tlsConfig.serverName =
              if config.useDialAddrSNI then hostname else config.sniServerName) ∨
          (∃ expected, config.verifyLegacyCertificate = some expected ∧
            ∃ cert rest, certs = cert :: rest ∧ cert.raw = expected.raw) ∨
          (config.verifyLegacyCertificate = none ∧
            ∃ cert rest, certs = cert :: rest ∧ env.verify cert rest hostname = .ok ())) :=
  ⟨rfl, @customTLSDial_conn_verified (acceptingDialEnv [⟨[1]⟩]) "tcp" "192.0.2.1:443"
    { verifyLegacyCertificate := some ⟨[1]⟩ } ⟨.utls, none, true, "", none, none⟩ [⟨[1]⟩]
    .opened rfl⟩

/-- **PANIC**: `CustomTLSDial` panics only with verification on, no SNI
    decision for the dial host or the SNI name, no pin, and an empty peer
    certificate list. -/
theorem customTLSDial_panic {network addr : String} {config : CustomTLSConfig}
    {st : RawConnState} (h : customTLSDial env network addr config = (.panic, st)) :
    config.skipVerify = false ∧ config.useDialAddrSNI = false ∧ config.sniServerName = "" ∧
      config.verifyLegacyCertificate = none ∧
      ∃ tlsConfig, env.handshake tlsConfig = .completed [] := by
  simp only [customTLSDial] at h
  split at h
  · cases h
  split at h
  · cases h
  split at h
  · cases h
  split at h <;> try cases h
  rename_i certs hhs
  split at h
  · rename_i hcond
    split at h
    · split at h <;> cases h
    · rename_i hpin
      split at h <;> try cases h
      rename_i hverify
      obtain ⟨hsni, hname⟩ := tlsConfigFor_of_fst_true hcond.1 hcond.2
      exact ⟨hcond.1, hsni, hname.resolve_right (not_not.mpr hpin), hpin, _,
        verifyServerCerts_eq_none env hverify ▸ hhs⟩
  · cases h

/-- A dial with no SNI and no pin whose peer presents no certificate. -/
theorem customTLSDial_panic_of_no_certificate :
    customTLSDial (acceptingDialEnv []) "tcp" "192.0.2.1:443" {} = (.panic, .opened) ∧
      (({} : CustomTLSConfig).skipVerify = false ∧ ({} : CustomTLSConfig).useDialAddrSNI = false ∧
        ({} : CustomTLSConfig).sniServerName = "" ∧
        ({} : CustomTLSConfig).verifyLegacyCertificate = none ∧
        ∃ tlsConfig, (acceptingDialEnv []).handshake tlsConfig = .completed []) :=
  ⟨rfl, @customTLSDial_panic (acceptingDialEnv []) "tcp" "192.0.2.1:443" {} .opened rfl⟩

/-- With verification on, once the raw dial, the split and the client
    succeed: with no SNI and no pin, an empty peer certificate list makes
    `verifyServerCerts` index past its end; and with a pin and
    `UseDialAddrSNI`, the TLS library checks the chain for the dial host and
    the connection comes back whatever the peer's first certificate is, the
    pin never compared. -/
theorem customTLSDial_verification_gaps {network addr : String} {config : CustomTLSConfig}
    (hskip : config.skipVerify = false)
    (hdial : env.dial network (config.dialAddrFor addr) = .ok ()) {hostname port : String}
    (hsplit : env.splitHostPort (config.dialAddrFor addr) = .ok (hostname, port))
    {tlsConfig : TLSClientConfig}
    (hclient : newTLSClient env config (selectedTLSProfile env config)
      (tlsConfigFor config hostname).1 (tlsConfigFor config hostname).2 = .ok tlsConfig) :
    (config.useDialAddrSNI = false → config.sniServerName = "" →
      config.verifyLegacyCertificate = none → env.handshake tlsConfig = .completed [] →
      customTLSDial env network addr config = (.panic, .opened)) ∧
    ∀ expectedCertificate certs, config.useDialAddrSNI = true →
      config.verifyLegacyCertificate = some expectedCertificate →
      env.handshake tlsConfig = .completed certs →
      tlsConfig.insecureSkipVerify = false ∧ tlsConfig.serverName = hostname ∧
        customTLSDial env network addr config = (.conn tlsConfig certs, .opened) := by
  have hcfg := newTLSClient_ok env hclient
  refine ⟨fun hsni hname hpin hhs => ?_, fun expected certs hsni hpin hhs => ?_⟩
  · have htls : tlsConfigFor config hostname = (true, "") := by
      simp [tlsConfigFor, hsni, hname]
    rw [htls] at hclient
    simp only [customTLSDial, hdial, hsplit, hclient, hhs, htls, hskip, hpin, verifyServerCerts,
      and_self, if_true]
  · have htls : tlsConfigFor config hostname = (false, hostname) := by
      simp [tlsConfigFor, hsni, hskip]
    rw [htls] at hcfg hclient
    refine ⟨hcfg.1, hcfg.2, ?_⟩
    simp only [customTLSDial, hdial, hsplit, hclient, hhs, htls, hskip, Bool.false_eq_true,
      and_false, if_false]

/-- An empty certificate list with no SNI and no pin, and a pinned dial with
    `UseDialAddrSNI` whose peer presents another certificate. -/
theorem customTLSDial_verification_gaps_for_empty_and_unpinned :
    let env (certs : List Certificate) : DialEnv :=
      { dial := fun _ _ => .ok (), splitHostPort := fun _ => .ok ("192.0.2.1", "443"),
        supportedTLSProfiles := [], limitTLSProfiles := [], intn := fun _ => 0,
        tls13Randomized := "TLS-1.3-Randomized", isRandomized := fun _ => false,
        isTLS13 := fun _ => false, hexDecode := fun _ => .error "", readFile := fun _ => .error "",
        newSeed := .error "", newObfuscatedClientSessionState := fun _ => .ok (),
        handshake := fun _ => .completed certs, verify := fun _ _ _ => .ok () }
    let noSNI : CustomTLSConfig := {}
    let pinned : CustomTLSConfig :=
      { useDialAddrSNI := true, verifyLegacyCertificate := some ⟨[1]⟩ }
    let tlsConfig (insecureSkipVerify : Bool) (serverName : String) : TLSClientConfig :=
      ⟨.utls, none, insecureSkipVerify, serverName, none, none⟩
    (noSNI.skipVerify = false ∧ (env []).dial "tcp" (noSNI.dialAddrFor "192.0.2.1:443") = .ok () ∧
      (env []).splitHostPort (noSNI.dialAddrFor "192.0.2.1:443") = .ok ("192.0.2.1", "443") ∧
      newTLSClient (env []) noSNI (selectedTLSProfile (env []) noSNI)
        (tlsConfigFor noSNI "192.0.2.1").1 (tlsConfigFor noSNI "192.0.2.1").2 =
          .ok (tlsConfig true "") ∧
      (env []).handshake (tlsConfig true "") = .completed [] ∧
      ((noSNI.useDialAddrSNI = false → noSNI.sniServerName = "" →
        noSNI.verifyLegacyCertificate = none →
        (env []).handshake (tlsConfig true "") = .completed [] →
        customTLSDial (env []) "tcp" "192.0.2.1:443" noSNI = (.panic, .opened)) ∧
      ∀ expectedCertificate certs, noSNI.useDialAddrSNI = true →
        noSNI.verifyLegacyCertificate = some expectedCertificate →
        (env []).handshake (tlsConfig true "") = .completed certs →
        (tlsConfig true "").insecureSkipVerify = false ∧
          (tlsConfig true "").serverName = "192.0.2.1" ∧
          customTLSDial (env []) "tcp" "192.0.2.1:443" noSNI =
            (.conn (tlsConfig true "") certs, .opened))) ∧
    (pinned.skipVerify = false ∧
      (env [⟨[2]⟩]).dial "tcp" (pinned.dialAddrFor "192.0.2.1:443") = .ok () ∧
      (env [⟨[2]⟩]).splitHostPort (pinned.dialAddrFor "192.0.2.1:443") =
        .ok ("192.0.2.1", "443") ∧
      newTLSClient (env [⟨[2]⟩]) pinned (selectedTLSProfile (env [⟨[2]⟩]) pinned)
        (tlsConfigFor pinned "192.0.2.1").1 (tlsConfigFor pinned "192.0.2.1").2 =
          .ok (tlsConfig false "192.0.2.1") ∧
      (env [⟨[2]⟩]).handshake (tlsConfig false "192.0.2.1") = .completed [⟨[2]⟩] ∧
      ((pinned.useDialAddrSNI = false → pinned.sniServerName = "" →
        pinned.verifyLegacyCertificate = none →
        (env [⟨[2]⟩]).handshake (tlsConfig false "192.0.2.1") = .completed [] →
        customTLSDial (env [⟨[2]⟩]) "tcp" "192.0.2.1:443" pinned = (.panic, .opened)) ∧
      ∀ expectedCertificate certs, pinned.useDialAddrSNI = true →
        pinned.verifyLegacyCertificate = some expectedCertificate →
        (env [⟨[2]⟩]).handshake (tlsConfig false "192.0.2.1") = .completed certs →
        (tlsConfig false "192.0.2.1").insecureSkipVerify = false ∧
          (tlsConfig false "192.0.2.1").serverName = "192.0.2.1" ∧
          customTLSDial (env [⟨[2]⟩]) "tcp" "192.0.2.1:443" pinned =
            (.conn (tlsConfig false "192.0.2.1") certs, .opened))) := by
  intro env noSNI pinned tlsConfig
  exact ⟨⟨rfl, rfl, rfl, rfl, rfl,
      @customTLSDial_verification_gaps (env []) "tcp" "192.0.2.1:443" noSNI rfl rfl
        "192.0.2.1" "443" rfl (tlsConfig true "") rfl⟩,
    ⟨rfl, rfl, rfl, rfl, rfl,
      customTLSDial_verification_gaps (env [⟨[2]⟩]) rfl rfl rfl rfl⟩⟩

end Dial

end PsiphonTLSDial
