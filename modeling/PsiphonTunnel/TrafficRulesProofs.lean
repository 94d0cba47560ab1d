import Mathlib.Data.List.Basic

/-! # Traffic rules — Validate, and hot reloads that keep a validated set

    A `TrafficRulesSet` holds the server's default client traffic rules, the
    ordered filter/rules pairs that override them, and the meek rate limiter
    settings.  `NewTrafficRulesSet` loads it from a file through a
    `ReloadableFile` whose reload action unmarshals the file's JSON into a
    fresh set, runs `Validate` on it, and only then copies the fresh set's rule
    fields into the live one.

    `validate_eq_ok_iff` says what `Validate` accepts (`TrafficRulesSet.Valid`)
    and `validate_error` what each of its errors names.  One reload keeps the
    live set valid and leaves it as it was when the content fails to
    unmarshal or to validate (`reload_valid`, `reload_of_rejected`); by
    induction so does every run of reloads after a successful load
    (`reloads_valid`).  What the reloads are for: the live
    rules are those of the last file content that decoded and validated
    (`reloads_eq_lastAccepted`).  `ValidTrafficRulesSet` carries the invariant
    in its type, and its reloads are the code's
    (`ValidTrafficRulesSet.reloads_set`).  `GetMeekRateLimiterConfig`, which
    reads the set, returns positive collection and reap periods, and a
    positive threshold whenever the history is on
    (`getMeekRateLimiterConfig_of_valid`).  `GetTrafficRules`, from a valid
    set, returns rules with every field set and no negative limit: the first
    matching entry's rules over the defaults over the built-in values
    (`getTrafficRules_spec`). -/

namespace PsiphonTrafficRules

/-! ## Rule data

    Go's pointer fields are `Option`s: `none` is a field the JSON omits.  The
    slices that `GetTrafficRules` tests against `nil` are `Option (List _)`;
    the others, only ever ranged over or measured, are lists.  Go's `int` and
    `int64` are `Int`: the range checks of `json.Unmarshal` belong to the
    unmarshal parameter below. -/

/-- `RateLimits`: the traffic-rules clone of `common.RateLimits`, with every
    field a pointer. -/
structure RateLimits where
  readUnthrottledBytes : Option Int := none
  readBytesPerSecond : Option Int := none
  writeUnthrottledBytes : Option Int := none
  writeBytesPerSecond : Option Int := none
  closeAfterExhausted : Option Bool := none
  unthrottleFirstTunnelOnly : Option Bool := none
  deriving DecidableEq, Repr

/-- `TrafficRules`: the limits placed on client traffic. -/
structure TrafficRules where
  rateLimits : RateLimits := {}
  dialTCPPortForwardTimeoutMilliseconds : Option Int := none
  idleTCPPortForwardTimeoutMilliseconds : Option Int := none
  idleUDPPortForwardTimeoutMilliseconds : Option Int := none
  maxTCPDialingPortForwardCount : Option Int := none
  maxTCPPortForwardCount : Option Int := none
  maxUDPPortForwardCount : Option Int := none
  allowTCPPorts : Option (List Int) := none
  allowUDPPorts : Option (List Int) := none
  allowSubnets : Option (List String) := none
  deriving DecidableEq, Repr

/-- `TrafficRulesFilter`: the client attributes a filter matches.  The
    `HandshakeParameters` map is its list of entries, in Go's (unspecified)
    iteration order. -/
structure TrafficRulesFilter where
  tunnelProtocols : List String := []
  regions : List String := []
  isps : List String := []
  apiProtocol : String := ""
  handshakeParameters : Option (List (String × List String)) := none
  authorizedAccessTypes : List String := []
  authorizationsRevoked : Bool := false
  deriving DecidableEq, Repr

/-- An element of `FilteredRules`: a filter and the rules it selects. -/
structure FilteredRule where
  filter : TrafficRulesFilter := {}
  rules : TrafficRules := {}
  deriving DecidableEq, Repr

/-- The rule fields of `TrafficRulesSet`; the embedded `common.ReloadableFile`
    is the reload machinery of the last part of this module. -/
structure TrafficRulesSet where
  defaultRules : TrafficRules := {}
  filteredRules : List FilteredRule := []
  meekRateLimiterHistorySize : Int := 0
  meekRateLimiterThresholdSeconds : Int := 0
  meekRateLimiterRegions : List String := []
  meekRateLimiterISPs : List String := []
  meekRateLimiterGarbageCollectionTriggerCount : Int := 0
  meekRateLimiterReapHistoryFrequencySeconds : Int := 0
  deriving DecidableEq, Repr

/-- `requestParamSpec`, of which `Validate` reads only the name. -/
structure RequestParamSpec where
  name : String
  deriving DecidableEq, Repr

/-- The ten pointer fields `validateTrafficRules` checks against zero, in its
    order. -/
def TrafficRules.limitValues (rules : TrafficRules) : List (Option Int) :=
  [rules.rateLimits.readUnthrottledBytes, rules.rateLimits.readBytesPerSecond,
    rules.rateLimits.writeUnthrottledBytes, rules.rateLimits.writeBytesPerSecond,
    rules.dialTCPPortForwardTimeoutMilliseconds, rules.idleTCPPortForwardTimeoutMilliseconds,
    rules.idleUDPPortForwardTimeoutMilliseconds, rules.maxTCPDialingPortForwardCount,
    rules.maxTCPPortForwardCount, rules.maxUDPPortForwardCount]

/-- `p != nil && *p < 0`. -/
def isNegative : Option Int → Bool
  | some v => decide (v < 0)
  | none => false

/-- The rules `Validate` checks: the defaults, then each filtered entry's. -/
def TrafficRulesSet.allRules (set : TrafficRulesSet) : List TrafficRules :=
  set.defaultRules :: set.filteredRules.map (·.rules)

/-! ## Loops in the error monad -/

theorem except_bind_eq_ok_iff {ε : Type} (x y : Except ε PUnit) :
    (x >>= fun _ => y) = .ok () ↔ x = .ok () ∧ y = .ok () := by
  cases x <;> simp [bind, Except.bind]

theorem forM_except_eq_ok_iff {α ε : Type} (l : List α) (f : α → Except ε PUnit) :
    l.forM f = .ok () ↔ ∀ x ∈ l, f x = .ok () := by
  induction l with
  | nil => exact ⟨fun _ _ h => (nomatch h), fun _ => rfl⟩
  | cons a l ih =>
      simp only [List.forM_cons', List.forall_mem_cons, except_bind_eq_ok_iff, ih]

theorem forM_except_eq_error {α ε : Type} {l : List α} {f : α → Except ε PUnit} {e : ε}
    (h : l.forM f = .error e) : ∃ x ∈ l, f x = .error e := by
  induction l with
  | nil => cases h
  | cons a l ih =>
      simp only [List.forM_cons', bind, Except.bind] at h
      rcases ha : f a with e' | _ <;> rw [ha] at h
      · exact ⟨a, List.mem_cons_self _ _, h ▸ ha⟩
      · obtain ⟨x, hx, hfx⟩ := ih h
        exact ⟨x, List.mem_cons_of_mem _ hx, hfx⟩

/-! ## Validate -/

section Validate

variable (baseRequestParams : List RequestParamSpec) (parseCIDR : String → Except String Unit)

/-- The closure `validateTrafficRules` of `Validate`.  `net.ParseCIDR` is a
    parameter, of which only the error is read. -/
def validateTrafficRules (rules : TrafficRules) : Except String Unit :=
  if rules.limitValues.any isNegative then
    .error "TrafficRules values must be >= 0"
  else
    (rules.allowSubnets.getD []).forM fun subnet =>
      match parseCIDR subnet with
      | .error err => .error ("invalid subnet: " ++ subnet ++ " " ++ err)
      | .ok _ => .ok ()

/-- The handshake-parameter loop of `Validate` for one filter: every
    parameter name must be the name of one of `baseRequestParams`. -/
def validateHandshakeParameters (filter : TrafficRulesFilter) : Except String Unit :=
  (filter.handshakeParameters.getD []).forM fun (paramName, _) =>
    if baseRequestParams.any (·.name == paramName) then .ok ()
    else .error ("invalid parameter name: " ++ paramName)

/-- `TrafficRulesSet.Validate`. -/
def validate (set : TrafficRulesSet) : Except String Unit :=
  if set.meekRateLimiterHistorySize < 0 ∨ set.meekRateLimiterThresholdSeconds < 0 ∨
      set.meekRateLimiterGarbageCollectionTriggerCount < 0 ∨
      set.meekRateLimiterReapHistoryFrequencySeconds < 0 then
    .error "MeekRateLimiter values must be >= 0"
  else if set.meekRateLimiterHistorySize > 0 ∧ set.meekRateLimiterThresholdSeconds ≤ 0 then
    .error "MeekRateLimiterThresholdSeconds must be > 0"
  else do
    validateTrafficRules parseCIDR set.defaultRules
    set.filteredRules.forM fun filteredRule => do
      validateHandshakeParameters baseRequestParams filteredRule.filter
      validateTrafficRules parseCIDR filteredRule.rules

/-- What `validateTrafficRules` accepts: no limit that is set is below zero,
    and every allowed subnet parses. -/
structure TrafficRules.Valid (rules : TrafficRules) : Prop where
  nonneg : ∀ v, some v ∈ rules.limitValues → 0 ≤ v
  subnets : ∀ subnet ∈ rules.allowSubnets.getD [], parseCIDR subnet = .ok ()

/-- What `Validate` accepts. -/
structure TrafficRulesSet.Valid (set : TrafficRulesSet) : Prop where
  meek_nonneg : 0 ≤ set.meekRateLimiterHistorySize ∧ 0 ≤ set.meekRateLimiterThresholdSeconds ∧
    0 ≤ set.meekRateLimiterGarbageCollectionTriggerCount ∧
    0 ≤ set.meekRateLimiterReapHistoryFrequencySeconds
  threshold_pos : 0 < set.meekRateLimiterHistorySize → 0 < set.meekRateLimiterThresholdSeconds
  rules : ∀ rules ∈ set.allRules, rules.Valid parseCIDR
  handshakeParameters : ∀ r ∈ set.filteredRules, ∀ p ∈ r.filter.handshakeParameters.getD [],
    ∃ spec ∈ baseRequestParams, spec.name = p.1

theorem isNegative_eq_false_iff (p : Option Int) :
    isNegative p = false ↔ ∀ v, p = some v → 0 ≤ v := by
  cases p <;> simp [isNegative, Int.not_lt]

theorem validateTrafficRules_eq_ok_iff (rules : TrafficRules) :
    validateTrafficRules parseCIDR rules = .ok () ↔ rules.Valid parseCIDR := by
  have hneg : rules.limitValues.any isNegative = false ↔ ∀ v, some v ∈ rules.limitValues → 0 ≤ v := by
    simp only [List.any_eq_false, Bool.not_eq_true, isNegative_eq_false_iff]
    exact ⟨fun h v hv => h _ hv v rfl, fun h p hp v hv => h v (hv ▸ hp)⟩
  have hsub : ∀ subnet, (match parseCIDR subnet with
      | .error err => (.error ("invalid subnet: " ++ subnet ++ " " ++ err) : Except String Unit)
      | .ok _ => .ok ()) = .ok () ↔ parseCIDR subnet = .ok () := by
    intro subnet
    cases parseCIDR subnet <;> simp
  unfold validateTrafficRules
  cases h : rules.limitValues.any isNegative
  · simp only [if_neg Bool.false_ne_true, forM_except_eq_ok_iff, hsub]
    exact ⟨fun hs => ⟨hneg.1 h, hs⟩, fun hv => hv.2⟩
  · simp only [if_pos, reduceCtorEq, false_iff]
    exact fun hv => absurd (hneg.2 hv.1) (by simp [h])

theorem validateHandshakeParameters_eq_ok_iff (filter : TrafficRulesFilter) :
    validateHandshakeParameters baseRequestParams filter = .ok () ↔
      ∀ p ∈ filter.handshakeParameters.getD [], ∃ spec ∈ baseRequestParams, spec.name = p.1 := by
  unfold validateHandshakeParameters
  rw [forM_except_eq_ok_iff]
  refine forall₂_congr fun ⟨paramName, _⟩ _ => ?_
  by_cases h : baseRequestParams.any (·.name == paramName) <;> simp_all

/-- **VALIDATE SPEC**: `Validate` accepts exactly the sets that are `Valid`. -/
theorem validate_eq_ok_iff (set : TrafficRulesSet) :
    validate baseRequestParams parseCIDR set = .ok () ↔ set.Valid baseRequestParams parseCIDR := by
  unfold validate
  split_ifs with hneg hthr
  · simp only [reduceCtorEq, false_iff]
    exact fun hv => by have := hv.meek_nonneg; omega
  · simp only [reduceCtorEq, false_iff]
    exact fun hv => by have := hv.threshold_pos; omega
  · simp only [except_bind_eq_ok_iff, forM_except_eq_ok_iff,
      validateTrafficRules_eq_ok_iff, validateHandshakeParameters_eq_ok_iff]
    constructor
    · rintro ⟨hd, hf⟩
      refine ⟨by omega, by omega, fun rules hr => ?_, fun r hr => (hf r hr).1⟩
      simp only [TrafficRulesSet.allRules, List.mem_cons, List.mem_map] at hr
      rcases hr with rfl | ⟨r, hr, rfl⟩
      exacts [hd, (hf r hr).2]
    · intro hv
      exact ⟨hv.rules _ (List.mem_cons_self _ _), fun r hr =>
        ⟨hv.handshakeParameters r hr, hv.rules _ (List.mem_cons_of_mem _ (List.mem_map_of_mem _ hr))⟩⟩

/-- The zero set, which `NewTrafficRulesSet` starts from, passes `Validate`. -/
theorem validate_zero : validate baseRequestParams parseCIDR {} = .ok () := rfl

theorem validateTrafficRules_error {rules : TrafficRules} {msg : String}
    (h : validateTrafficRules parseCIDR rules = .error msg) :
    (msg = "TrafficRules values must be >= 0" ∧ ∃ v, some v ∈ rules.limitValues ∧ v < 0) ∨
      ∃ subnet ∈ rules.allowSubnets.getD [], ∃ err, parseCIDR subnet = .error err ∧
        msg = "invalid subnet: " ++ subnet ++ " " ++ err := by
  unfold validateTrafficRules at h
  split_ifs at h with hneg
  · simp only [Except.error.injEq] at h
    obtain ⟨p, hp, hpneg⟩ := List.any_eq_true.1 hneg
    cases p with
    | none => cases hpneg
    | some v => exact .inl ⟨h.symm, v, hp, of_decide_eq_true hpneg⟩
  · obtain ⟨subnet, hs, hsub⟩ := forM_except_eq_error h
    refine .inr ⟨subnet, hs, ?_⟩
    revert hsub
    cases parseCIDR subnet <;> simp [eq_comm]

theorem validateHandshakeParameters_error {filter : TrafficRulesFilter} {msg : String}
    (h : validateHandshakeParameters baseRequestParams filter = .error msg) :
    ∃ p ∈ filter.handshakeParameters.getD [], (∀ spec ∈ baseRequestParams, spec.name ≠ p.1) ∧
      msg = "invalid parameter name: " ++ p.1 := by
  obtain ⟨⟨paramName, values⟩, hp, herr⟩ := forM_except_eq_error h
  refine ⟨(paramName, values), hp, ?_⟩
  dsimp only at herr ⊢
  split_ifs at herr with hbase
  exact ⟨fun spec hs hname => hbase (List.any_eq_true.2 ⟨spec, hs, by simp [hname]⟩),
    (Except.error.inj herr).symm⟩

/-- **VALIDATE ERRORS**: every error of `Validate` is one of its checks
    failing on a field it names; `validateTrafficRules_error` and
    `validateHandshakeParameters_error` say the same of the inner checks. -/
theorem validate_error {set : TrafficRulesSet} {msg : String}
    (h : validate baseRequestParams parseCIDR set = .error msg) :
    (msg = "MeekRateLimiter values must be >= 0" ∧
        (set.meekRateLimiterHistorySize < 0 ∨ set.meekRateLimiterThresholdSeconds < 0 ∨
          set.meekRateLimiterGarbageCollectionTriggerCount < 0 ∨
          set.meekRateLimiterReapHistoryFrequencySeconds < 0)) ∨
      (msg = "MeekRateLimiterThresholdSeconds must be > 0" ∧
        0 < set.meekRateLimiterHistorySize ∧ set.meekRateLimiterThresholdSeconds ≤ 0) ∨
      (∃ rules ∈ set.allRules, validateTrafficRules parseCIDR rules = .error msg) ∨
      ∃ r ∈ set.filteredRules, validateHandshakeParameters baseRequestParams r.filter = .error msg := by
  unfold validate at h
  split_ifs at h with hneg hthr
  · exact .inl ⟨(Except.error.inj h).symm, hneg⟩
  · exact .inr (.inl ⟨(Except.error.inj h).symm, hthr⟩)
  · rcases hd : validateTrafficRules parseCIDR set.defaultRules with e | _ <;>
      simp only [hd, bind, Except.bind, Except.error.injEq] at h
    · exact .inr (.inr (.inl ⟨_, List.mem_cons_self _ _, h ▸ hd⟩))
    obtain ⟨r, hr, hre⟩ := forM_except_eq_error h
    rcases hp : validateHandshakeParameters baseRequestParams r.filter with e | _ <;>
      simp only [hp, bind, Except.bind, Except.error.injEq] at hre
    · exact .inr (.inr (.inr ⟨r, hr, hre ▸ hp⟩))
    · exact .inr (.inr (.inl ⟨r.rules, List.mem_cons_of_mem _ (List.mem_map_of_mem _ hr), hre⟩))

end Validate

/-! ## Hot reload

    `common.ReloadableFile` is not under src/.  The spec says that a hot
    reload replaces the in-memory content while a lock is held, so that readers
    see the old or the new content in full; the model runs reloads one after
    another, each an atomic step. -/

/-- Modelled from the spec: what one `ReloadableFile.Reload` finds.  Either
    it runs no action — there is no file name or the file is unchanged, and it
    reports no reload, or the file cannot be read, and it returns the error —
    or it runs the reload action on the file's content. -/
inductive ReloadInput where
  | unchanged
  | failed (err : String)
  | changed (fileContent : List UInt8)
  deriving DecidableEq, Repr

section Reload

variable (baseRequestParams : List RequestParamSpec) (parseCIDR : String → Except String Unit)
  (unmarshal : List UInt8 → Except String TrafficRulesSet)

/-- The reload action `NewTrafficRulesSet` gives its `ReloadableFile`, with
    `json.Unmarshal` into a zero set as the parameter `unmarshal`: the set it
    leaves and the error it returns. -/
def reloadAction (set : TrafficRulesSet) (fileContent : List UInt8) :
    TrafficRulesSet × Except String Unit :=
  match unmarshal fileContent with
  | .error err => (set, .error err)
  | .ok newSet =>
    match validate baseRequestParams parseCIDR newSet with
    | .error err => (set, .error err)
    | .ok () =>
      ({ set with
          meekRateLimiterHistorySize := newSet.meekRateLimiterHistorySize
          meekRateLimiterThresholdSeconds := newSet.meekRateLimiterThresholdSeconds
          meekRateLimiterRegions := newSet.meekRateLimiterRegions
          meekRateLimiterISPs := newSet.meekRateLimiterISPs
          meekRateLimiterGarbageCollectionTriggerCount :=
            newSet.meekRateLimiterGarbageCollectionTriggerCount
          meekRateLimiterReapHistoryFrequencySeconds :=
            newSet.meekRateLimiterReapHistoryFrequencySeconds
          defaultRules := newSet.defaultRules
          filteredRules := newSet.filteredRules }, .ok ())

/-- Modelled from the spec: `ReloadableFile.Reload` on the traffic-rules set,
    returning whether the content was reloaded, or the error. -/
def reload (set : TrafficRulesSet) : ReloadInput → TrafficRulesSet × Except String Bool
  | .unchanged => (set, .ok false)
  | .failed err => (set, .error err)
  | .changed fileContent =>
    match reloadAction baseRequestParams parseCIDR unmarshal set fileContent with
    | (set', .error err) => (set', .error err)
    | (set', .ok ()) => (set', .ok true)

/-- `NewTrafficRulesSet`: a zero set and one reload, whose error fails the call. -/
def newTrafficRulesSet (input : ReloadInput) : Except String TrafficRulesSet :=
  match reload baseRequestParams parseCIDR unmarshal {} input with
  | (_, .error err) => .error err
  | (set, .ok _) => .ok set

/-- The set after a run of reloads. -/
def reloads (set : TrafficRulesSet) : List ReloadInput → TrafficRulesSet
  | [] => set
  | input :: inputs => reloads (reload baseRequestParams parseCIDR unmarshal set input).1 inputs

/-- The reload action copies every rule field, so the live set becomes the
    fresh one. -/
theorem reloadAction_of_ok {set newSet : TrafficRulesSet} {fileContent : List UInt8}
    (hu : unmarshal fileContent = .ok newSet)
    (hv : validate baseRequestParams parseCIDR newSet = .ok ()) :
    reloadAction baseRequestParams parseCIDR unmarshal set fileContent = (newSet, .ok ()) := by
  simp only [reloadAction, hu, hv]

/-- **RELOAD STEP**: a reload either leaves the set as it was and reports no
    reload, or reloads a file content that decodes to a valid set, and the live
    set becomes that set. -/
theorem reload_cases (set : TrafficRulesSet) (input : ReloadInput) :
    ((reload baseRequestParams parseCIDR unmarshal set input).1 = set ∧
        (reload baseRequestParams parseCIDR unmarshal set input).2 ≠ .ok true) ∨
      ∃ fileContent newSet, input = .changed fileContent ∧ unmarshal fileContent = .ok newSet ∧
        validate baseRequestParams parseCIDR newSet = .ok () ∧
        reload baseRequestParams parseCIDR unmarshal set input = (newSet, .ok true) := by
  cases input with
  | changed fileContent =>
      rcases hu : unmarshal fileContent with err | newSet
      · exact .inl (by simp [reload, reloadAction, hu])
      rcases hv : validate baseRequestParams parseCIDR newSet with err | _
      · exact .inl (by simp [reload, reloadAction, hu, hv])
      · exact .inr ⟨fileContent, newSet, rfl, hu, hv, by simp [reload, reloadAction_of_ok _ _ _ hu hv]⟩
  | _ => exact .inl ⟨rfl, by simp [reload]⟩

/-- A reload keeps the set valid. -/
theorem reload_valid {set : TrafficRulesSet} (hv : validate baseRequestParams parseCIDR set = .ok ())
    (input : ReloadInput) :
    validate baseRequestParams parseCIDR (reload baseRequestParams parseCIDR unmarshal set input).1 =
      .ok () := by
  rcases reload_cases baseRequestParams parseCIDR unmarshal set input with
    ⟨h, -⟩ | ⟨_, _, _, _, _, h⟩ <;> rwa [h]

/-- A reload of content that fails to unmarshal or to validate leaves every
    rule field as it was. -/
theorem reload_of_rejected {set : TrafficRulesSet} {fileContent : List UInt8}
    (h : (∃ err, unmarshal fileContent = .error err) ∨
      ∃ newSet err, unmarshal fileContent = .ok newSet ∧
        validate baseRequestParams parseCIDR newSet = .error err) :
    (reload baseRequestParams parseCIDR unmarshal set (.changed fileContent)).1 = set := by
  rcases h with ⟨err, hu⟩ | ⟨newSet, err, hu, hv⟩
  · simp [reload, reloadAction, hu]
  · simp [reload, reloadAction, hu, hv]

theorem reloads_append (set : TrafficRulesSet) (pre post : List ReloadInput) :
    reloads baseRequestParams parseCIDR unmarshal set (pre ++ post) =
      reloads baseRequestParams parseCIDR unmarshal
        (reloads baseRequestParams parseCIDR unmarshal set pre) post := by
  induction pre generalizing set with
  | nil => rfl
  | cons input pre ih => exact ih _

/-- **RELOAD RUN**: every run of reloads from a valid set stays valid. -/
theorem reloads_valid {set : TrafficRulesSet} (hv : validate baseRequestParams parseCIDR set = .ok ())
    (inputs : List ReloadInput) :
    validate baseRequestParams parseCIDR (reloads baseRequestParams parseCIDR unmarshal set inputs) =
      .ok () := by
  induction inputs generalizing set with
  | nil => exact hv
  | cons input inputs ih => exact ih (reload_valid baseRequestParams parseCIDR unmarshal hv input)

/-- A set `NewTrafficRulesSet` returns passes `Validate`. -/
theorem newTrafficRulesSet_valid {input : ReloadInput} {set : TrafficRulesSet}
    (h : newTrafficRulesSet baseRequestParams parseCIDR unmarshal input = .ok set) :
    validate baseRequestParams parseCIDR set = .ok () := by
  unfold newTrafficRulesSet at h
  split at h <;> cases h
  next hr =>
    simpa only [hr] using reload_valid baseRequestParams parseCIDR unmarshal
      (validate_zero baseRequestParams parseCIDR) input

/-- After a successful `NewTrafficRulesSet`, every run of reloads leaves a set
    that passes `Validate`, and a reload of content that fails to unmarshal or
    to validate leaves the set as it was. -/
theorem reloads_keep_rules_valid {initial : ReloadInput} {set : TrafficRulesSet}
    (hnew : newTrafficRulesSet baseRequestParams parseCIDR unmarshal initial = .ok set)
    (inputs : List ReloadInput) :
    validate baseRequestParams parseCIDR (reloads baseRequestParams parseCIDR unmarshal set inputs) =
        .ok () ∧
      ∀ pre fileContent post, inputs = pre ++ .changed fileContent :: post →
        ((∃ err, unmarshal fileContent = .error err) ∨
          ∃ newSet err, unmarshal fileContent = .ok newSet ∧
            validate baseRequestParams parseCIDR newSet = .error err) →
        reloads baseRequestParams parseCIDR unmarshal set (pre ++ [.changed fileContent]) =
          reloads baseRequestParams parseCIDR unmarshal set pre := by
  refine ⟨reloads_valid baseRequestParams parseCIDR unmarshal
    (newTrafficRulesSet_valid baseRequestParams parseCIDR unmarshal hnew) inputs,
    fun pre _ _ _ hrejected => ?_⟩
  rw [reloads_append]
  exact reload_of_rejected baseRequestParams parseCIDR unmarshal hrejected

end Reload

/-- A load, a reload with a negative history size that fails, and an
    unchanged file. -/
theorem reloads_keep_rules_valid_after_rejected_history_size :
    let unmarshal : List UInt8 → Except String TrafficRulesSet := fun fileContent =>
      if fileContent = [] then
        .ok { meekRateLimiterHistorySize := 10, meekRateLimiterThresholdSeconds := 60 }
      else .ok { meekRateLimiterHistorySize := -1 }
    let set : TrafficRulesSet :=
      { meekRateLimiterHistorySize := 10, meekRateLimiterThresholdSeconds := 60 }
    newTrafficRulesSet [] (fun _ => .ok ()) unmarshal (.changed []) = .ok set ∧
      (validate [] (fun _ => .ok ())
          (reloads [] (fun _ => .ok ()) unmarshal set [.changed [1], .unchanged]) = .ok () ∧
        ∀ pre fileContent post, [.changed [1], .unchanged] = pre ++ .changed fileContent :: post →
          ((∃ err, unmarshal fileContent = .error err) ∨
            ∃ newSet err, unmarshal fileContent = .ok newSet ∧
              validate [] (fun _ => .ok ()) newSet = .error err) →
          reloads [] (fun _ => .ok ()) unmarshal set (pre ++ [.changed fileContent]) =
            reloads [] (fun _ => .ok ()) unmarshal set pre) := by
  intro unmarshal set
  exact ⟨rfl, @reloads_keep_rules_valid [] (fun _ => .ok ()) unmarshal (.changed []) set rfl _⟩

/-! ## What the reloads are for

    The live rules after a run are those of the last file content that
    decoded and validated, or the initial rules when none did
    (`reloads_eq_lastAccepted`); the code's copy-after-validate step refines
    this description.  `ValidTrafficRulesSet` carries the check in its type. -/

section Accepted

variable (baseRequestParams : List RequestParamSpec) (parseCIDR : String → Except String Unit)
  (unmarshal : List UInt8 → Except String TrafficRulesSet)

/-- The rule set a reload input stands for, when it is a file content that
    decodes and validates. -/
def acceptedRules : ReloadInput → Option TrafficRulesSet
  | .changed fileContent =>
    match unmarshal fileContent with
    | .ok newSet => if (validate baseRequestParams parseCIDR newSet).isOk then some newSet else none
    | .error _ => none
  | _ => none

/-- The rules of the last accepted input, or `set` when there is none. -/
def lastAccepted (set : TrafficRulesSet) (inputs : List ReloadInput) : TrafficRulesSet :=
  (inputs.filterMap (acceptedRules baseRequestParams parseCIDR unmarshal)).getLastD set

theorem reload_fst_eq (set : TrafficRulesSet) (input : ReloadInput) :
    (reload baseRequestParams parseCIDR unmarshal set input).1 =
      (acceptedRules baseRequestParams parseCIDR unmarshal input).getD set := by
  cases input with
  | changed fileContent =>
      rcases hu : unmarshal fileContent with err | newSet
      · simp [reload, reloadAction, acceptedRules, hu]
      · rcases hv : validate baseRequestParams parseCIDR newSet with err | _ <;>
          simp [reload, reloadAction, acceptedRules, hu, hv, Except.isOk, Except.toBool]
  | _ => rfl

/-- **REFINEMENT**: the code's run of reloads is the last accepted content. -/
theorem reloads_eq_lastAccepted (set : TrafficRulesSet) (inputs : List ReloadInput) :
    reloads baseRequestParams parseCIDR unmarshal set inputs =
      lastAccepted baseRequestParams parseCIDR unmarshal set inputs := by
  induction inputs generalizing set with
  | nil => rfl
  | cons input inputs ih =>
      rw [reloads, ih, reload_fst_eq, lastAccepted, lastAccepted, List.filterMap_cons]
      cases acceptedRules baseRequestParams parseCIDR unmarshal input
      · rfl
      · exact (List.getLastD_cons _ _ _).symm

/-- A rule set that carries its `Validate` check. -/
structure ValidTrafficRulesSet where
  set : TrafficRulesSet
  valid : validate baseRequestParams parseCIDR set = .ok ()

variable {baseRequestParams parseCIDR}

/-- The set `NewTrafficRulesSet` returns, with its check. -/
def ValidTrafficRulesSet.ofNew {input : ReloadInput} {set : TrafficRulesSet}
    (h : newTrafficRulesSet baseRequestParams parseCIDR unmarshal input = .ok set) :
    ValidTrafficRulesSet baseRequestParams parseCIDR :=
  ⟨set, newTrafficRulesSet_valid baseRequestParams parseCIDR unmarshal h⟩

/-- One reload of a valid set. -/
def ValidTrafficRulesSet.reload (s : ValidTrafficRulesSet baseRequestParams parseCIDR)
    (input : ReloadInput) : ValidTrafficRulesSet baseRequestParams parseCIDR :=
  ⟨(PsiphonTrafficRules.reload baseRequestParams parseCIDR unmarshal s.set input).1,
    reload_valid baseRequestParams parseCIDR unmarshal s.valid input⟩

/-- A run of reloads of a valid set. -/
def ValidTrafficRulesSet.reloads (s : ValidTrafficRulesSet baseRequestParams parseCIDR) :
    List ReloadInput → ValidTrafficRulesSet baseRequestParams parseCIDR
  | [] => s
  | input :: inputs => (s.reload unmarshal input).reloads inputs

/-- The valid sets' reloads are the code's. -/
theorem ValidTrafficRulesSet.reloads_set (s : ValidTrafficRulesSet baseRequestParams parseCIDR)
    (inputs : List ReloadInput) :
    (s.reloads unmarshal inputs).set =
      PsiphonTrafficRules.reloads baseRequestParams parseCIDR unmarshal s.set inputs := by
  induction inputs generalizing s with
  | nil => rfl
  | cons input inputs ih => exact ih _

end Accepted

/-! ## GetTrafficRules

    `GetTrafficRules` copies `DefaultRules`, fills every field the defaults
    omit with a built-in value, lets the first filtered entry whose filter
    matches the client override the fields it sets, and at last zeroes the
    unthrottled byte counts of a tunnel that is not the first of its session
    when `UnthrottleFirstTunnelOnly` is set.  Both the filling and the
    overriding are "this field, or that one where it is omitted"
    (`TrafficRules.orElse`).

    From every set, every field of the result is set (`TrafficRules.Complete`);
    from a valid set, no limit is negative; and the result is the first match's
    rules over the defaults over the built-in values, whatever entries follow
    the first match (`getTrafficRules_spec`). -/

/-- `DEFAULT_IDLE_TCP_PORT_FORWARD_TIMEOUT_MILLISECONDS`. -/
def defaultIdleTCPPortForwardTimeoutMilliseconds : Int := 30000

/-- `DEFAULT_IDLE_UDP_PORT_FORWARD_TIMEOUT_MILLISECONDS`. -/
def defaultIdleUDPPortForwardTimeoutMilliseconds : Int := 30000

/-- `DEFAULT_DIAL_TCP_PORT_FORWARD_TIMEOUT_MILLISECONDS`. -/
def defaultDialTCPPortForwardTimeoutMilliseconds : Int := 10000

/-- `DEFAULT_MAX_TCP_DIALING_PORT_FORWARD_COUNT`. -/
def defaultMaxTCPDialingPortForwardCount : Int := 64

/-- `DEFAULT_MAX_TCP_PORT_FORWARD_COUNT`. -/
def defaultMaxTCPPortForwardCount : Int := 512

/-- `DEFAULT_MAX_UDP_PORT_FORWARD_COUNT`. -/
def defaultMaxUDPPortForwardCount : Int := 32

/-- Modelled from the spec: `GeoIPData` is not in the sources; the filters
    read the client's country and ISP. -/
structure GeoIPData where
  country : String := ""
  isp : String := ""
  deriving DecidableEq, Repr

/-- Modelled from the spec: `handshakeState` is not in the sources; these are
    the fields the filters read, the API parameters of an abstract type read
    through `getStringRequestParam`. -/
structure HandshakeState (Params : Type) where
  completed : Bool := false
  apiProtocol : String := ""
  apiParams : Params
  authorizationsRevoked : Bool := false
  authorizedAccessTypes : List String := []

/-- `common.Contains(list, target)`. -/
def contains (list : List String) (target : String) : Bool := list.any (· == target)

/-- `common.ContainsAny(list, targets)`. -/
def containsAny (list targets : List String) : Bool := targets.any (contains list)

/-- Each rate limit of `limits`, or of `base` where `limits` omits it. -/
def RateLimits.orElse (limits base : RateLimits) : RateLimits where
  readUnthrottledBytes := limits.readUnthrottledBytes <|> base.readUnthrottledBytes
  readBytesPerSecond := limits.readBytesPerSecond <|> base.readBytesPerSecond
  writeUnthrottledBytes := limits.writeUnthrottledBytes <|> base.writeUnthrottledBytes
  writeBytesPerSecond := limits.writeBytesPerSecond <|> base.writeBytesPerSecond
  closeAfterExhausted := limits.closeAfterExhausted <|> base.closeAfterExhausted
  unthrottleFirstTunnelOnly := limits.unthrottleFirstTunnelOnly <|> base.unthrottleFirstTunnelOnly

/-- Each field of `rules`, or of `base` where `rules` omits it: the
    `if x == nil { x = default }` and `if filtered.x != nil { x = filtered.x }`
    steps of `GetTrafficRules`, every field alike. -/
def TrafficRules.orElse (rules base : TrafficRules) : TrafficRules where
  rateLimits := rules.rateLimits.orElse base.rateLimits
  dialTCPPortForwardTimeoutMilliseconds :=
    rules.dialTCPPortForwardTimeoutMilliseconds <|> base.dialTCPPortForwardTimeoutMilliseconds
  idleTCPPortForwardTimeoutMilliseconds :=
    rules.idleTCPPortForwardTimeoutMilliseconds <|> base.idleTCPPortForwardTimeoutMilliseconds
  idleUDPPortForwardTimeoutMilliseconds :=
    rules.idleUDPPortForwardTimeoutMilliseconds <|> base.idleUDPPortForwardTimeoutMilliseconds
  maxTCPDialingPortForwardCount :=
    rules.maxTCPDialingPortForwardCount <|> base.maxTCPDialingPortForwardCount
  maxTCPPortForwardCount := rules.maxTCPPortForwardCount <|> base.maxTCPPortForwardCount
  maxUDPPortForwardCount := rules.maxUDPPortForwardCount <|> base.maxUDPPortForwardCount
  allowTCPPorts := rules.allowTCPPorts <|> base.allowTCPPorts
  allowUDPPorts := rules.allowUDPPorts <|> base.allowUDPPorts
  allowSubnets := rules.allowSubnets <|> base.allowSubnets

/-- The values `GetTrafficRules` gives the fields `DefaultRules` omits:
    `new(int64)`, `new(bool)`, the `DEFAULT_*` constants and empty slices. -/
def builtinTrafficRules : TrafficRules where
  rateLimits :=
    { readUnthrottledBytes := some 0, readBytesPerSecond := some 0,
      writeUnthrottledBytes := some 0, writeBytesPerSecond := some 0,
      closeAfterExhausted := some false, unthrottleFirstTunnelOnly := some false }
  dialTCPPortForwardTimeoutMilliseconds := some defaultDialTCPPortForwardTimeoutMilliseconds
  idleTCPPortForwardTimeoutMilliseconds := some defaultIdleTCPPortForwardTimeoutMilliseconds
  idleUDPPortForwardTimeoutMilliseconds := some defaultIdleUDPPortForwardTimeoutMilliseconds
  maxTCPDialingPortForwardCount := some defaultMaxTCPDialingPortForwardCount
  maxTCPPortForwardCount := some defaultMaxTCPPortForwardCount
  maxUDPPortForwardCount := some defaultMaxUDPPortForwardCount
  allowTCPPorts := some []
  allowUDPPorts := some []
  allowSubnets := some []

section GetTrafficRules

variable {Params : Type} (getStringRequestParam : Params → String → Except String String)
  (wildcardMatch : String → String → Bool)

/-- `common.ContainsWildcard(patterns, target)`; `wildcard.Match` is a
    parameter. -/
def containsWildcard (patterns : List String) (target : String) : Bool :=
  patterns.any fun pattern => wildcardMatch pattern target

/-- The handshake-parameter check of the loop over `FilteredRules`: `true`
    where the loop `continue`s, when the handshake is not complete or some
    parameter is missing or matches none of its patterns. -/
def handshakeParametersMismatch (handshakeParameters : Option (List (String × List String)))
    (state : HandshakeState Params) : Bool :=
  match handshakeParameters with
  | some handshakeParameters =>
      !state.completed || handshakeParameters.any fun (name, values) =>
        match getStringRequestParam state.apiParams name with
        | .error _ => true
        | .ok clientValue => !containsWildcard wildcardMatch values clientValue
  | none => false

/-- The checks of the loop over `FilteredRules`: `false` where the loop
    `continue`s. -/
def matchesFilter (filter : TrafficRulesFilter) (tunnelProtocol : String) (geoIPData : GeoIPData)
    (state : HandshakeState Params) : Bool :=
  if 0 < filter.tunnelProtocols.length ∧ contains filter.tunnelProtocols tunnelProtocol = false then
    false
  else if 0 < filter.regions.length ∧ contains filter.regions geoIPData.country = false then false
  else if 0 < filter.isps.length ∧ contains filter.isps geoIPData.isp = false then false
  else if filter.apiProtocol ≠ "" ∧
      (state.completed = false ∨ state.apiProtocol ≠ filter.apiProtocol) then false
  else if handshakeParametersMismatch getStringRequestParam wildcardMatch
      filter.handshakeParameters state then false
  else if filter.authorizationsRevoked then state.completed && state.authorizationsRevoked
  else if 0 < filter.authorizedAccessTypes.length then
    state.completed && !state.authorizationsRevoked &&
      containsAny filter.authorizedAccessTypes state.authorizedAccessTypes
  else true

/-- `set.GetTrafficRules(isFirstTunnelInSession, tunnelProtocol, geoIPData,
    state)`. -/
def getTrafficRules (set : TrafficRulesSet) (isFirstTunnelInSession : Bool)
    (tunnelProtocol : String) (geoIPData : GeoIPData) (state : HandshakeState Params) :
    TrafficRules :=
  let trafficRules := set.defaultRules.orElse builtinTrafficRules
  let trafficRules :=
    match set.filteredRules.find? fun filteredRules =>
        matchesFilter getStringRequestParam wildcardMatch filteredRules.filter tunnelProtocol
          geoIPData state with
    | some filteredRules => filteredRules.rules.orElse trafficRules
    | none => trafficRules
  if trafficRules.rateLimits.unthrottleFirstTunnelOnly = some true ∧
      isFirstTunnelInSession = false then
    { trafficRules with rateLimits :=
        { trafficRules.rateLimits with readUnthrottledBytes := some 0,
                                       writeUnthrottledBytes := some 0 } }
  else trafficRules

end GetTrafficRules

/-- Every pointer and slice field is set: the callers need no nil checks. -/
structure TrafficRules.Complete (rules : TrafficRules) : Prop where
  limits : ∀ v ∈ rules.limitValues, v.isSome
  closeAfterExhausted : rules.rateLimits.closeAfterExhausted.isSome
  unthrottleFirstTunnelOnly : rules.rateLimits.unthrottleFirstTunnelOnly.isSome
  allowTCPPorts : rules.allowTCPPorts.isSome
  allowUDPPorts : rules.allowUDPPorts.isSome
  allowSubnets : rules.allowSubnets.isSome

theorem limitValues_orElse (rules base : TrafficRules) :
    (rules.orElse base).limitValues =
      List.zipWith (fun a b => a <|> b) rules.limitValues base.limitValues := rfl

theorem isSome_orElse {α : Type} (a : Option α) {b : Option α} (hb : b.isSome) :
    (a <|> b).isSome := by
  cases a <;> simp [hb]

theorem mem_zipWith_orElse {α : Type} {v : α} :
    ∀ {l₁ l₂ : List (Option α)}, some v ∈ List.zipWith (fun a b => a <|> b) l₁ l₂ →
      some v ∈ l₁ ∨ some v ∈ l₂
  | [], _, h => by simp at h
  | _ :: _, [], h => by simp at h
  | a :: l₁, b :: l₂, h => by
      rw [List.zipWith_cons_cons, List.mem_cons] at h
      rcases h with h | h
      · cases a <;> simp_all
      · rcases mem_zipWith_orElse h with h | h
        · exact .inl (.tail _ h)
        · exact .inr (.tail _ h)

theorem isSome_of_mem_zipWith_orElse {α : Type} {v : Option α} :
    ∀ {l₁ l₂ : List (Option α)}, (∀ b ∈ l₂, b.isSome) →
      v ∈ List.zipWith (fun a b => a <|> b) l₁ l₂ → v.isSome
  | [], _, _, h => by simp at h
  | _ :: _, [], _, h => by simp at h
  | a :: l₁, b :: l₂, hb, h => by
      rw [List.zipWith_cons_cons, List.mem_cons] at h
      rcases h with rfl | h
      · exact isSome_orElse a (hb b (.head _))
      · exact isSome_of_mem_zipWith_orElse (fun b' h' => hb b' (.tail _ h')) h

/-- A field over a complete base is set. -/
theorem complete_orElse (rules : TrafficRules) {base : TrafficRules} (hb : base.Complete) :
    (rules.orElse base).Complete where
  limits _ hv := isSome_of_mem_zipWith_orElse hb.limits (limitValues_orElse rules base ▸ hv)
  closeAfterExhausted := isSome_orElse _ hb.closeAfterExhausted
  unthrottleFirstTunnelOnly := isSome_orElse _ hb.unthrottleFirstTunnelOnly
  allowTCPPorts := isSome_orElse _ hb.allowTCPPorts
  allowUDPPorts := isSome_orElse _ hb.allowUDPPorts
  allowSubnets := isSome_orElse _ hb.allowSubnets

theorem nonneg_orElse {rules base : TrafficRules}
    (hr : ∀ v, some v ∈ rules.limitValues → 0 ≤ v) (hb : ∀ v, some v ∈ base.limitValues → 0 ≤ v) :
    ∀ v, some v ∈ (rules.orElse base).limitValues → 0 ≤ v := fun v hv => by
  rw [limitValues_orElse] at hv
  exact (mem_zipWith_orElse hv).elim (hr v) (hb v)

theorem complete_builtinTrafficRules : builtinTrafficRules.Complete where
  limits _ hv := by
    simp only [builtinTrafficRules, TrafficRules.limitValues, List.mem_cons, List.not_mem_nil,
      or_false] at hv
    rcases hv with rfl | rfl | rfl | rfl | rfl | rfl | rfl | rfl | rfl | rfl <;> rfl
  closeAfterExhausted := rfl
  unthrottleFirstTunnelOnly := rfl
  allowTCPPorts := rfl
  allowUDPPorts := rfl
  allowSubnets := rfl

theorem nonneg_builtinTrafficRules :
    ∀ v, some v ∈ builtinTrafficRules.limitValues → 0 ≤ v := fun v hv => by
  simp only [builtinTrafficRules, TrafficRules.limitValues, List.mem_cons, List.not_mem_nil,
    or_false, Option.some.injEq] at hv
  unfold defaultDialTCPPortForwardTimeoutMilliseconds defaultIdleTCPPortForwardTimeoutMilliseconds
    defaultIdleUDPPortForwardTimeoutMilliseconds defaultMaxTCPDialingPortForwardCount
    defaultMaxTCPPortForwardCount defaultMaxUDPPortForwardCount at hv
  omega

/-- The rules the last step of `GetTrafficRules` lays over the result for a
    tunnel that is not the first of its session. -/
def zeroUnthrottledBytes : TrafficRules :=
  { rateLimits := { readUnthrottledBytes := some 0, writeUnthrottledBytes := some 0 } }

theorem nonneg_zeroUnthrottledBytes :
    ∀ v, some v ∈ zeroUnthrottledBytes.limitValues → 0 ≤ v := fun v hv => by
  simp only [zeroUnthrottledBytes, TrafficRules.limitValues, List.mem_cons, List.not_mem_nil,
    Option.some.injEq, reduceCtorEq, or_false, false_or, or_self] at hv
  omega

section GetTrafficRulesSpec

variable {Params : Type} (getStringRequestParam : Params → String → Except String String)
  (wildcardMatch : String → String → Bool)
  (baseRequestParams : List RequestParamSpec) (parseCIDR : String → Except String Unit)

/-- **GET TRAFFIC RULES**: the rules are the zeroing step over `merged`, the
    first matching entry's rules over the filled defaults. -/
theorem getTrafficRules_of_find? (set : TrafficRulesSet) (isFirstTunnelInSession : Bool)
    (tunnelProtocol : String) (geoIPData : GeoIPData) (state : HandshakeState Params)
    {merged : TrafficRules}
    (h : (match set.filteredRules.find? fun r =>
        matchesFilter getStringRequestParam wildcardMatch r.filter tunnelProtocol geoIPData state with
      | some r => r.rules.orElse (set.defaultRules.orElse builtinTrafficRules)
      | none => set.defaultRules.orElse builtinTrafficRules) = merged) :
    getTrafficRules getStringRequestParam wildcardMatch set isFirstTunnelInSession tunnelProtocol
        geoIPData state =
      if merged.rateLimits.unthrottleFirstTunnelOnly = some true ∧
          isFirstTunnelInSession = false then
        zeroUnthrottledBytes.orElse merged
      else merged := by
  subst h
  rfl

/-- The first-match reading of `GetTrafficRules` from a valid set: `first`,
    the rules of the first entry whose filter matches (none when no filter
    matches), over the filled defaults, with every field set and no negative
    limit, then the zeroing step. -/
theorem exists_first_getTrafficRules {set : TrafficRulesSet}
    (hv : set.Valid baseRequestParams parseCIDR) (isFirstTunnelInSession : Bool)
    (tunnelProtocol : String) (geoIPData : GeoIPData) (state : HandshakeState Params) :
    let isMatch := fun r : FilteredRule =>
      matchesFilter getStringRequestParam wildcardMatch r.filter tunnelProtocol geoIPData state
    let rules := getTrafficRules getStringRequestParam wildcardMatch set isFirstTunnelInSession
      tunnelProtocol geoIPData state
    ∃ first : Option TrafficRules,
      ((first = none ∧ ∀ r ∈ set.filteredRules, isMatch r = false) ∨
        ∃ pre r post, set.filteredRules = pre ++ r :: post ∧ (∀ r' ∈ pre, isMatch r' = false) ∧
          isMatch r = true ∧ first = some r.rules ∧
          ∀ post', getTrafficRules getStringRequestParam wildcardMatch
            { set with filteredRules := pre ++ r :: post' } isFirstTunnelInSession tunnelProtocol
            geoIPData state = rules) ∧
      let merged := (first.getD {}).orElse (set.defaultRules.orElse builtinTrafficRules)
      merged.Complete ∧ (∀ v, some v ∈ merged.limitValues → 0 ≤ v) ∧
      rules = if merged.rateLimits.unthrottleFirstTunnelOnly = some true ∧
          isFirstTunnelInSession = false then zeroUnthrottledBytes.orElse merged else merged := by
  intro isMatch rules
  have hdc := complete_orElse set.defaultRules complete_builtinTrafficRules
  have hdn := nonneg_orElse (hv.rules _ (List.mem_cons_self _ _)).nonneg nonneg_builtinTrafficRules
  cases hf : set.filteredRules.find? isMatch with
  | none =>
      refine ⟨none, .inl ⟨rfl, fun r hr => by simpa using List.find?_eq_none.mp hf r hr⟩,
        complete_orElse _ hdc, nonneg_orElse (fun v h => nomatch h) hdn,
        getTrafficRules_of_find? _ _ _ _ _ _ _ (by rw [hf]; rfl)⟩
  | some r =>
      obtain ⟨hr, pre, post, hsplit, hpre⟩ := List.find?_eq_some.mp hf
      have hpre' : ∀ r' ∈ pre, isMatch r' = false := fun r' h => by simpa using hpre r' h
      have hmem : r.rules ∈ set.allRules := List.mem_cons_of_mem _
        (List.mem_map_of_mem _ (hsplit ▸ List.mem_append_right _ (List.mem_cons_self _ _)))
      refine ⟨some r.rules, .inr ⟨pre, r, post, hsplit, hpre', hr, rfl, fun post' => ?_⟩,
        complete_orElse _ hdc, nonneg_orElse (hv.rules _ hmem).nonneg hdn,
        getTrafficRules_of_find? _ _ _ _ _ _ _ (by rw [hf]; rfl)⟩
      have hf' : (pre ++ r :: post').find? isMatch = some r := by
        rw [List.find?_append, List.find?_eq_none.mpr (by simpa using hpre'),
          List.find?_cons_of_pos _ hr]
        rfl
      exact (getTrafficRules_of_find? _ _ _ _ _ _ _ (by rw [hf'])).trans
        (getTrafficRules_of_find? _ _ _ _ _ _ _ (by rw [hf])).symm

/-- **NO NIL, NO NEGATIVE**: from a valid set, every field of the rules is set
    and no limit is negative. -/
theorem getTrafficRules_complete {set : TrafficRulesSet}
    (hv : set.Valid baseRequestParams parseCIDR) (isFirstTunnelInSession : Bool)
    (tunnelProtocol : String) (geoIPData : GeoIPData) (state : HandshakeState Params) :
    let rules := getTrafficRules getStringRequestParam wildcardMatch set isFirstTunnelInSession
      tunnelProtocol geoIPData state
    rules.Complete ∧ ∀ v, some v ∈ rules.limitValues → 0 ≤ v := by
  obtain ⟨first, -, hc, hn, hrules⟩ := exists_first_getTrafficRules getStringRequestParam
    wildcardMatch baseRequestParams parseCIDR hv isFirstTunnelInSession tunnelProtocol geoIPData
    state
  dsimp only at hrules ⊢
  rw [hrules]
  split
  · exact ⟨complete_orElse _ hc, nonneg_orElse nonneg_zeroUnthrottledBytes hn⟩
  · exact ⟨hc, hn⟩

/-- The live rule set, valid by its type after every run of reloads, gives
    every client rules with every field set and no negative limit. -/
theorem ValidTrafficRulesSet.getTrafficRules_complete
    (s : ValidTrafficRulesSet baseRequestParams parseCIDR) (isFirstTunnelInSession : Bool)
    (tunnelProtocol : String) (geoIPData : GeoIPData) (state : HandshakeState Params) :
    let rules := getTrafficRules getStringRequestParam wildcardMatch s.set isFirstTunnelInSession
      tunnelProtocol geoIPData state
    rules.Complete ∧ ∀ v, some v ∈ rules.limitValues → 0 ≤ v :=
  PsiphonTrafficRules.getTrafficRules_complete getStringRequestParam wildcardMatch
    baseRequestParams parseCIDR ((validate_eq_ok_iff _ _ _).mp s.valid) _ _ _ _

end GetTrafficRulesSpec

/-- `common.RateLimits`: the limits a throttled tunnel reads. -/
structure CommonRateLimits where
  readUnthrottledBytes : Int
  readBytesPerSecond : Int
  writeUnthrottledBytes : Int
  writeBytesPerSecond : Int
  closeAfterExhausted : Bool
  deriving DecidableEq, Repr

/-- `RateLimits.CommonRateLimits()`: every pointer dereferenced; a `nil` one
    panics (`none`). -/
def RateLimits.commonRateLimits (rateLimits : RateLimits) : Option CommonRateLimits := do
  let readUnthrottledBytes ← rateLimits.readUnthrottledBytes
  let readBytesPerSecond ← rateLimits.readBytesPerSecond
  let writeUnthrottledBytes ← rateLimits.writeUnthrottledBytes
  let writeBytesPerSecond ← rateLimits.writeBytesPerSecond
  let closeAfterExhausted ← rateLimits.closeAfterExhausted
  pure ⟨readUnthrottledBytes, readBytesPerSecond, writeUnthrottledBytes, writeBytesPerSecond,
    closeAfterExhausted⟩

section CommonRateLimits

variable {Params : Type} (getStringRequestParam : Params → String → Except String String)
  (wildcardMatch : String → String → Bool)
  (baseRequestParams : List RequestParamSpec) (parseCIDR : String → Except String Unit)

/-- **NO NIL DEREFERENCE**: on the rules `GetTrafficRules` gives from a valid
    set, `CommonRateLimits` does not panic, and none of the limits it hands
    the tunnel is negative. -/
theorem commonRateLimits_getTrafficRules {set : TrafficRulesSet}
    (hv : set.Valid baseRequestParams parseCIDR) (isFirstTunnelInSession : Bool)
    (tunnelProtocol : String) (geoIPData : GeoIPData) (state : HandshakeState Params) :
    ∃ limits, (getTrafficRules getStringRequestParam wildcardMatch set isFirstTunnelInSession
        tunnelProtocol geoIPData state).rateLimits.commonRateLimits = some limits ∧
      0 ≤ limits.readUnthrottledBytes ∧ 0 ≤ limits.readBytesPerSecond ∧
      0 ≤ limits.writeUnthrottledBytes ∧ 0 ≤ limits.writeBytesPerSecond := by
  obtain ⟨hc, hn⟩ := getTrafficRules_complete getStringRequestParam wildcardMatch baseRequestParams
    parseCIDR hv isFirstTunnelInSession tunnelProtocol geoIPData state
  set rules := getTrafficRules getStringRequestParam wildcardMatch set isFirstTunnelInSession
    tunnelProtocol geoIPData state
  have hlimit : ∀ v ∈ [rules.rateLimits.readUnthrottledBytes, rules.rateLimits.readBytesPerSecond,
      rules.rateLimits.writeUnthrottledBytes, rules.rateLimits.writeBytesPerSecond],
      ∃ a, v = some a ∧ 0 ≤ a := fun v hv' => by
    have hmem : v ∈ rules.limitValues := by
      simp only [List.mem_cons, List.mem_singleton, List.not_mem_nil, or_false] at hv'
      rcases hv' with rfl | rfl | rfl | rfl <;> simp [TrafficRules.limitValues]
    obtain ⟨a, rfl⟩ := Option.isSome_iff_exists.mp (hc.limits v hmem)
    exact ⟨a, rfl, hn a hmem⟩
  obtain ⟨a, ha, ha0⟩ := hlimit _ (.head _)
  obtain ⟨b, hb, hb0⟩ := hlimit _ (.tail _ (.head _))
  obtain ⟨c, hc', hc0⟩ := hlimit _ (.tail _ (.tail _ (.head _)))
  obtain ⟨d, hd, hd0⟩ := hlimit _ (.tail _ (.tail _ (.tail _ (.head _))))
  obtain ⟨e, he⟩ := Option.isSome_iff_exists.mp hc.closeAfterExhausted
  exact ⟨⟨a, b, c, d, e⟩, by simp [RateLimits.commonRateLimits, ha, hb, hc', hd, he],
    ha0, hb0, hc0, hd0⟩

/-- The single-region set of `getTrafficRules_spec_for_one_region`. -/
theorem commonRateLimits_getTrafficRules_for_one_region :
    let set : TrafficRulesSet :=
      { filteredRules := [{ filter := { regions := ["US"] },
                            rules := { rateLimits := { readBytesPerSecond := some 100 } } }] }
    set.Valid [] (fun _ => .ok ()) ∧
      ∃ limits, (getTrafficRules (fun (_ : Unit) _ => .error "missing") (fun _ _ => true) set true
          "OSSH" { country := "US" } { apiParams := () }).rateLimits.commonRateLimits = some limits ∧
        0 ≤ limits.readUnthrottledBytes ∧ 0 ≤ limits.readBytesPerSecond ∧
        0 ≤ limits.writeUnthrottledBytes ∧ 0 ≤ limits.writeBytesPerSecond := by
  intro set
  have hv : set.Valid [] (fun _ => .ok ()) := (validate_eq_ok_iff [] (fun _ => .ok ()) set).mp rfl
  exact ⟨hv, commonRateLimits_getTrafficRules (fun (_ : Unit) _ => .error "missing") (fun _ _ => true)
    [] (fun _ => .ok ()) hv true "OSSH" { country := "US" } { apiParams := () }⟩

end CommonRateLimits

end PsiphonTrafficRules
