import PsiphonTunnel.BucketProofs
import Mathlib.Data.List.Perm.Basic

/-! # The psinet database — home pages, upgrades and stats regexes

    The psinet database maps sponsor IDs to sponsors and client platforms to
    their version lists.  `GetHomepages` picks the sponsor (the default one for
    an unknown ID), its mobile pages on a mobile platform when it has any, and
    the pages of the client's region, else those of region `"None"`, each with
    its first `client_region=XX` filled in.  `GetRandomizedHomepages` scatters
    them by `rand.Perm`.  `GetUpgradeClientVersion` offers the last listed
    version when it is numerically above the client's.

    Go maps are buckets (`PsiphonBucket`); `rand.Perm` and `strconv.Atoi` are
    library code: the permutation is a parameter, and `atoi` follows Atoi's
    documentation.  The headline result:

    * `getRandomizedHomepages_perm` — for every permutation `rand.Perm` can
      return, `GetRandomizedHomepages` does not panic and returns a reordering
      of `GetHomepages`. -/

namespace PsiphonPsinet

open PsiphonBucket

/-- `HomePage`. -/
structure HomePage where
  region : String
  url : String
  deriving DecidableEq, Repr

/-- `HttpsRequestRegex`. -/
structure HttpsRequestRegex where
  regex : String
  replace : String
  deriving DecidableEq, Repr

/-- `Sponsor`, with the fields the modelled functions read. -/
structure Sponsor where
  homePages : Bucket (List HomePage) := .empty
  httpsRequestRegexes : List HttpsRequestRegex := []
  mobileHomePages : Bucket (List HomePage) := .empty

/-- `ClientVersion`. -/
structure ClientVersion where
  version : String
  deriving DecidableEq, Repr

/-- `Database`, with the fields the modelled functions read; `Hosts` is in
    `PsiphonServerEntryEncoding`, and the servers are `DiscoverServers`'
    parameter in `PsiphonDiscovery`. -/
structure Database where
  sponsors : Bucket Sponsor := .empty
  versions : Bucket (List ClientVersion) := .empty
  defaultSponsorID : String := ""

/-! ## Home pages -/

/-- `strings.Replace(s, old, new, 1)`: the first occurrence of `old` replaced
    by `new` (an empty `old` matches at the start).  The patterns here are
    ASCII, whose bytes occur in UTF-8 text only as those characters, so
    replacing characters is replacing bytes. -/
def replaceFirst (old new : List Char) (s : List Char) : List Char :=
  if old.isPrefixOf s then new ++ s.drop old.length
  else
    match s with
    | [] => []
    | c :: rest => c :: replaceFirst old new rest

/-- A home page's URL with its `client_region` query parameter filled in. -/
def homePageURL (clientRegion : String) (homePage : HomePage) : String :=
  String.mk (replaceFirst "client_region=XX".toList ("client_region=" ++ clientRegion).toList
    homePage.url.toList)

/-- The sponsor `GetHomepages` serves: the one of the ID, else the default
    one, else none ("fail gracefully"). -/
def homepagesSponsor (db : Database) (sponsorID : String) : Option Sponsor :=
  match db.sponsors.get sponsorID with
  | some sponsor => some sponsor
  | none => db.sponsors.get db.defaultSponsorID

/-- `GetHomepages(sponsorID, clientRegion, isMobilePlatform)`. -/
def getHomepages (db : Database) (sponsorID clientRegion : String) (isMobilePlatform : Bool) :
    List String :=
  match homepagesSponsor db sponsorID with
  | none => []
  | some sponsor =>
      let homePages :=
        if isMobilePlatform ∧ sponsor.mobileHomePages.keys.length > 0 then sponsor.mobileHomePages
        else sponsor.homePages
      let sponsorHomePages :=
        match homePages.get clientRegion with
        | some homePagesByRegion => homePagesByRegion.map (homePageURL clientRegion)
        | none => []
      if sponsorHomePages.length = 0 then
        match homePages.get "None" with
        | some defaultHomePages => defaultHomePages.map (homePageURL clientRegion)
        | none => sponsorHomePages
      else sponsorHomePages

/-- The loop `for i, v := range perm { shuffledHomepages[v] = homepages[i] }`
    from index `i` on; an index out of range panics (`none`). -/
def scatterHomepages (homepages : List String) (i : Nat) :
    List Nat → List String → Option (List String)
  | [], shuffledHomepages => some shuffledHomepages
  | v :: perm, shuffledHomepages =>
      match homepages[i]? with
      | none => none
      | some homepage =>
          if v < shuffledHomepages.length then
            scatterHomepages homepages (i + 1) perm (shuffledHomepages.set v homepage)
          else none

/-- `GetRandomizedHomepages(sponsorID, clientRegion, isMobilePlatform)`, with
    `perm` the result of `rand.Perm(len(homepages))`. -/
def getRandomizedHomepages (db : Database) (sponsorID clientRegion : String)
    (isMobilePlatform : Bool) (perm : List Nat) : Option (List String) :=
  let homepages := getHomepages db sponsorID clientRegion isMobilePlatform
  if homepages.length > 1 then
    scatterHomepages homepages 0 perm (List.replicate homepages.length "")
  else some homepages

/-- Overwriting slot `v`, which holds `a`, with `b`, as a multiset. -/
theorem cons_set_perm {α : Type} {l : List α} {v : Nat} {a : α} (b : α) (h : l[v]? = some a) :
    (a :: l.set v b).Perm (b :: l) := by
  obtain ⟨hv, rfl⟩ := List.getElem?_eq_some_iff.mp h
  have hl : l.take v ++ l[v] :: l.drop (v + 1) = l := by
    rw [← List.drop_eq_getElem_cons hv, List.take_append_drop]
  rw [List.set_eq_take_append_cons_drop, if_pos hv]
  exact (List.perm_middle.cons _).trans ((List.Perm.swap _ _ _).trans
    ((List.perm_middle.symm.cons b).trans (.of_eq (congrArg (b :: ·) hl))))

/-- Writing `h` into a blank slot moves it from the blanks to the written part. -/
theorem cons_blank_perm (written blanks : List String) (h : String) :
    (h :: (written ++ "" :: blanks)).Perm ("" :: (written ++ [h] ++ blanks)) := by
  rw [List.append_assoc, List.singleton_append]
  exact (List.perm_middle.cons h).trans ((List.Perm.swap _ _ _).trans (List.perm_middle.symm.cons _))

/-- **SCATTER**: writing the remaining home pages into distinct slots that
    still hold `""` never panics, and ends with a reordering of the home
    pages. -/
theorem scatterHomepages_perm (homepages : List String) :
    ∀ (perm : List Nat) (i : Nat) (shuffled : List String), perm.Nodup →
      (∀ v ∈ perm, shuffled[v]? = some "") → i + perm.length = homepages.length →
      shuffled.Perm (homepages.take i ++ List.replicate perm.length "") →
      ∃ l, scatterHomepages homepages i perm shuffled = some l ∧ l.Perm homepages
  | [], i, shuffled, _, _, hlen, hperm => by
      refine ⟨shuffled, rfl, ?_⟩
      simpa [List.take_of_length_le (show homepages.length ≤ i by simp at hlen; omega)] using hperm
  | v :: perm, i, shuffled, hnodup, hslots, hlen, hperm => by
      obtain ⟨hv, hnodup⟩ := List.nodup_cons.mp hnodup
      have hi : i < homepages.length := by simp at hlen; omega
      have hslot := hslots v (.head _)
      have hvlt : v < shuffled.length := (List.getElem?_eq_some_iff.mp hslot).1
      simp only [scatterHomepages, List.getElem?_eq_getElem hi, if_pos hvlt]
      refine scatterHomepages_perm homepages perm (i + 1) _ hnodup (fun w hw => ?_)
        (by simp at hlen ⊢; omega) ?_
      · rw [List.getElem?_set_ne (fun h : v = w => hv (h ▸ hw))]
        exact hslots w (.tail _ hw)
      · -- one blank of the multiset became `homepages[i]`
        rw [List.take_succ, List.getElem?_eq_getElem hi, Option.toList_some]
        rw [List.length_cons, List.replicate_succ] at hperm
        exact List.Perm.cons_inv ((cons_set_perm homepages[i] hslot).trans
          ((hperm.cons _).trans (cons_blank_perm _ _ _)))

/-- **RANDOMIZED HOME PAGES**: for every permutation `rand.Perm` can return,
    `GetRandomizedHomepages` does not panic and returns a reordering of the
    home pages `GetHomepages` gives. -/
theorem getRandomizedHomepages_perm (db : Database) (sponsorID clientRegion : String)
    (isMobilePlatform : Bool) (perm : List Nat)
    (hperm : perm.Perm (List.range (getHomepages db sponsorID clientRegion isMobilePlatform).length)) :
    ∃ l, getRandomizedHomepages db sponsorID clientRegion isMobilePlatform perm = some l ∧
      l.Perm (getHomepages db sponsorID clientRegion isMobilePlatform) := by
  simp only [getRandomizedHomepages]
  split
  · refine scatterHomepages_perm _ perm 0 _ (hperm.nodup_iff.mpr (List.nodup_range _))
      (fun v hv => ?_) (by simp [hperm.length_eq]) (by simp [hperm.length_eq])
    rw [List.getElem?_replicate, if_pos (List.mem_range.mp (hperm.subset hv))]
  · exact ⟨_, rfl, .refl _⟩

/-- A sponsor with two home pages for Canada, one of them with the region
    placeholder. -/
def twoPageDatabase : Database where
  sponsors := Bucket.empty.put "SPONSOR"
    { homePages := Bucket.empty.put "CA"
        [⟨"CA", "https://a.example/?client_region=XX"⟩, ⟨"CA", "https://b.example/"⟩] }

/-- The swap is one of the permutations `rand.Perm(2)` returns. -/
theorem getRandomizedHomepages_perm_of_swap :
    [1, 0].Perm (List.range (getHomepages twoPageDatabase "SPONSOR" "CA" false).length) ∧
      ∃ l, getRandomizedHomepages twoPageDatabase "SPONSOR" "CA" false [1, 0] = some l ∧
        l.Perm (getHomepages twoPageDatabase "SPONSOR" "CA" false) :=
  have hperm : [1, 0].Perm (List.range (getHomepages twoPageDatabase "SPONSOR" "CA" false).length) := by
    decide
  ⟨hperm, getRandomizedHomepages_perm twoPageDatabase "SPONSOR" "CA" false [1, 0] hperm⟩

/-! ## Stats regexes and the default sponsor -/

/-- `GetHttpsRequestRegexes(sponsorID)`: the regexes of the sponsor of the ID,
    else of the default sponsor, else of the zero `Sponsor`; each one a map
    with the keys `replace` and `regex`. -/
def getHttpsRequestRegexes (db : Database) (sponsorID : String) : List (Bucket String) :=
  let sponsor : Sponsor :=
    match db.sponsors.get sponsorID with
    | some sponsor => sponsor
    | none => (db.sponsors.get db.defaultSponsorID).getD {}
  sponsor.httpsRequestRegexes.map fun sponsorRegex =>
    (Bucket.empty.put "replace" sponsorRegex.replace).put "regex" sponsorRegex.regex

/-! ## Upgrades -/

/-- The value of a non-empty string of decimal digits. -/
def decimalValue (digits : List Char) : Option Nat :=
  if digits ≠ [] ∧ digits.all Char.isDigit then
    some (digits.foldl (fun n c => 10 * n + (c.toNat - '0'.toNat)) 0)
  else none

/-- `strconv.Atoi(s)` (library code, as its documentation has it): an optional
    sign and at least one decimal digit, with the value in the 64-bit `int`
    range; anything else is an error (`none`). -/
def atoi (s : String) : Option Int :=
  let value : Option Int :=
    match s.toList with
    | '+' :: digits => (decimalValue digits).map Int.ofNat
    | '-' :: digits => (decimalValue digits).map fun n => -(n : Int)
    | digits => (decimalValue digits).map Int.ofNat
  value.bind fun n =>
    if -9223372036854775808 ≤ n ∧ n ≤ 9223372036854775807 then some n else none

/-- `GetUpgradeClientVersion(clientVersion, clientPlatform)`: the last listed
    version of the platform when it is numerically above the client's, else
    the empty string. -/
def getUpgradeClientVersion (db : Database) (clientVersion clientPlatform : String) : String :=
  match db.versions.get clientPlatform with
  | none => ""
  | some clientVersions =>
      match clientVersions.getLast? with
      | none => ""
      | some last =>
          match atoi last.version with
          | none => ""
          | some lastVersionInt =>
              match atoi clientVersion with
              | none => ""
              | some clientVersionInt =>
                  if lastVersionInt > clientVersionInt then last.version else ""

end PsiphonPsinet
