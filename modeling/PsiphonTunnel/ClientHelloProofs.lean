import PsiphonTunnel.IteratorProofs
import PsiphonTunnel.ObfuscatorProofs
import Mathlib.Data.Rat.Defs

/-! # The randomized ClientHello — what the seed decides, and what it does not

    `parrotRandomizedNoALPN` draws everything it randomizes from a PRNG seeded
    with the connection's `clientHelloPRNGSeed`: the cipher-suite order (a
    random permutation sorted with obsolete suites last) and the suites it
    drops, the optional signature algorithms and curves, the optional
    extensions, and the order of the signature algorithms and extensions.
    `parrotRandomizedALPN` runs it and appends an ALPN extension.

    `HelloRandomized`, the ID the randomized TLS profile maps to, picks between
    the two with `prng.FlipCoin()` — the process-wide PRNG, not the seeded one.
    So one seed gives two ClientHello configurations that agree on the header,
    the cipher suites, the signature algorithms and the curves, and differ in
    the extension list: one ends with ALPN, the other has none
    (`generateClientHelloConfig_randomized_by_global_coin`).

    The `prng` package is not in the sources: the seeded PRNG is an interface
    of `Intn` and `Perm` on an abstract state (`PRNG`), and the global coin, the
    bytes of `config.rand()`, the cipher-suite tables and SHA-256 are inputs.
    `tossBiasedCoin` compares in exact rational arithmetic where the code uses
    `float32`.  The fixed parrots (Firefox, Chrome, Android, iOS, custom) draw no
    randomness and are one parameter, `fixedParrot`. -/

namespace PsiphonClientHello

open PsiphonIterator (swapAt swapAt_perm)

/-! ## ClientHello data -/

/-- The `ClientHelloID`s `generateClientHelloConfig` switches on. -/
inductive ClientHelloID where
  | golang | custom
  | firefox55 | firefox56 | firefoxAuto
  | android51Browser | android60Browser | androidAuto
  | chrome57 | chrome58 | chrome62 | chromeAuto
  | iOSSafari1131
  | randomized | randomizedALPN | randomizedNoALPN
  deriving DecidableEq, Repr

inductive HashAlgorithm where
  | sha1 | sha256 | sha384 | disabledSHA512
  deriving DecidableEq, Repr

inductive SignatureAlgorithm where
  | rsa | ecdsa
  deriving DecidableEq, Repr

structure SignatureAndHash where
  hash : HashAlgorithm
  signature : SignatureAlgorithm
  deriving DecidableEq, Repr

inductive CurveID where
  | x25519 | p256 | p384 | p521
  deriving DecidableEq, Repr

inductive PointFormat where
  | uncompressed
  deriving DecidableEq, Repr

/-- A resumable session; only its ticket is read here. -/
structure ClientSessionState where
  sessionTicket : List UInt8
  deriving DecidableEq, Repr

/-- The extensions the randomized parrots use, with the data each carries. -/
inductive TLSExtension where
  | sni (serverName : String)
  | sessionTicket (session : Option ClientSessionState)
  | signatureAlgorithms (signatureAndHashes : List SignatureAndHash)
  | supportedPoints (supportedPoints : List PointFormat)
  | supportedCurves (curves : List CurveID)
  | utlsPadding
  | statusRequest
  | sct
  | renegotiationInfo
  | alpn (alpnProtocols : List String)
  deriving DecidableEq, Repr

/-- The ClientHello header fields the parrots set. -/
structure ClientHelloMsg where
  vers : Nat := 0
  random : List UInt8 := []
  sessionId : List UInt8 := []
  cipherSuites : List UInt16 := []
  compressionMethods : List UInt8 := []
  deriving DecidableEq, Repr

/-- `UConn`, with the two fields of its `config` the parrots read. -/
structure UConn where
  clientHelloID : ClientHelloID
  clientHelloPRNGSeed : Option (List UInt8)
  hello : ClientHelloMsg
  session : Option ClientSessionState
  extensions : List TLSExtension
  serverName : String
  nextProtos : List String
  deriving DecidableEq, Repr

/-- A cipher suite of the library's table: its ID and whether it is a TLS 1.2 suite. -/
structure CipherSuite where
  id : UInt16
  suiteTLS12 : Bool
  deriving DecidableEq, Repr

def versionTLS12 : Nat := 0x0303
def compressionNone : UInt8 := 0

/-- The seeded `prng.PRNG`: `Intn` and `Perm` on its state. -/
structure PRNG (σ : Type) where
  intn : σ → Nat → Nat × σ
  perm : σ → Nat → List Nat × σ

/-! ## The randomizing steps -/

section Steps

variable {σ : Type} (prng : PRNG σ)

/-- `tossBiasedCoin(PRNG, probability)`: a draw below `0xffff` at most
    `0xffff * probability`. -/
def tossBiasedCoin (st : σ) (probability : ℚ) : Bool × σ :=
  let precision : Nat := 0xffff
  let threshold : ℚ := precision * probability
  let (value, st) := prng.intn st precision
  (decide ((value : ℚ) ≤ threshold), st)

/-- `if tossBiasedCoin(PRNG, p) { s = append(s, x) }` for each `(p, x)` in
    turn, as the parrot writes them one after another. -/
def appendOnCoins {α : Type} (st : σ) (s : List α) : List (ℚ × α) → List α × σ
  | [] => (s, st)
  | (p, x) :: rest =>
      let (coin, st) := tossBiasedCoin prng st p
      appendOnCoins st (if coin then s ++ [x] else s) rest

/-- Only the listed items can be added. -/
theorem mem_appendOnCoins {α : Type} {y : α} :
    ∀ (st : σ) (s : List α) (xs : List (ℚ × α)), y ∈ (appendOnCoins prng st s xs).1 →
      y ∈ s ∨ y ∈ xs.map Prod.snd
  | _, _, [], h => .inl h
  | st, s, (p, x) :: rest, h => by
      rcases hc : tossBiasedCoin prng st p with ⟨coin, st'⟩
      simp only [appendOnCoins, hc] at h
      rcases mem_appendOnCoins st' _ rest h with h | h
      · split at h
        · rcases List.mem_append.mp h with h | h
          · exact .inl h
          · exact .inr (by simp_all)
        · exact .inl h
      · exact .inr (List.mem_cons_of_mem _ h)

/-- The loop of `removeRandomCiphers` from index `i`: toss for slot `i` with
    probability `maxRemovalProbability * i / floatLen`; on a hit remove the slot
    and toss for the same index again. -/
def removeCiphersFrom (floatLen : Nat) (maxRemovalProbability : ℚ) (st : σ) (s : List UInt16)
    (i : Nat) : List UInt16 × σ :=
  if i < s.length then
    let (remove, st) := tossBiasedCoin prng st (maxRemovalProbability * i / floatLen)
    if remove then removeCiphersFrom floatLen maxRemovalProbability st (s.eraseIdx i) i
    else removeCiphersFrom floatLen maxRemovalProbability st s (i + 1)
  else (s, st)
termination_by s.length - i
decreasing_by
  all_goals simp_wf
  · rw [List.length_eraseIdx_of_lt ‹_›]; omega
  · omega

/-- `removeRandomCiphers(PRNG, s, maxRemovalProbability)`: never the first suite. -/
def removeRandomCiphers (st : σ) (s : List UInt16) (maxRemovalProbability : ℚ) :
    List UInt16 × σ :=
  if s.length ≤ 1 then (s, st)
  else removeCiphersFrom prng s.length maxRemovalProbability st s 1

/-- `sortableCipher`. -/
structure SortableCipher where
  isObsolete : Bool
  randomTag : Nat
  suite : UInt16

/-- `sortableCiphers.Less`: TLS 1.2 suites first, then by random tag. -/
def sortableLess (a b : SortableCipher) : Bool :=
  if a.isObsolete && !b.isObsolete then false
  else if b.isObsolete && !a.isObsolete then true
  else decide (a.randomTag < b.randomTag)

/-- `shuffledCiphers(PRNG)`: tag every suite with a slot of a random
    permutation and sort; the tags are distinct, so every sort gives this list. -/
def shuffledCiphers (cipherSuites : List CipherSuite) (st : σ) : List UInt16 × σ :=
  let (perm, st) := prng.perm st cipherSuites.length
  let ciphers := cipherSuites.enum.map fun (i, suite) =>
    { suite := suite.id, isObsolete := !suite.suiteTLS12, randomTag := perm.getD i 0 : SortableCipher }
  ((ciphers.mergeSort fun a b => !sortableLess b a).map SortableCipher.suite, st)

/-- The in-place shuffle both `shuffleTLSExtensions` and `shuffleSignatures`
    are: `s[i], s[perm[i]] = s[perm[i]], s[i]` for each `i`. -/
def shuffleWithPerm {α : Type} (st : σ) (s : List α) : List α × σ :=
  let (perm, st) := prng.perm st s.length
  ((List.range s.length).foldl (fun s i => swapAt s i (perm.getD i 0)) s, st)

/-- `shuffleTLSExtensions(PRNG, s)`. -/
def shuffleTLSExtensions (st : σ) (s : List TLSExtension) : List TLSExtension × σ :=
  shuffleWithPerm prng st s

/-- `shuffleSignatures(PRNG, s)`. -/
def shuffleSignatures (st : σ) (s : List SignatureAndHash) : List SignatureAndHash × σ :=
  shuffleWithPerm prng st s

theorem foldl_swapAt_perm {α : Type} [DecidableEq α] (f : Nat → Nat) :
    ∀ (is : List Nat) (s : List α), (is.foldl (fun s i => swapAt s i (f i)) s).Perm s
  | [], _ => .refl _
  | i :: is, s => (foldl_swapAt_perm f is _).trans (swapAt_perm s i (f i))

/-- **SHUFFLE PERMUTES**: whatever the PRNG draws. -/
theorem shuffleWithPerm_perm {α : Type} [DecidableEq α] (st : σ) (s : List α) :
    (shuffleWithPerm prng st s).1.Perm s :=
  foldl_swapAt_perm _ _ s

end Steps

/-! ## The shuffle as a map from permutations

    A uniformly drawn permutation gives a uniformly random order only if the
    map from `Perm`'s result to the shuffled list is a bijection.  It is not:
    the loop swaps slot `i` with slot `perm[i]` in place, so the transposition
    of slots 0 and 1 is undone at slot 1, and that permutation and the identity
    both leave every list as it is. -/

/-- A PRNG whose `Perm` returns `p`: a shuffle "using `p`". -/
def permPRNG (p : List Nat) : PRNG Unit := ⟨fun _ _ => (0, ()), fun _ _ => (p, ())⟩

theorem foldl_swapAt_of_fixed {α : Type} (f : Nat → Nat) :
    ∀ (is : List Nat) (s : List α), (∀ i ∈ is, f i = i) →
      is.foldl (fun s i => swapAt s i (f i)) s = s
  | [], _, _ => rfl
  | i :: is, s, h => by
      rw [List.foldl_cons, h i (.head _), PsiphonIterator.swapAt_self]
      exact foldl_swapAt_of_fixed f is s fun k hk => h k (.tail _ hk)

/-- The identity permutation leaves the list as it is. -/
theorem shuffleWithPerm_range {α : Type} (s : List α) :
    (shuffleWithPerm (permPRNG (List.range s.length)) () s).1 = s :=
  foldl_swapAt_of_fixed _ _ s fun i hi => by
    simp [List.getD_eq_getElem?_getD, List.getElem?_range, List.mem_range.mp hi]

/-- So does the transposition of slots 0 and 1: slot 1 swaps back what slot 0
    swapped. -/
theorem shuffleWithPerm_swap01 {α : Type} (s : List α) (hs : 2 ≤ s.length) :
    (shuffleWithPerm (permPRNG (1 :: 0 :: List.range' 2 (s.length - 2))) () s).1 = s := by
  obtain ⟨k, hk⟩ : ∃ k, s.length = k + 2 := ⟨s.length - 2, by omega⟩
  simp only [shuffleWithPerm, permPRNG, hk, Nat.add_sub_cancel, List.range_eq_range',
    List.range'_succ, List.foldl_cons, List.getD_cons_zero, List.getD_cons_succ,
    PsiphonIterator.swapAt_swapAt]
  refine foldl_swapAt_of_fixed _ _ s fun i hi => ?_
  obtain ⟨h2, hlt⟩ := List.mem_range'_1.mp hi
  obtain ⟨m, rfl⟩ : ∃ m, i = m + 2 := ⟨i - 2, by omega⟩
  simp [List.getD_eq_getElem?_getD, List.getElem?_range', show m < k by omega]
  omega

/-- For every `n ≥ 2`, the transposition of slots 0 and 1 is a permutation of
    `0, …, n - 1` other than the identity, and `shuffleTLSExtensions` and
    `shuffleSignatures` using either leave every list of `n` elements as it is. -/
theorem shuffles_by_identity_and_first_transposition_agree {n : Nat} (hn : 2 ≤ n) :
    (1 :: 0 :: List.range' 2 (n - 2)).Perm (List.range n) ∧
      List.range n ≠ 1 :: 0 :: List.range' 2 (n - 2) ∧
      (∀ s : List TLSExtension, s.length = n →
        (shuffleTLSExtensions (permPRNG (List.range n)) () s).1 = s ∧
        (shuffleTLSExtensions (permPRNG (1 :: 0 :: List.range' 2 (n - 2))) () s).1 = s) ∧
      ∀ s : List SignatureAndHash, s.length = n →
        (shuffleSignatures (permPRNG (List.range n)) () s).1 = s ∧
        (shuffleSignatures (permPRNG (1 :: 0 :: List.range' 2 (n - 2))) () s).1 = s := by
  obtain ⟨k, rfl⟩ : ∃ k, n = k + 2 := ⟨n - 2, by omega⟩
  have hrange : List.range (k + 2) = 0 :: 1 :: List.range' 2 k := by
    simp only [List.range_eq_range', List.range'_succ]
  refine ⟨hrange ▸ .swap _ _ _, by simp [hrange], fun s hs => ?_, fun s hs => ?_⟩ <;>
    · rw [← hs]
      exact ⟨shuffleWithPerm_range s, shuffleWithPerm_swap01 s (by omega)⟩

/-- Two extensions, and two signature pairs. -/
theorem shuffles_by_identity_and_first_transposition_agree_on_pairs :
    2 ≤ 2 ∧
      (1 :: 0 :: List.range' 2 (2 - 2)).Perm (List.range 2) ∧
      List.range 2 ≠ 1 :: 0 :: List.range' 2 (2 - 2) ∧
      (∀ s : List TLSExtension, s.length = 2 →
        (shuffleTLSExtensions (permPRNG (List.range 2)) () s).1 = s ∧
        (shuffleTLSExtensions (permPRNG (1 :: 0 :: List.range' 2 (2 - 2))) () s).1 = s) ∧
      ∀ s : List SignatureAndHash, s.length = 2 →
        (shuffleSignatures (permPRNG (List.range 2)) () s).1 = s ∧
        (shuffleSignatures (permPRNG (1 :: 0 :: List.range' 2 (2 - 2))) () s).1 = s :=
  ⟨le_refl 2, shuffles_by_identity_and_first_transposition_agree (le_refl 2)⟩

/-! ## The cipher-suite list

    `shuffledCiphers` sorts the suites by (obsolete, random tag), TLS 1.2
    suites first; `removeRandomCiphers` drops suites, never the first, and
    keeps the order of the rest.  So the installed list keeps the first
    shuffled suite and every TLS 1.2 suite ahead of every obsolete one; with
    distinct tags, every sort by `Less` gives the same list. -/

/-- `ciphers` of `shuffledCiphers`: each suite tagged with its slot of `perm`. -/
def sortableCiphers (cipherSuites : List CipherSuite) (perm : List Nat) : List SortableCipher :=
  cipherSuites.enum.map fun (i, suite) =>
    { suite := suite.id, isObsolete := !suite.suiteTLS12, randomTag := perm.getD i 0 }

/-- Whether `id` names a suite of the table with the `suiteTLS12` flag. -/
def isTLS12Suite (cipherSuites : List CipherSuite) (id : UInt16) : Bool :=
  cipherSuites.any fun c => decide (c.id = id) && c.suiteTLS12

/-- `PRNG.Perm(n)` keeps its contract: a permutation of `0, …, n - 1`. -/
def PermContract {σ : Type} (prng : PRNG σ) : Prop :=
  ∀ st n, (prng.perm st n).1.Perm (List.range n)

/-- The same PRNG, counting its `Intn` draws. -/
def PRNG.counting {σ : Type} (prng : PRNG σ) : PRNG (σ × Nat) :=
  ⟨fun st n => ((prng.intn st.1 n).1, ((prng.intn st.1 n).2, st.2 + 1)),
    fun st n => ((prng.perm st.1 n).1, ((prng.perm st.1 n).2, st.2))⟩

/-- Two permutations of one list, both ordered by a relation that is
    antisymmetric on their elements, are equal. -/
theorem eq_of_perm_of_pairwise {α : Type} {r : α → α → Prop} :
    ∀ {l₁ l₂ : List α}, l₁.Perm l₂ → l₁.Pairwise r → l₂.Pairwise r →
      (∀ a ∈ l₁, ∀ b ∈ l₁, r a b → r b a → a = b) → l₁ = l₂
  | [], _, hp, _, _, _ => hp.nil_eq
  | _ :: _, [], hp, _, _, _ => absurd hp.length_eq (by simp)
  | a :: l₁, b :: l₂, hp, h₁, h₂, hanti => by
      have hab : a = b := by
        by_contra hne
        have ha : a ∈ l₂ := (List.mem_cons.mp (hp.subset (.head _))).resolve_left hne
        have hb : b ∈ l₁ := (List.mem_cons.mp (hp.symm.subset (.head _))).resolve_left (Ne.symm hne)
        exact hne (hanti a (.head _) b (.tail _ hb) (List.rel_of_pairwise_cons h₁ hb)
          (List.rel_of_pairwise_cons h₂ ha))
      subst hab
      rw [eq_of_perm_of_pairwise hp.cons_inv h₁.of_cons h₂.of_cons
        fun x hx y hy => hanti x (.tail _ hx) y (.tail _ hy)]

/-- "Not `Less(b, a)`", the order a sort leaves the suites in, compares
    (obsolete, tag) lexicographically: it is transitive and total. -/
theorem not_sortableLess_trans (a b c : SortableCipher) :
    (!sortableLess b a) = true → (!sortableLess c b) = true → (!sortableLess c a) = true := by
  obtain ⟨oa, ta, _⟩ := a; obtain ⟨ob, tb, _⟩ := b; obtain ⟨oc, tc, _⟩ := c
  cases oa <;> cases ob <;> cases oc <;> simp [sortableLess] <;> omega

theorem not_sortableLess_total (a b : SortableCipher) :
    ((!sortableLess b a) || (!sortableLess a b)) = true := by
  obtain ⟨oa, ta, _⟩ := a; obtain ⟨ob, tb, _⟩ := b
  cases oa <;> cases ob <;> simp [sortableLess] <;> omega

section Ciphers

variable {σ : Type} (prng : PRNG σ) (cipherSuites : List CipherSuite)

theorem shuffledCiphers_eq (st : σ) :
    shuffledCiphers prng cipherSuites st =
      (((sortableCiphers cipherSuites (prng.perm st cipherSuites.length).1).mergeSort
        fun a b => !sortableLess b a).map SortableCipher.suite,
        (prng.perm st cipherSuites.length).2) := rfl

omit prng in
theorem map_suite_sortableCiphers (perm : List Nat) :
    (sortableCiphers cipherSuites perm).map SortableCipher.suite =
      cipherSuites.map CipherSuite.id := by
  conv_rhs => rw [← List.enum_map_snd cipherSuites, List.map_map]
  simp only [sortableCiphers, List.map_map]
  rfl

omit prng in
/-- A tagged suite is TLS 1.2 exactly when the table says so of its ID. -/
theorem isTLS12Suite_of_mem (hids : (cipherSuites.map CipherSuite.id).Nodup) {perm : List Nat}
    {t : SortableCipher} (ht : t ∈ sortableCiphers cipherSuites perm) :
    isTLS12Suite cipherSuites t.suite = !t.isObsolete := by
  obtain ⟨⟨i, c⟩, hp, rfl⟩ := List.mem_map.mp ht
  have hc : c ∈ cipherSuites := List.enum_map_snd cipherSuites ▸ List.mem_map_of_mem Prod.snd hp
  simp only [isTLS12Suite, Bool.not_not]
  cases hflag : c.suiteTLS12
  · refine List.any_eq_false.mpr fun c' hc' h => ?_
    simp only [Bool.and_eq_true, decide_eq_true_eq] at h
    rw [List.inj_on_of_nodup_map hids hc' hc h.1, hflag] at h
    exact Bool.false_ne_true h.2
  · exact List.any_eq_true.mpr ⟨c, hc, by simp [hflag]⟩

omit prng in
/-- With `Perm`'s contract the tags are distinct, so a tagged suite is fixed by
    its tag. -/
theorem eq_of_randomTag_eq {perm : List Nat} (hperm : perm.Perm (List.range cipherSuites.length))
    {a b : SortableCipher} (ha : a ∈ sortableCiphers cipherSuites perm)
    (hb : b ∈ sortableCiphers cipherSuites perm) (h : a.randomTag = b.randomTag) : a = b := by
  have hlen : perm.length = cipherSuites.length := by simpa using hperm.length_eq
  obtain ⟨⟨i, c⟩, hi, rfl⟩ := List.mem_map.mp ha
  obtain ⟨⟨j, d⟩, hj, rfl⟩ := List.mem_map.mp hb
  obtain ⟨hi, hc⟩ := List.mem_enum hi
  obtain ⟨hj, hd⟩ := List.mem_enum hj
  have hij : i = j := by
    dsimp only at h
    simp only [List.getD_eq_getElem?_getD, List.getElem?_eq_getElem (hlen ▸ hi),
      List.getElem?_eq_getElem (hlen ▸ hj), Option.getD_some] at h
    exact (hperm.nodup_iff.mpr (List.nodup_range _)).getElem_inj_iff.mp h
  subst hij
  obtain rfl : c = d := hc.trans hd.symm
  rfl

/-- **SHUFFLED SUITES**: the shuffled list is a permutation of the table's IDs
    with every TLS 1.2 suite ahead of every obsolete one. -/
theorem shuffledCiphers_spec (hids : (cipherSuites.map CipherSuite.id).Nodup) (st : σ) :
    (shuffledCiphers prng cipherSuites st).1.Perm (cipherSuites.map CipherSuite.id) ∧
      (shuffledCiphers prng cipherSuites st).1.Pairwise fun a b =>
        isTLS12Suite cipherSuites b = true → isTLS12Suite cipherSuites a = true := by
  have hperm := List.mergeSort_perm
    (sortableCiphers cipherSuites (prng.perm st cipherSuites.length).1) fun a b => !sortableLess b a
  rw [shuffledCiphers_eq, List.pairwise_map]
  refine ⟨(hperm.map _).trans (.of_eq (map_suite_sortableCiphers _ _)), ?_⟩
  refine (List.sorted_mergeSort not_sortableLess_trans not_sortableLess_total _).imp_of_mem ?_
  intro a b ha hb hab
  rw [isTLS12Suite_of_mem _ hids (hperm.subset ha), isTLS12Suite_of_mem _ hids (hperm.subset hb)]
  obtain ⟨oa, ta, _⟩ := a; obtain ⟨ob, tb, _⟩ := b
  cases oa <;> cases ob <;> simp_all [sortableLess]

/-- **ANY SORT**: with `Perm`'s contract, every permutation of the tagged
    suites ordered by `Less` (`!Less(l[j], l[i])` for `i < j`, the order any
    `sort.Sort` leaves) lists the suites as `shuffledCiphers` does. -/
theorem shuffledCiphers_of_sorted (hperm : PermContract prng) (st : σ) {l : List SortableCipher}
    (hl : l.Perm (sortableCiphers cipherSuites (prng.perm st cipherSuites.length).1))
    (hsorted : l.Pairwise fun a b => sortableLess b a = false) :
    l.map SortableCipher.suite = (shuffledCiphers prng cipherSuites st).1 := by
  have hms := List.mergeSort_perm
    (sortableCiphers cipherSuites (prng.perm st cipherSuites.length).1) fun a b => !sortableLess b a
  have hsorted' := List.sorted_mergeSort not_sortableLess_trans not_sortableLess_total
    (sortableCiphers cipherSuites (prng.perm st cipherSuites.length).1)
  rw [shuffledCiphers_eq, eq_of_perm_of_pairwise (hl.trans hms.symm) hsorted
    (hsorted'.imp fun h => by simpa using h)]
  intro a ha b hb hab hba
  have ha := hl.subset ha
  have hb := hl.subset hb
  refine eq_of_randomTag_eq cipherSuites (hperm st _) ha hb ?_
  obtain ⟨oa, ta, _⟩ := a; obtain ⟨ob, tb, _⟩ := b
  cases oa <;> cases ob <;> simp_all [sortableLess] <;> omega

end Ciphers

section Removal

variable {σ : Type} (prng : PRNG σ)

theorem tossBiasedCoin_counting (st : σ) (k : Nat) (probability : ℚ) :
    tossBiasedCoin prng.counting (st, k) probability =
      ((tossBiasedCoin prng st probability).1, ((tossBiasedCoin prng st probability).2, k + 1)) :=
  rfl

/-- The removal loop keeps the first `i` suites and the order of the others. -/
theorem removeCiphersFrom_sublist (floatLen : Nat) (p : ℚ) (st : σ) (s : List UInt16) (i : Nat) :
    (removeCiphersFrom prng floatLen p st s i).1.Sublist s ∧
      (removeCiphersFrom prng floatLen p st s i).1.take i = s.take i := by
  rw [removeCiphersFrom]
  split
  · rename_i hi
    rcases tossBiasedCoin prng st (p * i / floatLen) with ⟨_ | _, st'⟩
    · obtain ⟨h1, h2⟩ := removeCiphersFrom_sublist floatLen p st' s (i + 1)
      refine ⟨h1, ?_⟩
      simpa [List.take_take] using congrArg (List.take i) h2
    · obtain ⟨h1, h2⟩ := removeCiphersFrom_sublist floatLen p st' (s.eraseIdx i) i
      refine ⟨h1.trans (List.eraseIdx_sublist _ _), h2.trans ?_⟩
      rw [List.eraseIdx_eq_take_drop_succ, List.take_left' (List.length_take_of_le hi.le)]
  · exact ⟨.refl _, rfl⟩
termination_by s.length - i
decreasing_by
  all_goals simp_wf
  · omega
  · rw [List.length_eraseIdx_of_lt ‹_›]; omega

/-- **TERMINATION**: counting the coins, the loop from `i` tosses at most
    `2 (len(s) - i)` of them, each one removing a suite or moving on, and
    computes what it computes uncounted. -/
theorem removeCiphersFrom_counting (floatLen : Nat) (p : ℚ) (st : σ) (k : Nat) (s : List UInt16)
    (i : Nat) :
    (removeCiphersFrom prng.counting floatLen p (st, k) s i).1 =
        (removeCiphersFrom prng floatLen p st s i).1 ∧
      (removeCiphersFrom prng.counting floatLen p (st, k) s i).2.2 ≤ k + 2 * (s.length - i) := by
  rw [removeCiphersFrom, removeCiphersFrom]
  split
  · rename_i hi
    rw [tossBiasedCoin_counting]
    rcases tossBiasedCoin prng st (p * i / floatLen) with ⟨_ | _, st'⟩ <;>
      simp only [Bool.false_eq_true, ↓reduceIte]
    · obtain ⟨h1, h2⟩ := removeCiphersFrom_counting floatLen p st' (k + 1) s (i + 1)
      exact ⟨h1, by omega⟩
    · obtain ⟨h1, h2⟩ := removeCiphersFrom_counting floatLen p st' (k + 1) (s.eraseIdx i) i
      rw [List.length_eraseIdx_of_lt hi] at h2
      exact ⟨h1, by omega⟩
  · exact ⟨rfl, by simp⟩
termination_by s.length - i
decreasing_by
  all_goals simp_wf
  · omega
  · rw [List.length_eraseIdx_of_lt ‹_›]; omega

theorem removeRandomCiphers_sublist (st : σ) (s : List UInt16) (p : ℚ) :
    (removeRandomCiphers prng st s p).1.Sublist s ∧
      (removeRandomCiphers prng st s p).1.take 1 = s.take 1 := by
  unfold removeRandomCiphers
  split
  · exact ⟨.refl _, rfl⟩
  · exact removeCiphersFrom_sublist prng _ _ _ _ _

theorem removeRandomCiphers_counting (st : σ) (k : Nat) (s : List UInt16) (p : ℚ) :
    (removeRandomCiphers prng.counting (st, k) s p).1 = (removeRandomCiphers prng st s p).1 ∧
      (removeRandomCiphers prng.counting (st, k) s p).2.2 ≤ k + 2 * (s.length - 1) := by
  unfold removeRandomCiphers
  split
  · exact ⟨rfl, by simp⟩
  · exact removeCiphersFrom_counting prng _ _ _ _ _ _

end Removal

section Installed

variable {σ : Type} (prng : PRNG σ) (cipherSuites : List CipherSuite)

/-- With distinct suite IDs and a TLS 1.2 suite in the table, for every PRNG
    and state, so for every outcome of the coins: the list that
    `removeRandomCiphers` leaves of `shuffledCiphers` is non-empty,
    duplicate-free, made of table IDs, starts with the first shuffled suite,
    and has every TLS 1.2 suite ahead of every obsolete one.  With `Perm`'s
    contract, every sort of the tagged suites by `Less` gives the shuffled
    list.  The removal loop tosses at most `2 (n - 1)` coins, `n` the number
    of suites. -/
theorem removeRandomCiphers_shuffledCiphers_spec (hids : (cipherSuites.map CipherSuite.id).Nodup)
    (htls12 : ∃ c ∈ cipherSuites, c.suiteTLS12 = true) (st : σ) :
    let shuffled := shuffledCiphers prng cipherSuites st
    let installed := (removeRandomCiphers prng shuffled.2 shuffled.1 (2 / 5)).1
    installed ≠ [] ∧ installed.Nodup ∧
      (∀ id ∈ installed, id ∈ cipherSuites.map CipherSuite.id) ∧
      installed.head? = shuffled.1.head? ∧
      installed.Pairwise (fun a b =>
        isTLS12Suite cipherSuites b = true → isTLS12Suite cipherSuites a = true) ∧
      (PermContract prng → ∀ l : List SortableCipher,
        l.Perm (sortableCiphers cipherSuites (prng.perm st cipherSuites.length).1) →
        l.Pairwise (fun a b => sortableLess b a = false) →
        l.map SortableCipher.suite = shuffled.1) ∧
      ∀ k, (removeRandomCiphers prng.counting (shuffled.2, k) shuffled.1 (2 / 5)).1 = installed ∧
        (removeRandomCiphers prng.counting (shuffled.2, k) shuffled.1 (2 / 5)).2.2 ≤
          k + 2 * (cipherSuites.length - 1) := by
  intro shuffled installed
  obtain ⟨hperm, hpair⟩ := shuffledCiphers_spec prng cipherSuites hids st
  obtain ⟨hsub, htake⟩ := removeRandomCiphers_sublist prng shuffled.2 shuffled.1 (2 / 5)
  have hlen : shuffled.1.length = cipherSuites.length := by simpa using hperm.length_eq
  have hne : shuffled.1 ≠ [] := by
    obtain ⟨c, hc, -⟩ := htls12
    exact List.ne_nil_of_length_pos (hlen ▸ List.length_pos_of_mem hc)
  refine ⟨fun h => hne ?_, hsub.nodup (hperm.nodup_iff.mpr hids),
    fun id h => hperm.subset (hsub.subset h), ?_, hpair.sublist hsub,
    fun hP l hl hs => shuffledCiphers_of_sorted prng cipherSuites hP st hl hs, fun k => ?_⟩
  · have h' : (removeRandomCiphers prng shuffled.2 shuffled.1 (2 / 5)).1 = [] := h
    have : shuffled.1.take 1 = [] := by rw [← htake, h', List.take_nil]
    simpa using this
  · have := congrArg List.head? htake
    simpa [List.head?_take] using this
  · obtain ⟨h1, h2⟩ := removeRandomCiphers_counting prng shuffled.2 k shuffled.1 (2 / 5)
    exact ⟨h1, hlen ▸ h2⟩

/-- One TLS 1.2 suite and one obsolete suite, under a PRNG that draws 0 and
    the identity permutation. -/
theorem removeRandomCiphers_shuffledCiphers_spec_on_two_suites :
    let prng : PRNG Unit := ⟨fun _ _ => (0, ()), fun _ n => (List.range n, ())⟩
    let cipherSuites : List CipherSuite := [⟨0xc02f, true⟩, ⟨0x000a, false⟩]
    (cipherSuites.map CipherSuite.id).Nodup ∧ (∃ c ∈ cipherSuites, c.suiteTLS12 = true) ∧
    let shuffled := shuffledCiphers prng cipherSuites ()
    let installed := (removeRandomCiphers prng shuffled.2 shuffled.1 (2 / 5)).1
    installed ≠ [] ∧ installed.Nodup ∧
      (∀ id ∈ installed, id ∈ cipherSuites.map CipherSuite.id) ∧
      installed.head? = shuffled.1.head? ∧
      installed.Pairwise (fun a b =>
        isTLS12Suite cipherSuites b = true → isTLS12Suite cipherSuites a = true) ∧
      (PermContract prng → ∀ l : List SortableCipher,
        l.Perm (sortableCiphers cipherSuites (prng.perm () cipherSuites.length).1) →
        l.Pairwise (fun a b => sortableLess b a = false) →
        l.map SortableCipher.suite = shuffled.1) ∧
      ∀ k, (removeRandomCiphers prng.counting (shuffled.2, k) shuffled.1 (2 / 5)).1 = installed ∧
        (removeRandomCiphers prng.counting (shuffled.2, k) shuffled.1 (2 / 5)).2.2 ≤
          k + 2 * (cipherSuites.length - 1) := by
  intro prng cipherSuites
  exact ⟨by decide, ⟨_, .head _, rfl⟩,
    removeRandomCiphers_shuffledCiphers_spec prng cipherSuites (by decide) ⟨_, .head _, rfl⟩ ()⟩

end Installed

/-! ## The parrots -/

section Parrots

variable {σ : Type} (prng : PRNG σ) (newPRNGWithSeed : List UInt8 → σ)
  (cipherSuites : List CipherSuite) (defaultCipherSuites : List UInt16)
  (sha256 : List UInt8 → List UInt8)

/-- `fillClientHelloHeader()`, with `rand` the bytes `config.rand()` yields. -/
def fillClientHelloHeader (hello : ClientHelloMsg) (rand : List UInt8) :
    Except String ClientHelloMsg := do
  let vers := if hello.vers = 0 then versionTLS12 else hello.vers
  let random ← match hello.random.length with
    | 0 =>
        match PsiphonObfuscator.readFull rand 32 with
        | .ok (random, _) => pure random
        | .error err => throw ("tls: short read from Rand: " ++ err)
    | 32 => pure hello.random
    | n => throw ("ClientHello expected length: 32 bytes. Got: " ++ toString n ++ " bytes")
  let cipherSuites :=
    if hello.cipherSuites.length = 0 then defaultCipherSuites else hello.cipherSuites
  let compressionMethods :=
    if hello.compressionMethods.length = 0 then [compressionNone] else hello.compressionMethods
  return { hello with vers, random, cipherSuites, compressionMethods }

/-- The signature algorithms, curves and extensions of
    `parrotRandomizedNoALPN`, drawn after the cipher suites. -/
def randomizedExtensions (st : σ) (serverName : String) (session : Option ClientSessionState) :
    List TLSExtension :=
  let (sigAndHashAlgos, st) := appendOnCoins prng st
    [⟨.sha256, .ecdsa⟩, ⟨.sha256, .rsa⟩, ⟨.sha384, .ecdsa⟩, ⟨.sha384, .rsa⟩, ⟨.sha1, .rsa⟩]
    [(1 / 2, ⟨.disabledSHA512, .ecdsa⟩), (1 / 2, ⟨.disabledSHA512, .rsa⟩),
      (1 / 2, ⟨.sha1, .ecdsa⟩)]
  let (sigAndHashAlgos, st) := shuffleSignatures prng st sigAndHashAlgos
  let (curveIDs, st) := appendOnCoins prng st [] [(7 / 10, CurveID.x25519)]
  let (curveIDs, st) := appendOnCoins prng st (curveIDs ++ [.p256, .p384]) [(3 / 10, .p521)]
  let extensions := appendOnCoins prng st
    [.sni serverName, .sessionTicket session, .signatureAlgorithms sigAndHashAlgos,
      .supportedPoints [.uncompressed], .supportedCurves curveIDs]
    [(66 / 100, .utlsPadding), (66 / 100, .statusRequest), (55 / 100, .sct),
      (44 / 100, .renegotiationInfo)]
  (shuffleTLSExtensions prng extensions.2 extensions.1).1

omit newPRNGWithSeed cipherSuites defaultCipherSuites sha256 in
/-- **NO ALPN**: whatever the seeded PRNG draws, the no-ALPN parrot's
    extensions hold no ALPN extension. -/
theorem alpn_not_mem_randomizedExtensions (st : σ) (serverName : String)
    (session : Option ClientSessionState) (ps : List String) :
    TLSExtension.alpn ps ∉ randomizedExtensions prng st serverName session := by
  unfold randomizedExtensions
  repeat' split
  intro h
  unfold shuffleTLSExtensions at h
  rcases mem_appendOnCoins prng _ _ _ ((shuffleWithPerm_perm prng _ _).mem_iff.mp h) with h | h <;>
    simp at h

omit prng newPRNGWithSeed cipherSuites sha256 in
/-- **HEADER SPEC**: with no random bytes yet and 32 to read, the header takes
    them, and defaults the version, cipher suites and compression methods. -/
theorem fillClientHelloHeader_of_random_nil {rand : List UInt8} (hrand : 32 ≤ rand.length)
    (hello : ClientHelloMsg) (hrandom : hello.random = []) :
    fillClientHelloHeader defaultCipherSuites hello rand =
      .ok { hello with
            vers := if hello.vers = 0 then versionTLS12 else hello.vers,
            random := rand.take 32,
            cipherSuites :=
              if hello.cipherSuites.length = 0 then defaultCipherSuites else hello.cipherSuites,
            compressionMethods :=
              if hello.compressionMethods.length = 0 then [compressionNone]
              else hello.compressionMethods } := by
  simp [fillClientHelloHeader, hrandom, PsiphonObfuscator.readFull, hrand, bind, Except.bind,
    pure, Except.pure]

/-- `parrotRandomizedNoALPN()`; `rand` is what `config.rand()` yields. -/
def parrotRandomizedNoALPN (uconn : UConn) (rand : List UInt8) : Except String UConn :=
  match uconn.clientHelloPRNGSeed with
  | none => .error "missing UConn.clientHelloPRNGSeed"
  | some seed => do
      let st := newPRNGWithSeed seed
      let (shuffledSuites, st) := shuffledCiphers prng cipherSuites st
      let (cipherSuites, st) := removeRandomCiphers prng st shuffledSuites (2 / 5)
      let hello ← fillClientHelloHeader defaultCipherSuites { uconn.hello with cipherSuites } rand
      let hello :=
        match uconn.session with
        | some session =>
            if session.sessionTicket.length > 0 then
              { hello with sessionId := sha256 session.sessionTicket }
            else hello
        | none => hello
      return { uconn with hello,
                          extensions := randomizedExtensions prng st uconn.serverName uconn.session }

/-- `parrotRandomizedALPN()`: the same, then ALPN appended, with `h2` and
    `http/1.1` when the config names no protocol. -/
def parrotRandomizedALPN (uconn : UConn) (rand : List UInt8) : Except String UConn :=
  (parrotRandomizedNoALPN prng newPRNGWithSeed cipherSuites defaultCipherSuites sha256 uconn
      rand).map fun uconn =>
    let nextProtos := if uconn.nextProtos.length = 0 then ["h2", "http/1.1"] else uconn.nextProtos
    { uconn with nextProtos, extensions := uconn.extensions ++ [.alpn nextProtos] }

/-- The no-ALPN parrot never reads the connection's `clientHelloID`. -/
theorem parrotRandomizedNoALPN_clientHelloID (uconn : UConn) (id : ClientHelloID)
    (rand : List UInt8) :
    parrotRandomizedNoALPN prng newPRNGWithSeed cipherSuites defaultCipherSuites sha256
        { uconn with clientHelloID := id } rand =
      (parrotRandomizedNoALPN prng newPRNGWithSeed cipherSuites defaultCipherSuites sha256 uconn
        rand).map fun u => { u with clientHelloID := id } := by
  obtain ⟨_, _ | seed, _, _, _, _, _⟩ := uconn
  · rfl
  · simp only [parrotRandomizedNoALPN, bind, Except.bind]
    repeat' split
    all_goals rfl

/-- **NO-ALPN SPEC**: with a seed, no random bytes yet and 32 bytes to read,
    the no-ALPN parrot succeeds, keeps the connection's ID and protocols, and
    adds no ALPN extension. -/
theorem parrotRandomizedNoALPN_ok {uconn : UConn} {seed : List UInt8}
    (hseed : uconn.clientHelloPRNGSeed = some seed) (hrandom : uconn.hello.random = [])
    {rand : List UInt8} (hrand : 32 ≤ rand.length) :
    ∃ u, parrotRandomizedNoALPN prng newPRNGWithSeed cipherSuites defaultCipherSuites sha256
        uconn rand = .ok u ∧
      u.clientHelloID = uconn.clientHelloID ∧ u.nextProtos = uconn.nextProtos ∧
      ∀ ps, TLSExtension.alpn ps ∉ u.extensions := by
  unfold parrotRandomizedNoALPN
  rw [hseed]
  simp only [bind, Except.bind, fillClientHelloHeader_of_random_nil defaultCipherSuites hrand,
    hrandom]
  exact ⟨_, rfl, rfl, rfl, alpn_not_mem_randomizedExtensions prng _ _ _⟩

variable (fixedParrot : ClientHelloID → UConn → Except String UConn)

/-- `generateClientHelloConfig(id)`; `flipCoin` is `prng.FlipCoin()` on the
    global PRNG, and the aliases are resolved in place. -/
def generateClientHelloConfig (uconn : UConn) (id : ClientHelloID) (flipCoin : Bool)
    (rand : List UInt8) : Except String UConn :=
  match id with
  | .randomizedALPN =>
      parrotRandomizedALPN prng newPRNGWithSeed cipherSuites defaultCipherSuites sha256
        { uconn with clientHelloID := .randomizedALPN } rand
  | .randomizedNoALPN =>
      parrotRandomizedNoALPN prng newPRNGWithSeed cipherSuites defaultCipherSuites sha256
        { uconn with clientHelloID := .randomizedNoALPN } rand
  | .randomized =>
      if flipCoin then
        parrotRandomizedALPN prng newPRNGWithSeed cipherSuites defaultCipherSuites sha256
          { uconn with clientHelloID := .randomizedALPN } rand
      else
        parrotRandomizedNoALPN prng newPRNGWithSeed cipherSuites defaultCipherSuites sha256
          { uconn with clientHelloID := .randomizedNoALPN } rand
  | .androidAuto => fixedParrot .android60Browser { uconn with clientHelloID := .android60Browser }
  | .firefoxAuto => fixedParrot .firefox56 { uconn with clientHelloID := .firefox56 }
  | .chromeAuto => fixedParrot .chrome62 { uconn with clientHelloID := .chrome62 }
  | id => fixedParrot id { uconn with clientHelloID := id }

/-- One seed, two runs of the randomized profile that differ only in the global
    coin: the same header (random, session ID, cipher suites), the same
    signature algorithms, curves and other extensions, but one extension list
    ends with ALPN and the other has none. -/
theorem generateClientHelloConfig_randomized_by_global_coin (uconn : UConn) {seed : List UInt8}
    (hseed : uconn.clientHelloPRNGSeed = some seed) (hrandom : uconn.hello.random = [])
    {rand : List UInt8} (hrand : 32 ≤ rand.length) :
    ∃ u₁ u₂,
      generateClientHelloConfig prng newPRNGWithSeed cipherSuites defaultCipherSuites sha256
          fixedParrot uconn .randomized true rand = .ok u₁ ∧
      generateClientHelloConfig prng newPRNGWithSeed cipherSuites defaultCipherSuites sha256
          fixedParrot uconn .randomized false rand = .ok u₂ ∧
      u₁.hello = u₂.hello ∧ u₁.extensions = u₂.extensions ++ [.alpn u₁.nextProtos] ∧
      ∀ ps, TLSExtension.alpn ps ∉ u₂.extensions := by
  obtain ⟨u, hu, -, -, hnone⟩ :=
    parrotRandomizedNoALPN_ok prng newPRNGWithSeed cipherSuites defaultCipherSuites sha256 hseed
      hrandom hrand
  let nextProtos := if u.nextProtos.length = 0 then ["h2", "http/1.1"] else u.nextProtos
  refine ⟨{ u with
      clientHelloID := .randomizedALPN, nextProtos,
      extensions := u.extensions ++ [.alpn nextProtos] },
    { u with clientHelloID := .randomizedNoALPN }, ?_, ?_, rfl, rfl, hnone⟩
  · simp only [generateClientHelloConfig, if_true, parrotRandomizedALPN,
      parrotRandomizedNoALPN_clientHelloID, hu]
    rfl
  · simp only [generateClientHelloConfig, Bool.false_eq_true, if_false,
      parrotRandomizedNoALPN_clientHelloID, hu]
    rfl

omit prng newPRNGWithSeed cipherSuites defaultCipherSuites sha256 fixedParrot in
theorem generateClientHelloConfig_randomized_by_global_coin_on_empty_seed :
    let prng : PRNG Unit := ⟨fun _ _ => (0, ()), fun _ n => (List.range n, ())⟩
    let uconn : UConn :=
      { clientHelloID := .randomized, clientHelloPRNGSeed := some [], hello := {},
        session := none, extensions := [], serverName := "example.com", nextProtos := [] }
    uconn.clientHelloPRNGSeed = some [] ∧ uconn.hello.random = [] ∧
      32 ≤ (List.replicate 32 (0 : UInt8)).length ∧
      ∃ u₁ u₂,
        generateClientHelloConfig prng (fun _ => ()) [] [] id (fun _ u => .ok u) uconn .randomized
            true (List.replicate 32 0) = .ok u₁ ∧
        generateClientHelloConfig prng (fun _ => ()) [] [] id (fun _ u => .ok u) uconn .randomized
            false (List.replicate 32 0) = .ok u₂ ∧
        u₁.hello = u₂.hello ∧ u₁.extensions = u₂.extensions ++ [.alpn u₁.nextProtos] ∧
        ∀ ps, TLSExtension.alpn ps ∉ u₂.extensions :=
  ⟨rfl, rfl, by decide, generateClientHelloConfig_randomized_by_global_coin
    ⟨fun _ _ => (0, ()), fun _ n => (List.range n, ())⟩ (fun _ => ()) [] [] id (fun _ u => .ok u)
    { clientHelloID := .randomized, clientHelloPRNGSeed := some [], hello := {},
      session := none, extensions := [], serverName := "example.com", nextProtos := [] }
    rfl rfl (by decide)⟩

end Parrots

end PsiphonClientHello
