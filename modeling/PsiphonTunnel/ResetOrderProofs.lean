import PsiphonTunnel.IteratorProofs
import Mathlib.Algebra.BigOperators.Group.Finset
import Mathlib.Data.Nat.Choose.Basic

/-! # How often `reset` builds each order — the shuffle and the replay partition

    `reset` draws one `prng.Intn` per slot of its shuffle, from the last slot
    down to `shuffleHead`, and a CHOICE VECTOR is one such sequence of draws,
    each already in its range (`choiceVectors`, all `(n - h)!` of them, each
    once).  Counting over choice vectors is counting over equally likely runs
    when `prng.Intn` is uniform.

    The shuffle is a bijection: every arrangement of the slots from
    `shuffleHead` on comes from exactly one choice vector
    (`count_shuffleFrom_eq_one`).  The slot just swapped into is never touched
    again, so the first draw is the one that puts the arrangement's last
    element there, and the rest is the same question one slot shorter.

    The replay partition is then a map from arrangements to arrangements.  It
    only ever returns one with every ID that has a dial-parameter record ahead
    of every ID without (`recordsFirst_partitionLoop`), and each such
    arrangement with `a` records among `m` slots is returned for exactly
    `m.choose a` inputs (`partitionFiber_eq_choose`).  The count follows the
    loop's own step (`partitionLoop_step`): by its first and last slot an input
    either keeps its first slot, keeps its last, or has the two swapped, which
    is Pascal's rule.

    `buildServerEntryIDs_choice_counts` puts the two together for the list
    `reset` builds. -/

namespace PsiphonResetOrder

open PsiphonDataStore PsiphonIterator

/-! ## Choice vectors -/

/-- Every sequence of draws a shuffle of `k` slots can make, each already
    reduced into its range: the first into `[0, k)`, then `[0, k - 1)`, down to
    `[0, 1)`. -/
def choiceVectors : Nat → List (List Nat)
  | 0 => [[]]
  | k + 1 => (List.range (k + 1)).flatMap fun r => (choiceVectors k).map (r :: ·)

theorem choiceVectors_nodup : ∀ k, (choiceVectors k).Nodup
  | 0 => List.nodup_singleton _
  | k + 1 => by
      refine List.nodup_flatMap.mpr ⟨fun r _ => (choiceVectors_nodup k).map List.cons_injective,
        List.nodup_range _ |>.imp fun hne => ?_⟩
      simp only [Function.onFun, List.disjoint_left, List.mem_map]
      rintro _ ⟨c, -, rfl⟩ ⟨c', -, h⟩
      exact hne (List.cons.inj h).1.symm

theorem length_choiceVectors : ∀ k, (choiceVectors k).length = k.factorial
  | 0 => rfl
  | k + 1 => by
      simp [choiceVectors, List.length_flatMap, Function.comp_def, length_choiceVectors k,
        Nat.factorial_succ]

example : choiceVectors 3 = [[0, 0, 0], [0, 1, 0], [1, 0, 0], [1, 1, 0], [2, 0, 0], [2, 1, 0]] :=
  rfl

/-! ## The shuffle, one draw at a time -/

/-- The first step of the shuffle on a draw already in its range. -/
theorem shuffleFrom_succ_cons {h k r : Nat} (hr : r < k + 1) (s : List String) (c : List Nat) :
    shuffleFrom h (k + 1) s (r :: c) = shuffleFrom h k (swapAt s (h + k) (r + h)) c := by
  simp only [shuffleFrom, intn, show h + k + 1 - h = k + 1 by omega, Nat.mod_eq_of_lt hr]

theorem intn_lt (draws : List Nat) {n : Nat} (hn : 0 < n) : (intn draws n).1 < n := by
  cases draws with
  | nil => exact hn
  | cons r _ => exact Nat.mod_lt r hn

/-- The slot swapped into holds what the other slot held. -/
theorem getElem?_swapAt_left {s : List String} {i j : Nat} (hi : i < s.length)
    (hj : j < s.length) : (swapAt s i j)[i]? = s[j]? := by
  rw [getElem?_swapAt hi hj]
  split <;> simp_all

/-- And the other slot holds what the first held. -/
theorem getElem?_swapAt_right {s : List String} {i j : Nat} (hi : i < s.length)
    (hj : j < s.length) : (swapAt s i j)[j]? = s[i]? := by
  rw [getElem?_swapAt hi hj, if_pos rfl]

/-- The shuffle never moves a slot at or past `shuffleHead + k`. -/
theorem shuffleFrom_getElem?_of_le (h : Nat) {m : Nat} :
    ∀ (k : Nat) (s : List String) (d : List Nat), h + k ≤ m → (shuffleFrom h k s d).1[m]? = s[m]?
  | 0, _, _, _ => rfl
  | k + 1, s, d, hm => by
      have hr := intn_lt d (show 0 < k + 1 by omega)
      rw [shuffleFrom, show h + k + 1 - h = k + 1 by omega, shuffleFrom_getElem?_of_le h k _ _ (by omega)]
      exact swapAt_getElem?_of_ne _ (by omega) (by omega)

/-- `σ` is `s` with only the slots `[lo, lo + k)` rearranged. -/
def WindowPerm (s σ : List String) (lo k : Nat) : Prop :=
  σ.Perm s ∧ ∀ m, m < lo ∨ lo + k ≤ m → σ[m]? = s[m]?

theorem shuffleFrom_windowPerm (h k : Nat) (s : List String) (d : List Nat) :
    WindowPerm s (shuffleFrom h k s d).1 h k :=
  ⟨shuffleFrom_perm .., fun _ hm =>
    hm.elim (shuffleFrom_getElem?_of_lt h · k s d) (shuffleFrom_getElem?_of_le h k s d)⟩

/-- With distinct IDs, the last slot of the window names the first draw: the
    one that swapped the arrangement's last element there. -/
theorem exists_draw_of_windowPerm {s σ : List String} {h k : Nat} (hs : s.Nodup)
    (hlen : h + k + 1 ≤ s.length) (hw : WindowPerm s σ h (k + 1)) :
    ∃ r < k + 1, σ[h + k]? = s[r + h]? ∧ WindowPerm (swapAt s (h + k) (r + h)) σ h k := by
  have hσ : σ.length = s.length := hw.1.length_eq
  obtain ⟨p, hp, hpx⟩ := List.getElem_of_mem
    (hw.1.subset (List.getElem_mem (show h + k < σ.length by omega)))
  have hσp : σ[h + k]? = s[p]? := by simp [hpx, List.getElem?_eq_getElem hp]
  have hwin : h ≤ p ∧ p < h + k + 1 := by
    by_contra hout
    have := List.getElem?_inj (show h + k < σ.length by omega) (hw.1.nodup_iff.mpr hs)
      (hσp.trans (hw.2 p (by omega)).symm)
    omega
  refine ⟨p - h, by omega, by rw [hσp, Nat.sub_add_cancel hwin.1], hw.1.trans (swapAt_perm ..).symm,
    fun m hm => ?_⟩
  rw [Nat.sub_add_cancel hwin.1]
  by_cases hmk : m = h + k
  · rw [hmk, getElem?_swapAt_left (by omega) hp, hσp]
  · rw [swapAt_getElem?_of_ne _ hmk (by omega), hw.2 m (by omega)]

/-- **THE SHUFFLE IS A BIJECTION**: with distinct IDs, every rearrangement of
    the slots `[h, h + k)` comes from exactly one choice vector. -/
theorem count_shuffleFrom_eq_one (h : Nat) :
    ∀ (k : Nat) {s σ : List String}, s.Nodup → h + k ≤ s.length → WindowPerm s σ h k →
      (choiceVectors k).countP (fun c => (shuffleFrom h k s c).1 = σ) = 1
  | 0, s, σ, _, _, hw => by
      have : σ = s := List.ext_getElem? fun m => hw.2 m (by omega)
      simp [choiceVectors, shuffleFrom, this]
  | k + 1, s, σ, hs, hlen, hw => by
      obtain ⟨r₀, hr₀, hslot, hw₀⟩ := exists_draw_of_windowPerm hs (by omega) hw
      rw [choiceVectors, List.countP_flatMap, ← List.sum_toFinset _ (List.nodup_range _),
        Finset.sum_eq_single_of_mem r₀ (by simpa using hr₀)]
      · simp only [Function.comp_def, List.countP_map, shuffleFrom_succ_cons hr₀]
        exact count_shuffleFrom_eq_one h k ((swapAt_perm ..).nodup_iff.mpr hs) (by simp; omega) hw₀
      · intro r hr hne
        have hr : r < k + 1 := by simpa using hr
        simp only [Function.comp_def, List.countP_map, shuffleFrom_succ_cons hr, List.countP_eq_zero,
          decide_eq_true_eq]
        intro c _ hc
        have hlast := shuffleFrom_getElem?_of_le h k (swapAt s (h + k) (r + h)) c (le_refl _)
        rw [hc, hslot, getElem?_swapAt_left (by omega) (by omega)] at hlast
        exact hne (by have := List.getElem?_inj (show r₀ + h < s.length by omega) hs hlast; omega)

/-- And nothing else comes out. -/
theorem count_shuffleFrom_eq_zero {h k : Nat} {s σ : List String} (hw : ¬WindowPerm s σ h k) :
    (choiceVectors k).countP (fun c => (shuffleFrom h k s c).1 = σ) = 0 :=
  List.countP_eq_zero.mpr fun c _ hc => hw (of_decide_eq_true hc ▸ shuffleFrom_windowPerm h k s c)

/-! ## Rearrangements of a window -/

theorem windowPerm_succ_left {s σ : List String} {lo k : Nat} :
    WindowPerm s σ (lo + 1) k ↔ WindowPerm s σ lo (k + 1) ∧ σ[lo]? = s[lo]? := by
  refine ⟨fun ⟨hp, h⟩ => ⟨⟨hp, fun m hm => h m (by omega)⟩, h lo (by omega)⟩,
    fun ⟨⟨hp, h⟩, hlo⟩ => ⟨hp, fun m hm => ?_⟩⟩
  by_cases hm' : m = lo
  · exact hm' ▸ hlo
  · exact h m (by omega)

theorem windowPerm_succ_right {s σ : List String} {lo k : Nat} :
    WindowPerm s σ lo k ↔ WindowPerm s σ lo (k + 1) ∧ σ[lo + k]? = s[lo + k]? := by
  refine ⟨fun ⟨hp, h⟩ => ⟨⟨hp, fun m hm => h m (by omega)⟩, h (lo + k) (by omega)⟩,
    fun ⟨⟨hp, h⟩, hlo⟩ => ⟨hp, fun m hm => ?_⟩⟩
  by_cases hm' : m = lo + k
  · exact hm' ▸ hlo
  · exact h m (by omega)

/-- The arrangements of the slots `[lo, lo + k)` of `s`, as the shuffle makes
    them. -/
def windowPerms (s : List String) (lo k : Nat) : Finset (List String) :=
  ((choiceVectors k).map fun c => (shuffleFrom lo k s c).1).toFinset

theorem mem_windowPerms {s τ : List String} {lo k : Nat} (hs : s.Nodup)
    (hlen : lo + k ≤ s.length) : τ ∈ windowPerms s lo k ↔ WindowPerm s τ lo k := by
  simp only [windowPerms, List.mem_toFinset, List.mem_map]
  refine ⟨fun ⟨c, _, hc⟩ => hc ▸ shuffleFrom_windowPerm .., fun hw => ?_⟩
  obtain ⟨c, hc, he⟩ := List.countP_pos_iff.mp
    ((count_shuffleFrom_eq_one lo k hs hlen hw).symm ▸ Nat.one_pos)
  exact ⟨c, hc, of_decide_eq_true he⟩

theorem windowPerms_zero (s : List String) (lo : Nat) : windowPerms s lo 0 = {s} := by
  simp [windowPerms, choiceVectors, shuffleFrom]

theorem windowPerms_one (s : List String) (lo : Nat) : windowPerms s lo 1 = {s} := by
  simp [windowPerms, choiceVectors, shuffleFrom, intn, swapAt_self, List.range_succ]

/-- Each arrangement is listed once. -/
theorem nodup_map_shuffleFrom {s : List String} {lo k : Nat} (hs : s.Nodup)
    (hlen : lo + k ≤ s.length) :
    ((choiceVectors k).map fun c => (shuffleFrom lo k s c).1).Nodup := by
  refine List.nodup_iff_count_le_one.mpr fun τ => ?_
  show List.countP _ _ ≤ 1
  rw [List.countP_map]
  by_cases hw : WindowPerm s τ lo k
  · exact (count_shuffleFrom_eq_one lo k hs hlen hw).le
  · exact (count_shuffleFrom_eq_zero hw).trans_le (Nat.zero_le _)

/-- The IDs in slots `[lo, lo + k)`, first and last split off. -/
theorem window_succ_left (s : List String) {lo : Nat} (k : Nat) (h : lo < s.length) :
    (s.drop lo).take (k + 1) = s.getD lo "" :: (s.drop (lo + 1)).take k := by
  rw [List.drop_eq_getElem_cons h, List.take_succ_cons, List.getD_eq_getElem?_getD,
    List.getElem?_eq_getElem h, Option.getD_some]

theorem window_succ_right (s : List String) {lo k : Nat} (h : lo + k < s.length) :
    (s.drop lo).take (k + 1) = (s.drop lo).take k ++ [s.getD (lo + k) ""] := by
  rw [List.take_succ, List.getElem?_drop, List.getD_eq_getElem?_getD, List.getElem?_eq_getElem h]
  rfl

theorem getD_eq_of_getElem?_eq {τ σ : List String} {m m' : Nat} (h : τ[m]? = σ[m']?) :
    τ.getD m "" = σ.getD m' "" := by
  simp only [List.getD_eq_getElem?_getD, h]

/-! ## The replay partition, one step at a time -/

section Partition

variable (hasRecord : String → Bool)

theorem scanFront_of_not_record {s : List String} {i : Nat} (j : Nat)
    (h : hasRecord (s.getD i "") = false) : scanFront hasRecord s i j = i := by
  rw [scanFront]; split_ifs <;> simp_all

theorem scanFront_of_record {s : List String} {i j : Nat} (hij : i < j)
    (h : hasRecord (s.getD i "") = true) :
    scanFront hasRecord s i j = scanFront hasRecord s (i + 1) j := by
  rw [scanFront, if_pos hij, if_pos h]

theorem scanBack_of_record {s : List String} (i : Nat) {j : Nat}
    (h : hasRecord (s.getD j "") = true) : scanBack hasRecord s i j = j := by
  rw [scanBack]; split_ifs <;> simp_all

theorem scanBack_of_not_record {s : List String} {i j : Nat} (hij : i < j)
    (h : hasRecord (s.getD j "") = false) :
    scanBack hasRecord s i j = scanBack hasRecord s i (j - 1) := by
  rw [scanBack, if_pos hij, if_neg (Bool.eq_false_iff.mp h)]

theorem partitionLoop_eq (s : List String) (i j : Nat) :
    partitionLoop hasRecord s i j =
      if scanFront hasRecord s i j < scanBack hasRecord s (scanFront hasRecord s i j) j then
        partitionLoop hasRecord
          (swapAt s (scanFront hasRecord s i j) (scanBack hasRecord s (scanFront hasRecord s i j) j))
          (scanFront hasRecord s i j + 1) (scanBack hasRecord s (scanFront hasRecord s i j) j - 1)
      else s := by
  rw [partitionLoop]

/-- A window of at most one slot is left as it is. -/
theorem partitionLoop_of_le {s : List String} {i j : Nat} (h : j ≤ i) :
    partitionLoop hasRecord s i j = s := by
  have hf : scanFront hasRecord s i j = i := by rw [scanFront, if_neg (by omega)]
  have hb := scanBack_le hasRecord s i j
  rw [partitionLoop_eq, hf, if_neg (by omega)]

/-- A first slot with a record stays where it is. -/
theorem partitionLoop_of_record {s : List String} {i j : Nat} (hij : i ≤ j)
    (h : hasRecord (s.getD i "") = true) :
    partitionLoop hasRecord s i j = partitionLoop hasRecord s (i + 1) j := by
  rcases Nat.lt_or_eq_of_le hij with hij | rfl
  · rw [partitionLoop_eq, partitionLoop_eq hasRecord s (i + 1), scanFront_of_record hasRecord hij h]
  · rw [partitionLoop_of_le hasRecord le_rfl, partitionLoop_of_le hasRecord (by omega)]

/-- **ONE STEP OF THE PARTITION**, read off the window's first and last slot:
    a first slot with a record stays; otherwise a last slot with a record is
    swapped with it; otherwise the last slot stays. -/
theorem partitionLoop_step {s : List String} {i j : Nat} (hij : i < j) :
    partitionLoop hasRecord s i j =
      if hasRecord (s.getD i "") then partitionLoop hasRecord s (i + 1) j
      else if hasRecord (s.getD j "") then
        partitionLoop hasRecord (swapAt s i j) (i + 1) (j - 1)
      else partitionLoop hasRecord s i (j - 1) := by
  cases hi : hasRecord (s.getD i "")
  · cases hj : hasRecord (s.getD j "")
    · rw [partitionLoop_eq, partitionLoop_eq hasRecord s i (j - 1), scanFront_of_not_record _ j hi,
        scanFront_of_not_record _ (j - 1) hi, scanBack_of_not_record _ hij hj]
      rfl
    · rw [partitionLoop_eq, scanFront_of_not_record _ j hi, scanBack_of_record _ i hj, if_pos hij]
      rfl
  · exact partitionLoop_of_record hasRecord hij.le hi

/-- The partition never moves a slot past its ending pointer. -/
theorem partitionLoop_getElem?_of_gt (s : List String) (i j : Nat) {m : Nat} (hm : j < m) :
    (partitionLoop hasRecord s i j)[m]? = s[m]? := by
  have h2 := scanBack_le hasRecord s (scanFront hasRecord s i j) j
  rw [partitionLoop]
  split
  · rw [partitionLoop_getElem?_of_gt _ _ _ (by omega)]
    exact swapAt_getElem?_of_ne _ (by omega) (by omega)
  · rfl
termination_by j - i
decreasing_by
  have h1 := le_scanFront hasRecord s i j
  omega

/-! ## What the partition returns -/

/-- Every ID with a dial-parameter record comes before every ID without one. -/
def RecordsFirst (l : List String) : Prop :=
  l.Pairwise fun x y => hasRecord y = true → hasRecord x = true

instance (l : List String) : Decidable (RecordsFirst hasRecord l) :=
  inferInstanceAs (Decidable (List.Pairwise _ l))

theorem recordsFirst_cons {x : String} {l : List String} (hx : hasRecord x = true)
    (hl : RecordsFirst hasRecord l) : RecordsFirst hasRecord (x :: l) :=
  List.pairwise_cons.mpr ⟨fun _ _ _ => hx, hl⟩

theorem recordsFirst_append_of_not {l : List String} {y : String}
    (hl : RecordsFirst hasRecord l) (hy : hasRecord y = false) :
    RecordsFirst hasRecord (l ++ [y]) :=
  List.pairwise_append.mpr ⟨hl, List.pairwise_singleton _ _, fun _ _ _ hb hyb => by
    rw [List.mem_singleton.mp hb, hy] at hyb; exact absurd hyb Bool.false_ne_true⟩

/-- **RECORDS FIRST**: whatever the window holds, the partition returns it with
    every ID that has a record ahead of every ID without one. -/
theorem recordsFirst_partitionLoop :
    ∀ (k lo : Nat) (τ : List String), lo + k ≤ τ.length →
      RecordsFirst hasRecord (((partitionLoop hasRecord τ lo (lo + k - 1)).drop lo).take k)
  | 0, _, _, _ => List.Pairwise.nil
  | 1, lo, τ, hlen => by
      rw [partitionLoop_of_le hasRecord (by omega), window_succ_left τ 0 (by omega), List.take_zero]
      exact List.pairwise_singleton _ _
  | k + 2, lo, τ, hlen => by
      have hτ := @partitionLoop_step hasRecord τ lo (lo + k + 1) (by omega)
      rw [show lo + (k + 2) - 1 = lo + k + 1 by omega, hτ, show lo + k + 1 - 1 = lo + k by omega]
      split_ifs with hi hj
      · -- the first slot has a record and stays
        have ih := recordsFirst_partitionLoop (k + 1) (lo + 1) τ (by omega)
        rw [show lo + 1 + (k + 1) - 1 = lo + k + 1 by omega] at ih
        have hlen' := (partitionLoop_perm hasRecord τ (lo + 1) (lo + k + 1)).length_eq
        rw [window_succ_left _ (k + 1) (by omega),
          getD_eq_of_getElem?_eq (partitionLoop_getElem?_of_lt hasRecord τ _ _ (Nat.lt_succ_self lo))]
        exact recordsFirst_cons hasRecord hi ih
      · -- the last slot has a record: the two are swapped
        have ih := recordsFirst_partitionLoop k (lo + 1) (swapAt τ lo (lo + k + 1)) (by simp; omega)
        rw [show lo + 1 + k - 1 = lo + k by omega] at ih
        have hlen' := (partitionLoop_perm hasRecord (swapAt τ lo (lo + k + 1)) (lo + 1) (lo + k)).length_eq
        simp only [length_swapAt] at hlen'
        rw [window_succ_left _ (k + 1) (by omega), window_succ_right _ (by omega),
          getD_eq_of_getElem?_eq (partitionLoop_getElem?_of_lt hasRecord _ _ _ (Nat.lt_succ_self lo)),
          getD_eq_of_getElem?_eq (partitionLoop_getElem?_of_gt hasRecord _ _ _
            (show lo + k < lo + 1 + k by omega)),
          getD_eq_of_getElem?_eq (getElem?_swapAt_left (by omega) (by omega)),
          show lo + 1 + k = lo + k + 1 by omega,
          getD_eq_of_getElem?_eq (getElem?_swapAt_right (by omega) (by omega))]
        exact recordsFirst_cons hasRecord hj
          (recordsFirst_append_of_not hasRecord ih (Bool.eq_false_iff.mpr hi))
      · -- neither: the last slot has no record and stays
        have ih := recordsFirst_partitionLoop (k + 1) lo τ (by omega)
        rw [show lo + (k + 1) - 1 = lo + k by omega] at ih
        have hlen' := (partitionLoop_perm hasRecord τ lo (lo + k)).length_eq
        rw [window_succ_right _ (by omega),
          getD_eq_of_getElem?_eq (partitionLoop_getElem?_of_gt hasRecord τ _ _
            (show lo + k < lo + (k + 1) by omega))]
        exact recordsFirst_append_of_not hasRecord ih (Bool.eq_false_iff.mpr hj)

/-! ## How many arrangements the partition sends to each order -/

/-- How many arrangements of the slots `[lo, lo + k)` of `σ` the partition of
    that window sends to `σ`. -/
def partitionFiber (σ : List String) (lo k : Nat) : Nat :=
  ((windowPerms σ lo k).filter fun τ => partitionLoop hasRecord τ lo (lo + k - 1) = σ).card

/-- The arrangements sent to `σ`, split by their first slot. -/
theorem partitionFiber_succ (σ : List String) (i k : Nat) :
    partitionFiber hasRecord σ i (k + 1) =
      ((windowPerms σ i (k + 1)).filter fun τ => hasRecord (τ.getD i "") = true ∧
          partitionLoop hasRecord τ (i + 1) (i + k) = σ).card +
      ((windowPerms σ i (k + 1)).filter fun τ => hasRecord (τ.getD i "") = false ∧
          partitionLoop hasRecord τ i (i + k) = σ).card := by
  simp only [partitionFiber, Finset.card_filter, ← Finset.sum_add_distrib]
  refine Finset.sum_congr rfl fun τ _ => ?_
  rw [show i + (k + 1) - 1 = i + k by omega]
  cases h : hasRecord (τ.getD i "")
  · simp
  · simp [partitionLoop_of_record hasRecord (Nat.le_add_right i k) h]

/-- The arrangements sent to `σ`, split as `partitionLoop_step` splits them. -/
theorem partitionFiber_succ_succ (σ : List String) (i k : Nat) :
    partitionFiber hasRecord σ i (k + 2) =
      ((windowPerms σ i (k + 2)).filter fun τ => hasRecord (τ.getD i "") = true ∧
          partitionLoop hasRecord τ (i + 1) (i + k + 1) = σ).card +
      ((windowPerms σ i (k + 2)).filter fun τ => hasRecord (τ.getD i "") = false ∧
          hasRecord (τ.getD (i + k + 1) "") = true ∧
          partitionLoop hasRecord (swapAt τ i (i + k + 1)) (i + 1) (i + k) = σ).card +
      ((windowPerms σ i (k + 2)).filter fun τ => hasRecord (τ.getD i "") = false ∧
          hasRecord (τ.getD (i + k + 1) "") = false ∧
          partitionLoop hasRecord τ i (i + k) = σ).card := by
  simp only [partitionFiber, Finset.card_filter, ← Finset.sum_add_distrib]
  refine Finset.sum_congr rfl fun τ _ => ?_
  rw [show i + (k + 2) - 1 = i + k + 1 by omega, partitionLoop_step hasRecord (by omega : i < i + k + 1),
    show i + k + 1 - 1 = i + k by omega]
  cases hasRecord (τ.getD i "") <;> cases hasRecord (τ.getD (i + k + 1) "") <;> simp

section Fibers

variable {σ : List String} (hσ : σ.Nodup)
include hσ

/-- A first slot with a record is one `σ` has there: the rest is the window one
    slot shorter. -/
theorem card_filter_first {i k : Nat} (hlen : i + k + 1 ≤ σ.length) :
    ((windowPerms σ i (k + 1)).filter fun τ => hasRecord (τ.getD i "") = true ∧
        partitionLoop hasRecord τ (i + 1) (i + k) = σ).card =
      if hasRecord (σ.getD i "") = true then partitionFiber hasRecord σ (i + 1) k else 0 := by
  have hfirst : ∀ τ, partitionLoop hasRecord τ (i + 1) (i + k) = σ → τ[i]? = σ[i]? := fun τ hP => by
    rw [← hP, partitionLoop_getElem?_of_lt hasRecord τ _ _ (Nat.lt_succ_self i)]
  split_ifs with hR
  · rw [partitionFiber, show i + 1 + k - 1 = i + k by omega]
    congr 1
    ext τ
    simp only [Finset.mem_filter, mem_windowPerms hσ (by omega : i + (k + 1) ≤ σ.length),
      mem_windowPerms hσ (by omega : i + 1 + k ≤ σ.length), windowPerm_succ_left]
    exact ⟨fun ⟨hw, _, hP⟩ => ⟨⟨hw, hfirst τ hP⟩, hP⟩,
      fun ⟨⟨hw, hi⟩, hP⟩ => ⟨hw, getD_eq_of_getElem?_eq hi ▸ hR, hP⟩⟩
  · rw [Finset.card_eq_zero, Finset.filter_eq_empty_iff]
    rintro τ - ⟨hτ, hP⟩
    exact hR (getD_eq_of_getElem?_eq (hfirst τ hP) ▸ hτ)

/-- A last slot without a record, kept, is one `σ` has there. -/
theorem card_filter_kept {i k : Nat} (hlen : i + k + 2 ≤ σ.length) :
    ((windowPerms σ i (k + 2)).filter fun τ => hasRecord (τ.getD i "") = false ∧
        hasRecord (τ.getD (i + k + 1) "") = false ∧ partitionLoop hasRecord τ i (i + k) = σ).card =
      if hasRecord (σ.getD (i + k + 1) "") = true then 0 else
        ((windowPerms σ i (k + 1)).filter fun τ => hasRecord (τ.getD i "") = false ∧
          partitionLoop hasRecord τ i (i + k) = σ).card := by
  have hlast : ∀ τ, partitionLoop hasRecord τ i (i + k) = σ → τ[i + k + 1]? = σ[i + k + 1]? :=
    fun τ hP => by rw [← hP, partitionLoop_getElem?_of_gt hasRecord τ _ _ (Nat.lt_succ_self _)]
  split_ifs with hR
  · rw [Finset.card_eq_zero, Finset.filter_eq_empty_iff]
    rintro τ - ⟨-, hτ, hP⟩
    rw [getD_eq_of_getElem?_eq (hlast τ hP), hR] at hτ
    exact Bool.noConfusion hτ
  · congr 1
    ext τ
    simp only [Finset.mem_filter, mem_windowPerms hσ (by omega : i + (k + 2) ≤ σ.length),
      mem_windowPerms hσ (by omega : i + (k + 1) ≤ σ.length), @windowPerm_succ_right σ τ i (k + 1)]
    exact ⟨fun ⟨hw, hi, _, hP⟩ => ⟨⟨hw, hlast τ hP⟩, hi, hP⟩,
      fun ⟨⟨hw, hj⟩, hi, hP⟩ => ⟨hw, hi, getD_eq_of_getElem?_eq hj ▸ Bool.eq_false_iff.mpr hR, hP⟩⟩

/-- A pair swapped at the two ends is a pair `σ` has the other way round: the
    swap is a bijection onto the arrangements of the inner window. -/
theorem card_filter_swapped {i k : Nat} (hlen : i + k + 2 ≤ σ.length) :
    ((windowPerms σ i (k + 2)).filter fun τ => hasRecord (τ.getD i "") = false ∧
        hasRecord (τ.getD (i + k + 1) "") = true ∧
        partitionLoop hasRecord (swapAt τ i (i + k + 1)) (i + 1) (i + k) = σ).card =
      if hasRecord (σ.getD i "") = true ∧ hasRecord (σ.getD (i + k + 1) "") = false then
        partitionFiber hasRecord σ (i + 1) k else 0 := by
  have hends : ∀ τ', partitionLoop hasRecord τ' (i + 1) (i + k) = σ →
      τ'[i]? = σ[i]? ∧ τ'[i + k + 1]? = σ[i + k + 1]? := fun τ' hP =>
    ⟨by rw [← hP, partitionLoop_getElem?_of_lt hasRecord τ' _ _ (Nat.lt_succ_self i)],
      by rw [← hP, partitionLoop_getElem?_of_gt hasRecord τ' _ _ (Nat.lt_succ_self _)]⟩
  have hmem : ∀ τ, τ ∈ windowPerms σ i (k + 2) ↔ WindowPerm σ τ i (k + 2) :=
    fun _ => mem_windowPerms hσ (by omega)
  have hmem' : ∀ τ, τ ∈ windowPerms σ (i + 1) k ↔ WindowPerm σ τ (i + 1) k :=
    fun _ => mem_windowPerms hσ (by omega)
  split_ifs with hc
  · rw [partitionFiber, show i + 1 + k - 1 = i + k by omega]
    refine Finset.card_nbij' (swapAt · i (i + k + 1)) (swapAt · (i + k + 1) i) ?_ ?_
      (fun τ _ => swapAt_swapAt ..) (fun τ _ => swapAt_swapAt ..)
    · intro τ hτ
      simp only [Finset.mem_coe, Finset.mem_filter] at hτ ⊢
      obtain ⟨hτw, -, -, hP⟩ := hτ
      have hw := (hmem τ).mp hτw
      refine ⟨(hmem' _).mpr ⟨(swapAt_perm ..).trans hw.1, fun m hm => ?_⟩, hP⟩
      by_cases hmi : m = i
      · exact hmi ▸ (hends _ hP).1
      by_cases hmj : m = i + k + 1
      · exact hmj ▸ (hends _ hP).2
      rw [swapAt_getElem?_of_ne _ hmi hmj, hw.2 m (by omega)]
    · intro τ' hτ'
      simp only [Finset.mem_coe, Finset.mem_filter] at hτ' ⊢
      obtain ⟨hτ'w, hP⟩ := hτ'
      have hw := (hmem' τ').mp hτ'w
      have hlen' : τ'.length = σ.length := hw.1.length_eq
      refine ⟨(hmem _).mpr ⟨(swapAt_perm ..).trans hw.1, fun m hm => ?_⟩, ?_, ?_, ?_⟩
      · rw [swapAt_getElem?_of_ne _ (by omega) (by omega), hw.2 m (by omega)]
      · rw [getD_eq_of_getElem?_eq ((getElem?_swapAt_right (by omega) (by omega)).trans
          (hw.2 _ (by omega)))]
        exact hc.2
      · rw [getD_eq_of_getElem?_eq ((getElem?_swapAt_left (by omega) (by omega)).trans
          (hw.2 _ (by omega)))]
        exact hc.1
      · rw [swapAt_swapAt]; exact hP
  · rw [Finset.card_eq_zero, Finset.filter_eq_empty_iff]
    rintro τ hτ ⟨hi, hj, hP⟩
    have hlen' : τ.length = σ.length := ((hmem τ).mp hτ).1.length_eq
    obtain ⟨h1, h2⟩ := hends _ hP
    rw [getElem?_swapAt_left (by omega) (by omega)] at h1
    rw [getElem?_swapAt_right (by omega) (by omega)] at h2
    exact hc ⟨getD_eq_of_getElem?_eq h1 ▸ hj, getD_eq_of_getElem?_eq h2 ▸ hi⟩

/-- **EACH RECORDS-FIRST ORDER, `k.choose a` TIMES**: of the arrangements of a
    window of `k` slots holding `a` IDs with a record, the partition sends
    exactly `k.choose a` to each arrangement with the records first.  By the
    window's ends (`partitionLoop_step`) this is Pascal's rule. -/
theorem partitionFiber_eq_choose :
    ∀ (k lo : Nat), lo + k ≤ σ.length → RecordsFirst hasRecord ((σ.drop lo).take k) →
      partitionFiber hasRecord σ lo k = k.choose (((σ.drop lo).take k).countP hasRecord)
  | 0, lo, _, _ => by
      simp [partitionFiber, windowPerms_zero, partitionLoop_of_le, Finset.filter_singleton]
  | 1, lo, hlen, _ => by
      rw [window_succ_left σ 0 (by omega), List.take_zero, partitionFiber, windowPerms_one,
        Finset.filter_singleton, partitionLoop_of_le hasRecord (by omega : lo + 1 - 1 ≤ lo), if_pos rfl]
      simp only [Finset.card_singleton, List.countP_cons, List.countP_nil]
      cases hasRecord (σ.getD lo "") <;> rfl
  | k + 2, lo, hlen, hrf => by
      -- the window is its first slot `x`, the middle `mid` and its last slot `y`
      have hx2 : (σ.drop lo).take (k + 2) = σ.getD lo "" ::
          ((σ.drop (lo + 1)).take k ++ [σ.getD (lo + k + 1) ""]) := by
        rw [window_succ_left σ (k + 1) (by omega), window_succ_right σ (by omega : lo + 1 + k < _),
          show lo + 1 + k = lo + k + 1 by omega]
      have hmy : (σ.drop (lo + 1)).take (k + 1) =
          (σ.drop (lo + 1)).take k ++ [σ.getD (lo + k + 1) ""] := by
        rw [window_succ_right σ (by omega : lo + 1 + k < _), show lo + 1 + k = lo + k + 1 by omega]
      have hxm := window_succ_left σ k (show lo < σ.length by omega)
      have hmid : ((σ.drop (lo + 1)).take k).length = k := by simp; omega
      rw [hx2] at hrf ⊢
      obtain ⟨hx, hmy_rf⟩ := List.pairwise_cons.mp hrf
      have ih1 := partitionFiber_eq_choose (k + 1) (lo + 1) (by omega) (hmy ▸ hmy_rf)
      have ih2 := partitionFiber_eq_choose (k + 1) lo (by omega)
        (hxm ▸ hrf.sublist ((List.sublist_append_left _ _).cons₂ _))
      have ih3 := partitionFiber_eq_choose k (lo + 1) (by omega)
        (hmy_rf.sublist (List.sublist_append_left _ _))
      rw [hmy] at ih1
      rw [hxm] at ih2
      -- the three kinds of input, and the window one slot shorter split by its first slot
      have e := partitionFiber_succ_succ hasRecord σ lo k
      have e' := partitionFiber_succ hasRecord σ lo k
      have hfirst : ((windowPerms σ lo (k + 2)).filter fun τ => hasRecord (τ.getD lo "") = true ∧
          partitionLoop hasRecord τ (lo + 1) (lo + k + 1) = σ).card =
          if hasRecord (σ.getD lo "") = true then partitionFiber hasRecord σ (lo + 1) (k + 1) else 0 :=
        card_filter_first hasRecord hσ (by omega)
      rw [hfirst, card_filter_swapped hasRecord hσ (by omega), card_filter_kept hasRecord hσ (by omega)] at e
      rw [card_filter_first hasRecord hσ (by omega)] at e'
      simp only [List.countP_cons, List.countP_append, List.countP_nil] at ih1 ih2 ⊢
      cases hxr : hasRecord (σ.getD lo "") <;> cases hyr : hasRecord (σ.getD (lo + k + 1) "") <;>
        simp only [hxr, hyr, eq_self_iff_true, Bool.false_eq_true, Bool.true_eq_false, and_true,
          and_false, true_and, false_and, ↓reduceIte, Nat.add_zero, Nat.zero_add] at e e' ih1 ih2 ⊢
      · -- no record at either end: none in the window
        have h0 : ((σ.drop (lo + 1)).take k).countP hasRecord = 0 :=
          List.countP_eq_zero.mpr fun z hz hzr =>
            Bool.false_ne_true (hxr ▸ hx z (List.mem_append_left _ hz) hzr)
        rw [h0, Nat.choose_zero_right] at ih2
        rw [h0, Nat.choose_zero_right]
        omega
      · exact (Bool.false_ne_true
          (hxr ▸ hx _ (List.mem_append_right _ (List.mem_singleton_self _)) hyr)).elim
      · -- a record first, none last: Pascal's rule
        rw [Nat.choose_succ_succ']
        omega
      · -- records at both ends: every slot has one
        have hk : ((σ.drop (lo + 1)).take k).countP hasRecord = k :=
          (List.countP_eq_length.mpr fun z hz =>
            (List.pairwise_append.mp hmy_rf).2.2 z hz _ (List.mem_singleton_self _) hyr).trans hmid
        have h1 : (k + 1).choose (k + 1) = 1 := Nat.choose_self _
        have h2 : (k + 2).choose (k + 1 + 1) = 1 := Nat.choose_self _
        rw [hk] at ih1 ⊢
        omega

end Fibers

end Partition

/-! ## The list `reset` builds -/

theorem windowPerm_of_take_drop {s σ : List String} {h : Nat} (hh : h ≤ s.length)
    (ht : σ.take h = s.take h) (hd : (σ.drop h).Perm (s.drop h)) :
    WindowPerm s σ h (s.length - h) := by
  have hp : σ.Perm s := by
    rw [← List.take_append_drop h σ, ← List.take_append_drop h s, ht]
    exact hd.append_left _
  refine ⟨hp, fun m hm => ?_⟩
  rcases hm with hm | hm
  · rw [← List.getElem?_take_of_lt hm, ht, List.getElem?_take_of_lt hm]
  · rw [List.getElem?_eq_none (by rw [hp.length_eq]; omega), List.getElem?_eq_none (by omega)]

/-- Rearrangements of the same window of `s` and of one of them are the same. -/
theorem windowPerm_iff_of_windowPerm {s σ τ : List String} {h k : Nat} (hσ : WindowPerm s σ h k) :
    WindowPerm σ τ h k ↔ WindowPerm s τ h k :=
  ⟨fun ⟨hp, hτ⟩ => ⟨hp.trans hσ.1, fun m hm => (hτ m hm).trans (hσ.2 m hm)⟩,
    fun ⟨hp, hτ⟩ => ⟨hp.trans hσ.1.symm, fun m hm => (hτ m hm).trans (hσ.2 m hm).symm⟩⟩

theorem shuffleHead_le (db : DataStore) (a : Option String) :
    (if a.isSome then 1 else 0) ≤ (collectServerEntryIDs db a).length := by
  cases a <;> simp [collectServerEntryIDs]

/-- `reset` never moves a slot below `shuffleHead`. -/
theorem buildServerEntryIDs_getElem?_of_lt {db : DataStore} (c : Config) (a r : Bool) (d : List Nat)
    {m : Nat} (hm : m < if (resetAffinityServerEntryID db a r).isSome then 1 else 0) :
    (buildServerEntryIDs db c a r d).1[m]? =
      (collectServerEntryIDs db (resetAffinityServerEntryID db a r))[m]? := by
  simp only [buildServerEntryIDs]
  split
  · rw [partitionLoop_getElem?_of_lt _ _ _ _ hm, shuffleFrom_getElem?_of_lt _ hm]
  · rw [shuffleFrom_getElem?_of_lt _ hm]

/-- **WHAT `reset` BUILDS, AND FROM HOW MANY CHOICE VECTORS**: over the choice
    vectors of its shuffle, the slots below `shuffleHead` never move.  Without
    the replay partition (`Reset()`, or no positive replay candidate count),
    every arrangement of the other slots comes from exactly one choice vector.
    With it, only arrangements with the IDs that have a dial-parameter record
    on the network first come out, each from exactly `(n - shuffleHead).choose k`
    choice vectors, `k` the number of such IDs among the shuffled ones. -/
theorem buildServerEntryIDs_choice_counts (db : DataStore) (config : Config)
    (applyServerAffinity isInitialRound : Bool) :
    let affinityServerEntryID := resetAffinityServerEntryID db applyServerAffinity isInitialRound
    let shuffleHead := if affinityServerEntryID.isSome then 1 else 0
    let serverEntryIDs := collectServerEntryIDs db affinityServerEntryID
    let hasRecord := hasDialParameters db config.networkID
    let runs (σ : List String) :=
      (choiceVectors (serverEntryIDs.length - shuffleHead)).countP fun c =>
        (buildServerEntryIDs db config applyServerAffinity isInitialRound c).1 = σ
    (∀ draws, (buildServerEntryIDs db config applyServerAffinity isInitialRound draws).1.take
        shuffleHead = serverEntryIDs.take shuffleHead) ∧
    ((isInitialRound && decide (config.replayCandidateCount > 0)) = false →
      ∀ σ, σ.take shuffleHead = serverEntryIDs.take shuffleHead →
        (σ.drop shuffleHead).Perm (serverEntryIDs.drop shuffleHead) → runs σ = 1) ∧
    ((isInitialRound && decide (config.replayCandidateCount > 0)) = true →
      (∀ draws, RecordsFirst hasRecord
        ((buildServerEntryIDs db config applyServerAffinity isInitialRound draws).1.drop
          shuffleHead)) ∧
      ∀ σ, σ.take shuffleHead = serverEntryIDs.take shuffleHead →
        (σ.drop shuffleHead).Perm (serverEntryIDs.drop shuffleHead) →
        RecordsFirst hasRecord (σ.drop shuffleHead) →
        runs σ = (serverEntryIDs.length - shuffleHead).choose
          ((serverEntryIDs.drop shuffleHead).countP hasRecord)) := by
  intro aff h s hasRecord runs
  have hh : h ≤ s.length := shuffleHead_le db aff
  have hs : s.Nodup := collectServerEntryIDs_nodup db aff
  have hlow : ∀ c m, m < h →
      (buildServerEntryIDs db config applyServerAffinity isInitialRound c).1[m]? = s[m]? :=
    fun c _ hm => buildServerEntryIDs_getElem?_of_lt config _ _ c hm
  have hbuild : ∀ c, (buildServerEntryIDs db config applyServerAffinity isInitialRound c).1 =
      if (isInitialRound && decide (config.replayCandidateCount > 0)) = true then
        partitionLoop hasRecord (shuffleFrom h (s.length - h) s c).1 h (s.length - 1)
      else (shuffleFrom h (s.length - h) s c).1 := fun c => by
    simp only [buildServerEntryIDs]
    rw [(shuffleFrom_perm ..).length_eq]
  have hruns : ∀ σ, runs σ = (choiceVectors (s.length - h)).countP fun c =>
      (buildServerEntryIDs db config applyServerAffinity isInitialRound c).1 = σ := fun _ => rfl
  clear_value runs hasRecord s h aff
  have hlen : ∀ c : List Nat, (shuffleFrom h (s.length - h) s c).1.length = s.length :=
    fun c => (shuffleFrom_perm ..).length_eq
  refine ⟨fun c => List.ext_getElem? fun m => ?_, fun hc σ ht hd => ?_, fun hc => ⟨fun c => ?_,
    fun σ ht hd hrf => ?_⟩⟩
  · rw [List.getElem?_take, List.getElem?_take]
    split
    · exact hlow c m ‹_›
    · rfl
  · simp only [hruns, hbuild, hc, Bool.false_eq_true, if_false]
    exact count_shuffleFrom_eq_one h _ hs (by omega) (windowPerm_of_take_drop hh ht hd)
  · have := recordsFirst_partitionLoop hasRecord (s.length - h) h
      (shuffleFrom h (s.length - h) s c).1 (by rw [hlen]; omega)
    rw [show h + (s.length - h) - 1 = s.length - 1 by omega, List.take_of_length_le
      (by rw [List.length_drop, (partitionLoop_perm ..).length_eq, hlen])] at this
    rwa [hbuild, if_pos hc]
  · have hw := windowPerm_of_take_drop hh ht hd
    have hσ : σ.Nodup := hw.1.nodup_iff.mpr hs
    have hσlen : σ.length = s.length := hw.1.length_eq
    have hperms : windowPerms s h (s.length - h) = windowPerms σ h (s.length - h) :=
      Finset.ext fun τ => by
        rw [mem_windowPerms hs (by omega), mem_windowPerms hσ (by omega),
          windowPerm_iff_of_windowPerm hw]
    have hfiber := partitionFiber_eq_choose hasRecord hσ (s.length - h) h (by omega)
      (by rwa [List.take_of_length_le (by rw [List.length_drop]; omega)])
    rw [List.take_of_length_le (by rw [List.length_drop]; omega), hd.countP_eq, partitionFiber,
      show h + (s.length - h) - 1 = s.length - 1 by omega, ← hperms, windowPerms] at hfiber
    -- the arrangements are listed once each, so counting them is counting choice vectors
    have hcard := congrArg Finset.card (List.toFinset_filter
      ((choiceVectors (s.length - h)).map fun c => (shuffleFrom h (s.length - h) s c).1)
      fun τ => decide (partitionLoop hasRecord τ h (s.length - 1) = σ))
    rw [List.toFinset_card_of_nodup ((nodup_map_shuffleFrom hs (by omega)).filter _),
      ← List.countP_eq_length_filter, List.countP_map] at hcard
    simp only [decide_eq_true_eq] at hcard
    rw [hruns, ← hfiber, ← hcard]
    simp only [hbuild, hc, if_true, Function.comp_def]

end PsiphonResetOrder
