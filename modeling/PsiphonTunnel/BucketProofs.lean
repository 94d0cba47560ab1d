import Mathlib.Data.List.Nodup

/-! # Buckets — the keyed store under every datastore operation

    A bolt bucket is modelled as its key/value pairs in cursor order, each key
    once (`Bucket`, the uniqueness carried as a field, so no bucket with a
    repeated key can be built).  `get`, `put` and `delete` are the three
    operations the datastore code performs on a bucket; each comes with its
    read-back and frame lemmas here, so no later proof unfolds them.

    Keys are Go strings converted to `[]byte`; that conversion is injective and
    commutes with concatenation, so keys are modelled as `String`.  A present
    key keeps its cursor position when overwritten and a new key is added last:
    bolt itself iterates in byte order of the keys, and no result of this
    development depends on the order. -/

namespace PsiphonBucket

/-- A bolt bucket: its key/value pairs in cursor order, each key once. -/
structure Bucket (V : Type) where
  entries : List (String × V)
  keys_nodup : (entries.map Prod.fst).Nodup

namespace Bucket

variable {V : Type}

/-- The empty bucket. -/
def empty : Bucket V := ⟨[], List.nodup_nil⟩

/-- The bucket's keys in cursor order. -/
def keys (b : Bucket V) : List String := b.entries.map Prod.fst

/-- The value paired with the first occurrence of key `k`. -/
def lookupKey (k : String) : List (String × V) → Option V
  | [] => none
  | p :: l => if p.1 = k then some p.2 else lookupKey k l

/-- `bucket.get(key)`: the stored value, `none` (Go `nil`) for a missing key. -/
def get (b : Bucket V) (k : String) : Option V := lookupKey k b.entries

/-- Overwrite the value of key `k` in place. -/
def setValue (k : String) (v : V) (p : String × V) : String × V :=
  if p.1 = k then (k, v) else p

theorem map_fst_setValue (k : String) (v : V) (l : List (String × V)) :
    (l.map (setValue k v)).map Prod.fst = l.map Prod.fst := by
  induction l with
  | nil => rfl
  | cons p l ih =>
      by_cases h : p.1 = k <;> simp_all [setValue]

/-- `bucket.put(key, value)`: overwrite a present key in place, or add the key last. -/
def put (b : Bucket V) (k : String) (v : V) : Bucket V :=
  if h : k ∈ b.keys then
    ⟨b.entries.map (setValue k v), by rw [map_fst_setValue]; exact b.keys_nodup⟩
  else
    ⟨b.entries ++ [(k, v)], by
      rw [List.map_append, List.nodup_append]
      exact ⟨b.keys_nodup, by simp, by simpa [keys] using h⟩⟩

/-- `bucket.delete(key)`: drop the key if present. -/
def delete (b : Bucket V) (k : String) : Bucket V :=
  ⟨b.entries.filter (fun p => p.1 ≠ k), by
    exact b.keys_nodup.sublist ((List.filter_sublist _).map _)⟩

/-! ## Reading back -/

@[simp] theorem get_empty (k : String) : (empty : Bucket V).get k = none := rfl

@[simp] theorem keys_empty : (empty : Bucket V).keys = [] := rfl

theorem lookupKey_isSome (l : List (String × V)) (k : String) :
    (lookupKey k l).isSome ↔ k ∈ l.map Prod.fst := by
  induction l with
  | nil => simp [lookupKey]
  | cons p l ih =>
      by_cases h : p.1 = k
      · simp [lookupKey, h]
      · simp [lookupKey, h, Ne.symm h, ih]

theorem lookupKey_append (l l' : List (String × V)) (k : String) :
    lookupKey k (l ++ l') = (lookupKey k l).or (lookupKey k l') := by
  induction l with
  | nil => simp [lookupKey]
  | cons p l ih => by_cases h : p.1 = k <;> simp_all [lookupKey]

/-- A key is present exactly when `get` finds a value. -/
theorem mem_keys_iff {b : Bucket V} {k : String} : k ∈ b.keys ↔ (b.get k).isSome :=
  (lookupKey_isSome _ _).symm

theorem lookupKey_of_mem {l : List (String × V)} (hl : (l.map Prod.fst).Nodup) {k : String}
    {v : V} (h : (k, v) ∈ l) : lookupKey k l = some v := by
  induction l with
  | nil => cases h
  | cons p l ih =>
      rw [List.map_cons, List.nodup_cons] at hl
      rcases List.mem_cons.mp h with rfl | h
      · simp [lookupKey]
      · have hne : p.1 ≠ k := fun he => hl.1 (he ▸ List.mem_map_of_mem Prod.fst h)
        simp [lookupKey, hne, ih hl.2 h]

/-- A cursor snapshot agrees with `get`. -/
theorem get_of_mem_entries {b : Bucket V} {k : String} {v : V} (h : (k, v) ∈ b.entries) :
    b.get k = some v :=
  lookupKey_of_mem b.keys_nodup h

/-- `get` reads its value off a cursor snapshot. -/
theorem mem_entries_of_get {b : Bucket V} {k : String} {v : V} (h : b.get k = some v) :
    (k, v) ∈ b.entries := by
  suffices ∀ l : List (String × V), lookupKey k l = some v → (k, v) ∈ l from this _ h
  intro l hl
  induction l with
  | nil => cases hl
  | cons p l ih =>
      unfold lookupKey at hl
      split at hl
      · obtain ⟨a, b⟩ := p
        cases hl
        cases ‹a = k›
        exact .head _
      · exact .tail _ (ih hl)

theorem get_eq_none_iff {b : Bucket V} {k : String} : b.get k = none ↔ k ∉ b.keys := by
  rw [mem_keys_iff]; cases b.get k <;> simp

theorem lookupKey_map_setValue (l : List (String × V)) (k k' : String) (v : V) :
    lookupKey k' (l.map (setValue k v)) = if k' = k ∧ k ∈ l.map Prod.fst then some v
      else lookupKey k' l := by
  induction l with
  | nil => simp [lookupKey]
  | cons p l ih =>
      obtain ⟨a, b⟩ := p
      by_cases ha : a = k
      · subst ha
        by_cases hk : a = k'
        · simp [setValue, lookupKey, hk]
        · simp [setValue, lookupKey, hk, Ne.symm hk, ih]
      · by_cases hk : a = k'
        · subst hk; simp [setValue, lookupKey, ha]
        · have hmem : k ∈ a :: l.map Prod.fst ↔ k ∈ l.map Prod.fst := by simp [Ne.symm ha]
          simp only [setValue, lookupKey, List.map_cons, ha, hk, if_false, ih, hmem]

@[simp] theorem get_put_self (b : Bucket V) (k : String) (v : V) : (b.put k v).get k = some v := by
  unfold put get
  split
  · rw [lookupKey_map_setValue, if_pos ⟨rfl, by assumption⟩]
  · have : lookupKey k b.entries = none :=
      Option.not_isSome_iff_eq_none.mp (mt (lookupKey_isSome _ _).mp ‹k ∉ b.keys›)
    simp [lookupKey_append, this, lookupKey]

theorem get_put_of_ne (b : Bucket V) {k k' : String} (v : V) (h : k' ≠ k) :
    (b.put k v).get k' = b.get k' := by
  unfold put get
  split
  · rw [lookupKey_map_setValue, if_neg (fun h' => h h'.1)]
  · simp only [lookupKey_append, lookupKey, Ne.symm h, if_false]
    cases lookupKey k' b.entries <;> rfl

theorem get_put (b : Bucket V) (k k' : String) (v : V) :
    (b.put k v).get k' = if k' = k then some v else b.get k' := by
  split
  · subst_vars; exact get_put_self b _ v
  · exact get_put_of_ne b v ‹_›

theorem lookupKey_filter (l : List (String × V)) (k k' : String) :
    lookupKey k' (l.filter (fun p => p.1 ≠ k)) = if k' = k then none else lookupKey k' l := by
  induction l with
  | nil => simp [lookupKey]
  | cons p l ih =>
      simp only [ne_eq, decide_not] at ih ⊢
      by_cases ha : p.1 = k
      · by_cases hk : k' = k
        · subst hk; simpa [List.filter_cons, ha] using ih
        · simp [List.filter_cons, lookupKey, ha, hk, Ne.symm hk, ih]
      · by_cases hk : p.1 = k'
        · subst hk; simp [List.filter_cons, lookupKey, ha, Ne.symm ha]
        · simp [List.filter_cons, lookupKey, ha, hk, ih]

@[simp] theorem get_delete (b : Bucket V) (k k' : String) :
    (b.delete k).get k' = if k' = k then none else b.get k' :=
  lookupKey_filter _ _ _

/-- `put` keeps the key list, or adds the new key last. -/
theorem keys_put (b : Bucket V) (k : String) (v : V) :
    (b.put k v).keys = if k ∈ b.keys then b.keys else b.keys ++ [k] := by
  unfold put
  split
  · exact map_fst_setValue ..
  · simp [keys]

theorem mem_keys_put {b : Bucket V} {k k' : String} {v : V} :
    k' ∈ (b.put k v).keys ↔ k' = k ∨ k' ∈ b.keys := by
  rw [keys_put]
  split
  · exact ⟨Or.inr, by rintro (rfl | h) <;> assumption⟩
  · simp [or_comm]

end Bucket

end PsiphonBucket
