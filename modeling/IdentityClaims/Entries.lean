/-!
# Entries in order of insertion

A map is a list of entries with distinct keys, in the order in which the keys were first put.
Putting a key again replaces the value where it stands.
-/

namespace IdentityClaims

abbrev Entries (κ ν : Type) := List (κ × ν)

namespace Entries

variable {κ ν : Type} [DecidableEq κ]

def get? (es : Entries κ ν) (k : κ) : Option ν := (List.find? (fun e => e.1 = k) es).map Prod.snd

/-- Gives a key a value: in its place if the key is there, at the end otherwise. -/
def put : Entries κ ν → κ → ν → Entries κ ν
  | [], k, v => [(k, v)]
  | e :: es, k, v => if e.1 = k then (k, v) :: es else e :: put es k v

def putAll (es new : Entries κ ν) : Entries κ ν := new.foldl (fun es e => put es e.1 e.2) es

theorem putAll_cons (es new : Entries κ ν) (e : κ × ν) :
    putAll es (e :: new) = putAll (put es e.1 e.2) new := rfl

/-- The entries of a list of pairs: of equal keys the first place and the last value. -/
def ofPairs (pairs : List (κ × ν)) : Entries κ ν := putAll [] pairs

def keys (es : Entries κ ν) : List κ := es.map Prod.fst

def has (es : Entries κ ν) (k : κ) : Bool := es.any fun e => e.1 = k

@[simp] theorem get?_nil (k : κ) : get? ([] : Entries κ ν) k = none := rfl

theorem get?_cons (e : κ × ν) (es : Entries κ ν) (k : κ) :
    get? (e :: es) k = if e.1 = k then some e.2 else get? es k := by
  by_cases h : e.1 = k <;> simp [get?, h]

theorem get?_append (es fs : Entries κ ν) (k : κ) :
    get? (es ++ fs) k = (get? es k).or (get? fs k) := by
  induction es with
  | nil => simp
  | cons e es ih =>
    rw [List.cons_append, get?_cons, get?_cons, ih]
    split <;> rfl

/-- Of entries that are chosen by their keys, a key that is chosen has the value it had. -/
theorem get?_filter_key (es : Entries κ ν) (p : κ → Bool) (k : κ) :
    get? (es.filter fun e => p e.1) k = if p k then get? es k else none := by
  induction es with
  | nil => simp
  | cons e es ih =>
    by_cases hp : p e.1 = true
    · by_cases he : e.1 = k
      · subst he
        simp [hp, get?_cons]
      · simp [hp, get?_cons, he, ih]
    · by_cases he : e.1 = k
      · subst he
        simp [hp, ih]
      · simp [hp, get?_cons, he, ih]

/-- Putting a key changes the value of that key only. -/
theorem get?_put (es : Entries κ ν) (k k' : κ) (v : ν) :
    get? (put es k v) k' = if k = k' then some v else get? es k' := by
  induction es with
  | nil => simp [put, get?_cons]
  | cons e es ih =>
    by_cases h : e.1 = k
    · by_cases h' : k = k' <;> simp [put, get?_cons, h, h']
    · by_cases h' : k = k'
      · subst h'
        simp [put, get?_cons, h, ih]
      · simp [put, get?_cons, h, h', ih]

/-- Putting a key adds it at the end of the keys unless it is one of them. -/
theorem keys_put (es : Entries κ ν) (k : κ) (v : ν) :
    keys (put es k v) = if k ∈ keys es then keys es else keys es ++ [k] := by
  induction es with
  | nil => simp [put, keys]
  | cons e es ih =>
    by_cases h : e.1 = k
    · simp [put, keys, h]
    · have h' : ¬ k = e.1 := fun c => h c.symm
      simp only [put, h, if_false, keys, List.map_cons, List.mem_cons, h', false_or]
      simp only [keys] at ih
      rw [ih]
      by_cases hk : k ∈ es.map Prod.fst <;> simp [hk]

theorem nodup_keys_put {es : Entries κ ν} (h : (keys es).Nodup) (k : κ) (v : ν) :
    (keys (put es k v)).Nodup := by
  rw [keys_put]
  split
  · exact h
  · rename_i hk
    refine List.nodup_append.2 ⟨h, by simp, fun a ha b hb hab => hk ?_⟩
    rw [List.mem_singleton.1 hb] at hab
    exact hab ▸ ha

theorem mem_of_mem_put {es : Entries κ ν} {k : κ} {v : ν} {e : κ × ν} (h : e ∈ put es k v) :
    e = (k, v) ∨ e ∈ es := by
  induction es with
  | nil => exact .inl (List.mem_singleton.1 h)
  | cons f es ih =>
    rw [put] at h
    split at h
    · exact (List.mem_cons.1 h).imp_right (List.mem_cons_of_mem _)
    · rcases List.mem_cons.1 h with rfl | h
      · exact .inr List.mem_cons_self
      · exact (ih h).imp_right (List.mem_cons_of_mem _)

theorem nodup_keys_putAll {es : Entries κ ν} (h : (keys es).Nodup) (new : Entries κ ν) :
    (keys (putAll es new)).Nodup := by
  induction new generalizing es with
  | nil => exact h
  | cons e new ih => exact ih (nodup_keys_put h e.1 e.2)

theorem mem_of_mem_putAll {es new : Entries κ ν} {e : κ × ν} (h : e ∈ putAll es new) :
    e ∈ es ∨ e ∈ new := by
  induction new generalizing es with
  | nil => exact .inl h
  | cons f new ih =>
    rcases ih (show e ∈ putAll (put es f.1 f.2) new from h) with h | h
    · rcases mem_of_mem_put h with rfl | h
      · exact .inr List.mem_cons_self
      · exact .inl h
    · exact .inr (List.mem_cons_of_mem _ h)

theorem nodup_keys_ofPairs (pairs : List (κ × ν)) : (keys (ofPairs pairs)).Nodup :=
  nodup_keys_putAll (show (keys ([] : Entries κ ν)).Nodup from .nil) pairs

theorem mem_of_mem_ofPairs {pairs : List (κ × ν)} {e : κ × ν} (h : e ∈ ofPairs pairs) :
    e ∈ pairs :=
  (mem_of_mem_putAll h).resolve_left (by simp)

theorem put_of_not_mem {es : Entries κ ν} {k : κ} (h : k ∉ keys es) (v : ν) :
    put es k v = es ++ [(k, v)] := by
  induction es with
  | nil => rfl
  | cons e es ih =>
    have he : ¬ e.1 = k := fun c => h (by simp [keys, c])
    have hes : k ∉ keys es := fun c => h (List.mem_cons_of_mem _ c)
    simp [put, he, ih hes]

/-- Entries with new keys, each key once, are put at the end as they are. -/
theorem putAll_of_nodup {es new : Entries κ ν} (h : (keys (es ++ new)).Nodup) :
    putAll es new = es ++ new := by
  induction new generalizing es with
  | nil => simp [putAll]
  | cons e new ih =>
    have he : e.1 ∉ keys es := by
      intro hm
      rw [keys, List.map_append, List.map_cons] at h
      exact (List.nodup_append.1 h).2.2 e.1 hm e.1 (by simp) rfl
    have hes : putAll es (e :: new) = putAll (es ++ [e]) new := by
      rw [putAll, List.foldl_cons, put_of_not_mem he]
      rfl
    rw [hes, ih (by simpa using h)]
    simp

theorem ofPairs_of_nodup {pairs : List (κ × ν)} (h : (pairs.map Prod.fst).Nodup) :
    ofPairs pairs = pairs := putAll_of_nodup (by simpa [keys] using h)

theorem has_iff_mem_keys (es : Entries κ ν) (k : κ) : has es k = true ↔ k ∈ keys es := by
  simp [has, keys]

theorem get?_eq_none_iff (es : Entries κ ν) (k : κ) : get? es k = none ↔ k ∉ keys es := by
  simp only [get?, keys, Option.map_eq_none_iff, List.find?_eq_none, List.mem_map, not_exists,
    not_and, decide_eq_true_eq]

theorem mem_of_get? {es : Entries κ ν} {k : κ} {v : ν} (h : get? es k = some v) :
    (k, v) ∈ es := by
  obtain ⟨e, he, rfl⟩ := Option.map_eq_some_iff.1 h
  have hk : e.1 = k := by simpa using List.find?_some he
  exact hk ▸ List.mem_of_find?_eq_some he

theorem get?_of_mem {es : Entries κ ν} (hn : (keys es).Nodup) {k : κ} {v : ν} (h : (k, v) ∈ es) :
    get? es k = some v := by
  induction es with
  | nil => cases h
  | cons e es ih =>
    obtain ⟨hk, hes⟩ := List.nodup_cons.1 hn
    rw [get?_cons]
    rcases List.mem_cons.1 h with rfl | h
    · rw [if_pos rfl]
    · rw [if_neg fun he : e.1 = k => hk (he ▸ List.mem_map_of_mem h), ih hes h]

theorem get?_perm {es fs : Entries κ ν} (h : es.Perm fs) (hn : (keys es).Nodup) (k : κ) :
    get? es k = get? fs k := by
  have hn' : (keys fs).Nodup := (h.map Prod.fst).nodup_iff.1 hn
  ext v
  constructor
  · intro hv
    exact get?_of_mem hn' (h.mem_iff.1 (mem_of_get? hv))
  · intro hv
    exact get?_of_mem hn (h.mem_iff.2 (mem_of_get? hv))

/-- Of entries that are put into others, the new value of a key counts. -/
theorem get?_putAll {new : Entries κ ν} (hn : (keys new).Nodup) (es : Entries κ ν) (k : κ) :
    get? (putAll es new) k = (get? new k).or (get? es k) := by
  induction new generalizing es with
  | nil => rfl
  | cons e new ih =>
    obtain ⟨he, hnew⟩ := List.nodup_cons.1 hn
    rw [putAll_cons, ih hnew, get?_put, get?_cons]
    by_cases hk : e.1 = k
    · have hnone : get? new k = none := (get?_eq_none_iff new k).2 (hk ▸ he)
      simp [hk, hnone]
    · simp [hk]

theorem get?_putAll_reverse (es new : Entries κ ν) (k : κ) :
    get? (putAll es new) k = (get? new.reverse k).or (get? es k) := by
  induction new generalizing es with
  | nil => rfl
  | cons e new ih =>
    rw [putAll_cons, ih, get?_put, List.reverse_cons, get?_append, get?_cons, get?_nil,
      Option.or_assoc]
    split <;> rfl

theorem get?_ofPairs (pairs : List (κ × ν)) (k : κ) :
    get? (ofPairs pairs) k = get? pairs.reverse k := by
  rw [ofPairs, get?_putAll_reverse, get?_nil, Option.or_none]

/-- Entries that are put into others leave the keys where they are and add the new ones in order. -/
theorem keys_putAll {new : Entries κ ν} (hn : (keys new).Nodup) (es : Entries κ ν) :
    keys (putAll es new) = keys es ++ (keys new).filter fun k => k ∉ keys es := by
  induction new generalizing es with
  | nil => simp [putAll, keys]
  | cons e new ih =>
    obtain ⟨he, hnew⟩ := List.nodup_cons.1 hn
    have hcons : keys (e :: new) = e.1 :: keys new := rfl
    rw [putAll_cons, ih hnew, keys_put, hcons, List.filter_cons]
    by_cases hk : e.1 ∈ keys es
    · simp [hk]
    · -- the first new key is added, and it is not among the others
      have hrest : (keys new).filter (fun k => k ∉ keys es ++ [e.1]) =
          (keys new).filter fun k => k ∉ keys es := by
        refine List.filter_congr fun k hmem => ?_
        have hne : k ≠ e.1 := fun hke => he (hke ▸ hmem)
        simp [hne]
      simp only [hk, not_false_eq_true, decide_true, if_true, if_false, hrest,
        List.append_assoc, List.singleton_append]

theorem keys_putAll_eraseDups (es new : Entries κ ν) :
    keys (putAll es new) = keys es ++ ((keys new).filter fun k => k ∉ keys es).eraseDups := by
  induction new generalizing es with
  | nil => simp [putAll, keys]
  | cons e new ih =>
    have hcons : keys (e :: new) = e.1 :: keys new := rfl
    rw [putAll_cons, ih, keys_put, hcons, List.filter_cons]
    by_cases hk : e.1 ∈ keys es
    · simp [hk]
    · have hrest : (keys new).filter (fun k => k ∉ keys es ++ [e.1]) =
          ((keys new).filter fun k => k ∉ keys es).filter fun k => !k == e.1 := by
        rw [List.filter_filter]
        exact List.filter_congr fun k _ => by by_cases hke : k = e.1 <;> simp [hke]
      simp only [hk, not_false_eq_true, decide_true, if_true, if_false, hrest,
        List.eraseDups_cons, List.append_assoc, List.singleton_append]

theorem keys_ofPairs (pairs : List (κ × ν)) : keys (ofPairs pairs) = (keys pairs).eraseDups := by
  have hfilter : (keys pairs).filter (fun k => k ∉ keys ([] : Entries κ ν)) = keys pairs :=
    List.filter_eq_self.2 fun k _ => by simp [keys]
  rw [ofPairs, keys_putAll_eraseDups, hfilter]
  rfl

theorem eq_map_get? {es : Entries κ ν} (h : (keys es).Nodup) (default : ν) :
    es = (keys es).map fun k => (k, (get? es k).getD default) := by
  induction es with
  | nil => rfl
  | cons e es ih =>
    obtain ⟨hk, hes⟩ := List.nodup_cons.1 h
    have htail : ∀ k ∈ keys es, ¬ e.1 = k := fun k hm he => hk (he ▸ hm)
    simp only [keys, List.map_cons, get?_cons, if_true, Option.getD_some, List.cons.injEq, true_and]
    refine (ih hes).trans (List.map_congr_left fun k hm => ?_)
    rw [if_neg (htail k hm)]

end Entries

end IdentityClaims
