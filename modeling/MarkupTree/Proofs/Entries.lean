import Mathlib.Data.List.Induction
import MarkupTree.Entries

namespace MarkupTree.Entries
variable {κ ν : Type} [BEq κ]

def last? (key : κ) (pairs : List (κ × ν)) : Option ν :=
  ((pairs.filter fun p => p.1 == key).getLast?).map Prod.snd

theorem last?_concat (key : κ) (pairs : List (κ × ν)) (p : κ × ν) :
    last? key (pairs ++ [p]) = if p.1 == key then some p.2 else last? key pairs := by
  by_cases h : p.1 == key <;> simp [last?, List.filter_append, h]

theorem ofList_concat (pairs : List (κ × ν)) (p : κ × ν) :
    ofList (pairs ++ [p]) = put p.1 p.2 (ofList pairs) := by
  simp [ofList, List.foldl_append]

theorem snd_of_mem_put {entries : Entries κ ν} {k : κ} {v : ν} {p : κ × ν}
    (h : p ∈ put k v entries) : p.2 = v ∨ p ∈ entries := by
  induction entries with
  | nil =>
    rw [put, List.mem_singleton] at h
    exact .inl (congrArg Prod.snd h)
  | cons q rest ih =>
    obtain ⟨j, w⟩ := q
    rw [put] at h
    split at h
    · rcases List.mem_cons.mp h with rfl | hrest
      · exact .inl rfl
      · exact .inr (List.mem_cons_of_mem _ hrest)
    · rcases List.mem_cons.mp h with rfl | hrest
      · exact .inr List.mem_cons_self
      · exact (ih hrest).imp_right (List.mem_cons_of_mem _)

theorem mem_keys_of_mem_keys_put {entries : Entries κ ν} {k key : κ} {v : ν}
    (h : key ∈ keys (put k v entries)) : key = k ∨ key ∈ keys entries := by
  induction entries with
  | nil => exact .inl (List.mem_singleton.mp h)
  | cons p rest ih =>
    obtain ⟨j, w⟩ := p
    rw [put] at h
    split at h
    · exact .inr h
    · rcases List.mem_cons.mp h with hfirst | hrest
      · exact .inr (List.mem_cons.mpr (.inl hfirst))
      · exact (ih hrest).imp_right (List.mem_cons_of_mem _)

theorem exists_of_mem_ofList {pairs : List (κ × ν)} {p : κ × ν} (h : p ∈ ofList pairs) :
    ∃ q ∈ pairs, q.2 = p.2 := by
  induction pairs using List.reverseRecOn with
  | nil => cases h
  | append_singleton pairs q ih =>
    rw [ofList_concat] at h
    rcases snd_of_mem_put h with hvalue | hmem
    · exact ⟨q, by simp, hvalue.symm⟩
    · obtain ⟨q', hq', hvalue⟩ := ih hmem
      exact ⟨q', List.mem_append_left _ hq', hvalue⟩

variable [LawfulBEq κ]

theorem mem_of_get? {entries : Entries κ ν} {k : κ} {v : ν} (h : get? k entries = some v) :
    (k, v) ∈ entries := by
  induction entries with
  | nil => simp [get?] at h
  | cons p rest ih =>
    obtain ⟨j, w⟩ := p
    by_cases hj : j = k
    · simp_all [get?]
    · exact List.mem_cons_of_mem _ (ih (by simpa [get?, hj] using h))

/-- The last of the values given for a key is the one that counts. -/
theorem get?_ofList (pairs : List (κ × ν)) (key : κ) :
    get? key (ofList pairs) = last? key pairs := by
  induction pairs using List.reverseRecOn with
  | nil => rfl
  | append_singleton pairs p ih =>
    rw [ofList_concat, last?_concat]
    by_cases h : p.1 = key
    · subst h
      simp [get?_put_self]
    · rw [get?_put_of_ne _ _ h, ih, if_neg (by simpa using h)]

/-- A pair is found in the entries if no other pair gives its key another value. -/
theorem get?_ofList_of_unique {pairs : List (κ × ν)} {p : κ × ν} (hp : p ∈ pairs)
    (hunique : ∀ q ∈ pairs, q.1 = p.1 → q.2 = p.2) : get? p.1 (ofList pairs) = some p.2 := by
  have hmem : p ∈ pairs.filter fun q => q.1 == p.1 := List.mem_filter.mpr ⟨hp, beq_self_eq_true _⟩
  obtain ⟨q, hlast⟩ : ∃ q, (pairs.filter fun q => q.1 == p.1).getLast? = some q :=
    Option.isSome_iff_exists.mp (List.getLast?_isSome.mpr (List.ne_nil_of_mem hmem))
  obtain ⟨hq, hkey⟩ := List.mem_filter.mp (List.mem_of_getLast? hlast)
  rw [get?_ofList, last?, hlast, Option.map_some, hunique q hq (beq_iff_eq.mp hkey)]

theorem eraseDups_concat (keys : List κ) (key : κ) :
    (keys ++ [key]).eraseDups =
      if key ∈ keys then keys.eraseDups else keys.eraseDups ++ [key] := by
  rw [List.eraseDups_append]
  by_cases h : key ∈ keys <;> simp [h, List.removeAll, List.eraseDups_cons]

/-- Keys stand in the order in which they first came. -/
theorem keys_ofList (pairs : List (κ × ν)) :
    keys (ofList pairs) = (pairs.map Prod.fst).eraseDups := by
  induction pairs using List.reverseRecOn with
  | nil => rfl
  | append_singleton pairs p ih =>
    rw [ofList_concat, keys_put, ih, List.map_append, List.map_singleton, eraseDups_concat]
    simp only [List.mem_eraseDups]

theorem nodup_keys_ofList (pairs : List (κ × ν)) : (keys (ofList pairs)).Nodup := by
  rw [keys_ofList]
  induction (pairs.map Prod.fst) using List.reverseRecOn with
  | nil => exact List.nodup_nil
  | append_singleton names name ih =>
    rw [eraseDups_concat]
    split
    · exact ih
    · next h =>
      refine List.nodup_append.mpr ⟨ih, by simp, fun a ha b hb => ?_⟩
      rintro rfl
      exact h (List.mem_singleton.mp hb ▸ List.mem_eraseDups.mp ha)

theorem put_of_notMem {entries : Entries κ ν} {k : κ} (h : k ∉ keys entries) (v : ν) :
    put k v entries = entries ++ [(k, v)] := by
  induction entries with
  | nil => rfl
  | cons p rest ih =>
    obtain ⟨j, w⟩ := p
    rw [keys, List.map_cons, List.mem_cons, not_or] at h
    rw [put, if_neg (by simpa using Ne.symm h.1), ih h.2, List.cons_append]

theorem ofList_eq_self {entries : Entries κ ν} (h : (keys entries).Nodup) :
    ofList entries = entries := by
  induction entries using List.reverseRecOn with
  | nil => rfl
  | append_singleton entries p ih =>
    rw [keys, List.map_append, List.map_singleton, List.nodup_append] at h
    obtain ⟨hentries, -, hnew⟩ := h
    have hp : p.1 ∉ keys entries := fun hmem => hnew p.1 hmem p.1 (List.mem_singleton_self _) rfl
    rw [ofList_concat, ih hentries, put_of_notMem hp]

theorem get?_of_mem {entries : Entries κ ν} (hkeys : (keys entries).Nodup) {k : κ} {v : ν}
    (h : (k, v) ∈ entries) : get? k entries = some v := by
  induction entries with
  | nil => cases h
  | cons p rest ih =>
    obtain ⟨j, w⟩ := p
    rw [keys, List.map_cons, List.nodup_cons] at hkeys
    rcases List.mem_cons.mp h with h | h
    · cases h
      simp [get?]
    · have hj : j ≠ k := by
        rintro rfl
        exact hkeys.1 (List.mem_map.mpr ⟨_, h, rfl⟩)
      rw [get?, if_neg (by simpa using hj)]
      exact ih hkeys.2 h

theorem mem_of_mem_ofList {pairs : List (κ × ν)} {p : κ × ν} (h : p ∈ ofList pairs) :
    p ∈ pairs := by
  have hget := get?_of_mem (nodup_keys_ofList pairs) h
  rw [get?_ofList, last?] at hget
  obtain ⟨q, hlast, hvalue⟩ := Option.map_eq_some_iff.mp hget
  obtain ⟨hq, hkey⟩ := List.mem_filter.mp (List.mem_of_getLast? hlast)
  rwa [Prod.ext (beq_iff_eq.mp hkey) hvalue] at hq

theorem get?_eq_none_iff {entries : Entries κ ν} {k : κ} :
    get? k entries = none ↔ k ∉ keys entries := by
  induction entries with
  | nil => simp [get?, keys]
  | cons p rest ih =>
    obtain ⟨j, w⟩ := p
    by_cases hj : j = k
    · subst hj
      simp [get?, keys]
    · have hk : k ≠ j := Ne.symm hj
      simpa [get?, keys, hj, hk] using ih

omit [LawfulBEq κ] in
@[simp] theorem get?_append (k : κ) (entries rest : Entries κ ν) :
    get? k (entries ++ rest) = (get? k entries).or (get? k rest) := by
  induction entries with
  | nil => rfl
  | cons p entries ih =>
    obtain ⟨j, w⟩ := p
    rw [List.cons_append, get?, get?]
    split
    · rfl
    · exact ih

omit [LawfulBEq κ] in
@[simp] theorem get?_toList_map {α : Type} (k key : κ) (o : Option α) (f : α → ν) :
    get? k (o.map fun a => (key, f a)).toList = if key == k then o.map f else none := by
  cases o with
  | none => simp [get?]
  | some a => simp [get?]

section Renamed
variable {κ' ν' : Type} [BEq κ'] [LawfulBEq κ'] (rename : κ → κ')

/-- Entries collected under their keys and then once more under new keys. -/
def renamed (convert : ν → ν') (pairs : List (κ × ν)) : Entries κ' ν' :=
  ofList ((ofList pairs).map fun p => (rename p.1, convert p.2))

theorem eraseDups_map_eraseDups (names : List κ) :
    (names.eraseDups.map rename).eraseDups = (names.map rename).eraseDups := by
  induction names using List.reverseRecOn with
  | nil => rfl
  | append_singleton names name ih =>
    rw [eraseDups_concat, List.map_append, List.map_singleton, eraseDups_concat]
    by_cases h : name ∈ names
    · rw [if_pos h, ih, if_pos (List.mem_map_of_mem h)]
    · have hiff : rename name ∈ names.eraseDups.map rename ↔ rename name ∈ names.map rename := by
        simp only [List.mem_map, List.mem_eraseDups]
      rw [if_neg h, List.map_append, List.map_singleton, eraseDups_concat, ih]
      simp only [hiff]

/-- New keys stand in the order in which they first came up. The first collection changes nothing
about that. -/
theorem keys_renamed (convert : ν → ν') (pairs : List (κ × ν)) :
    keys (renamed rename convert pairs) = (pairs.map fun p => rename p.1).eraseDups := by
  calc keys (renamed rename convert pairs)
      = ((keys (ofList pairs)).map rename).eraseDups := by
        rw [renamed, keys_ofList, keys, List.map_map, List.map_map]
        rfl
    _ = ((pairs.map Prod.fst).map rename).eraseDups := by
        rw [keys_ofList, eraseDups_map_eraseDups]
    _ = (pairs.map fun p => rename p.1).eraseDups := by
        rw [List.map_map]
        rfl

theorem exists_of_mem_renamed {convert : ν → ν'} {pairs : List (κ × ν)} {p : κ' × ν'}
    (h : p ∈ renamed rename convert pairs) : ∃ q ∈ pairs, rename q.1 = p.1 ∧ convert q.2 = p.2 := by
  obtain ⟨q, hq, rfl⟩ := List.mem_map.mp (mem_of_mem_ofList h)
  exact ⟨q, mem_of_mem_ofList hq, rfl, rfl⟩

def lastRenamed (k : κ') (pairs : List (κ × ν)) : Option (κ × ν) :=
  (pairs.filter fun p => rename p.1 == k).getLast?

/-- Of the keys that get a new key, the one whose first pair comes last. -/
def latestKey (k : κ') (pairs : List (κ × ν)) : Option κ :=
  ((pairs.map Prod.fst).eraseDups.filter fun key => rename key == k).getLast?

theorem getLast?_filter_of_pos {α : Type} {xs : List α} {x : α} {q : α → Bool}
    (h : xs.getLast? = some x) (hq : q x) : (xs.filter q).getLast? = some x := by
  obtain ⟨ys, rfl⟩ := List.getLast?_eq_some_iff.mp h
  simp [List.filter_append, hq]

/-- A new key has the last value of the key that came up last for it, and not the last of all the
values given for it. -/
theorem get?_renamed (convert : ν → ν') (pairs : List (κ × ν)) (k : κ') :
    get? k (renamed rename convert pairs) =
      (latestKey rename k pairs).bind fun key => (last? key pairs).map convert := by
  have hkeys : (keys (ofList pairs)).filter (fun key => rename key == k) =
      ((ofList pairs).filter fun p => rename p.1 == k).map Prod.fst := by
    rw [keys, List.filter_map]
    rfl
  have hlatest : latestKey rename k pairs =
      (((ofList pairs).filter fun p => rename p.1 == k).getLast?).map Prod.fst := by
    rw [latestKey, ← keys_ofList, hkeys, List.getLast?_map]
  -- Keys keep their first places, so the last entry for the new key belongs to the latest of them.
  rw [renamed, get?_ofList, last?, List.filter_map, List.getLast?_map, hlatest]
  simp only [Function.comp_def]
  cases hlast : ((ofList pairs).filter fun p => rename p.1 == k).getLast? with
  | none => rfl
  | some p =>
    have hmem := (List.mem_filter.mp (List.mem_of_getLast? hlast)).1
    have hget := get?_of_mem (nodup_keys_ofList pairs) hmem
    rw [get?_ofList] at hget
    simp [hget]

/-- The last pair of a new key is also the last one of its own key. -/
theorem last?_of_lastRenamed {pairs : List (κ × ν)} {k : κ'} {p : κ × ν}
    (h : lastRenamed rename k pairs = some p) : last? p.1 pairs = some p.2 := by
  have hp := (List.mem_filter.mp (List.mem_of_getLast? h)).2
  have hfilter : (pairs.filter fun q => rename q.1 == k).filter (fun q => q.1 == p.1) =
      pairs.filter fun q => q.1 == p.1 := by
    rw [List.filter_filter]
    refine List.filter_congr fun q _ => ?_
    by_cases hq : q.1 = p.1
    · simpa [hq] using hp
    · simp [hq]
  rw [last?, ← hfilter, getLast?_filter_of_pos h (by simp)]
  rfl

theorem exists_lastRenamed {convert : ν → ν'} {pairs : List (κ × ν)} {k : κ'}
    (h : k ∈ keys (renamed rename convert pairs)) : ∃ p, lastRenamed rename k pairs = some p := by
  rw [renamed, keys_ofList, List.mem_eraseDups, List.map_map] at h
  obtain ⟨q, hq, hk⟩ := List.mem_map.mp h
  have hkey : q.1 ∈ keys (ofList pairs) := List.mem_map.mpr ⟨q, hq, rfl⟩
  rw [keys_ofList, List.mem_eraseDups] at hkey
  obtain ⟨p, hp, hpq⟩ := List.mem_map.mp hkey
  have hmem : p ∈ pairs.filter fun p => rename p.1 == k :=
    List.mem_filter.mpr ⟨hp, by simpa [hpq] using hk⟩
  rw [lastRenamed, ← Option.isSome_iff_exists, List.getLast?_isSome]
  exact List.ne_nil_of_mem hmem

/-- The last of all the values given for a new key counts exactly if its own key came up last for
the new key, or if the values agree. -/
theorem get?_renamed_eq_last_iff (convert : ν → ν') {pairs : List (κ × ν)} {k : κ'} {p : κ × ν}
    (h : lastRenamed rename k pairs = some p) :
    get? k (renamed rename convert pairs) = some (convert p.2) ↔
      latestKey rename k pairs = some p.1 ∨ ∃ key v, latestKey rename k pairs = some key ∧
        last? key pairs = some v ∧ convert v = convert p.2 := by
  rw [get?_renamed]
  constructor
  · intro hget
    obtain ⟨key, hkey, hv⟩ := Option.bind_eq_some_iff.mp hget
    obtain ⟨v, hlast, hv⟩ := Option.map_eq_some_iff.mp hv
    exact .inr ⟨key, v, hkey, hlast, hv⟩
  · rintro (hkey | ⟨key, v, hkey, hlast, hv⟩)
    · rw [hkey, Option.bind_some, last?_of_lastRenamed rename h, Option.map_some]
    · rw [hkey, Option.bind_some, hlast, Option.map_some, hv]

end Renamed

end MarkupTree.Entries
