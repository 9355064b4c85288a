namespace MarkupTree

/-- Entries in the order in which their keys first came. -/
abbrev Entries (κ ν : Type) := List (κ × ν)

namespace Entries
variable {κ ν : Type} [BEq κ]

/-- A known key keeps its place and takes the new value; a new key goes last. -/
def put (key : κ) (value : ν) : Entries κ ν → Entries κ ν
  | [] => [(key, value)]
  | (k, v) :: rest => if k == key then (k, value) :: rest else (k, v) :: put key value rest

def get? (key : κ) : Entries κ ν → Option ν
  | [] => none
  | (k, v) :: rest => if k == key then some v else get? key rest

def keys (entries : Entries κ ν) : List κ := entries.map Prod.fst

def ofList (pairs : List (κ × ν)) : Entries κ ν :=
  pairs.foldl (fun entries p => put p.1 p.2 entries) []

theorem get?_put_self [LawfulBEq κ] (entries : Entries κ ν) (k : κ) (v : ν) :
    get? k (put k v entries) = some v := by
  induction entries with
  | nil => simp [put, get?]
  | cons p rest ih =>
    obtain ⟨j, w⟩ := p
    by_cases h : j = k <;> simp [put, get?, h, ih]

theorem get?_put_of_ne [LawfulBEq κ] (entries : Entries κ ν) {k k' : κ} (v : ν) (h : k ≠ k') :
    get? k' (put k v entries) = get? k' entries := by
  induction entries with
  | nil => simp [put, get?, h]
  | cons p rest ih =>
    obtain ⟨j, w⟩ := p
    by_cases hj : j = k
    · subst hj; simp [put, get?, h]
    · by_cases hj' : j = k' <;> simp_all [put, get?]

theorem keys_put [LawfulBEq κ] (entries : Entries κ ν) (k : κ) (v : ν) :
    keys (put k v entries) = if k ∈ keys entries then keys entries else keys entries ++ [k] := by
  classical
  induction entries with
  | nil => simp [put, keys]
  | cons p rest ih =>
    obtain ⟨j, w⟩ := p
    by_cases hj : j = k
    · subst hj; simp [put, keys]
    · have hk : ¬ k = j := fun e => hj e.symm
      simp only [keys] at ih
      by_cases hm : k ∈ rest.map Prod.fst <;> simp_all [put, keys]

end Entries

end MarkupTree
