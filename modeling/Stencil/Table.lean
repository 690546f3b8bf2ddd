/-! Tables in order of insertion. A key occurs at most once: storing under a known key replaces the
value and keeps the place of the key, and a new key goes to the end. -/
namespace Stencil

variable {α β γ : Type} [DecidableEq α]

namespace Table

/-- Stores a pair in a list of pairs. -/
def putIn (key : α) (value : β) : List (α × β) → List (α × β)
  | [] => [(key, value)]
  | entry :: entries =>
    if entry.1 = key then (key, value) :: entries else entry :: putIn key value entries

theorem keys_putIn (key : α) (value : β) (entries : List (α × β)) :
    (putIn key value entries).map Prod.fst =
      if key ∈ entries.map Prod.fst then entries.map Prod.fst
      else entries.map Prod.fst ++ [key] := by
  induction entries with
  | nil => rfl
  | cons entry entries ih =>
    rw [putIn]
    split
    · rename_i h
      simp [h]
    · rename_i h
      have hne : ¬ key = entry.1 := fun hk => h hk.symm
      simp only [List.map_cons, ih, List.mem_cons, hne, false_or]
      split <;> rfl

theorem nodup_keys_putIn {key : α} {value : β} {entries : List (α × β)}
    (h : (entries.map Prod.fst).Nodup) : ((putIn key value entries).map Prod.fst).Nodup := by
  rw [keys_putIn]
  split
  · exact h
  · rename_i hkey
    exact List.nodup_append.mpr ⟨h, by simp, fun a ha b hb hab =>
      hkey (by rw [List.mem_singleton] at hb; exact hb ▸ hab ▸ ha)⟩

theorem lookup_cons (key : α) (entry : α × β) (entries : List (α × β)) :
    (entry :: entries).lookup key =
      if key = entry.1 then some entry.2 else entries.lookup key := by
  rw [List.lookup_cons]
  by_cases h : key = entry.1
  · rw [if_pos h, beq_iff_eq.mpr h]
  · rw [if_neg h, beq_eq_false_iff_ne.mpr h]

theorem lookup_putIn (key key' : α) (value : β) (entries : List (α × β)) :
    (putIn key value entries).lookup key' =
      if key' = key then some value else entries.lookup key' := by
  induction entries with
  | nil => rw [putIn, lookup_cons]
  | cons entry entries ih =>
    rw [putIn]
    split
    · rename_i h
      rw [lookup_cons, lookup_cons, h]
      split <;> rfl
    · rename_i h
      rw [lookup_cons, lookup_cons, ih]
      by_cases hkey : key' = entry.1
      · rw [if_pos hkey, if_pos hkey, if_neg (hkey ▸ h)]
      · rw [if_neg hkey, if_neg hkey]

theorem lookup_eq_none {key : α} {entries : List (α × β)}
    (h : key ∉ entries.map Prod.fst) : entries.lookup key = none := by
  induction entries with
  | nil => rfl
  | cons entry entries ih =>
    rw [List.map_cons, List.mem_cons, not_or] at h
    rw [lookup_cons, if_neg h.1, ih h.2]

theorem lookup_filterMap (f : β → Option γ) {entries : List (α × β)}
    (h : (entries.map Prod.fst).Nodup) (key : α) :
    (entries.filterMap fun entry => (f entry.2).map (entry.1, ·)).lookup key =
      (entries.lookup key).bind f := by
  induction entries with
  | nil => rfl
  | cons entry entries ih =>
    rw [List.map_cons, List.nodup_cons] at h
    rw [lookup_cons, List.filterMap_cons]
    cases hv : f entry.2 with
    | none =>
      rw [Option.map_none, ih h.2]
      split
      · rename_i hkey
        rw [lookup_eq_none (hkey ▸ h.1), Option.bind_none, Option.bind_some, hv]
      · rfl
    | some value =>
      rw [Option.map_some]
      dsimp only
      rw [lookup_cons, ih h.2]
      split
      · rw [Option.bind_some, hv]
      · rfl

end Table

structure Table (α β : Type) [DecidableEq α] where
  entries : List (α × β)
  nodup_keys : (entries.map Prod.fst).Nodup

namespace Table

def empty : Table α β := ⟨[], by simp⟩

def keys (t : Table α β) : List α := t.entries.map Prod.fst

def size (t : Table α β) : Nat := t.entries.length

def get? (t : Table α β) (key : α) : Option β := t.entries.lookup key

def contains (t : Table α β) (key : α) : Bool := (t.get? key).isSome

def put (t : Table α β) (key : α) (value : β) : Table α β :=
  ⟨putIn key value t.entries, nodup_keys_putIn t.nodup_keys⟩

def erase (t : Table α β) (key : α) : Table α β where
  entries := t.entries.filter (·.1 ≠ key)
  nodup_keys := t.nodup_keys.sublist (List.filter_sublist.map Prod.fst)

/-- Stores the pairs one after the other. -/
def putAll (t : Table α β) (entries : List (α × β)) : Table α β :=
  entries.foldl (fun t entry => t.put entry.1 entry.2) t

def ofList (entries : List (α × β)) : Table α β := empty.putAll entries

/-- Passes each value through `f` and leaves out the keys whose values it refuses. -/
def filterMap (f : β → Option γ) (t : Table α β) : Table α γ where
  entries := t.entries.filterMap fun entry => (f entry.2).map (entry.1, ·)
  nodup_keys := by
    refine t.nodup_keys.sublist ?_
    induction t.entries with
    | nil => simp
    | cons entry entries ih =>
      rw [List.filterMap_cons]
      cases f entry.2 with
      | none => simpa using ih.cons entry.1
      | some value => simpa using ih

theorem ext {t u : Table α β} (h : t.entries = u.entries) : t = u := by
  cases t
  cases u
  cases h
  rfl

theorem get?_empty (key : α) : (empty : Table α β).get? key = none := rfl

theorem get?_put (t : Table α β) (key key' : α) (value : β) :
    (t.put key value).get? key' = if key' = key then some value else t.get? key' :=
  lookup_putIn key key' value t.entries

theorem get?_filterMap (f : β → Option γ) (t : Table α β) (key : α) :
    (t.filterMap f).get? key = (t.get? key).bind f :=
  lookup_filterMap f t.nodup_keys key

theorem keys_put (t : Table α β) (key : α) (value : β) :
    (t.put key value).keys = if key ∈ t.keys then t.keys else t.keys ++ [key] :=
  keys_putIn key value t.entries

end Table

end Stencil
