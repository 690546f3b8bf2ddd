import Stencil.Table

/-! What tables give for a key, in whichever order their entries are. Tables that are filled one
pair after the other, and tables whose values are passed through a function: what these give, and
which keys they have in which order. -/
namespace Stencil.Table

variable {α β γ : Type}

section EraseDups

variable [BEq α] [LawfulBEq α]

/-- A list without later occurrences keeps all it has. -/
theorem eraseDups_of_nodup {keys : List α} (h : keys.Nodup) : keys.eraseDups = keys := by
  induction keys with
  | nil => rfl
  | cons key keys ih =>
    rw [List.nodup_cons] at h
    have hrest : keys.filter (fun other => !other == key) = keys := by
      refine List.filter_eq_self.mpr fun other hother => ?_
      have hne : other ≠ key := fun heq => h.1 (heq ▸ hother)
      rw [beq_eq_false_iff_ne.mpr hne]
      rfl
    rw [List.eraseDups_cons, hrest, ih h.2]

theorem nodup_eraseDups (keys : List α) : keys.eraseDups.Nodup := by
  induction hlength : keys.length using Nat.strongRecOn generalizing keys with
  | ind n ih =>
    cases keys with
    | nil => exact List.nodup_nil
    | cons key keys =>
      have hle := List.length_filter_le (fun other => !other == key) keys
      rw [List.length_cons] at hlength
      rw [List.eraseDups_cons, List.nodup_cons, List.mem_eraseDups, List.mem_filter]
      exact ⟨by simp, ih _ (by omega) _ rfl⟩

theorem eraseDups_append_cons {key : α} {keys : List α} (h : key ∈ keys) (others : List α) :
    (keys ++ key :: others).eraseDups = (keys ++ others).eraseDups := by
  have hrest : (key :: others).removeAll keys = others.removeAll keys := by
    rw [List.cons_removeAll, if_neg]
    simp [h]
  rw [List.eraseDups_append, List.eraseDups_append, hrest]

end EraseDups

variable [DecidableEq α]

theorem mem_keys_iff {t : Table α β} {key : α} : key ∈ t.keys ↔ (t.get? key).isSome := by
  rw [keys, get?]
  induction t.entries with
  | nil => simp
  | cons entry entries ih =>
    rw [List.map_cons, List.mem_cons, lookup_cons, ih]
    split
    · rename_i h
      simp [h]
    · rename_i h
      rw [or_iff_right h]

theorem mem_entries_of_get? {t : Table α β} {key : α} {value : β} (h : t.get? key = some value) :
    (key, value) ∈ t.entries := by
  obtain ⟨before, later, hentries, -⟩ := List.lookup_eq_some_iff.mp h
  simp [hentries]

theorem mem_entries_iff {t : Table α β} {key : α} {value : β} :
    (key, value) ∈ t.entries ↔ t.get? key = some value := by
  refine ⟨fun h => ?_, mem_entries_of_get?⟩
  obtain ⟨before, later, hentries⟩ := List.append_of_mem h
  refine List.lookup_eq_some_iff.mpr ⟨before, later, hentries, fun entry hentry => ?_⟩
  have hnodup := t.nodup_keys
  rw [hentries, List.map_append, List.map_cons, List.nodup_append] at hnodup
  have hne : entry.1 ≠ key :=
    hnodup.2.2 entry.1 (List.mem_map_of_mem hentry) key List.mem_cons_self
  exact bne_iff_ne.mpr hne.symm

theorem findSome?_entries (f : β → Option γ) (t : Table α β) :
    (t.entries.findSome? fun entry => f entry.2) =
      t.keys.findSome? fun key => (t.get? key).bind f := by
  have hget : ∀ entry ∈ t.entries, (t.get? entry.1).bind f = f entry.2 := by
    intro entry hentry
    rw [mem_entries_iff.mp hentry, Option.bind_some]
  rw [keys, List.findSome?_map]
  generalize t.entries = entries at hget
  induction entries with
  | nil => rfl
  | cons entry entries ih =>
    obtain ⟨hfirst, hrest⟩ := List.forall_mem_cons.mp hget
    rw [List.findSome?_cons, List.findSome?_cons, ih hrest, Function.comp_apply, hfirst]

/-- The order of the entries makes no difference to what a table gives. -/
theorem get?_of_perm {t t' : Table α β} (h : t.entries.Perm t'.entries) (key : α) :
    t.get? key = t'.get? key := by
  refine Option.ext fun value => ?_
  rw [← mem_entries_iff, ← mem_entries_iff, h.mem_iff]

theorem get?_erase (t : Table α β) (key key' : α) :
    (t.erase key).get? key' = if key' = key then none else t.get? key' := by
  refine Option.ext fun value => ?_
  rw [← mem_entries_iff, erase, List.mem_filter, mem_entries_iff, decide_eq_true_iff]
  split
  · rename_i h
    exact iff_of_false (fun hkept => hkept.2 h) nofun
  · rename_i h
    exact and_iff_left h

/-- A new key goes to the end. -/
theorem entries_put {t : Table α β} {key : α} (h : key ∉ t.keys) (value : β) :
    (t.put key value).entries = t.entries ++ [(key, value)] := by
  rw [keys] at h
  show putIn key value t.entries = t.entries ++ [(key, value)]
  generalize t.entries = entries at h
  induction entries with
  | nil => rfl
  | cons entry entries ih =>
    rw [List.map_cons, List.mem_cons, not_or] at h
    rw [putIn, if_neg (Ne.symm h.1), ih h.2]
    rfl

theorem entries_filterMap (f : β → Option γ) (t : Table α β) : (t.filterMap f).entries =
    t.entries.filterMap fun entry => (f entry.2).map (entry.1, ·) := rfl

/-- The keys that are kept are those whose values the function takes. -/
theorem keys_filterMap (f : β → Option γ) (t : Table α β) :
    (t.filterMap f).keys = t.keys.filter fun key => ((t.get? key).bind f).isSome := by
  obtain ⟨entries, hnodup⟩ := t
  show (entries.filterMap fun entry => (f entry.2).map (entry.1, ·)).map Prod.fst =
    (entries.map Prod.fst).filter fun key => ((entries.lookup key).bind f).isSome
  induction entries with
  | nil => rfl
  | cons entry entries ih =>
    rw [List.map_cons, List.nodup_cons] at hnodup
    have hrest : (entries.map Prod.fst).filter
          (fun key => (((entry :: entries).lookup key).bind f).isSome) =
        (entries.map Prod.fst).filter fun key => ((entries.lookup key).bind f).isSome := by
      refine List.filter_congr fun key hkey => ?_
      have hne : key ≠ entry.1 := fun heq => hnodup.1 (heq ▸ hkey)
      rw [lookup_cons, if_neg hne]
    rw [List.map_cons, List.filter_cons, hrest, ← ih hnodup.2, List.filterMap_cons, lookup_cons,
      if_pos rfl, Option.bind_some]
    cases f entry.2 with
    | none => rfl
    | some value => rfl

variable [BEq α] [LawfulBEq α]

/-- Of several pairs with one key the last counts. -/
theorem get?_putAll (t : Table α β) (entries : List (α × β)) (key : α) :
    (t.putAll entries).get? key = (entries.reverse.lookup key).or (t.get? key) := by
  induction entries generalizing t with
  | nil => rfl
  | cons entry entries ih =>
    have hnext : t.putAll (entry :: entries) = (t.put entry.1 entry.2).putAll entries := rfl
    rw [hnext, ih, get?_put, List.reverse_cons, List.lookup_append, Option.or_assoc,
      List.lookup_cons]
    by_cases hkey : key = entry.1
    · rw [if_pos hkey, beq_iff_eq.mpr hkey]
      rfl
    · rw [if_neg hkey, beq_eq_false_iff_ne.mpr hkey]
      rfl

theorem get?_ofList (entries : List (α × β)) (key : α) :
    (ofList entries).get? key = entries.reverse.lookup key := by
  rw [ofList, get?_putAll, get?_empty, Option.or_none]

/-- Keys stand in the order in which they first occur. -/
theorem keys_putAll (t : Table α β) (entries : List (α × β)) :
    (t.putAll entries).keys = (t.keys ++ entries.map Prod.fst).eraseDups := by
  induction entries generalizing t with
  | nil =>
    have hkeys : t.keys.eraseDups = t.keys := eraseDups_of_nodup t.nodup_keys
    rw [List.map_nil, List.append_nil, hkeys]
    rfl
  | cons entry entries ih =>
    have hnext : t.putAll (entry :: entries) = (t.put entry.1 entry.2).putAll entries := rfl
    rw [hnext, ih, keys_put, List.map_cons]
    by_cases hkey : entry.1 ∈ t.keys
    · rw [if_pos hkey, eraseDups_append_cons hkey]
    · rw [if_neg hkey, List.append_assoc, List.singleton_append]

end Stencil.Table
