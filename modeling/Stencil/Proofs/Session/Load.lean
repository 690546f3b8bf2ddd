import Stencil.Proofs.Engine.Work
import Stencil.Proofs.Table
import Stencil.Session

/-! Loads, one by one. A load of a stored name is a hit and gives what is stored; any other is a
miss, which asks the loader once, if there is one, and stores what it finds. Loads that follow each
other through one cache hand it on, so nothing stored is ever lost or changed, and the counts of the
cache are the numbers of hits, of misses and of misses that found something. -/
namespace Stencil

namespace Cache

def hit (c : Cache) : Cache := { c with hits := c.hits + 1 }

def miss (c : Cache) : Cache := { c with misses := c.misses + 1 }

theorem lookup_of_some {c : Cache} {name t : Text} (h : c.texts.get? name = some t) :
    c.lookup name = (some t, c.hit) := by
  rw [lookup, h]
  rfl

theorem lookup_of_none {c : Cache} {name : Text} (h : c.texts.get? name = none) :
    c.lookup name = (none, c.miss) := by
  rw [lookup, h]
  rfl

theorem size_store {c : Cache} {name : Text} (h : c.texts.get? name = none) (t : Text) :
    (c.store name t).size = c.size + 1 := by
  have hkey : name ∉ c.texts.keys := by rw [Table.mem_keys_iff, h]; exact Bool.false_ne_true
  have hlength := congrArg List.length (Table.keys_put c.texts name t)
  rw [if_neg hkey, List.length_append, Table.keys, Table.keys, List.length_map,
    List.length_map] at hlength
  exact hlength

end Cache

/-- A load of a name: the engine as it is set up by then, the cache it goes by, and the workspace
before. -/
structure Load where
  engine : Engine
  cacheId : CacheId
  name : Text
  before : Workspace

namespace Load

variable (l : Load)

def result : Except Failure Text := (l.engine.load l.name l.before).1

def after : Workspace := (l.engine.load l.name l.before).2

/-- What is stored under the name before. -/
def stored? : Option Text := l.before.cache.texts.get? l.name

def isHit : Bool := l.stored?.isSome

/-- Whether the loader is asked. -/
def asks : Bool := !l.isHit && l.engine.loader.isSome

/-- Whether something is stored. -/
def stores : Bool := !l.isHit && l.result.isOk

/-- A load that gives a text and changes nothing but the count of hits, so no loader is asked. -/
def Hits (t : Text) : Prop :=
  l.result = .ok t ∧ l.after = { l.before with cache := l.before.cache.hit }

/-- A load of a name that is not stored. Without a loader the template is not found. With one it is
asked once, after a line in the log: a source that it finds is stored and given, and when it fails
nothing is stored. A failure of the system or of the bytes is the cause of the template not being
found, and any other failure is passed on. -/
inductive Misses : Prop
  | noLoader (hloader : l.engine.loader = none)
      (hresult : l.result = .error (.template (.notFound (.noLoader l.name))))
      (hafter : l.after = { l.before with cache := l.before.cache.miss })
  | found {loader : Loader} {source : Source} {stores : Stores}
      (hloader : l.engine.loader = some loader)
      (hread : loader.read l.name l.before.stores = (.ok source, stores))
      (hresult : l.result = .ok source.text)
      (hafter : l.after = ⟨stores, l.before.cache.miss.store l.name source.text,
        l.before.log ++ [.loading l.name]⟩)
  | unreadable {loader : Loader} {f : ReadFailure} {stores : Stores} {n : NotFound}
      (hloader : l.engine.loader = some loader)
      (hread : loader.read l.name l.before.stores = (.error (.reading f), stores))
      (hunreadable : f.isUnreadable = true)
      (hresult : l.result = .error (.template (.notFound n)))
      (hname : n.name? = some l.name) (hcause : n.cause? = some f)
      (hafter : l.after = ⟨stores, l.before.cache.miss, l.before.log ++ [.loading l.name]⟩)
  | failed {loader : Loader} {f : Failure} {stores : Stores}
      (hloader : l.engine.loader = some loader)
      (hread : loader.read l.name l.before.stores = (.error f, stores))
      (hother : ∀ f', f = .reading f' → f'.isUnreadable = false)
      (hresult : l.result = .error f)
      (hafter : l.after = ⟨stores, l.before.cache.miss, l.before.log ++ [.loading l.name]⟩)

variable {l}

theorem hits_of_stored {t : Text} (h : l.stored? = some t) : l.Hits t := by
  rw [Hits, result, after, Engine.load, Cache.lookup_of_some h]
  exact ⟨rfl, rfl⟩

theorem misses_of_not_stored (h : l.stored? = none) : l.Misses := by
  have hload : l.engine.load l.name l.before = (l.result, l.after) := rfl
  rw [Engine.load, Cache.lookup_of_none h] at hload
  cases hloader : l.engine.loader with
  | none =>
    rw [hloader] at hload
    obtain ⟨hresult, hafter⟩ := Prod.mk.inj hload
    exact .noLoader hloader hresult.symm hafter.symm
  | some loader =>
    rw [hloader] at hload
    dsimp only [Workspace.note] at hload
    rcases hread : loader.read l.name l.before.stores with ⟨f | source, stores⟩
    · rw [hread] at hload
      obtain ⟨hresult, hafter⟩ := Prod.mk.inj hload
      by_cases hunreadable : ∃ f', f = .reading f' ∧ f'.isUnreadable = true
      · obtain ⟨f', rfl, hf'⟩ := hunreadable
        rw [Engine.absence, if_pos hf'] at hresult
        exact .unreadable hloader hread hf' hresult.symm rfl rfl hafter.symm
      · have hother : ∀ f', f = .reading f' → f'.isUnreadable = false := fun f' hf =>
          Bool.eq_false_iff.mpr fun hf' => hunreadable ⟨f', hf, hf'⟩
        have habsence : Engine.absence l.name f = f := by
          cases f with
          | reading f' => rw [Engine.absence, hother f' rfl, if_neg Bool.false_ne_true]
          | _ => rfl
        rw [habsence] at hresult
        exact .failed hloader hread hother hresult.symm hafter.symm
    · rw [hread] at hload
      obtain ⟨hresult, hafter⟩ := Prod.mk.inj hload
      exact .found hloader hread hresult.symm hafter.symm

theorem hits_or_misses (l : Load) : (∃ t, l.stored? = some t ∧ l.Hits t) ∨
    l.stored? = none ∧ l.Misses := by
  cases h : l.stored? with
  | some t => exact .inl ⟨t, rfl, hits_of_stored h⟩
  | none => exact .inr ⟨rfl, misses_of_not_stored h⟩

/-! What a load changes, hit or miss. -/

/-- The cache counts the look, and a miss that found a text stores it. -/
theorem cache_after (l : Load) : l.after.cache = match l.stored?, l.result with
    | some _, _ => l.before.cache.hit
    | none, .ok t => l.before.cache.miss.store l.name t
    | none, .error _ => l.before.cache.miss := by
  obtain ⟨t, hsome, -, hafter⟩ | ⟨hnone, hmisses⟩ := l.hits_or_misses
  · rw [hsome, hafter]
  · rw [hnone]
    cases hmisses with
    | noLoader _ hresult hafter => rw [hafter, hresult]
    | found _ _ hresult hafter => rw [hafter, hresult]
    | unreadable _ _ _ hresult _ _ hafter => rw [hafter, hresult]
    | failed _ _ _ hresult hafter => rw [hafter, hresult]

/-- What is stored stays. -/
theorem get?_after (l : Load) {name t : Text} (h : l.before.cache.texts.get? name = some t) :
    l.after.cache.texts.get? name = some t := by
  rw [cache_after]
  cases hstored : l.stored? with
  | some t' => exact h
  | none =>
    cases l.result with
    | error f => exact h
    | ok t' =>
      have hne : name ≠ l.name := fun heq => by cases hstored.symm.trans (heq ▸ h)
      exact (Table.get?_put _ _ _ _).trans ((if_neg hne).trans h)

theorem hits_after (l : Load) :
    l.after.cache.hits = l.before.cache.hits + if l.isHit then 1 else 0 := by
  rw [cache_after, isHit]
  cases l.stored? with
  | some t => rfl
  | none => cases l.result <;> rfl

theorem misses_after (l : Load) :
    l.after.cache.misses = l.before.cache.misses + if l.isHit then 0 else 1 := by
  rw [cache_after, isHit]
  cases l.stored? with
  | some t => rfl
  | none => cases l.result <;> rfl

theorem size_after (l : Load) :
    l.after.cache.size = l.before.cache.size + if l.stores then 1 else 0 := by
  rw [cache_after, stores, isHit]
  cases hstored : l.stored? with
  | some t => rfl
  | none =>
    cases l.result with
    | error f => rfl
    | ok t => exact Cache.size_store hstored t

theorem log_after (l : Load) :
    l.after.log = l.before.log ++ if l.asks then [.loading l.name] else [] := by
  obtain ⟨t, hsome, -, hafter⟩ | ⟨hnone, hmisses⟩ := l.hits_or_misses
  · rw [hafter, asks, isHit, hsome]
    exact (List.append_nil _).symm
  · rw [asks, isHit, hnone]
    cases hmisses with
    | noLoader hloader _ hafter =>
      rw [hafter, hloader]
      exact (List.append_nil _).symm
    | found hloader _ _ hafter => rw [hafter, hloader]; rfl
    | unreadable hloader _ _ _ _ _ hafter => rw [hafter, hloader]; rfl
    | failed hloader _ _ _ hafter => rw [hafter, hloader]; rfl

/-- The stores are what the loader leaves behind that is asked. -/
theorem stores_after {l : Load} {loader : Loader} (hloader : l.engine.loader = some loader)
    (h : l.stored? = none) : l.after.stores = (loader.read l.name l.before.stores).2 := by
  cases misses_of_not_stored h with
  | noLoader hnone => cases hnone.symm.trans hloader
  | found hsome hread _ hafter =>
    cases hsome.symm.trans hloader
    rw [hafter, hread]
  | unreadable hsome hread _ _ _ _ hafter =>
    cases hsome.symm.trans hloader
    rw [hafter, hread]
  | failed hsome hread _ _ hafter =>
    cases hsome.symm.trans hloader
    rw [hafter, hread]

/-- A script that is the loader remembers that it was asked, once. -/
theorem asked_after {l : Load} {store : String}
    (hloader : l.engine.loader = some (.function store) ∨ l.engine.loader = some (.custom store))
    (h : l.stored? = none) : (l.after.stores.script store).asked =
      (l.before.stores.script store).asked ++ [l.name] := by
  have hask : ∀ s : Stores, ((s.ask store l.name).2.script store).asked =
      (s.script store).asked ++ [l.name] := by
    intro s
    show (((s.scripts.put store _).get? store).getD _).asked = _
    rw [Table.get?_put, if_pos rfl]
    rfl
  obtain hloader | hloader := hloader <;> rw [stores_after hloader h] <;> exact hask l.before.stores

/-- Loads that follow each other through one cache, with loads through others in between. -/
inductive Linked (id : CacheId) : Cache → List Load → Cache → Prop
  | nil (c : Cache) : Linked id c [] c
  | here {l : Load} {loads : List Load} {c : Cache} (hid : l.cacheId = id)
      (tail : Linked id l.after.cache loads c) : Linked id l.before.cache (l :: loads) c
  | elsewhere {l : Load} {loads : List Load} {c c' : Cache} (hid : l.cacheId ≠ id)
      (tail : Linked id c loads c') : Linked id c (l :: loads) c'

/-- A text that stays stored: each load through the cache finds it unchanged, and a load of its name
gives it without asking a loader. -/
def Kept (id : CacheId) (name t : Text) (loads : List Load) (last : Cache) : Prop :=
  last.texts.get? name = some t ∧ ∀ l ∈ loads, l.cacheId = id →
    l.before.cache.texts.get? name = some t ∧ (l.name = name → l.Hits t)

namespace Linked

variable {id : CacheId} {c c' c'' : Cache} {loads loads' : List Load}

theorem append (h : Linked id c loads c') (h' : Linked id c' loads' c'') :
    Linked id c (loads ++ loads') c'' := by
  induction h with
  | nil => exact h'
  | here hid _ ih => exact .here hid (ih h')
  | elsewhere hid _ ih => exact .elsewhere hid (ih h')

theorem exists_of_append (h : Linked id c (loads ++ loads') c'') :
    ∃ c', Linked id c loads c' ∧ Linked id c' loads' c'' := by
  induction loads generalizing c with
  | nil => exact ⟨c, .nil c, h⟩
  | cons l loads ih =>
    cases h with
    | here hid tail =>
      obtain ⟨c', hfirst, hrest⟩ := ih tail
      exact ⟨c', .here hid hfirst, hrest⟩
    | elsewhere hid tail =>
      obtain ⟨c', hfirst, hrest⟩ := ih tail
      exact ⟨c', .elsewhere hid hfirst, hrest⟩

/-- What is stored is stored for good. -/
theorem keeps (h : Linked id c loads c') {name t : Text} (hget : c.texts.get? name = some t) :
    Kept id name t loads c' := by
  induction h with
  | nil => exact ⟨hget, fun l hl => absurd hl List.not_mem_nil⟩
  | @here l loads c' hid tail ih =>
    obtain ⟨hlast, hlater⟩ := ih (l.get?_after hget)
    refine ⟨hlast, List.forall_mem_cons.mpr ⟨fun _ => ⟨hget, fun hname => ?_⟩, hlater⟩⟩
    exact hits_of_stored (by rw [stored?, hname, hget])
  | elsewhere hid tail ih =>
    obtain ⟨hlast, hlater⟩ := ih hget
    exact ⟨hlast, List.forall_mem_cons.mpr ⟨fun h => absurd h hid, hlater⟩⟩

/-- A count of the cache that each load adds to or leaves counts loads. -/
theorem count (count : Cache → Nat) (counts : Load → Bool)
    (hstep : ∀ l : Load, count l.after.cache = count l.before.cache + if counts l then 1 else 0)
    (h : Linked id c loads c') :
    count c' = count c + loads.countP fun l => l.cacheId = id ∧ counts l := by
  induction h with
  | nil => rfl
  | @here l loads c' hid tail ih =>
    rw [List.countP_cons, ih, hstep]
    simp only [hid, true_and, decide_eq_true_eq]
    omega
  | @elsewhere l loads c c' hid tail ih =>
    rw [List.countP_cons, ih]
    simp [hid]

end Linked

end Load

end Stencil
