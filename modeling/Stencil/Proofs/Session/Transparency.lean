import Stencil.Proofs.Session.Uses

/-! Caches are not seen. Engines that look templates up with one loader, whose contents stay as they
are, are used in any order and with any settings in between. Each result is then the one that a new
engine of the same settings comes to, with nothing read before. So results depend on the settings of
the engines and on the pages that are kept, and not on what was done before in other ways. -/
namespace Stencil

namespace Use

/-- A use changes no settings that another goes by, and keeps no page that the other renders. A kept
page goes by the settings of some engine, so it is not spared by any change of settings. -/
structure Spares (a b : Use) : Prop where
  settings : ∀ engine, a.sets? = some engine → b.engine? ≠ some engine ∧ b.kept? = none
  page : ∀ kept, a.keeps? = some kept → b.kept? ≠ some kept

/-- Uses that spare each other and do not keep pages under one name. -/
structure Independent (a b : Use) : Prop where
  left : a.Spares b
  right : b.Spares a
  apart : ∀ kept, a.keeps? = some kept → b.keeps? ≠ some kept

variable {a b u : Use}

theorem engine_of_sets {name : String} (h : u.sets? = some name) : u.engine? = some name := by
  cases u with
  | adjust => exact h
  | _ => cases h

theorem spares_self (h : u.sets? = none) : u.Spares u := by
  refine ⟨fun engine hsets => ?_, fun kept hkeeps => ?_⟩
  · cases h.symm.trans hsets
  · cases u with
    | keep => exact nofun
    | _ => cases hkeeps

theorem Independent.newEngine_comm (h : a.Independent b) (name : String)
    (found : Option (Engine × CacheId)) :
    b.newEngine name (a.newEngine name found) = a.newEngine name (b.newEngine name found) := by
  by_cases ha : a.sets? = some name
  · have hb : b.sets? ≠ some name := fun hb => (h.left.settings name ha).1 (engine_of_sets hb)
    rw [newEngine_of_ne hb, newEngine_of_ne hb]
  · rw [newEngine_of_ne ha, newEngine_of_ne ha]

theorem Independent.newPage_comm (h : a.Independent b) (r r' : Except Failure Reply)
    (name : String) (found : Option (String × Page)) :
    b.newPage r' name (a.newPage r name found) = a.newPage r name (b.newPage r' name found) := by
  by_cases ha : a.keeps? = some name
  · rw [newPage_of_ne (h.apart name ha), newPage_of_ne (h.apart name ha)]
  · rw [newPage_of_ne ha, newPage_of_ne ha]

theorem newEngine_idem (u : Use) (name : String) (found : Option (Engine × CacheId)) :
    u.newEngine name (u.newEngine name found) = u.newEngine name found := by
  cases u with
  | adjust engine strict fallback =>
    rw [newEngine, newEngine]
    split
    · rcases found with _ | ⟨e, id⟩
      · rfl
      · rcases strict with _ | strict <;> rcases fallback with _ | fallback <;> rfl
    · rfl
  | _ => rfl

theorem newPage_idem (u : Use) (r : Except Failure Reply) (name : String)
    (found : Option (String × Page)) :
    u.newPage r name (u.newPage r name found) = u.newPage r name found := by
  obtain hsame | ⟨engine, name', p, rfl, rfl, hnew⟩ := u.newPage_cases r name found
  · rw [hsame, hsame]
  · rw [hnew]
    exact if_pos rfl

end Use

namespace Session

/-- Nothing has been read or kept yet, and all engines have one loader. -/
structure Fresh (u : Session) (loader : Option Loader) : Prop where
  caches : u.caches = Table.empty
  pages : u.pages = Table.empty
  engines : ∀ name e id, u.engines.get? name = some (e, id) → e.loader = loader

/-- The session `u` as it was when it was new, with the engines set up as they are in `s`. -/
def renewed (u s : Session) : Session := { u with engines := s.engines }

/-- The renewed session in which a kept page is made again from its name. -/
def remade (u s : Session) (kept : String) : Session :=
  match s.pages.get? kept with
  | some (engine, ⟨some name, _, _⟩) => ((u.renewed s).step (.keepPage engine name kept)).session
  | _ => u.renewed s

/-- What a use needs: the settings, and the kept page if it renders one. -/
def prepared (u s : Session) (next : Use) : Session :=
  match next.kept? with
  | none => u.renewed s
  | some kept => u.remade s kept

/-- Nobody sees what was read before. -/
structure Transparent (u : Session) (uses : List Use) : Prop where
  /-- Each result is the one that the use comes to on its own. -/
  alone : ∀ before next later, uses = before ++ next :: later →
    ((u.used before).step next.step).result =
      ((u.prepared (u.used before) next).step next.step).result
  /-- Uses that are independent may change places, with their results and no other. -/
  swapped : ∀ before a b later, uses = before ++ a :: b :: later → a.Independent b →
    ∃ rs r r' rs', rs.length = before.length ∧ u.results uses = rs ++ r :: r' :: rs' ∧
      u.results (before ++ b :: a :: later) = rs ++ r' :: r :: rs'
  /-- A use that is repeated repeats its result and changes no other. -/
  repeated : ∀ before next later, uses = before ++ next :: later →
    ∃ rs r rs', rs.length = before.length ∧ u.results uses = rs ++ r :: rs' ∧
      u.results (before ++ next :: next :: later) = rs ++ r :: r :: rs'

variable {s s' u : Session} {loader : Option Loader} {stores : Stores} {next : Use}

theorem Fresh.settled (h : u.Fresh loader) : u.Settled loader u.stores where
  engines := h.engines _ _ _
  contents := .refl u.stores
  caches id := by
    rw [cache, h.caches]
    exact Cache.mirrors_empty loader u.stores
  pages hpage := by
    rw [h.pages] at hpage
    cases hpage

theorem Fresh.renewed (h : u.Fresh loader) (hs : s.Settled loader stores) :
    (u.renewed s).Fresh loader := ⟨h.caches, h.pages, fun _ _ _ hengine => hs.engines hengine⟩

/-! Sessions with the same settings and the same kept pages. -/

/-- The same settings under the same names, and the same kept pages. -/
structure Alike (s s' : Session) : Prop where
  engines : ∀ name, s.engines.get? name = s'.engines.get? name
  pages : ∀ kept, s.pages.get? kept = s'.pages.get? kept

/-- Uses of settled sessions with the same job have the same result. -/
theorem Settled.result_congr (hs : s.Settled loader stores) (hs' : s'.Settled loader stores)
    (h : s.job next = s'.job next) :
    (s.step next.step).result = (s'.step next.step).result := by
  rw [hs.result_step, hs'.result_step, h]

theorem Alike.result_step (h : s.Alike s') (hs : s.Settled loader stores)
    (hs' : s'.Settled loader stores) (next : Use) :
    (s.step next.step).result = (s'.step next.step).result :=
  hs.result_congr hs' (job_congr (fun name _ => h.engines name)
    fun kept _ => ⟨h.pages kept, h.engines⟩)

theorem Alike.step (h : s.Alike s') (hs : s.Settled loader stores) (hs' : s'.Settled loader stores)
    (next : Use) : (s.step next.step).session.Alike (s'.step next.step).session := by
  refine ⟨fun name => ?_, fun kept => ?_⟩
  · rw [hs.engines_step, hs'.engines_step, h.engines]
  · rw [pages_step, pages_step, h.result_step hs hs' next, h.pages]

theorem Alike.results (h : s.Alike s') (hs : s.Settled loader stores)
    (hs' : s'.Settled loader stores) (uses : List Use) : s.results uses = s'.results uses := by
  induction uses generalizing s s' with
  | nil => rfl
  | cons next uses ih =>
    have hrest := ih (h.step hs hs' next) (hs.step next) (hs'.step next)
    show (s.step next.step).result :: _ = (s'.step next.step).result :: _
    rw [h.result_step hs hs' next]
    exact congrArg (_ :: ·) hrest

/-! Uses that do not disturb each other. -/

/-- A use does not change the result of one that it spares. -/
theorem Settled.result_after (hs : s.Settled loader stores) {a b : Use} (h : a.Spares b) :
    ((s.step a.step).session.step b.step).result = (s.step b.step).result := by
  refine (hs.step a).result_congr hs (job_congr (fun name hname => ?_) fun kept hkept => ⟨?_, ?_⟩)
  · rw [hs.engines_step, Use.newEngine_of_ne fun hsets => (h.settings name hsets).1 hname]
  · rw [pages_step, Use.newPage_of_ne fun hkeeps => h.page kept hkeeps hkept]
  · intro name
    have hsets : a.sets? ≠ some name := fun hsets => by
      cases (h.settings name hsets).2.symm.trans hkept
    rw [hs.engines_step, Use.newEngine_of_ne hsets]

theorem Settled.alike_swapped (hs : s.Settled loader stores) {a b : Use} (h : a.Independent b) :
    ((s.step a.step).session.step b.step).session.Alike
      ((s.step b.step).session.step a.step).session := by
  refine ⟨fun name => ?_, fun kept => ?_⟩
  · rw [(hs.step a).engines_step, hs.engines_step, (hs.step b).engines_step, hs.engines_step,
      h.newEngine_comm]
  · rw [pages_step, pages_step, pages_step, pages_step, hs.result_after h.left,
      hs.result_after h.right, h.newPage_comm]

theorem Settled.result_again (hs : s.Settled loader stores) (next : Use) :
    ((s.step next.step).session.step next.step).result = (s.step next.step).result := by
  cases next with
  | adjust engine strict fallback =>
    cases hfound : s.engines.get? engine with
    | none =>
      have hsame : s.step (Use.adjust engine strict fallback).step =
          s.quiet (.error (.unknownName engine)) := by rw [step_adjust, hfound]
      rw [hsame]
      exact congrArg Outcome.result hsame
    | some found =>
      have hresult : ∀ {s : Session} {found}, s.engines.get? engine = some found →
          (s.step (Use.adjust engine strict fallback).step).result = .ok .done := by
        intro s found hfound
        rw [step_adjust, hfound]
      obtain ⟨e, hnew, -⟩ :=
        (Use.adjust engine strict fallback).exists_newEngine engine found.1 found.2
      rw [hresult hfound, hresult]
      rw [hs.engines_step, hfound, hnew]
  | _ => exact hs.result_after (Use.spares_self rfl)

theorem Settled.alike_again (hs : s.Settled loader stores) (next : Use) :
    ((s.step next.step).session.step next.step).session.Alike (s.step next.step).session := by
  refine ⟨fun name => ?_, fun kept => ?_⟩
  · rw [(hs.step next).engines_step, hs.engines_step, next.newEngine_idem]
  · rw [pages_step, pages_step, hs.result_again, next.newPage_idem]

/-- A page that is made again is the one that was kept. -/
theorem Fresh.remade (h : u.Fresh loader) (hs : s.Settled loader u.stores) (kept : String) :
    (u.remade s kept).Settled loader u.stores ∧
      (∀ name, (u.remade s kept).engines.get? name = s.engines.get? name) ∧
      (u.remade s kept).pages.get? kept = s.pages.get? kept := by
  have hrenewed : (u.renewed s).Settled loader u.stores := (h.renewed hs).settled
  rw [Session.remade]
  cases hpage : s.pages.get? kept with
  | none =>
    have hnone : u.pages.get? kept = none := by
      rw [h.pages]
      rfl
    exact ⟨hrenewed, fun _ => rfl, hnone⟩
  | some found =>
    obtain ⟨engine, name', source, template⟩ := found
    obtain ⟨e, id, name, hengine, hname, hmade⟩ := hs.pages hpage
    obtain rfl : name' = some name := hname
    have hresult : ((u.renewed s).step (Use.keep engine name kept).step).result =
        .ok (.page ⟨some name, source, template⟩) := by
      have hfound : (u.renewed s).engine engine = .ok (e, id) := engine_eq_ok_iff.mpr hengine
      rw [hrenewed.result_step, job, hfound]
      show ((Reply.page <$> e.page name : Work Reply) _).1 = _
      rw [map_eq, hmade]
      rfl
    refine ⟨hrenewed.step (.keep engine name kept),
      hrenewed.engines_step (.keep engine name kept), ?_⟩
    have hpages := pages_step (u.renewed s) (.keep engine name kept) kept
    rw [hresult, Use.newPage, if_pos rfl] at hpages
    exact hpages

theorem Fresh.prepared (h : u.Fresh loader) (hs : s.Settled loader u.stores) (next : Use) :
    (u.prepared s next).Settled loader u.stores ∧ (u.prepared s next).job next = s.job next := by
  rw [Session.prepared]
  cases hkept : next.kept? with
  | none =>
    refine ⟨(h.renewed hs).settled, job_congr (fun _ _ => rfl) fun kept hkept' => ?_⟩
    cases hkept.symm.trans hkept'
  | some kept =>
    obtain ⟨hsettled, hengines, hpage⟩ := h.remade hs kept
    refine ⟨hsettled, job_congr (fun name _ => hengines name) fun kept' hkept' => ?_⟩
    obtain rfl : kept = kept' := Option.some.inj (hkept.symm.trans hkept')
    exact ⟨hpage, hengines⟩

/-- Whatever the engines share and whatever is done with them in which order, caches show nowhere
but in what is logged and counted. -/
theorem transparent_of_fresh (h : u.Fresh loader) (uses : List Use) : u.Transparent uses where
  alone before next later _ := by
    obtain ⟨hprepared, hjob⟩ := h.prepared (h.settled.used before) next
    exact (h.settled.used before).result_congr hprepared hjob.symm
  swapped before a b later huses hindependent := by
    have hs := h.settled.used before
    have hrest := (hs.alike_swapped hindependent).results ((hs.step a).step b) ((hs.step b).step a)
      later
    have hresults := u.results_append before (a :: b :: later)
    have hswapped := u.results_append before (b :: a :: later)
    rw [results_cons, results_cons, hs.result_after hindependent.left, ← huses] at hresults
    rw [results_cons, results_cons, hs.result_after hindependent.right, ← hrest] at hswapped
    exact ⟨_, _, _, _, u.length_results before, hresults, hswapped⟩
  repeated before next later huses := by
    have hs := h.settled.used before
    have hrest := (hs.alike_again next).results ((hs.step next).step next) (hs.step next) later
    have hresults := u.results_append before (next :: later)
    have hrepeated := u.results_append before (next :: next :: later)
    rw [results_cons, ← huses] at hresults
    rw [results_cons, results_cons, hs.result_again, hrest] at hrepeated
    exact ⟨_, _, _, u.length_results before, hresults, hrepeated⟩

/-- The script of three engines. It knows `base`, its child `page` and the broken `odd`, and it must
not read `locked`. -/
def pagesScript : Script where
  answers := Table.ofList [
    ("base", .text "<\x7b% block b %\x7d\x7b% endblock %\x7d>"),
    ("page", .text
      "\x7b% extends \"base\" %\x7d\x7b% block b %\x7d\x7b\x7b x \x7d\x7d\x7b% endblock %\x7d"),
    ("odd", .text "\x7b% block b %\x7d"),
    ("locked", .failure (.denied "locked"))]
  asked := []

/-- Two of the engines have one cache, and the third is strict and has its own. -/
def scriptedSession : Session where
  stores := ⟨default, Table.empty, Table.ofList [("pages", pagesScript)]⟩
  loaders := Table.ofList [("pages", .custom "pages")]
  engines := Table.ofList [
    ("reader", (⟨some (.custom "pages"), false, "-"⟩, .shared "texts")),
    ("other", (⟨some (.custom "pages"), false, "?"⟩, .shared "texts")),
    ("strict", (⟨some (.custom "pages"), true, "!"⟩, .own "strict"))]
  caches := Table.empty
  pages := Table.empty

/-- Renders of a page and of a kept page, with failures and a change of settings in between. -/
def scriptedUses : List Use := [
  .render "other" "page" ⟨[], []⟩, .render "strict" "page" ⟨[], []⟩,
  .render "reader" "odd" ⟨[], []⟩, .keep "other" "page" "kept", .render "reader" "locked" ⟨[], []⟩,
  .renderKept "kept" ⟨[], []⟩, .adjust "reader" none (some "+"), .render "reader" "odd" ⟨[], []⟩]

theorem scriptedSession_fresh : scriptedSession.Fresh (some (.custom "pages")) := by
  refine ⟨rfl, rfl, fun name e id hget => ?_⟩
  have hmem := Table.mem_entries_of_get? hget
  simp [scriptedSession, Table.ofList, Table.putAll, Table.put, Table.putIn, Table.empty] at hmem
  obtain ⟨-, rfl, -⟩ | ⟨-, rfl, -⟩ | ⟨-, rfl, -⟩ := hmem <;> rfl

/-- The second time `odd` is stored already, although it cannot be read. -/
theorem transparent_scriptedSession : scriptedSession.Fresh (some (.custom "pages")) ∧
    scriptedSession.Transparent scriptedUses ∧
    ((scriptedSession.results scriptedUses).filterMap fun
      | .ok (.text t) => some t
      | _ => none) =
      (["<\x7b\x7b x \x7d\x7d>", "!", "-", "-", "<\x7b\x7b x \x7d\x7d>", "+"] : List Text) :=
  ⟨scriptedSession_fresh, transparent_of_fresh scriptedSession_fresh scriptedUses,
    by decide +kernel⟩

end Session

end Stencil
