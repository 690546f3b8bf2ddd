import Mathlib.Data.List.Forall2
import Stencil.Proofs.Rendering.Opened
import Stencil.Proofs.Rendering.Pages
import Stencil.Proofs.Text.Similar

/-! Values are inserted as they are, and what they say steers nothing. A rendering is put together
from segments, which are pieces of a source and places of values in the bindings, and bindings of
one shape, which differ in the texts of their values alone, have the same segments or the same
failure. -/
namespace Stencil

namespace Record

/-- Records whose properties have the same names. -/
def SameNames (r r' : Record) : Prop := ∀ name, (r.get? name).isSome = (r'.get? name).isSome

theorem sameNames_of_keys_eq {r r' : Record} (h : r.keys = r'.keys) : r.SameNames r' := by
  intro name
  rw [Bool.eq_iff_iff, ← Table.mem_keys_iff, ← Table.mem_keys_iff, h]

end Record

namespace Binding

/-- Two scalars, or as many records here as there, with the same names each. -/
def SameShape : Binding → Binding → Prop
  | scalar _, scalar _ => True
  | records rs, records rs' => List.Forall₂ Record.SameNames rs rs'
  | _, _ => False

end Binding

namespace Bindings

/-- The same names are bound, in any order, to bindings of one shape. -/
def SameShape (b b' : Bindings) : Prop :=
  ∀ name, Option.Rel Binding.SameShape (b.get? name) (b'.get? name)

/-- Nothing, two scalars or like records under a name. -/
theorem SameShape.of_name {b b' : Bindings} (h : b.SameShape b') (name : Text) :
    (b.get? name = none ∧ b'.get? name = none) ∨
    (∃ t t', b.get? name = some (.scalar t) ∧ b'.get? name = some (.scalar t')) ∨
    ∃ rs rs', b.get? name = some (.records rs) ∧ b'.get? name = some (.records rs') ∧
      List.Forall₂ Record.SameNames rs rs' := by
  have hrel := h name
  cases hget : b.get? name with
  | none =>
    cases hget' : b'.get? name with
    | none => exact .inl ⟨rfl, rfl⟩
    | some binding' =>
      rw [hget, hget'] at hrel
      cases hrel
  | some binding =>
    cases hget' : b'.get? name with
    | none =>
      rw [hget, hget'] at hrel
      cases hrel
    | some binding' =>
      rw [hget, hget'] at hrel
      obtain ⟨hshape⟩ := hrel
      cases binding with
      | scalar t =>
        cases binding' with
        | scalar t' => exact .inr (.inl ⟨t, t', rfl, rfl⟩)
        | records rs' => cases hshape
      | records rs =>
        cases binding' with
        | scalar t' => cases hshape
        | records rs' => exact .inr (.inr ⟨rs, rs', rfl, rfl, hshape⟩)

/-- Bindings that are listed in step have one shape. -/
theorem sameShape_of_entries {b b' : Bindings} (h : List.Forall₂
      (fun entry entry' => entry.1 = entry'.1 ∧ entry.2.SameShape entry'.2) b.entries b'.entries) :
    b.SameShape b' := by
  intro name
  rw [Table.get?, Table.get?]
  generalize b.entries = entries at h ⊢
  generalize b'.entries = entries' at h ⊢
  induction h with
  | nil => exact .none
  | cons hentry _ ih =>
    rw [Table.lookup_cons, Table.lookup_cons, ← hentry.1]
    split
    · exact .some hentry.2
    · exact ih

theorem SameShape.mem_keys_iff {b b' : Bindings} (h : b.SameShape b') (name : Text) :
    name ∈ b.keys ↔ name ∈ b'.keys := by
  rw [Table.mem_keys_iff, Table.mem_keys_iff]
  obtain ⟨hnone, hnone'⟩ | ⟨t, t', ht, ht'⟩ | ⟨rs, rs', hrs, hrs', -⟩ := h.of_name name
  · rw [hnone, hnone']
  · rw [ht, ht']
    rfl
  · rw [hrs, hrs']
    rfl

end Bindings

/-- A part of a rendering: a piece of a source, or the place of a value in the bindings. -/
inductive Segment
  | literal (t : Text)
  | scalar (name : Text)
  | property (collection : Text) (index : Nat) (name : Text)
deriving DecidableEq, Repr

namespace Segment

/-- What stands in the bindings at the place. -/
def text? (b : Bindings) : Segment → Option Text
  | literal t => some t
  | scalar name =>
    match b.get? name with
    | some (.scalar value) => some value
    | _ => none
  | property collection index name =>
    match b.get? collection with
    | some (.records records) => records[index]?.bind (·.get? name)
    | _ => none

/-- The text that segments make, if all of their places are filled. -/
def assemble (b : Bindings) (segments : List Segment) : Option Text :=
  (segments.mapM (text? b)).map List.flatten

theorem assemble_singleton (b : Bindings) (segment : Segment) :
    assemble b [segment] = segment.text? b := by
  rw [assemble, List.mapM_cons, List.mapM_nil]
  cases segment.text? b with
  | none => rfl
  | some t => exact congrArg some (List.append_nil t)

theorem assemble_append {b : Bindings} {segments segments' : List Segment} {t t' : Text}
    (h : assemble b segments = some t) (h' : assemble b segments' = some t') :
    assemble b (segments ++ segments') = some (t ++ t') := by
  obtain ⟨texts, htexts, rfl⟩ := Option.map_eq_some_iff.mp h
  obtain ⟨texts', htexts', rfl⟩ := Option.map_eq_some_iff.mp h'
  rw [assemble, List.mapM_append, htexts, htexts']
  exact congrArg some List.flatten_append

end Segment

open Segment (assemble assemble_singleton assemble_append)

/-- Two texts that the same segments make of different bindings. The literals satisfy `P`. -/
def Parallel (P : Text → Prop) (b b' : Bindings) (t t' : Text) : Prop :=
  ∃ segments, (∀ piece, .literal piece ∈ segments → P piece) ∧
    assemble b segments = some t ∧ assemble b' segments = some t'

section

variable {P : Text → Prop} {b b' : Bindings}

theorem parallel_nil : Parallel P b b' [] [] :=
  ⟨[], fun _ hpiece => absurd hpiece List.not_mem_nil, rfl, rfl⟩

theorem parallel_literal {piece : Text} (h : P piece) : Parallel P b b' piece piece := by
  refine ⟨[.literal piece], fun _ hpiece => ?_, assemble_singleton b _, assemble_singleton b' _⟩
  cases List.mem_singleton.mp hpiece
  exact h

theorem parallel_place (segment : Segment) {t t' : Text}
    (hplace : ∀ piece, segment ≠ .literal piece) (h : segment.text? b = some t)
    (h' : segment.text? b' = some t') : Parallel P b b' t t' :=
  ⟨[segment], fun piece hpiece => absurd (List.mem_singleton.mp hpiece).symm (hplace piece),
    (assemble_singleton b segment).trans h, (assemble_singleton b' segment).trans h'⟩

/-- A property of the same record in two bindings. Where the record lacks it, nothing is written. -/
theorem parallel_property {collection : Text} {index : Nat} {records records' : List Record}
    {record record' : Record} (h : b.get? collection = some (.records records))
    (h' : b'.get? collection = some (.records records')) (hrecord : records[index]? = some record)
    (hrecord' : records'[index]? = some record') (hnames : record.SameNames record')
    (attr : Text) :
    Parallel P b b' ((record.get? attr).getD []) ((record'.get? attr).getD []) := by
  have hsome := hnames attr
  cases hvalue : record.get? attr with
  | none =>
    rw [hvalue] at hsome
    have hvalue' : record'.get? attr = none := by simpa using hsome
    rw [hvalue']
    exact parallel_nil
  | some value =>
    rw [hvalue] at hsome
    obtain ⟨value', hvalue'⟩ := Option.isSome_iff_exists.mp hsome.symm
    rw [hvalue']
    refine parallel_place (.property collection index attr) (fun _ => Segment.noConfusion) ?_ ?_
    · simp only [Segment.text?, h, hrecord, Option.bind_some, hvalue, Option.getD_some]
    · simp only [Segment.text?, h', hrecord', Option.bind_some, hvalue', Option.getD_some]

theorem Parallel.append {t t' u u' : Text} (h : Parallel P b b' t t') (h' : Parallel P b b' u u') :
    Parallel P b b' (t ++ u) (t' ++ u') := by
  obtain ⟨segments, hliteral, ht, ht'⟩ := h
  obtain ⟨segments', hliteral', hu, hu'⟩ := h'
  refine ⟨segments ++ segments', fun piece hpiece => ?_, assemble_append ht hu,
    assemble_append ht' hu'⟩
  exact (List.mem_append.mp hpiece).elim (hliteral piece) (hliteral' piece)

end

namespace Meaning

/-- Two meanings that are the same error or are made by the same segments. -/
inductive Alike (P : Text → Prop) (b b' : Bindings) : Meaning → Meaning → Prop
  | text {t t' : Text} (h : Parallel P b b' t t') : Alike P b b' (text t) (text t')
  | unresolved (e : RenderError) : Alike P b b' (unresolved e) (unresolved e)
  | unrepeatable (e : RenderError) : Alike P b b' (unrepeatable e) (unrepeatable e)

variable {P : Text → Prop} {b b' : Bindings} {m m' n n' : Meaning}

theorem Alike.followedBy (h : Alike P b b' m n) (h' : Alike P b b' m' n') :
    Alike P b b' (m.followedBy m') (n.followedBy n') := by
  cases h with
  | unrepeatable e => exact .unrepeatable e
  | text h =>
    cases h' with
    | text h' => exact .text (h.append h')
    | unresolved e => exact .unresolved e
    | unrepeatable e => exact .unrepeatable e
  | unresolved e =>
    cases h' with
    | text | unresolved => exact .unresolved e
    | unrepeatable e => exact .unrepeatable e

theorem alike_all {ms ns : List Meaning} (h : List.Forall₂ (Alike P b b') ms ns) :
    Alike P b b' (.all ms) (.all ns) := by
  induction h with
  | nil => exact .text parallel_nil
  | cons h _ ih => exact h.followedBy ih

end Meaning

/-! The walk over nodes. Bindings of one shape are walked in step, from one record to the next. -/
namespace Scene

open Meaning (Alike)

/-- The same record of a loop in two bindings, or no record where no loop is walked. -/
inductive Current (b b' : Bindings) : Option (Text × Record) → Option (Text × Record) → Prop
  | none : Current b b' none none
  | some (item : Text) {collection : Text} {index : Nat} {records records' : List Record}
      {record record' : Record} (h : b.get? collection = some (.records records))
      (h' : b'.get? collection = some (.records records')) (hrecord : records[index]? = some record)
      (hrecord' : records'[index]? = some record') (hnames : record.SameNames record') :
      Current b b' (some (item, record)) (some (item, record'))

variable {P : Text → Prop} {b b' : Bindings} (strict : Bool) (template : Option Text)

/-- A slot without a value tells which names are bound, but not what they are bound to. -/
theorem alike_unbound (h : b.SameShape b') (position : Position) (reference : Reference)
    {raw : Text} (hraw : P raw) :
    Alike P b b' ((among b strict template).unbound position reference raw)
      ((among b' strict template).unbound position reference raw) := by
  cases strict with
  | false => exact .text (parallel_literal hraw)
  | true =>
    have hguess : RenderFault.undefinedAmong reference.path b.keys =
        RenderFault.undefinedAmong reference.path b'.keys :=
      congrArg (RenderFault.undefined reference.path) (Text.closest?_congr h.mem_keys_iff)
    have hsame : (among b true template).unbound position reference raw =
        (among b' true template).unbound position reference raw := by
      simp only [unbound, among, errorAt, hguess]
    rw [hsame]
    exact .unresolved _

theorem alike_slot {current? current?' : Option (Text × Record)} (h : b.SameShape b')
    (hcurrent : Current b b' current? current?')
    (position : Position) (reference : Reference) {raw : Text} (hraw : P raw) :
    Alike P b b' ((among b strict template).slot current? position reference raw)
      ((among b' strict template).slot current?' position reference raw) := by
  have hunbound := alike_unbound strict template h position reference hraw
  obtain ⟨name, attr?⟩ := reference
  cases attr? with
  | none =>
    simp only [slot, binding?_among]
    obtain ⟨hnone, hnone'⟩ | ⟨t, t', ht, ht'⟩ | ⟨rs, rs', hrs, hrs', -⟩ := h.of_name name
    · rw [hnone, hnone']
      exact hunbound
    · rw [ht, ht']
      refine .text (parallel_place (.scalar name) (fun _ => Segment.noConfusion) ?_ ?_)
      · rw [Segment.text?, ht]
      · rw [Segment.text?, ht']
    · rw [hrs, hrs']
      exact hunbound
  | some attr =>
    cases hcurrent with
    | none => exact hunbound
    | some item hget hget' hrecord hrecord' hnames =>
      simp only [slot]
      split
      · exact .text (parallel_property hget hget' hrecord hrecord' hnames attr)
      · exact hunbound

mutual

theorem alike_node {current? current?' : Option (Text × Record)} (h : b.SameShape b')
    (hcurrent : Current b b' current? current?') : (node : Node) → node.Quotes P →
    Alike P b b' ((among b strict template).node current? node)
      ((among b' strict template).node current?' node)
  | .text _ value, hquotes => .text (parallel_literal (Node.quotes_text_iff.mp hquotes))
  | .slot position reference raw, hquotes =>
    alike_slot strict template h hcurrent position reference (hquotes _ List.mem_cons_self raw rfl)
  | .block position name body, hquotes =>
    alike_nodes h hcurrent body fun node hnode => hquotes.of_mem_block hnode
  | .loop position item collection raw body, hquotes => by
    simp only [node, binding?_among]
    obtain ⟨hnone, hnone'⟩ | ⟨t, t', ht, ht'⟩ | ⟨rs, rs', hrs, hrs', hnames⟩ := h.of_name collection
    · rw [hnone, hnone']
      exact .unrepeatable _
    · rw [ht, ht']
      exact .unrepeatable _
    · rw [hrs, hrs']
      refine Meaning.alike_all (List.forall₂_map_left_iff.mpr (List.forall₂_map_right_iff.mpr ?_))
      refine List.forall₂_iff_get.mpr ⟨hnames.length_eq, fun index hindex hindex' => ?_⟩
      have hcurrent' : Current b b' (some (item, rs[index])) (some (item, rs'[index])) :=
        .some item hrs hrs' (List.getElem?_eq_getElem hindex) (List.getElem?_eq_getElem hindex')
          (hnames.get hindex hindex')
      exact alike_nodes h hcurrent' body fun node hnode => hquotes.of_mem_loop hnode

theorem alike_nodes {current? current?' : Option (Text × Record)} (h : b.SameShape b')
    (hcurrent : Current b b' current? current?') : (nodes : List Node) →
    (∀ node ∈ nodes, node.Quotes P) →
    Alike P b b' ((among b strict template).nodes current? nodes)
      ((among b' strict template).nodes current?' nodes)
  | [], _ => .text parallel_nil
  | first :: rest, hquotes =>
    (alike_node h hcurrent first (hquotes first List.mem_cons_self)).followedBy
      (alike_nodes h hcurrent rest fun node hnode =>
        hquotes node (List.mem_cons_of_mem first hnode))

end

end Scene

namespace Engine

/-- Two renderings that fail alike or are made by the same segments. -/
inductive Alike (P : Text → Prop) (b b' : Bindings) :
    Except Failure Text → Except Failure Text → Prop
  | error (f : Failure) : Alike P b b' (.error f) (.error f)
  | ok {t t' : Text} (h : Parallel P b b' t t') : Alike P b b' (.ok t) (.ok t')

variable {P : Text → Prop} {b b' : Bindings}

theorem alike_of_meaning {m n : Meaning} (h : m.Alike P b b' n) :
    Alike P b b' m.result n.result := by
  cases h with
  | text h => exact .ok h
  | unresolved e | unrepeatable e => exact .error _

theorem alike_render (h : b.SameShape b') (strict : Bool) (template : Option Text)
    {nodes : List Node} (hfits : ∀ node ∈ nodes, node.FitsBlock)
    (hquotes : ∀ node ∈ nodes, node.Quotes P) :
    Alike P b b' (Node.render b strict template nodes) (Node.render b' strict template nodes) := by
  rw [(Node.renders_nodes hfits).render_eq, (Node.renders_nodes hfits).render_eq]
  exact alike_of_meaning (Scene.alike_nodes strict template h .none nodes hquotes)

/-- A piece of the source of a page, or of the source of its parent as it is found there. -/
def IsPiece (e : Engine) (w : Workspace) (p : Page) (t : Text) : Prop :=
  t <:+: p.source ∨ ∃ base ∈ p.template.baseName, ∃ source, (e.load base w).1 = .ok source ∧
    t <:+: source

variable {e : Engine} {w w' : Workspace} {p : Page} {source : Text} {name : Option Text}

/-- What is rendered of a page that was read. -/
theorem fits_and_quotes_of_nodes (hp : Page.ofSource source name = .ok p) {nodes : List Node}
    (h : e.nodes p w = (.ok nodes, w')) :
    ∀ node ∈ nodes, node.FitsBlock ∧ node.Quotes (e.IsPiece w p) := by
  obtain ⟨hread, -, hsource⟩ := Page.template_of_ofSource hp
  cases hparent : p.template.parent with
  | none =>
    cases (nodes_of_none hparent).symm.trans h
    refine fun node hnode => ⟨Template.fitsBlock_of_mem_flatten hread node hnode, ?_⟩
    exact (Template.quotes_of_mem_flatten hread node hnode).mono fun t ht => .inl (hsource ▸ ht)
  | some parent =>
    rcases hpage : e.page parent.base w with ⟨f | base, w''⟩
    · cases (nodes_eq_error hparent hpage).symm.trans h
    · cases (exists_nodes hparent hpage).symm.trans h
      obtain ⟨baseSource, hload, hbase⟩ := source_of_page hpage
      have hreadBase := (Page.template_of_ofSource hbase).1
      refine fun node hnode => ⟨Template.fitsBlock_of_mem_fill hread hreadBase node hnode, ?_⟩
      refine (Template.quotes_of_mem_fill hread hreadBase node hnode).mono fun t ht => ?_
      refine ht.imp (fun ht => hsource ▸ ht) fun ht => ⟨parent.base, ?_, baseSource, ?_, ht⟩
      · rw [Template.baseName, hparent]
        rfl
      · rw [hload]

/-- Arguments of one shape steer a page alike, with its parent and without it: both renderings fail
in the same way, or they are made by the same segments. -/
theorem renderPage_alike {a a' : Arguments} (hp : Page.ofSource source name = .ok p)
    (ha : a.Binds b) (ha' : a'.Binds b') (h : b.SameShape b') :
    Alike (e.IsPiece w p) b b' (e.renderPage p a w).1 (e.renderPage p a' w).1 ∧
    Alike (· <:+: source) b b' (e.renderPageAlone p a w).1 (e.renderPageAlone p a' w).1 := by
  obtain ⟨hself, hbindings⟩ := ha
  obtain ⟨hself', hbindings'⟩ := ha'
  constructor
  · rw [renderPage_eq hself, renderPage_eq hself']
    rcases hnodes : e.nodes p w with ⟨f | nodes, w'⟩
    · rw [bind_eq_error hnodes, bind_eq_error hnodes]
      exact .error f
    · have hspec := fits_and_quotes_of_nodes hp hnodes
      rw [bind_eq hnodes, bind_eq hnodes, finish_fst hbindings, finish_fst hbindings']
      exact alike_render h e.strict p.name (fun node hnode => (hspec node hnode).1)
        fun node hnode => (hspec node hnode).2
  · obtain ⟨hread, -, -⟩ := Page.template_of_ofSource hp
    rw [renderPageAlone_eq hself, renderPageAlone_eq hself', finish_fst hbindings,
      finish_fst hbindings']
    exact alike_render h e.strict p.name (Template.fitsBlock_of_mem_flattenAlone hread)
      (Template.quotes_of_mem_flattenAlone hread)

/-- What plain values bind. -/
def plainBindings : Bindings :=
  ⟨[("n", .scalar "new"), ("rs", .records [⟨[("a", "2")], by simp⟩])], by decide +kernel⟩

/-- Bindings of the same shape whose values look like directives. -/
def directiveBindings : Bindings :=
  ⟨[("n", .scalar "\x7b\x7b n \x7d\x7d"),
    ("rs", .records [⟨[("a", "\x7b% endfor %\x7d")], by simp⟩])], by decide +kernel⟩

/-- A child with its parent is steered alike by plain values and by values that look like
directives, which end up in the text as they are. -/
theorem renderPage_alike_childSource :
    let e : Engine := ⟨some (.mapping "store"), false, defaultFallback⟩
    let w : Workspace :=
      ⟨⟨default, Table.ofList [("store", Table.ofList [("b", parentSource)])], Table.empty⟩,
        Cache.empty, []⟩
    let a : Arguments := ⟨[], [("n", .text "new"), ("rs", .records [Table.ofList [("a", "2")]])]⟩
    let a' : Arguments := ⟨[], [("n", .text "\x7b\x7b n \x7d\x7d"),
      ("rs", .list [.mapping [(.text "a", .text "\x7b% endfor %\x7d")]])]⟩
    ∃ p, Page.ofSource childSource none = .ok p ∧
    a.Binds plainBindings ∧ a'.Binds directiveBindings ∧
    plainBindings.SameShape directiveBindings ∧
    (Alike (e.IsPiece w p) plainBindings directiveBindings (e.renderPage p a w).1
      (e.renderPage p a' w).1 ∧
    Alike (· <:+: childSource) plainBindings directiveBindings (e.renderPageAlone p a w).1
      (e.renderPageAlone p a' w).1) ∧
    (e.renderPage p a' w).1 =
      .ok "<\x7b\x7b n \x7d\x7d,\x7b% endfor %\x7d\x7b\x7br\x7d\x7d>" := by
  intro e w a a'
  have hresult : ((Page.ofSource childSource none).toOption.map fun p =>
        (e.renderPage p a' w).1) =
      some (.ok "<\x7b\x7b n \x7d\x7d,\x7b% endfor %\x7d\x7b\x7br\x7d\x7d>") := by decide +kernel
  have hplain : a.Binds plainBindings := ⟨by decide +kernel, rfl⟩
  have hdirective : a'.Binds directiveBindings := ⟨by decide +kernel, rfl⟩
  have hshape : plainBindings.SameShape directiveBindings :=
    Bindings.sameShape_of_entries (.cons ⟨rfl, trivial⟩
      (.cons ⟨rfl, .cons (Record.sameNames_of_keys_eq rfl) .nil⟩ .nil))
  cases hp : Page.ofSource childSource none with
  | error error =>
    rw [hp] at hresult
    cases hresult
  | ok p =>
    rw [hp] at hresult
    exact ⟨p, rfl, hplain, hdirective, hshape, renderPage_alike hp hplain hdirective hshape,
      Option.some.inj hresult⟩

end Engine

end Stencil
