import Stencil.Proofs.Rendering.Blame
import Stencil.Proofs.Rendering.Discarded
import Stencil.Proofs.Rendering.Pages
import Stencil.Proofs.Rendering.Strictness

/-! What a strict rendering proposes in place of a slot without a value. It is a name that is bound,
and among all of these the closest to what the slot refers to. But records are bound as well as
scalars, and a name of the context need be no word. So the proposed name has a value where it is
written in a slot, and is another than the one that failed, exactly if it is a word and if it is the
closest among the names of scalars too. -/
namespace Stencil

namespace Text

theorem IsClosest.of_subset {name candidate : Text} {candidates candidates' : List Text}
    (h : IsClosest name candidates candidate) (hsubset : candidates' ⊆ candidates)
    (hmem : candidate ∈ candidates') : IsClosest name candidates' candidate := by
  obtain ⟨-, guess, hguess, hbest⟩ := h
  exact ⟨hmem, guess, hguess, fun other hother => hbest other (hsubset hother)⟩

theorem closest?_eq_some_iff {name candidate : Text} {candidates : List Text} :
    closest? name candidates = some candidate ↔ IsClosest name candidates candidate := by
  constructor
  · exact isClosest_of_closest?
  · intro h
    cases hclosest : closest? name candidates with
    | none =>
      obtain ⟨hmem, guess, hguess, -⟩ := h
      rw [closest?_eq_none_iff.mp hclosest candidate hmem] at hguess
      cases hguess
    | some candidate' => rw [h.unique (isClosest_of_closest? hclosest)]

end Text

namespace Bindings

/-- The names that stand for a text. -/
def scalarNames (b : Bindings) : List Text :=
  b.keys.filter fun name => ((b.get? name).bind Binding.scalar?).isSome

theorem mem_scalarNames_iff {b : Bindings} {name : Text} :
    name ∈ b.scalarNames ↔ ∃ value, b.get? name = some (.scalar value) := by
  rw [scalarNames, List.mem_filter, Table.mem_keys_iff]
  cases b.get? name with
  | none => simp
  | some binding => cases binding <;> simp [Binding.scalar?]

/-- A slot for a name alone. -/
def slotFor (name : Text) : Text :=
  Directive.slotOpener ++ (" " ++ name ++ " " ++ Directive.slotCloser)

/-- The name can be written in a slot, which then has this value. -/
def Resolves (b : Bindings) (name value : Text) : Prop :=
  ∃ position raw, Template.ofSource (slotFor name) =
      .ok ⟨none, [.slot position ⟨name, none⟩ raw]⟩ ∧
    ∀ strict template, Node.render b strict template [.slot position ⟨name, none⟩ raw] = .ok value

/-- A word in a slot is read as the name of the slot. -/
theorem ofSource_slotFor {name : Text} (h : Text.isWord name = true) :
    Template.ofSource (slotFor name) =
      .ok ⟨none, [.slot Position.start ⟨name, none⟩ (slotFor name)]⟩ := by
  have hspace : ∀ c ∈ (" " : Text), Text.isSpace c = true := by decide
  have hread := Directive.read?_slot hspace hspace (.name h)
  have hproper : (Piece.directive (.slot ⟨name, none⟩) (slotFor name)).Proper := hread
  have hpieces : Piece.ofText (slotFor name) =
      [.directive (.slot ⟨name, none⟩) (slotFor name)] := by
    apply Piece.ofText_eq_of_tiles
    have hall : ∀ piece ∈ [Piece.directive (.slot ⟨name, none⟩) (slotFor name)],
        piece.Proper := by simpa using hproper
    simpa [Piece.raw] using tiles_of_proper hall (.singleton _)
  rw [Template.ofSource, Token.ofSource, hpieces]
  rfl

/-- Only a word is read as the name of a slot. -/
theorem isWord_of_ofSource {source name raw : Text} {position : Position}
    (h : Template.ofSource source = .ok ⟨none, [.slot position ⟨name, none⟩ raw]⟩) :
    Text.isWord name = true := by
  have hentry : Entry.slot position ⟨name, none⟩ raw ∈
      (Template.mk none [.slot position ⟨name, none⟩ raw]).linearise :=
    Template.mem_linearise List.mem_cons_self List.mem_cons_self
  obtain ⟨token, htoken, counts, hshown⟩ := Template.exists_token_of_mem_linearise h hentry
  obtain ⟨hkind, -, -⟩ := Token.directive_of_mem_shown? hshown rfl
  obtain ⟨offset, hstands, -⟩ := Token.exists_standsAt_of_mem_ofSource htoken hkind
  exact hstands.isWord_name

theorem render_slot (b : Bindings) (strict : Bool) (template : Option Text) (position : Position)
    (reference : Reference) (raw : Text) :
    Node.render b strict template [.slot position reference raw] =
      Node.write b strict template (.slot position reference raw) := by
  have hunroll : Node.unrollAll b template [.slot position reference raw] =
      .ok [.slot position reference raw] := Node.unrollAll_singleton
  rw [Node.render, hunroll]
  exact Node.writeAll_singleton

theorem resolves_iff {b : Bindings} {name value : Text} : b.Resolves name value ↔
    Text.isWord name = true ∧ b.get? name = some (.scalar value) := by
  constructor
  · rintro ⟨position, raw, hread, hrender⟩
    refine ⟨isWord_of_ofSource hread, ?_⟩
    have hstrict := hrender true none
    rw [render_slot, Node.write] at hstrict
    dsimp only at hstrict
    split at hstrict
    · rename_i value' _ hvalue
      rw [hvalue, Except.ok.inj hstrict]
    · cases hstrict
  · rintro ⟨hword, hvalue⟩
    refine ⟨_, _, ofSource_slotFor hword, fun strict template => ?_⟩
    rw [render_slot, Node.write, hvalue]

end Bindings

namespace Scene

variable {s : Scene} {error : RenderError}

/-- The error is that of a slot that refers to no scalar. -/
def Undefines (s : Scene) (error : RenderError) : Prop :=
  ∃ (position : Position) (reference : Reference),
    error = s.errorAt position (.undefinedAmong reference.path s.boundNames) ∧
    reference.attr ≠ some [] ∧
    (reference.attr = none → ∀ value, s.binding? reference.name ≠ some (.scalar value))

theorem undefines_slot {current? : Option (Text × Record)} {position : Position}
    {reference : Reference} {raw : Text} (hattr : reference.attr ≠ some [])
    (h : (s.slot current? position reference raw).error? = some error) : s.Undefines error := by
  have hunbound : (reference.attr = none →
      ∀ value, s.binding? reference.name ≠ some (.scalar value)) →
      (s.unbound position reference raw).error? = some error → s.Undefines error := by
    intro hnone herror
    rw [unbound] at herror
    split at herror
    · exact ⟨position, reference, (Option.some.inj herror).symm, hattr, hnone⟩
    · cases herror
  obtain ⟨name, attr?⟩ := reference
  cases attr? with
  | some attr =>
    have hdotted : some attr = none → ∀ value, s.binding? name ≠ some (.scalar value) := by
      intro hnone
      cases hnone
    unfold slot at h
    cases current? with
    | none => exact hunbound hdotted h
    | some current =>
      dsimp only at h
      split at h
      · cases h
      · exact hunbound hdotted h
  | none =>
    unfold slot at h
    dsimp only at h
    split at h
    · cases h
    · rename_i hother
      exact hunbound (fun _ => hother) h

mutual

theorem undefines_node {path : Text} {guess : Option Text} (current? : Option (Text × Record))
    (hfault : error.fault = .undefined path guess) : (node : Node) → node.FitsBlock →
    (s.node current? node).error? = some error → s.Undefines error
  | .text position value, _, h => by
    cases h
  | .slot position reference raw, hfits, h => by
    rw [Scene.node] at h
    exact undefines_slot hfits h
  | .loop position item collection raw body, hfits, h => by
    rw [Scene.node] at h
    split at h
    · rename_i records _
      obtain ⟨m, hm, herror⟩ := Meaning.exists_error?_of_all h
      obtain ⟨record, -, rfl⟩ := List.mem_map.mp hm
      have hbody : ∀ node ∈ body, node.FitsBlock :=
        fun node hnode => (hfits.2 node hnode).fitsBlock
      exact undefines_nodes (some (item, record)) hfault body hbody herror
    -- A loop that cannot be repeated has a fault of its own.
    · cases h
      cases hfault
    · cases h
      cases hfault
  | .block position name body, hfits, h => by
    cases hfits

/-- What is reported as undefined is a slot among the nodes. -/
theorem undefines_nodes {path : Text} {guess : Option Text} (current? : Option (Text × Record))
    (hfault : error.fault = .undefined path guess) : (nodes : List Node) →
    (∀ node ∈ nodes, node.FitsBlock) → (s.nodes current? nodes).error? = some error →
      s.Undefines error
  | [], _, h => by
    cases h
  | node :: nodes, hfits, h => by
    rw [Scene.nodes] at h
    obtain ⟨hnode, hnodes⟩ := List.forall_mem_cons.mp hfits
    rcases Meaning.error?_followedBy h with hfirst | hrest
    · exact undefines_node current? hfault node hnode hfirst
    · exact undefines_nodes current? hfault nodes hnodes hrest

end

end Scene

namespace Bindings

/-- What it means that a name is proposed in place of a reference that has no value. -/
structure Proposes (b : Bindings) (path guess : Text) : Prop where
  /-- No name that is bound is closer. -/
  closest : Text.IsClosest path b.keys guess
  /-- The name works if it is a word and would be proposed among the names of scalars alone. -/
  resolves_iff : (∃ value, b.Resolves guess value) ↔
    Text.isWord guess = true ∧ path.closest? b.scalarNames = some guess
  /-- A name that works is not what failed. -/
  ne_path : (∃ value, b.Resolves guess value) → guess ≠ path
  /-- Where all names are words that stand for scalars, it works. -/
  works : (∀ name ∈ b.keys, Text.isWord name = true ∧ name ∈ b.scalarNames) →
    ∃ value, b.Resolves guess value

theorem exists_resolves_iff {b : Bindings} {name : Text} :
    (∃ value, b.Resolves name value) ↔ Text.isWord name = true ∧ name ∈ b.scalarNames := by
  constructor
  · rintro ⟨value, hresolves⟩
    obtain ⟨hword, hvalue⟩ := resolves_iff.mp hresolves
    exact ⟨hword, mem_scalarNames_iff.mpr ⟨value, hvalue⟩⟩
  · rintro ⟨hword, hscalar⟩
    obtain ⟨value, hvalue⟩ := mem_scalarNames_iff.mp hscalar
    exact ⟨value, resolves_iff.mpr ⟨hword, hvalue⟩⟩

theorem scalarNames_subset (b : Bindings) : b.scalarNames ⊆ b.keys := by
  intro name hname
  exact (List.mem_filter.mp hname).1

/-- A slot that fails proposes the closest name. -/
theorem proposes_of_closest? {b : Bindings} {reference : Reference} {guess : Text}
    (hattr : reference.attr ≠ some [])
    (hnone : reference.attr = none → ∀ value, b.get? reference.name ≠ some (.scalar value))
    (h : reference.path.closest? b.keys = some guess) : b.Proposes reference.path guess := by
  have hclosest : Text.IsClosest reference.path b.keys guess := Text.isClosest_of_closest? h
  refine ⟨hclosest, ?_, ?_, ?_⟩
  · rw [exists_resolves_iff, Text.closest?_eq_some_iff]
    constructor
    · rintro ⟨hword, hscalar⟩
      exact ⟨hword, hclosest.of_subset b.scalarNames_subset hscalar⟩
    · rintro ⟨hword, hscalar, -⟩
      exact ⟨hword, hscalar⟩
  · intro hworks hsame
    obtain ⟨hword, hscalar⟩ := exists_resolves_iff.mp hworks
    obtain ⟨value, hvalue⟩ := mem_scalarNames_iff.mp hscalar
    obtain ⟨name, attr?⟩ := reference
    cases attr? with
    | none =>
      have hname : guess = name := hsame
      exact hnone rfl value (hname ▸ hvalue)
    | some attr =>
      have hdotted : Reference.path ⟨name, some attr⟩ = name ++ "." ++ attr := by
        cases attr with
        | nil => exact absurd rfl hattr
        | cons c cs => rfl
      have hdot : CodePoint.char '.' ∈ guess := by
        rw [hsame, hdotted]
        exact List.mem_append_left _ (List.mem_append_right _ List.mem_cons_self)
      exact Directive.dot_not_mem_of_isWord hword hdot
  · intro hall
    exact exists_resolves_iff.mpr (hall guess hclosest.1)

end Bindings

namespace Engine

variable {e : Engine} {p : Page} {a : Arguments} {w : Workspace}

theorem proposes_of_finish {nodes : List Node} (hfits : ∀ node ∈ nodes, node.FitsBlock)
    {path guess : Text} {template : Option Text} {line : Option Int}
    (h : (e.finish p nodes a w).1 =
      .error (.template (.rendering ⟨.undefined path (some guess), template, line⟩))) :
    ∃ b, a.bindings = .ok b ∧ b.Proposes path guess := by
  cases hbindings : a.bindings with
  | error f =>
    rw [finish_eq_error hbindings] at h
    exact absurd (Except.error.inj h) (Arguments.bindings_ne_template hbindings _)
  | ok b =>
    rw [finish_fst hbindings, (Node.renders_nodes hfits).render_eq] at h
    obtain ⟨error, herror, hsame⟩ := Meaning.error?_of_result h
    cases hsame
    obtain ⟨position, reference, hundefined, hattr, hnone⟩ :=
      Scene.undefines_nodes none rfl nodes hfits herror
    obtain ⟨rfl, hguess⟩ := RenderFault.undefined.inj (congrArg RenderError.fault hundefined)
    exact ⟨b, rfl, Bindings.proposes_of_closest? hattr hnone hguess.symm⟩

/-- Whatever a page and its bindings are, and whether its parent is filled in or not, a name that is
proposed is one of the bound names, and it works unless it is bound to records or no word. -/
theorem proposes_of_undefined {source : Text} {name : Option Text}
    (hp : Page.ofSource source name = .ok p) {path guess : Text} {template : Option Text}
    {line : Option Int} {f : Failure}
    (hf : f = .template (.rendering ⟨.undefined path (some guess), template, line⟩))
    (h : (e.renderPage p a w).1 = .error f ∨ (e.renderPageAlone p a w).1 = .error f) :
    ∃ b, a.Binds b ∧ b.Proposes path guess := by
  subst hf
  have hself : a.namesSelf = false :=
    h.elim (fun hpage => namesSelf_of_renderPage hpage) fun halone =>
      namesSelf_of_renderPageAlone halone
  have hbound {nodes : List Node} {w : Workspace} (hfits : ∀ node ∈ nodes, node.FitsBlock)
      (hfinish : (e.finish p nodes a w).1 =
        .error (.template (.rendering ⟨.undefined path (some guess), template, line⟩))) :
      ∃ b, a.Binds b ∧ b.Proposes path guess := by
    obtain ⟨b, hbindings, hproposes⟩ := proposes_of_finish hfits hfinish
    exact ⟨b, ⟨hself, hbindings⟩, hproposes⟩
  rcases h with hpage | halone
  · rw [renderPage_eq hself] at hpage
    rcases hnodes : e.nodes p w with ⟨f | nodes, w'⟩
    · rw [bind_eq_error hnodes] at hpage
      have hother := nodes_ne_rendering (congrArg Prod.fst hnodes)
      exact absurd (Except.error.inj hpage) (hother _)
    · rw [bind_eq hnodes] at hpage
      have hfits : ∀ node ∈ nodes, node.FitsBlock :=
        fun node hnode => (fits_and_quotes_of_nodes hp hnodes node hnode).1
      exact hbound hfits hpage
  · rw [renderPageAlone_eq hself] at halone
    have hread := (Page.template_of_ofSource hp).1
    exact hbound (Template.fitsBlock_of_mem_flattenAlone hread) halone

/-- A page with one slot. -/
def slotPage (name : Text) : Page :=
  ⟨none, Bindings.slotFor name, ⟨none, [.slot Position.start ⟨name, none⟩ (Bindings.slotFor name)]⟩⟩

theorem ofSource_slotPage {name : Text} (h : Text.isWord name = true) :
    Page.ofSource (Bindings.slotFor name) none = .ok (slotPage name) :=
  Page.ofSource_eq_ok (Bindings.ofSource_slotFor h) none

/-- What a page without name fails with on its first line. -/
def proposing (path guess : Text) : Failure :=
  .template (.rendering ⟨.undefined path (some guess), none, some 1⟩)

/-- In a strict rendering the slot fails and proposes the closest of the bound names. -/
theorem renderPage_slotPage {b : Bindings} (hstrict : e.strict = true) (ha : a.Binds b)
    {name guess : Text} (hnone : ∀ value, b.get? name ≠ some (.scalar value))
    (hguess : name.closest? b.keys = some guess) :
    (e.renderPage (slotPage name) a w).1 = .error (proposing name guess) := by
  have hflatten : (slotPage name).template.flatten =
      [.slot Position.start ⟨name, none⟩ (Bindings.slotFor name)] := rfl
  have hpath : Reference.path ⟨name, none⟩ = name := rfl
  rw [renderPage_eq ha.1, bind_eq (nodes_of_none rfl), finish_fst ha.2, hflatten,
    Bindings.render_slot, Node.write]
  dsimp only
  split
  · rename_i value _ hvalue
    exact absurd hvalue (hnone value)
  · rw [if_pos hstrict, RenderFault.undefinedAmong, hpath, hguess]
    rfl

/-- A title and some records. -/
def listing : Arguments :=
  ⟨[some (Table.ofList [("title", .text "News"), ("items", .records [Table.ofList [("a", "1")]])])],
    []⟩

theorem binds_listing : listing.Binds
    ⟨[("title", .scalar "News"), ("items", .records [Table.ofList [("a", "1")]])], by decide⟩ :=
  ⟨by decide +kernel, rfl⟩

/-- A title is proposed for a misspelled one. -/
theorem proposes_title :
    let e : Engine := ⟨none, true, defaultFallback⟩
    let w := workspaceWith []
    Page.ofSource (Bindings.slotFor "titl") none = .ok (slotPage "titl") ∧
    (e.renderPage (slotPage "titl") listing w).1 = .error (proposing "titl" "title") ∧
    ∃ b, listing.Binds b ∧ b.Proposes "titl" "title" := by
  intro e w
  have hp : Page.ofSource (Bindings.slotFor "titl") none = .ok (slotPage "titl") :=
    ofSource_slotPage (by decide)
  have htitle : Text.guess? "titl" "title" = some (⟨8, 9⟩, ("title" : Text)) := by cbv
  have hitems : Text.guess? "titl" "items" = none := by cbv
  have hguess : Text.closest? "titl" ["title", "items"] = some ("title" : Text) := by
    rw [Text.closest?_eq, List.filterMap_cons, htitle, List.filterMap_cons, hitems]
    rfl
  have hundefined : (e.renderPage (slotPage "titl") listing w).1 =
      .error (proposing "titl" "title") :=
    renderPage_slotPage rfl binds_listing (fun value h => by cases h) hguess
  exact ⟨hp, hundefined, proposes_of_undefined hp rfl (.inl hundefined)⟩

/-- Records are proposed in place of themselves, although a slot does not show them. -/
theorem proposes_records :
    let e : Engine := ⟨none, true, defaultFallback⟩
    let w := workspaceWith []
    Page.ofSource (Bindings.slotFor "items") none = .ok (slotPage "items") ∧
    (e.renderPage (slotPage "items") listing w).1 = .error (proposing "items" "items") ∧
    ∃ b, listing.Binds b ∧ ∀ value, ¬ b.Resolves "items" value := by
  intro e w
  have htitle : Text.guess? "items" "title" = some (⟨6, 10⟩, ("title" : Text)) := by cbv
  have hitems : Text.guess? "items" "items" = some (⟨10, 10⟩, ("items" : Text)) := by cbv
  have hguess : Text.closest? "items" ["title", "items"] = some ("items" : Text) := by
    rw [Text.closest?_eq, List.filterMap_cons, htitle, List.filterMap_cons, hitems]
    decide +kernel
  have hundefined : (e.renderPage (slotPage "items") listing w).1 =
      .error (proposing "items" "items") :=
    renderPage_slotPage rfl binds_listing (fun value h => by cases h) hguess
  refine ⟨ofSource_slotPage (by decide), hundefined, _, binds_listing, ?_⟩
  intro value hresolves
  have hbinding := (Bindings.resolves_iff.mp hresolves).2
  cases hbinding

end Engine

end Stencil
