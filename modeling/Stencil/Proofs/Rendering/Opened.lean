import Stencil.Proofs.Rendering.Refinement

/-! The nodes that are rendered. Whichever way the blocks of a template are opened up, what is left
are its nodes outside blocks, those within blocks, perhaps trimmed, and its parent tag as text. So
no blocks are left, loops hold leaves alone, and the texts among the nodes are pieces of the sources
that the templates were read from. -/
namespace Stencil

/-- What an entry puts into a text by itself, if it puts anything there. -/
def Entry.raw? : Entry → Option Text
  | .text _ raw | .slot _ _ raw | .parent _ _ raw => some raw
  | _ => none

theorem Token.raw_of_mem_shown? {counts : Bool} {t : Token} {e : Entry} {raw : Text}
    (he : e ∈ t.shown? counts) (hraw : raw ∈ e.raw?) : raw = t.raw := by
  rw [shown?] at he
  split at he <;> cases he
  case h_3 => cases counts <;> exact (Option.some.inj hraw).symm
  all_goals first | exact (Option.some.inj hraw).symm | cases hraw

namespace Node

/-- All that a node puts into a text by itself satisfies `P`. -/
def Quotes (P : Text → Prop) (node : Node) : Prop := ∀ e ∈ node.entries, ∀ raw ∈ e.raw?, P raw

variable {P : Text → Prop}

theorem Quotes.mono {Q : Text → Prop} {node : Node} (h : node.Quotes P) (hpq : ∀ t, P t → Q t) :
    node.Quotes Q := fun e he raw hraw => hpq raw (h e he raw hraw)

theorem quotes_text_iff {position : Position} {value : Text} :
    (text position value).Quotes P ↔ P value := by
  refine ⟨fun h => h _ List.mem_cons_self value rfl, fun h e he raw hraw => ?_⟩
  obtain rfl := List.mem_singleton.mp he
  cases hraw
  exact h

theorem Quotes.of_mem_loop {position : Position} {item collection raw : Text} {body : List Node}
    (h : (loop position item collection raw body).Quotes P) {node : Node} (hnode : node ∈ body) :
    node.Quotes P := fun e he =>
  h e (List.mem_cons_of_mem _ (List.mem_append_left _ (mem_entriesOf hnode he)))

theorem Quotes.of_mem_block {position : Position} {name : Text} {body : List Node}
    (h : (block position name body).Quotes P) {node : Node} (hnode : node ∈ body) :
    node.Quotes P := fun e he =>
  h e (List.mem_cons_of_mem _ (List.mem_append_left _ (mem_entriesOf hnode he)))

theorem quotes_of_mem_trim {source : Text} {nodes : List Node}
    (h : ∀ node ∈ nodes, node.Quotes (· <:+: source)) :
    ∀ node ∈ trim nodes, node.Quotes (· <:+: source) :=
  forall_mem_trim (fun hpiece htext => by
    rw [quotes_text_iff] at htext ⊢
    exact hpiece.trans htext) h

theorem mem_entriesWith {parent : Parent} {nodes : List Node} {node : Node} (hnode : node ∈ nodes)
    {e : Entry} (he : e ∈ node.entries) : e ∈ entriesWith parent nodes := by
  induction nodes with
  | nil => cases hnode
  | cons first nodes ih =>
    rw [entriesWith]
    split
    · exact List.mem_cons_of_mem _ (mem_entriesOf hnode he)
    · obtain rfl | hnode := List.mem_cons.mp hnode
      · exact List.mem_append_left _ he
      · exact List.mem_append_right _ (ih hnode)

theorem parent_mem_entriesWith (parent : Parent) (nodes : List Node) :
    .parent parent.position parent.base parent.raw ∈ entriesWith parent nodes := by
  induction nodes with
  | nil => exact List.mem_cons_self
  | cons node nodes ih =>
    rw [entriesWith]
    split
    · exact List.mem_cons_self
    · exact List.mem_append_right _ ih

end Node

namespace Template

open Node

variable {t base : Template} {source : Text}

theorem mem_linearise {node : Node} (hnode : node ∈ t.body) {e : Entry} (he : e ∈ node.entries) :
    e ∈ t.linearise := by
  rw [linearise]
  cases t.parent with
  | none => exact mem_entriesOf hnode he
  | some parent => exact mem_entriesWith hnode he

/-- A template that was read has the entries of its tokens, and one of them for its parent. -/
theorem entries_and_parent_of_ofSource (h : ofSource source = .ok t) :
    t.linearise = Token.entries (Token.ofSource source) ∧
      t.parent = (Token.outerParent? (Token.ofSource source)).bind Token.parent? := by
  obtain ⟨p, hread, htags, rfl⟩ := exists_progress_of_ofSource h
  have hfaithful := faithful_of_ofSource hread
  have hentries := hfaithful.entries
  rw [htags] at hentries
  exact ⟨hentries, hfaithful.parent⟩

/-- The entries of a template that was read show tokens of its source. -/
theorem exists_token_of_mem_linearise (h : ofSource source = .ok t) {e : Entry}
    (he : e ∈ t.linearise) :
    ∃ token ∈ Token.ofSource source, ∃ counts, e ∈ token.shown? counts := by
  rw [(entries_and_parent_of_ofSource h).1] at he
  obtain ⟨token, htoken, hshown⟩ := List.mem_filterMap.mp he
  exact ⟨token, htoken, _, hshown⟩

/-- The entries of a template that was read are written with pieces of its source. -/
theorem raw_infix_of_mem_linearise (h : ofSource source = .ok t) {e : Entry}
    (he : e ∈ t.linearise) {raw : Text} (hraw : raw ∈ e.raw?) : raw <:+: source := by
  obtain ⟨token, htoken, counts, hshown⟩ := exists_token_of_mem_linearise h he
  rw [Token.raw_of_mem_shown? hshown hraw]
  exact Token.raw_infix_of_mem_ofSource htoken

theorem raw_infix_of_parent (h : ofSource source = .ok t) {parent : Parent}
    (hparent : t.parent = some parent) : parent.raw <:+: source := by
  refine raw_infix_of_mem_linearise h (e := .parent parent.position parent.base parent.raw) ?_ rfl
  rw [linearise, hparent]
  exact parent_mem_entriesWith parent t.body

/-- A node outside all blocks stays, and one within a block is shown. -/
theorem forall_mem_flatten {P : Node → Prop} (houtside : ∀ node ∈ t.body, node.FitsBlock → P node)
    (hinside : ∀ position name body, .block position name body ∈ t.body → ∀ node ∈ body, P node)
    (hfits : ∀ node ∈ t.body, node.FitsTop) : ∀ node ∈ t.flatten, P node := by
  intro node hnode
  obtain ⟨top, htop, hnode⟩ := List.mem_flatMap.mp hnode
  cases top with
  | block position name body => exact hinside position name body htop node hnode
  | text | slot | loop =>
    obtain rfl := List.mem_singleton.mp hnode
    exact houtside _ htop (hfits _ htop)

/-- The body of a block is shown when the block is opened up. -/
theorem mem_flatten_of_lastBlock? {name : Text} {body : List Node}
    (h : t.lastBlock? name = some body) {node : Node} (hnode : node ∈ body) :
    node ∈ t.flatten := by
  obtain ⟨top, htop, hfound⟩ := List.exists_of_findSome?_eq_some h
  refine List.mem_flatMap.mpr ⟨top, List.mem_reverse.mp htop, ?_⟩
  cases top with
  | text | slot | loop => cases hfound
  | block position name' body' =>
    dsimp only at hfound
    split at hfound
    · cases hfound
      exact hnode
    · cases hfound

theorem forall_mem_flattenAlone {P : Node → Prop} (hparent : ∀ parent ∈ t.parent, P parent.asText)
    (hflatten : ∀ node ∈ t.flatten, P node) : ∀ node ∈ t.flattenAlone, P node := by
  intro node hnode
  obtain hnode | hnode := List.mem_append.mp hnode
  · obtain ⟨parent, hmem, rfl⟩ := List.mem_map.mp hnode
    exact hparent parent (Option.mem_toList.mp hmem)
  · exact hflatten node hnode

/-- A parent that is filled in shows its tag, its own nodes outside blocks, and trimmed bodies of
blocks. -/
theorem forall_mem_fill {P : Node → Prop} (hparent : ∀ parent ∈ base.parent, P parent.asText)
    (hbase : ∀ node ∈ base.flatten, P node)
    (htrim : ∀ body, (∀ node ∈ body, node ∈ t.flatten) → ∀ node ∈ trim body, P node) :
    ∀ node ∈ base.fill t.fillings, P node := by
  intro node hnode
  obtain hnode | hnode := List.mem_append.mp hnode
  · obtain ⟨parent, hmem, rfl⟩ := List.mem_map.mp hnode
    exact hparent parent (Option.mem_toList.mp hmem)
  · obtain ⟨top, htop, hnode⟩ := List.mem_flatMap.mp hnode
    cases top with
    | text | slot | loop => exact hbase node (List.mem_flatMap.mpr ⟨_, htop, hnode⟩)
    | block position name body =>
      dsimp only at hnode
      rw [get?_fillings] at hnode
      cases hlast : t.lastBlock? name with
      | none =>
        rw [hlast] at hnode
        cases hnode
      | some last =>
        rw [hlast] at hnode
        exact htrim last (fun node hnode => mem_flatten_of_lastBlock? hlast hnode) node hnode

/-! What is left of templates that were read. -/

theorem fitsBlock_of_mem_flatten (h : ofSource source = .ok t) :
    ∀ node ∈ t.flatten, node.FitsBlock :=
  forall_mem_flatten (fun _ _ hfits => hfits) (fun _ _ _ hblock => fitsTop_of_mem_body h _ hblock)
    (fitsTop_of_mem_body h)

theorem fitsBlock_of_mem_flattenAlone (h : ofSource source = .ok t) :
    ∀ node ∈ t.flattenAlone, node.FitsBlock :=
  forall_mem_flattenAlone (fun _ _ => trivial) (fitsBlock_of_mem_flatten h)

theorem fitsBlock_of_mem_fill {baseSource : Text} (h : ofSource source = .ok t)
    (hbase : ofSource baseSource = .ok base) : ∀ node ∈ base.fill t.fillings, node.FitsBlock :=
  forall_mem_fill (fun _ _ => trivial) (fitsBlock_of_mem_flatten hbase) fun _ hbody =>
    fitsBlock_of_mem_trim fun node hnode => fitsBlock_of_mem_flatten h node (hbody node hnode)

/-- The entries of the nodes that are shown are entries of the template. -/
theorem mem_linearise_of_mem_flatten (h : ofSource source = .ok t) :
    ∀ node ∈ t.flatten, ∀ e ∈ node.entries, e ∈ t.linearise :=
  forall_mem_flatten (fun _ hnode _ _ he => mem_linearise hnode he)
    (fun _ _ _ hblock _ hnode _ he => mem_linearise hblock
      (List.mem_cons_of_mem _ (List.mem_append_left _ (Node.mem_entriesOf hnode he))))
    (fitsTop_of_mem_body h)

theorem quotes_of_mem_flatten (h : ofSource source = .ok t) :
    ∀ node ∈ t.flatten, node.Quotes (· <:+: source) := fun node hnode e he _ hraw =>
  raw_infix_of_mem_linearise h (mem_linearise_of_mem_flatten h node hnode e he) hraw

theorem quotes_of_mem_flattenAlone (h : ofSource source = .ok t) :
    ∀ node ∈ t.flattenAlone, node.Quotes (· <:+: source) :=
  forall_mem_flattenAlone (fun _ hparent => quotes_text_iff.mpr (raw_infix_of_parent h hparent))
    (quotes_of_mem_flatten h)

theorem quotes_of_mem_fill {baseSource : Text} (h : ofSource source = .ok t)
    (hbase : ofSource baseSource = .ok base) : ∀ node ∈ base.fill t.fillings,
      node.Quotes fun raw => raw <:+: source ∨ raw <:+: baseSource :=
  forall_mem_fill
    (fun _ hparent => quotes_text_iff.mpr (.inr (raw_infix_of_parent hbase hparent)))
    (fun node hnode => (quotes_of_mem_flatten hbase node hnode).mono fun _ => .inr)
    fun _ hbody node hnode => (quotes_of_mem_trim (fun node hnode =>
      quotes_of_mem_flatten h node (hbody node hnode)) node hnode).mono fun _ => .inl

end Template

end Stencil
