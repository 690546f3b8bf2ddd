import Stencil.Proofs.Rendering.Opened

/-! A source without its blocks. A source without loops is told apart into the tags of blocks and
what is written between them. Blocks can be opened up, which deletes their tags, or replaced, and a
child gives a trimmed text for each name of a block. What is written comes in the order of the nodes
that are read, but for the tag of the parent that counts: that is no node, and where it is shown it
comes first. -/
namespace Stencil

inductive Mark
  | openBlock (name : Text)
  | closeBlock
  /-- Anything else as it is written. -/
  | written (raw : Text)
deriving DecidableEq, Repr

namespace Mark

/-- What is left when the tags of blocks are deleted. -/
def shown (marks : List Mark) : Text :=
  marks.flatMap fun
    | .written raw => raw
    | _ => []

/-- What is left when a text takes the place of each block, from its opening tag to its closing
tag. -/
def replaced (f : Text → Text) : (inside : Bool) → List Mark → Text
  | _, [] => []
  | _, openBlock name :: marks => f name ++ replaced f true marks
  | _, closeBlock :: marks => replaced f false marks
  | inside, written raw :: marks => (if inside then [] else raw) ++ replaced f inside marks

/-- The blocks in order, with what is written within. -/
def blocks : List Mark → List (Text × Text)
  | [] => []
  | openBlock name :: marks => (name, shown (marks.takeWhile (· ≠ closeBlock))) :: blocks marks
  | _ :: marks => blocks marks

/-- What is given for the blocks of a name: the trimmed text of the last one, or nothing. -/
def given (marks : List Mark) (name : Text) : Text :=
  (((blocks marks).reverse.lookup name).map Text.trim).getD []

theorem shown_append (marks marks' : List Mark) :
    shown (marks ++ marks') = shown marks ++ shown marks' := List.flatMap_append

end Mark

namespace Token

/-- The mark of a token; the end of the source has none. -/
def mark? (t : Token) : Option Mark :=
  match t.kind with
  | .directive (.openBlock name) => some (.openBlock name)
  | .directive .closeBlock => some .closeBlock
  | .text | .directive _ => some (.written t.raw)
  | .endOfSource => none

def marks (tokens : List Token) : List Mark := tokens.filterMap mark?

/-- The tokens with the parent tag that counts in front of all others. -/
def parentFirst (tokens : List Token) : List Token :=
  (outerParent? tokens).toList ++ tokens.filter fun t => outerParent? tokens ≠ some t

def isLoopTag (t : Token) : Bool :=
  match t.kind with
  | .directive (.openLoop _ _) | .directive .closeLoop => true
  | _ => false

end Token

namespace Entry

/-- The mark of an entry; the tags of loops have none. -/
def mark? : Entry → Option Mark
  | text _ raw | slot _ _ raw | parent _ _ raw => some (.written raw)
  | openBlock _ name => some (.openBlock name)
  | closeBlock => some .closeBlock
  | openLoop .. | closeLoop => none

def marks (entries : List Entry) : List Mark := entries.filterMap mark?

def isParent : Entry → Bool
  | parent .. => true
  | _ => false

def isLoopTag : Entry → Bool
  | openLoop .. | closeLoop => true
  | _ => false

/-- What is written by the entries. -/
def shown (entries : List Entry) : Text := Mark.shown (marks entries)

theorem marks_append (entries entries' : List Entry) :
    marks (entries ++ entries') = marks entries ++ marks entries' := List.filterMap_append

theorem shown_append (entries entries' : List Entry) :
    shown (entries ++ entries') = shown entries ++ shown entries' := by
  rw [shown, marks_append, Mark.shown_append]
  rfl

end Entry

namespace Token

/-- A parent tag that counts is not moved if it comes first, nor is there anything to move without
one. -/
theorem parentFirst_ofSource {source : Text} (h : ∀ t, outerParent? (ofSource source) = some t →
    (ofSource source).head? = some t) : parentFirst (ofSource source) = ofSource source := by
  have hordered := pairwise_ofSource source
  rw [parentFirst]
  cases hfound : outerParent? (ofSource source) with
  | none => exact List.filter_eq_self.mpr fun t _ => by simp
  | some t =>
    obtain ⟨tokens, htokens⟩ := List.head?_eq_some_iff.mp (h t hfound)
    rw [htokens, List.pairwise_cons] at hordered
    have hlater : ∀ t' ∈ tokens, decide (some t ≠ some t') = true := by
      intro t' ht'
      refine decide_eq_true fun heq => Position.lt_irrefl t.position ?_
      exact Option.some.inj heq ▸ hordered.1 t' ht'
    rw [htokens, List.filter_cons_of_neg (by simp), List.filter_eq_self.mpr hlater]
    rfl

/-! Tokens and entries have the same marks. -/

theorem mark?_shown? (counts : Bool) {t : Token} (h : t.isLoopTag = false) :
    (t.shown? counts).bind Entry.mark? = t.mark? := by
  rw [shown?, mark?]
  rw [isLoopTag] at h
  split at h
  · cases h
  · cases h
  · rename_i hopen hclose
    rcases hkind : t.kind with _ | d | _
    · rfl
    · cases d with
      | parent base => cases counts <;> rfl
      | openLoop item collection => exact absurd hkind (hopen item collection)
      | closeLoop => exact absurd hkind hclose
      | _ => rfl
    · rfl

theorem isLoopTag_of_mem_shown? {counts : Bool} {t : Token} {e : Entry}
    (h : t.isLoopTag = false) (he : e ∈ t.shown? counts) : e.isLoopTag = false := by
  rw [isLoopTag] at h
  rw [shown?] at he
  split at he <;> cases he
  case h_3 => cases counts <;> rfl
  all_goals first | rfl | (rename_i hkind; rw [hkind] at h; cases h)

theorem marks_entriesCounting (counting : Option Token) {tokens : List Token}
    (h : ∀ t ∈ tokens, t.isLoopTag = false) :
    Entry.marks (entriesCounting counting tokens) = marks tokens := by
  rw [Entry.marks, entriesCounting, List.filterMap_filterMap, marks]
  exact List.filterMap_congr fun t ht => mark?_shown? _ (h t ht)

theorem isParent_of_mem_shown? {counts : Bool} {t : Token} {e : Entry} (he : e ∈ t.shown? counts)
    (hparent : t.parent?.isSome) : e.isParent = counts := by
  rw [parent?] at hparent
  split at hparent
  · rename_i base hkind
    rw [shown?, hkind] at he
    cases counts <;> cases he <;> rfl
  · cases hparent

theorem isParent_of_mem_shown?_false {t : Token} {e : Entry} (he : e ∈ t.shown? false) :
    e.isParent = false := by
  rw [shown?] at he
  split at he <;> cases he <;> rfl

/-- The mark of the parent tag that counts. -/
theorem marks_toList {counting : Option Token}
    (h : ∀ t, counting = some t → t.parent?.isSome) :
    marks counting.toList =
      (counting.bind parent?).toList.map fun parent => .written parent.raw := by
  cases counting with
  | none => rfl
  | some t =>
    have hparent := h t rfl
    rw [Option.toList_some, marks, List.filterMap_cons, Option.bind_some]
    rw [parent?] at hparent ⊢
    split at hparent
    · rename_i base hkind
      rw [mark?, hkind]
      rfl
    · cases hparent

/-- Without the parent entry the marks are those of the other tokens. -/
theorem marks_filter_entriesCounting {counting : Option Token} {tokens : List Token}
    (hcounting : ∀ t, counting = some t → t.parent?.isSome)
    (h : ∀ t ∈ tokens, t.isLoopTag = false) :
    Entry.marks ((entriesCounting counting tokens).filter (!·.isParent)) =
      marks (tokens.filter fun t => counting ≠ some t) := by
  induction tokens with
  | nil => rfl
  | cons t tokens ih =>
    obtain ⟨ht, hrest⟩ := List.forall_mem_cons.mp h
    have hmark := mark?_shown? (decide (counting = some t)) ht
    rw [entriesCounting, List.filterMap_cons]
    by_cases hcounts : counting = some t
    · rw [decide_eq_true hcounts] at hmark ⊢
      rw [List.filter_cons_of_neg (by simpa using hcounts), ← ih hrest]
      cases hshown : t.shown? true with
      | none => rfl
      | some e =>
        have hparent := isParent_of_mem_shown? hshown (hcounting t hcounts)
        dsimp only
        rw [List.filter_cons_of_neg (by rw [hparent]; decide)]
        rfl
    · rw [decide_eq_false hcounts] at hmark ⊢
      rw [List.filter_cons_of_pos (by simpa using hcounts), marks, List.filterMap_cons, ← hmark,
        ← marks, ← ih hrest]
      cases hshown : t.shown? false with
      | none => rfl
      | some e =>
        have hparent := isParent_of_mem_shown?_false hshown
        dsimp only
        rw [List.filter_cons_of_pos (by rw [hparent]; rfl), Entry.marks, List.filterMap_cons]
        rfl

end Token

namespace Node

mutual

/-- No node is the parent tag. -/
theorem filter_entries : (node : Node) → node.entries.filter (!·.isParent) = node.entries
  | text .. | slot .. => rfl
  | loop position item collection raw body => by
    have hbody := filter_entriesOf body
    rw [entries, List.filter_cons_of_pos rfl, List.filter_append, hbody]
    rfl
  | block position name body => by
    have hbody := filter_entriesOf body
    rw [entries, List.filter_cons_of_pos rfl, List.filter_append, hbody]
    rfl

theorem filter_entriesOf : (nodes : List Node) →
    (entriesOf nodes).filter (!·.isParent) = entriesOf nodes
  | [] => rfl
  | node :: nodes => by
    rw [entriesOf, List.filter_append, filter_entries node, filter_entriesOf nodes]

end

theorem filter_entriesWith (parent : Parent) (nodes : List Node) :
    (entriesWith parent nodes).filter (!·.isParent) = entriesOf nodes := by
  induction nodes with
  | nil => rfl
  | cons node nodes ih =>
    rw [entriesWith]
    split
    · rw [List.filter_cons_of_neg (by simp [Entry.isParent]), filter_entriesOf]
    · rw [List.filter_append, filter_entries, ih, entriesOf]

/-- A node without loops. -/
def NoLoop (node : Node) : Prop := ∀ e ∈ node.entries, e.isLoopTag = false

theorem NoLoop.of_mem_block {position : Position} {name : Text} {body : List Node}
    (h : (block position name body).NoLoop) {node : Node} (hnode : node ∈ body) : node.NoLoop :=
  fun e he => h e (List.mem_cons_of_mem _ (List.mem_append_left _ (mem_entriesOf hnode he)))

theorem FitsBlock.isLeaf {node : Node} (h : node.FitsBlock) (hloop : node.NoLoop) :
    node.IsLeaf := by
  cases node with
  | text | slot | block => exact h
  | loop position item collection raw body => cases hloop _ List.mem_cons_self

/-- Leaves are marked as written. -/
theorem exists_marks_of_isLeaf {nodes : List Node} (h : ∀ node ∈ nodes, node.IsLeaf) :
    ∃ raws : List Text, Entry.marks (entriesOf nodes) = raws.map .written := by
  induction nodes with
  | nil => exact ⟨[], rfl⟩
  | cons node nodes ih =>
    obtain ⟨hleaf, hrest⟩ := List.forall_mem_cons.mp h
    obtain ⟨raws, hraws⟩ := ih hrest
    rw [entriesOf, Entry.marks_append, hraws]
    cases node with
    | text position value => exact ⟨value :: raws, rfl⟩
    | slot position reference raw => exact ⟨raw :: raws, rfl⟩
    | loop | block => cases hleaf

/-- A node at the top is a leaf, or a block of what is written between its tags. -/
theorem marks_cases {node : Node} (hfits : node.FitsTop) (hloop : node.NoLoop) :
    (∃ raw, Entry.marks node.entries = [.written raw] ∧ ∀ position name body,
      node ≠ .block position name body) ∨
    ∃ position name body, node = .block position name body ∧ ∃ raws : List Text,
      Entry.marks (entriesOf body) = raws.map .written := by
  cases node with
  | text position value => exact .inl ⟨value, rfl, nofun⟩
  | slot position reference raw => exact .inl ⟨raw, rfl, nofun⟩
  | loop position item collection raw body => cases hloop _ List.mem_cons_self
  | block position name body =>
    refine .inr ⟨position, name, body, rfl, exists_marks_of_isLeaf fun node hnode => ?_⟩
    exact (hfits node hnode).isLeaf (hloop.of_mem_block hnode)

theorem marks_block (position : Position) (name : Text) (body : List Node) :
    Entry.marks (block position name body).entries =
      .openBlock name :: (Entry.marks (entriesOf body) ++ [.closeBlock]) := by
  rw [entries, Entry.marks, List.filterMap_cons, ← Entry.marks, Entry.marks_append]
  rfl

/-- A block shows what is written in it. -/
theorem shown_block (position : Position) (name : Text) (body : List Node) :
    Entry.shown (block position name body).entries = Entry.shown (entriesOf body) := by
  rw [Entry.shown, marks_block, ← List.singleton_append, Mark.shown_append, Mark.shown_append]
  exact List.append_nil _

end Node

/-! What is said of marks is said of the nodes they come from. -/
namespace Mark

open Node

variable {nodes : List Node}

theorem replaced_inside (f : Text → Text) (raws : List Text) (rest : List Mark) :
    replaced f true (raws.map written ++ rest) = replaced f true rest := by
  induction raws with
  | nil => rfl
  | cons raw raws ih => simpa [replaced] using ih

theorem takeWhile_written (raws : List Text) (rest : List Mark) :
    (raws.map written ++ closeBlock :: rest).takeWhile (· ≠ closeBlock) = raws.map written := by
  rw [List.takeWhile_append_of_pos (by simp)]
  simp

theorem blocks_written (raws : List Text) (rest : List Mark) :
    blocks (raws.map written ++ rest) = blocks rest := by
  induction raws with
  | nil => rfl
  | cons raw raws ih => simpa [blocks] using ih

/-- Each block of the top is replaced, and any other node is shown. -/
theorem replaced_entriesOf (f : Text → Text) (hfits : ∀ node ∈ nodes, node.FitsTop)
    (hloop : ∀ node ∈ nodes, node.NoLoop) : replaced f false (Entry.marks (entriesOf nodes)) =
      nodes.flatMap fun
        | .block _ name _ => f name
        | node => Entry.shown node.entries := by
  induction nodes with
  | nil => rfl
  | cons node nodes ih =>
    obtain ⟨hnode, hrest⟩ := List.forall_mem_cons.mp hfits
    obtain ⟨hfree, hothers⟩ := List.forall_mem_cons.mp hloop
    rw [entriesOf, Entry.marks_append, List.flatMap_cons, ← ih hrest hothers]
    obtain ⟨raw, hmarks, hleaf⟩ | ⟨position, name, body, rfl, raws, hraws⟩ :=
      marks_cases hnode hfree
    · have hshown : Entry.shown node.entries = raw := by
        rw [Entry.shown, hmarks]
        exact List.append_nil raw
      rw [hmarks]
      cases node with
      | block position name body => exact absurd rfl (hleaf position name body)
      | _ => rw [← hshown]; rfl
    · rw [marks_block, hraws, List.cons_append, List.append_assoc, replaced, replaced_inside]
      rfl

/-- A node at the top adds its block, if it is one. -/
theorem blocks_entries {node : Node} (hfits : node.FitsTop) (hloop : node.NoLoop)
    (rest : List Mark) : blocks (Entry.marks node.entries ++ rest) = (match node with
      | .block _ name body => [(name, Entry.shown (entriesOf body))]
      | _ => []) ++ blocks rest := by
  obtain ⟨raw, hmarks, hleaf⟩ | ⟨position, name, body, rfl, raws, hraws⟩ := marks_cases hfits hloop
  · rw [hmarks]
    cases node with
    | block position name body => exact absurd rfl (hleaf position name body)
    | _ => rfl
  · have hshown : Entry.shown (entriesOf body) = shown (raws.map written) := by
      rw [Entry.shown, hraws]
    rw [marks_block, hraws, List.cons_append, List.append_assoc, blocks, List.singleton_append,
      takeWhile_written, blocks_written, ← hshown]
    rfl

theorem blocks_entriesOf (hfits : ∀ node ∈ nodes, node.FitsTop)
    (hloop : ∀ node ∈ nodes, node.NoLoop) : blocks (Entry.marks (entriesOf nodes)) =
      nodes.filterMap fun
        | .block _ name body => some (name, Entry.shown (entriesOf body))
        | _ => none := by
  induction nodes with
  | nil => rfl
  | cons node nodes ih =>
    obtain ⟨hnode, hrest⟩ := List.forall_mem_cons.mp hfits
    obtain ⟨hfree, hothers⟩ := List.forall_mem_cons.mp hloop
    rw [entriesOf, Entry.marks_append, blocks_entries hnode hfree, ih hrest hothers,
      List.filterMap_cons]
    cases node <;> rfl

/-- The parent tag stands outside all blocks. -/
theorem blocks_entriesWith (parent : Parent) (hfits : ∀ node ∈ nodes, node.FitsTop)
    (hloop : ∀ node ∈ nodes, node.NoLoop) : blocks (Entry.marks (entriesWith parent nodes)) =
      blocks (Entry.marks (entriesOf nodes)) := by
  induction nodes with
  | nil => rfl
  | cons node nodes ih =>
    obtain ⟨hnode, hrest⟩ := List.forall_mem_cons.mp hfits
    obtain ⟨hfree, hothers⟩ := List.forall_mem_cons.mp hloop
    rw [entriesWith]
    split
    · rfl
    · rw [Entry.marks_append, blocks_entries hnode hfree, ih hrest hothers, entriesOf,
        Entry.marks_append, blocks_entries hnode hfree]

end Mark

namespace Template

open Node

variable {t : Template} {source : Text}

theorem noLoop_of_mem_linearise (h : ofSource source = .ok t)
    (hloop : ∀ token ∈ Token.ofSource source, token.isLoopTag = false) :
    ∀ e ∈ t.linearise, e.isLoopTag = false := by
  intro e he
  obtain ⟨token, htoken, counts, hshown⟩ := exists_token_of_mem_linearise h he
  exact Token.isLoopTag_of_mem_shown? (hloop token htoken) hshown

theorem noLoop_of_mem_body (h : ofSource source = .ok t)
    (hloop : ∀ token ∈ Token.ofSource source, token.isLoopTag = false) :
    ∀ node ∈ t.body, node.NoLoop := fun _ hnode e he =>
  noLoop_of_mem_linearise h hloop e (mem_linearise hnode he)

theorem filter_linearise (t : Template) : t.linearise.filter (!·.isParent) = entriesOf t.body := by
  rw [linearise]
  cases t.parent with
  | none => exact filter_entriesOf t.body
  | some parent => exact filter_entriesWith parent t.body

/-- The tag of the parent comes first, and then the nodes. -/
theorem marks_parentFirst (h : ofSource source = .ok t)
    (hloop : ∀ token ∈ Token.ofSource source, token.isLoopTag = false) :
    Token.marks (Token.parentFirst (Token.ofSource source)) =
      (t.parent.toList.map fun parent => .written parent.raw) ++
        Entry.marks (entriesOf t.body) := by
  obtain ⟨hentries, hparent⟩ := entries_and_parent_of_ofSource h
  have hcounting : ∀ token, Token.outerParent? (Token.ofSource source) = some token →
      token.parent?.isSome := fun token htoken =>
    Token.isSome_parent?_of_mem_outerParents (List.mem_of_head? htoken)
  have hrest : Token.marks ((Token.ofSource source).filter fun token =>
      Token.outerParent? (Token.ofSource source) ≠ some token) =
        Entry.marks (entriesOf t.body) := by
    rw [← Token.marks_filter_entriesCounting hcounting hloop, ← filter_linearise, hentries]
    rfl
  rw [Token.parentFirst, Token.marks, List.filterMap_append, ← Token.marks, ← Token.marks, hrest,
    Token.marks_toList hcounting, hparent]

/-- What is given for the blocks of a name is the trimmed text of the last of them. -/
theorem given_marks (h : ofSource source = .ok t)
    (hloop : ∀ token ∈ Token.ofSource source, token.isLoopTag = false) (name : Text) :
    Mark.given (Token.marks (Token.ofSource source)) name =
      ((t.lastBlock? name).map fun body => (Entry.shown (entriesOf body)).trim).getD [] := by
  have hfits := fitsTop_of_mem_body h
  have hfree := noLoop_of_mem_body h hloop
  have hmarks : Mark.blocks (Token.marks (Token.ofSource source)) =
      t.body.filterMap fun
        | .block _ name body => some (name, Entry.shown (entriesOf body))
        | _ => none := by
    rw [← Token.marks_entriesCounting _ hloop, ← Mark.blocks_entriesOf hfits hfree]
    show Mark.blocks (Entry.marks (Token.entries (Token.ofSource source))) = _
    rw [← (entries_and_parent_of_ofSource h).1, linearise]
    cases t.parent with
    | none => rfl
    | some parent => exact Mark.blocks_entriesWith parent hfits hfree
  rw [Mark.given, hmarks, ← List.filterMap_reverse, lastBlock?]
  induction t.body.reverse with
  | nil => rfl
  | cons node nodes ih =>
    rw [List.filterMap_cons, List.findSome?_cons]
    cases node with
    | text | slot | loop => exact ih
    | block position name' body =>
      dsimp only
      rw [List.lookup_cons]
      by_cases hname : name = name'
      · rw [if_pos hname, beq_iff_eq.mpr hname]
        rfl
      · rw [if_neg hname, beq_eq_false_iff_ne.mpr hname]
        exact ih

end Template

end Stencil
