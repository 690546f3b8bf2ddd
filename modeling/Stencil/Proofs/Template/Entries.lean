import Stencil.Proofs.Position
import Stencil.Template.Parser
import Mathlib.Data.List.Basic

/-! Templates written out again. A template is listed from its front, each node by an entry, and
blocks and loops by an entry before and one after what they hold; the parent tag goes where its
position puts it among the nodes at the top. Tokens are listed by entries as well. Of the parent
tags the first outside all blocks and loops is an entry of its own, and every other one is that of a
text. -/
namespace Stencil

/-- What a node or a tag shows of the token it comes from. Closing tags show nothing. -/
inductive Entry
  | text (position : Position) (value : Text)
  | slot (position : Position) (reference : Reference) (raw : Text)
  | parent (position : Position) (base raw : Text)
  | openBlock (position : Position) (name : Text)
  | openLoop (position : Position) (item collection raw : Text)
  | closeBlock
  | closeLoop
deriving DecidableEq, Repr

namespace Entry

def position? : Entry → Option Position
  | text position _ | slot position _ _ | parent position _ _ | openBlock position _
  | openLoop position _ _ _ => some position
  | closeBlock | closeLoop => none

end Entry

/-! The entries of tokens. -/
namespace Token

/-- How many tags are open behind the token. -/
def nesting (depth : Nat) (t : Token) : Nat :=
  match t.kind with
  | .directive (.openBlock _) | .directive (.openLoop _ _) => depth + 1
  | .directive .closeBlock | .directive .closeLoop => depth - 1
  | _ => depth

/-- The token as the parent of a template, if it is a parent tag. -/
def parent? (t : Token) : Option Parent :=
  match t.kind with
  | .directive (.parent base) => some ⟨t.position, base, t.raw⟩
  | _ => none

/-- The parent tags that stand outside all blocks and loops. -/
def outerParents : (depth : Nat) → List Token → List Token
  | _, [] => []
  | depth, t :: tokens =>
    if depth = 0 ∧ t.parent?.isSome then t :: outerParents (t.nesting depth) tokens
    else outerParents (t.nesting depth) tokens

/-- The first parent tag outside all blocks and loops. -/
def outerParent? (tokens : List Token) : Option Token := (outerParents 0 tokens).head?

/-- The entry of a token. A parent tag that counts shows itself, and any other its raw text. -/
def shown? (counts : Bool) (t : Token) : Option Entry :=
  match t.kind with
  | .text => some (.text t.position t.raw)
  | .directive (.slot reference) => some (.slot t.position reference t.raw)
  | .directive (.parent base) =>
    some (if counts then .parent t.position base t.raw else .text t.position t.raw)
  | .directive (.openBlock name) => some (.openBlock t.position name)
  | .directive (.openLoop item collection) => some (.openLoop t.position item collection t.raw)
  | .directive .closeBlock => some .closeBlock
  | .directive .closeLoop => some .closeLoop
  | .endOfSource => none

/-- The entries of some tokens when at most one of them counts as the parent tag. -/
def entriesCounting (counting : Option Token) (tokens : List Token) : List Entry :=
  tokens.filterMap fun t => t.shown? (counting = some t)

/-- The entries of tokens. -/
def entries (tokens : List Token) : List Entry := entriesCounting (outerParent? tokens) tokens

end Token

/-! The entries of nodes. -/
namespace Node

mutual

def entries : Node → List Entry
  | text position value => [.text position value]
  | slot position reference raw => [.slot position reference raw]
  | loop position item collection raw body =>
    .openLoop position item collection raw :: (entriesOf body ++ [.closeLoop])
  | block position name body => .openBlock position name :: (entriesOf body ++ [.closeBlock])

def entriesOf : List Node → List Entry
  | [] => []
  | node :: nodes => node.entries ++ entriesOf nodes

end

def position : Node → Position
  | text position _ | slot position _ _ | loop position _ _ _ _ | block position _ _ => position

/-- The entries of the nodes at the top, with the parent tag before the first that comes later. -/
def entriesWith (parent : Parent) : List Node → List Entry
  | [] => [.parent parent.position parent.base parent.raw]
  | node :: nodes =>
    if parent.position < node.position then
      .parent parent.position parent.base parent.raw :: entriesOf (node :: nodes)
    else node.entries ++ entriesWith parent nodes

/-- A text or a slot, which has no empty attribute. -/
def IsLeaf : Node → Prop
  | text _ _ => True
  | slot _ reference _ => reference.attr ≠ some []
  | loop .. | block .. => False

/-- A leaf, or a loop over leaves with its opening tag. -/
def FitsBlock : Node → Prop
  | loop _ _ _ raw body => raw ≠ [] ∧ ∀ node ∈ body, node.IsLeaf
  | node => node.IsLeaf

/-- A block of such nodes, or one of them. -/
def FitsTop : Node → Prop
  | block _ _ body => ∀ node ∈ body, node.FitsBlock
  | node => node.FitsBlock

theorem entriesOf_append (nodes nodes' : List Node) :
    entriesOf (nodes ++ nodes') = entriesOf nodes ++ entriesOf nodes' := by
  induction nodes with
  | nil => rfl
  | cons node nodes ih => rw [List.cons_append, entriesOf, entriesOf, ih, List.append_assoc]

theorem entriesOf_singleton (node : Node) : entriesOf [node] = node.entries := by
  rw [entriesOf, entriesOf, List.append_nil]

/-- A node begins with an entry at its position. -/
theorem exists_entry (node : Node) : ∃ e ∈ node.entries, e.position? = some node.position := by
  cases node <;> exact ⟨_, List.mem_cons_self, rfl⟩

theorem mem_entriesOf {e : Entry} {node : Node} {nodes : List Node} (hnode : node ∈ nodes)
    (he : e ∈ node.entries) : e ∈ entriesOf nodes := by
  induction nodes with
  | nil => cases hnode
  | cons first nodes ih =>
    rw [entriesOf]
    obtain rfl | hnode := List.mem_cons.mp hnode
    · exact List.mem_append_left _ he
    · exact List.mem_append_right _ (ih hnode)

theorem IsLeaf.fitsBlock {node : Node} (h : node.IsLeaf) : node.FitsBlock := by
  cases node with
  | text | slot => exact h
  | loop | block => cases h

theorem FitsBlock.fitsTop {node : Node} (h : node.FitsBlock) : node.FitsTop := by
  cases node with
  | text | slot | loop => exact h
  | block => cases h

/-- A node behind the parent tag adds its entries at the end. -/
theorem entriesWith_append {parent : Parent} {node : Node}
    (h : parent.position < node.position) (nodes : List Node) :
    entriesWith parent (nodes ++ [node]) = entriesWith parent nodes ++ node.entries := by
  induction nodes with
  | nil =>
    show (if parent.position < node.position then _ else _) = _
    rw [if_pos h, entriesOf_singleton]
    rfl
  | cons first nodes ih =>
    rw [List.cons_append, entriesWith, entriesWith]
    split
    · rw [← List.cons_append, entriesOf_append, entriesOf_singleton]
      rfl
    · rw [ih, List.append_assoc]

/-- A parent tag behind all nodes comes last. -/
theorem entriesWith_of_forall {parent : Parent} {nodes : List Node}
    (h : ∀ node ∈ nodes, ¬ parent.position < node.position) : entriesWith parent nodes =
      entriesOf nodes ++ [.parent parent.position parent.base parent.raw] := by
  induction nodes with
  | nil => rfl
  | cons node nodes ih =>
    rw [entriesWith, if_neg (h node List.mem_cons_self), entriesOf, List.append_assoc,
      ih fun n hn => h n (List.mem_cons_of_mem node hn)]

end Node

/-- The entries of the nodes at the top and of the parent tag, if there is one. -/
def Template.entriesOfTop : Option Parent → List Node → List Entry
  | none, nodes => Node.entriesOf nodes
  | some parent, nodes => Node.entriesWith parent nodes

/-- The template written out again. -/
def Template.linearise (t : Template) : List Entry := entriesOfTop t.parent t.body

namespace Token

theorem outerParents_append (depth : Nat) (tokens tokens' : List Token) :
    outerParents depth (tokens ++ tokens') =
      outerParents depth tokens ++ outerParents (tokens.foldl nesting depth) tokens' := by
  induction tokens generalizing depth with
  | nil => rfl
  | cons t tokens ih =>
    rw [List.cons_append, outerParents, outerParents, List.foldl_cons, ih]
    split <;> rfl

theorem mem_of_mem_outerParents {depth : Nat} {tokens : List Token} {t : Token}
    (h : t ∈ outerParents depth tokens) : t ∈ tokens := by
  induction tokens generalizing depth with
  | nil => cases h
  | cons first tokens ih =>
    rw [outerParents] at h
    split at h
    · obtain rfl | h := List.mem_cons.mp h
      · exact List.mem_cons_self
      · exact List.mem_cons_of_mem first (ih h)
    · exact List.mem_cons_of_mem first (ih h)

theorem mem_of_outerParent? {tokens : List Token} {t : Token} (h : outerParent? tokens = some t) :
    t ∈ tokens := mem_of_mem_outerParents (List.mem_of_head? h)

theorem isSome_parent?_of_mem_outerParents {depth : Nat} {tokens : List Token} {t : Token}
    (h : t ∈ outerParents depth tokens) : t.parent?.isSome := by
  induction tokens generalizing depth with
  | nil => cases h
  | cons first tokens ih =>
    rw [outerParents] at h
    split at h
    · rename_i hfirst
      obtain rfl | h := List.mem_cons.mp h
      · exact hfirst.2
      · exact ih h
    · exact ih h

theorem outerParents_singleton {depth : Nat} {t : Token} :
    outerParents depth [t] = if depth = 0 ∧ t.parent?.isSome then [t] else [] := rfl

/-- Another token counts as the parent only if it stands outside and none counts already. -/
theorem outerParent?_snoc (tokens : List Token) (t : Token) : outerParent? (tokens ++ [t]) =
    (outerParent? tokens).or
      (if tokens.foldl nesting 0 = 0 ∧ t.parent?.isSome then some t else none) := by
  rw [outerParent?, outerParents_append, List.head?_append, outerParents_singleton]
  split <;> rfl

theorem position?_of_mem_shown? {counts : Bool} {t : Token} {e : Entry}
    (h : e ∈ shown? counts t) : e.position? = some t.position ∨ e.position? = none := by
  rw [shown?] at h
  split at h <;> cases h
  case h_3 => cases counts <;> exact .inl rfl
  all_goals first | exact .inl rfl | exact .inr rfl

/-- An entry that has a position has it from one of the tokens. -/
theorem exists_position_of_mem_entries {counting : Option Token} {tokens : List Token} {e : Entry}
    (h : e ∈ entriesCounting counting tokens) {position : Position}
    (hposition : e.position? = some position) : ∃ t ∈ tokens, t.position = position := by
  obtain ⟨t, ht, he⟩ := List.mem_filterMap.mp h
  obtain hsome | hnone := position?_of_mem_shown? he
  · exact ⟨t, ht, Option.some.inj (hsome.symm.trans hposition)⟩
  · cases hnone.symm.trans hposition

theorem entriesCounting_snoc (counting : Option Token) (tokens : List Token) (t : Token) :
    entriesCounting counting (tokens ++ [t]) =
      entriesCounting counting tokens ++ (t.shown? (counting = some t)).toList := by
  rw [entriesCounting, entriesCounting, List.filterMap_append, List.filterMap_cons]
  cases t.shown? (counting = some t) <;> rfl

/-- What counts among other tokens makes no difference. -/
theorem entriesCounting_eq_none {t : Token} {tokens : List Token} (h : t ∉ tokens) :
    entriesCounting (some t) tokens = entriesCounting none tokens := by
  refine List.filterMap_congr fun u hu => ?_
  have hne : some t ≠ some u := fun heq => h (Option.some.inj heq ▸ hu)
  have hnone : none ≠ some u := nofun
  rw [decide_eq_false hne, decide_eq_false hnone]

end Token

end Stencil
