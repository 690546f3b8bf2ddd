import Stencil.Proofs.Engine.Work
import Stencil.Proofs.Rendering.Opened
import Stencil.Proofs.Token.Leftmost

/-! What an error of rendering tells of. Whatever fails when nodes are rendered is a loop or a slot
among their entries, and the error has the line of this entry. The entries of the nodes of a page
come from its own source or from that of its parent, where a tag stands on the line that is told;
the error does not say in which of the two. -/
namespace Stencil

namespace Entry

/-- The directive that an opening tag of a loop or a slot was written with, and its raw text. -/
def directive? : Entry → Option (Position × Directive × Text)
  | slot position reference raw => some (position, .slot reference, raw)
  | openLoop position item collection raw => some (position, .openLoop item collection, raw)
  | _ => none

end Entry

/-- A fault that tells of a directive: of a loop over the collection, with the tag as written, or of
a slot that refers to the path. -/
inductive RenderFault.TellsOf : RenderFault → Directive → Text → Prop
  | missing (item collection raw : Text) :
      TellsOf (.missingCollection collection (some raw)) (.openLoop item collection) raw
  | scalar (item collection raw : Text) :
      TellsOf (.notRecords collection raw) (.openLoop item collection) raw
  | slot (reference : Reference) (guess : Option Text) (raw : Text) :
      TellsOf (.undefined reference.path guess) (.slot reference) raw

namespace RenderError

/-- The error of an entry, with its line. -/
def Blames (error : RenderError) (entry : Entry) : Prop :=
  ∃ position d raw, entry.directive? = some (position, d, raw) ∧ error.fault.TellsOf d raw ∧
    error.line = some position.line

theorem Blames.isSome_directive? {error : RenderError} {entry : Entry} (h : error.Blames entry) :
    entry.directive?.isSome := by
  obtain ⟨position, d, raw, hd, -⟩ := h
  rw [hd]
  rfl

/-- What the error tells of stands in a source, and begins on the line that is told. -/
def StandsIn (error : RenderError) (source : Text) : Prop :=
  ∃ offset d raw, StandsAt source offset d raw ∧ error.fault.TellsOf d raw ∧
    error.line = some (1 + (source.take offset).count (.char '\n') : Int)

end RenderError

namespace Meaning

def error? : Meaning → Option RenderError
  | text _ => none
  | unresolved e | unrepeatable e => some e

variable {m m' : Meaning} {error : RenderError}

theorem error?_followedBy (h : (m.followedBy m').error? = some error) :
    m.error? = some error ∨ m'.error? = some error := by
  cases m <;> cases m' <;> simp_all [followedBy, error?]

theorem exists_error?_of_all {ms : List Meaning} (h : (all ms).error? = some error) :
    ∃ m ∈ ms, m.error? = some error := by
  induction ms with
  | nil => cases h
  | cons m ms ih =>
    obtain hfirst | hrest := error?_followedBy h
    · exact ⟨m, List.mem_cons_self, hfirst⟩
    · obtain ⟨m', hm', herror⟩ := ih hrest
      exact ⟨m', List.mem_cons_of_mem m hm', herror⟩

theorem error?_of_result {f : Failure} (h : m.result = .error f) :
    ∃ error, m.error? = some error ∧ f = .template (.rendering error) := by
  cases m with
  | text t => cases h
  | unresolved e | unrepeatable e => exact ⟨e, rfl, (Except.error.inj h).symm⟩

end Meaning

namespace Scene

variable {s : Scene} {error : RenderError}

/-- An error of the scene's template that an entry is to blame for. -/
def Blames (s : Scene) (error : RenderError) (entry : Entry) : Prop :=
  error.template = s.template ∧ error.Blames entry

/-- A slot has a value, or it is one without. -/
theorem slot_cases (s : Scene) (current? : Option (Text × Record)) (position : Position)
    (reference : Reference) (raw : Text) :
    (∃ t, s.slot current? position reference raw = .text t) ∨
      s.slot current? position reference raw = s.unbound position reference raw := by
  unfold slot
  split
  · split
    · exact .inl ⟨_, rfl⟩
    · exact .inr rfl
  · exact .inr rfl
  · split
    · exact .inl ⟨_, rfl⟩
    · exact .inr rfl

theorem blames_slot {current? : Option (Text × Record)} {position : Position}
    {reference : Reference} {raw : Text}
    (h : (s.slot current? position reference raw).error? = some error) :
    s.Blames error (.slot position reference raw) := by
  obtain ⟨t, htext⟩ | hunbound := s.slot_cases current? position reference raw
  · rw [htext] at h
    cases h
  · rw [hunbound, unbound] at h
    split at h
    · obtain rfl := Option.some.inj h
      exact ⟨rfl, position, .slot reference, raw, rfl, .slot reference _ raw, rfl⟩
    · cases h

mutual

/-- The error of a node is one of its entries' own. -/
theorem exists_blames_of_node (current? : Option (Text × Record)) : (node : Node) →
    (s.node current? node).error? = some error → ∃ entry ∈ node.entries, s.Blames error entry
  | .text position value, h => by
    cases h
  | .slot position reference raw, h => by
    rw [Scene.node] at h
    exact ⟨_, List.mem_cons_self, blames_slot h⟩
  | .loop position item collection raw body, h => by
    rw [Scene.node] at h
    rw [Node.entries]
    split at h
    · rename_i records _
      obtain ⟨m, hm, herror⟩ := Meaning.exists_error?_of_all h
      obtain ⟨record, -, rfl⟩ := List.mem_map.mp hm
      obtain ⟨entry, hentry, hblames⟩ := exists_blames_of_nodes (some (item, record)) body herror
      exact ⟨entry, List.mem_cons_of_mem _ (List.mem_append_left _ hentry), hblames⟩
    · obtain rfl := Option.some.inj h
      exact ⟨_, List.mem_cons_self, rfl, position, _, raw, rfl, .scalar item collection raw, rfl⟩
    · obtain rfl := Option.some.inj h
      exact ⟨_, List.mem_cons_self, rfl, position, _, raw, rfl, .missing item collection raw, rfl⟩
  | .block position name body, h => by
    rw [Scene.node] at h
    rw [Node.entries]
    obtain ⟨entry, hentry, hblames⟩ := exists_blames_of_nodes current? body h
    exact ⟨entry, List.mem_cons_of_mem _ (List.mem_append_left _ hentry), hblames⟩

theorem exists_blames_of_nodes (current? : Option (Text × Record)) : (nodes : List Node) →
    (s.nodes current? nodes).error? = some error →
      ∃ entry ∈ Node.entriesOf nodes, s.Blames error entry
  | [], h => by
    cases h
  | node :: nodes, h => by
    rw [Scene.nodes] at h
    rw [Node.entriesOf]
    obtain hfirst | hrest := Meaning.error?_followedBy h
    · obtain ⟨entry, hentry, hblames⟩ := exists_blames_of_node current? node hfirst
      exact ⟨entry, List.mem_append_left _ hentry, hblames⟩
    · obtain ⟨entry, hentry, hblames⟩ := exists_blames_of_nodes current? nodes hrest
      exact ⟨entry, List.mem_append_right _ hentry, hblames⟩

end

end Scene

namespace Node

theorem exists_mem_of_mem_entriesOf {e : Entry} {nodes : List Node} (h : e ∈ entriesOf nodes) :
    ∃ node ∈ nodes, e ∈ node.entries := by
  induction nodes with
  | nil => cases h
  | cons node nodes ih =>
    rw [entriesOf] at h
    obtain h | h := List.mem_append.mp h
    · exact ⟨node, List.mem_cons_self, h⟩
    · obtain ⟨node', hnode', he⟩ := ih h
      exact ⟨node', List.mem_cons_of_mem node hnode', he⟩

/-- Rendering fails on behalf of the template, and by the fault of some entry. -/
theorem exists_blames_of_render {bindings : Bindings} {strict : Bool} {template : Option Text}
    {nodes : List Node} (hfits : ∀ node ∈ nodes, node.FitsBlock) {error : RenderError}
    (h : render bindings strict template nodes = .error (.template (.rendering error))) :
    error.template = template ∧ ∃ node ∈ nodes, ∃ entry ∈ node.entries, error.Blames entry := by
  rw [(renders_nodes hfits).render_eq] at h
  obtain ⟨error', herror, heq⟩ := Meaning.error?_of_result h
  cases heq
  obtain ⟨entry, hentry, htemplate, hblames⟩ := Scene.exists_blames_of_nodes none nodes herror
  obtain ⟨node, hnode, hmem⟩ := exists_mem_of_mem_entriesOf hentry
  exact ⟨htemplate, node, hnode, entry, hmem, hblames⟩

end Node

/-- So does a page whose nodes are rendered. -/
theorem Engine.exists_blames_of_finish {e : Engine} {p : Page} {a : Arguments} {w : Workspace}
    {nodes : List Node} (hfits : ∀ node ∈ nodes, node.FitsBlock) {error : RenderError}
    (h : (e.finish p nodes a w).1 = .error (.template (.rendering error))) :
    error.template = p.name ∧ ∃ node ∈ nodes, ∃ entry ∈ node.entries, error.Blames entry := by
  cases hbindings : a.bindings with
  | error f =>
    rw [finish_eq_error hbindings] at h
    exact absurd (Except.error.inj h) (Arguments.bindings_ne_template hbindings _)
  | ok b =>
    rw [finish_fst hbindings] at h
    exact Node.exists_blames_of_render hfits h

/-! Where the entries come from. -/

theorem Token.directive_of_mem_shown? {counts : Bool} {t : Token} {e : Entry}
    (he : e ∈ t.shown? counts) {position : Position} {d : Directive} {raw : Text}
    (hd : e.directive? = some (position, d, raw)) :
    t.kind = .directive d ∧ t.position = position ∧ t.raw = raw := by
  rw [shown?] at he
  split at he <;> cases he
  case h_3 => cases counts <;> cases hd
  all_goals first | (cases hd; exact ⟨‹_›, rfl, rfl⟩) | cases hd

namespace Template

variable {t base : Template} {source : Text} {error : RenderError}

/-- What an error blames among the entries of a template stands in its source. -/
theorem standsIn_of_mem_linearise (h : ofSource source = .ok t) {entry : Entry}
    (hentry : entry ∈ t.linearise) (hblames : error.Blames entry) : error.StandsIn source := by
  obtain ⟨position, d, raw, hd, htells, hline⟩ := hblames
  obtain ⟨token, htoken, counts, hshown⟩ := exists_token_of_mem_linearise h hentry
  obtain ⟨hkind, rfl, rfl⟩ := Token.directive_of_mem_shown? hshown hd
  obtain ⟨offset, hstands, hposition⟩ := Token.exists_standsAt_of_mem_ofSource htoken hkind
  exact ⟨offset, d, token.raw, hstands, htells, hposition ▸ hline⟩

/-- The loops and slots of a filled parent are its own and those of the template that fills it. -/
theorem mem_linearise_of_mem_fill {baseSource : Text} (h : ofSource source = .ok t)
    (hbase : ofSource baseSource = .ok base) : ∀ node ∈ base.fill t.fillings,
      ∀ e ∈ node.entries, e.directive?.isSome → e ∈ t.linearise ∨ e ∈ base.linearise := by
  refine forall_mem_fill (fun parent _ e he hsome => ?_)
    (fun node hnode e he _ => .inr (mem_linearise_of_mem_flatten hbase node hnode e he))
    fun body hbody => ?_
  · rw [List.mem_singleton.mp he] at hsome
    cases hsome
  · refine Node.forall_mem_trim (fun _ _ e he hsome => ?_) fun node hnode e he _ =>
      .inl (mem_linearise_of_mem_flatten h node (hbody node hnode) e he)
    rw [List.mem_singleton.mp he] at hsome
    cases hsome

end Template

end Stencil
