import Stencil.Text.Replace
import Stencil.Text.Space
import Stencil.Text.Word

/-! Directives: the marked up parts of a source. A tag stands between `{%` and `%}` and opens or
closes a block or a loop or names the parent template; a slot stands between `{{` and `}}` and
refers to a value. A directive reaches to the first closer after its opener. What stands between the
two decides alone whether it is one: `read?` gives nothing for an opener without closer and for an
inside that no form of the grammar fits, and such an opener is text. No form but the parent tag
admits other characters than `isInner` lists, so reading stops at the first of these. -/
namespace Stencil

/-- What a slot refers to: a value of the context, or with an attribute a property of the record
that a loop binds. -/
structure Reference where
  name : Text
  attr : Option Text
deriving DecidableEq, Repr

/-- The reference as written: an attribute follows its name after a dot. -/
def Reference.path (r : Reference) : Text :=
  match r.attr with
  | none | some [] => r.name
  | some attr => r.name ++ "." ++ attr

inductive Directive
  /-- Names the template that this one fills in. -/
  | parent (base : Text)
  | openBlock (name : Text)
  | closeBlock
  /-- Binds `item` to each record of `collection` in turn. -/
  | openLoop (item collection : Text)
  | closeLoop
  | slot (reference : Reference)
deriving DecidableEq, Repr

namespace Directive

/-- Tags but the parent tag are told by the words between their spaces. -/
def ofWords? : List Text → Option Directive
  | [key] =>
    if key = "endblock" then some .closeBlock
    else if key = "endfor" then some .closeLoop
    else none
  | [key, name] =>
    if key = "block" ∧ name.isWord then some (.openBlock name)
    else if key = "endblock" ∧ name.isWord then some .closeBlock
    else none
  | [key, item, link, collection] =>
    if key = "for" ∧ link = "in" ∧ item.isWord ∧ collection.isWord then
      some (.openLoop item collection)
    else none
  | _ => none

/-- A slot holds one word, or two joined by a dot. -/
def ofSlot? (inside : Text) : Option Directive :=
  match inside.fields with
  | [path] =>
    match path.splitOn (.char '.') with
    | [name] =>
      if Text.isWord name then some (.slot ⟨name, none⟩) else none
    | [name, attr] =>
      if Text.isWord name ∧ Text.isWord attr then some (.slot ⟨name, some attr⟩) else none
    | _ => none
  | _ => none

def slotOpener : Text := ['{', '{']

def slotCloser : Text := ['}', '}']

def tagOpener : Text := ['{', '%']

def tagCloser : Text := ['%', '}']

/-- What the tag that names the parent has behind its opener. -/
def parentOpener : Text := " extends \""

/-- What stands between the name of the parent and what follows its tag. -/
def parentCloser : Text := ['"', ' ', '%', '}']

/-- The characters of words and of what stands between them. -/
def isInner (c : CodePoint) : Bool := Text.isWordChar c || Text.isSpace c || c = '.'

/-- A directive at the front of a text, the part it is written with, and what follows. -/
structure Reading where
  directive : Directive
  raw : Text
  rest : Text
deriving DecidableEq, Repr

/-- The reading with an opener in front of it. -/
def Reading.after (opener : Text) (r : Reading) : Reading :=
  { r with raw := opener ++ r.raw }

/-- Reads what follows the opener of a slot. -/
def readSlot? (cs : Text) : Option Reading :=
  let inside := cs.takeWhile isInner
  match cs.dropWhile isInner with
  | .char '}' :: .char '}' :: rest => (ofSlot? inside).map (⟨·, inside ++ slotCloser, rest⟩)
  | _ => none

/-- Reads what follows the opener of a tag that is no parent tag. -/
def readTag? (cs : Text) : Option Reading :=
  let inside := cs.takeWhile isInner
  match cs.dropWhile isInner with
  | .char '%' :: .char '}' :: rest =>
    (ofWords? (Text.fields inside)).map (⟨·, inside ++ tagCloser, rest⟩)
  | _ => none

/-- Reads the name of the parent and the end of its tag. The name holds no closer. -/
def readName? (cs : Text) : Option Reading :=
  let name := cs.takeWhile (· ≠ .char '"')
  match cs.dropWhile (· ≠ .char '"') with
  | .char '"' :: .char ' ' :: .char '%' :: .char '}' :: rest =>
    if name = [] ∨ Text.occursIn tagCloser name then none
    else some ⟨.parent name, name ++ parentCloser, rest⟩
  | _ => none

/-- Reads what follows the opener of a parent tag, which has one spelling: single spaces, and the
name in quotation marks. -/
def readParent? (cs : Text) : Option Reading :=
  if cs.take parentOpener.length = parentOpener then
    (readName? (cs.drop parentOpener.length)).map (Reading.after parentOpener)
  else none

def read? : Text → Option Reading
  | .char '{' :: .char '{' :: cs => (readSlot? cs).map (Reading.after slotOpener)
  | .char '{' :: .char '%' :: cs => (readParent? cs <|> readTag? cs).map (Reading.after tagOpener)
  | _ => none

theorem raw_append_rest_of_readSlot? {cs : Text} {r : Reading} (h : readSlot? cs = some r) :
    r.raw ++ r.rest = cs := by
  have hcs := List.takeWhile_append_dropWhile (p := isInner) (l := cs)
  unfold readSlot? at h
  split at h
  · rename_i rest hrest
    obtain ⟨d, -, rfl⟩ := Option.map_eq_some_iff.1 h
    rw [hrest] at hcs
    simpa [slotCloser] using hcs
  · contradiction

theorem raw_append_rest_of_readTag? {cs : Text} {r : Reading} (h : readTag? cs = some r) :
    r.raw ++ r.rest = cs := by
  have hcs := List.takeWhile_append_dropWhile (p := isInner) (l := cs)
  unfold readTag? at h
  split at h
  · rename_i rest hrest
    obtain ⟨d, -, rfl⟩ := Option.map_eq_some_iff.1 h
    rw [hrest] at hcs
    simpa [tagCloser] using hcs
  · contradiction

theorem raw_append_rest_of_readName? {cs : Text} {r : Reading} (h : readName? cs = some r) :
    r.raw ++ r.rest = cs := by
  have hcs := List.takeWhile_append_dropWhile (p := fun c => decide (c ≠ .char '"')) (l := cs)
  unfold readName? at h
  split at h
  · rename_i rest hrest
    dsimp only at h
    split at h
    · contradiction
    · obtain rfl := Option.some.inj h
      rw [hrest] at hcs
      simpa [parentCloser] using hcs
  · contradiction

theorem raw_append_rest_of_readParent? {cs : Text} {r : Reading}
    (h : readParent? cs = some r) : r.raw ++ r.rest = cs := by
  unfold readParent? at h
  split at h
  · rename_i hopener
    obtain ⟨r, hname, rfl⟩ := Option.map_eq_some_iff.1 h
    have hcs := List.take_append_drop parentOpener.length cs
    rw [hopener, ← raw_append_rest_of_readName? hname] at hcs
    simpa [Reading.after] using hcs
  · contradiction

/-- A reading divides the text. -/
theorem raw_append_rest {cs : Text} {r : Reading} (h : read? cs = some r) :
    r.raw ++ r.rest = cs := by
  unfold read? at h
  split at h
  · obtain ⟨r, hslot, rfl⟩ := Option.map_eq_some_iff.1 h
    simp [Reading.after, slotOpener, raw_append_rest_of_readSlot? hslot]
  · obtain ⟨r, htag, rfl⟩ := Option.map_eq_some_iff.1 h
    rw [Option.orElse_eq_orElse, Option.orElse_eq_or, Option.or_eq_some_iff] at htag
    obtain htag | ⟨-, htag⟩ := htag
    · simp [Reading.after, tagOpener, raw_append_rest_of_readParent? htag]
    · simp [Reading.after, tagOpener, raw_append_rest_of_readTag? htag]
  · contradiction

theorem raw_ne_nil {cs : Text} {r : Reading} (h : read? cs = some r) : r.raw ≠ [] := by
  unfold read? at h
  split at h
  · obtain ⟨r, -, rfl⟩ := Option.map_eq_some_iff.1 h
    simp [Reading.after, slotOpener]
  · obtain ⟨r, -, rfl⟩ := Option.map_eq_some_iff.1 h
    simp [Reading.after, tagOpener]
  · contradiction

theorem length_rest_lt {cs : Text} {r : Reading} (h : read? cs = some r) :
    r.rest.length < cs.length := by
  have hpos := List.length_pos_iff.mpr (raw_ne_nil h)
  have hlen := congrArg List.length (raw_append_rest h)
  rw [List.length_append] at hlen
  omega

end Directive

end Stencil
