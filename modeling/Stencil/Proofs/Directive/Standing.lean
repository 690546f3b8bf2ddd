import Stencil.Directive
import Stencil.Proofs.Text.Fields

/-! Where a directive stands. The grammar says it without reading: an opener, the inside up to the
first closer after it, and the form that the inside has once it is trimmed, or, for the tag that
names the parent, the one spelling of the whole. Reading a text from its front gives exactly the
directive that stands there, although it never looks for a closer and stops at the first character
that no form admits. In particular at most one directive stands at a place. -/
namespace Stencil.Directive

open Text (IsGap isWord)

/-- A word, or two words joined by a dot. -/
inductive SlotForm : Text → Reference → Prop
  | name {name : Text} (hname : isWord name = true) : SlotForm name ⟨name, none⟩
  | attr {name attr : Text} (hname : isWord name = true) (hattr : isWord attr = true) :
      SlotForm (name ++ "." ++ attr) ⟨name, some attr⟩

/-- Keywords and words with white space between them. -/
inductive TagForm : Text → Directive → Prop
  | openBlock {gap name : Text} (hgap : IsGap gap) (hname : isWord name = true) :
      TagForm ("block" ++ gap ++ name) (.openBlock name)
  | closeBlock : TagForm "endblock" .closeBlock
  | closeNamed {gap name : Text} (hgap : IsGap gap) (hname : isWord name = true) :
      TagForm ("endblock" ++ gap ++ name) .closeBlock
  | openLoop {gap item gap' gap'' collection : Text} (hgap : IsGap gap)
      (hitem : isWord item = true) (hgap' : IsGap gap') (hgap'' : IsGap gap'')
      (hcollection : isWord collection = true) :
      TagForm ("for" ++ gap ++ (item ++ gap' ++ ("in" ++ gap'' ++ collection)))
        (.openLoop item collection)
  | closeLoop : TagForm "endfor" .closeLoop

/-- No closer begins before the one that ends the inside. -/
def UpToFirst (closer inside rest : Text) : Prop :=
  ∀ i < inside.length, ¬ closer <+: (inside ++ closer ++ rest).drop i

/-- The directive with its raw text stands at the front of a text. -/
inductive Stands (cs : Text) : Directive → Text → Prop
  | slot {inside rest : Text} {reference : Reference}
      (hcs : cs = slotOpener ++ (inside ++ slotCloser ++ rest))
      (hfirst : UpToFirst slotCloser inside rest) (hform : SlotForm inside.trim reference) :
      Stands cs (.slot reference) (slotOpener ++ (inside ++ slotCloser))
  | parent {inside rest base : Text} (hcs : cs = tagOpener ++ (inside ++ tagCloser ++ rest))
      (hfirst : UpToFirst tagCloser inside rest)
      (hraw : tagOpener ++ (inside ++ tagCloser) =
        tagOpener ++ (parentOpener ++ (base ++ parentCloser)))
      (hbase : base ≠ []) (hquote : .char '"' ∉ base) :
      Stands cs (.parent base) (tagOpener ++ (inside ++ tagCloser))
  | tag {inside rest : Text} {d : Directive} (hcs : cs = tagOpener ++ (inside ++ tagCloser ++ rest))
      (hfirst : UpToFirst tagCloser inside rest) (hform : TagForm inside.trim d) :
      Stands cs d (tagOpener ++ (inside ++ tagCloser))

/-! The forms of the insides. -/

theorem isWordChar_dot : Text.isWordChar (.char '.') = false := by decide

theorem dot_not_mem_of_isWord {word : Text} (h : isWord word = true) : .char '.' ∉ word := by
  intro hdot
  exact Bool.false_ne_true (isWordChar_dot.symm.trans (Text.isWordChar_of_mem h hdot))

theorem SlotForm.isSolid {t : Text} {reference : Reference} (h : SlotForm t reference) :
    Text.IsSolid t := by
  cases h with
  | name hname => exact Text.isSolid_of_isWord hname
  | @attr name attr hname hattr =>
    refine ⟨by simp [Text.ne_nil_of_isWord hname], fun c hc => ?_⟩
    rw [List.mem_append, List.mem_append] at hc
    obtain (hc | hc) | hc := hc
    · exact (Text.isSolid_of_isWord hname).2 c hc
    · obtain rfl := List.mem_singleton.mp hc
      decide
    · exact (Text.isSolid_of_isWord hattr).2 c hc

theorem ofSlot?_of_slotForm {inside : Text} {reference : Reference}
    (h : SlotForm inside.trim reference) : ofSlot? inside = some (.slot reference) := by
  have hfields := (Text.fields_eq_iff (List.cons_ne_nil _ []) inside).mpr (.one h.isSolid)
  rw [ofSlot?, hfields]
  generalize inside.trim = t at h
  cases h with
  | name hname =>
    dsimp only
    rw [List.splitOn_eq_singleton (dot_not_mem_of_isWord hname)]
    simp [hname]
  | @attr name attr hname hattr =>
    have hsplit : (name ++ "." ++ attr : Text).splitOn (.char '.') = [name, attr] := by
      rw [List.append_assoc]
      exact (List.splitOn_append_cons_self_of_not_mem (dot_not_mem_of_isWord hname) attr).trans
        (by rw [List.splitOn_eq_singleton (dot_not_mem_of_isWord hattr)])
    dsimp only
    rw [hsplit]
    simp [hname, hattr]

theorem ofSlot?_eq_some_iff {inside : Text} {d : Directive} : ofSlot? inside = some d ↔
    ∃ reference, SlotForm inside.trim reference ∧ d = .slot reference := by
  constructor
  · intro h
    unfold ofSlot? at h
    split at h
    · rename_i path hfields
      have hpath : inside.trim = path :=
        Text.eq_of_joined_singleton ((Text.fields_eq_iff (List.cons_ne_nil _ []) inside).mp hfields)
      have hjoin : [.char '.'].intercalate (path.splitOn (.char '.')) = path :=
        List.intercalate_splitOn (CodePoint.char '.')
      split at h
      · rename_i name hsplit
        obtain ⟨hname, hd⟩ := Option.ite_none_right_eq_some.mp h
        obtain rfl := Option.some.inj hd
        rw [hsplit, List.intercalate_singleton] at hjoin
        exact ⟨⟨name, none⟩, hpath ▸ hjoin ▸ .name hname, rfl⟩
      · rename_i name attr hsplit
        obtain ⟨⟨hname, hattr⟩, hd⟩ := Option.ite_none_right_eq_some.mp h
        obtain rfl := Option.some.inj hd
        rw [hsplit, List.intercalate_cons_cons, List.intercalate_singleton] at hjoin
        exact ⟨⟨name, some attr⟩, hpath ▸ hjoin ▸ .attr hname hattr, rfl⟩
      · contradiction
    · contradiction
  · rintro ⟨reference, hform, rfl⟩
    exact ofSlot?_of_slotForm hform

theorem TagForm.exists_joined {t : Text} {d : Directive} (h : TagForm t d) :
    ∃ words, words ≠ [] ∧ Text.Joined words t ∧ ofWords? words = some d := by
  cases h with
  | openBlock hgap hname =>
    exact ⟨_, List.cons_ne_nil _ _,
      .cons ⟨by decide, by decide⟩ hgap (.one (Text.isSolid_of_isWord hname)),
      by simp [ofWords?, hname]⟩
  | closeBlock =>
    exact ⟨_, List.cons_ne_nil _ _, .one ⟨by decide, by decide⟩, by simp [ofWords?]⟩
  | closeNamed hgap hname =>
    refine ⟨_, List.cons_ne_nil _ _,
      .cons ⟨by decide, by decide⟩ hgap (.one (Text.isSolid_of_isWord hname)), ?_⟩
    have hkey : ¬ ("endblock" : Text) = "block" := by decide
    simp [ofWords?, hname, hkey]
  | openLoop hgap hitem hgap' hgap'' hcollection =>
    exact ⟨_, List.cons_ne_nil _ _,
      .cons ⟨by decide, by decide⟩ hgap (.cons (Text.isSolid_of_isWord hitem) hgap'
        (.cons ⟨by decide, by decide⟩ hgap'' (.one (Text.isSolid_of_isWord hcollection)))),
      by simp [ofWords?, hitem, hcollection]⟩
  | closeLoop =>
    refine ⟨_, List.cons_ne_nil _ _, .one ⟨by decide, by decide⟩, ?_⟩
    have hkey : ¬ ("endfor" : Text) = "endblock" := by decide
    simp [ofWords?, hkey]

theorem tagForm_of_joined {words : List Text} {t : Text} {d : Directive}
    (hjoined : Text.Joined words t) (h : ofWords? words = some d) : TagForm t d := by
  unfold ofWords? at h
  split at h
  · cases hjoined with
    | one _ =>
      split_ifs at h with hend hfor <;> obtain rfl := Option.some.inj h
      · exact hend ▸ .closeBlock
      · exact hfor ▸ .closeLoop
    | cons _ _ tail => cases tail
  · cases hjoined with
    | cons _ hgap tail =>
      cases tail with
      | one _ =>
        split_ifs at h with hblock hend <;> obtain rfl := Option.some.inj h
        · exact hblock.1 ▸ .openBlock hgap hblock.2
        · exact hend.1 ▸ .closeNamed hgap hend.2
      | cons _ _ tail => cases tail
  · cases hjoined with
    | cons _ hgap tail =>
      cases tail with
      | cons _ hgap' tail =>
        cases tail with
        | cons _ hgap'' tail =>
          cases tail with
          | one _ =>
            obtain ⟨⟨hfor, hin, hitem, hcollection⟩, hd⟩ := Option.ite_none_right_eq_some.mp h
            obtain rfl := Option.some.inj hd
            exact hfor ▸ hin ▸ .openLoop hgap hitem hgap' hgap'' hcollection
          | cons _ _ tail => cases tail
  · contradiction

theorem ofWords?_fields_eq_some_iff {inside : Text} {d : Directive} :
    ofWords? inside.fields = some d ↔ TagForm inside.trim d := by
  constructor
  · intro h
    have hne : inside.fields ≠ [] := by
      intro hnil
      rw [hnil] at h
      cases h
    exact tagForm_of_joined ((Text.fields_eq_iff hne inside).mp rfl) h
  · intro h
    obtain ⟨words, hne, hjoined, hwords⟩ := h.exists_joined
    rw [(Text.fields_eq_iff hne inside).mpr hjoined, hwords]

/-! The characters of the insides, and reading up to a closer. -/

theorem isInner_of_isWordChar {c : CodePoint} (h : Text.isWordChar c = true) :
    isInner c = true := by simp [isInner, h]

theorem isInner_of_mem_isWord {word : Text} (h : isWord word = true) {c : CodePoint}
    (hc : c ∈ word) : isInner c = true := isInner_of_isWordChar (Text.isWordChar_of_mem h hc)

theorem isInner_of_mem_isGap {gap : Text} (h : IsGap gap) {c : CodePoint} (hc : c ∈ gap) :
    isInner c = true := by simp [isInner, h.2 c hc]

theorem SlotForm.isInner_of_mem {t : Text} {reference : Reference} (h : SlotForm t reference)
    {c : CodePoint} (hc : c ∈ t) : isInner c = true := by
  cases h with
  | name hname => exact isInner_of_mem_isWord hname hc
  | attr hname hattr =>
    rw [List.mem_append, List.mem_append] at hc
    obtain (hc | hc) | hc := hc
    · exact isInner_of_mem_isWord hname hc
    · obtain rfl := List.mem_singleton.mp hc
      decide
    · exact isInner_of_mem_isWord hattr hc

theorem TagForm.isInner_of_mem {t : Text} {d : Directive} (h : TagForm t d)
    {c : CodePoint} (hc : c ∈ t) : isInner c = true := by
  have keyword {key : Text} (hkey : isWord key = true) (hc : c ∈ key) : isInner c = true :=
    isInner_of_mem_isWord hkey hc
  cases h with
  | openBlock hgap hname =>
    rw [List.mem_append, List.mem_append] at hc
    obtain (hc | hc) | hc := hc
    · exact keyword (by decide) hc
    · exact isInner_of_mem_isGap hgap hc
    · exact isInner_of_mem_isWord hname hc
  | closeBlock => exact keyword (by decide) hc
  | closeNamed hgap hname =>
    rw [List.mem_append, List.mem_append] at hc
    obtain (hc | hc) | hc := hc
    · exact keyword (by decide) hc
    · exact isInner_of_mem_isGap hgap hc
    · exact isInner_of_mem_isWord hname hc
  | openLoop hgap hitem hgap' hgap'' hcollection =>
    simp only [List.mem_append] at hc
    obtain (hc | hc) | (hc | hc) | (hc | hc) | hc := hc
    · exact keyword (by decide) hc
    · exact isInner_of_mem_isGap hgap hc
    · exact isInner_of_mem_isWord hitem hc
    · exact isInner_of_mem_isGap hgap' hc
    · exact keyword (by decide) hc
    · exact isInner_of_mem_isGap hgap'' hc
    · exact isInner_of_mem_isWord hcollection hc
  | closeLoop => exact keyword (by decide) hc

theorem isInner_of_mem_inside {inside : Text} (h : ∀ c ∈ inside.trim, isInner c = true) :
    ∀ c ∈ inside, isInner c = true := by
  intro c hc
  obtain hspace | htrim := Text.isSpace_or_mem_trim hc
  · simp [isInner, hspace]
  · exact h c htrim

/-- Reading while the characters are inner ones stops at a closer. -/
theorem span_isInner {inside : Text} {a : CodePoint} (h : ∀ c ∈ inside, isInner c = true)
    (ha : isInner a = false) (rest : Text) : (inside ++ a :: rest).takeWhile isInner = inside ∧
      (inside ++ a :: rest).dropWhile isInner = a :: rest := by
  rw [List.takeWhile_append_of_pos h, List.dropWhile_append_of_pos h,
    List.takeWhile_cons_of_neg (by rw [ha]; decide), List.append_nil,
    List.dropWhile_cons_of_neg (by rw [ha]; decide)]
  exact ⟨rfl, rfl⟩

/-- A closer begins nowhere in an inside that lacks its first character. -/
theorem upToFirst_of_not_mem {inside rest closer : Text} {a : CodePoint} (h : a ∉ inside) :
    UpToFirst (a :: closer) inside rest := by
  intro i hi hpre
  rw [List.append_assoc, List.drop_append_of_le_length (Nat.le_of_lt hi),
    List.drop_eq_getElem_cons hi, List.cons_append, List.cons_prefix_cons] at hpre
  exact h (hpre.1 ▸ List.getElem_mem hi)

theorem isInner_takeWhile (cs : Text) : ∀ c ∈ cs.takeWhile isInner, isInner c = true :=
  fun _ hc => List.mem_takeWhile_imp hc

theorem not_mem_of_isInner {inside : Text} {a : CodePoint} (h : ∀ c ∈ inside, isInner c = true)
    (ha : isInner a = false) : a ∉ inside := fun hmem =>
  Bool.false_ne_true (ha.symm.trans (h a hmem))

theorem isInner_brace : isInner (.char '}') = false := by decide

theorem isInner_percent : isInner (.char '%') = false := by decide

/-- Where inner characters end at a closer, this is the first one. -/
theorem upToFirst_of_dropWhile {cs rest : Text} {a b : CodePoint}
    (h : cs.dropWhile isInner = a :: b :: rest) (ha : isInner a = false) :
    cs = cs.takeWhile isInner ++ [a, b] ++ rest ∧
      UpToFirst [a, b] (cs.takeWhile isInner) rest := by
  have hcs : cs.takeWhile isInner ++ cs.dropWhile isInner = cs := List.takeWhile_append_dropWhile
  rw [h] at hcs
  refine ⟨?_, upToFirst_of_not_mem (not_mem_of_isInner (isInner_takeWhile cs) ha)⟩
  rw [List.append_assoc]
  exact hcs.symm

theorem readSlot?_eq_some_iff {cs : Text} {r : Reading} : readSlot? cs = some r ↔
    ∃ inside reference, cs = inside ++ slotCloser ++ r.rest ∧ UpToFirst slotCloser inside r.rest ∧
      SlotForm inside.trim reference ∧ r = ⟨.slot reference, inside ++ slotCloser, r.rest⟩ := by
  constructor
  · intro h
    unfold readSlot? at h
    split at h
    · rename_i rest hrest
      obtain ⟨d, hd, rfl⟩ := Option.map_eq_some_iff.mp h
      obtain ⟨reference, hform, rfl⟩ := ofSlot?_eq_some_iff.mp hd
      obtain ⟨hcs, hfirst⟩ := upToFirst_of_dropWhile hrest isInner_brace
      exact ⟨_, reference, hcs, hfirst, hform, rfl⟩
    · contradiction
  · rintro ⟨inside, reference, hcs, -, hform, hr⟩
    obtain ⟨htake, hdrop⟩ := span_isInner
      (isInner_of_mem_inside fun c hc => hform.isInner_of_mem hc) isInner_brace
      (.char '}' :: r.rest)
    obtain rfl : cs = inside ++ .char '}' :: .char '}' :: r.rest := by
      rw [hcs, List.append_assoc]
      rfl
    rw [readSlot?, hdrop, htake, ofSlot?_of_slotForm hform]
    exact congrArg some hr.symm

theorem readTag?_eq_some_iff {cs : Text} {r : Reading} : readTag? cs = some r ↔
    ∃ inside, cs = inside ++ tagCloser ++ r.rest ∧ UpToFirst tagCloser inside r.rest ∧
      TagForm inside.trim r.directive ∧ r.raw = inside ++ tagCloser := by
  constructor
  · intro h
    unfold readTag? at h
    split at h
    · rename_i rest hrest
      obtain ⟨d, hd, rfl⟩ := Option.map_eq_some_iff.mp h
      obtain ⟨hcs, hfirst⟩ := upToFirst_of_dropWhile hrest isInner_percent
      exact ⟨_, hcs, hfirst, ofWords?_fields_eq_some_iff.mp hd, rfl⟩
    · contradiction
  · rintro ⟨inside, hcs, -, hform, hraw⟩
    obtain ⟨htake, hdrop⟩ := span_isInner
      (isInner_of_mem_inside fun c hc => hform.isInner_of_mem hc) isInner_percent
      (.char '}' :: r.rest)
    obtain rfl : cs = inside ++ .char '%' :: .char '}' :: r.rest := by
      rw [hcs, List.append_assoc]
      rfl
    rw [readTag?, hdrop, htake, ofWords?_fields_eq_some_iff.mpr hform, ← hraw]
    rfl

/-! The tag that names the parent. -/

theorem occursIn_eq_true_iff {pattern cs : Text} :
    Text.occursIn pattern cs = true ↔ pattern <:+: cs := by
  induction cs with
  | nil => rw [Text.occursIn, List.isEmpty_iff, List.infix_nil]
  | cons c cs ih =>
    rw [Text.occursIn, Bool.or_eq_true, List.isPrefixOf_iff_prefix, ih, List.infix_cons_iff]

/-- A tag's closer begins with a character that cannot also end it, so one that begins in the inside
lies in it. -/
theorem upToFirst_tagCloser_iff {inside rest : Text} :
    UpToFirst tagCloser inside rest ↔ ¬ tagCloser <:+: inside := by
  constructor
  · rintro h ⟨before, after, rfl⟩
    refine h before.length (by simp [tagCloser]) ⟨after ++ tagCloser ++ rest, ?_⟩
    simp
  · rintro h i hi ⟨after, hafter⟩
    rw [List.append_assoc, List.drop_append_of_le_length (Nat.le_of_lt hi)] at hafter
    have hinside := List.take_append_drop i inside
    generalize inside.drop i = tail at hafter hinside
    rcases tail with _ | ⟨c, _ | ⟨d, tail⟩⟩
    · rw [List.append_nil] at hinside
      have hlen := congrArg List.length hinside
      rw [List.length_take] at hlen
      omega
    · simp [tagCloser] at hafter
    · obtain ⟨rfl, rfl, -⟩ : c = .char '%' ∧ d = .char '}' ∧
          after = tail ++ (tagCloser ++ rest) := by
        simpa [tagCloser, eq_comm] using hafter
      exact h ⟨inside.take i, tail, by simpa [tagCloser] using hinside⟩

/-- What stands between the name of the parent and the closer of its tag. -/
def nameEnd : Text := [.char '"', .char ' ']

theorem parentCloser_eq : parentCloser = nameEnd ++ tagCloser := rfl

private theorem tagCloser_infix_append {before text : Text} (h : .char '%' ∉ before) :
    tagCloser <:+: before ++ text ↔ tagCloser <:+: text := by
  induction before with
  | nil => rfl
  | cons c before ih =>
    rw [List.mem_cons, not_or] at h
    rw [List.cons_append, List.infix_cons_iff, ih h.2]
    refine or_iff_right fun hpre => h.1 ?_
    exact (List.cons_prefix_cons.mp hpre).1

private theorem tagCloser_infix_append_nameEnd {text : Text} :
    tagCloser <:+: text ++ nameEnd ↔ tagCloser <:+: text := by
  refine ⟨fun h => ?_, fun h => h.trans (List.prefix_append _ _).isInfix⟩
  induction text with
  | nil => exact absurd h (by decide)
  | cons c text ih =>
    rw [List.cons_append, List.infix_cons_iff] at h
    obtain h | h := h
    · obtain ⟨rfl, htail⟩ := List.cons_prefix_cons.mp h
      rcases text with _ | ⟨d, text⟩
      · exact absurd htail (by decide)
      · obtain ⟨rfl, -⟩ := List.cons_prefix_cons.mp htail
        exact ⟨[], text, rfl⟩
    · exact List.infix_cons (ih h)

theorem tagCloser_infix_inside_iff {base : Text} :
    tagCloser <:+: parentOpener ++ (base ++ nameEnd) ↔ tagCloser <:+: base := by
  rw [tagCloser_infix_append (by decide), tagCloser_infix_append_nameEnd]

theorem readName?_eq_some_iff {cs : Text} {r : Reading} : readName? cs = some r ↔
    ∃ base, cs = base ++ parentCloser ++ r.rest ∧ base ≠ [] ∧ .char '"' ∉ base ∧
      ¬ tagCloser <:+: base ∧ r = ⟨.parent base, base ++ parentCloser, r.rest⟩ := by
  constructor
  · intro h
    have hcs := List.takeWhile_append_dropWhile (p := fun c => decide (c ≠ .char '"')) (l := cs)
    have hquote : ∀ c ∈ cs.takeWhile (fun c => decide (c ≠ .char '"')), c ≠ .char '"' := by
      intro c hc
      simpa using List.mem_takeWhile_imp hc
    unfold readName? at h
    split at h
    · rename_i rest hrest
      dsimp only at h
      split_ifs at h with hbad
      obtain rfl := Option.some.inj h
      rw [not_or, occursIn_eq_true_iff] at hbad
      rw [hrest] at hcs
      refine ⟨_, ?_, hbad.1, fun hmem => hquote _ hmem rfl, hbad.2, rfl⟩
      rw [List.append_assoc]
      exact hcs.symm
    · contradiction
  · rintro ⟨base, hcs, hbase, hquote, hcloser, hr⟩
    have hname : ∀ c ∈ base, decide (c ≠ CodePoint.char '"') = true := fun c hc =>
      decide_eq_true fun heq => hquote (heq ▸ hc)
    obtain rfl : cs = base ++ .char '"' :: .char ' ' :: .char '%' :: .char '}' :: r.rest := by
      rw [hcs, List.append_assoc]
      rfl
    rw [readName?, List.takeWhile_append_of_pos hname, List.dropWhile_append_of_pos hname,
      List.takeWhile_cons_of_neg (by decide), List.append_nil,
      List.dropWhile_cons_of_neg (by decide)]
    have hgood : ¬ (base = [] ∨ Text.occursIn tagCloser base = true) := by
      rw [not_or, occursIn_eq_true_iff]
      exact ⟨hbase, hcloser⟩
    exact (if_neg hgood).trans (congrArg some hr.symm)

theorem readParent?_eq_some_iff {cs : Text} {r : Reading} : readParent? cs = some r ↔
    ∃ inside base, cs = inside ++ tagCloser ++ r.rest ∧ UpToFirst tagCloser inside r.rest ∧
      tagOpener ++ (inside ++ tagCloser) = tagOpener ++ (parentOpener ++ (base ++ parentCloser)) ∧
      base ≠ [] ∧ .char '"' ∉ base ∧ r = ⟨.parent base, inside ++ tagCloser, r.rest⟩ := by
  constructor
  · intro h
    unfold readParent? at h
    split_ifs at h with hopener
    obtain ⟨r, hname, rfl⟩ := Option.map_eq_some_iff.mp h
    obtain ⟨base, hdrop, hbase, hquote, hcloser, hr⟩ := readName?_eq_some_iff.mp hname
    have hcs := List.take_append_drop parentOpener.length cs
    rw [hopener, hdrop] at hcs
    refine ⟨parentOpener ++ (base ++ nameEnd), base, ?_, ?_, ?_, hbase, hquote, ?_⟩
    · rw [← hcs, parentCloser_eq]
      simp [Reading.after]
    · exact upToFirst_tagCloser_iff.mpr (tagCloser_infix_inside_iff.not.mpr hcloser)
    · rw [parentCloser_eq]
      simp
    · rw [hr, parentCloser_eq]
      simp [Reading.after]
  · rintro ⟨inside, base, hcs, hfirst, hraw, hbase, hquote, hr⟩
    have htag := List.append_cancel_left hraw
    rw [parentCloser_eq, ← List.append_assoc, ← List.append_assoc] at htag
    obtain rfl : inside = parentOpener ++ base ++ nameEnd := List.append_cancel_right htag
    rw [List.append_assoc] at hfirst
    have hname : readName? (base ++ parentCloser ++ r.rest) =
        some ⟨.parent base, base ++ parentCloser, r.rest⟩ :=
      readName?_eq_some_iff.mpr ⟨base, rfl, hbase, hquote,
        tagCloser_infix_inside_iff.not.mp (upToFirst_tagCloser_iff.mp hfirst), rfl⟩
    obtain rfl : cs = parentOpener ++ (base ++ parentCloser ++ r.rest) := by
      rw [hcs, parentCloser_eq]
      simp
    rw [readParent?, List.take_left, if_pos rfl, List.drop_left, hname, hr]
    simp [Reading.after, parentCloser_eq]

theorem isInner_quote : isInner (.char '"') = false := by decide

/-- An inside of inner characters is not that of a parent tag. -/
theorem readParent?_of_isInner {inside : Text} (h : ∀ c ∈ inside, isInner c = true)
    (rest : Text) :
    readParent? (inside ++ tagCloser ++ rest) = none := by
  refine if_neg fun hopener => ?_
  have hcs := List.take_append_drop parentOpener.length (inside ++ tagCloser ++ rest)
  rw [hopener] at hcs
  -- Inner characters end at the closer, but also at the quotation mark of the parent tag.
  have hextends : ∀ c ∈ (" extends " : Text), isInner c = true := by decide
  have hquote := span_isInner hextends isInner_quote
    ((inside ++ tagCloser ++ rest).drop parentOpener.length)
  have hcloser := span_isInner h isInner_percent (.char '}' :: rest)
  have hsame : (" extends " : Text) ++
      .char '"' :: (inside ++ tagCloser ++ rest).drop parentOpener.length =
      inside ++ .char '%' :: .char '}' :: rest := by
    refine Eq.trans (Eq.trans ?_ hcs) ?_
    · simp [parentOpener, Text.ofString, Text.ofChars]
    · rw [List.append_assoc]
      rfl
  have hdrop := hquote.2.symm.trans ((congrArg (List.dropWhile isInner) hsame).trans hcloser.2)
  cases hdrop

theorem stands_of_read? {cs : Text} {r : Reading} (h : read? cs = some r) :
    Stands cs r.directive r.raw := by
  unfold read? at h
  split at h
  · rename_i cs
    obtain ⟨r, hslot, rfl⟩ := Option.map_eq_some_iff.mp h
    obtain ⟨inside, reference, hcs, hfirst, hform, hr⟩ := readSlot?_eq_some_iff.mp hslot
    rw [Reading.after, hr]
    exact .slot (by rw [hcs]; rfl) hfirst hform
  · rename_i cs
    obtain ⟨r, htag, rfl⟩ := Option.map_eq_some_iff.mp h
    rw [Option.orElse_eq_orElse, Option.orElse_eq_or, Option.or_eq_some_iff] at htag
    obtain hparent | ⟨-, htag⟩ := htag
    · obtain ⟨inside, base, hcs, hfirst, hraw, hbase, hquote, hr⟩ :=
        readParent?_eq_some_iff.mp hparent
      rw [Reading.after, hr]
      exact .parent (by rw [hcs]; rfl) hfirst hraw hbase hquote
    · obtain ⟨inside, hcs, hfirst, hform, hraw⟩ := readTag?_eq_some_iff.mp htag
      rw [Reading.after, hraw]
      exact .tag (by rw [hcs]; rfl) hfirst hform
  · contradiction

theorem exists_read?_of_stands {cs : Text} {d : Directive} {raw : Text} (h : Stands cs d raw) :
    ∃ rest, read? cs = some ⟨d, raw, rest⟩ := by
  cases h with
  | @slot inside rest reference hcs hfirst hform =>
    have hslot : readSlot? (inside ++ slotCloser ++ rest) =
        some ⟨.slot reference, inside ++ slotCloser, rest⟩ :=
      readSlot?_eq_some_iff.mpr ⟨inside, reference, rfl, hfirst, hform, rfl⟩
    refine ⟨rest, ?_⟩
    rw [hcs]
    exact congrArg (Option.map (Reading.after slotOpener)) hslot
  | @parent inside rest base hcs hfirst hraw hbase hquote =>
    have hparent : readParent? (inside ++ tagCloser ++ rest) =
        some ⟨.parent base, inside ++ tagCloser, rest⟩ :=
      readParent?_eq_some_iff.mpr ⟨inside, base, rfl, hfirst, hraw, hbase, hquote, rfl⟩
    refine ⟨rest, ?_⟩
    rw [hcs]
    exact congrArg (fun o => (o <|> readTag? _).map (Reading.after tagOpener)) hparent
  | @tag inside rest d hcs hfirst hform =>
    have hnone := readParent?_of_isInner
      (isInner_of_mem_inside fun c hc => hform.isInner_of_mem hc) rest
    have htag : readTag? (inside ++ tagCloser ++ rest) = some ⟨d, inside ++ tagCloser, rest⟩ :=
      readTag?_eq_some_iff.mpr ⟨inside, rfl, hfirst, hform, rfl⟩
    refine ⟨rest, ?_⟩
    rw [hcs]
    refine Eq.trans (congrArg (fun o => (o <|> readTag? _).map (Reading.after tagOpener)) hnone) ?_
    exact congrArg (Option.map (Reading.after tagOpener)) htag

/-- Reading finds what stands there. -/
theorem stands_iff {cs : Text} {d : Directive} {raw : Text} :
    Stands cs d raw ↔ ∃ rest, read? cs = some ⟨d, raw, rest⟩ :=
  ⟨exists_read?_of_stands, fun ⟨_, h⟩ => stands_of_read? h⟩

theorem not_stands_of_read?_eq_none {cs : Text} (h : read? cs = none) (d : Directive)
    (raw : Text) : ¬ Stands cs d raw := by
  intro hstands
  obtain ⟨rest, hread⟩ := stands_iff.mp hstands
  cases h.symm.trans hread

/-- At most one directive stands at a place. -/
theorem Stands.unique {cs : Text} {d d' : Directive} {raw raw' : Text} (h : Stands cs d raw)
    (h' : Stands cs d' raw') : d = d' ∧ raw = raw' := by
  obtain ⟨rest, hread⟩ := stands_iff.mp h
  obtain ⟨rest', hread'⟩ := stands_iff.mp h'
  cases hread.symm.trans hread'
  exact ⟨rfl, rfl⟩

theorem SlotForm.attr_ne {t : Text} {reference : Reference} (h : SlotForm t reference) :
    reference.attr ≠ some [] := by
  cases h with
  | name _ => nofun
  | attr _ hattr => exact fun hnil => Text.ne_nil_of_isWord hattr (Option.some.inj hnil)

theorem TagForm.ne_slot {t : Text} {d : Directive} (h : TagForm t d) (reference : Reference) :
    d ≠ .slot reference := by
  cases h <;> nofun

/-- The attribute of a slot is a word, so it is not empty. -/
theorem Stands.attr_ne {cs : Text} {reference : Reference} {raw : Text}
    (h : Stands cs (.slot reference) raw) : reference.attr ≠ some [] := by
  cases h with
  | slot _ _ hform => exact hform.attr_ne
  | tag _ _ hform => exact absurd rfl (hform.ne_slot reference)

theorem SlotForm.isWord_name {t : Text} {reference : Reference} (h : SlotForm t reference) :
    isWord reference.name = true := by
  cases h <;> assumption

theorem Stands.isWord_name {cs : Text} {reference : Reference} {raw : Text}
    (h : Stands cs (.slot reference) raw) : isWord reference.name = true := by
  cases h with
  | slot _ _ hform => exact hform.isWord_name
  | tag _ _ hform => exact absurd rfl (hform.ne_slot reference)

/-! Reading what is written: a directive is read wherever it stands in front of anything. -/

theorem read?_of_stands {d : Directive} {raw rest : Text} (h : Stands (raw ++ rest) d raw) :
    read? (raw ++ rest) = some ⟨d, raw, rest⟩ := by
  obtain ⟨rest', hread⟩ := exists_read?_of_stands h
  have hrest : rest' = rest := List.append_cancel_left (raw_append_rest hread)
  rw [hread, hrest]

/-- Which of the closers is the first does not depend on what follows it. -/
theorem UpToFirst.congr {closer inside rest : Text} (h : UpToFirst closer inside rest)
    (rest' : Text) : UpToFirst closer inside rest' := by
  intro i hi hpre
  refine h i hi ?_
  have hlen : closer.length ≤ ((inside ++ closer).drop i).length := by
    rw [List.length_drop, List.length_append]
    omega
  have hdrop : ∀ rest, (inside ++ closer ++ rest).drop i = (inside ++ closer).drop i ++ rest :=
    fun rest => List.drop_append_of_le_length (by rw [List.length_append]; omega)
  rw [hdrop] at hpre ⊢
  have hwithin := List.prefix_of_prefix_length_le hpre (List.prefix_append _ _) hlen
  exact hwithin.trans (List.prefix_append _ _)

/-- A directive stands in front of anything. -/
theorem Stands.append {cs raw : Text} {d : Directive} (h : Stands cs d raw) (rest : Text) :
    Stands (raw ++ rest) d raw := by
  cases h with
  | slot _ hfirst hform => exact .slot (List.append_assoc _ _ _) (hfirst.congr rest) hform
  | parent _ hfirst hraw hbase hquote =>
    exact .parent (List.append_assoc _ _ _) (hfirst.congr rest) hraw hbase hquote
  | tag _ hfirst hform => exact .tag (List.append_assoc _ _ _) (hfirst.congr rest) hform

/-- What is read is read again in front of anything. -/
theorem read?_raw_append {cs : Text} {r : Reading} (h : read? cs = some r) (rest : Text) :
    read? (r.raw ++ rest) = some ⟨r.directive, r.raw, rest⟩ :=
  read?_of_stands ((stands_of_read? h).append rest)

/-- Where nothing can be read, nothing can be read either if the text ends earlier. -/
theorem read?_eq_none_of_append {cs rest : Text} (h : read? (cs ++ rest) = none) :
    read? cs = none := by
  cases hread : read? cs with
  | none => rfl
  | some r =>
    have hmore := read?_raw_append hread (r.rest ++ rest)
    rw [← List.append_assoc, raw_append_rest hread] at hmore
    cases h.symm.trans hmore

section Written

variable {left inner right : Text} (hleft : ∀ c ∈ left, Text.isSpace c = true)
  (hright : ∀ c ∈ right, Text.isSpace c = true)
include hleft hright

theorem read?_slot {reference : Reference} (h : SlotForm inner reference) (rest : Text) :
    read? (slotOpener ++ (left ++ inner ++ right ++ slotCloser) ++ rest) =
      some ⟨.slot reference, slotOpener ++ (left ++ inner ++ right ++ slotCloser), rest⟩ := by
  have htrim : (left ++ inner ++ right).trim = inner :=
    Text.trim_between (.one h.isSolid) hleft hright
  have hinside : ∀ c ∈ left ++ inner ++ right, isInner c = true :=
    isInner_of_mem_inside fun c hc => h.isInner_of_mem (htrim ▸ hc)
  refine read?_of_stands (.slot (List.append_assoc _ _ _) ?_ (htrim.symm ▸ h))
  exact upToFirst_of_not_mem (not_mem_of_isInner hinside isInner_brace)

theorem read?_tag {d : Directive} (h : TagForm inner d) (rest : Text) :
    read? (tagOpener ++ (left ++ inner ++ right ++ tagCloser) ++ rest) =
      some ⟨d, tagOpener ++ (left ++ inner ++ right ++ tagCloser), rest⟩ := by
  obtain ⟨words, -, hjoined, -⟩ := h.exists_joined
  have htrim : (left ++ inner ++ right).trim = inner := Text.trim_between hjoined hleft hright
  have hinside : ∀ c ∈ left ++ inner ++ right, isInner c = true :=
    isInner_of_mem_inside fun c hc => h.isInner_of_mem (htrim ▸ hc)
  refine read?_of_stands (.tag (List.append_assoc _ _ _) ?_ (htrim.symm ▸ h))
  exact upToFirst_of_not_mem (not_mem_of_isInner hinside isInner_percent)

end Written

theorem read?_parent {base : Text} (hbase : base ≠ []) (hquote : .char '"' ∉ base)
    (hcloser : ¬ tagCloser <:+: base) (rest : Text) :
    read? (tagOpener ++ (parentOpener ++ (base ++ parentCloser)) ++ rest) =
      some ⟨.parent base, tagOpener ++ (parentOpener ++ (base ++ parentCloser)), rest⟩ := by
  have hraw : tagOpener ++ (parentOpener ++ (base ++ nameEnd) ++ tagCloser) =
      tagOpener ++ (parentOpener ++ (base ++ parentCloser)) := by
    rw [parentCloser_eq]
    simp only [List.append_assoc]
  rw [← hraw]
  refine read?_of_stands (.parent (List.append_assoc _ _ _) ?_ hraw hbase hquote)
  exact upToFirst_tagCloser_iff.mpr (tagCloser_infix_inside_iff.not.mpr hcloser)

/-! Places where nothing can be read. -/

theorem opener_prefix_of_read? {cs : Text} {r : Reading} (h : read? cs = some r) :
    slotOpener <+: cs ∨ tagOpener <+: cs := by
  unfold read? at h
  split at h
  · exact .inl ⟨_, rfl⟩
  · exact .inr ⟨_, rfl⟩
  · contradiction

/-- A brace in front of an opener only makes the front of a slot that is none. -/
theorem read?_brace_cons {cs : Text} (h : slotOpener <+: cs ∨ tagOpener <+: cs) :
    read? (.char '{' :: cs) = none := by
  obtain ⟨cs, rfl⟩ | ⟨cs, rfl⟩ := h
  · show (readSlot? (.char '{' :: cs)).map (Reading.after slotOpener) = none
    rw [readSlot?, List.dropWhile_cons_of_neg (by decide)]
    rfl
  · show (readSlot? (.char '%' :: cs)).map (Reading.after slotOpener) = none
    rw [readSlot?, List.dropWhile_cons_of_neg (by decide)]
    rfl

/-- Nothing can be read within a text that no opener occurs in, also where its end makes an opener
together with what follows. -/
theorem read?_append_eq_none {text cs : Text} (hslot : ¬ slotOpener <:+: text)
    (htag : ¬ tagOpener <:+: text) (hcs : cs = [] ∨ slotOpener <+: cs ∨ tagOpener <+: cs)
    {q : Nat} (hq : q < text.length) : read? ((text ++ cs).drop q) = none := by
  rw [List.drop_append_of_le_length (Nat.le_of_lt hq)]
  have hsuffix : text.drop q <:+ text := List.drop_suffix q text
  have hne : text.drop q ≠ [] := fun hnil =>
    absurd (List.drop_eq_nil_iff.mp hnil) (Nat.not_le.mpr hq)
  generalize text.drop q = tail at hsuffix hne
  have hopener : ∀ {opener : Text} {a b : CodePoint}, opener = [a, b] → ¬ opener <:+: text →
      opener <+: tail ++ cs → tail = [a] := by
    rintro _ a b rfl hnot hpre
    rcases tail with _ | ⟨c, _ | ⟨d, tail⟩⟩
    · exact absurd rfl hne
    · rw [(List.cons_prefix_cons.mp hpre).1]
    · refine absurd (List.IsInfix.trans ?_ hsuffix.isInfix) hnot
      obtain ⟨rfl, htail⟩ := List.cons_prefix_cons.mp hpre
      obtain ⟨rfl, -⟩ := List.cons_prefix_cons.mp htail
      exact ⟨[], tail, rfl⟩
  cases hread : read? (tail ++ cs) with
  | none => rfl
  | some r =>
    have htail : tail = [.char '{'] := by
      obtain hpre | hpre := opener_prefix_of_read? hread
      · exact hopener rfl hslot hpre
      · exact hopener rfl htag hpre
    subst htail
    obtain rfl | hcs := hcs
    · cases hread
    · exact absurd hread (by rw [List.singleton_append, read?_brace_cons hcs]; nofun)

end Stencil.Directive
