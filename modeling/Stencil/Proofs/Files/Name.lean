import Stencil.Files.Tree
import Stencil.Proofs.Text.Utf8

/-! Names of files and their texts. The text of a name gives the name back, whatever its bytes are:
a character is read from just the bytes that it is written as, and any other byte has a surrogate of
its own. The other way round, a text without surrogates is the text of the name that it gives. So
what the system does not allow in a name is not in its text either. -/
namespace Stencil

namespace FileName

theorem textFrom_append (more rest : List UInt8) :
    textFrom more.length (more ++ rest) = toText rest := by
  induction more with
  | nil => rfl
  | cons b more ih => exact ih

theorem toText_carried {lead : UInt8} {more : List UInt8} (h : Text.Carried lead more)
    (rest : List UInt8) : toText (lead :: (more ++ rest)) =
      .char (Text.charOfBytes lead (more.length + 1) (more ++ rest)) :: toText rest := by
  have hsize : (Text.announced? lead).filter (fun size =>
      size = 1 || Text.carried lead size (more ++ rest) + 1 = size) = some (more.length + 1) := by
    rw [h.announced]
    simpa using h.carried_eq rest
  rw [toText, textFrom, hsize]
  simp only [Nat.add_sub_cancel, textFrom_append]

/-- A character is read from what it is written as. -/
theorem toText_utf8EncodeChar_append (c : Char) (rest : List UInt8) :
    toText (String.utf8EncodeChar c ++ rest) = .char c :: toText rest := by
  obtain ⟨lead, more, hc, hcarried⟩ := Text.exists_utf8EncodeChar c
  have hsame : Text.charOfBytes lead (more.length + 1) (more ++ rest) = c := by
    apply Text.utf8EncodeChar_injective
    rw [hcarried.utf8EncodeChar_charOfBytes, hc]
  rw [hc, List.cons_append, toText_carried hcarried, hsame]

/-- The surrogate of a byte gives the byte. -/
theorem bytesOf?_stray {b : UInt8} (h : 0x80 ≤ b.toNat) :
    bytesOf? (.ofCode (strayOffset + b.toNat)) = some [b] := by
  have hb := b.toNat_lt
  obtain ⟨place, hplace⟩ :
      ∃ place, CodePoint.ofCode (strayOffset + b.toNat) = .surrogate place := by
    rw [CodePoint.ofCode, dif_pos]
    · exact ⟨_, rfl⟩
    · simp only [strayOffset, CodePoint.firstSurrogate]
      omega
  have hcode : (CodePoint.surrogate place).code = strayOffset + b.toNat := by
    rw [← hplace]
    apply CodePoint.code_ofCode
    simp only [strayOffset]
    omega
  have hn : strayOffset + b.toNat - strayOffset = b.toNat := by omega
  simp only [hplace, bytesOf?, hcode, hn]
  rw [if_pos ⟨h, hb⟩, UInt8.ofNat_toNat]

/-- A name begins with the bytes that the first code point of its text gives. -/
theorem exists_toText_cons (lead : UInt8) (rest : List UInt8) :
    ∃ c bytes rest', bytesOf? c = some bytes ∧ lead :: rest = bytes ++ rest' ∧
      toText (lead :: rest) = c :: toText rest' ∧ rest'.length ≤ rest.length := by
  cases hsize : (Text.announced? lead).filter (fun size =>
      size = 1 || Text.carried lead size rest + 1 = size) with
  | some size =>
    obtain ⟨hannounced, hfits⟩ := Option.filter_eq_some_iff.mp hsize
    obtain ⟨more, rest', rfl, hcarried, -⟩ :=
      Text.exists_carried hannounced (by simpa using hfits)
    refine ⟨_, lead :: more, rest', ?_, by simp, toText_carried hcarried rest', by simp⟩
    rw [bytesOf?, hcarried.utf8EncodeChar_charOfBytes]
  | none =>
    have hhigh : 0x80 ≤ lead.toNat := by
      by_contra hlow
      have hone : Text.announced? lead = some 1 := by
        rw [Text.announced?_eq, if_pos (by omega)]
      simp [hone] at hsize
    exact ⟨_, [lead], rest, bytesOf?_stray hhigh, rfl, by rw [toText, textFrom, hsize, toText],
      Nat.le_refl _⟩

theorem ofText?_cons {c : CodePoint} {bytes : List UInt8} (h : bytesOf? c = some bytes) (t : Text) :
    ofText? (c :: t) = (ofText? t).map (bytes ++ ·) := by
  rw [ofText?, ofText?, List.mapM_cons, h]
  cases t.mapM bytesOf? <;> simp

/-- The text of a name gives the name. -/
theorem ofText?_toText (name : FileName) : ofText? name.toText = some name := by
  induction hlength : name.length using Nat.strongRecOn generalizing name with
  | ind n ih =>
    cases name with
    | nil => rfl
    | cons lead rest =>
      obtain ⟨c, bytes, rest', hc, hbytes, htext, hle⟩ := exists_toText_cons lead rest
      have hrest : ofText? (toText rest') = some rest' := by
        apply ih rest'.length _ rest' rfl
        rw [← hlength, List.length_cons]
        omega
      rw [htext, ofText?_cons hc, hrest, hbytes]
      rfl

theorem toText_injective : Function.Injective toText := by
  intro name name' h
  have hname := ofText?_toText name
  rw [h, ofText?_toText] at hname
  exact (Option.some.inj hname).symm

/-- A text without surrogates is the text of the name that it gives. -/
theorem exists_toText (cs : List Char) : ∃ name : FileName, name.toText = Text.ofChars cs := by
  induction cs with
  | nil => exact ⟨[], rfl⟩
  | cons c cs ih =>
    obtain ⟨name, hname⟩ := ih
    refine ⟨String.utf8EncodeChar c ++ name, ?_⟩
    rw [toText_utf8EncodeChar_append, hname]
    rfl

/-- A name that a file or a directory can have. -/
structure IsProper (name : FileName) : Prop where
  ne_nil : name ≠ []
  ne_here : name ≠ [0x2e]
  ne_up : name ≠ up
  no_slash : 0x2f ∉ name
  no_null : 0 ∉ name
  length_le : name.length ≤ FileTree.partLimit

instance (name : FileName) : Decidable name.IsProper :=
  decidable_of_iff (name ≠ [] ∧ name ≠ [0x2e] ∧ name ≠ up ∧ 0x2f ∉ name ∧ 0 ∉ name ∧
      name.length ≤ FileTree.partLimit)
    ⟨fun ⟨hnil, hhere, hup, hslash, hnull, hle⟩ => ⟨hnil, hhere, hup, hslash, hnull, hle⟩,
      fun h => ⟨h.ne_nil, h.ne_here, h.ne_up, h.no_slash, h.no_null, h.length_le⟩⟩

theorem mem_of_mem_text {t : Text} {name : FileName} (h : ofText? t = some name) {c : CodePoint}
    (hc : c ∈ t) {bytes : List UInt8} (hbytes : bytesOf? c = some bytes) {b : UInt8}
    (hb : b ∈ bytes) : b ∈ name := by
  induction t generalizing name with
  | nil => cases hc
  | cons d t ih =>
    cases hd : bytesOf? d with
    | none => simp [ofText?, List.mapM_cons, hd] at h
    | some first =>
      rw [ofText?_cons hd] at h
      obtain ⟨rest, hrest, rfl⟩ := Option.map_eq_some_iff.mp h
      rcases List.mem_cons.mp hc with rfl | hc
      · obtain rfl := Option.some.inj (hd.symm.trans hbytes)
        exact List.mem_append_left rest hb
      · exact List.mem_append_right first (ih hrest hc)

namespace IsProper

variable {name : FileName}

theorem toText_ne_nil (h : name.IsProper) : name.toText ≠ [] := fun htext =>
  h.ne_nil (toText_injective htext)

theorem toText_ne_here (h : name.IsProper) : name.toText ≠ "." := by
  intro htext
  have hhere : toText [0x2e] = "." := by decide +kernel
  exact h.ne_here (toText_injective (htext.trans hhere.symm))

theorem toText_ne_up (h : name.IsProper) : name.toText ≠ ".." := by
  intro htext
  have hup : toText up = ".." := by decide +kernel
  exact h.ne_up (toText_injective (htext.trans hup.symm))

theorem slash_not_mem_toText (h : name.IsProper) : .char '/' ∉ name.toText := by
  intro hslash
  have hbytes : bytesOf? (.char '/') = some [0x2f] := by decide +kernel
  exact h.no_slash (mem_of_mem_text (ofText?_toText name) hslash hbytes List.mem_cons_self)

end IsProper

end FileName

end Stencil
