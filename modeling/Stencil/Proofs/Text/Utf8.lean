import Stencil.Text.Encoding.Utf8
import Mathlib.Logic.Function.Basic
import Mathlib.Tactic.Common

/-! Reading and writing in UTF-8. A lead byte and the bytes that carry it on are just what their
character is written as, and every character is written as a lead byte and such bytes. -/
namespace Stencil

namespace Text

theorem announced?_eq (lead : UInt8) : announced? lead =
    if lead.toNat < 0x80 then some 1 else if lead.toNat < 0xc2 then none
    else if lead.toNat < 0xe0 then some 2 else if lead.toNat < 0xf0 then some 3
    else if lead.toNat < 0xf5 then some 4 else none := by
  simp [announced?, UInt8.lt_iff_toNat_lt]

theorem isContinuation_iff {b : UInt8} :
    isContinuation b = true ↔ 0x80 ≤ b.toNat ∧ b.toNat < 0xc0 := by
  simp [isContinuation, UInt8.lt_iff_toNat_lt, UInt8.le_iff_toNat_le]

theorem isSecond_iff {lead b : UInt8} : isSecond lead b = true ↔ 0x80 ≤ b.toNat ∧ b.toNat < 0xc0 ∧
    (lead.toNat = 0xe0 → 0xa0 ≤ b.toNat) ∧ (lead.toNat = 0xed → b.toNat ≤ 0x9f) ∧
    (lead.toNat = 0xf0 → 0x90 ≤ b.toNat) ∧ (lead.toNat = 0xf4 → b.toNat ≤ 0x8f) := by
  have heq : ∀ n : UInt8, lead = n ↔ lead.toNat = n.toNat := fun n => UInt8.toNat_inj.symm
  simp only [isSecond, secondRange, heq]
  split_ifs <;> simp [UInt8.le_iff_toNat_le] at * <;> omega

theorem toNat_ofNat {n : Nat} (h : n < 0xd800 ∨ 0xdfff < n ∧ n < 0x110000) :
    (Char.ofNat n).val.toNat = n := by
  have hvalid : n.isValidChar := h
  rw [Char.ofNat, dif_pos hvalid]
  rfl

/-- Bytes that a lead byte carries a character on with. -/
inductive Carried (lead : UInt8) : List UInt8 → Prop
  | one (h : announced? lead = some 1) : Carried lead []
  | two {b : UInt8} (h : announced? lead = some 2) (hb : isSecond lead b = true) : Carried lead [b]
  | three {b b' : UInt8} (h : announced? lead = some 3) (hb : isSecond lead b = true)
      (hb' : isContinuation b' = true) : Carried lead [b, b']
  | four {b b' b'' : UInt8} (h : announced? lead = some 4) (hb : isSecond lead b = true)
      (hb' : isContinuation b' = true) (hb'' : isContinuation b'' = true) :
      Carried lead [b, b', b'']

theorem ofNat_eq {n : Nat} {b : UInt8} (h : n = b.toNat) : UInt8.ofNat n = b := by
  rw [h, UInt8.ofNat_toNat]

theorem Carried.utf8EncodeChar_charOfBytes {lead : UInt8} {more : List UInt8}
    (h : Carried lead more) (rest : List UInt8) :
    String.utf8EncodeChar (charOfBytes lead (more.length + 1) (more ++ rest)) = lead :: more := by
  have hlead := lead.toNat_lt
  cases h with
  | one h =>
    rw [announced?_eq] at h
    have hrange : lead.toNat < 0x80 := by
      split_ifs at h <;> first | omega | cases h
    have hn := toNat_ofNat (n := lead.toNat) (by omega)
    have hsmall : lead.toNat ≤ 0x7f := by omega
    simp [charOfBytes, String.utf8EncodeChar, hn, hsmall]
  | @two b h hb =>
    rw [announced?_eq] at h
    have hrange : 0xc2 ≤ lead.toNat ∧ lead.toNat < 0xe0 := by
      split_ifs at h <;> first | omega | cases h
    rw [isSecond_iff] at hb
    generalize hv : lead.toNat % 32 * 64 + b.toNat % 64 = v
    have hn := toNat_ofNat (n := v) (by omega)
    have hone : ¬ v ≤ 0x7f := by omega
    have htwo : v ≤ 0x7ff := by omega
    have hchar : charOfBytes lead 2 ([b] ++ rest) = Char.ofNat v := by simp [charOfBytes, ← hv]
    have hfirst : v / 64 % 0x20 + 0xc0 = lead.toNat := by omega
    have hsecond : v % 0x40 + 0x80 = b.toNat := by omega
    show String.utf8EncodeChar (charOfBytes lead 2 ([b] ++ rest)) = _
    rw [hchar, String.utf8EncodeChar]
    simp only [hn, if_neg hone, if_pos htwo, ofNat_eq hfirst, ofNat_eq hsecond]
  | @three b b' h hb hb' =>
    rw [announced?_eq] at h
    have hrange : 0xe0 ≤ lead.toNat ∧ lead.toNat < 0xf0 := by
      split_ifs at h <;> first | omega | cases h
    rw [isSecond_iff] at hb
    rw [isContinuation_iff] at hb'
    generalize hv : (lead.toNat % 16 * 64 + b.toNat % 64) * 64 + b'.toNat % 64 = v
    have hn := toNat_ofNat (n := v) (by omega)
    have hone : ¬ v ≤ 0x7f := by omega
    have htwo : ¬ v ≤ 0x7ff := by omega
    have hthree : v ≤ 0xffff := by omega
    have hchar : charOfBytes lead 3 ([b, b'] ++ rest) = Char.ofNat v := by simp [charOfBytes, ← hv]
    have hfirst : v / 4096 % 0x10 + 0xe0 = lead.toNat := by omega
    have hsecond : v / 64 % 0x40 + 0x80 = b.toNat := by omega
    have hthird : v % 0x40 + 0x80 = b'.toNat := by omega
    show String.utf8EncodeChar (charOfBytes lead 3 ([b, b'] ++ rest)) = _
    rw [hchar, String.utf8EncodeChar]
    simp only [hn, if_neg hone, if_neg htwo, if_pos hthree, ofNat_eq hfirst, ofNat_eq hsecond,
      ofNat_eq hthird]
  | @four b b' b'' h hb hb' hb'' =>
    rw [announced?_eq] at h
    have hrange : 0xf0 ≤ lead.toNat ∧ lead.toNat < 0xf5 := by
      split_ifs at h <;> first | omega | cases h
    rw [isSecond_iff] at hb
    rw [isContinuation_iff] at hb' hb''
    generalize hv : ((lead.toNat % 8 * 64 + b.toNat % 64) * 64 + b'.toNat % 64) * 64 +
      b''.toNat % 64 = v
    have hn := toNat_ofNat (n := v) (by omega)
    have hone : ¬ v ≤ 0x7f := by omega
    have htwo : ¬ v ≤ 0x7ff := by omega
    have hthree : ¬ v ≤ 0xffff := by omega
    have hchar : charOfBytes lead 4 ([b, b', b''] ++ rest) = Char.ofNat v := by
      simp [charOfBytes, ← hv]
    have hfirst : v / 262144 % 0x08 + 0xf0 = lead.toNat := by omega
    have hsecond : v / 4096 % 0x40 + 0x80 = b.toNat := by omega
    have hthird : v / 64 % 0x40 + 0x80 = b'.toNat := by omega
    have hfourth : v % 0x40 + 0x80 = b''.toNat := by omega
    show String.utf8EncodeChar (charOfBytes lead 4 ([b, b', b''] ++ rest)) = _
    rw [hchar, String.utf8EncodeChar]
    simp only [hn, if_neg hone, if_neg htwo, if_neg hthree, ofNat_eq hfirst, ofNat_eq hsecond,
      ofNat_eq hthird, ofNat_eq hfourth]

/-- A lead byte carries on with the bytes that it announces, or with none. -/
theorem exists_carried {lead : UInt8} {size : Nat} {rest : List UInt8}
    (h : announced? lead = some size) (hsize : size = 1 ∨ carried lead size rest + 1 = size) :
    ∃ more rest', rest = more ++ rest' ∧ Carried lead more ∧ more.length + 1 = size := by
  have hcases : size = 1 ∨ size = 2 ∨ size = 3 ∨ size = 4 := by
    rw [announced?_eq] at h
    split_ifs at h <;> simp at h <;> omega
  by_cases hone : size = 1
  · exact ⟨[], rest, rfl, .one (hone ▸ h), by simp [hone]⟩
  · have hcarried : carried lead size rest + 1 = size := hsize.resolve_left hone
    cases rest with
    | nil =>
      rw [carried] at hcarried
      omega
    | cons b rest =>
      rw [carried] at hcarried
      by_cases hb : isSecond lead b = true
      · rw [if_pos hb] at hcarried
        rcases hcases with rfl | rfl | rfl | rfl
        · exact absurd rfl hone
        · exact ⟨[b], rest, rfl, .two h hb, rfl⟩
        · cases rest with
          | nil => simp at hcarried
          | cons b' rest =>
            by_cases hb' : isContinuation b' = true
            · exact ⟨[b, b'], rest, rfl, .three h hb hb', rfl⟩
            · simp [hb'] at hcarried
        · cases rest with
          | nil => simp at hcarried
          | cons b' rest =>
            by_cases hb' : isContinuation b' = true
            · cases rest with
              | nil => simp [hb'] at hcarried
              | cons b'' rest =>
                by_cases hb'' : isContinuation b'' = true
                · exact ⟨[b, b', b''], rest, rfl, .four h hb hb' hb'', rfl⟩
                · simp [hb', hb''] at hcarried
            · simp [hb'] at hcarried
      · rw [if_neg hb] at hcarried
        omega

theorem Carried.announced {lead : UInt8} {more : List UInt8} (h : Carried lead more) :
    announced? lead = some (more.length + 1) := by
  cases h <;> assumption

theorem Carried.carried_eq {lead : UInt8} {more : List UInt8} (h : Carried lead more)
    (rest : List UInt8) :
    more.length + 1 = 1 ∨ carried lead (more.length + 1) (more ++ rest) + 1 = more.length + 1 := by
  cases h with
  | one h => exact .inl rfl
  | two h hb => exact .inr (by simp [carried, hb])
  | three h hb hb' => exact .inr (by simp [carried, hb, hb'])
  | four h hb hb' hb'' => exact .inr (by simp [carried, hb, hb', hb''])

theorem toNat_byte {n : Nat} (h : n < 0x100) : (UInt8.ofNat n).toNat = n := by
  rw [UInt8.toNat_ofNat']
  omega

/-- A character is written as a lead byte and what it carries on with. -/
theorem exists_utf8EncodeChar (c : Char) :
    ∃ lead more, String.utf8EncodeChar c = lead :: more ∧ Carried lead more := by
  have hvalid : c.val.toNat < 0xd800 ∨ 0xdfff < c.val.toNat ∧ c.val.toNat < 0x110000 := c.valid
  rw [String.utf8EncodeChar]
  generalize c.val.toNat = v at hvalid
  have htrail : ∀ n : Nat, isContinuation (UInt8.ofNat (n % 0x40 + 0x80)) = true := by
    intro n
    have hn := toNat_byte (n := n % 0x40 + 0x80) (by omega)
    rw [isContinuation_iff, hn]
    omega
  split_ifs with hone htwo hthree
  · have hlead := toNat_byte (n := v) (by omega)
    refine ⟨_, _, rfl, .one ?_⟩
    rw [announced?_eq, hlead, if_pos (by omega)]
  · have hlead := toNat_byte (n := v / 64 % 0x20 + 0xc0) (by omega)
    have hb := toNat_byte (n := v % 0x40 + 0x80) (by omega)
    refine ⟨_, _, rfl, .two ?_ ?_⟩
    · rw [announced?_eq, hlead, if_neg (by omega), if_neg (by omega), if_pos (by omega)]
    · rw [isSecond_iff, hlead, hb]
      omega
  · have hlead := toNat_byte (n := v / 4096 % 0x10 + 0xe0) (by omega)
    have hb := toNat_byte (n := v / 64 % 0x40 + 0x80) (by omega)
    refine ⟨_, _, rfl, .three ?_ ?_ (htrail v)⟩
    · rw [announced?_eq, hlead, if_neg (by omega), if_neg (by omega), if_neg (by omega),
        if_pos (by omega)]
    · rw [isSecond_iff, hlead, hb]
      omega
  · have hlead := toNat_byte (n := v / 262144 % 0x08 + 0xf0) (by omega)
    have hb := toNat_byte (n := v / 4096 % 0x40 + 0x80) (by omega)
    refine ⟨_, _, rfl, .four ?_ ?_ (htrail _) (htrail v)⟩
    · rw [announced?_eq, hlead, if_neg (by omega), if_neg (by omega), if_neg (by omega),
        if_neg (by omega), if_pos (by omega)]
    · rw [isSecond_iff, hlead, hb]
      omega

theorem utf8EncodeChar_injective : Function.Injective String.utf8EncodeChar := by
  intro c c' h
  have hc : ByteArray.utf8DecodeChar? ((String.utf8EncodeChar c).toByteArray ++ .empty) 0 =
      some c := ByteArray.utf8DecodeChar?_utf8EncodeChar_append
  have hc' : ByteArray.utf8DecodeChar? ((String.utf8EncodeChar c').toByteArray ++ .empty) 0 =
      some c' := ByteArray.utf8DecodeChar?_utf8EncodeChar_append
  rw [h, hc'] at hc
  exact (Option.some.inj hc).symm

end Text

end Stencil
