import Stencil.Text.Lines
import Mathlib.Data.List.DropRight

/-! Which line a place of a text is on. By line feeds alone it is found by counting them; the lines
of a text as it is shown have other ends too, and each of these before the place moves it one line
further. What stands on the line in front of the place reaches back to the last line end, and what
stands behind it on to the next one. The two notions of a line agree up to the first line end that
is no line feed. -/
namespace Stencil.Text

def isLineFeed (c : CodePoint) : Bool := c == .char '\n'

/-- What stands behind the last of the code points that end lines. -/
def lastLine (ends : CodePoint → Bool) (cs : Text) : Text := cs.rtakeWhile fun c => !ends c

/-- What stands in front of the first of the code points that end lines. -/
def firstLine (ends : CodePoint → Bool) (cs : Text) : Text := cs.takeWhile fun c => !ends c

/-- The number of line ends that are not one line feed or a carriage return in front of one. -/
def otherBreaks : Text → Nat
  | [] => 0
  | .char '\r' :: .char '\n' :: cs => otherBreaks cs
  | c :: cs => otherBreaks cs + if isLineBreak c ∧ c ≠ '\n' then 1 else 0

/-- The number of all line ends. -/
def breaks (cs : Text) : Nat := cs.count (.char '\n') + otherBreaks cs

variable {ends : CodePoint → Bool} {c : CodePoint} {cs : Text}

theorem lastLine_concat_of_pos (hc : ends c = true) (cs : Text) :
    lastLine ends (cs ++ [c]) = [] :=
  List.rtakeWhile_concat_neg _ _ _ (by simp [hc])

theorem lastLine_concat_of_neg (hc : ends c = false) (cs : Text) :
    lastLine ends (cs ++ [c]) = lastLine ends cs ++ [c] :=
  List.rtakeWhile_concat_pos _ _ _ (by simp [hc])

theorem lastLine_eq_self_iff : lastLine ends cs = cs ↔ ∀ c ∈ cs, ends c = false := by
  rw [lastLine, List.rtakeWhile_eq_self_iff]
  simp only [Bool.not_eq_true']

theorem lastLine_cons (ends : CodePoint → Bool) (c : CodePoint) (cs : Text) :
    lastLine ends (c :: cs) =
      if ends c = false ∧ lastLine ends cs = cs then c :: cs else lastLine ends cs := by
  induction cs using List.reverseRecOn with
  | nil => cases hc : ends c <;> simp [lastLine, List.rtakeWhile, hc]
  | append_singleton cs d ih =>
    rw [← List.cons_append]
    cases hd : ends d with
    | false =>
      rw [lastLine_concat_of_neg hd, lastLine_concat_of_neg hd, ih]
      simp only [List.append_left_inj]
      split <;> rfl
    | true =>
      rw [lastLine_concat_of_pos hd, lastLine_concat_of_pos hd, if_neg]
      rintro ⟨-, hnil⟩
      exact absurd hnil (by simp)

theorem lastLine_cons_of_pos (hc : ends c = true) (cs : Text) :
    lastLine ends (c :: cs) = lastLine ends cs := by
  rw [lastLine_cons, if_neg (by simp [hc])]

theorem isLineFeed_iff : isLineFeed c = true ↔ c = .char '\n' := beq_iff_eq

theorem isLineBreak_of_isLineFeed (h : isLineFeed c = true) : isLineBreak c = true := by
  rw [isLineFeed_iff.mp h]
  decide

/-! Numbers of line ends. -/

theorem breaks_crlf (cs : Text) :
    breaks (.char '\r' :: .char '\n' :: cs) = breaks cs + 1 := by
  have hcr : ¬ CodePoint.char '\r' = .char '\n' := by decide
  simp only [breaks, otherBreaks, List.count_cons, beq_self_eq_true, if_true, beq_iff_eq, hcr,
    if_false]
  omega

/-- A code point in front that does not make a pair with the next one. -/
theorem breaks_cons (hpair : ∀ cs', c = .char '\r' → cs = .char '\n' :: cs' → False) :
    breaks (c :: cs) = breaks cs + if isLineBreak c then 1 else 0 := by
  rw [breaks, otherBreaks.eq_3 _ _ hpair, breaks, List.count_cons]
  by_cases hc : c = .char '\n'
  · have hbreak : isLineBreak (.char '\n') = true := by decide
    simp only [hc, hbreak, beq_self_eq_true, ne_eq, not_true_eq_false, and_false, if_true, if_false]
    omega
  · simp only [hc, beq_iff_eq, ne_eq, not_false_eq_true, and_true, if_false]
    omega

theorem breaks_eq_zero_iff (cs : Text) : breaks cs = 0 ↔ lastLine isLineBreak cs = cs := by
  rw [lastLine_eq_self_iff]
  fun_induction otherBreaks cs with
  | case1 => simp [breaks, otherBreaks]
  | case2 cs ih =>
    have hcr : isLineBreak (.char '\r') = true := by decide
    simp [breaks_crlf, hcr]
  | case3 c cs hpair ih =>
    rw [breaks_cons hpair, List.forall_mem_cons, ← ih]
    cases isLineBreak c <;> simp

/-- Where each line end is or holds a line feed, what stands behind the last line end stands behind
the last line feed. -/
theorem lastLine_eq_of_otherBreaks (h : otherBreaks cs = 0) :
    lastLine isLineBreak cs = lastLine isLineFeed cs := by
  fun_induction otherBreaks cs with
  | case1 => rfl
  | case2 cs ih =>
    have hother : lastLine isLineFeed (.char '\r' :: .char '\n' :: cs) =
        lastLine isLineFeed (.char '\n' :: cs) := by
      rw [lastLine_cons, if_neg]
      rintro ⟨-, hall⟩
      exact absurd (lastLine_eq_self_iff.mp hall _ List.mem_cons_self) (by decide)
    rw [hother, lastLine_cons_of_pos (by decide), lastLine_cons_of_pos (by decide),
      lastLine_cons_of_pos (by decide), ih h]
  | case3 c cs hpair ih =>
    obtain ⟨hrest, hc⟩ := Nat.add_eq_zero_iff.mp h
    have hsame : isLineBreak c = isLineFeed c := by
      cases hfeed : isLineFeed c with
      | true => exact isLineBreak_of_isLineFeed hfeed
      | false =>
        have hne : c ≠ .char '\n' := fun heq => by rw [isLineFeed_iff.mpr heq] at hfeed; cases hfeed
        cases hbreak : isLineBreak c with
        | false => rfl
        | true => simp [hbreak, hne] at hc
    rw [lastLine_cons, lastLine_cons, hsame, ih hrest]

theorem firstLine_prefix_self (cs : Text) :
    firstLine isLineBreak cs <+: firstLine isLineFeed cs := by
  have hboth : ∀ c,
      (!isLineBreak c) = decide ((!isLineBreak c) = true ∧ (!isLineFeed c) = true) := by
    intro c
    cases hfeed : isLineFeed c with
    | true => rw [isLineBreak_of_isLineFeed hfeed]; rfl
    | false => cases isLineBreak c <;> rfl
  rw [firstLine, firstLine, funext hboth, ← List.takeWhile_takeWhile]
  exact List.takeWhile_prefix _

/-! Lines as they are shown. -/

theorem head?_lines (hne : cs ≠ []) : (lines cs).head? = some (firstLine isLineBreak cs) := by
  fun_induction lines cs with
  | case1 => exact absurd rfl hne
  | case2 cs ih => rfl
  | case3 c cs hpair hc ih =>
    rw [firstLine, List.takeWhile_cons, hc]
    rfl
  | case4 c cs hpair hc ih =>
    rw [Bool.not_eq_true] at hc
    rw [firstLine, List.takeWhile_cons, hc]
    cases cs with
    | nil => rfl
    | cons d cs =>
      have hrest := ih (List.cons_ne_nil d cs)
      cases hlines : lines (d :: cs) with
      | nil =>
        rw [hlines] at hrest
        cases hrest
      | cons line more =>
        rw [hlines] at hrest
        cases hrest
        rfl

/-- No line holds a line end. -/
theorem isLineBreak_of_mem_lines (cs : Text) :
    ∀ line ∈ lines cs, ∀ c ∈ line, isLineBreak c = false := by
  fun_induction lines cs with
  | case1 => exact nofun
  | case2 cs ih => exact List.forall_mem_cons.mpr ⟨nofun, ih⟩
  | case3 c cs hpair hc ih => exact List.forall_mem_cons.mpr ⟨nofun, ih⟩
  | case4 c cs hpair hc ih =>
    rw [Bool.not_eq_true] at hc
    cases hlines : lines cs with
    | nil =>
      intro line hline
      rw [List.mem_singleton.mp hline]
      simpa using hc
    | cons first more =>
      rw [hlines] at ih
      obtain ⟨hfirst, hmore⟩ := List.forall_mem_cons.mp ih
      exact List.forall_mem_cons.mpr ⟨List.forall_mem_cons.mpr ⟨hc, hfirst⟩, hmore⟩

/-- The line of a place, as lines are shown, is as far down as there are line ends before it. -/
theorem getElem?_lines_append (before : Text) {rest : Text} (hne : rest ≠ [])
    (hhead : rest.head? ≠ some (.char '\n')) : (lines (before ++ rest))[breaks before]? =
      some (lastLine isLineBreak before ++ firstLine isLineBreak rest) := by
  fun_induction otherBreaks before with
  | case1 =>
    exact List.head?_eq_getElem?.symm.trans (head?_lines hne)
  | case2 cs ih =>
    rw [breaks_crlf, lastLine_cons_of_pos (by decide), lastLine_cons_of_pos (by decide), ← ih]
    rfl
  | case3 c cs hpair ih =>
    have hpair' : ∀ cs', c = .char '\r' → cs ++ rest = .char '\n' :: cs' → False := by
      intro cs' hc hcs
      cases cs with
      | nil =>
        rw [List.nil_append] at hcs
        rw [hcs] at hhead
        exact hhead rfl
      | cons d cs => exact hpair cs hc (by rw [(List.cons.inj hcs).1])
    rw [breaks_cons hpair, List.cons_append, lines.eq_3 _ _ hpair']
    cases hc : isLineBreak c with
    | true =>
      rw [lastLine_cons_of_pos hc, ← ih]
      rfl
    | false =>
      simp only [Bool.false_eq_true, if_false, Nat.add_zero]
      rw [lastLine_cons]
      cases hlines : lines (cs ++ rest) with
      | nil =>
        rw [hlines] at ih
        cases ih
      | cons line more =>
        rw [hlines] at ih
        -- The code point goes in front of the first line, which is that of the place only if no
        -- line ends before it.
        cases hn : breaks cs with
        | zero =>
          have hall := (breaks_eq_zero_iff cs).mp hn
          rw [hn, hall] at ih
          cases ih
          rw [hall, if_pos ⟨hc, rfl⟩]
          rfl
        | succ n =>
          have hsome : ¬ lastLine isLineBreak cs = cs := by
            rw [← breaks_eq_zero_iff, hn]
            exact Nat.succ_ne_zero n
          rw [hn] at ih
          rw [if_neg (fun h => hsome h.2), ← ih]
          rfl

/-! Lines by line feeds alone. -/

theorem length_splitOn (cs : Text) :
    (cs.splitOn (.char '\n')).length = cs.count (.char '\n') + 1 := by
  induction cs with
  | nil => rfl
  | cons c cs ih =>
    rw [List.splitOn, List.splitOnP_cons_eq_if_modifyHead, List.count_cons]
    rw [List.splitOn] at ih
    split <;> simp_all

theorem head?_splitOn (cs : Text) :
    (cs.splitOn (.char '\n')).head? = some (firstLine isLineFeed cs) := by
  induction cs with
  | nil => rfl
  | cons c cs ih =>
    rw [List.splitOn, List.splitOnP_cons_eq_if_modifyHead, firstLine, List.takeWhile_cons,
      isLineFeed]
    rw [List.splitOn] at ih
    cases c == .char '\n' with
    | true => rfl
    | false => simpa [firstLine] using ih

/-- The line of a place by line feeds is as far down as there are line feeds before it. -/
theorem getElem?_splitOn_append (before rest : Text) :
    ((before ++ rest).splitOn (.char '\n'))[before.count (.char '\n')]? =
      some (lastLine isLineFeed before ++ firstLine isLineFeed rest) := by
  induction before using List.reverseRecOn generalizing rest with
  | nil =>
    exact List.head?_eq_getElem?.symm.trans (head?_splitOn rest)
  | append_singleton before c ih =>
    rw [List.append_assoc, List.singleton_append, List.count_append]
    cases hc : isLineFeed c with
    | true =>
      obtain rfl := isLineFeed_iff.mp hc
      have hsplit : (before ++ .char '\n' :: rest).splitOn (.char '\n') =
          before.splitOn (.char '\n') ++ rest.splitOn (.char '\n') :=
        List.splitOnP_append_cons before rest (beq_self_eq_true _)
      have hindex : before.count (.char '\n') + [CodePoint.char '\n'].count (.char '\n') =
          (before.splitOn (.char '\n')).length + 0 := (length_splitOn before).symm
      rw [hsplit, hindex, List.getElem?_append_right (Nat.le_add_right _ _),
        Nat.add_sub_cancel_left, lastLine_concat_of_pos hc, ← List.head?_eq_getElem?]
      exact head?_splitOn rest
    | false =>
      have hnone : [c].count (.char '\n') = 0 := List.count_eq_zero.mpr fun hmem => by
        rw [← List.mem_singleton.mp hmem] at hc
        cases hc
      have hfirst : firstLine isLineFeed (c :: rest) = c :: firstLine isLineFeed rest := by
        rw [firstLine, List.takeWhile_cons, hc]
        rfl
      rw [hnone, Nat.add_zero, ih, hfirst, lastLine_concat_of_neg hc, List.append_assoc]
      rfl

end Stencil.Text
