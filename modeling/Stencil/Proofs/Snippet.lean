import Stencil.Proofs.Text.Lines
import Stencil.Snippet
import Mathlib.Data.Int.Range

/-! What a snippet shows. Its lines are those of the source whose numbers are in reach of the error
line, each with its own number and none from outside the source, and the mark is on the error line
alone. The caret is meant for the character in the column. But what stands in front of the caret is
one place shorter than what stands in front of a line, and shorter still where a number has more
than three digits, so the caret always falls short of this character. -/
namespace Stencil

/-- An item that is not in a list stands at the end alone once it is put there. -/
theorem Text.getElem?_concat_eq_some_iff {t : Text} {c : CodePoint} (h : c ∉ t) {i : Nat} :
    (t ++ [c])[i]? = some c ↔ i = t.length := by
  constructor
  · intro hi
    obtain ⟨hlt, hget⟩ := List.getElem?_eq_some_iff.mp hi
    rw [List.length_append, List.length_singleton] at hlt
    by_contra hne
    have hinside : i < t.length := by omega
    rw [List.getElem_append_left hinside] at hget
    exact h (hget ▸ List.getElem_mem hinside)
  · rintro rfl
    exact List.getElem?_concat_length

namespace Snippet

/-- What stands above and below the lines. -/
def rule : Text := "   |"

def mark (s : Snippet) (n : Nat) : Text := if (n : Int) = s.errorLine then ">" else " "

/-- What stands in front of the content of a line. -/
def margin (s : Snippet) (n : Nat) : Text := s.mark n ++ gutter n ++ " | "

/-- A line as it is shown. -/
def row (s : Snippet) (line : Nat × Text) : Text := s.margin line.1 ++ line.2

/-- What stands below the error line. -/
def caretRow (column : Int) : Text :=
  "    | " ++ Text.ofChars (List.replicate column.toNat ' ') ++ "^"

/-- The rows for some lines. -/
def rowsOf (s : Snippet) (lines : List (Nat × Text)) : List Text :=
  lines.flatMap fun line => s.formatLine line.1 line.2

/-- All rows of the formatted snippet. -/
def rows (s : Snippet) : List Text := rule :: (s.rowsOf s.lines ++ [rule])

/-- Only the mark of the error line begins like this. -/
def isMarked (row : Text) : Bool := row.head? == some (.char '>')

variable {s : Snippet} {n : Nat} {content : Text}

theorem format_eq (s : Snippet) : s.format = ("\n" : Text).intercalate s.rows := rfl

theorem formatLine_of_eq (h : (n : Int) = s.errorLine) (content : Text) :
    s.formatLine n content = s.row (n, content) :: s.column.toList.map caretRow := by
  rw [formatLine, if_pos h, row, margin, mark, if_pos h]
  rfl

theorem formatLine_of_ne (h : (n : Int) ≠ s.errorLine) (content : Text) :
    s.formatLine n content = [s.row (n, content)] := by
  rw [formatLine, if_neg h, row, margin, mark, if_neg h]

theorem length_gutter (n : Nat) : (gutter n).length = max 3 (Nat.toDigits 10 n).length := by
  simp only [gutter, Text.ofChars, List.length_map, List.length_append, List.length_replicate]
  omega

/-! The window. -/

/-- The indices of the lines to show, in a source of so many lines. -/
def window (count : Nat) (errorLine reach : Int) : List Int :=
  Int.range (max 0 (errorLine - 1 - reach)) (min count (errorLine + reach))

/-- A line has its number as its place, and places are cut off at both ends. -/
theorem mem_numbered_iff {lines : List Text} {before upTo : Nat} :
    (content, n) ∈ ((lines.zipIdx 1).take upTo).drop before ↔
      before < n ∧ n ≤ upTo ∧ lines[n - 1]? = some content := by
  rw [List.mem_iff_getElem?]
  constructor
  · rintro ⟨i, hi⟩
    rw [List.getElem?_drop, List.getElem?_take] at hi
    split at hi
    · rename_i hupTo
      rw [List.getElem?_zipIdx, Option.map_eq_some_iff] at hi
      obtain ⟨line, hline, hnumber⟩ := hi
      obtain ⟨rfl, rfl⟩ := Prod.mk.injEq .. ▸ hnumber
      rw [Nat.add_sub_cancel_left]
      exact ⟨by omega, by omega, hline⟩
    · cases hi
  · rintro ⟨hbefore, hupTo, hline⟩
    have hindex : before + (n - 1 - before) = n - 1 := by omega
    have hnumber : 1 + (n - 1) = n := by omega
    refine ⟨n - 1 - before, ?_⟩
    rw [List.getElem?_drop, List.getElem?_take, hindex, if_pos (by omega), List.getElem?_zipIdx,
      hline, Option.map_some, hnumber]

variable {source : Text} {errorLine reach : Int} {column : Option Int}

theorem mem_lines_around_iff : (n, content) ∈ (around source errorLine reach column).lines ↔
    (1 ≤ n ∧ n ≤ source.lines.length) ∧ (errorLine - reach ≤ n ∧ n ≤ errorLine + reach) ∧
      source.lines[n - 1]? = some content := by
  have hmem : (n, content) ∈ (around source errorLine reach column).lines ↔
      (content, n) ∈ ((source.lines.zipIdx 1).take (errorLine + reach).toNat).drop
        (errorLine - 1 - reach).toNat := by
    constructor
    · intro h
      obtain ⟨⟨line, number⟩, hnumbered, hsame⟩ := List.mem_map.mp h
      cases hsame
      exact hnumbered
    · exact fun h => List.mem_map.mpr ⟨_, h, rfl⟩
  rw [hmem, mem_numbered_iff]
  constructor
  · rintro ⟨hbefore, hupTo, hline⟩
    obtain ⟨hlt, -⟩ := List.getElem?_eq_some_iff.mp hline
    exact ⟨⟨by omega, by omega⟩, ⟨by omega, by omega⟩, hline⟩
  · rintro ⟨⟨hfirst, -⟩, ⟨hfrom, hto⟩, hline⟩
    exact ⟨by omega, by omega, hline⟩

/-- The numbers are those of consecutive lines. -/
theorem numbers_around (source : Text) (errorLine reach : Int) (column : Option Int) :
    (around source errorLine reach column).lines.map Prod.fst =
      List.range' (1 + (errorLine - 1 - reach).toNat)
        (min source.lines.length (errorLine + reach).toNat - (errorLine - 1 - reach).toNat) := by
  have hnumbers : (around source errorLine reach column).lines.map Prod.fst =
      ((List.range' 1 source.lines.length).take (errorLine + reach).toNat).drop
        (errorLine - 1 - reach).toNat := by
    rw [← List.zipIdx_map_snd, ← List.map_take, ← List.map_drop, around, List.map_map]
    rfl
  have htake (count upTo : Nat) :
      (List.range' 1 count).take upTo = List.range' 1 (min count upTo) := by
    rcases Nat.le_total count upTo with hle | hle
    · rw [List.take_range'_of_length_le hle, Nat.min_eq_left hle]
    · rw [List.take_range'_of_length_ge hle, Nat.min_eq_right hle]
  rw [hnumbers, htake, List.drop_range', Nat.mul_one]

theorem indices_around (source : Text) (errorLine reach : Int) (column : Option Int) :
    (around source errorLine reach column).lines.map (fun line => (line.1 : Int)) =
      (window source.lines.length errorLine reach).map (· + 1) := by
  have hcount : min source.lines.length (errorLine + reach).toNat - (errorLine - 1 - reach).toNat =
      (min (source.lines.length : Int) (errorLine + reach) -
        max 0 (errorLine - 1 - reach)).toNat := by
    omega
  have hcast : (around source errorLine reach column).lines.map (fun line => (line.1 : Int)) =
      ((around source errorLine reach column).lines.map Prod.fst).map Int.ofNat := by
    rw [List.map_map]
    rfl
  rw [hcast, numbers_around, List.range'_eq_map_range, List.map_map, hcount, window, Int.range,
    List.map_map]
  apply List.map_congr_left
  intro k _
  simp only [Function.comp_apply, Int.ofNat_eq_natCast]
  omega

/-! The rows. -/

theorem rowsOf_append (s : Snippet) (lines later : List (Nat × Text)) :
    s.rowsOf (lines ++ later) = s.rowsOf lines ++ s.rowsOf later := List.flatMap_append

theorem rowsOf_cons (s : Snippet) (line : Nat × Text) (lines : List (Nat × Text)) :
    s.rowsOf (line :: lines) = s.formatLine line.1 line.2 ++ s.rowsOf lines := List.flatMap_cons

theorem isMarked_row (s : Snippet) (line : Nat × Text) :
    isMarked (s.row line) = decide ((line.1 : Int) = s.errorLine) := by
  rw [row, margin, mark]
  split
  · rename_i h
    exact (decide_eq_true h).symm
  · rename_i h
    exact (decide_eq_false h).symm

theorem filter_rowsOf (s : Snippet) (lines : List (Nat × Text)) : (s.rowsOf lines).filter isMarked =
    (lines.filter fun line => (line.1 : Int) = s.errorLine).map s.row := by
  induction lines with
  | nil => rfl
  | cons line lines ih =>
    rw [rowsOf_cons, List.filter_append, ih, List.filter_cons]
    by_cases h : (line.1 : Int) = s.errorLine
    · -- The caret row comes with the error line and is not marked.
      have hcaret : (s.column.toList.map caretRow).filter isMarked = [] := by
        rw [List.filter_eq_nil_iff]
        intro caret hmem
        obtain ⟨column, -, rfl⟩ := List.mem_map.mp hmem
        exact nofun
      rw [formatLine_of_eq h, List.filter_cons, isMarked_row, hcaret, if_pos (decide_eq_true h),
        if_pos (decide_eq_true h)]
      rfl
    · rw [formatLine_of_ne h, List.filter_cons, isMarked_row, if_neg (by simp [h]),
        if_neg (by simp [h])]
      rfl

theorem lineFeed_not_mem_gutter (n : Nat) : .char '\n' ∉ gutter n := by
  intro hmem
  simp only [gutter, Text.ofChars, List.mem_map, CodePoint.char.injEq, exists_eq_right,
    List.mem_append, List.mem_replicate] at hmem
  rcases hmem with ⟨-, hspace⟩ | hdigit
  · exact absurd hspace (by decide)
  · exact absurd (Nat.isDigit_of_mem_toDigits (by decide) (by decide) hdigit) (by decide)

theorem lineFeed_not_mem_row {line : Nat × Text} (h : .char '\n' ∉ line.2) :
    .char '\n' ∉ s.row line := by
  have hmark : .char '\n' ∉ s.mark line.1 := by
    rw [mark]
    split <;> decide
  have hbar : .char '\n' ∉ (" | " : Text) := by decide
  simp only [row, margin, List.mem_append, not_or]
  exact ⟨⟨⟨hmark, lineFeed_not_mem_gutter _⟩, hbar⟩, h⟩

theorem lineFeed_not_mem_caretRow (column : Int) : .char '\n' ∉ caretRow column := by
  have hbar : .char '\n' ∉ ("    | " : Text) := by decide
  have hcaret : .char '\n' ∉ ("^" : Text) := by decide
  simp only [caretRow, List.mem_append, not_or]
  exact ⟨⟨hbar, by simp [Text.ofChars]⟩, hcaret⟩

/-- The lines of the formatted text are the rows, as long as no line holds a line feed. -/
theorem splitOn_format (h : ∀ line ∈ s.lines, .char '\n' ∉ line.2) :
    s.format.splitOn (.char '\n') = s.rows := by
  have hrule : .char '\n' ∉ rule := by decide
  have hrows : ∀ row ∈ s.rows, .char '\n' ∉ row := by
    intro row hrow
    simp only [rows, List.mem_cons, List.mem_append, List.mem_nil_iff, or_false] at hrow
    rcases hrow with rfl | hrow | rfl
    · exact hrule
    · obtain ⟨line, hline, hmem⟩ := List.mem_flatMap.mp hrow
      by_cases hn : (line.1 : Int) = s.errorLine
      · rw [formatLine_of_eq hn, List.mem_cons, List.mem_map] at hmem
        rcases hmem with rfl | ⟨column, -, rfl⟩
        · exact lineFeed_not_mem_row (h line hline)
        · exact lineFeed_not_mem_caretRow column
      · rw [formatLine_of_ne hn, List.mem_singleton] at hmem
        rw [hmem]
        exact lineFeed_not_mem_row (h line hline)
    · exact hrule
  rw [format_eq]
  exact List.splitOn_intercalate _ hrows (List.cons_ne_nil _ _)

theorem filter_rows (s : Snippet) : s.rows.filter isMarked =
    (s.lines.filter fun line => (line.1 : Int) = s.errorLine).map s.row := by
  have hrule : isMarked rule = false := by decide
  simp [rows, List.filter_append, hrule, filter_rowsOf]

/-- The snippet shows the lines that are in reach of the error line and marks this one. -/
structure ShowsWindow (s : Snippet) (source : Text) (errorLine reach : Int) : Prop where
  mem_lines_iff : ∀ n content, (n, content) ∈ s.lines ↔
    (1 ≤ n ∧ n ≤ source.lines.length) ∧ (errorLine - reach ≤ n ∧ n ≤ errorLine + reach) ∧
      source.lines[n - 1]? = some content
  ascending : s.lines.Pairwise fun line later => line.1 < later.1
  /-- The lines are taken from the source one by one, each at an index that a line has. -/
  indices : s.lines.map (fun line => (line.1 : Int)) =
    (window source.lines.length errorLine reach).map (· + 1)
  inside : ∀ i ∈ window source.lines.length errorLine reach, 0 ≤ i ∧ i < source.lines.length
  marked : (s.format.splitOn (.char '\n')).filter isMarked =
    (s.lines.filter fun line => (line.1 : Int) = errorLine).map s.row

theorem showsWindow_around (source : Text) (errorLine reach : Int) (column : Option Int) :
    (around source errorLine reach column).ShowsWindow source errorLine reach := by
  have hlines : ∀ line ∈ (around source errorLine reach column).lines, .char '\n' ∉ line.2 := by
    intro (n, content) hmem
    obtain ⟨-, -, hline⟩ := mem_lines_around_iff.mp hmem
    intro hfeed
    have hbreak := Text.isLineBreak_of_mem_lines source content (List.mem_of_getElem? hline) _ hfeed
    exact absurd hbreak (by decide)
  refine ⟨fun n content => mem_lines_around_iff, ?_, indices_around _ _ _ _, ?_, ?_⟩
  · apply List.Pairwise.of_map Prod.fst fun _ _ => id
    rw [numbers_around]
    exact List.pairwise_lt_range'
  · intro i hi
    have hrange := Int.mem_range_iff.mp hi
    omega
  · rw [splitOn_format hlines]
    exact filter_rows _

/-! The caret. -/

/-- The caret row follows the error line, and its only caret stands `short` places before the
character in the column, where `short` is given by the number of the line. -/
def CaretShort (s : Snippet) (short : Nat → Nat) : Prop :=
  ∀ (earlier later : List (Nat × Text)) (n : Nat) (content : Text) (column : Nat),
    s.lines = earlier ++ (n, content) :: later → (n : Int) = s.errorLine →
    s.column = some (column : Int) → column < content.length →
    ∃ front caret : Text, s.row (n, content) = front ++ content ∧
      s.format = ("\n" : Text).intercalate (rule :: (s.rowsOf earlier ++
        s.row (n, content) :: caret :: (s.rowsOf later ++ [rule]))) ∧
      ∀ i, caret[i]? = some (.char '^') ↔ i + short n = front.length + column

/-- By how many places the caret falls short: by one, and by one more for each digit behind the
third. -/
def shortfall (n : Nat) : Nat := 1 + ((Nat.toDigits 10 n).length - 3)

theorem length_margin (s : Snippet) (n : Nat) : (s.margin n).length = 6 + shortfall n := by
  have hmark : (s.mark n).length = 1 := by
    rw [mark]
    split <;> rfl
  have hbar : (" | " : Text).length = 3 := rfl
  rw [margin, List.length_append, List.length_append, hmark, hbar, length_gutter, shortfall]
  omega

theorem getElem?_caretRow_iff (column i : Nat) :
    (caretRow column)[i]? = some (.char '^') ↔ i = 6 + column := by
  have hbar : .char '^' ∉ ("    | " : Text) := by decide
  have hfront : .char '^' ∉
      ("    | " : Text) ++ Text.ofChars (List.replicate (column : Int).toNat ' ') := by
    rw [List.mem_append, not_or]
    exact ⟨hbar, by simp [Text.ofChars]⟩
  have hlength : (("    | " : Text) ++
      Text.ofChars (List.replicate (column : Int).toNat ' ')).length = 6 + column := by
    rw [List.length_append, Text.ofChars, List.length_map, List.length_replicate]
    rfl
  rw [← hlength]
  exact Text.getElem?_concat_eq_some_iff hfront

theorem format_of_column {earlier later : List (Nat × Text)} {column : Int}
    (hlines : s.lines = earlier ++ (n, content) :: later) (herror : (n : Int) = s.errorLine)
    (hcolumn : s.column = some column) :
    s.format = ("\n" : Text).intercalate (rule :: (s.rowsOf earlier ++
      s.row (n, content) :: caretRow column :: (s.rowsOf later ++ [rule]))) := by
  rw [format_eq, rows, hlines, rowsOf_append, rowsOf_cons, formatLine_of_eq herror, hcolumn]
  simp

/-- The caret stands before the character it is meant for, always. -/
theorem caretShort_shortfall (s : Snippet) : s.CaretShort shortfall := by
  intro earlier later n content column hlines herror hcolumn hinside
  refine ⟨s.margin n, caretRow column, rfl, format_of_column hlines herror hcolumn, fun i => ?_⟩
  rw [getElem?_caretRow_iff, length_margin]
  omega

/-- A caret below the only character of a source. -/
def oneCharacter : Snippet := around "x" 1 0 (some 0)

/-- It stands below the space in front of the character. -/
theorem not_caretShort_oneCharacter :
    oneCharacter.format = "   |\n>  1 | x\n    | ^\n   |" ∧
    ¬ oneCharacter.CaretShort fun _ => 0 := by
  have hformat : oneCharacter.format = "   |\n>  1 | x\n    | ^\n   |" := by decide
  refine ⟨hformat, fun h => ?_⟩
  obtain ⟨front, caret, hrow, hshown, hcaret⟩ :=
    h [] [] 1 "x" 0 (by decide) (by decide) (by decide) (by decide)
  have hfront : front = ">  1 | " := (List.append_cancel_right hrow).symm
  have hbelow : caret ++ ("\n   |" : Text) = "    | ^" ++ ("\n   |" : Text) :=
    congrArg (List.drop 14) (hshown.symm.trans hformat)
  have hplace : caret[7]? = some (.char '^') := (hcaret 7).mpr (by rw [hfront]; rfl)
  rw [List.append_cancel_right hbelow] at hplace
  exact absurd hplace (by decide)

end Snippet

end Stencil
