import Xingkong.Lib.CommonSublist
import Xingkong.Model.AgentTools

/-!
# Approved edits

What the agent writes to a file is what was shown for approval, and the difference that is shown has
every line of both texts. An edit is not literal, though: `$` in its replacement can be a pattern.

A text that is escaped for XML is decoded to itself: each of the replacements, of both functions,
recodes the text unit by unit (`replaceMatches_coded`).
-/

namespace Xingkong

open Text List TopLevel CommonSublist

/-! ## Edits -/

variable {content : Text} {edits : List AgentBatchEdit}

/-- A `$` in the replacement with a mark that makes them stand for another text. -/
def HasPattern (replace : Text) : Prop := ∃ mark ∈ "$&`'".toList, ['$', mark] <:+: replace

theorem HasPattern.cons {replace : Text} (h : HasPattern replace) (c : Char) :
    HasPattern (c :: replace) := by
  obtain ⟨mark, hmark, hin⟩ := h
  exact ⟨mark, hmark, hin.trans (suffix_cons c replace).isInfix⟩

variable {found before after : Text}

def DiffLine.oldLine? : DiffLine → Option Text
  | context line | removed line => some line
  | added _ => none

def DiffLine.nextLine? : DiffLine → Option Text
  | context line | added line => some line
  | removed _ => none

def DiffLine.contextLine? : DiffLine → Option Text
  | context line => some line
  | _ => none

open DiffLine (oldLine? nextLine? contextLine?)

variable {matrix : List (List Nat)} {i j : Nat} {oldLines nextLines : List Text}

theorem headD_map_tails (f : List Text → Nat) (lines : List Text) :
    (lines.tails.map f).headD 0 = f lines := by
  cases lines <;> rfl

theorem fillRow_eq (line : Text) :
    fillRow line nextLines (nextLines.tails.map (lcs oldLines)) =
      nextLines.tails.map (lcs (line :: oldLines)) := by
  induction nextLines with
  | nil => simp [fillRow, lcs]
  | cons next nextLines ih =>
    rw [fillRow, tails_cons, map_cons, tail_cons, ih, headD_map_tails, headD_map_tails, map_cons,
      lcs]
    rfl

/-- An entry of the matrix is the length for the lines from its row and from its column on. -/
theorem fillMatrix_eq :
    fillMatrix nextLines oldLines =
      oldLines.tails.map fun lines => nextLines.tails.map (lcs lines) := by
  induction oldLines with
  | nil =>
    have hz : lcs ([] : List Text) = fun _ => 0 := by
      funext lines
      rw [lcs]
    simp [fillMatrix, hz]
  | cons line oldLines ih =>
    rw [fillMatrix, ih, tails_cons, map_cons, ← fillRow_eq]
    cases oldLines <;> rfl

theorem entry_eq (hi : i ≤ oldLines.length) (hj : j ≤ nextLines.length) :
    ((fillMatrix nextLines oldLines).getD i []).getD j 0 =
      lcs (oldLines.drop i) (nextLines.drop j) := by
  have hdrop : ∀ {lines : List Text} {n}, n ≤ lines.length →
      lines.tails[n]? = some (lines.drop n) := by
    intro lines n hn
    have hlt : n < lines.tails.length := by
      rw [length_tails]
      omega
    rw [getElem?_eq_getElem hlt, getElem_tails]
  simp [fillMatrix_eq, hdrop hi, hdrop hj]

theorem old_walkLines :
    (walkLines matrix i j oldLines nextLines).filterMap oldLine? = oldLines := by
  fun_induction walkLines with
  | case4 => simp [Function.comp_def, oldLine?]
  | _ => simp_all [filterMap_cons, oldLine?]

theorem next_walkLines :
    (walkLines matrix i j oldLines nextLines).filterMap nextLine? = nextLines := by
  fun_induction walkLines with
  | case4 => simp [Function.comp_def, nextLine?]
  | _ => simp_all [filterMap_cons, nextLine?]

section Walk

variable {old next : List Text} {line line' : Text} {n : Nat}

theorem drop_of_cons (h : line :: oldLines = old.drop n) :
    oldLines = old.drop (n + 1) := by
  rw [← tail_drop, ← h, tail_cons]

theorem lt_of_cons (h : line :: oldLines = old.drop n) : n < old.length := by
  have := congrArg length h
  simp at this
  omega

theorem entries_iff (hold : line :: oldLines = old.drop i)
    (hnext : line' :: nextLines = next.drop j) :
    ((fillMatrix next old).getD (i + 1) []).getD j 0 ≥
        ((fillMatrix next old).getD i []).getD (j + 1) 0 ↔
      lcs oldLines (line' :: nextLines) ≥ lcs (line :: oldLines) nextLines := by
  have hi := lt_of_cons hold
  have hj := lt_of_cons hnext
  rw [entry_eq hi hj.le, entry_eq hi.le hj, ← drop_of_cons hold, ← drop_of_cons hnext, ← hold,
    ← hnext]

/-- The context lines of the walk are a common sublist, as long as the matrix says. -/
theorem context_walkLines (hold : oldLines = old.drop i) (hnext : nextLines = next.drop j) :
    let contexts := (walkLines (fillMatrix next old) i j oldLines nextLines).filterMap contextLine?
    (contexts <+ oldLines ∧ contexts <+ nextLines) ∧ contexts.length = lcs oldLines nextLines := by
  fun_induction walkLines (fillMatrix next old) i j oldLines nextLines with
  | case1 i j oldLines line nextLines ih =>
    obtain ⟨⟨hx, hy⟩, hlen⟩ := ih (drop_of_cons hold) (drop_of_cons hnext)
    exact ⟨⟨hx.cons_cons line, hy.cons_cons line⟩, by simp [lcs, contextLine?, hlen]⟩
  | case2 i j line oldLines line' nextLines hne hge ih =>
    obtain ⟨⟨hx, hy⟩, hlen⟩ := ih (drop_of_cons hold) hnext
    rw [entries_iff hold hnext] at hge
    refine ⟨⟨hx.cons line, hy⟩, hlen.trans ?_⟩
    rw [lcs, if_neg hne]
    omega
  | case3 i j line oldLines line' nextLines hne hlt ih =>
    obtain ⟨⟨hx, hy⟩, hlen⟩ := ih hold (drop_of_cons hnext)
    rw [entries_iff hold hnext] at hlt
    refine ⟨⟨hx, hy.cons line'⟩, hlen.trans ?_⟩
    rw [lcs, if_neg hne]
    omega
  | case4 i j oldLines nextLines h =>
    have hnil : (oldLines.map DiffLine.removed ++ nextLines.map DiffLine.added).filterMap
        contextLine? = [] := by
      simp [contextLine?]
    have hz : lcs oldLines nextLines = 0 := by
      cases oldLines with
      | nil => rw [lcs]
      | cons line oldLines =>
        cases nextLines with
        | nil => rw [lcs]
        | cons line' nextLines => exact (h _ _ _ _ rfl rfl).elim
    simp only [hnil, hz]
    exact ⟨⟨nil_sublist _, nil_sublist _⟩, rfl⟩

end Walk

theorem lines_eq_or_changed {lines : List DiffLine} (hold : lines.filterMap oldLine? = oldLines)
    (hnext : lines.filterMap nextLine? = nextLines) :
    oldLines = nextLines ∨ ∃ line ∈ lines, contextLine? line = none := by
  by_cases h : ∃ line ∈ lines, contextLine? line = none
  · exact .inr h
  · left
    rw [← hold, ← hnext]
    refine filterMap_congr fun line hline => ?_
    cases line with
    | context line => rfl
    | removed line | added line => exact absurd ⟨_, hline, rfl⟩ h

/-- **The difference shows every line**: its context and removed lines are those of the old text,
its context and added lines those of the new one, no common part of both is longer than its
context, and if the lines change it has a line that is no context. -/
theorem line_diff_exact (oldContent nextContent : Text) :
    ∃ lines : List DiffLine,
      buildLineDiff oldContent nextContent = join ['\n'] (lines.map DiffLine.text) ∧
      lines.filterMap oldLine? = splitLines oldContent ∧
      lines.filterMap nextLine? = splitLines nextContent ∧
      IsLongest (lines.filterMap contextLine?) (splitLines oldContent)
        (splitLines nextContent) ∧
      (splitLines oldContent = splitLines nextContent ∨
        ∃ line ∈ lines, contextLine? line = none) := by
  refine ⟨diffLines oldContent nextContent, rfl, old_walkLines, next_walkLines, ?_, ?_⟩
  · obtain ⟨hcommon, hlen⟩ := context_walkLines drop_zero.symm drop_zero.symm
    refine ⟨hcommon, fun zs hx hy => ?_⟩
    exact (length_le_lcs hx hy).trans hlen.ge
  · exact lines_eq_or_changed old_walkLines next_walkLines

/-- A change of the line ends alone is not shown. -/
theorem line_diff_hides_line_ends :
    buildLineDiff "a\r\nb".toList "a\nb".toList = "  a\n  b".toList ∧
      "a\r\nb".toList ≠ "a\nb".toList := by
  refine ⟨?_, by decide⟩
  simp [buildLineDiff, diffLines, splitLines, walkLines, DiffLine.text, join]

/-! ## XML texts -/

/-- The code of a unit while `&`, `<` and `>` (38, 60 and 62) are escaped or not. -/
def coded (amp lt gt : Bool) (c : UInt16) : Units :=
  if amp && c = 38 then units "&amp;"
  else if lt && c = 60 then units "&lt;"
  else if gt && c = 62 then units "&gt;"
  else [c]

/-- A text is recoded unit by unit if matches begin with one of the three marks and what comes after
the code of a mark does not matter. -/
theorem replaceMatches_coded {found : Units → Option (Units × Nat)} {amp lt gt : Bool}
    (amp' lt' gt' : Bool) (hother : ∀ c ∉ [38, 60, 62], ∀ s, found (c :: s) = none)
    (hmark : ∀ rest, [38, 60, 62].Forall fun c =>
      replaceMatches found 0 (coded amp lt gt c ++ rest) =
        coded amp' lt' gt' c ++ replaceMatches found 0 rest) (s : Units) :
    replaceMatches found 0 (s.flatMap (coded amp lt gt)) = s.flatMap (coded amp' lt' gt') := by
  induction s with
  | nil => rfl
  | cons c s ih =>
    rw [flatMap_cons, flatMap_cons, ← ih]
    by_cases hc : c ∈ [38, 60, 62]
    · exact forall_iff_forall_mem.1 (hmark _) c hc
    · have hplain : ∀ amp lt gt, coded amp lt gt c = [c] := by
        intro amp lt gt
        simp_all [coded]
      rw [hplain, hplain, singleton_append, replaceMatches, hother c hc]
      rfl

theorem not_isPrefixOf {old : String} (h : ∃ d ∈ [38, 60, 62], (units old).head? = some d)
    {c : UInt16} (hc : c ∉ [38, 60, 62]) (s : Units) :
    ¬ (units old).isPrefixOf (c :: s) = true := by
  obtain ⟨d, hd, hold⟩ := h
  obtain ⟨ds, hds⟩ := head?_eq_some_iff.1 hold
  rw [hds, isPrefixOf_iff_prefix, cons_prefix_cons]
  rintro ⟨rfl, _⟩
  exact hc hd

/-- **Escaped texts decode to themselves**, whatever entities and markers they have. -/
theorem decode_escape_xml (s : Units) : decodeXml (escapeXml s) = s := by
  have hplain : s.flatMap (coded false false false) = s := flatMap_singleton' s
  have hliteral : ∀ {old new : String}, (∃ d ∈ [38, 60, 62], (units old).head? = some d) →
      ∀ c ∉ [38, 60, 62], ∀ s, entity old new (c :: s) = none :=
    fun h _ hc s => if_neg (not_isPrefixOf h hc s)
  have hcdata : ∀ c ∉ [38, 60, 62], ∀ s, cdata (c :: s) = none :=
    fun _ hc s => if_neg (not_isPrefixOf (by decide) hc s)
  have hescape : escapeXml (s.flatMap (coded false false false)) =
      s.flatMap (coded true true true) := by
    rw [escapeXml, replaceMatches_coded true false false (hliteral (by decide)),
      replaceMatches_coded true true false (hliteral (by decide)),
      replaceMatches_coded true true true (hliteral (by decide))]
    all_goals exact fun _ => ⟨rfl, rfl, rfl⟩
  rw [hplain] at hescape
  -- an escaped text has neither `<` nor a quote entity, and `&amp;` is decoded last
  rw [hescape, decodeXml, replaceMatches_coded true true true hcdata,
    replaceMatches_coded true false true (hliteral (by decide)),
    replaceMatches_coded true false false (hliteral (by decide)),
    replaceMatches_coded true false false (hliteral (by decide)),
    replaceMatches_coded true false false (hliteral (by decide)),
    replaceMatches_coded false false false (hliteral (by decide)), hplain]
  all_goals exact fun _ => ⟨rfl, rfl, rfl⟩

end Xingkong
