/-
The lines that tokens stand on.

A scanner counts lines while it reads, and not every character passes by its count: what opens and what
closes a block comment, and an escape inside quotes, are taken two characters at a time. None of these
is a line end, as long as a line end does not quote. So the line that has been reached and the line ends
that are still to come always make up the same number, and with the line at which the text begins, one,
that gives the line of each token: one more than there are line ends in front of it.
-/
import PageScript.Proofs.Token.Layout

namespace PageScript

/-- A character that is counted. -/
theorem lineAfter_add_count (c : Char) (cs : List Char) (line : Nat) :
    lineAfter c line + cs.count '\n' = line + (c :: cs).count '\n' := by
  rw [lineAfter, List.count_cons]
  by_cases hc : c = '\n'
  · simp [hc]
    omega
  · simp [hc]

namespace Lexicon

variable (lex : Lexicon) (cs : List Char) (line : Nat)

-- ======== gaps

theorem line_afterBlockComment :
    (afterBlockComment cs line).2 + (afterBlockComment cs line).1.count '\n' =
      line + cs.count '\n' := by
  fun_induction afterBlockComment cs line with
  | case1 rest line => simp
  | case2 c rest line _ ih => rw [ih, lineAfter_add_count]
  | case3 line => rfl

/-- A line comment holds no line end. -/
theorem count_afterLineComment : (afterLineComment cs).count '\n' = cs.count '\n' := by
  have hnone : (cs.takeWhile (· != '\n')).count '\n' = 0 :=
    List.count_eq_zero.2 fun hmem => by simpa using List.mem_takeWhile_imp hmem
  have hsum := congrArg (List.count '\n') (List.takeWhile_append_dropWhile (p := (· != '\n')) (l := cs))
  rw [List.count_append, hnone, Nat.zero_add] at hsum
  exact hsum

theorem line_gap :
    (lex.gap cs line).line + (lex.gap cs line).rest.count '\n' = line + cs.count '\n' := by
  fun_induction Lexicon.gap lex cs line with
  | case2 c rest line _ g ih => exact ih.trans (lineAfter_add_count ..)
  | case3 line inner _ _ ih =>
    rw [ih, count_afterLineComment]
    simp
  | case5 line inner _ after _ ih =>
    rw [ih, line_afterBlockComment]
    simp
  | _ => rfl

-- ======== lexemes

/-- What is escaped is the quote or a backslash, so that it has to be counted only if the quote is a line
end. -/
theorem line_quotedPart {q : Char} (hq : q ≠ '\n') :
    (quotedPart q cs line).line + (quotedPart q cs line).rest.count '\n' = line + cs.count '\n' := by
  fun_induction quotedPart q cs line with
  | case1 line => rfl
  | case2 line => simp
  | case3 c rest line hescaped s ih =>
    have hc : c ≠ '\n' := by
      rcases hescaped with rfl | rfl
      · exact hq
      · decide
    exact ih.trans (by simp [hc])
  | case4 c rest line _ s ih => exact ih.trans (by simp [List.count_cons])
  | case5 rest line => exact lineAfter_add_count ..
  | case6 c rest line _ _ _ s ih => exact ih.trans (lineAfter_add_count ..)

variable {lex} (hlex : '\n' ∉ lex.quotes.toList)
include hlex

theorem line_lexeme (numeric atStart afterQuote : Bool) :
    (lex.lexeme numeric atStart afterQuote cs line).line +
      (lex.lexeme numeric atStart afterQuote cs line).rest.count '\n' = line + cs.count '\n' := by
  fun_induction Lexicon.lexeme lex numeric atStart afterQuote cs line with
  | case3 numeric atStart afterQuote c rest line hquote _ q w ih =>
    have hc : c ≠ '\n' := by
      rintro rfl
      exact hlex (by simpa [isQuote] using hquote)
    calc w.line + w.rest.count '\n' = q.line + q.rest.count '\n' := ih
      _ = lineAfter c line + rest.count '\n' := line_quotedPart _ _ hc
      _ = line + (c :: rest).count '\n' := lineAfter_add_count ..
  | case4 numeric atStart afterQuote c rest line _ _ w ih => exact ih.trans (lineAfter_add_count ..)
  | case5 numeric atStart afterQuote c rest line _ _ _ w ih => exact ih.trans (lineAfter_add_count ..)
  | _ => rfl

-- ======== tokens

theorem line_scan :
    (lex.scan cs line).line + (lex.scan cs line).rest.count '\n' = line + cs.count '\n' := by
  rw [← lex.line_gap cs line]
  unfold scan
  dsimp only
  split
  · next hrest => rw [hrest]
  · next c rest hrest =>
    rw [hrest]
    split
    · exact line_lexeme _ _ hlex ..
    · exact lineAfter_add_count ..

omit hlex

/-- A token has the line that was reached behind the gap, and what it takes is what follows there. -/
theorem scan_token_at_gap :
    (lex.scan cs line).token.line = (lex.gap cs line).line ∧
      (lex.gap cs line).rest = (lex.scan cs line).token.raw.toList ++ (lex.scan cs line).rest := by
  unfold scan
  dsimp only
  split
  · next hrest => exact ⟨rfl, by simp [hrest, Token.finish]⟩
  · next c rest hrest =>
    split
    · refine ⟨rfl, ?_⟩
      rw [hrest, Lexeme.token, String.toList_ofList]
      exact (lex.lexeme_raw_append_rest ..).symm
    · exact ⟨rfl, by simp [hrest, Token.symbol]⟩

end Lexicon

/-- Scanned from a line on, each token has this line and one more for each line end in front of it. -/
theorem Segment.Scanned.line_eq {lex : Lexicon} (hlex : '\n' ∉ lex.quotes.toList)
    {before after : List Segment} {s : Segment} {line : Nat}
    (h : Scanned lex line (before ++ s :: after)) :
    s.token.line = line + (before.flatMap chars ++ gapText s.gap).count '\n' := by
  induction before generalizing line with
  | nil =>
    obtain ⟨line', hscan, -⟩ := h
    obtain ⟨hline, hat⟩ := lex.scan_token_at_gap ((s :: after).flatMap chars) line
    have hsum := lex.line_gap ((s :: after).flatMap chars) line
    rw [hscan] at hline hat
    rw [← hline, hat] at hsum
    simp only [chars, List.count_append, List.flatMap_cons, List.flatMap_nil, List.nil_append] at hsum ⊢
    omega
  | cons first before ih =>
    rw [List.cons_append] at h
    obtain ⟨line', hscan, hrest⟩ := h
    have hsum := Lexicon.line_scan ((first :: (before ++ s :: after)).flatMap chars) line hlex
    rw [hscan] at hsum
    rw [ih hrest]
    simp only [List.count_append, List.flatMap_cons] at hsum ⊢
    omega

/-- Lines are exact. The tokens of a text are scanned one after the other, and make up a layout of it; in
this layout each token, the end token too, stands on the line that is one more than there are line ends
in front of it. It does not matter what else is in front of it, nor which characters are blanks. -/
theorem token_lines_exact (lex : Lexicon) (text : String) (hlex : '\n' ∉ lex.quotes.toList) :
    ∃ front last, Layout lex text.toList front last ∧
      tokenize lex text = front.map (·.token) ++ [last.token] ∧
      Segment.Scanned lex 1 (front ++ [last]) ∧
      ∀ before s after, front ++ [last] = before ++ s :: after →
        s.token.line = 1 + (before.flatMap Segment.chars ++ gapText s.gap).count '\n' := by
  obtain ⟨front, last, hlayout, htokens, hscanned⟩ :=
    Scanner.drain_layout (s := .ofText lex text) rfl
  refine ⟨front, last, hlayout, htokens, hscanned, fun before s after hsplit => ?_⟩
  rw [hsplit] at hscanned
  exact hscanned.line_eq hlex

/-- A block comment over two lines, a quoted part over three with escapes in it, a line comment, and an open
quote with the last line end in it; the other line ends are tokens, since they are no blanks. -/
theorem token_lines_exact_mixed :
    let lex : Lexicon := { blanks := " " }
    let text := "a /*\n*/ \"b\\\"\n\\\\\nc\"d\n// e\n'x\n"
    '\n' ∉ lex.quotes.toList ∧ (tokenize lex text).map (·.line) = [1, 2, 4, 5, 6, 7] ∧
    ∃ front last, Layout lex text.toList front last ∧
      tokenize lex text = front.map (·.token) ++ [last.token] ∧
      Segment.Scanned lex 1 (front ++ [last]) ∧
      ∀ before s after, front ++ [last] = before ++ s :: after →
        s.token.line = 1 + (before.flatMap Segment.chars ++ gapText s.gap).count '\n' := by
  intro lex text
  have hlex : '\n' ∉ lex.quotes.toList := by decide
  exact ⟨hlex, by decide +kernel, token_lines_exact lex text hlex⟩

end PageScript
