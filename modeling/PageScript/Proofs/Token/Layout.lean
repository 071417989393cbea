/-
Nothing is lost in scanning, and nothing comes twice.

A text is made of segments: a gap, then the token behind it, and so on to the end token, which has no
text of its own. A gap is made of fillers, which are blanks and complete comments. Where a comment is
complete depends on what follows it: a line comment ends in front of the next line end, a block comment
with the first star and slash behind its opening, and either may be ended by the text instead.

Blanks are kept in front of the token, and comments are not. So the tokens, each with its blanks, spell
the text with the comments taken out. All this holds for any choice of the character classes; that they
may overlap decides only which segments there are.
-/
import Mathlib.Data.List.Basic
import Mathlib.Data.List.TakeWhile
import PageScript.Proofs.Statement.Pending

namespace PageScript

-- ======== fillers

/-- What a gap is made of: blanks and comments. -/
inductive Filler where
  | blank (c : Char)
  /-- Two slashes, and what stands behind them on the line. -/
  | lineComment (inner : List Char)
  /-- What stands between its opening and its end. -/
  | blockComment (inner : List Char)
  /-- A block comment that the text ends before it is closed. -/
  | openComment (inner : List Char)

namespace Filler

/-- A filler as it stands in the text. -/
def chars : Filler → List Char
  | .blank c => [c]
  | .lineComment inner => '/' :: '/' :: inner
  | .blockComment inner => '/' :: '*' :: inner ++ ['*', '/']
  | .openComment inner => '/' :: '*' :: inner

/-- Whether a filler is a comment. -/
def isComment : Filler → Bool
  | .blank _ => false
  | _ => true

/-- Whether a filler is one where `behind` is what follows it, up to the end of the text: a blank is
of the class of blanks, and a comment is of a kind that is known and ends where it has to. -/
def Fits (lex : Lexicon) (behind : List Char) : Filler → Prop
  | .blank c => lex.isBlank c = true
  | .lineComment inner =>
    lex.lineComments = true ∧ '\n' ∉ inner ∧ (behind = [] ∨ ∃ rest, behind = '\n' :: rest)
  | .blockComment inner => lex.blockComments = true ∧ ¬['*', '/'] <:+: inner
  | .openComment inner => lex.blockComments = true ∧ ¬['*', '/'] <:+: inner ∧ behind = []

end Filler

/-- The text of a gap. -/
def gapText (gap : List Filler) : List Char :=
  gap.flatMap Filler.chars

theorem gapText_cons (filler : Filler) (gap : List Filler) :
    gapText (filler :: gap) = filler.chars ++ gapText gap := rfl

/-- The text of a gap with the comments deleted. -/
def gapBlanks (gap : List Filler) : List Char :=
  gapText (gap.filter (!·.isComment))

/-- Each filler of a gap fits where it stands. -/
def GapFits (lex : Lexicon) : List Filler → List Char → Prop
  | [], _ => True
  | filler :: gap, behind => filler.Fits lex (gapText gap ++ behind) ∧ GapFits lex gap behind

-- ======== gaps

namespace Lexicon

/-- A line comment goes up to the line end or the end of the text. -/
theorem lineComment_fits {lex : Lexicon} (hlex : lex.lineComments = true) (cs : List Char) :
    ∃ comment : Filler, comment.isComment = true ∧
      '/' :: '/' :: cs = comment.chars ++ afterLineComment cs ∧
      comment.Fits lex (afterLineComment cs) := by
  refine ⟨.lineComment (cs.takeWhile (· != '\n')), rfl, ?_, hlex, ?_, ?_⟩
  · simp [Filler.chars, afterLineComment]
  · intro hmem
    simpa using List.mem_takeWhile_imp hmem
  · rw [afterLineComment]
    cases hrest : cs.dropWhile (· != '\n') with
    | nil => exact .inl rfl
    | cons c rest =>
      have hc := List.head_dropWhile_not (p := (· != '\n')) (l := cs) (by simp [hrest])
      simp only [hrest, List.head_cons] at hc
      simp only [bne_eq_false_iff_eq] at hc
      exact .inr ⟨rest, by rw [hc]⟩

/-- A block comment goes up to the first end that it has, or else to the end of the text. -/
theorem blockComment_fits {lex : Lexicon} (hlex : lex.blockComments = true) (cs : List Char)
    (line : Nat) :
    ∃ comment : Filler, comment.isComment = true ∧
      '/' :: '*' :: cs = comment.chars ++ (afterBlockComment cs line).1 ∧
      comment.Fits lex (afterBlockComment cs line).1 := by
  -- the end that is found is the first, since no earlier place is one
  have hfirst : ∃ inner, ¬['*', '/'] <:+: inner ∧
      (cs = inner ++ '*' :: '/' :: (afterBlockComment cs line).1 ∨
        cs = inner ∧ (afterBlockComment cs line).1 = []) := by
    fun_induction afterBlockComment cs line with
    | case1 rest line => exact ⟨[], by simp, .inl rfl⟩
    | case2 c rest line hstart ih =>
      obtain ⟨inner, hinner, hrest⟩ := ih
      refine ⟨c :: inner, ?_, ?_⟩
      · rw [List.infix_cons_iff]
        rintro (⟨more, hmore⟩ | hmore)
        · obtain ⟨hstar, hslash⟩ := List.cons.inj hmore
          rcases hrest with hrest | ⟨hrest, -⟩
          · exact hstart _ hstar.symm (hrest.trans (by rw [← hslash]; rfl))
          · exact hstart _ hstar.symm (hrest.trans hslash.symm)
        · exact hinner hmore
      · rcases hrest with hrest | ⟨hrest, hnil⟩
        · exact .inl (congrArg (c :: ·) hrest)
        · exact .inr ⟨congrArg (c :: ·) hrest, hnil⟩
    | case3 line => exact ⟨[], by simp, .inr ⟨rfl, rfl⟩⟩
  obtain ⟨inner, hinner, hcs | ⟨hcs, hnil⟩⟩ := hfirst
  · refine ⟨.blockComment inner, rfl, ?_, hlex, hinner⟩
    simpa [Filler.chars] using hcs
  · refine ⟨.openComment inner, rfl, ?_, hlex, hinner, hnil⟩
    simpa [Filler.chars, hnil] using hcs

/-- What is read in front of a token is a gap, and its blanks are what is kept of it. -/
theorem gap_fits (lex : Lexicon) (cs : List Char) (line : Nat) :
    ∃ gap, cs = gapText gap ++ (lex.gap cs line).rest ∧
      (lex.gap cs line).leading = gapBlanks gap ∧ GapFits lex gap (lex.gap cs line).rest := by
  -- a comment in front of a gap makes it longer, and adds nothing to its blanks
  have hcomment : ∀ {cs after : List Char} {g : Gap} {comment : Filler}, comment.isComment = true →
      cs = comment.chars ++ after → comment.Fits lex after →
      (∃ gap, after = gapText gap ++ g.rest ∧ g.leading = gapBlanks gap ∧ GapFits lex gap g.rest) →
      ∃ gap, cs = gapText gap ++ g.rest ∧ g.leading = gapBlanks gap ∧ GapFits lex gap g.rest := by
    rintro cs after g comment hkind hcs hends ⟨gap, htext, hblanks, hfits⟩
    refine ⟨comment :: gap, ?_, ?_, htext ▸ hends, hfits⟩
    · rw [gapText_cons, List.append_assoc, ← htext, hcs]
    · rw [hblanks, gapBlanks, gapBlanks, List.filter_cons_of_neg (by simp [hkind])]
  fun_induction Lexicon.gap lex cs line with
  | case2 c rest line hblank g ih =>
    obtain ⟨gap, htext, hblanks, hfits⟩ := ih
    refine ⟨.blank c :: gap, ?_, ?_, hblank, hfits⟩
    · exact congrArg (c :: ·) htext
    · exact congrArg (c :: ·) hblanks
  | case3 line inner hlex _ ih =>
    obtain ⟨comment, hkind, hchars, hends⟩ := lineComment_fits hlex inner
    exact hcomment hkind hchars hends ih
  | case5 line inner hlex after _ ih =>
    obtain ⟨comment, hkind, hchars, hends⟩ := blockComment_fits hlex inner line
    exact hcomment hkind hchars hends ih
  | _ => exact ⟨[], rfl, rfl, trivial⟩

end Lexicon

-- ======== segments

/-- A stretch of a text: a token, and the gap in front of it. -/
structure Segment where
  gap : List Filler
  token : Token

namespace Segment

/-- A segment as it stands in the text. -/
def chars (s : Segment) : List Char :=
  gapText s.gap ++ s.token.raw.toList

/-- A segment with its comments taken out. -/
def uncommented (s : Segment) : List Char :=
  gapBlanks s.gap ++ s.token.raw.toList

/-- The gaps of segments fit where they stand, the last segment being at the end of the text. -/
def Fit (lex : Lexicon) : List Segment → Prop
  | [] => True
  | s :: rest => GapFits lex s.gap (s.token.raw.toList ++ rest.flatMap chars) ∧ Fit lex rest

/-- Segments are scanned one after the other, each where the one in front of it has ended and from the
line that was reached there. -/
def Scanned (lex : Lexicon) : Nat → List Segment → Prop
  | _, [] => True
  | line, s :: rest =>
    ∃ line', lex.scan ((s :: rest).flatMap chars) line = ⟨s.token, rest.flatMap chars, line'⟩ ∧
      Scanned lex line' rest

end Segment

/-- A text is made of segments: those of its tokens, and then one with nothing but a gap and the end
token. The blanks of each gap are kept with the token behind it. -/
structure Layout (lex : Lexicon) (text : List Char) (front : List Segment) (last : Segment) :
    Prop where
  text_eq : text = front.flatMap Segment.chars ++ gapText last.gap
  fit : Segment.Fit lex (front ++ [last])
  leading_eq : ∀ s ∈ front ++ [last], s.token.leading.toList = gapBlanks s.gap
  token : ∀ s ∈ front, s.token.isFinish = false ∧ s.token.raw ≠ ""
  finish : last.token.isFinish = true ∧ last.token.raw = ""

namespace Layout

variable {lex : Lexicon} {text : List Char} {front : List Segment} {last : Segment}

/-- The last segment has no text but its gap. -/
theorem chars_eq (h : Layout lex text front last) :
    (front ++ [last]).flatMap Segment.chars = text := by
  rw [h.text_eq, List.flatMap_append]
  simp [Segment.chars, h.finish.2]

/-- One more segment in front. -/
theorem cons (h : Layout lex text front last) {s : Segment}
    (hfits : GapFits lex s.gap (s.token.raw.toList ++ text))
    (hleading : s.token.leading.toList = gapBlanks s.gap)
    (htoken : s.token.isFinish = false ∧ s.token.raw ≠ "") :
    Layout lex (s.chars ++ text) (s :: front) last where
  text_eq := by rw [h.text_eq, List.flatMap_cons, List.append_assoc]
  fit := ⟨h.chars_eq.symm ▸ hfits, h.fit⟩
  leading_eq := List.forall_mem_cons.2 ⟨hleading, h.leading_eq⟩
  token := List.forall_mem_cons.2 ⟨htoken, h.token⟩
  finish := h.finish

/-- The tokens, each with the blanks in front of it, spell the text without its comments. -/
theorem spelling (h : Layout lex text front last) :
    (front ++ [last]).flatMap (fun s => s.token.leading.toList ++ s.token.raw.toList) =
      (front ++ [last]).flatMap Segment.uncommented := by
  refine List.flatMap_congr fun s hs => ?_
  rw [h.leading_eq s hs, Segment.uncommented]

end Layout

-- ======== scanning

namespace Lexicon

/-- What is read of a text is a segment, and it is not empty unless the text is at its end. -/
theorem scan_segment (lex : Lexicon) (cs : List Char) (line : Nat) :
    ∃ gap, cs = gapText gap ++ ((lex.scan cs line).token.raw.toList ++ (lex.scan cs line).rest) ∧
      (lex.scan cs line).token.leading.toList = gapBlanks gap ∧
      GapFits lex gap ((lex.scan cs line).token.raw.toList ++ (lex.scan cs line).rest) ∧
      ((lex.scan cs line).token.raw = "" ↔ (lex.scan cs line).token.isFinish = true) := by
  obtain ⟨gap, htext, hblanks, hfits⟩ := lex.gap_fits cs line
  refine ⟨gap, ?_⟩
  unfold scan
  dsimp only
  split
  · next hrest =>
    rw [hrest] at htext hfits
    refine ⟨?_, ?_, ?_, ?_⟩
    · simpa [Token.finish] using htext
    · simpa [Token.finish] using hblanks
    · simpa [Token.finish] using hfits
    · simp [Token.finish, Token.isFinish]
  · next c rest hrest =>
    rw [hrest] at htext hfits
    split
    · next hopens =>
      have hraw := lex.lexeme_raw_append_rest true true false (c :: rest) (lex.gap cs line).line
      have hlt := lex.lexeme_rest_length_lt hopens rest (lex.gap cs line).line
      generalize lex.lexeme true true false (c :: rest) (lex.gap cs line).line = w at hraw hlt ⊢
      have htaken : w.raw ≠ [] := by
        intro hnil
        rw [hnil, List.nil_append] at hraw
        rw [hraw] at hlt
        exact Nat.lt_irrefl _ hlt
      rw [← hraw] at htext hfits
      rw [Lexeme.isFinish_token]
      simpa [Lexeme.token, htaken] using ⟨htext, hblanks, hfits⟩
    · simpa [Token.symbol, Token.isFinish] using ⟨htext, hblanks, hfits⟩

end Lexicon

/-- The tokens that a scanner delivers are those of a layout of its text. The induction is on what is
left of the text, of which each token takes some. -/
theorem Scanner.drain_layout {s : Scanner} (hahead : s.ahead = none) :
    ∃ front last, Layout s.lexicon s.rest front last ∧
      s.drain = front.map (·.token) ++ [last.token] ∧
      Segment.Scanned s.lexicon s.line (front ++ [last]) := by
  induction hsize : s.size using Nat.strongRecOn generalizing s with
  | ind n ih =>
    subst hsize
    obtain ⟨gap, htext, hleading, hfits, hraw⟩ := s.lexicon.scan_segment s.rest s.line
    have hscan : s.lexicon.scan s.rest s.line = ⟨s.next.1, s.next.2.rest, s.next.2.line⟩ := by
      rw [next, hahead]
    have hnext : s.next.1 = (s.lexicon.scan s.rest s.line).token := by rw [hscan]
    have hrest : s.next.2.rest = (s.lexicon.scan s.rest s.line).rest := by rw [hscan]
    have hlexicon : s.next.2.lexicon = s.lexicon := by rw [next, hahead]
    rw [← hnext, ← hrest] at htext hfits
    rw [← hnext] at hleading hraw
    rw [drain_eq]
    cases hfinish : s.next.1.isFinish with
    | true =>
      have hend : s.next.2.rest = [] := by
        rw [hrest]
        exact (s.lexicon.scan_of_finish _ _ (hnext ▸ hfinish)).1
      rw [hend, hraw.2 hfinish] at htext hfits
      rw [hend] at hscan
      refine ⟨[], ⟨gap, s.next.1⟩, ⟨?_, ?_, ?_, ?_, hfinish, hraw.2 hfinish⟩, rfl,
        s.next.2.line, ?_, trivial⟩
      · simpa using htext
      · exact ⟨by simpa [hraw.2 hfinish] using hfits, trivial⟩
      · simpa using hleading
      · exact fun _ hmem => absurd hmem List.not_mem_nil
      · rw [List.flatMap_cons, Segment.chars, hraw.2 hfinish]
        simpa [htext] using hscan
    | false =>
      obtain ⟨front, last, hlayout, hdrain, hscanned⟩ :=
        ih _ (s.size_next_lt hfinish) s.ahead_next rfl
      rw [hlexicon] at hlayout hscanned
      have hcons := hlayout.cons (s := ⟨gap, s.next.1⟩) hfits hleading
        ⟨hfinish, fun hempty => by simp [hraw.1 hempty] at hfinish⟩
      have htext : s.rest = Segment.chars ⟨gap, s.next.1⟩ ++ s.next.2.rest := by
        rw [htext, ← List.append_assoc]
        rfl
      refine ⟨⟨gap, s.next.1⟩ :: front, last, ?_, ?_, s.next.2.line, ?_, hscanned⟩
      · rw [htext]
        exact hcons
      · simp [hdrain]
      · show s.lexicon.scan ((_ :: (front ++ [last])).flatMap Segment.chars) s.line =
          ⟨_, (front ++ [last]).flatMap Segment.chars, _⟩
        rw [List.flatMap_cons, hlayout.chars_eq, ← htext, hscan]

/-- Scanning loses nothing and gives nothing twice. With the end token last, and nowhere else, the tokens
are those of a layout of the text: they stand in it one after the other, with gaps between them that
are made of blanks and complete comments, and the blanks of each gap are kept with the token behind
it. So the tokens with their blanks spell the text without its comments. -/
theorem scanning_loses_nothing (lex : Lexicon) (text : String) :
    ∃ front last, Layout lex text.toList front last ∧
      tokenize lex text = front.map (·.token) ++ [last.token] ∧
      (tokenize lex text).flatMap (fun t => t.leading.toList ++ t.raw.toList) =
        (front ++ [last]).flatMap Segment.uncommented := by
  obtain ⟨front, last, hlayout, htokens, -⟩ := Scanner.drain_layout (s := .ofText lex text) rfl
  refine ⟨front, last, hlayout, htokens, ?_⟩
  rw [tokenize, htokens, ← hlayout.spelling]
  simp [List.flatMap_map]

end PageScript
