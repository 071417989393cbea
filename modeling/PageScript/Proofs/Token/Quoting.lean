/-
Quoting: any text can be written as a quoted word, and is read back as it was.

A text is quoted by putting a backslash in front of each backslash and each quote in it, and a quote at
either end. The other quote character, line ends and what would open a comment outside need nothing.
Quoted words with a blank between each two are read as those words: two quoted parts in one word never
touch, so the blank is what ends a word behind its quote.
-/
import PageScript.Text.Split
import PageScript.Proofs.Statement.Pending

namespace PageScript

-- ======== writing

/-- The way a character is written between the quotes `q`. -/
def escapedChar (q c : Char) : List Char :=
  if c = q ∨ c = '\\' then ['\\', c] else [c]

/-- A text between the quotes `q`. -/
def quoteWith (q : Char) (s : String) : List Char :=
  q :: s.toList.flatMap (escapedChar q) ++ [q]

theorem quoteWith_append (q : Char) (s : String) (rest : List Char) :
    quoteWith q s ++ rest = q :: (s.toList.flatMap (escapedChar q) ++ q :: rest) := by
  simp [quoteWith]

/-- Texts, each with the quotes it takes, with a blank between each two. -/
def quotedLine (items : List (Char × String)) : List Char :=
  Text.joinWith ' ' (items.map fun item => quoteWith item.1 item.2)

/-- Behind a quoted word of a line stands a blank, or nothing if it is the last. -/
theorem quotedLine_cons (item : Char × String) (items : List (Char × String)) :
    ∃ blanks : List Char, (∀ c ∈ blanks, ({} : Lexicon).isBlank c = true) ∧
      (blanks ++ quotedLine items = [] ∨ ∃ more, blanks ++ quotedLine items = ' ' :: more) ∧
      quotedLine (item :: items) = quoteWith item.1 item.2 ++ (blanks ++ quotedLine items) := by
  cases items with
  | nil => exact ⟨[], nofun, .inl rfl, by simp [quotedLine, Text.joinWith]⟩
  | cons second items =>
    refine ⟨[' '], fun c hc => ?_, .inr ⟨_, rfl⟩, rfl⟩
    rw [List.mem_singleton.1 hc]
    rfl

/-- What a token means, wherever it stands and however it is spelled. -/
def Token.reading (t : Token) : TokenKind × String × Option Char × Option Float :=
  (t.kind, t.text, t.quote, t.number)

theorem Token.isFinish_eq_reading (t : Token) : t.isFinish = decide (t.reading.1 = .finish) := rfl

-- ======== reading

namespace Lexicon

/-- Reading undoes quoting, whatever follows the closing quote. -/
theorem quotedPart_escaped {q : Char} (hq : q ≠ '\\') (s rest : List Char) (line : Nat) :
    (quotedPart q (s.flatMap (escapedChar q) ++ q :: rest) line).text = s ∧
      (quotedPart q (s.flatMap (escapedChar q) ++ q :: rest) line).rest = rest := by
  induction s generalizing line with
  | nil => simp [quotedPart, hq]
  | cons c s ih =>
    rw [List.flatMap_cons, escapedChar]
    by_cases hc : c = q ∨ c = '\\'
    · simpa [quotedPart, hc] using ih line
    · obtain ⟨hquote, hslash⟩ := not_or.1 hc
      simpa [quotedPart, hquote, hslash] using ih (lineAfter c line)

/-- Where nothing stands in front of a token but blanks, these are the gap. -/
theorem gap_rest_of_blanks {lex : Lexicon} {blanks cs : List Char}
    (hblanks : ∀ c ∈ blanks, lex.isBlank c = true) (hcs : ∀ line, (lex.gap cs line).rest = cs)
    (line : Nat) : (lex.gap (blanks ++ cs) line).rest = cs := by
  induction blanks generalizing line with
  | nil => exact hcs line
  | cons c blanks ih =>
    obtain ⟨hc, hblanks⟩ := List.forall_mem_cons.1 hblanks
    rw [List.cons_append, gap.eq_def]
    dsimp only
    rw [if_pos hc]
    exact ih hblanks (lineAfter c line)

/-- Behind a gap up to the end of the text stands the end token. -/
theorem scan_of_gap_nil {lex : Lexicon} {cs : List Char} {line : Nat}
    (h : (lex.gap cs line).rest = []) :
    (lex.scan cs line).token.reading = (.finish, "", none, none) := by
  unfold scan
  dsimp only
  rw [h]
  rfl

/-- The two quote characters that are known by default. -/
theorem isQuote_default {q : Char} :
    ({} : Lexicon).isQuote q = true ↔ q = '"' ∨ q = '\'' := by
  simp [isQuote]

variable {q : Char} (hq : ({} : Lexicon).isQuote q = true)

include hq

theorem gap_quote (cs : List Char) (line : Nat) :
    (({} : Lexicon).gap (q :: cs) line).rest = q :: cs := by
  rcases isQuote_default.1 hq with rfl | rfl <;> simp [gap, isBlank]

/-- A quoted word is read up to the blank behind it. -/
theorem lexeme_quoteWith (s : String) {rest : List Char} (hrest : rest = [] ∨ ∃ more, rest = ' ' :: more)
    (line : Nat) :
    let w := ({} : Lexicon).lexeme true true false (quoteWith q s ++ rest) line
    w.text = s.toList ∧ w.rest = rest ∧ w.quote = some q ∧ w.numeric = false := by
  have hslash : q ≠ '\\' := by
    rcases isQuote_default.1 hq with rfl | rfl <;> decide
  obtain ⟨htext, hafter⟩ := quotedPart_escaped hslash s.toList rest (lineAfter q line)
  have hstop : ∀ line, ({} : Lexicon).lexeme false false true rest line =
      ⟨⟨[], [], rest, line⟩, none, false⟩ := by
    rcases hrest with rfl | ⟨more, rfl⟩ <;> intro line <;> simp [lexeme, isQuote, isWord]
  rw [quoteWith_append, lexeme, if_pos hq, if_neg (by simp)]
  simp [htext, hafter, hstop]

/-- A quoted word is read as the text that it quotes. -/
theorem scan_quoteWith {blanks : List Char} (hblanks : ∀ c ∈ blanks, ({} : Lexicon).isBlank c = true)
    (s : String) {rest : List Char} (hrest : rest = [] ∨ ∃ more, rest = ' ' :: more) (line : Nat) :
    let r := ({} : Lexicon).scan (blanks ++ (quoteWith q s ++ rest)) line
    r.token.reading = (.word, s, some q, none) ∧ r.rest = rest := by
  have hgap : (({} : Lexicon).gap (blanks ++ (quoteWith q s ++ rest)) line).rest =
      quoteWith q s ++ rest :=
    gap_rest_of_blanks hblanks (gap_quote hq _) line
  have hopens : ({} : Lexicon).opensLexeme q = true := by simp [opensLexeme, hq]
  unfold scan
  generalize ({} : Lexicon).gap (blanks ++ (quoteWith q s ++ rest)) line = g at hgap ⊢
  obtain ⟨htext, hafter, hquote, hnumeric⟩ := lexeme_quoteWith hq s hrest g.line
  rw [quoteWith_append] at hgap htext hafter hquote hnumeric
  simp [hgap, hopens, Lexeme.token, Token.reading, htext, hafter, hquote, hnumeric]

end Lexicon

/-- Quoted words are read one by one, the blank that separates two of them being the gap in front of the
second. -/
theorem Scanner.drain_quotedLine {items : List (Char × String)}
    (hitems : ∀ item ∈ items, ({} : Lexicon).isQuote item.1 = true) {blanks : List Char}
    (hblanks : ∀ c ∈ blanks, ({} : Lexicon).isBlank c = true) (line : Nat) :
    (Scanner.drain ⟨{}, blanks ++ quotedLine items, line, none⟩).map Token.reading =
      items.map (fun item => (.word, item.2, some item.1, none)) ++ [(.finish, "", none, none)] := by
  induction items generalizing blanks line with
  | nil =>
    have hgap : (({} : Lexicon).gap (blanks ++ []) line).rest = [] :=
      Lexicon.gap_rest_of_blanks hblanks (fun line => by rw [Lexicon.gap.eq_def]) line
    have hread := Lexicon.scan_of_gap_nil hgap
    have hfinish : (Scanner.next ⟨{}, blanks ++ [], line, none⟩).1.isFinish = true := by
      rw [Token.isFinish_eq_reading]
      exact congrArg (fun reading => decide (reading.1 = .finish)) hread
    rw [show quotedLine [] = [] from rfl, drain_eq, if_pos hfinish]
    exact congrArg ([·]) hread
  | cons item items ih =>
    obtain ⟨hquote, hitems⟩ := List.forall_mem_cons.1 hitems
    obtain ⟨between, hbetween, hstart, hline⟩ := quotedLine_cons item items
    obtain ⟨hread, hrest⟩ := Lexicon.scan_quoteWith hquote hblanks item.2 hstart line
    rw [← hline] at hread hrest
    have hmore : (Scanner.next ⟨{}, blanks ++ quotedLine (item :: items), line, none⟩).1.isFinish =
        false := by
      rw [Token.isFinish_eq_reading]
      exact congrArg (fun reading => decide (reading.1 = .finish)) hread
    rw [drain_eq, if_neg (by simp [hmore]), List.map_cons, List.map_cons, List.cons_append]
    refine List.cons_eq_cons.2 ⟨hread, ?_⟩
    rw [next]
    dsimp only
    rw [hrest]
    exact ih hitems hbetween _

/-- Quoting can be undone: whatever the texts are, and whichever of the quotes each of them takes, the line
of the quoted texts is read as one word for each text, quoted and never a number, and then the end. -/
theorem quoted_line_read_back (items : List (Char × String))
    (hitems : ∀ item ∈ items, ({} : Lexicon).isQuote item.1 = true) :
    (tokenize {} (String.ofList (quotedLine items))).map Token.reading =
      items.map (fun item => (.word, item.2, some item.1, none)) ++ [(.finish, "", none, none)] := by
  have hnone : ∀ c ∈ ([] : List Char), ({} : Lexicon).isBlank c = true := nofun
  rw [tokenize, Scanner.ofText, String.toList_ofList]
  exact Scanner.drain_quotedLine hitems hnone 1

/-- Backslashes at the end and in front of quotes, the other quote, a line end, what opens a comment, digits,
and nothing at all. -/
theorem quoted_line_read_back_mixed :
    (tokenize {} (String.ofList (quotedLine
        [('"', "a\\\"'\\\\"), ('\'', "/* 'it' \n// \" "), ('"', ""), ('\'', "42")]))).map Token.reading =
      [(.word, "a\\\"'\\\\", some '"', none), (.word, "/* 'it' \n// \" ", some '\'', none),
        (.word, "", some '"', none), (.word, "42", some '\'', none), (.finish, "", none, none)] :=
  quoted_line_read_back _ (by decide)

end PageScript
