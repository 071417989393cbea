/-
Cutting text into tokens.

Scanning never fails: an open quote or an open block comment takes in the rest of the text, and
after the last token there is one end token. Each token takes at least one character, which is what
ends the loop of `tokenize`.

The text in front of a token is a *gap*: blanks and complete comments. The token itself is a single
punctuation character, or a run of word characters and quoted parts, in which two quoted parts never
touch. A run that was never left by anything but digits, points and a leading minus sign is a number
if it reads as one.
-/
import PageScript.Token
import PageScript.Token.Lexicon

namespace PageScript

/-- The line after a character that stood on `line`. It fits 32 bits in a text of fewer than `2 ^ 32`
lines, and nothing is said about longer ones. -/
def lineAfter (c : Char) (line : Nat) : Nat :=
  if c = '\n' then line + 1 else line

namespace Lexicon

-- ======== gaps

/-- What is left after a block comment whose opening has been read, and the line reached. An open
comment takes in everything. -/
def afterBlockComment : List Char → Nat → List Char × Nat
  | '*' :: '/' :: rest, line => (rest, line)
  | c :: rest, line => afterBlockComment rest (lineAfter c line)
  | [], line => ([], line)

/-- A block comment only takes characters away. -/
theorem afterBlockComment_length_le (cs : List Char) (line : Nat) :
    (afterBlockComment cs line).1.length ≤ cs.length := by
  fun_induction afterBlockComment cs line with
  | case1 => simp only [List.length_cons]; omega
  | case2 c rest line _ ih => simp only [List.length_cons]; omega
  | case3 => simp

/-- What is left after a line comment: it ends in front of the line end. -/
def afterLineComment (cs : List Char) : List Char :=
  cs.dropWhile (· != '\n')

/-- A line comment only takes characters away. -/
theorem afterLineComment_length_le (cs : List Char) :
    (afterLineComment cs).length ≤ cs.length :=
  (List.dropWhile_sublist _).length_le

/-- A gap that has been read: the blanks in it, what follows it, and the line reached. -/
structure Gap where
  leading : List Char
  rest : List Char
  line : Nat

/-- Reads the blanks and comments in front of a token. -/
def gap (lex : Lexicon) : List Char → Nat → Gap
  | [], line => ⟨[], [], line⟩
  | c :: rest, line =>
    if lex.isBlank c then
      let g := lex.gap rest (lineAfter c line)
      { g with leading := c :: g.leading }
    else
      match c, rest with
      | '/', '/' :: inner =>
        if lex.lineComments then lex.gap (afterLineComment inner) line
        else ⟨[], c :: rest, line⟩
      | '/', '*' :: inner =>
        if lex.blockComments then
          let after := afterBlockComment inner line
          lex.gap after.1 after.2
        else ⟨[], c :: rest, line⟩
      | _, _ => ⟨[], c :: rest, line⟩
  termination_by cs => cs.length
  decreasing_by
  · simp
  · have := afterLineComment_length_le inner
    simp only [List.length_cons]; omega
  · have := afterBlockComment_length_le inner line
    simp only [List.length_cons]; omega

-- ======== lexemes

/-- A stretch of text that has been read: its meaning, its spelling, what follows it, and the line
reached. -/
structure Stretch where
  text : List Char
  raw : List Char
  rest : List Char
  line : Nat

/-- Reads a quoted part whose opening quote `q` has been read, up to and with its closing quote. A
backslash in front of a quote or a backslash makes that character part of the text. -/
def quotedPart (q : Char) : List Char → Nat → Stretch
  | [], line => ⟨[], [], [], line⟩
  | ['\\'], line => ⟨['\\'], ['\\'], [], line⟩
  | '\\' :: c :: rest, line =>
    if c = q ∨ c = '\\' then
      let s := quotedPart q rest line
      { s with text := c :: s.text, raw := '\\' :: c :: s.raw }
    else
      let s := quotedPart q (c :: rest) line
      { s with text := '\\' :: s.text, raw := '\\' :: s.raw }
  | c :: rest, line =>
    if c = q then ⟨[], [c], rest, lineAfter c line⟩
    else
      let s := quotedPart q rest (lineAfter c line)
      { s with text := c :: s.text, raw := c :: s.raw }

/-- A quoted part and what follows it make up the text that was there. -/
theorem quotedPart_raw_append_rest (q : Char) (cs : List Char) (line : Nat) :
    (quotedPart q cs line).raw ++ (quotedPart q cs line).rest = cs := by
  fun_induction quotedPart q cs line with
  | case3 c rest line _ s ih => simpa using ih
  | case4 c rest line _ s ih => simpa using ih
  | case6 c rest line _ _ _ s ih => simpa using ih
  | _ => simp_all

/-- A run of word characters and quoted parts that has been read. -/
structure Lexeme extends Stretch where
  /-- The first quote character in it. -/
  quote : Option Char
  /-- Whether nothing but the characters of a number was read. -/
  numeric : Bool

/-- Reads word characters and quoted parts. `numeric` says that only characters of a number have
been read so far, `atStart` that none have, and `afterQuote` that a quoted part has just ended. -/
def lexeme (lex : Lexicon) (numeric atStart afterQuote : Bool) : List Char → Nat → Lexeme
  | [], line => ⟨⟨[], [], [], line⟩, none, numeric⟩
  | c :: rest, line =>
    if lex.isQuote c then
      if afterQuote then ⟨⟨[], [], c :: rest, line⟩, none, numeric⟩
      else
        let q := quotedPart c rest (lineAfter c line)
        let w := lex.lexeme false false true q.rest q.line
        { w with text := q.text ++ w.text, raw := c :: q.raw ++ w.raw, quote := some c }
    else if numeric && isNumeric atStart c then
      let w := lex.lexeme true false false rest (lineAfter c line)
      { w with text := c :: w.text, raw := c :: w.raw }
    else if lex.isWord c then
      let w := lex.lexeme false false false rest (lineAfter c line)
      { w with text := c :: w.text, raw := c :: w.raw }
    else ⟨⟨[], [], c :: rest, line⟩, none, numeric⟩
  termination_by cs => cs.length
  decreasing_by
  · have h := congrArg List.length (quotedPart_raw_append_rest c rest (lineAfter c line))
    simp only [List.length_append, List.length_cons] at h ⊢; omega
  · simp
  · simp

/-- A lexeme and what follows it make up the text that was there. -/
theorem lexeme_raw_append_rest (lex : Lexicon) (numeric atStart afterQuote : Bool)
    (cs : List Char) (line : Nat) :
    (lex.lexeme numeric atStart afterQuote cs line).raw ++
      (lex.lexeme numeric atStart afterQuote cs line).rest = cs := by
  fun_induction lexeme lex numeric atStart afterQuote cs line with
  | case3 numeric atStart afterQuote c rest line hq ha q w ih =>
    have := quotedPart_raw_append_rest c rest (lineAfter c line)
    simp_all [q, w]
  | case4 numeric atStart afterQuote c rest line _ _ w ih => simpa using ih
  | case5 numeric atStart afterQuote c rest line _ _ _ w ih => simpa using ih
  | _ => simp_all

-- ======== tokens

/-- Whether a character starts a word, a number or a quoted part, and so is no symbol. -/
def opensLexeme (lex : Lexicon) (c : Char) : Bool :=
  lex.isWord c || isNumeric true c || lex.isQuote c

/-- The token that a lexeme is: a number if it reads as one, and otherwise a word. -/
def Lexeme.token (w : Lexeme) (leading : List Char) (line : Nat) : Token :=
  let number := if w.numeric then Number.ofChars? w.text else none
  { kind := if number.isSome then .number else .word
    text := String.ofList w.text
    number, line
    quote := w.quote
    leading := String.ofList leading
    raw := String.ofList w.raw }

/-- A token that has been read, what follows it, and the line reached. -/
structure Scanned where
  token : Token
  rest : List Char
  line : Nat

/-- Reads the next token; at the end of the text it is the end token. -/
def scan (lex : Lexicon) (cs : List Char) (line : Nat) : Scanned :=
  let g := lex.gap cs line
  match g.rest with
  | [] => ⟨{ Token.finish g.line with leading := String.ofList g.leading }, [], g.line⟩
  | c :: rest =>
    if lex.opensLexeme c then
      let w := lex.lexeme true true false (c :: rest) g.line
      ⟨w.token g.leading g.line, w.rest, w.line⟩
    else
      ⟨{ Token.symbol c g.line with leading := String.ofList g.leading }, rest,
        lineAfter c g.line⟩

-- ======== each token takes some

/-- A gap only takes characters away. -/
theorem gap_rest_length_le (lex : Lexicon) (cs : List Char) (line : Nat) :
    (lex.gap cs line).rest.length ≤ cs.length := by
  fun_induction gap lex cs line with
  | case1 => simp
  | case2 c rest line h g ih =>
    have : g.rest.length ≤ rest.length := ih
    simp only [List.length_cons]; omega
  | case3 line inner _ _ ih =>
    have := afterLineComment_length_le inner
    simp only [List.length_cons]; omega
  | case5 line inner _ after _ ih =>
    have : after.1.length ≤ inner.length := afterBlockComment_length_le inner line
    simp only [List.length_cons]; omega
  | _ => simp

/-- A lexeme that is opened takes at least one character. -/
theorem lexeme_rest_length_lt (lex : Lexicon) {c : Char} (h : lex.opensLexeme c)
    (rest : List Char) (line : Nat) :
    (lex.lexeme true true false (c :: rest) line).rest.length < (c :: rest).length := by
  have split := congrArg List.length
    (lexeme_raw_append_rest lex true true false (c :: rest) line)
  have taken : (lex.lexeme true true false (c :: rest) line).raw ≠ [] := by
    rw [lexeme]
    simp only [opensLexeme, Bool.or_eq_true] at h
    split
    · simp
    · split
      · simp
      · split
        · simp
        · simp_all
  have : 0 < (lex.lexeme true true false (c :: rest) line).raw.length :=
    List.length_pos_iff.2 taken
  simp only [List.length_append] at split
  omega

/-- Every token but the end token takes at least one character. -/
theorem scan_rest_length_lt (lex : Lexicon) (cs : List Char) (line : Nat)
    (h : (lex.scan cs line).token.isFinish = false) :
    (lex.scan cs line).rest.length < cs.length := by
  have hg := lex.gap_rest_length_le cs line
  unfold scan at h ⊢
  dsimp only at h ⊢
  split
  · next hr => simp [hr, Token.isFinish, Token.finish] at h
  · next c rest hr =>
    rw [hr] at hg
    split
    · next ho =>
      exact Nat.lt_of_lt_of_le (lex.lexeme_rest_length_lt ho rest (lex.gap cs line).line) hg
    · simp only [List.length_cons] at hg
      exact hg

/-- Scanning only takes characters away. -/
theorem scan_rest_length_le (lex : Lexicon) (cs : List Char) (line : Nat) :
    (lex.scan cs line).rest.length ≤ cs.length := by
  have hg := lex.gap_rest_length_le cs line
  unfold scan
  dsimp only
  split
  · simp
  · next c rest hr =>
    rw [hr] at hg
    split
    · next ho =>
      exact Nat.le_of_lt
        (Nat.lt_of_lt_of_le (lex.lexeme_rest_length_lt ho rest (lex.gap cs line).line) hg)
    · simp only [List.length_cons] at hg
      exact Nat.le_of_lt hg

end Lexicon

-- ======== scanner

/-- A scanner over a text: what has not been read yet, the line reached, and the token that has been
looked at ahead of its turn. -/
structure Scanner where
  lexicon : Lexicon
  rest : List Char
  line : Nat := 1
  ahead : Option Token := none

namespace Scanner

/-- A scanner at the start of a text. -/
def ofText (lexicon : Lexicon) (text : String) : Scanner :=
  { lexicon, rest := text.toList }

/-- The next token, and the scanner after it. -/
def next (s : Scanner) : Token × Scanner :=
  match s.ahead with
  | some token => (token, { s with ahead := none })
  | none =>
    let r := s.lexicon.scan s.rest s.line
    (r.token, { s with rest := r.rest, line := r.line })

/-- The next token, left to be read again. -/
def peek (s : Scanner) : Token × Scanner :=
  let (token, s) := s.next
  (token, { s with ahead := some token })

/-- A bound on the tokens still to come before the end token. -/
def size (s : Scanner) : Nat :=
  s.rest.length + (if s.ahead.any (!·.isFinish) then 1 else 0)

/-- Reading a token other than the end token brings the end nearer. -/
theorem size_next_lt (s : Scanner) (h : s.next.1.isFinish = false) : s.next.2.size < s.size := by
  unfold next at h ⊢
  split
  · next token ha => simp_all [size]
  · next ha =>
    simp only [ha] at h
    have := s.lexicon.scan_rest_length_lt s.rest s.line h
    simpa [size, ha] using this

/-- Reading never takes the end away. -/
theorem size_next_le (s : Scanner) : s.next.2.size ≤ s.size := by
  unfold next
  split
  · simp [size]
  · next ha =>
    have := s.lexicon.scan_rest_length_le s.rest s.line
    simpa [size, ha] using this

/-- Reads all tokens that are left, the end token last. -/
def drain (s : Scanner) : List Token :=
  match h : s.next with
  | (token, after) =>
    if hf : token.isFinish then [token]
    else
      have : after.size < s.size := by
        have := s.size_next_lt (by simpa [h] using hf)
        simpa [h] using this
      token :: after.drain
  termination_by s.size

end Scanner

/-- The tokens of a text, the end token last. -/
def tokenize (lexicon : Lexicon) (text : String) : List Token :=
  (Scanner.ofText lexicon text).drain

end PageScript
