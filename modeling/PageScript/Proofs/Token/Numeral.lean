/-
Which tokens are numbers.

A run of characters can be a number for as long as each character is one that a number has at its place:
a digit or a point, or a minus sign at the start. Nothing makes up for another character, and a quoted
part is as bad. A run that holds out is then read as a number, which fails if it has two points or no
digit. So from the way in which a bare token is written it can be seen whether it is a number: it is one
just if it is a numeral, in whatever way the characters are classed.
-/
import Mathlib.Data.List.TakeWhile
import PageScript.Proofs.Statement.Pending
import PageScript.Proofs.Token.WellFormed

namespace PageScript

-- ======== numerals

/-- A text without its minus sign. -/
def withoutMinus : List Char → List Char
  | '-' :: body => body
  | body => body

/-- The characters of a number behind its sign. -/
def isDecimal (c : Char) : Bool :=
  c.isDigit || c = '.'

/-- A numeral: behind an optional minus sign stand digits, with at most one point anywhere among them, and
there is at least one digit. -/
def IsNumeral (cs : List Char) : Prop :=
  (∀ c ∈ withoutMinus cs, isDecimal c = true) ∧ (withoutMinus cs).count '.' ≤ 1 ∧
    ∃ c ∈ withoutMinus cs, c.isDigit = true

instance : DecidablePred IsNumeral :=
  fun _ => inferInstanceAs (Decidable (_ ∧ _ ∧ _))

-- ======== reading

namespace Number

/-- Behind the digits at the start of digits and points comes a point, or nothing. -/
theorem dropWhile_digits {cs : List Char} (h : ∀ c ∈ cs, isDecimal c = true) :
    cs.dropWhile Char.isDigit = [] ∨
      ∃ after, cs.dropWhile Char.isDigit = '.' :: after ∧ ∀ c ∈ after, isDecimal c = true := by
  cases hrest : cs.dropWhile Char.isDigit with
  | nil => exact .inl rfl
  | cons c after =>
    have hmem : ∀ d ∈ c :: after, isDecimal d = true := fun d hd =>
      h d ((List.dropWhile_sublist _).subset (hrest ▸ hd))
    have hc := List.head_dropWhile_not (p := Char.isDigit) (l := cs) (by simp [hrest])
    simp only [hrest, List.head_cons] at hc
    have hpoint : c = '.' := by simpa [isDecimal, hc] using hmem c List.mem_cons_self
    exact .inr ⟨after, by rw [hpoint], fun d hd => hmem d (List.mem_cons_of_mem _ hd)⟩

/-- The digits at the start hold no point, and one of them is as good as any. -/
theorem takeWhile_digits (cs : List Char) :
    cs.count '.' = (cs.dropWhile Char.isDigit).count '.' ∧
      ((∃ c ∈ cs, c.isDigit = true) ↔
        cs.takeWhile Char.isDigit ≠ [] ∨ ∃ c ∈ cs.dropWhile Char.isDigit, c.isDigit = true) := by
  have hdigits : ∀ c ∈ cs.takeWhile Char.isDigit, c.isDigit = true := fun c => List.mem_takeWhile_imp
  have hcount : (cs.takeWhile Char.isDigit).count '.' = 0 :=
    List.count_eq_zero.2 fun hmem => absurd (hdigits _ hmem) (by decide)
  have hdigit : (∃ c ∈ cs.takeWhile Char.isDigit, c.isDigit = true) ↔
      cs.takeWhile Char.isDigit ≠ [] := by
    constructor
    · rintro ⟨c, hc, -⟩
      exact List.ne_nil_of_mem hc
    · intro hne
      obtain ⟨c, hc⟩ := List.exists_mem_of_ne_nil _ hne
      exact ⟨c, hc, hdigits c hc⟩
  rw [← hdigit]
  constructor
  · calc cs.count '.' = (cs.takeWhile Char.isDigit ++ cs.dropWhile Char.isDigit).count '.' := by
          rw [List.takeWhile_append_dropWhile]
      _ = (cs.dropWhile Char.isDigit).count '.' := by rw [List.count_append, hcount, Nat.zero_add]
  · simp only [← exists_or, ← or_and_right, ← List.mem_append, List.takeWhile_append_dropWhile]

/-- Digits and points are read as a number just if there is at most one point and at least one digit. -/
theorem unsigned?_isSome_iff {cs : List Char} (h : ∀ c ∈ cs, isDecimal c = true) (negative : Bool) :
    (unsigned? negative cs).isSome = true ↔ cs.count '.' ≤ 1 ∧ ∃ c ∈ cs, c.isDigit = true := by
  obtain ⟨hcount, hdigit⟩ := takeWhile_digits cs
  unfold unsigned?
  dsimp only
  rw [hcount, hdigit]
  obtain hrest | ⟨after, hrest, hafter⟩ := dropWhile_digits h
  · -- no point at all
    rw [hrest]
    by_cases hunits : cs.takeWhile Char.isDigit = [] <;> simp [hunits, exponentValue?]
  · obtain ⟨hcount, hdigit⟩ := takeWhile_digits after
    have hpoint : Char.isDigit '.' = false := rfl
    rw [hrest, List.count_cons_self, hcount]
    simp only [List.mem_cons, or_and_right, exists_or, exists_eq_left, hpoint, hdigit]
    obtain htail | ⟨more, htail, -⟩ := dropWhile_digits hafter
    · -- one point, with digits in front of it or behind it
      rw [htail]
      by_cases hunits : cs.takeWhile Char.isDigit = [] <;>
        by_cases hplaces : after.takeWhile Char.isDigit = [] <;> simp [hunits, hplaces, exponentValue?]
    · -- what follows a second point is no exponent
      simp [htail, exponentValue?]

theorem toLower_of_isDecimal {c : Char} (h : isDecimal c = true) : c.toLower = c := by
  have hdigit : c.isDigit = true ∨ c = '.' := by simpa [isDecimal] using h
  rcases hdigit with hdigit | rfl
  · refine dif_neg fun hupper => ?_
    simp only [Char.isDigit, Bool.and_eq_true, decide_eq_true_eq] at hdigit
    exact absurd (Nat.le_trans hupper.1 hdigit.2) (by decide)
  · rfl

/-- A numeral is all that is read as a number of what has only characters of a number at their places. -/
theorem ofChars?_isSome_iff {cs : List Char} (h : ∀ c ∈ withoutMinus cs, isDecimal c = true) :
    (ofChars? cs).isSome = true ↔ IsNumeral cs := by
  have hsign : (splitSign cs).2 = withoutMinus cs := by
    unfold splitSign
    split
    · rfl
    · next rest => exact absurd (h '+' (by simp [withoutMinus])) (by decide)
    · next hminus _ =>
      unfold withoutMinus
      split
      · exact absurd rfl (hminus _)
      · rfl
  -- none of the words for infinity and not-a-number has these characters
  have hword : ∀ w : String, w.toList.any (!isDecimal ·) = true →
      (withoutMinus cs).map Char.toLower ≠ w.toList := by
    intro w hw heq
    have hlower : (withoutMinus cs).map Char.toLower = withoutMinus cs :=
      (List.map_congr_left fun c hc => toLower_of_isDecimal (h c hc)).trans (List.map_id _)
    obtain ⟨c, hc, hother⟩ := List.any_eq_true.1 hw
    rw [← heq, hlower] at hc
    simp [h c hc] at hother
  unfold ofChars?
  dsimp only
  rw [hsign, if_neg (not_or.2 ⟨hword "inf" rfl, hword "infinity" rfl⟩), if_neg (hword "nan" rfl)]
  rw [unsigned?_isSome_iff h, IsNumeral]
  exact ⟨fun hcs => ⟨h, hcs⟩, fun hcs => hcs.2⟩

end Number

-- ======== lexemes

/-- Whether all characters are those of a number at their places. -/
def isNumericRun : (atStart : Bool) → List Char → Bool
  | _, [] => true
  | atStart, c :: cs => isNumeric atStart c && isNumericRun false cs

theorem isNumericRun_false (cs : List Char) : isNumericRun false cs = cs.all isDecimal := by
  induction cs with
  | nil => rfl
  | cons c cs ih => simp [isNumericRun, isNumeric, isDecimal, ih]

theorem isNumericRun_true {cs : List Char} :
    isNumericRun true cs = true ↔ ∀ c ∈ withoutMinus cs, isDecimal c = true := by
  unfold withoutMinus
  split
  · next body => simp [isNumericRun, isNumeric, isNumericRun_false]
  · next hminus =>
    cases cs with
    | nil => simp [isNumericRun]
    | cons c cs =>
      have hc : c ≠ '-' := fun hc => hminus cs (by rw [hc])
      simp [isNumericRun, isNumeric, isNumericRun_false, isDecimal, hc]

namespace Lexicon

/-- The first quote in a run of characters opens its first quoted part. -/
theorem quote_lexeme (lex : Lexicon) (numeric atStart afterQuote : Bool) (cs : List Char) (line : Nat) :
    (lex.lexeme numeric atStart afterQuote cs line).quote =
      (lex.lexeme numeric atStart afterQuote cs line).raw.find? lex.isQuote := by
  fun_induction lexeme lex numeric atStart afterQuote cs line with
  | case1 | case2 | case6 => rfl
  | case3 numeric atStart afterQuote c rest line hquote => simp [hquote]
  | case4 numeric atStart afterQuote c rest line hquote _ w ih => simpa [hquote] using ih
  | case5 numeric atStart afterQuote c rest line hquote _ _ w ih => simpa [hquote] using ih

/-- A run without a quoted part means what is written, and may be a number if all of it may. -/
theorem bare_lexeme (lex : Lexicon) (numeric atStart afterQuote : Bool) (cs : List Char) (line : Nat)
    (h : (lex.lexeme numeric atStart afterQuote cs line).quote = none) :
    (lex.lexeme numeric atStart afterQuote cs line).text =
        (lex.lexeme numeric atStart afterQuote cs line).raw ∧
      (lex.lexeme numeric atStart afterQuote cs line).numeric =
        (numeric && isNumericRun atStart (lex.lexeme numeric atStart afterQuote cs line).raw) := by
  fun_induction lexeme lex numeric atStart afterQuote cs line with
  | case1 | case2 | case6 => exact ⟨rfl, (Bool.and_true _).symm⟩
  | case3 => cases h
  | case4 numeric atStart afterQuote c rest line _ hnumeric w ih =>
    obtain ⟨htext, hrun⟩ := ih h
    obtain ⟨rfl, hc⟩ := Bool.and_eq_true_iff.1 hnumeric
    exact ⟨congrArg (c :: ·) htext, by simpa [isNumericRun, hc] using hrun⟩
  | case5 numeric atStart afterQuote c rest line _ hnumeric _ w ih =>
    obtain ⟨htext, hrun⟩ := ih h
    refine ⟨congrArg (c :: ·) htext, hrun.trans ?_⟩
    rw [isNumericRun, ← Bool.and_assoc, Bool.eq_false_iff.2 hnumeric]

end Lexicon

-- ======== tokens

/-- How words and numbers are told apart: with a quote in the way it is written, a token is a word, and
the first quote is noted. Otherwise it is written as it is meant, and it is a number if that is a numeral
and a word if not. -/
structure Token.Classified (lex : Lexicon) (t : Token) : Prop where
  quote_eq : t.quote = t.raw.toList.find? lex.isQuote
  quoted : (∃ c ∈ t.raw.toList, lex.isQuote c = true) →
    t.kind = .word ∧ t.number = none ∧ t.quote.isSome = true
  bare : (∀ c ∈ t.raw.toList, lex.isQuote c = false) →
    t.text = t.raw ∧ t.quote = none ∧
      t.kind = (if IsNumeral t.raw.toList then .number else .word) ∧
      t.number = if IsNumeral t.raw.toList then Number.parse? t.raw else none

namespace Lexicon

/-- What may be a number to its end is read as one if it is a numeral, and a numeral may be a number. -/
theorem Lexeme.number_of_bare {w : Lexeme} (htext : w.text = w.raw)
    (hrun : w.numeric = isNumericRun true w.raw) :
    (if w.numeric then Number.ofChars? w.text else none) =
      if IsNumeral w.raw then Number.ofChars? w.raw else none := by
  rw [htext, hrun]
  by_cases hnumeral : IsNumeral w.raw
  · rw [if_pos (isNumericRun_true.2 hnumeral.1), if_pos hnumeral]
  · rw [if_neg hnumeral]
    split
    · next hrun =>
      rw [← Number.ofChars?_isSome_iff (isNumericRun_true.1 hrun)] at hnumeral
      simpa using hnumeral
    · rfl

theorem classified_lexeme (lex : Lexicon) (cs leading : List Char) (line line' : Nat) :
    ((lex.lexeme true true false cs line).token leading line').Classified lex := by
  have hquote := lex.quote_lexeme true true false cs line
  have hbare := lex.bare_lexeme true true false cs line
  have hnumeric := lex.numeric_of_quote true true false cs line
  generalize lex.lexeme true true false cs line = w at hquote hbare hnumeric
  have hraw : (w.token leading line').raw.toList = w.raw := String.toList_ofList
  refine ⟨hraw.symm ▸ hquote, fun hsome => ?_, fun hnone => ?_⟩
  · rw [hraw, ← List.find?_isSome, ← hquote] at hsome
    simp [Lexeme.token, hnumeric hsome, hsome]
  · have hnone : w.quote = none := by
      rw [hquote, List.find?_eq_none]
      intro c hc
      simp [hnone c (hraw ▸ hc)]
    obtain ⟨htext, hrun⟩ := hbare hnone
    have hnumber : (w.token leading line').number =
        if IsNumeral w.raw then Number.ofChars? w.raw else none :=
      Lexeme.number_of_bare htext hrun
    have hparse : Number.parse? (w.token leading line').raw = Number.ofChars? w.raw :=
      congrArg Number.ofChars? hraw
    refine ⟨congrArg String.ofList htext, hnone, ?_, ?_⟩
    · show (if (w.token leading line').number.isSome then TokenKind.number else .word) = _
      rw [hnumber, hraw]
      split
      · next hnumeral => rw [(Number.ofChars?_isSome_iff hnumeral.1).2 hnumeral, if_pos rfl]
      · rfl
    · rw [hnumber, hraw, hparse]

theorem classified_scan (lex : Lexicon) (cs : List Char) (line : Nat) :
    (lex.scan cs line).token.kind ≠ .finish → (lex.scan cs line).token.kind ≠ .symbol →
      (lex.scan cs line).token.Classified lex := by
  unfold scan
  dsimp only
  split
  · exact fun hfinish => absurd rfl hfinish
  · split
    · exact fun _ _ => lex.classified_lexeme ..
    · exact fun _ hsymbol => absurd rfl hsymbol

end Lexicon

/-- Among the tokens of a text other than symbols and the end token, the numbers are the bare numerals,
with the value that they read as. All others are words, and those with a quote in them have it noted. -/
theorem numbers_are_numerals (lex : Lexicon) (text : String) :
    ∀ t ∈ tokenize lex text, t.kind ≠ .finish → t.kind ≠ .symbol → t.Classified lex :=
  Scanner.forall_drain lex.classified_scan nofun

/-- Signs, points and letters at all places, and two tokens with a quote in them; one of the numbers is
looked at. -/
theorem numbers_are_numerals_mixed :
    let tokens := tokenize {} "- . 1.2.3 --onfail 123abc abc-123 -01.20 7. \"8\" 9\"\""
    tokens.map (fun t => (t.raw, t.kind)) = [("-", .word), (".", .word), ("1.2.3", .word),
      ("--onfail", .word), ("123abc", .word), ("abc-123", .word), ("-01.20", .number), ("7.", .number),
      ("\"8\"", .word), ("9\"\"", .word), ("", .finish)] ∧
    ∃ t ∈ tokens, t.raw = "-01.20" ∧ t.kind = .number ∧ t.Classified {} := by
  intro tokens
  refine ⟨by decide +kernel, ?_⟩
  have hmem : ("-01.20", TokenKind.number) ∈ tokens.map fun t => (t.raw, t.kind) := by decide +kernel
  obtain ⟨t, ht, hshown⟩ := List.mem_map.1 hmem
  obtain ⟨hraw, hkind⟩ := Prod.mk.inj hshown
  exact ⟨t, ht, hraw, hkind, numbers_are_numerals _ _ t ht (by simp [hkind]) (by simp [hkind])⟩

end PageScript
