/-
Well-formed tokens: how they come from a text, and how they stay so when arguments are put in.

A scanned token is well formed because a run of characters with a quoted part in it is never taken for a
number. Putting in an argument may change the kind of a token, and its value with it: the whole token is
then the argument, or a new number. So what is bound has to be well formed for the result to be, and
must not be an end token, or the place where it is put in would look like the end.
-/
import PageScript.Bindings
import PageScript.Token.Scanner

namespace PageScript

-- ======== scanning

namespace Lexicon

/-- What is read behind anything that no number has is no number. -/
theorem numeric_lexeme {numeric : Bool} (lex : Lexicon) (atStart afterQuote : Bool) (cs : List Char)
    (line : Nat) (h : numeric = false) :
    (lex.lexeme numeric atStart afterQuote cs line).numeric = false := by
  fun_induction lexeme lex numeric atStart afterQuote cs line with
  | case1 | case2 | case6 => exact h
  | case3 _ _ _ _ _ _ _ _ _ _ ih => exact ih rfl
  | case4 numeric _ _ c _ _ _ hnumeric => simp [h] at hnumeric
  | case5 _ _ _ _ _ _ _ _ _ _ ih => exact ih rfl

/-- A run of characters with a quoted part in it is no number. -/
theorem numeric_of_quote (lex : Lexicon) (numeric atStart afterQuote : Bool) (cs : List Char)
    (line : Nat) (h : (lex.lexeme numeric atStart afterQuote cs line).quote.isSome = true) :
    (lex.lexeme numeric atStart afterQuote cs line).numeric = false := by
  fun_induction lexeme lex numeric atStart afterQuote cs line with
  | case1 | case2 | case6 => cases h
  | case3 => exact numeric_lexeme lex _ _ _ _ rfl
  | case4 _ _ _ _ _ _ _ _ _ ih => exact ih h
  | case5 _ _ _ _ _ _ _ _ _ _ ih => exact ih h

theorem Lexeme.wellFormed_token {w : Lexeme} (h : w.quote.isSome = true → w.numeric = false)
    (leading : List Char) (line : Nat) : (w.token leading line).WellFormed := by
  refine ⟨?_, fun hquote => ?_, ?_⟩
  · simp only [token]
    cases if w.numeric then Number.ofChars? w.text else none <;> simp
  · simp [token, h hquote]
  · simp only [token]
    cases if w.numeric then Number.ofChars? w.text else none <;> simp

theorem wellFormed_scan (lex : Lexicon) (cs : List Char) (line : Nat) :
    (lex.scan cs line).token.WellFormed := by
  unfold scan
  dsimp only
  split
  · exact ⟨by simp [Token.finish], by simp [Token.finish], by simp [Token.finish]⟩
  · split
    · exact Lexeme.wellFormed_token (numeric_of_quote lex _ _ _ _ _) ..
    · exact ⟨by simp [Token.symbol], by simp [Token.symbol], by simp [Token.symbol]⟩

end Lexicon

-- ======== substitution

/-- Arguments that can be put in anywhere: well-formed tokens, and no end token. -/
def Bindings.Proper (b : Bindings) : Prop :=
  ∀ e ∈ b.entries, e.2.WellFormed ∧ e.2.isFinish = false

theorem Bindings.proper_empty : Bindings.Proper {} :=
  fun _ h => absurd h List.not_mem_nil

theorem Bindings.Proper.get? {b : Bindings} (h : b.Proper) {name : String} {argument : Token}
    (hget : b.get? name = some argument) : argument.WellFormed ∧ argument.isFinish = false := by
  obtain ⟨e, hfound, rfl⟩ := Option.map_eq_some_iff.1 hget
  exact h e (List.mem_of_find?_eq_some hfound)

namespace Token

theorem wellFormed_finish (line : Nat) : (finish line).WellFormed :=
  ⟨by simp [finish], by simp [finish], by simp [finish]⟩

theorem wellFormed_ofNumber (value : Float) (line : Nat) : (ofNumber value line).WellFormed :=
  ⟨by simp [ofNumber], by simp [ofNumber], by simp [ofNumber]⟩

theorem WellFormed.movedTo {t : Token} (h : t.WellFormed) (place : Token) :
    (t.movedTo place).WellFormed :=
  ⟨h.number_iff, h.word_of_quote, h.single_of_symbol⟩

/-- What stands in for a token is the argument, moved there, or a number with its value. -/
theorem WellFormed.standIn {argument : Token} (h : argument.WellFormed) (whole : Bool)
    (place : Token) : (argument.standIn whole place).WellFormed := by
  unfold Token.standIn
  split
  · split
    · exact (wellFormed_ofNumber ..).movedTo place
    · exact h.movedTo place
  · exact h.movedTo place

theorem isFinish_standIn {argument : Token} (h : argument.isFinish = false) (whole : Bool)
    (place : Token) : (argument.standIn whole place).isFinish = false := by
  unfold standIn
  split
  · split
    · rfl
    · exact h
  · exact h

/-- A token with arguments put in is the token as it was, the same word with another text, or what
stands in for it. -/
theorem substitute_cases (t : Token) (b : Bindings) :
    t.substitute b = t ∨ t.kind = .word ∧
      ((∃ text, t.substitute b = { t with text }) ∨
        ∃ name argument whole, b.get? name = some argument ∧
          t.substitute b = argument.standIn whole t) := by
  unfold substitute
  split
  · exact .inl rfl
  · next hword =>
    refine .inr ⟨by simpa using fun hkind => hword (.inl hkind), ?_⟩
    dsimp only
    split
    · next r _ =>
      split
      · next argument hget => exact .inr ⟨r.name, argument, r.whole, hget, rfl⟩
      · exact .inl ⟨_, rfl⟩
    · exact .inl ⟨_, rfl⟩

theorem WellFormed.substitute {t : Token} {b : Bindings} (h : t.WellFormed) (hb : b.Proper) :
    (t.substitute b).WellFormed := by
  obtain hsame | ⟨hword, ⟨text, htext⟩ | ⟨name, argument, whole, hget, hstand⟩⟩ :=
    t.substitute_cases b
  · rwa [hsame]
  · rw [htext]
    exact ⟨h.number_iff, h.word_of_quote, fun hsymbol => absurd (hword.symm.trans hsymbol) nofun⟩
  · rw [hstand]
    exact (hb.get? hget).1.standIn whole t

/-- Proper arguments make no token an end token. -/
theorem isFinish_substitute (t : Token) {b : Bindings} (hb : b.Proper) :
    (t.substitute b).isFinish = t.isFinish := by
  obtain hsame | ⟨hword, ⟨text, htext⟩ | ⟨name, argument, whole, hget, hstand⟩⟩ :=
    t.substitute_cases b
  · rw [hsame]
  · rw [htext]
    rfl
  · rw [hstand, isFinish_standIn (hb.get? hget).2]
    simp [isFinish, hword]

end Token

end PageScript
