/-
Selectors for attribute values cannot be broken out of.

A value is put between single quotes in two passes: first all backslashes are doubled, and then a backslash
is put in front of each quote. In this order the second pass leaves alone what the first has written, so that
together they write each character by itself, as quoting does elsewhere. So wherever the rules for quoted
strings of a selector or of a script are applied, the string ends at the quote that was meant to end it.
-/
import Mathlib.Data.List.Basic
import PageScript.Proofs.Token.Quoting
import PageScript.WebDriver.Wire

namespace PageScript.WebDriver

/-- The two passes write each character by itself. -/
theorem escapeAttribute_eq (cs : List Char) :
    escapeAttribute cs = cs.flatMap (escapedChar '\'') := by
  rw [escapeAttribute, replaceChar, replaceChar, List.flatMap_assoc]
  refine List.flatMap_congr fun c _ => ?_
  by_cases hslash : c = '\\'
  · simp [hslash, escapedChar]
  · by_cases hquote : c = '\''
    · simp [hquote, escapedChar]
    · simp [hslash, hquote, escapedChar]

/-- Reads a string up to the bare quote that ends it, where a backslash takes the next character as it is.
Gives what was read, and what follows the quote. -/
def unquote? : List Char → Option (List Char × List Char)
  | [] => none
  | ['\\'] => none
  | '\\' :: c :: rest => (unquote? rest).map fun p => (c :: p.1, p.2)
  | '\'' :: rest => some ([], rest)
  | c :: rest => (unquote? rest).map fun p => (c :: p.1, p.2)

/-- What is quoted is read up to its own closing quote, and as it was. -/
theorem unquote?_escaped (s rest : List Char) :
    unquote? (s.flatMap (escapedChar '\'') ++ '\'' :: rest) = some (s, rest) := by
  induction s with
  | nil => rfl
  | cons c s ih =>
    rw [List.flatMap_cons, escapedChar, List.append_assoc]
    split
    · simp [unquote?, ih]
    · next hplain =>
      obtain ⟨hquote, hslash⟩ := not_or.1 hplain
      simp [unquote?, ih, hslash]

/-- The attribute in which a locator's value is looked for, if it is one that names an attribute. -/
def attribute? : LocatorKind → Option String
  | .testId => some "test-id"
  | .field => some "name"
  | _ => none

theorem strategy_eq {l : Locator} {name : String} (h : attribute? l.kind = some name) :
    strategy l = ("css selector", attributeSelector name l.value) := by
  rcases l with ⟨_ | _ | _ | _, value⟩ <;> cases h <;> rfl

theorem toList_selector (name value : String) :
    (attributeSelector name value).toList =
      ("*[" ++ name ++ "=").toList ++ (quoteWith '\'' value ++ [']']) := by
  rw [attributeSelector, escapeAttribute_eq]
  simp [quoteWith]

/-- What kind of locator a selector is for can be told from the attribute that it names. -/
theorem kind_eq_of_selector {l l' : Locator} {name name' : String} (h : attribute? l.kind = some name)
    (h' : attribute? l'.kind = some name')
    (hsame : attributeSelector name' l'.value = attributeSelector name l.value) : l'.kind = l.kind := by
  have hlist := congrArg String.toList hsame
  rw [toList_selector, toList_selector] at hlist
  rcases l with ⟨_ | _ | _ | _, value⟩ <;> cases h <;>
    rcases l' with ⟨_ | _ | _ | _, value'⟩ <;> cases h'
  · rfl
  · simp at hlist
  · simp at hlist
  · rfl

/-- What value a selector is for can be told by reading its quoted part. -/
theorem value_eq_of_selector {name value value' : String}
    (h : attributeSelector name value' = attributeSelector name value) : value' = value := by
  have hlist := congrArg String.toList h
  rw [toList_selector, toList_selector, List.append_cancel_left_eq, quoteWith_append,
    quoteWith_append] at hlist
  have hread := congrArg unquote? (List.cons.inj hlist).2
  rw [unquote?_escaped, unquote?_escaped] at hread
  exact String.toList_inj.1 (congrArg Prod.fst (Option.some.inj hread))

/-- An attribute selector cannot be broken out of, whatever value it is for. Its quoted part, read with the
rule that a backslash takes the next character as it is, ends at the quote in front of the last bracket
and means the value. As a script it is a single quoted word with the value as its text. So each of these
selectors tells which locator it is for. -/
theorem attribute_selector_closed (l : Locator) {name : String} (hname : attribute? l.kind = some name) :
    ∃ inner : List Char, (strategy l).1 = "css selector" ∧
      (strategy l).2.toList = ("*[" ++ name ++ "=").toList ++ '\'' :: (inner ++ ['\'', ']']) ∧
      unquote? (inner ++ ['\'', ']']) = some (l.value.toList, [']']) ∧
      (tokenize {} (String.ofList ('\'' :: inner ++ ['\'']))).map Token.reading =
        [(.word, l.value, some '\'', none), (.finish, "", none, none)] ∧
      ∀ (l' : Locator) (name' : String), attribute? l'.kind = some name' →
        ((strategy l').2 = (strategy l).2 ↔ l' = l) := by
  rw [strategy_eq hname]
  refine ⟨l.value.toList.flatMap (escapedChar '\''), rfl, ?_, unquote?_escaped .., ?_, ?_⟩
  · rw [toList_selector, quoteWith_append]
  · have hquote : ∀ item ∈ [('\'', l.value)], ({} : Lexicon).isQuote item.1 = true := by
      simp [Lexicon.isQuote]
    have hnone : ∀ c ∈ ([] : List Char), ({} : Lexicon).isBlank c = true := by simp
    rw [tokenize, Scanner.ofText, String.toList_ofList]
    exact Scanner.drain_quotedLine hquote hnone 1
  · intro l' name' hname'
    rw [strategy_eq hname']
    refine ⟨fun hsame => ?_, ?_⟩
    · have hkind := kind_eq_of_selector hname hname' hsame
      have hnames : name' = name := Option.some.inj (hname'.symm.trans (hkind ▸ hname))
      subst hnames
      have hvalue := value_eq_of_selector hsame
      cases l
      cases l'
      cases hkind
      cases hvalue
      rfl
    · rintro rfl
      cases hname.symm.trans hname'
      rfl

/-- A value that ends in a backslash, and holds quotes and brackets. -/
theorem attribute_selector_closed_mixed :
    attribute? .field = some "name" ∧
      ∃ inner : List Char, (strategy ⟨.field, "it\\'s'] \\"⟩).2.toList =
          ("*[" ++ "name" ++ "=").toList ++ '\'' :: (inner ++ ['\'', ']']) ∧
        unquote? (inner ++ ['\'', ']']) = some ("it\\'s'] \\".toList, [']']) := by
  obtain ⟨inner, -, hselector, hread, -⟩ := attribute_selector_closed ⟨.field, "it\\'s'] \\"⟩ rfl
  exact ⟨rfl, inner, hselector, hread⟩

end PageScript.WebDriver
