/-
Reading shell scripts.

A script is read a line of commands at a time, so that what a line does, such as defining an alias,
bears on the lines behind it, and a fault in a line shows only when those before it have run. Words
are read with what they hold: quotes, parameters, arithmetic, and commands whose output they take
in. Every reader takes one of `fuel` for each step into the script.
-/
import PageScript.Shell.Script

namespace PageScript.Shell

-- ======== faults

/-- What is wrong with a script. -/
inductive SyntaxFault where
  | unexpected (found : String) (wanted : Option String)
  | unterminatedQuote
  | missingBrace
  | missingParentheses
  | unclosedBackquote
  | badLoopVariable
  | badFunctionName
  /-- The script is nested too deeply to be read. -/
  | exhausted
  deriving Repr, DecidableEq, Inhabited

def SyntaxFault.message : SyntaxFault → String
  | .unexpected found none => "Syntax error: " ++ found ++ " unexpected"
  | .unexpected found (some wanted) =>
    "Syntax error: " ++ found ++ " unexpected (expecting " ++ wanted ++ ")"
  | .unterminatedQuote => "Syntax error: Unterminated quoted string"
  | .missingBrace => "Syntax error: Missing '\x7d'"
  | .missingParentheses => "Syntax error: Missing '))'"
  | .unclosedBackquote => "Syntax error: EOF in backquote substitution"
  | .badLoopVariable => "Syntax error: Bad for loop variable"
  | .badFunctionName => "Syntax error: Bad function name"
  | .exhausted => "Syntax error: nested too deeply"

/-- A fault and the line it shows in. -/
structure Fault where
  line : Nat
  cause : SyntaxFault
  deriving Repr, DecidableEq, Inhabited

-- ======== tokens

/-- A lexical unit of a script. -/
inductive Token where
  | done
  | newline
  | semicolon
  | background
  | and
  | or
  | pipe
  | opening
  | closing
  | endCase
  | redirect (stream : Nat) (action : Redirection) (stripped : Bool)
  | word (w : Word)
  | keyword (name : String)

instance : Inhabited Token := ⟨.done⟩

def keywords : List String :=
  ["!", "case", "do", "done", "elif", "else", "esac", "fi", "for", "if", "in", "then", "until",
    "while", "\x7b", "\x7d"]

def inQuotes (s : String) : String :=
  "\"" ++ s ++ "\""

def Token.display : Token → String
  | .done => "end of file"
  | .newline => "newline"
  | .semicolon => inQuotes ";"
  | .background => inQuotes "&"
  | .and => inQuotes "&&"
  | .or => inQuotes "||"
  | .pipe => inQuotes "|"
  | .opening => inQuotes "("
  | .closing => inQuotes ")"
  | .endCase => inQuotes ";;"
  | .redirect .. => "redirection"
  | .word _ => "word"
  | .keyword name => inQuotes name

def Token.endsList : Token → Bool
  | .done | .closing | .endCase => true
  | .keyword name => ["do", "done", "elif", "else", "esac", "fi", "then", "\x7d"].contains name
  | _ => false

def specialBuiltins : List String :=
  [".", ":", "break", "continue", "eval", "exec", "exit", "export", "local", "readonly", "return",
    "set", "shift", "times", "trap", "unset"]

-- ======== cursor

/-- A text in a script that is still to be read: what it is kept under, the line that ends it,
whether tabs are stripped off its lines, and whether it is taken as it stands. -/
structure Awaited where
  number : Nat
  mark : List Char
  stripped : Bool
  quoted : Bool
  deriving Inhabited

/-- A place in a script. -/
structure Cursor where
  rest : List Char
  line : Nat := 1
  /-- A token that has been read and put back. -/
  pushed : Option Token := none
  aliases : List (String × String) := []
  /-- The aliases that are being read, with how much will be left of the script behind them and
  whether the word behind them may be an alias too. -/
  active : List (String × Nat × Bool) := []
  awaited : List Awaited := []
  /-- The texts that stand in the script. -/
  documents : List (Nat × Word) := []
  nextDocument : Nat := 0
  deriving Inhabited

abbrev Reading := StateT Cursor (Except Fault)

def fault {α : Type} (cause : SyntaxFault) : Reading α := do
  throw ⟨(← get).line, cause⟩

def unexpected {α : Type} (t : Token) (wanted : Option String) : Reading α :=
  fault (.unexpected t.display wanted)

def peek : Reading (Option Char) := do
  return (← get).rest.head?

def advance : Reading Unit :=
  modify fun c =>
    { c with
      rest := c.rest.drop 1
      line := if c.rest.head? = some '\n' then c.line + 1 else c.line }

def advanceBy (n : Nat) : Reading Unit :=
  modify fun c =>
    { c with rest := c.rest.drop n, line := c.line + (c.rest.take n).count '\n' }

def takeWhile (p : Char → Bool) : Reading (List Char) := do
  let found := (← get).rest.takeWhile p
  advanceBy found.length
  return found

def push (t : Token) : Reading Unit :=
  modify fun c => { c with pushed := some t }

-- ======== words

/-- What a part of a word stands in. -/
inductive Surround where
  | plain
  /-- The word that ends a text in the script, in which only quotes have a meaning. -/
  | mark
  | double
  /-- Braces of a parameter, which may stand in double quotes. -/
  | braces (quoted : Bool)
  /-- Arithmetic, inside so many parentheses. -/
  | sum (depth : Nat)
  /-- A text in the script. -/
  | document
  deriving DecidableEq

namespace Surround

def isQuoted : Surround → Bool
  | .plain | .mark | .braces false => false
  | _ => true

def escapes (c : Char) : Surround → Bool
  | .plain | .mark | .braces false => true
  | .double | .sum _ => c = '$' || c = '"' || c = '\\' || c = '\x60'
  | .braces true => c = '$' || c = '"' || c = '\\' || c = '\x60' || c = '\x7d'
  | .document => c = '$' || c = '\\' || c = '\x60'

def unclosed? : Surround → Option SyntaxFault
  | .plain | .mark | .document => none
  | .double => some .unterminatedQuote
  | .braces _ => some .missingBrace
  | .sum _ => some .missingParentheses

def cons (s : Surround) (c : Char) (w : Word) : Word :=
  if s.isQuoted then consQuoted c w else consText c w

end Surround

def endsWord (c : Char) : Bool :=
  c = ' ' || c = '\t' || c = '\n' || c = ';' || c = '&' || c = '|' || c = '<' || c = '>' ||
    c = '(' || c = ')'

def readSingle : Reading (List Char) := do
  let inner ← takeWhile (· != '\'')
  if (← peek).isNone then fault .unterminatedQuote
  advance
  return inner

/-- Reads up to a backquote; a backslash in front of some characters goes. -/
def readBackquoted (quoted : Bool) : (fuel : Nat) → Reading (List Char)
  | 0 => fault .exhausted
  | fuel + 1 => do
    match ← peek with
    | none => fault .unclosedBackquote
    | some '\x60' => advance; return []
    | some '\\' =>
      advance
      match ← peek with
      | none => fault .unclosedBackquote
      | some '\n' => advance; readBackquoted quoted fuel
      | some c =>
        advance
        let inner ← readBackquoted quoted fuel
        let plain := c = '\\' || c = '\x60' || c = '$' || (quoted && c = '"')
        return if plain then c :: inner else '\\' :: c :: inner
    | some c =>
      advance
      return c :: (← readBackquoted quoted fuel)

/-- What is looked for when a token is read. -/
structure Looking where
  /-- Line ends are skipped. -/
  newlines : Bool := false
  keywords : Bool := false
  aliases : Bool := false

def Looking.command : Looking := { keywords := true, aliases := true }

/-- What is looked for at the start of a command that may be on a line further down. -/
def Looking.anywhere : Looking := { newlines := true, keywords := true, aliases := true }

/-- The raw lines of a text in the script, up to the line that ends it, and what is left. -/
def splitDocument (a : Awaited) : (fuel : Nat) → (joined : Bool) → List Char →
    List Char × List Char
  | 0, _, cs => ([], cs)
  | _ + 1, _, [] => ([], [])
  | fuel + 1, joined, cs =>
    let line := cs.takeWhile (· != '\n')
    let rest := cs.drop (line.length + 1)
    let ended := cs.length > line.length
    let shown := if a.stripped then line.dropWhile (· = '\t') else line
    if !joined && shown = a.mark then ([], rest)
    else
      let slashes := (line.reverse.takeWhile (· = '\\')).length
      let (more, left) := splitDocument a fuel (!a.quoted && slashes % 2 = 1) rest
      (shown ++ (if ended then ['\n'] else []) ++ more, left)

def scanRedirect (digit : Option Char) : Reading Token := do
  let stream (usual : Nat) : Nat := (digit.map fun d => d.toNat - '0'.toNat).getD usual
  match (← get).rest with
  | '>' :: '>' :: _ => advanceBy 2; return .redirect (stream 1) .append false
  | '>' :: '|' :: _ => advanceBy 2; return .redirect (stream 1) .overwrite false
  | '>' :: '&' :: _ => advanceBy 2; return .redirect (stream 1) .duplicate false
  | '>' :: _ => advance; return .redirect (stream 1) .write false
  | '<' :: '<' :: '-' :: _ => advanceBy 3; return .redirect (stream 0) (.document 0) true
  | '<' :: '<' :: _ => advanceBy 2; return .redirect (stream 0) (.document 0) false
  | '<' :: '&' :: _ => advanceBy 2; return .redirect (stream 0) .duplicate false
  | '<' :: '>' :: _ => advanceBy 2; return .redirect (stream 0) .update false
  | _ => advance; return .redirect (stream 0) .read false

mutual

def readParts : (fuel : Nat) → Surround → Reading Word
  | 0, _ => fault .exhausted
  | fuel + 1, s => do
    match ← peek with
    | none =>
      match s.unclosed? with
      | some cause => fault cause
      | none => return []
    | some c =>
      match s, c with
      | .double, '"' => advance; return []
      | .braces _, '\x7d' => advance; return []
      | .sum depth, '(' =>
        advance
        return consQuoted c (← readParts fuel (.sum (depth + 1)))
      | .sum 0, ')' =>
        advance
        if (← peek) = some ')' then
          advance
          return []
        return consQuoted c (← readParts fuel s)
      | .sum (depth + 1), ')' =>
        advance
        return consQuoted c (← readParts fuel (.sum depth))
      | _, _ =>
        if (s = .plain || s = .mark) && endsWord c then return []
        else readPart fuel s c

def readPart : (fuel : Nat) → Surround → Char → Reading Word
  | 0, _, _ => fault .exhausted
  | fuel + 1, s, '\\' => do
    advance
    match ← peek with
    | none => return [.text ['\\'] true]
    | some '\n' => advance; readParts fuel s
    | some c =>
      advance
      let rest ← readParts fuel s
      return if s.escapes c then consQuoted c rest else consQuoted '\\' (consQuoted c rest)
  | fuel + 1, s, '\'' => do
    advance
    if s.isQuoted then return consQuoted '\'' (← readParts fuel s)
    let inner ← readSingle
    return .text inner true :: (← readParts fuel s)
  | fuel + 1, s, '"' => do
    advance
    match s with
    | .document | .sum _ => return consQuoted '"' (← readParts fuel s)
    | _ =>
      let inner ← readParts fuel .double
      return (if inner.isEmpty then [.text [] true] else inner) ++ (← readParts fuel s)
  | fuel + 1, s, '$' => do
    advance
    if s = .mark then return consText '$' (← readParts fuel s)
    match ← readDollar fuel s with
    | some part => return part :: (← readParts fuel s)
    | none => return s.cons '$' (← readParts fuel s)
  | fuel + 1, s, '\x60' => do
    advance
    if s = .mark then return consText '\x60' (← readParts fuel s)
    let inner ← readBackquoted (s = .double) ((← get).rest.length + 1)
    let outer ← get
    set { outer with rest := inner, pushed := none, awaited := [] }
    let body ← readList fuel false true .nothing
    modify fun c => { outer with documents := c.documents, nextDocument := c.nextDocument }
    return .command body s.isQuoted :: (← readParts fuel s)
  | fuel + 1, s, c => do
    advance
    return s.cons c (← readParts fuel s)

def readDollar : (fuel : Nat) → Surround → Reading (Option Part)
  | 0, _ => fault .exhausted
  | fuel + 1, s => do
    match ← peek with
    | some '(' =>
      advance
      if (← peek) = some '(' then
        advance
        return some (.arithmetic (← readParts fuel (.sum 0)) s.isQuoted)
      let awaited := (← get).awaited
      modify fun c => { c with pushed := none, awaited := [] }
      let body ← readList fuel false true .nothing
      match ← readToken fuel {} with
      | .closing => pure ()
      | t => unexpected t (some (Token.display .closing))
      modify fun c => { c with awaited }
      return some (.command body s.isQuoted)
    | some '\x7b' =>
      advance
      return some (← readBraced fuel s)
    | some c =>
      if isNameStart c then
        return some (.parameter (String.ofList (← takeWhile isNameChar)) .value s.isQuoted)
      else if isSpecial c then
        advance
        return some (.parameter c.toString .value s.isQuoted)
      else return none
    | none => return none

def readBraced : (fuel : Nat) → Surround → Reading Part
  | 0, _ => fault .exhausted
  | fuel + 1, s => do
    match (← get).rest with
    | '#' :: c :: rest =>
      if isNameChar c then
        advance
        let name ← takeWhile (if c.isDigit then Char.isDigit else isNameChar)
        if (← peek) = some '\x7d' then
          advance
          return .parameter (String.ofList name) .length s.isQuoted
        readFlawed fuel s
      else if c ≠ '\x7d' ∧ isSpecial c ∧ rest.head? = some '\x7d' then
        advanceBy 3
        return .parameter c.toString .length s.isQuoted
      else
        advance
        readUsage fuel s "#"
    | c :: _ =>
      if isNameStart c then readUsage fuel s (String.ofList (← takeWhile isNameChar))
      else if c.isDigit then readUsage fuel s (String.ofList (← takeWhile Char.isDigit))
      else if isSpecial c then
        advance
        readUsage fuel s c.toString
      else readFlawed fuel s
    | [] => fault .missingBrace

def readUsage : (fuel : Nat) → Surround → String → Reading Part
  | 0, _, _ => fault .exhausted
  | fuel + 1, s, name => do
    let inside : Surround := .braces s.isQuoted
    let fallback? (c : Char) : Option Fallback :=
      match c with
      | '-' => some .use
      | '=' => some .assign
      | '?' => some .complain
      | '+' => some .replace
      | _ => none
    match (← get).rest with
    | '\x7d' :: _ => advance; return .parameter name .value s.isQuoted
    | ':' :: '\x7d' :: _ => advanceBy 2; return .parameter name .value s.isQuoted
    | ':' :: c :: _ =>
      match fallback? c with
      | some kind =>
        advanceBy 2
        return .parameter name (.fallback kind true (← readParts fuel inside)) s.isQuoted
      | none => readFlawed fuel s
    | '%' :: '%' :: _ =>
      advanceBy 2
      return .parameter name (.trim true true (← readParts fuel (.braces false))) s.isQuoted
    | '%' :: _ =>
      advance
      return .parameter name (.trim true false (← readParts fuel (.braces false))) s.isQuoted
    | '#' :: '#' :: _ =>
      advanceBy 2
      return .parameter name (.trim false true (← readParts fuel (.braces false))) s.isQuoted
    | '#' :: _ =>
      advance
      return .parameter name (.trim false false (← readParts fuel (.braces false))) s.isQuoted
    | c :: _ =>
      match fallback? c with
      | some kind =>
        advance
        return .parameter name (.fallback kind false (← readParts fuel inside)) s.isQuoted
      | none => readFlawed fuel s
    | [] => fault .missingBrace

def readFlawed : (fuel : Nat) → Surround → Reading Part
  | 0, _ => fault .exhausted
  | fuel + 1, s => do
    let _ ← readParts fuel (.braces s.isQuoted)
    return .flawed

def readDocuments : (fuel : Nat) → Reading Unit
  | 0 => fault .exhausted
  | fuel + 1 => do
    match (← get).awaited with
    | [] => pure ()
    | a :: others =>
      let outer ← get
      let (text, rest) := splitDocument a (outer.rest.length + 1) false outer.rest
      let taken := outer.rest.take (outer.rest.length - rest.length)
      let word ←
        if a.quoted then pure [.text text true]
        else do
          set { outer with rest := text, pushed := none, awaited := [] }
          readParts fuel .document
      modify fun c =>
        { outer with
          rest
          line := outer.line + taken.count '\n'
          awaited := others
          documents := (a.number, word) :: c.documents
          nextDocument := c.nextDocument }
      readDocuments fuel

def scanToken : (fuel : Nat) → Reading Token
  | 0 => fault .exhausted
  | fuel + 1 => do
    match (← get).rest with
    | [] => return .done
    | ' ' :: _ | '\t' :: _ => advance; scanToken fuel
    | '#' :: _ =>
      let _ ← takeWhile (· != '\n')
      scanToken fuel
    | '\\' :: '\n' :: _ => advanceBy 2; scanToken fuel
    | '\n' :: _ => advance; return .newline
    | '&' :: '&' :: _ => advanceBy 2; return .and
    | '&' :: _ => advance; return .background
    | '|' :: '|' :: _ => advanceBy 2; return .or
    | '|' :: _ => advance; return .pipe
    | ';' :: ';' :: _ => advanceBy 2; return .endCase
    | ';' :: _ => advance; return .semicolon
    | '(' :: _ => advance; return .opening
    | ')' :: _ => advance; return .closing
    | _ =>
      let word ← readParts fuel .plain
      let next ← peek
      if next = some '<' || next = some '>' then
        match word with
        | [] => scanRedirect none
        | [.text [d] false] => if d.isDigit then scanRedirect (some d) else return .word word
        | _ => return .word word
      else return .word word

def readToken : (fuel : Nat) → Looking → Reading Token
  | 0, _ => fault .exhausted
  | fuel + 1, look => do
    let cursor ← get
    let start := cursor.rest.length
    let blanks := (cursor.rest.takeWhile fun c => c = ' ' || c = '\t').length
    let carried := cursor.pushed.isNone && cursor.active.any fun (_, left, further) =>
      further && left < start && start - blanks ≤ left
    let t ←
      match cursor.pushed with
      | some t => do
        modify fun c => { c with pushed := none }
        pure t
      | none => scanToken fuel
    match t with
    | .newline =>
      if look.newlines then
        readDocuments fuel
        readToken fuel look
      else return t
    | .word w =>
      match w.plain? with
      | none => return t
      | some name =>
        if look.keywords && keywords.contains name then return .keyword name
        let cursor ← get
        let active := cursor.active.filter fun a => start > a.2.1
        match cursor.aliases.lookup name, active.lookup name with
        | some value, none =>
          if look.aliases || carried then
            let further := value.endsWith " " || value.endsWith "\t"
            set { cursor with
              rest := value.toList ++ cursor.rest
              active := (name, cursor.rest.length, further) :: active }
            readToken fuel { look with aliases := true }
          else return t
        | _, _ => return t
    | _ => return t

/-- Reads commands up to the end of the line if they are not part of a larger one, or else up to
what ends a list. `mayEnd` says that there need not be any more of them, and `before` are those that
have been read. -/
def readList : (fuel : Nat) → (outer mayEnd : Bool) → (before : Node) → Reading Node
  | 0, _, _, _ => fault .exhausted
  | fuel + 1, outer, mayEnd, before => do
    match ← readToken fuel { Looking.command with newlines := !outer } with
    | .newline =>
      readDocuments fuel
      return before
    | .done =>
      readDocuments fuel
      push .done
      return before
    | t =>
      push t
      if mayEnd && t.endsList then return before
      let command ← readAndOr fuel
      let t ← readToken fuel {}
      let command :=
        match t with
        | .background => Node.background command
        | _ => command
      let both :=
        match before with
        | .nothing => command
        | _ => .sequence before command
      match t with
      | .done =>
        readDocuments fuel
        push .done
        return both
      | .newline =>
        push t
        readList fuel outer (!outer) both
      | .background | .semicolon => readList fuel outer (!outer) both
      | _ =>
        if outer then unexpected t none
        push t
        return both

def readAndOr : (fuel : Nat) → Reading Node
  | 0 => fault .exhausted
  | fuel + 1 => do
    readJoined fuel (← readPipeline fuel {})

def readJoined : (fuel : Nat) → Node → Reading Node
  | 0, _ => fault .exhausted
  | fuel + 1, left => do
    match ← readToken fuel {} with
    | .and => readJoined fuel (.both left (← readPipeline fuel .anywhere))
    | .or => readJoined fuel (.either left (← readPipeline fuel .anywhere))
    | t =>
      push t
      return left

def readPipeline : (fuel : Nat) → Looking → Reading Node
  | 0, _ => fault .exhausted
  | fuel + 1, look => do
    match ← readToken fuel look with
    | .keyword "!" => return .not (← readStages fuel (← readCommand fuel .command))
    | t =>
      push t
      readStages fuel (← readCommand fuel look)

def readStages : (fuel : Nat) → Node → Reading Node
  | 0, _ => fault .exhausted
  | fuel + 1, first => do
    match ← readToken fuel {} with
    | .pipe =>
      let next ← readCommand fuel .anywhere
      match first with
      | .pipe stages => readStages fuel (.pipe (stages ++ [next]))
      | _ => readStages fuel (.pipe [first, next])
    | t =>
      push t
      return first

def expect : (fuel : Nat) → String → Reading Unit
  | 0, _ => fault .exhausted
  | fuel + 1, name => do
    match ← readToken fuel { keywords := true } with
    | .keyword other =>
      if name ≠ other then unexpected (.keyword other) (some (inQuotes name))
    | t => unexpected t (some (inQuotes name))

def readCommand : (fuel : Nat) → Looking → Reading Node
  | 0, _ => fault .exhausted
  | fuel + 1, look => do
    let t ← readToken fuel look
    let line := (← get).line
    match t with
    | .keyword "if" => readRedirected fuel line (← readIf fuel)
    | .keyword "while" => readRedirected fuel line (← readLoop fuel false)
    | .keyword "until" => readRedirected fuel line (← readLoop fuel true)
    | .keyword "for" => readRedirected fuel line (← readFor fuel line)
    | .keyword "case" => readRedirected fuel line (← readCase fuel line)
    | .keyword "\x7b" =>
      let body ← readList fuel false false .nothing
      expect fuel "\x7d"
      readRedirected fuel line body
    | .opening =>
      let body ← readList fuel false false .nothing
      match ← readToken fuel {} with
      | .closing => return .subshell line body (← readRedirects fuel)
      | t => unexpected t (some (Token.display .closing))
    | .word _ | .redirect .. =>
      push t
      readSimple fuel line [] [] []
    | t => unexpected t none

def readIf : (fuel : Nat) → Reading Node
  | 0 => fault .exhausted
  | fuel + 1 => do
    let test ← readList fuel false false .nothing
    expect fuel "then"
    let yes ← readList fuel false false .nothing
    match ← readToken fuel { keywords := true } with
    | .keyword "elif" => return .choice test yes (← readIf fuel)
    | .keyword "else" =>
      let no ← readList fuel false false .nothing
      expect fuel "fi"
      return .choice test yes no
    | t =>
      push t
      expect fuel "fi"
      return .choice test yes .nothing

def readLoop : (fuel : Nat) → (negated : Bool) → Reading Node
  | 0, _ => fault .exhausted
  | fuel + 1, negated => do
    let test ← readList fuel false false .nothing
    expect fuel "do"
    let body ← readList fuel false false .nothing
    expect fuel "done"
    return .repeated negated test body

def readFor : (fuel : Nat) → (line : Nat) → Reading Node
  | 0, _ => fault .exhausted
  | fuel + 1, line => do
    let name ←
      match ← readToken fuel {} with
      | .word w =>
        match w.plain? with
        | some name => if isName name then pure name else fault .badLoopVariable
        | none => fault .badLoopVariable
      | _ => fault .badLoopVariable
    let words ←
      match ← readToken fuel { newlines := true, keywords := true } with
      | .keyword "in" => do
        let (words, t) ← readWords fuel
        match t with
        | .newline => pure words
        | .semicolon => pure words
        | t => unexpected t none
      | .semicolon => pure [[.parameter "@" .value true]]
      | t => do
        push t
        pure [[.parameter "@" .value true]]
    match ← readToken fuel .anywhere with
    | .keyword "do" => pure ()
    | t => unexpected t (some (inQuotes "do"))
    let body ← readList fuel false false .nothing
    expect fuel "done"
    return .each line name words body

def readWords : (fuel : Nat) → Reading (List Word × Token)
  | 0 => fault .exhausted
  | fuel + 1 => do
    match ← readToken fuel {} with
    | .word w =>
      let (words, t) ← readWords fuel
      return (w :: words, t)
    | t => return ([], t)

def readCase : (fuel : Nat) → (line : Nat) → Reading Node
  | 0, _ => fault .exhausted
  | fuel + 1, line => do
    let subject ←
      match ← readToken fuel {} with
      | .word w => pure w
      | t => unexpected t (some "word")
    match ← readToken fuel .anywhere with
    | .keyword "in" => pure ()
    | t => unexpected t (some (inQuotes "in"))
    return .select line subject (← readBranches fuel)

def readBranches : (fuel : Nat) → Reading (List (List Word × Node))
  | 0 => fault .exhausted
  | fuel + 1 => do
    match ← readToken fuel { newlines := true, keywords := true } with
    | .keyword "esac" => return []
    | t =>
      let t ←
        match t with
        | .opening => readToken fuel {}
        | t => pure t
      let patterns ← readPatterns fuel t
      let body ← readList fuel false true .nothing
      match ← readToken fuel { newlines := true, keywords := true } with
      | .keyword "esac" => return [(patterns, body)]
      | .endCase => return (patterns, body) :: (← readBranches fuel)
      | t => unexpected t (some (inQuotes ";;"))

def readPatterns : (fuel : Nat) → Token → Reading (List Word)
  | 0, _ => fault .exhausted
  | fuel + 1, t => do
    let pattern : Word ←
      match t with
      | .word w => pure w
      | .keyword name => pure [.text name.toList false]
      | t => unexpected t (some (Token.display .closing))
    match ← readToken fuel {} with
    | .pipe => return pattern :: (← readPatterns fuel (← readToken fuel {}))
    | .closing => return [pattern]
    | t => unexpected t (some (Token.display .closing))

def readTarget : (fuel : Nat) → Token → Reading Redirect
  | 0, _ => fault .exhausted
  | fuel + 1, .redirect stream (.document _) stripped => do
    let _ ← takeWhile fun c => c = ' ' || c = '\t'
    let mark ← readParts fuel .mark
    if mark.isEmpty then unexpected (← readToken fuel {}) none
    let quoted := mark.any fun | .text _ quoted => quoted | _ => false
    let text := mark.flatMap fun | .text cs _ => cs | _ => []
    let number := (← get).nextDocument
    modify fun c =>
      { c with
        nextDocument := number + 1
        awaited := c.awaited ++ [{ number, mark := text, stripped, quoted }] }
    return .mk stream (.document number) []
  | fuel + 1, .redirect stream action _ => do
    match ← readToken fuel {} with
    | .word w => return .mk stream action w
    | t => unexpected t none
  | _ + 1, t => unexpected t none

def readRedirects : (fuel : Nat) → Reading (List Redirect)
  | 0 => fault .exhausted
  | fuel + 1 => do
    match ← readToken fuel .command with
    | .redirect stream action stripped =>
      let r ← readTarget fuel (.redirect stream action stripped)
      return r :: (← readRedirects fuel)
    | t =>
      push t
      return []

def readRedirected : (fuel : Nat) → (line : Nat) → Node → Reading Node
  | 0, _, _ => fault .exhausted
  | fuel + 1, line, body => do
    match ← readRedirects fuel with
    | [] => return body
    | redirects => return .redirected line body redirects

/-- Reads a simple command, or the definition of a function, from the parts that have been read
of it. -/
def readSimple : (fuel : Nat) → (line : Nat) → (assignments : List (String × Word)) →
    (words : List Word) → (redirects : List Redirect) → Reading Node
  | 0, _, _, _, _ => fault .exhausted
  | fuel + 1, line, assignments, words, redirects => do
    match ← readToken fuel { aliases := words.isEmpty } with
    | .word w =>
      match if words.isEmpty then assignment? w else none with
      | some a => readSimple fuel line (assignments ++ [a]) words redirects
      | none => readSimple fuel line assignments (words ++ [w]) redirects
    | .redirect stream action stripped =>
      let r ← readTarget fuel (.redirect stream action stripped)
      readSimple fuel line assignments words (redirects ++ [r])
    | .opening =>
      match words, assignments, redirects with
      | [name], [], [] => readFunction fuel name
      | _, _, _ =>
        push .opening
        return .simple line assignments words redirects
    | t =>
      push t
      return .simple line assignments words redirects

def readFunction : (fuel : Nat) → Word → Reading Node
  | 0, _ => fault .exhausted
  | fuel + 1, word => do
    match ← readToken fuel {} with
    | .closing => pure ()
    | t => unexpected t (some (Token.display .closing))
    match word.plain? with
    | some name =>
      if isName name && !specialBuiltins.contains name then
        return .define name (← readCommand fuel .anywhere)
      fault .badFunctionName
    | none => fault .badFunctionName

end

def readLine (fuel : Nat) : Reading (Option Node) := do
  let node ← readList fuel true false .nothing
  let cursor ← get
  match node, cursor.pushed with
  | .nothing, some .done => return none
  | node, _ => return some node

end PageScript.Shell
