/-
Texts in quotation marks, as complaints of programs have them.

There are two ways. A value stands between curved marks, and what would not show in it is spelled
out. The name of a file stands as a shell would have it written, between straight marks, so that it
can be used again; in some places the marks are left out if a shell could do without them.
-/
import PageScript.Shell.Octets

namespace PageScript.Shell

-- ======== characters

/-- How many bytes more a character has that starts with a byte, if a character can. -/
def trailing? (c : Char) : Option Nat :=
  let n := c.toNat
  if n < 0x80 then some 0
  else if 0xC2 ≤ n ∧ n ≤ 0xDF then some 1
  else if 0xE0 ≤ n ∧ n ≤ 0xEF then some 2
  else if 0xF0 ≤ n ∧ n ≤ 0xF4 then some 3
  else none

def character? (bytes : List Char) : Option Char :=
  match Text.decode? (ofChars bytes) with
  | some text => match text.toList with | [c] => some c | _ => none
  | none => none

def leading? (c : Char) (rest : List Char) : Option (Char × Nat) := do
  let n ← trailing? c
  let found ← character? (c :: rest.take n)
  return (found, n)

/-- The characters of a text, each with its bytes. A byte that belongs to no character stands for
itself; for it there is no character. `skip` bytes belong to a character already found. -/
def charactersFrom (skip : Nat) : List Char → List (Option Char × List Char)
  | [] => []
  | c :: rest =>
    match skip with
    | skip + 1 => charactersFrom skip rest
    | 0 =>
      match leading? c rest with
      | some (found, n) => (some found, c :: rest.take n) :: charactersFrom n rest
      | none => (none, [c]) :: charactersFrom 0 rest

def characters (s : String) : List (Option Char × List Char) :=
  charactersFrom 0 s.toList

def shows (c : Char) : Bool :=
  let n := c.toNat
  if n < 0xA0 then 0x20 ≤ n && n < 0x7F else n ≠ 0x2028 && n ≠ 0x2029

def controlLetter? (c : Char) : Option Char :=
  [('\x07', 'a'), ('\x08', 'b'), ('\x0C', 'f'), ('\n', 'n'), ('\r', 'r'), ('\t', 't'),
    ('\x0B', 'v')].lookup c

def octalEscape (c : Char) : String :=
  let n := c.toNat
  String.ofList ('\\' :: [n / 64, n / 8 % 8, n % 8].map fun d => Char.ofNat (48 + d))

def spelled (bytes : List Char) : String :=
  match bytes with
  | [c] =>
    match controlLetter? c with
    | some letter => String.ofList ['\\', letter]
    | none => octalEscape c
  | _ => String.join (bytes.map octalEscape)

-- ======== marks

def openingMark : String := pack "‘"

def closingMark : String := pack "’"

def quoted (s : String) : String :=
  let inner := (characters s).map fun (found, bytes) =>
    let text := String.ofList bytes
    if found = some '\\' || text = closingMark then "\\" ++ text
    else if (found.map shows).getD false then text
    else spelled bytes
  openingMark ++ String.join inner ++ closingMark

def ticked (s : String) : String :=
  "'" ++ s ++ "'"

def isMild (c : Char) : Bool :=
  shows c && !"!\"#$&()*;<=>?[\\^\x60\x7b|\x7d~".toList.contains c

/-- Whether a character asks a shell for something; some do only at the start, and some only on
their own. -/
def isCharged (c : Char) (first alone : Bool) : Bool :=
  " !\"$&'()*:;<=>?[\\^\x60|".toList.contains c || (first && (c = '#' || c = '~')) ||
    (alone && (c = '\x7b' || c = '\x7d'))

/-- What is between the straight marks of a name: characters that do not show are spelled out
between marks of their own, which `inside` says are open. -/
def nameParts (inside : Bool) : List (Option Char × List Char) → List String
  | [] => []
  | (found, bytes) :: rest =>
    if (found.map shows).getD false then
      (if inside then "''" else "") ::
        (if found = some '\'' then "'\\''" else String.ofList bytes) :: nameParts false rest
    else (if inside then "" else "'$'") :: spelled bytes :: nameParts true rest

def quotedName (s : String) : String :=
  let mild := (characters s).all fun c => (c.1.map isMild).getD false
  if s.toList.contains '\'' && mild then "\"" ++ s ++ "\""
  else ticked (String.join (nameParts false (characters s)))

def needsMarks (s : String) : Bool :=
  s = "" ||
    (characters s).zipIdx.any fun ((found, _), i) =>
      match found with
      | some c => !shows c || isCharged c (i = 0) (s.length = 1)
      | none => true

def nameText (s : String) : String :=
  if needsMarks s then quotedName s else s

end PageScript.Shell
