/-
Expanding words: from what stands in a script to the texts that a command gets.

A word becomes a list of glyphs, which are characters that know whether they were quoted and whether
they may part fields. Glyphs are parted into fields, and a field in which something is a pattern
becomes the names of the files that it matches, if there are any.
-/
import PageScript.Shell.Arithmetic
import PageScript.Shell.State

namespace PageScript.Shell

-- ======== glyphs

/-- A part of a word that is being expanded. -/
inductive Glyph where
  /-- A character; one that `parts` can part fields. -/
  | char (c : Char) (quoted parts : Bool)
  /-- Makes a field even if nothing else does. -/
  | keep
  /-- Ends a field. -/
  | cut
  deriving Repr, DecidableEq, Inhabited

namespace Glyph

def ofValue (text : String) (quoted : Bool) : List Glyph :=
  let chars := text.toList.map fun c => .char c quoted (!quoted)
  if quoted then .keep :: chars else chars

def ofValues (texts : List String) (quoted : Bool) : List Glyph :=
  [Glyph.cut].intercalate (texts.map fun t => ofValue t quoted)

def loosened : Glyph → Glyph
  | .char c false _ => .char c false true
  | g => g

def marks (between : List Char) (gs : List Glyph) : List Mark :=
  gs.flatMap fun
    | .char c quoted _ => [(c, quoted)]
    | .keep => []
    | .cut => between.map fun c => (c, true)

def text (between : List Char) (gs : List Glyph) : String :=
  String.ofList ((marks between gs).map Prod.fst)

/-- What came last while glyphs are parted into fields. -/
inductive Lead where
  | field
  /-- A blank behind a field; another divider belongs to it. -/
  | blank
  | divider
  deriving Repr, DecidableEq, Inhabited

/-- The fields so far, the latest first, the one that is being read, and what came last. -/
structure Parting where
  done : List (List Mark) := []
  current : Option (List Mark) := none
  lead : Lead := .divider

def Parting.endField (p : Parting) (lead : Lead) : Parting :=
  match p.current with
  | some field => { done := field.reverse :: p.done, current := none, lead }
  | none => p

def Parting.step (dividers : List Char) (p : Parting) : Glyph → Parting
  | .keep => { p with current := some (p.current.getD []), lead := .field }
  | .cut => { p.endField .divider with lead := .divider }
  | .char c quoted parts =>
    if parts && dividers.contains c then
      if c = ' ' || c = '\t' || c = '\n' then p.endField .blank
      else
        match p.current, p.lead with
        | some _, _ => p.endField .divider
        | none, .blank => { p with lead := .divider }
        | none, _ => { p with done := [] :: p.done, lead := .divider }
    else { p with current := some ((c, quoted) :: p.current.getD []), lead := .field }

def fields (dividers : List Char) (gs : List Glyph) : List (List Mark) :=
  let p := gs.foldl (Parting.step dividers) {}
  ((p.endField .divider).done).reverse

end Glyph

-- ======== parameters

def State.joint (s : State) : List Char :=
  match s.stored? "IFS" with
  | some { value := some ifs, .. } => ifs.toList.take 1
  | _ => [' ']

def isAll (name : String) : Bool :=
  name = "@" || name = "*"

def parameterGlyphs (s : State) (name : String) (quoted : Bool) : List Glyph :=
  if name = "@" || (name = "*" && !quoted) then Glyph.ofValues s.args quoted
  else Glyph.ofValue (s.value name) quoted

def withHome (home : String → Option String) (cs : List Char) (last : Bool) : Word :=
  match cs with
  | '~' :: rest =>
    let user := rest.takeWhile (· ≠ '/')
    let after := rest.drop user.length
    if after.isEmpty && !last then [.text cs false]
    else
      match home (String.ofList user) with
      | some dir =>
        .text dir.toList true :: (if after.isEmpty then [] else [.text after false])
      | none => [.text cs false]
  | _ => [.text cs false]

def State.home? (s : State) (user : String) : Option String :=
  if user = "" then s.value? "HOME" else if user = "root" then some "/root" else none

def State.homed (s : State) (w : Word) : Word :=
  match w with
  | .text cs false :: rest => withHome s.home? cs rest.isEmpty ++ rest
  | _ => w

/-- The value of an assignment with the tildes replaced that stand at its front or behind a colon.
-/
def State.homedValue (s : State) (w : Word) : Word :=
  let pieces (cs : List Char) (last : Bool) : Word :=
    let parts := Text.splitOn ':' cs
    let homed := parts.zipIdx.map fun (part, i) =>
      withHome s.home? part (last || i + 1 < parts.length)
    [Part.text [':'] false].intercalate homed
  match w with
  | .text cs false :: rest => pieces cs rest.isEmpty ++ rest
  | _ => w

-- ======== words

abbrev Substitution := Node → Action String

mutual

def glyphsOf (run : Substitution) : (fuel : Nat) → Word → Action (List Glyph)
  | 0, _ => unfinished
  | _ + 1, [] => return []
  | fuel + 1, part :: rest => do
    let front ← glyphsOfPart run fuel part
    return front ++ (← glyphsOf run fuel rest)

def glyphsOfPart (run : Substitution) : (fuel : Nat) → Part → Action (List Glyph)
  | 0, _ => unfinished
  | _ + 1, .text cs quoted =>
    if quoted && cs.isEmpty then return [.keep]
    else return cs.map fun c => .char c quoted false
  | fuel + 1, .parameter name use quoted => glyphsOfParameter run fuel name use quoted
  | _ + 1, .command body quoted => do
    return Glyph.ofValue (← run body) quoted
  | fuel + 1, .arithmetic expression quoted => do
    let glyphs ← glyphsOf run fuel expression
    let s ← get
    let text := Glyph.text s.joint glyphs
    match Arithmetic.evaluate s.value? text.toList with
    | .error e => abort (e.message text)
    | .ok (n, assigned) =>
      for (name, value) in assigned do
        assign name (Number.intText value.toInt)
      return Glyph.ofValue (Number.intText n.toInt) quoted
  | _ + 1, .flawed => abort "Bad substitution"

def glyphsOfParameter (run : Substitution) :
    (fuel : Nat) → String → Usage → (quoted : Bool) → Action (List Glyph)
  | 0, _, _, _ => unfinished
  | fuel + 1, name, use, quoted => do
    let s ← get
    let needed : Action Unit := do
      if s.has 'u' && !isAll name && (s.value? name).isNone then
        abort (name ++ ": parameter not set")
    match use with
    | .value =>
      needed
      return parameterGlyphs s name quoted
    | .length =>
      needed
      return Glyph.ofValue (Number.natText (s.value name).length) quoted
    | .trim atEnd longest pattern =>
      needed
      let glyphs ← glyphsOf run fuel (s.homed pattern)
      let s ← get
      let g := Glob.ofMarks (Glyph.marks s.joint glyphs)
      let trimmed := g.trim atEnd longest (s.value name).toList
      return Glyph.ofValue (String.ofList trimmed) quoted
    | .fallback kind orEmpty word =>
      let value := s.value? name
      let present := value.isSome && !(orEmpty && value = some "")
      let glyphsOfWord : Action (List Glyph) := do
        let word := if quoted then word else s.homed word
        let glyphs ← glyphsOf run fuel word
        return if quoted then .keep :: glyphs else glyphs.map Glyph.loosened
      match kind, present with
      | .use, true | .assign, true | .complain, true => return parameterGlyphs s name quoted
      | .use, false | .replace, true => glyphsOfWord
      | .replace, false => return if quoted then [.keep] else []
      | .assign, false =>
        if !isName name then abort (name ++ ": bad variable name")
        let text := Glyph.text s.joint (← glyphsOf run fuel (s.homed word))
        assign name text
        return Glyph.ofValue text quoted
      | .complain, false =>
        let text := Glyph.text s.joint (← glyphsOf run fuel word)
        let standard := "parameter not set" ++ (if orEmpty then " or null" else "")
        abort (name ++ ": " ++ (if word.isEmpty then standard else text))

end

def nesting : Nat := 100000

def expandText (run : Substitution) (w : Word) : Action String := do
  let glyphs ← glyphsOf run nesting ((← get).homed w)
  return Glyph.text (← get).joint glyphs

def expandValue (run : Substitution) (w : Word) : Action String := do
  let glyphs ← glyphsOf run nesting ((← get).homedValue w)
  return Glyph.text (← get).joint glyphs

def expandDocument (run : Substitution) (w : Word) : Action String := do
  let glyphs ← glyphsOf run nesting w
  return Glyph.text (← get).joint glyphs

def expandPattern (run : Substitution) (w : Word) : Action Glob := do
  let glyphs ← glyphsOf run nesting ((← get).homed w)
  return Glob.ofMarks (Glyph.marks (← get).joint glyphs)

/-- The texts that a field becomes: the paths that it matches, or itself. -/
def matchingPaths (disk : Disk) (field : List Mark) : List String :=
  let plain := String.ofList (field.map Prod.fst)
  if !(Glob.ofMarks field).isProper then [plain]
  else
    let leading := field.takeWhile fun m => m.1 = '/'
    let segments := Text.splitOn '/' ((field.drop leading.length).map Prod.fst)
    let sizes := segments.map List.length
    let parts := (sizes.foldl
      (fun (acc : List (List Mark) × List Mark) n =>
        (acc.1 ++ [acc.2.take n], acc.2.drop (n + 1))) ([], field.drop leading.length)).1
    let start := String.ofList (leading.map Prod.fst)
    match Glob.paths disk start parts with
    | [] => [plain]
    | found => found.map pack

def expandFields (run : Substitution) (w : Word) : Action (List String) := do
  let glyphs ← glyphsOf run nesting ((← get).homed w)
  let s ← get
  let fields := Glyph.fields s.dividers glyphs
  if s.has 'f' then return fields.map fun f => String.ofList (f.map Prod.fst)
  else return fields.flatMap (matchingPaths s.disk)

def expandWords (run : Substitution) : List Word → Action (List String)
  | [] => return []
  | w :: rest => do
    let front ← expandFields run w
    return front ++ (← expandWords run rest)

end PageScript.Shell
