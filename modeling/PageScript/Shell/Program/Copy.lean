/-
Programs that pass their input on, or parts of it: `cat`, `tac`, `rev`, `tee`, `head` and `tail`.
-/
import PageScript.Shell.Program.Print

namespace PageScript.Shell.Program

-- ======== cat

def shownByte (tabs : Bool) (b : UInt8) : String :=
  let low (n : Nat) : String :=
    if n < 32 then "^" ++ (Char.ofNat (n + 64)).toString
    else if n = 127 then "^?"
    else (Char.ofNat n).toString
  if b = 0x0A ∨ (b = 0x09 ∧ !tabs) then (Char.ofNat b.toNat).toString
  else if b < 128 then low b.toNat
  else "M-" ++ low (b.toNat - 128)

/-- How `cat` shows lines. -/
structure Shown where
  numbered : Bool
  /-- Whether only lines that are not empty are numbered. -/
  filledOnly : Bool
  squeezed : Bool
  ends : Bool
  tabs : Bool
  visible : Bool

/-- Shows lines; `number` is that of the line before, and `emptied` says that it was empty. -/
def Shown.lines (s : Shown) : (number : Nat) → (emptied : Bool) → List Stream → Stream
  | _, _, [] => []
  | number, emptied, line :: rest =>
    let bare := bareLine line
    let empty := bare.isEmpty
    if s.squeezed && empty && emptied then s.lines number emptied rest
    else
      let counts := s.numbered && !(s.filledOnly && empty)
      let number := if counts then number + 1 else number
      let front :=
        if counts then bytesOf (({ width := 6 } : Layout).pad (Number.natText number) ++ "\t")
        else []
      let body :=
        if s.visible then bare.flatMap fun b => bytesOf (shownByte s.tabs b)
        else if s.tabs then bare.flatMap fun b => if b = 0x09 then bytesOf "^I" else [b]
        else bare
      let ending := if bare.length < line.length then
          (if s.ends then [0x24, 0x0A] else [0x0A])
        else []
      front ++ body ++ ending ++ s.lines number empty rest

def cat (call : Call) : Effect :=
  call.withOptions 1
    { flags := "AbeEnstTuv".toList
      long := [("show-all", 'A'), ("number-nonblank", 'b'), ("show-ends", 'E'), ("number", 'n'),
        ("squeeze-blank", 's'), ("show-tabs", 'T'), ("show-nonprinting", 'v')] }
    fun o =>
      let shown : Shown :=
        { numbered := o.has 'n' || o.has 'b', filledOnly := o.has 'b', squeezed := o.has 's',
          ends := o.has 'A' || o.has 'e' || o.has 'E',
          tabs := o.has 'A' || o.has 't' || o.has 'T',
          visible := o.has 'A' || o.has 'e' || o.has 't' || o.has 'v' }
      if o.given.all fun g => g.1 = 'u' then
        call.feedEach o.operands fun _ bytes => bytes
      else
        call.feedAll o.operands fun bytes => shown.lines 0 false (linesOf bytes)

def tac (call : Call) : Effect :=
  let wording (file : String) (e : IoError) : String :=
    match e with
    | .isDirectory => file ++ ": read error: Invalid argument"
    | _ => "failed to open " ++ quotedName file ++ " for reading: " ++ reason e
  let (found, effect) := call.inputs call.args 1 wording
  effect.send (found.flatMap fun f => (linesOf f.2).reverse.flatten)

def rev (call : Call) : Effect :=
  let (found, effect) := call.inputs call.args 1 fun file e =>
    "cannot open " ++ nameText file ++ ": " ++ reason e
  effect.send ((found.flatMap fun f => linesOf f.2).flatMap fun line =>
    let bare := bareLine line
    let whole := (widen (ofBytes bare)).toList.reverse
    wideBytes (String.ofList whole) ++ line.drop bare.length)

def tee (call : Call) : Effect :=
  call.withOptions 1 { flags := "ai".toList, long := [("append", 'a')] } fun o =>
    let effect : Effect :=
      { writes := [(1, call.input)], rest := some [], disk := call.disk }
    o.operands.foldl
      (fun effect file =>
        let before := match effect.disk.read (pathOf file) with
          | .ok bytes => if o.has 'a' then bytes else []
          | .error _ => []
        match effect.store file (before ++ call.input) with
        | .ok effect => effect
        | .error e => effect.complain call 1 (nameText file ++ ": " ++ reason e))
      effect

-- ======== head and tail

/-- A number of lines or bytes with the sign in front of it, and a letter behind it for a multiple.
-/
def readQuota? (text : String) : Option (Option Char × Nat) :=
  let cs := text.toList
  let (sign, cs) := match cs with
    | '-' :: rest => (some '-', rest)
    | '+' :: rest => (some '+', rest)
    | _ => (none, cs)
  let ds := cs.takeWhile Char.isDigit
  let unit := match cs.drop ds.length with
    | [] => some 1
    | ['b'] => some 512
    | ['K'] | ['k'] | ['K', 'i', 'B'] => some 1024
    | ['k', 'B'] | ['K', 'B'] => some 1000
    | ['M'] | ['m'] | ['M', 'i', 'B'] => some (1024 * 1024)
    | ['M', 'B'] => some (1000 * 1000)
    | ['G'] | ['G', 'i', 'B'] => some (1024 * 1024 * 1024)
    | _ => none
  if ds.isEmpty then none
  else unit.map fun n => (sign, Number.digitsValue ds * n)

/-- Which part of its input a program keeps. -/
inductive Portion where
  | first (count : Nat)
  | butLast (count : Nat)
  | last (count : Nat)
  /-- All from the one with this number on. -/
  | onwards (number : Nat)
  deriving Repr, DecidableEq, Inhabited

def Portion.of {α : Type} (p : Portion) (all : List α) : List α :=
  match p with
  | .first n => all.take n
  | .butLast n => all.take (all.length - n)
  | .last n => all.drop (all.length - n)
  | .onwards n => all.drop (n - 1)

/-- Keeps a part of each file, in lines or in bytes, with a heading over it if there are several. -/
def keep (call : Call) (o : Options) (portion : Portion) (inLines : Bool) : Effect :=
  let files := if o.operands.isEmpty then ["-"] else o.operands
  let headed := match o.last? ['q', 'v'] with
    | some 'q' => false
    | some _ => true
    | none => files.length > 1
  let part (bytes : Stream) : Stream :=
    if inLines then (portion.of (linesOf bytes o.mark)).flatten else portion.of bytes
  let heading (headless : Bool) (title : String) : Stream :=
    if headed then bytesOf ((if headless then "" else "\n") ++ "==> " ++ title ++ " <==\n") else []
  let step (acc : Effect × Bool) (file : String) : Effect × Bool :=
    let (effect, headless) := acc
    match call.take effect file with
    | .ok (bytes, effect) =>
      let title := if file = "-" then "standard input" else file
      let kept := part bytes
      let effect :=
        if call.isInput file then
          let rest := match portion with
            | .first _ => if call.fromFile then bytes.drop kept.length else bytes.drop 8192
            | _ => []
          { effect with rest := some rest }
        else effect
      (effect.send (heading headless title ++ kept), false)
    | .error .isDirectory =>
      ((effect.send (heading headless file)).complain call 1
        ("error reading " ++ quotedName file ++ ": Is a directory"), false)
    | .error e =>
      (effect.complain call 1
        ("cannot open " ++ quotedName file ++ " for reading: " ++ reason e), headless)
  (files.foldl step ({ disk := call.disk }, true)).1

/-- The options of `head` and `tail`. -/
def portionOptions : OptionSet :=
  { flags := "fqvz".toList, valued := "cn".toList
    long := [("bytes", 'c'), ("lines", 'n'), ("quiet", 'q'), ("silent", 'q'), ("verbose", 'v'),
      ("follow", 'f'), ("zero-terminated", 'z')] }

/-- Keeps the parts that the options of `head` or `tail` ask for. -/
def keepPortion (call : Call) (portion : Option Char × Nat → Portion) : Effect :=
  { call with args := expandCount 'n' call.args }.withOptions 1 portionOptions fun o =>
    let inLines := o.last? ['c', 'n'] ≠ some 'c'
    let text := (if inLines then o.value? 'n' else o.value? 'c').getD "10"
    match readQuota? text with
    | some quota => keep call o (portion quota) inLines
    | none =>
      .complaining call 1
        ("invalid number of " ++ (if inLines then "lines" else "bytes") ++ ": " ++ quoted text)

def head (call : Call) : Effect :=
  keepPortion call fun
    | (some '-', n) => .butLast n
    | (_, n) => .first n

def tail (call : Call) : Effect :=
  let args := match call.args with
    | arg :: rest =>
      match arg.toList with
      | '+' :: d :: ds => if d.isDigit then "-n" :: ("+" ++ String.ofList (d :: ds)) :: rest
        else call.args
      | _ => call.args
    | [] => []
  keepPortion { call with args } fun
    | (some '+', n) => .onwards n
    | (_, n) => .last n

end PageScript.Shell.Program
