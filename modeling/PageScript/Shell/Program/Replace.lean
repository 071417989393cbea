/-
Replacing bytes by others: `tr`.
-/
import PageScript.Shell.Glob
import PageScript.Shell.Program.Print

namespace PageScript.Shell.Program

/-- What is wrong with the sets of `tr`. -/
inductive SetFault where
  | reversed (text : String)
  | badClass (name : String)
  | noClass
  | noEquivalent
  | manyEquivalents (text : String)
  | badCount (text : String)
  /-- A byte is repeated as often as needed, in the first set. -/
  | fillInFirst
  /-- The same, twice in the second set. -/
  | twoFills
  /-- The same, where nothing is replaced. -/
  | fillUnused
  | equivalentInSecond
  | classInSecond
  | misaligned
  | endsInClass
  | emptySecond
  deriving Repr, DecidableEq, Inhabited

def SetFault.message : SetFault → String
  | .reversed text =>
    "range-endpoints of " ++ ticked text ++ " are in reverse collating sequence order"
  | .badClass name => "invalid character class " ++ quoted name
  | .noClass => "missing character class name '[::]'"
  | .noEquivalent => "missing equivalence class character '[==]'"
  | .manyEquivalents text => text ++ ": equivalence class operand must be a single character"
  | .badCount text => "invalid repeat count " ++ quoted text ++ " in [c*n] construct"
  | .fillInFirst => "the [c*] repeat construct may not appear in string1"
  | .twoFills => "only one [c*] repeat construct may appear in string2"
  | .fillUnused => "the [c*] construct may appear in string2 only when translating"
  | .equivalentInSecond => "[=c=] expressions may not appear in string2 when translating"
  | .classInSecond =>
    "when translating, the only character classes that may appear in\n" ++
      "string2 are 'upper' and 'lower'"
  | .misaligned => "misaligned [:upper:] and/or [:lower:] construct"
  | .endsInClass =>
    "when translating with string1 longer than string2,\n" ++
      "the latter string must not end with a character class"
  | .emptySecond => "when not truncating set1, string2 must be non-empty"

/-- A part of a set: bytes, a named class, what is equivalent to a byte, or a byte that is repeated
so often, or as often as needed. -/
inductive SetItem where
  | bytes (bs : Stream)
  | named (name : String) (bs : Stream)
  | equivalent (b : UInt8)
  | fill (b : UInt8) (count : Option Nat)
  deriving Repr, DecidableEq, Inhabited

namespace SetItem

def expand (item : SetItem) (wanted : Nat) : Stream :=
  match item with
  | .bytes bs | .named _ bs => bs
  | .equivalent b => [b]
  | .fill b count => List.replicate (count.getD wanted) b

def isCase : SetItem → Bool
  | .named name _ => name = "upper" || name = "lower"
  | _ => false

def isFill : SetItem → Bool
  | .fill _ none => true
  | _ => false

end SetItem

def unescapeSet : (fuel : Nat) → List Char → List (Char × Bool)
  | 0, _ => []
  | _, [] => []
  | _ + 1, ['\\'] => [('\\', true)]
  | fuel + 1, '\\' :: c :: rest =>
    if isOctal c then
      let ds := ((c :: rest).take 3).takeWhile isOctal
      (Char.ofNat (octal ds).toNat, true) :: unescapeSet fuel ((c :: rest).drop ds.length)
    else
      let plain := match c with
        | 'a' => '\x07'
        | 'b' => '\x08'
        | 'f' => '\x0c'
        | 'n' => '\n'
        | 'r' => '\r'
        | 't' => '\t'
        | 'v' => '\x0b'
        | _ => c
      (plain, true) :: unescapeSet fuel rest
  | fuel + 1, c :: rest => (c, false) :: unescapeSet fuel rest

def rangeBytes (ranges : List (Char × Char)) : Stream :=
  ranges.flatMap fun (lo, hi) =>
    (List.range (hi.toNat + 1 - lo.toNat)).map fun i => UInt8.ofNat (lo.toNat + i)

/-- Reads the parts of a set; each takes one of `fuel`. -/
def readSetItems : (fuel : Nat) → List (Char × Bool) → Except SetFault (List SetItem)
  | 0, _ => .ok []
  | _, [] => .ok []
  | fuel + 1, ('[', false) :: (':', false) :: rest => do
    let name := rest.takeWhile fun m => m.1 ≠ ':'
    match rest.drop name.length with
    | (':', false) :: (']', false) :: after =>
      let name := String.ofList (name.map Prod.fst)
      if name = "" then throw .noClass
      match classRanges name with
      | [] => throw (.badClass name)
      | ranges => return .named name (rangeBytes ranges) :: (← readSetItems fuel after)
    | _ => return .bytes [0x5B] :: (← readSetItems fuel ((':', false) :: rest))
  | fuel + 1, ('[', false) :: ('=', false) :: rest => do
    let inside := rest.takeWhile fun m => m.1 ≠ '='
    match inside, rest.drop inside.length with
    | [], ('=', false) :: (']', false) :: _ => throw .noEquivalent
    | [(c, _)], ('=', false) :: (']', false) :: after =>
      return .equivalent (UInt8.ofNat c.toNat) :: (← readSetItems fuel after)
    | _, ('=', false) :: (']', false) :: _ =>
      throw (.manyEquivalents (String.ofList (inside.map Prod.fst)))
    | _, _ => return .bytes [0x5B] :: (← readSetItems fuel (('=', false) :: rest))
  | fuel + 1, ('[', false) :: (c, q) :: ('*', false) :: rest => do
    let ds := (rest.takeWhile fun m => m.1.isDigit).map Prod.fst
    match rest.drop ds.length with
    | (']', false) :: after =>
      let base := if ds.head? = some '0' then 8 else 10
      let count := ds.foldl (fun n d => n * base + (d.toNat - '0'.toNat)) 0
      let item := SetItem.fill (UInt8.ofNat c.toNat) (if count = 0 then none else some count)
      return item :: (← readSetItems fuel after)
    | _ =>
      let inside := rest.takeWhile fun m => m.1 ≠ ']'
      if inside.length < rest.length then
        throw (.badCount (String.ofList (inside.map Prod.fst)))
      else return .bytes [0x5B] :: (← readSetItems fuel ((c, q) :: ('*', false) :: rest))
  | fuel + 1, (lo, _) :: ('-', false) :: (hi, _) :: rest =>
    if hi < lo then .error (.reversed (String.ofList [lo, '-', hi]))
    else do return .bytes (rangeBytes [(lo, hi)]) :: (← readSetItems fuel rest)
  | fuel + 1, (c, _) :: rest => do
    return .bytes [UInt8.ofNat c.toNat] :: (← readSetItems fuel rest)

/-- The bytes of a set that is to have so many of them if one of its parts can be repeated. -/
def setBytes (items : List SetItem) (wanted : Nat) : Stream :=
  let fixed := (items.map fun item => (item.expand 0).length).sum
  items.flatMap fun item => item.expand (wanted - fixed)

def caseStarts (items : List SetItem) (wanted : Nat) : List Nat :=
  let fixed := (items.map fun item => (item.expand 0).length).sum
  (items.foldl
    (fun (acc : List Nat × Nat) item =>
      (if item.isCase then acc.2 :: acc.1 else acc.1,
        acc.2 + (item.expand (wanted - fixed)).length))
    ([], 0)).1

def squeeze (set : Stream) (bytes : Stream) : Stream :=
  (bytes.foldl
    (fun (kept : Stream) b =>
      if kept.head? = some b && set.contains b then kept else b :: kept) []).reverse

/-- Replaces the bytes of one set by those of another, takes them away, or takes their repetitions
away. -/
def tr (call : Call) : Effect :=
  call.withOptions 1
    { flags := "cCdst".toList, ordered := true
      long := [("complement", 'c'), ("delete", 'd'), ("squeeze-repeats", 's'),
        ("truncate-set1", 't')] }
    fun o =>
      let deletes := o.has 'd'
      let squeezes := o.has 's'
      match o.operands with
      | [] => .misused call 1 "missing operand"
      | [only] =>
        if deletes = squeezes then
          let purpose := if deletes then "both deleting and squeezing repeats" else "translating"
          .misused call 1 ("missing operand after " ++ quoted only ++
            "\nTwo strings must be given when " ++ purpose ++ ".")
        else run call o only none
      | [first, second] =>
        if deletes && !squeezes then
          .misused call 1 ("extra operand " ++ quoted second ++
            "\nOnly one string may be given when deleting without squeezing repeats.")
        else run call o first (some second)
      | _ :: _ :: extra :: _ => .misused call 1 ("extra operand " ++ quoted extra)
where
  /-- The parts of a set that a text writes. -/
  items (text : String) : Except SetFault (List SetItem) :=
    readSetItems (text.length + 1) (unescapeSet (text.length + 1) text.toList)
  /-- Checks that a second set goes with a first one. -/
  check (o : Options) (one two : List SetItem) (old new : Stream) : Except SetFault Unit := do
    if (two.filter SetItem.isFill).length > 1 then throw .twoFills
    if o.has 'd' then
      if two.any SetItem.isFill then throw .fillUnused
    else
      for item in two do
        match item with
        | .equivalent _ => throw .equivalentInSecond
        | .named name _ => if name ≠ "upper" && name ≠ "lower" then throw .classInSecond
        | _ => pure ()
      let starts := caseStarts one 0
      let complement := o.has 'c' || o.has 'C'
      if !complement && (caseStarts two old.length).any fun p =>
          p < old.length && !starts.contains p then throw .misaligned
      if new.length < old.length && !o.has 't' then
        if new.isEmpty then throw .emptySecond
        match two.getLast? with
        | some (.named _ _) => throw .endsInClass
        | _ => pure ()
  /-- Does what the options say with one set or two. -/
  run (call : Call) (o : Options) (first : String) (second : Option String) : Effect :=
    let doubtful := (first :: second.toList).filter fun text =>
      (text.toList.reverse.takeWhile (· = '\\')).length % 2 = 1
    let warned := doubtful.foldl
      (fun (effect : Effect) _ => effect.complain call 0
        "warning: an unescaped backslash at end of string is not portable")
      { rest := some [], disk := call.disk }
    let complement := o.has 'c' || o.has 'C'
    let read : Except SetFault (Stream × Stream) := do
      let one ← items first
      let two ← items (second.getD "")
      if one.any SetItem.isFill then throw .fillInFirst
      let old := setBytes one 0
      let old :=
        if complement then ((List.range 256).map UInt8.ofNat).filter (!old.contains ·) else old
      let new := setBytes two old.length
      if second.isSome then check o one two old new
      return (old, new)
    match read with
    | .error e => warned.complain call 1 e.message
    | .ok (old, new) =>
      let (deletes, squeezes) := (o.has 'd', o.has 's')
      let finish (bytes : Stream) : Effect := warned.send bytes
      if deletes then
        let left := call.input.filter (!old.contains ·)
        finish (if squeezes then squeeze new left else left)
      else if second.isNone then finish (squeeze old call.input)
      else
        let pairs := old.zip (if o.has 't' then new
          else new ++ List.replicate (old.length - new.length) (new.getLast?.getD 0))
        let table := (List.range 256).map fun i =>
          let b := UInt8.ofNat i
          ((pairs.filter fun p => p.1 = b).getLast?.map Prod.snd).getD b
        let replaced := call.input.map fun b => (table[b.toNat]?).getD b
        finish (if squeezes then squeeze new replaced else replaced)

end PageScript.Shell.Program
