/-
Listing files: `ls`, `dir` and `vdir`.

What is listed is chosen and put in order first. It is then shown as names on lines of their own, in
columns or in rows, with commas between them, or with what else is known about each file.
-/
import PageScript.Shell.Date.Format
import PageScript.Shell.Glob
import PageScript.Shell.Program.Mode
import PageScript.Shell.Program.Order
import PageScript.Shell.Program.Place
import PageScript.Text.Width

namespace PageScript.Shell.Program

namespace Listing

/-- Something that is listed. -/
structure Item where
  name : String
  tree : Tree
  /-- What a link leads to, if it leads anywhere. -/
  target : Option Tree := none
  deriving Inhabited

-- ======== order

def endingOf (name : String) : String :=
  let back := name.toList.reverse.takeWhile (· ≠ '.')
  if back.length = name.length then "" else "." ++ String.ofList back.reverse

def orderOf (o : Options) : Char :=
  let word := match o.value? '\x01' with
    | some "none" => some 'U'
    | some "size" => some 'S'
    | some "time" => some 't'
    | some "extension" => some 'X'
    | some "version" => some 'v'
    | some _ => some 'n'
    | none => none
  (word <|> o.last? ['U', 'f', 'S', 't', 'X', 'v']).getD 'n'

def precedes (order : Char) (a b : Item) : Bool :=
  let byName : Bool := a.name ≤ b.name
  let first (x y : Nat) : Bool := x < y || (x = y && byName)
  match order with
  | 'S' => first (byteCount b.tree) (byteCount a.tree)
  | 't' => first (timeOf b.tree) (timeOf a.tree)
  | 'X' =>
    let (x, y) := (endingOf a.name, endingOf b.name)
    x < y || (x = y && byName)
  | 'v' =>
    match compareVersions (a.name.length + b.name.length + 1) a.name.toList b.name.toList with
    | .lt => true
    | .gt => false
    | .eq => byName
  | _ => byName

def sorted (o : Options) (items : List Item) : List Item :=
  let order := orderOf o
  if order = 'U' || order = 'f' then items
  else
    let items := items.mergeSort (precedes order)
    let items := if o.has 'r' then items.reverse else items
    if o.has '\x02' then
      let (dirs, others) := items.partition fun i => (i.target.getD i.tree).isDir
      dirs ++ others
    else items

def matchesAny (patterns : List String) (name : String) : Bool :=
  patterns.any fun p =>
    (Glob.ofMarks (p.toList.map fun c => (c, false))).accepts name.toList

def entriesOf (o : Options) (disk : Disk) (path : String) (entries : List (String × Tree)) :
    List Item :=
  let all := o.has 'a' || o.has 'f'
  let items : List Item := entries.map fun (name, tree) =>
    let name := pack name
    let target := match tree with
      | .link _ => (disk.find (pathOf (under path name))).toOption
      | _ => none
    { name, tree := if o.has 'L' then target.getD tree else tree, target }
  let dots : List Item :=
    if all then [⟨".", .ofEntries [], none⟩, ⟨"..", .ofEntries [], none⟩] else []
  sorted o (dots ++ items.filter fun i =>
    (all || o.has 'A' ||
      (!i.name.startsWith "." && !matchesAny (o.values '\x03') i.name)) &&
      !(o.has 'B' && i.name.endsWith "~") && !matchesAny (o.values 'I') i.name)

-- ======== names

def kindMark (o : Options) (tree : Tree) : String :=
  match tree with
  | .dir .. => if o.has 'F' || o.has 'p' || o.has '\x04' then "/" else ""
  | .link _ => if o.has 'F' || o.has '\x04' then "@" else ""
  | .file _ traits => if o.has 'F' && traits.runs then "*" else ""
  | .program _ => if o.has 'F' then "*" else ""
  | .device _ => ""

/-- A name as it is written: as it is, in double marks, or with escapes. -/
def nameShown (o : Options) (name : String) : String :=
  let escaped (more : List Char) : String :=
    String.join ((characters name).map fun (found, bytes) =>
    match found with
    | some c =>
      if c = '\\' || more.contains c then String.ofList ['\\', c]
      else if shows c then String.ofList bytes
      else spelled bytes
    | none => spelled bytes)
  match o.last? ['Q', 'b', 'N'] with
  | some 'Q' => "\"" ++ escaped ['"'] ++ "\""
  | some 'b' => escaped [' ']
  | _ =>
    if o.has 'q' then String.ofList (name.toList.map fun c => if c < ' ' then '?' else c) else name

def columnsOf (text : String) : Nat :=
  Text.width (Text.decodeLossy (bytesOf text))

def padTo (width : Nat) (text : String) (atStart : Bool := true) : String :=
  let fill := String.ofList (List.replicate (width - columnsOf text) ' ')
  if atStart then fill ++ text else text ++ fill

def shortSize (base : Nat) (size : Nat) : String :=
  let rec go : (letters : List Char) → (unit : Nat) → String
    | [], unit => Number.natText ((size + unit - 1) / unit)
    | letter :: rest, unit =>
      let tenths := (size * 10 + unit - 1) / unit
      if size < base && unit = base then Number.natText size
      else if tenths < 100 then
        Number.natText (tenths / 10) ++ "." ++ Number.natText (tenths % 10) ++ letter.toString
      else if (size + unit - 1) / unit < base then
        Number.natText ((size + unit - 1) / unit) ++ letter.toString
      else go rest (unit * base)
  if size < base then Number.natText size
  else go [if base = 1000 then 'k' else 'K', 'M', 'G', 'T', 'P'] base

/-- What stands in front of a name: how much room it takes. -/
def roomShown (o : Options) (items : List Item) (item : Item) : String :=
  if o.has 's' then
    let text (i : Item) : String :=
      if o.has 'h' then shortSize 1024 (1024 * roomOf i.tree) else Number.natText (roomOf i.tree)
    let width := (items.map fun i => (text i).length).foldl max 0
    padTo width (text item) ++ " "
  else ""

def shortShown (o : Options) (items : List Item) (item : Item) : String :=
  roomShown o items item ++ nameShown o item.name ++ kindMark o item.tree

-- ======== columns

/-- The blanks between two columns, with tabs as far as they reach; each takes one of `fuel`. -/
def gap : (fuel : Nat) → (place stop : Nat) → List Char
  | 0, _, _ => []
  | fuel + 1, place, stop =>
    if place ≥ stop then []
    else if stop / 8 > (place + 1) / 8 then '\t' :: gap fuel (place + 8 - place % 8) stop
    else ' ' :: gap fuel (place + 1) stop

def leastColumn : Nat := 3

/-- The widths of columns: each is as wide as the widest text in it, and all but the last one have
two blanks behind that. -/
def columnWidths (count rows : Nat) (byRow : Bool) (widths : List Nat) : List Nat :=
  (List.range count).map fun k =>
    let inside := (widths.zipIdx.filter fun (_, i) =>
      if byRow then i % count = k else i / rows = k).map Prod.fst
    (inside.map (· + if k + 1 = count then 0 else 2)).foldl max leastColumn

/-- How many columns fit; `count` are tried first. Columns of the least width always do. -/
def fitting (width : Nat) (byRow : Bool) (widths : List Nat) : (count : Nat) → Nat
  | 0 => 1
  | 1 => 1
  | count + 1 =>
    let rows := (widths.length + count) / (count + 1)
    let all := columnWidths (count + 1) rows byRow widths
    if all.sum < width || all.all (· = leastColumn) then count + 1
    else fitting width byRow widths count

def inColumns (width : Nat) (byRow : Bool) (texts : List String) : String :=
  let widths := texts.map columnsOf
  let most := (width + leastColumn - 1) / leastColumn
  let count := fitting width byRow widths (min texts.length (max 1 most))
  let rows := (texts.length + count - 1) / count
  let all := columnWidths count rows byRow widths
  String.join ((List.range rows).map fun r =>
    let places := (List.range count).map fun k => if byRow then r * count + k else k * rows + r
    let row := places.filterMap fun i => (texts[i]?).map fun t => (t, (widths[i]?).getD 0)
    let (line, _, _) := ((row.zip all).zipIdx).foldl
      (fun (acc : String × Nat × Nat) (((text, w), column), k) =>
        let (line, start, place) := acc
        let before := if k = 0 then "" else String.ofList (gap 1000 place start)
        (line ++ before ++ text, start + column, start + w))
      ("", 0, 0)
    line ++ "\n")

def inRow (width : Nat) (texts : List String) : String :=
  let (line, _) := texts.zipIdx.foldl
    (fun (acc : String × Nat) (text, i) =>
      let (line, place) := acc
      let w := columnsOf text
      if i = 0 then (text, w)
      else if width = 0 || place + w + 2 < width then (line ++ ", " ++ text, place + 2 + w)
      else (line ++ ",\n" ++ text, w))
    ("", 0)
  if texts.isEmpty then "" else line ++ "\n"

-- ======== facts

/-- A time as it is listed: with the hour if it is not long ago, else with the year. -/
def timeShown (o : Options) (changed : Nat) : String :=
  let moment : Date.Moment := { seconds := (changed / 10 ^ 9 : Nat), nanos := changed % 10 ^ 9 }
  let halfYear := 31556952 / 2
  let recent := startOfClock < changed / 10 ^ 9 + halfYear && changed / 10 ^ 9 ≤ startOfClock + 60
  let style := if o.has '\x05' then some "full-iso" else o.value? '\x06'
  match style with
  | some "full-iso" => moment.show "%Y-%m-%d %H:%M:%S.%N %z"
  | some "long-iso" => moment.show "%Y-%m-%d %H:%M"
  | some "iso" => moment.show (if recent then "%m-%d %H:%M" else "%Y-%m-%d ")
  | some format =>
    if format.startsWith "+" then moment.show (format.drop 1).toString
    else moment.show (if recent then "%b %e %H:%M" else "%b %e  %Y")
  | none => moment.show (if recent then "%b %e %H:%M" else "%b %e  %Y")

def sizeShown (o : Options) (tree : Tree) : String :=
  match tree with
  | .device kind => Number.natText kind.number.1 ++ ", " ++ Number.natText kind.number.2
  | _ =>
    if o.has '\x07' then shortSize 1000 (byteCount tree)
    else if o.has 'h' then shortSize 1024 (byteCount tree)
    else Number.natText (byteCount tree)

def isLong (o : Options) : Bool :=
  ['l', 'n', 'g', 'o', '\x05'].any o.has

def inFull (o : Options) (items : List Item) : String :=
  let widest (f : Item → String) : Nat := (items.map fun i => (f i).length).foldl max 0
  let names (i : Item) : String := Number.natText (nameCount i.tree)
  let size (i : Item) : String := sizeShown o i.tree
  let owner := if o.has 'n' then "0" else "root"
  String.join (items.map fun i =>
    let lead := match i.tree with
      | .link target =>
        nameShown o i.name ++ " -> " ++ nameShown o (pack target) ++
          ((i.target.map (kindMark o)).getD "")
      | tree => nameShown o i.name ++ kindMark o tree
    roomShown o items i ++ String.ofList [kindLetter i.tree] ++ modeText (modeOf i.tree) ++ " " ++
      padTo (widest names) (names i) ++ " " ++ (if o.has 'g' then "" else owner ++ " ") ++
      (if o.has 'o' || o.has 'G' then "" else owner ++ " ") ++ padTo (widest size) (size i) ++
      " " ++ timeShown o (timeOf i.tree) ++ " " ++ lead ++ "\n")

def shown (o : Options) (columns : Bool) (items : List Item) : String :=
  let width := ((o.value? 'w').bind decimal?).getD 80
  let texts := items.map (shortShown o items)
  if items.isEmpty then ""
  else if isLong o then inFull o items
  else
    match o.last? ['1', 'C', 'x', 'm'], columns with
    | some 'C', _ | none, true => inColumns width false texts
    | some 'x', _ => inColumns width true texts
    | some 'm', _ => inRow width texts
    | _, _ => String.join (texts.map (· ++ "\n"))

/-- The directories below one that are listed too, with their paths; each level takes one of `fuel`.
-/
def below (o : Options) (disk : Disk) : (fuel : Nat) → String → List (String × Tree) →
    List (String × List (String × Tree))
  | 0, _, _ => []
  | fuel + 1, path, entries =>
    (path, entries) :: (entriesOf o disk path entries).flatMap fun item =>
      match item.tree with
      | .dir inner _ =>
        if item.name = "." || item.name = ".." then []
        else below o disk fuel (under path item.name) inner
      | _ => []

def options : OptionSet :=
  { flags := "1aAbBcCdfFgGhHiklLmnNopqQrRsStuUvxXZ".toList
    valued := "wIT".toList, valuedLong := ['\x01', '\x03', '\x06']
    long := [("all", 'a'), ("almost-all", 'A'), ("directory", 'd'), ("classify", 'F'),
      ("reverse", 'r'), ("recursive", 'R'), ("sort", '\x01'),
      ("group-directories-first", '\x02'), ("hide", '\x03'), ("file-type", '\x04'),
      ("full-time", '\x05'), ("time-style", '\x06'), ("si", '\x07'), ("human-readable", 'h'),
      ("ignore", 'I'), ("ignore-backups", 'B'), ("width", 'w'), ("quote-name", 'Q'),
      ("escape", 'b'), ("literal", 'N'), ("size", 's'), ("no-group", 'G'),
      ("numeric-uid-gid", 'n'), ("dereference", 'L'), ("inode", 'i'),
      ("hide-control-chars", 'q')] }

def list (columns : Bool) (forced : List Char) (call : Call) : Effect :=
  let args := call.args.filter fun a => a ≠ "--color" && !a.startsWith "--color="
  Call.withOptions { call with args } 2 { options with flags := options.flags ++ ['\x02', '\x04',
      '\x05', '\x07'] } fun o =>
    let o := { o with given := forced.map (·, "") ++ o.given }
    let operands := if o.operands.isEmpty then ["."] else o.operands
    let itself := isLong o || o.has 'F' || o.has 'd'
    let (found, effect) := operands.foldl
      (fun (acc : List Item × Effect) file =>
        let target := (placeOf call.disk file).toOption.map Prod.snd
        let found : Except IoError (List String × Tree) :=
          match o.has 'L', placeOf call.disk file with
          | true, .error e => .error e
          | _, _ => placeOf call.disk file false
        match found with
        | .ok (_, tree) =>
          let isLink := match tree with | .link _ => true | _ => false
          let followed := if o.has 'L' || o.has 'H' || !itself then target.getD tree else tree
          let target := if isLink then target else none
          (acc.1 ++ [⟨file, if isLink then followed else tree, target⟩], acc.2)
        | .error e =>
          (acc.1,
            acc.2.complain call 2 ("cannot access " ++ quotedName file ++ ": " ++ reason e)))
      ([], { disk := call.disk })
    let found := sorted o found
    let (dirs, files) := found.partition fun f => f.tree.isDir && !o.has 'd'
    let sections := dirs.flatMap fun item =>
      match item.tree with
      | .dir entries _ =>
        if o.has 'R' then below o call.disk 1000 item.name entries else [(item.name, entries)]
      | _ => []
    let headed := o.has 'R' || operands.length > 1
    let blocks := (if files.isEmpty then [] else [shown o columns files]) ++
      sections.map fun (path, entries) =>
        let items := entriesOf o call.disk path entries
        let total := (items.map fun i => roomOf i.tree).sum
        (if headed then nameShown o path ++ ":\n" else "") ++
          (if isLong o || o.has 's' then "total " ++
            (if o.has 'h' then shortSize 1024 (total * 1024) else Number.natText total) ++ "\n"
          else "") ++ shown o columns items
    effect.send (bytesOf ("\n".intercalate blocks))

end Listing

def ls (call : Call) : Effect :=
  Listing.list false [] call

def dir (call : Call) : Effect :=
  Listing.list true ['b'] call

def vdir (call : Call) : Effect :=
  Listing.list false ['l', 'b'] call

end PageScript.Shell.Program
