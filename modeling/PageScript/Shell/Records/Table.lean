/-
Tables: values by texts.

A table keeps its keys in lists, one for each remainder of a number made from the key, the key used
last coming first in its list. A loop over a table follows these lists. Keys that are whole numbers
have lists of their own, and are only entered in the other ones when somebody asks for a text. What
a text was divided into needs no lists before its numbers are left.
-/
import Std.Data.HashMap
import PageScript.Shell.Records.Value

namespace PageScript.Shell.Records

/-- A table. -/
structure Table where
  cells : Std.HashMap String Value := {}
  /-- Whether the keys are the numbers from 1 on, and in no lists. -/
  listed : Bool := false
  /-- How many lists there are of each kind. -/
  width : Nat := 64
  /-- The keys by the lists that they are in. -/
  texts : Option (Array (List String)) := none
  /-- The keys that are whole numbers, by the lists that they are in. -/
  numbers : Array (List Int) := #[]
  deriving Inhabited

def keyHash (key : String) : Nat :=
  key.toList.foldl (fun h c => (h ^^^ c.toNat) * 16777619 % 2 ^ 32) 2166136261

namespace Table

def size (t : Table) : Nat :=
  t.cells.size

def textList (t : Table) (key : String) : Nat :=
  keyHash key % t.width

def numberList (t : Table) (n : Int) : Nat :=
  (n % (t.width : Int)).toNat

def front {α : Type} [BEq α] (lists : Array (List α)) (i : Nat) (x : α) : Array (List α) :=
  lists.modify i fun l => x :: l.filter fun y => !(y == x)

def unlisted (t : Table) : Table :=
  if !t.listed then
    if t.numbers.isEmpty then { t with numbers := Array.replicate t.width [] } else t
  else
    let width := widen 64 t.size t.size
    let numbers := (List.range t.size).foldl
      (fun lists i => front lists ((i + 1) % width) ((i : Int) + 1)) (Array.replicate width [])
    { t with listed := false, width, numbers }
where
  /-- Twice as many lists until there are enough; each time takes one of `fuel`. -/
  widen (width size : Nat) : (fuel : Nat) → Nat
    | 0 => width
    | fuel + 1 => if 12 * width < size then widen (2 * width) size fuel else width

def texted (t : Table) : Table :=
  let t := t.unlisted
  match t.texts with
  | some _ => t
  | none =>
    let texts := t.numbers.foldl
      (fun lists l => l.foldl
        (fun lists n =>
          let key := Number.intText n
          front lists (t.textList key) key)
        lists)
      (Array.replicate t.width [])
    { t with texts := some texts }

def grown (t : Table) : Table :=
  if t.size ≤ 12 * t.width then t
  else
    let width := 2 * t.width
    let divide {α : Type} (list : α → Nat) (lists : Array (List α)) : Array (List α) :=
      (lists.zipIdx.map fun (l, i) => l.filter fun x => list x = i) ++
        (lists.zipIdx.map fun (l, i) => l.filter fun x => list x ≠ i)
    let wide := { t with width }
    { wide with
      texts := t.texts.map (divide wide.textList)
      numbers := divide wide.numberList t.numbers }

/-- A key as a text comes to the front of its list, and is made if that is asked for. -/
def touchText (t : Table) (key : String) (create : Bool) : Table :=
  let t := t.texted
  let bring (t : Table) : Table :=
    { t with texts := t.texts.map fun lists => front lists (t.textList key) key }
  if t.cells.contains key then bring t
  else if create then bring { t with cells := t.cells.insert key .absent }.grown
  else t

/-- A key as a whole number comes to the front of its list, and is made if that is asked for. -/
def touchNumber (t : Table) (n : Int) (create : Bool) : Table :=
  if t.listed && 1 ≤ n && n ≤ t.size then t
  else
    let t := t.unlisted
    let key := Number.intText n
    let bring (t : Table) : Table := { t with numbers := front t.numbers (t.numberList n) n }
    if (t.numbers.getD (t.numberList n) []).contains n then bring t
    else if t.texts.isSome then
      let t := t.touchText key create
      if t.cells.contains key then bring t else t
    else if create then bring { t with cells := t.cells.insert key .absent }.grown
    else t

def touch (t : Table) (key : String) (whole : Option Int) (create : Bool) : Table :=
  match whole with
  | some n => t.touchNumber n create
  | none => t.touchText key create

def get? (t : Table) (key : String) : Option Value :=
  t.cells[key]?

def set (t : Table) (key : String) (v : Value) : Table :=
  { t with cells := t.cells.insert key v }

def remove (t : Table) (key : String) : Table :=
  if !t.cells.contains key then t
  else
    let t := t.unlisted
    let cells := t.cells.erase key
    if cells.isEmpty then {}
    else
      { t with
        cells
        texts := t.texts.map fun lists => lists.map fun l => l.filter fun k => k ≠ key
        numbers := t.numbers.map fun l => l.filter fun n => Number.intText n ≠ key }

def keys (t : Table) : List String × Table :=
  if t.size = 0 then ([], t)
  else
    let t := t.texted
    (((t.texts.getD #[]).toList).flatten, t)

def ofList (values : List Value) : Table :=
  { cells := values.zipIdx.foldl
      (fun cells (v, i) => cells.insert (Number.natText (i + 1)) v) {}
    listed := !values.isEmpty }

end Table

end PageScript.Shell.Records
