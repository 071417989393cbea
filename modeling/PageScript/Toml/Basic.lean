/-
TOML documents: values, and tables that are built key by key.

A table may be opened only once by a header, and only keys with dots may reach into a table that
such keys have made. While a document is read, each table therefore remembers how it came to be.
-/

namespace PageScript

/-- A TOML value. -/
inductive Toml where
  | str (value : String)
  | int (value : Int)
  | float (value : Float)
  | bool (value : Bool)
  /-- A date, a time, or both, as written. -/
  | moment (text : String)
  | arr (items : List Toml)
  | table (entries : List (String × Toml))
  deriving Inhabited

namespace Toml

/-- How a table came to be. -/
inductive Origin where
  /-- Opened by a header, or the document itself. -/
  | header
  /-- Passed through on the way to the table of a header. -/
  | passed
  /-- Made by a key with dots. -/
  | dotted
  deriving Repr, DecidableEq, Inhabited

/-- What stands at a key while a document is read. -/
inductive Slot where
  | value (v : Toml)
  | table (origin : Origin) (slots : List (String × Slot))
  /-- Tables that headers in double brackets have opened, the latest first. -/
  | tables (all : List (List (String × Slot)))
  deriving Inhabited

abbrev Slots := List (String × Slot)

def Slots.get? (slots : Slots) (key : String) : Option Slot :=
  (slots.find? fun s => s.1 = key).map Prod.snd

def Slots.put (slots : Slots) (key : String) (slot : Slot) : Slots :=
  (key, slot) :: slots.filter fun s => s.1 ≠ key

/-- Changes the table at the end of a path. Tables that are not there are made on the way. Nothing
else than tables can be on the way, and for keys with dots no table that a header has opened. -/
def descend (dotted : Bool) (change : Origin → Slots → Option Slots) :
    List String → Origin → Slots → Option Slots
  | [], origin, slots => change origin slots
  | key :: path, _, slots =>
    let made : Origin := if dotted then .dotted else .passed
    match slots.get? key with
    | none => do
      return slots.put key (.table made (← descend dotted change path made []))
    | some (.table origin inner) =>
      if dotted && origin = .header then none
      else do return slots.put key (.table origin (← descend dotted change path origin inner))
    | some (.tables (last :: others)) => do
      return slots.put key (.tables ((← descend dotted change path .header last) :: others))
    | some _ => none

def assign (path : List String) (v : Toml) (origin : Origin) (slots : Slots) : Option Slots :=
  match path.getLast? with
  | none => none
  | some key =>
    let way := path.dropLast
    descend true
      (fun origin slots =>
        if (origin == .dotted) == way.isEmpty then none
        else if (slots.get? key).isSome then none
        else some (slots.put key (.value v)))
      way origin slots

/-- Opens what a header names: a table, or one more table of an array if the brackets are double. -/
def openHeader (double : Bool) (path : List String) (root : Slots) : Option Slots :=
  match path.getLast? with
  | none => none
  | some key =>
    descend false
      (fun _ slots =>
        match double, slots.get? key with
        | false, none => some (slots.put key (.table .header []))
        | false, some (.table .passed inner) => some (slots.put key (.table .header inner))
        | true, none => some (slots.put key (.tables [[]]))
        | true, some (.tables all) => some (slots.put key (.tables ([] :: all)))
        | _, some _ => none)
      path.dropLast .header root

mutual

def Slot.finish : Slot → Toml
  | .value v => v
  | .table _ slots => .table (finishSlots slots)
  | .tables all => .arr (finishTables all).reverse

def finishSlots : List (String × Slot) → List (String × Toml)
  | [] => []
  | (key, slot) :: rest => (key, slot.finish) :: finishSlots rest

def finishTables : List (List (String × Slot)) → List Toml
  | [] => []
  | slots :: rest => .table (finishSlots slots) :: finishTables rest

end

/-- The fields of a record with the given names, as far as they are there. A record is a table, or
an array with the fields in order; what there is besides does not count. A date or time is a record
without any of them. -/
def record? (names : List String) : Toml → Option (List (Option Toml))
  | .table entries => some (names.map fun name => (entries.find? fun e => e.1 = name).map Prod.snd)
  | .arr items => some ((List.range names.length).map fun i => items[i]?)
  | .moment _ => some (names.map fun _ => none)
  | _ => none

end Toml

end PageScript
