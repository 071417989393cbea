/-
Names put in an order in which given pairs of them keep theirs: `tsort`.

Names without anything in front of them come first, in alphabetical order; each one that is written
sets free what was only waiting for it. When nothing is free and names are left, some of them wait
for each other in a circle; the circle is named, and one pair of it is dropped.
-/
import PageScript.Shell.Program.Basic

namespace PageScript.Shell.Program

/-- A name with what comes behind it. -/
structure Ranked where
  name : String
  /-- How many names are still to come in front of it. -/
  waits : Nat := 0
  /-- The names that come behind it, the one added last in front. -/
  behind : List String := []
  written : Bool := false
  /-- The name that comes next in the chain of those that wait for each other. -/
  link : Option String := none
  deriving Repr, DecidableEq, Inhabited

abbrev Ranking := List Ranked

namespace Ranking

def find? (r : Ranking) (name : String) : Option Ranked :=
  List.find? (fun (x : Ranked) => decide (x.name = name)) r

def change (r : Ranking) (name : String) (f : Ranked → Ranked) : Ranking :=
  r.map fun x => if x.name = name then f x else x

def add (r : Ranking) (name : String) : Ranking :=
  if (r.find? name).isSome then r
  else
    (r.filter fun x => x.name < name) ++ { name } :: r.filter fun x => name < x.name

def relate (r : Ranking) (front back : String) : Ranking :=
  let r := (r.add front).add back
  if front = back then r
  else
    (r.change back fun x => { x with waits := x.waits + 1 }).change front fun x =>
      { x with behind := back :: x.behind }

/-- Writes names that wait for nothing, and those that they set free, until none is left; each one
takes one of `fuel`. -/
def release (r : Ranking) : (fuel : Nat) → (queue : List String) → List String × Ranking
  | 0, _ => ([], r)
  | _, [] => ([], r)
  | fuel + 1, name :: queue =>
    match r.find? name with
    | none => release r fuel queue
    | some x =>
      let r := r.change name fun x => { x with written := true }
      let (r, freed) := x.behind.foldl
        (fun (acc : Ranking × List String) back =>
          let waits := ((acc.1.find? back).map Ranked.waits).getD 0
          let r := acc.1.change back fun y => { y with waits := y.waits - 1 }
          (r, if waits = 1 then acc.2 ++ [back] else acc.2))
        (r, [])
      let (names, r) := release r fuel (queue ++ freed)
      (name :: names, r)

def chain (r : Ranking) (stop : String) : (fuel : Nat) → (name : String) → List String
  | 0, _ => []
  | fuel + 1, name =>
    if name = stop then [name]
    else
      match (r.find? name).bind Ranked.link with
      | some next => name :: chain r stop fuel next
      | none => [name]

/-- Looks along the names for a circle. `head` is the first name of the chain so far. -/
def seek (r : Ranking) (head : Option String) :
    List Ranked → Ranking × Option String × Option (List String)
  | [] => (r, head, none)
  | item :: rest =>
    match r.find? item.name, head with
    | none, _ => seek r head rest
    | some x, none => if x.waits > 0 then seek r (some x.name) rest else seek r none rest
    | some x, some first =>
      if x.waits > 0 && x.behind.contains first then
        if x.link.isSome then
          let circle := r.chain x.name (r.length + 1) first
          let r := (r.change first fun y => { y with waits := y.waits - 1 }).change x.name fun y =>
            { y with behind := y.behind.erase first }
          (r.map fun y => { y with link := none }, none, some circle)
        else seek (r.change x.name fun y => { y with link := some first }) (some x.name) rest
      else seek r head rest

def circle (r : Ranking) : (fuel : Nat) → (head : Option String) → Ranking × List String
  | 0, _ => (r, [])
  | fuel + 1, head =>
    match r.seek head r with
    | (r, _, some names) => (r, names)
    | (r, head, none) => circle r fuel head

/-- All names in order: runs of names, each with the circle that was found behind it. Each run takes
one of `fuel`. -/
def order (r : Ranking) : (fuel : Nat) → List (List String × List String)
  | 0 => []
  | fuel + 1 =>
    let free := (r.filter fun x => !x.written && x.waits = 0).map Ranked.name
    let (names, r) := r.release (r.length + 1) free
    if r.all Ranked.written then [(names, [])]
    else
      let (r, names') := r.circle (2 * r.length + 2) none
      (names, names') :: order r fuel

end Ranking

def wordsOf (bytes : Stream) : List String :=
  ((toChars bytes).splitBy fun a b => isSpace a = isSpace b).filterMap fun cs =>
    if (cs.head?.map isSpace).getD true then none else some (String.ofList cs)
where
  /-- Whether a character parts words. -/
  isSpace (c : Char) : Bool := c = ' ' || c = '\t' || c = '\n'

def pairs? : List String → Option (List (String × String))
  | [] => some []
  | [_] => none
  | a :: b :: rest => (pairs? rest).map ((a, b) :: ·)

def tsort (call : Call) : Effect :=
  call.withOptions 1 {} fun o =>
    match o.operands with
    | _ :: extra :: _ => .misused call 1 ("extra operand " ++ quoted extra)
    | files =>
      let file := files.headD "-"
      match call.fetch file with
      | .error .isDirectory => .complaining call 1 (nameText file ++ ": read error: Is a directory")
      | .error e => .complaining call 1 (nameText file ++ ": " ++ reason e)
      | .ok bytes =>
        let rest := if file = "-" then some [] else none
        match pairs? (wordsOf bytes) with
        | none =>
          { Effect.complaining call 1 (nameText file ++ ": input contains an odd number of tokens")
            with rest }
        | some pairs =>
          let ranking : Ranking := pairs.foldl (fun r (a, b) => r.relate a b) []
          (ranking.order (pairs.length + 1)).foldl
            (fun (effect : Effect) (names, circle) =>
              let effect := effect.send (asLines names)
              if circle.isEmpty then effect
              else
                circle.foldl (fun e name => e.complain call 1 name)
                  (effect.complain call 1 (nameText file ++ ": input contains a loop:")))
            { rest, disk := call.disk }

end PageScript.Shell.Program
