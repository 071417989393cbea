/-
Scripts that work through records.

A script is a list of rules. Each record of the input is divided into fields, and the actions of all
rules whose patterns it meets are carried out; some rules are for the start and some for the end.
Variables need no declaration, and tables hold values by texts.
-/
import PageScript.Shell.Regex

namespace PageScript.Shell.Records

/-- An operation on two numbers. -/
inductive Arith where
  | add
  | sub
  | mul
  | div
  | mod
  | pow
  deriving Repr, DecidableEq, Inhabited

/-- A relation between two values. -/
inductive Relation where
  | less
  | atMost
  | same
  | other
  | more
  | atLeast
  deriving Repr, DecidableEq, Inhabited

def Relation.holds (r : Relation) (o : Ordering) : Bool :=
  match r with
  | .less => o == .lt
  | .atMost => o != .gt
  | .same => o == .eq
  | .other => o != .eq
  | .more => o == .gt
  | .atLeast => o != .lt

/-- A function that every script knows. -/
inductive Verb where
  | atan2
  | close
  | cos
  | exp
  | fflush
  | index
  | int
  | length
  | log
  | match
  | mktime
  | rand
  | sin
  | sprintf
  | sqrt
  | srand
  | strftime
  | substr
  | system
  | systime
  | tolower
  | toupper
  deriving Repr, DecidableEq, Inhabited

/-- The names of the functions that every script knows, with the least and the greatest number of
their arguments. -/
def Verb.table : List (String × Verb × Nat × Nat) :=
  [("atan2", .atan2, 2, 2), ("close", .close, 1, 1), ("cos", .cos, 1, 1), ("exp", .exp, 1, 1),
    ("fflush", .fflush, 0, 1), ("index", .index, 2, 2), ("int", .int, 1, 1),
    ("length", .length, 0, 1), ("log", .log, 1, 1), ("match", .match, 2, 2),
    ("mktime", .mktime, 1, 1), ("rand", .rand, 0, 0), ("sin", .sin, 1, 1),
    ("sprintf", .sprintf, 1, 255), ("sqrt", .sqrt, 1, 1), ("srand", .srand, 0, 1),
    ("strftime", .strftime, 0, 3), ("substr", .substr, 2, 3), ("system", .system, 1, 1),
    ("systime", .systime, 0, 0), ("tolower", .tolower, 1, 1), ("toupper", .toupper, 1, 1)]

mutual

/-- An expression. -/
inductive Expr where
  | number (x : Float)
  | text (s : String)
  /-- A pattern, which on its own says whether the record meets it. -/
  | pattern (r : Regex)
  | place (p : Place)
  /-- What is in brackets, which cannot be assigned to. -/
  | group (e : Expr)
  | assign (p : Place) (op : Option Arith) (value : Expr)
  /-- One more or less, the value being the one before or behind that. -/
  | step (p : Place) (up before : Bool)
  | choice (condition yes no : Expr)
  | either (left right : Expr)
  | both (left right : Expr)
  | not (e : Expr)
  | meets (negated : Bool) (text pattern : Expr)
  | compare (r : Relation) (left right : Expr)
  | arith (op : Arith) (left right : Expr)
  | negate (e : Expr)
  /-- What a value is as a number. -/
  | plain (e : Expr)
  | joined (left right : Expr)
  /-- Whether a table holds something. -/
  | member (key : List Expr) (table : String)
  | call (name : String) (args : List Expr)
  | apply (verb : Verb) (args : List Expr)
  /-- Divides a text into a table. -/
  | split (text : Expr) (table : String) (divider : Option Expr)
  | substitute (all : Bool) (pattern replacement : Expr) (target : Option Place)
  /-- Reads a line. -/
  | getline (source : Source) (target : Option Place)

/-- What can be assigned to. -/
inductive Place where
  | named (name : String)
  | field (number : Expr)
  | element (table : String) (key : List Expr)

/-- What lines are read from. -/
inductive Source where
  | main
  | file (name : Expr)
  | command (text : Expr)

end

instance : Inhabited Expr := ⟨.number 0⟩

instance : Inhabited Place := ⟨.named ""⟩

/-- Where output goes. -/
inductive Direction where
  | create
  | append
  | command
  deriving Repr, DecidableEq, Inhabited

/-- A statement. -/
inductive Statement where
  | expr (e : Expr)
  | print (args : List Expr) (target : Option (Direction × Expr))
  | printf (args : List Expr) (target : Option (Direction × Expr))
  | branch (condition : Expr) (yes no : List Statement)
  | loop (condition : Expr) (body : List Statement)
  /-- A loop whose body is done once before the condition is looked at. -/
  | onceAndLoop (body : List Statement) (condition : Expr)
  | steps (start condition step : Option Expr) (body : List Statement)
  /-- A loop over all that a table holds. -/
  | each (name table : String) (body : List Statement)
  | block (body : List Statement)
  | remove (table : String) (key : Option (List Expr))
  | next
  | nextFile
  | exit (status : Option Expr)
  | give (value : Option Expr)
  | leave
  | again

instance : Inhabited Statement := ⟨.block []⟩

/-- When a rule applies. -/
inductive Pattern where
  | start
  | finish
  | always
  | when (condition : Expr)
  /-- From a record that meets one condition to one that meets the other. -/
  | range (first last : Expr)

/-- A rule: without an action, the record is written. -/
structure Rule where
  pattern : Pattern
  action : Option (List Statement)

/-- A function of a script. -/
structure Definition where
  params : List String
  body : List Statement
  deriving Inhabited

/-- A script. -/
structure Script where
  rules : List Rule := []
  functions : List (String × Definition) := []
  deriving Inhabited

end PageScript.Shell.Records
