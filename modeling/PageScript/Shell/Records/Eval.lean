/-
Running scripts that work through records.

Each step into an expression or a statement takes one of `fuel`; a script that uses all of it up is
taken never to end.
-/
import PageScript.Shell.Date.Format
import PageScript.Shell.Records.Machine

namespace PageScript.Shell.Records

open Run

variable {m : Type → Type} [Monad m] (w : Surroundings m)

-- ======== functions

def Arith.apply (op : Arith) (x y : Float) : Float :=
  match op with
  | .add => x + y
  | .sub => x - y
  | .mul => x * y
  | .div => x / y
  | .mod => remainder x y
  | .pow => x ^ y

/-- The part of a text from a place on, both counted in characters. What lies in front of the text
makes the part longer. -/
def part (s : String) (start : Int) (count : Int) : String :=
  let count := if start < 0 then count - start else count
  String.ofList ((s.toList.drop (start - 1).toNat).take count.toNat)

def placeOf (s t : String) : Nat :=
  let cs := s.toList
  match (List.range (cs.length + 1)).find? fun i => t.toList.isPrefixOf (cs.drop i) with
  | some i => i + 1
  | none => 0

/-- What replaces a match; each character takes one of `fuel`. -/
def replacement (matched : List Char) : (fuel : Nat) → List Char → List Char
  | 0, _ | _, [] => []
  | fuel + 1, '\\' :: '&' :: rest => '&' :: replacement matched fuel rest
  | fuel + 1, '\\' :: '\\' :: rest => '\\' :: replacement matched fuel rest
  | fuel + 1, '&' :: rest => matched ++ replacement matched fuel rest
  | fuel + 1, c :: rest => c :: replacement matched fuel rest

/-- A text with matches replaced from a place on, and how many they were; each takes one of `fuel`.
Nothing right behind a match does not count as one. -/
def substituted (r : Regex) (new : List Char) (all : Bool) (text : Array Char) :
    (fuel place : Nat) → (behind : Bool) → List Char × Nat
  | 0, place, _ => ((text.extract place text.size).toList, 0)
  | fuel + 1, place, behind =>
    match r.find? text place with
    | none => ((text.extract place text.size).toList, 0)
    | some found =>
      let stop := found.way.place
      let front := (text.extract place found.start).toList
      let shown := replacement (text.extract found.start stop).toList (new.length + 1) new
      if found.start = stop then
        let skipped := behind && found.start = place
        let next := (text.extract stop (stop + 1)).toList
        let inserted := if skipped then [] else shown
        if !all && !skipped then (front ++ inserted ++ (text.extract stop text.size).toList, 1)
        else if text.size ≤ stop then (front ++ inserted, if skipped then 0 else 1)
        else
          let (rest, count) := substituted r new all text fuel (stop + 1) false
          (front ++ inserted ++ next ++ rest, count + (if skipped then 0 else 1))
      else if all then
        let (rest, count) := substituted r new all text fuel stop true
        (front ++ shown ++ rest, count + 1)
      else (front ++ shown ++ (text.extract stop text.size).toList, 1)

def applyVerb (verb : Verb) (args : List Value) : Run m Value := do
  let number (i : Nat) : Float := (args.getD i .absent).toNumber
  let text (i : Nat) : Run m String := textOf (args.getD i .absent)
  match verb with
  | .atan2 => return .number (Float.atan2 (number 0) (number 1))
  | .cos => return .number (Float.cos (number 0))
  | .sin => return .number (Float.sin (number 0))
  | .exp => return .number (Float.exp (number 0))
  | .log => return .number (Float.log (number 0))
  | .sqrt => return .number (Float.sqrt (number 0))
  | .int => return .number (Number.truncate (number 0))
  | .rand => return .number 0.5
  | .srand => return .number 0
  | .systime => return .number startOfClock.toFloat
  | .mktime => return .number (-1)
  | .strftime =>
    let format ← if args.isEmpty then pure "%c" else text 0
    let moment : Date.Moment := match args with
      | _ :: t :: _ => { seconds := integerOf t.toNumber }
      | _ => {}
    return .text (moment.show format)
  | .length =>
    if args.isEmpty then return .ofNat (← record).length
    return .ofNat (← text 0).length
  | .index => return .ofNat (placeOf (← text 0) (← text 1))
  | .tolower => return .text (String.ofList ((← text 0).toList.map Char.toLower))
  | .toupper => return .text (String.ofList ((← text 0).toList.map Char.toUpper))
  | .substr =>
    let s ← text 0
    let count := if args.length = 2 then (2 ^ 62 : Int) else integerOf (number 2)
    return .text (part s (integerOf (number 1)) count)
  | .sprintf =>
    let format ← text 0
    let (s, fault) := formatValues (← conversion) format (args.drop 1)
    match fault with
    | some f => throw (.fault (f.message "sprintf" format))
    | none => return .text s
  | .close => return .number (Float.ofInt (← close w (← text 0)))
  | .fflush =>
    flush w
    return .number 0
  | .system =>
    flush w
    return .ofNat (← ask (w.run (← text 0) none))
  | .match => return .absent

def ordered (a b : Value) : Run m Ordering :=
  return a.order (← conversion) b

-- ======== expressions

mutual

def eval : (fuel : Nat) → Expr → Run m Value
  | 0, _ => throw .unfinished
  | fuel + 1, e => do
    match e with
    | .number x => return .number x
    | .text s => return .text s
    | .pattern r => return .ofBool (r.occurs (← record).toList.toArray)
    | .place p => value (← locate fuel p)
    | .group e => eval fuel e
    | .assign p op e =>
      match op with
      | none =>
        let spot ← locate fuel p
        let v ← eval fuel e
        setValue spot v
        return v
      | some op =>
        let spot ← locate fuel p
        let right ← eval fuel e
        let v : Value := .number (op.apply (← value spot).toNumber right.toNumber)
        setValue spot v
        return v
    | .step p up before =>
      let spot ← locate fuel p
      let x := (← value spot).toNumber
      let y := if up then x + 1 else x - 1
      setValue spot (.number y)
      return .number (if before then x else y)
    | .choice c a b => if (← eval fuel c).isTrue then eval fuel a else eval fuel b
    | .either a b =>
      if (← eval fuel a).isTrue then return .ofBool true
      return .ofBool (← eval fuel b).isTrue
    | .both a b =>
      if !(← eval fuel a).isTrue then return .ofBool false
      return .ofBool (← eval fuel b).isTrue
    | .not a => return .ofBool (!(← eval fuel a).isTrue)
    | .meets negated t p =>
      let s ← textOf (← eval fuel t)
      let r ← evalPattern fuel p
      return .ofBool (r.occurs s.toList.toArray != negated)
    | .compare r a b =>
      let x ← eval fuel a
      let y ← eval fuel b
      return .ofBool (r.holds (← ordered x y))
    | .arith op a b =>
      let x ← eval fuel a
      let y ← eval fuel b
      return .number (op.apply x.toNumber y.toNumber)
    | .negate a => return .number (-(← eval fuel a).toNumber)
    | .plain a => return .number (← eval fuel a).toNumber
    | .joined a b =>
      let s ← textOf (← eval fuel a)
      let t ← textOf (← eval fuel b)
      return .text (s ++ t)
    | .member key name =>
      let id ← tableOf name
      let (key, whole) ← evalKey fuel key
      let t := (← table id).touch key whole false
      setTable id t
      return .ofBool (t.get? key).isSome
    | .call name args => evalCall fuel name args
    | .apply .length [.place (.named name)] =>
      match ← slot name with
      | .table id => return .ofNat (← table id).size
      | .either id => return .ofNat (← table id).size
      | _ => return .ofNat (← textOf (← named name)).length
    | .apply .match [t, p] =>
      let s ← textOf (← eval fuel t)
      let r ← evalPattern fuel p
      let (start, length) : Int × Int := match r.find? s.toList.toArray with
        | some found => (found.start + 1, (found.way.place - found.start : Nat))
        | none => (0, -1)
      setGlobal "RSTART" (.number (Float.ofInt start))
      setGlobal "RLENGTH" (.number (Float.ofInt length))
      return .number (Float.ofInt start)
    | .apply verb args => applyVerb w verb (← evalAll fuel args)
    | .split t name divider =>
      let s ← textOf (← eval fuel t)
      let d ← match divider with
        | none => dividerOf (← textOf (← global "FS"))
        | some (.pattern r) => pure (.expression r)
        | some e => dividerOf (← textOf (← eval fuel e))
      let parts := (d.divide s).map Value.given
      setTable (← tableOf name) (.ofList parts)
      return .ofNat parts.length
    | .substitute all p new target =>
      let r ← evalPattern fuel p
      let text ← textOf (← eval fuel new)
      let spot ← match target with
        | some place => locate fuel place
        | none => pure (.field 0)
      let old := (← textOf (← value spot)).toList.toArray
      let (changed, count) := substituted r text.toList all old (old.size + 2) 0 false
      if 0 < count then setValue spot (.text (String.ofList changed))
      return .ofNat count
    | .getline source target =>
      let read : Option String × Bool ← match source with
        | .main => pure (← mainRecord w, true)
        | .file e =>
          let name ← textOf (← eval fuel e)
          if ← openReader w name false then pure (← readFrom name, true) else pure (none, false)
        | .command e =>
          let name ← textOf (← eval fuel e)
          let _ ← openReader w name true
          pure (← readFrom name, true)
      match read, source with
      | (none, false), _ => return .number (-1)
      | (none, true), _ => return .number 0
      | (some line, _), source =>
        match source with
        | .main => countRecord true
        | .command _ => pure ()
        | .file _ => pure ()
        match target with
        | some place => setValue (← locate fuel place) (.given line)
        | none => setRecord line
        return .number 1

def evalAll : (fuel : Nat) → List Expr → Run m (List Value)
  | 0, _ => throw .unfinished
  | _ + 1, [] => return []
  | fuel + 1, e :: rest => do
    let v ← eval fuel e
    return v :: (← evalAll fuel rest)

/-- The key that expressions give: one by itself, more of them with a mark between them. -/
def evalKey : (fuel : Nat) → List Expr → Run m (String × Option Int)
  | 0, _ => throw .unfinished
  | fuel + 1, key => do
    match ← evalAll fuel key with
    | [v] => keyOf v
    | vs =>
      let mark ← textOf (← global "SUBSEP")
      return (mark.intercalate (← vs.mapM textOf), none)

def evalPattern : (fuel : Nat) → Expr → Run m Regex
  | 0, _ => throw .unfinished
  | fuel + 1, e => do
    match e with
    | .pattern r | .group (.pattern r) => return r
    | e => expressionOf (← textOf (← eval fuel e))

def locate : (fuel : Nat) → Place → Run m Spot
  | 0, _ => throw .unfinished
  | fuel + 1, p => do
    match p with
    | .named name => return .named name
    | .field e =>
      let n := integerOf (← eval fuel e).toNumber
      if n < 0 then throw (.fault ("negative field index $" ++ Number.intText n))
      return .field n.toNat
    | .element name key =>
      let (key, whole) ← evalKey fuel key
      let id ← tableOf name
      setTable id ((← table id).touch key whole true)
      return .cell id key

def evalCall : (fuel : Nat) → String → List Expr → Run m Value
  | 0, _, _ => throw .unfinished
  | fuel + 1, name, args => do
    match (← get).script.functions.lookup name with
    | none => throw (.fault ("function " ++ name ++ " never defined"))
    | some f =>
      let slots ← evalSlots fuel args
      let given := f.params.zip slots
      let missing := (f.params.drop given.length).map fun p => (p, Slot.fresh)
      let outer := (← get).locals
      modify fun s => { s with locals := some (given ++ missing) }
      let outcome ← caught (execAll fuel f.body)
      modify fun s => { s with locals := outer }
      match outcome with
      | .ok _ => return .absent
      | .error (.give v) => return v
      | .error halt => throw halt

def evalSlots : (fuel : Nat) → List Expr → Run m (List Slot)
  | 0, _ => throw .unfinished
  | _ + 1, [] => return []
  | fuel + 1, e :: rest => do
    let first ← match e with
      | .place (.named name) =>
        if name = "NF" then pure (.value (← named name))
        else
          match ← slot name with
          | .fresh =>
            let id ← newTable
            setSlot name (.either id)
            pure (.either id)
          | known => pure known
      | e => pure (.value (← eval fuel e))
    return first :: (← evalSlots fuel rest)

-- ======== statements

def execAll : (fuel : Nat) → List Statement → Run m Unit
  | 0, _ => throw .unfinished
  | _ + 1, [] => return
  | fuel + 1, s :: rest => do
    exec fuel s
    execAll fuel rest

/-- Does the body of a loop; tells whether the loop goes on. -/
def execBody : (fuel : Nat) → List Statement → Run m Bool
  | 0, _ => throw .unfinished
  | fuel + 1, body => do
    match ← caught (execAll fuel body) with
    | .ok _ | .error .again => return true
    | .error .leave => return false
    | .error halt => throw halt

def execLoop : (fuel : Nat) → (condition step : Option Expr) → List Statement → Run m Unit
  | 0, _, _, _ => throw .unfinished
  | fuel + 1, condition, step, body => do
    let goesOn ← match condition with
      | some c => pure (← eval fuel c).isTrue
      | none => pure true
    if goesOn then
      if ← execBody fuel body then
        if let some e := step then
          let _ ← eval fuel e
        execLoop fuel condition step body

def execEach : (fuel : Nat) → String → List String → List Statement → Run m Unit
  | 0, _, _, _ => throw .unfinished
  | _ + 1, _, [], _ => return
  | fuel + 1, name, key :: rest, body => do
    setNamed name (.text key)
    if ← execBody fuel body then execEach fuel name rest body

def exec : (fuel : Nat) → Statement → Run m Unit
  | 0, _ => throw .unfinished
  | fuel + 1, s => do
    let direct (target : Option (Direction × Expr)) (text : String) : Run m Unit := do
      match target with
      | none => put text
      | some (direction, e) => putTo w direction (← textOf (← eval fuel e)) text
    match s with
    | .expr e =>
      let _ ← eval fuel e
    | .print args target =>
      let shown (v : Value) : Run m String := do
        match v with
        | .number x =>
          match wholeText? x with
          | some t => return t
          | none => return numberText ((← global "OFMT").toText "%.6g") x
        | v => textOf v
      let texts ← if args.isEmpty then pure [← record] else (← evalAll fuel args).mapM shown
      let between ← textOf (← global "OFS")
      direct target (between.intercalate texts ++ (← textOf (← global "ORS")))
    | .printf args target =>
      let vs ← evalAll fuel args
      let format ← textOf (vs.headD .absent)
      let (text, fault) := formatValues (← conversion) format (vs.drop 1)
      direct target text
      if let some f := fault then throw (.fault (f.message "printf" format))
    | .branch c yes no => if (← eval fuel c).isTrue then execAll fuel yes else execAll fuel no
    | .loop c body => execLoop fuel (some c) none body
    | .onceAndLoop body c => if ← execBody fuel body then execLoop fuel (some c) none body
    | .steps start c step body =>
      if let some e := start then
        let _ ← eval fuel e
      execLoop fuel c step body
    | .each name tableName body =>
      let id ← tableOf tableName
      let (keys, t) := (← table id).keys
      setTable id t
      execEach fuel name keys body
    | .block body => execAll fuel body
    | .remove name key =>
      let id ← tableOf name
      match key with
      | none => setTable id {}
      | some key =>
        let (key, whole) ← evalKey fuel key
        setTable id (((← table id).touch key whole false).remove key)
    | .next => throw .next
    | .nextFile => throw .nextFile
    | .exit e =>
      if let some e := e then
        let n := integerOf (← eval fuel e).toNumber
        modify fun s => { s with status := (n % 256).toNat }
      throw .exit
    | .give e =>
      match e with
      | some e => throw (.give (← eval fuel e))
      | none => throw (.give .absent)
    | .leave => throw .leave
    | .again => throw .again

end

-- ======== rules

def act (fuel : Nat) (rule : Rule) : Run m Unit := do
  match rule.action with
  | some body => execAll w fuel body
  | none => put ((← record) ++ (← textOf (← global "ORS")))

def applies (fuel : Nat) (i : Nat) (rule : Rule) : Run m Bool := do
  match rule.pattern with
  | .start | .finish => return false
  | .always => return true
  | .when e => return (← eval w fuel e).isTrue
  | .range first last =>
    let s ← get
    if !s.ranges.contains i then
      if !(← eval w fuel first).isTrue then return false
      modify fun s => { s with ranges := i :: s.ranges }
    if (← eval w fuel last).isTrue then
      modify fun s => { s with ranges := s.ranges.filter (· ≠ i) }
    return true

def actAll (fuel : Nat) : List (Rule × Nat) → Run m Unit
  | [] => return
  | (rule, i) :: rest => do
    if ← applies w fuel i rule then act w fuel rule
    actAll fuel rest

/-- Works through the records; each takes one of `fuel`. -/
def workThrough : (fuel : Nat) → Run m Unit
  | 0 => throw .unfinished
  | fuel + 1 => do
    match ← mainRecord w with
    | none => return
    | some line =>
      countRecord true
      setRecord line
      match ← caught (actAll w fuel (← get).script.rules.zipIdx) with
      | .ok _ | .error .next => workThrough fuel
      | .error .nextFile =>
        modify fun s => { s with input := none }
        workThrough fuel
      | .error halt => throw halt

/-- Does the rules for the start, those for the records and those for the end. Leaving early still
leads to the end, unless that is where it happens. -/
def work (fuel : Nat) : Run m Unit := do
  let rules := (← get).script.rules
  let starts := rules.filter fun r => r.pattern matches .start
  let ends := rules.filter fun r => r.pattern matches .finish
  let hasMore := rules.any fun r => !(r.pattern matches .start)
  let finish : Run m Unit := ends.forM (act w fuel)
  match ← caught (starts.forM (act w fuel)) with
  | .error .exit => finish
  | .error halt => throw halt
  | .ok _ =>
    if hasMore then
      match ← caught (workThrough w fuel) with
      | .ok _ | .error .exit => finish
      | .error halt => throw halt

/-- Runs a script to its end, and gives its status; none if it has none. `label` stands in front of
complaints. -/
def Machine.run (start : Machine) (label : String) (fuel : Nat) : m (Option Nat) := do
  let (outcome, s) ← (work w fuel).run.run start
  let finish (complaint : Option String) (status : Nat) : m (Option Nat) := do
    if let some text := complaint then w.emit 2 (bytesOf (label ++ text ++ "\n"))
    let _ ← (closeAll w).run.run s
    return some status
  match outcome with
  | .error .unfinished => return none
  | .error (.fault message) =>
    let shown (name : String) : String := match s.globals.lookup name with
      | some (.value v) => v.toText "%.6g"
      | _ => ""
    finish (some ("run time error: " ++ message ++ "\n\tFILENAME=\"" ++ shown "FILENAME" ++
      "\" FNR=" ++ shown "FNR" ++ " NR=" ++ shown "NR")) 2
  | .error (.refused message) => finish (some message) 2
  | _ => finish none s.status

end PageScript.Shell.Records
