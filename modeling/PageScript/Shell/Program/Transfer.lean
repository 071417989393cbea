/-
Files under other names: `cp` and `mv`.

Both take files one after the other to a new name, or into a directory; they differ in what
they do with one file.
-/
import PageScript.Shell.Program.Mode
import PageScript.Shell.Program.Place

namespace PageScript.Shell.Program

-- ======== copying

abbrev Transfer := Call → Options → Effect → (source target : String) → Effect

def copiedPaths : (fuel : Nat) → Tree → String → String → List (String × String)
  | 0, _, _, _ => []
  | fuel + 1, .dir entries _, source, target =>
    (source, target) :: entries.flatMap fun (name, tree) =>
      copiedPaths fuel tree (under source (pack name)) (under target (pack name))
  | _ + 1, _, source, target => [(source, target)]

/-- What is copied of a tree: links as what they lead to if `follows` says so, and traits only if
`keeps` does. Each level takes one of `fuel`. -/
def copyOf (disk : Disk) (follows keeps : Bool) : (fuel : Nat) → (path : String) → Tree → Tree
  | 0, _, tree => tree
  | fuel + 1, path, tree =>
    let traits (t : Traits) : Traits :=
      if keeps then t
      else { mode := disk.masked (t.mode % 512), changed := disk.now + 1 }
    match tree with
    | .file content t => .file content (traits t)
    | .dir entries t =>
      .dir (entries.map fun (name, inner) =>
        (name, copyOf disk follows keeps fuel (under path (pack name)) inner)) (traits t)
    | .link target =>
      match follows, disk.find (pathOf path) with
      | true, .ok found => copyOf disk follows keeps fuel path found
      | _, _ => .link target
    | .device kind => .file kind.content (traits { mode := 0o666 })
    | tree => tree

/-- A tree laid over another one: directories are joined, everything else is replaced. Each level
takes one of `fuel`. -/
def overlay (keeps : Bool) : (fuel : Nat) → Tree → Tree → Tree
  | fuel + 1, .dir new traits, .dir old before =>
    .dir (new.foldl
      (fun entries (name, tree) =>
        let merged := match (entries.find? fun e => e.1 = name).map Prod.snd with
          | some t => overlay keeps fuel tree t
          | none => tree
        Tree.setEntry name merged entries) old) (if keeps then traits else before)
  | _, .file content traits, .file _ old =>
    .file content (if keeps then traits else { old with changed := traits.changed })
  | _, new, _ => new

/-- The name that a file is kept under when another one takes its place, if it is kept. -/
def backupName? (disk : Disk) (o : Options) (target : String) : Option String :=
  let numbered (n : Nat) : String := target ++ ".~" ++ Number.natText n ++ "~"
  let exists? (n : Nat) : Bool := disk.holds (pathOf (numbered n))
  let taken := ((List.range 1000).filter fun n => exists? (n + 1)).length
  if !(o.has 'b' || o.has 'S' || o.has '\x02') then none
  else
    match o.value? '\x02' with
    | some "none" | some "off" => none
    | some "numbered" | some "t" => some (numbered (taken + 1))
    | some "simple" | some "never" => some (target ++ (o.value? 'S').getD "~")
    | _ => some (if taken > 0 then numbered (taken + 1) else target ++ (o.value? 'S').getD "~")

/-- Keeps a file under another name if that is asked for; tells the name. -/
def backUp (o : Options) (effect : Effect) (target : String) : Option String × Effect :=
  match backupName? effect.disk o target, placeOf effect.disk target false with
  | some name, .ok (location, tree) =>
    match effect.disk.place (pathOf name) false with
    | .ok (.taken other _) | .ok (.free other) =>
      (some name, { effect with disk := (effect.disk.remove location).put other tree })
    | .error _ => (none, effect)
  | _, _ => (none, effect)

/-- Whether a file is to be left alone that another one would replace, with the effect of asking. -/
def spares (call : Call) (o : Options) (effect : Effect) (source old : Tree) (target : String) :
    Bool × Effect :=
  let rule := o.value? '\x01'
  let older : Bool := timeOf source ≤ timeOf old
  if rule = some "none" then (true, effect)
  else if (o.has 'u' || rule = some "older") && older && !source.isDir then (true, effect)
  else
    match o.last? ['n', 'i', 'f'] with
    | some 'n' => (true, effect)
    | some 'i' =>
      let (agreed, effect) := ask call effect ("overwrite " ++ quotedName target)
      (!agreed, if agreed then effect else { effect with status := max 1 effect.status })
    | _ => (false, effect)

def copyOne : Transfer := fun call o effect source target =>
  let deep := o.has 'r' || o.has 'R' || o.has 'a'
  let keeps := o.has 'p' || o.has 'a' || o.has '\x03'
  let follows := match o.last? ['L', 'P', 'd', 'a', 'H'] with
    | some 'L' => true
    | some 'H' => false
    | some _ => false
    | none => !deep
  let atStart := follows || o.last? ['L', 'P', 'd', 'a', 'H'] = some 'H'
  match placeOf effect.disk source atStart with
  | .error e => effect.complain call 1 ("cannot stat " ++ quotedName source ++ ": " ++ reason e)
  | .ok (origin, tree) =>
    if tree.isDir && !deep then
      effect.complain call 1 ("-r not specified; omitting directory " ++ quotedName source)
    else
      let said (backup : Option String) (e : Effect) : Effect :=
        if o.has 'v' then
          let behind := (backup.map fun b => " (backup: " ++ quotedName b ++ ")").getD ""
          (copiedPaths 1000 tree source target).foldl
            (fun e (a, b) =>
              e.send (bytesOf (quotedName a ++ " -> " ++ quotedName b ++ behind ++ "\n"))) e
        else e
      let made (disk : Disk) : Tree :=
        if o.has 's' && !tree.isDir then .link (Text.decodeLossy (bytesOf source))
        else copyOf disk follows keeps 1000 source tree
      let isLink := match tree with | .link _ => true | _ => false
      match effect.disk.place (pathOf (if tree.isDir then bareName target else target)) !isLink with
      | .ok (.taken location old) =>
        let (spared, asked) := spares call o effect tree old target
        if location = origin then
          effect.complain call 1
            (quotedName source ++ " and " ++ quotedName target ++ " are the same file")
        else if spared then asked
        else if tree.isDir && !old.isDir then
          effect.complain call 1 ("cannot overwrite non-directory " ++ quotedName target ++
            " with directory " ++ quotedName source)
        else if old.isDir && !tree.isDir then
          effect.complain call 1 ("cannot overwrite directory " ++ quotedName target ++
            " with non-directory")
        else
          let (backup, asked) := if tree.isDir then (none, asked) else backUp o asked target
          let new := if backup.isSome then made asked.disk
            else overlay keeps 1000 (made asked.disk) old
          let disk := { asked.disk with now := asked.disk.now + 1 }
          said backup { asked with disk := disk.put location new }
      | .ok (.free location) =>
        let dangling := match placeOf effect.disk target false with
          | .ok (_, .link _) => !isLink
          | _ => false
        if dangling then
          effect.complain call 1 ("not writing through dangling symlink " ++ quotedName target)
        else if target.endsWith "/" && !tree.isDir then
          effect.complain call 1
            ("cannot create regular file " ++ quotedName target ++ ": Not a directory")
        else
          let disk := effect.disk.put location (made effect.disk)
          let effect := said none { effect with disk := { disk with now := disk.now + 1 } }
          if tree.isDir && origin.isPrefixOf location then
            effect.complain call 1 ("cannot copy a directory, " ++ quotedName source ++
              ", into itself, " ++ quotedName target)
          else effect
      | .error e =>
        let kind := if tree.isDir then "directory " else "regular file "
        effect.complain call 1 ("cannot create " ++ kind ++ quotedName target ++ ": " ++ reason e)

def moveOne : Transfer := fun call o effect source target =>
  match placeOf effect.disk source false with
  | .error e => effect.complain call 1 ("cannot stat " ++ quotedName source ++ ": " ++ reason e)
  | .ok (origin, tree) =>
    let said (backup : Option String) (e : Effect) : Effect :=
      if o.has 'v' then
        let behind := (backup.map fun b => " (backup: " ++ quotedName b ++ ")").getD ""
        e.send (bytesOf ("renamed " ++ quotedName source ++ " -> " ++ quotedName target ++ behind ++
          "\n"))
      else e
    let moved (effect : Effect) (location : List String) : Effect :=
      let (backup, effect) := backUp o effect target
      said backup { effect with disk := (effect.disk.remove origin).put location tree }
    match effect.disk.place (pathOf (if tree.isDir then bareName target else target)) false with
    | .ok (.taken location old) =>
      let (spared, asked) := spares call o effect tree old target
      if location = origin then
        effect.complain call 1
          (quotedName source ++ " and " ++ quotedName target ++ " are the same file")
      else if spared then
        if o.last? ['n', 'i', 'f'] = some 'n' then
          asked.complain call 1 ("not replacing " ++ quotedName target)
        else asked
      else if tree.isDir && origin.isPrefixOf location then
        effect.complain call 1 ("cannot move " ++ quotedName source ++
          " to a subdirectory of itself, " ++ quotedName target)
      else if tree.isDir && !old.isDir then
        effect.complain call 1 ("cannot overwrite non-directory " ++ quotedName target ++
          " with directory " ++ quotedName source)
      else if old.isDir && !tree.isDir then
        effect.complain call 1 ("cannot overwrite directory " ++ quotedName target ++
          " with non-directory")
      else
        match old with
        | .dir (_ :: _) _ =>
          effect.complain call 1 ("cannot overwrite " ++ quotedName target ++ ": " ++ notEmpty)
        | _ => moved asked location
    | .ok (.free location) =>
      if target.endsWith "/" && !tree.isDir then
        effect.complain call 1
          ("cannot move " ++ quotedName source ++ " to " ++ quotedName target ++
          ": Not a directory")
      else if tree.isDir && origin.isPrefixOf location then
        effect.complain call 1 ("cannot move " ++ quotedName source ++
          " to a subdirectory of itself, " ++ quotedName target)
      else moved effect location
    | .error e =>
      effect.complain call 1
        ("cannot move " ++ quotedName source ++ " to " ++ quotedName target ++ ": " ++
        reason e)

/-- Does something with each of some files and the last operand: a directory they go into, or for a
single file also its new name. -/
def transfer (call : Call) (o : Options) (one : Transfer)
    (start : Effect := { disk := call.disk }) :
    Effect :=
  let into (dir : String) (sources : List String) : Effect :=
    sources.foldl
      (fun effect source =>
        let name := if o.has '\x04' then bareName source else lastName source
        one call o effect source (under dir name)) start
  match o.value? 't' with
  | some dir => into dir o.operands
  | none =>
    match o.operands with
    | [] => .misused call 1 "missing file operand"
    | [only] => .misused call 1 ("missing destination file operand after " ++ quotedName only)
    | operands =>
      let target := operands.getLast?.getD ""
      let sources := operands.dropLast
      if call.disk.isDir (pathOf target) && !o.has 'T' then into target sources
      else
        match sources with
        | [source] => one call o start source target
        | _ =>
          let e := match placeOf call.disk target with
            | .ok _ => IoError.notDirectory
            | .error e => e
          .complaining call 1 ("target " ++ quotedName target ++ ": " ++ reason e)

def withDefaults (defaults : List (String × String)) (args : List String) : List String :=
  args.map fun a => ((defaults.lookup a).map fun value => a ++ "=" ++ value).getD a

def cp (call : Call) : Effect :=
  let args := withDefaults
    [("--update", "older"), ("--backup", "existing"), ("--preserve", "mode")] call.args
  Call.withOptions { call with args } 1
    { flags := "aRrfinpuvTlsdHLPbx".toList ++ ['\x04'], valued := "tS".toList
      valuedLong := ['\x01', '\x02', '\x03']
      long := [("recursive", 'r'), ("archive", 'a'), ("force", 'f'), ("no-clobber", 'n'),
        ("verbose", 'v'), ("target-directory", 't'), ("no-target-directory", 'T'),
        ("interactive", 'i'), ("update", '\x01'), ("backup", '\x02'), ("suffix", 'S'),
        ("preserve", '\x03'), ("symbolic-link", 's'), ("link", 'l'), ("dereference", 'L'),
        ("no-dereference", 'P'), ("parents", '\x04')] }
    fun o =>
      let start : Effect := { disk := call.disk }
      let start := if o.has 'n' then
          start.complain call 0 ("warning: behavior of -n is non-portable and may change in " ++
            "future; use --update=none instead")
        else start
      let last := (o.value? 't' <|> o.operands.getLast?).getD "."
      if o.has '\x04' && o.operands.length > 1 && !call.disk.isDir (pathOf last) then
        .misused call 1 "with --parents, the destination must be a directory"
      else
        transfer call o (fun call o effect source target =>
          let effect := if o.has '\x04' then parents effect target else effect
          copyOne call o effect source target) start
where
  /-- Makes the directories above a path. -/
  parents (effect : Effect) (path : String) : Effect :=
    match (pathOf path).parent? with
    | some above => { effect with disk := (effect.disk.makeDirs above).2 }
    | none => effect

def mv (call : Call) : Effect :=
  let args := withDefaults [("--update", "older"), ("--backup", "existing")] call.args
  Call.withOptions { call with args } 1
    { flags := "finuvTb".toList, valued := "tS".toList, valuedLong := ['\x01', '\x02']
      long := [("force", 'f'), ("no-clobber", 'n'), ("verbose", 'v'), ("target-directory", 't'),
        ("no-target-directory", 'T'), ("interactive", 'i'), ("update", '\x01'),
        ("backup", '\x02'), ("suffix", 'S')] }
    fun o => transfer call o moveOne

end PageScript.Shell.Program
