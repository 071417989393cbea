/-
What scripts do to the browser as a whole: launching and closing, the size of its page, screenshots
and the console.
-/
import PageScript.Machine
import PageScript.Statement
import PageScript.Text.Quoted

namespace PageScript.Machine

variable {σ : Type}

-- ======== launching

/-- Tells a running browser how long a page may take to load, if a script said so. -/
def applyPageLoadTimeout [Browser σ] : Run σ Unit := do
  let m ← get
  match m.launched, m.pageLoadTimeout with
  | true, some seconds => Run.call (.setPageLoadTimeout seconds)
  | _, _ => pure ()

/-- Launches a browser unless one is running. -/
def ensureBrowser [Browser σ] : Run σ Unit := do
  let m ← get
  if m.launched then return
  Run.info ("Launching browser " ++ Number.natText m.options.width ++ "x" ++
    Number.natText m.options.height ++ " headless=" ++
    (if m.options.headless then "true" else "false"))
  Run.call (.start m.options)
  modify fun m => { m with launched := true }
  applyPageLoadTimeout

/-- Closes a running browser; that this fails is no failure of the script. -/
def teardown [Browser σ] : Run σ Unit := do
  if !(← get).launched then return
  match ← Run.ask .close with
  | .ok _ => pure ()
  | .error e => Run.warn ("Failed to close browser: " ++ e.message)
  modify fun m => { m with launched := false, current := none }

/-- Sets options, and gives the page of a running browser its new size. -/
def resize [Browser σ] (change : BrowserOptions → BrowserOptions) : Run σ Unit := do
  modify fun m => { m with options := change m.options }
  let m ← get
  if m.launched then Run.call (.viewport m.options)

/-- Sets options that a running browser does not take up. -/
def configure (what : String) (change : BrowserOptions → BrowserOptions) : Run σ Unit := do
  if (← get).launched then
    Run.warn ("browser " ++ what ++ " takes effect on the next launch")
  modify fun m => { m with options := change m.options }

/-- Carries out a command to the browser. -/
def control [Browser σ] : BrowserCommand → Run σ Unit
  | .start => pure ()
  | .connect endpoint => do
    Run.call (.connect endpoint (← get).options)
    modify fun m => { m with launched := true }
    applyPageLoadTimeout
  | .size width height => resize fun o => { o with width, height }
  | .chrome width height => resize fun o => { o with chromeWidth := width, chromeHeight := height }
  | .get url => do
    ensureBrowser
    Run.call (.get url)
  | .close => teardown
  | .wait seconds => do
    modify fun m => { m with pageLoadTimeout := some seconds }
    applyPageLoadTimeout
  | .back => Run.call .back
  | .forward => Run.call .forward
  | .refresh => Run.call .refresh
  | .send text => Run.call (.sendToPage text)
  | .headless on => configure "headless" fun o => { o with headless := on }
  | .option argument =>
    configure ("option " ++ argument) fun o => { o with args := o.args ++ [argument] }
  | .prefs name value =>
    configure ("prefs " ++ name) fun o => { o with prefs := setPref name value o.prefs }

-- ======== screenshots

/-- Where a screenshot goes: below the directory for screenshots, or else below the script's. -/
def screenshotPath (m : Machine σ) (file : Path) : Path :=
  if file.isAbsolute then file
  else
    match m.screenshotDir with
    | some dir => dir.join file
    | none => m.frames.workingDir.join file

/-- Takes a screenshot. -/
def screenshot [Browser σ] (file : Path) : Run σ Unit := do
  let path := (← get).screenshotPath file
  match path.parent? with
  | some above => Run.onDisk fun d => d.makeDirs above
  | none => pure ()
  Run.call (.screenshot path)
  Run.info ("Screenshot saved to " ++ path.text)

/-- Takes a screenshot after a script has failed, if a browser is running and there is a directory
for screenshots. That this fails is only logged. -/
def failureScreenshot [Browser σ] (script : Path) : Run σ Unit := do
  let m ← get
  match m.screenshotDir with
  | none => pure ()
  | some dir =>
    if m.launched then
      let path := dir.join ⟨script.stem?.getD "script" ++ "-failure.png"⟩
      let (made, disk) := m.disk.makeDirs dir
      modify fun m => { m with disk }
      match made with
      | .error e => Run.warn ("Failed to create " ++ dir.text ++ ": " ++ e.message)
      | .ok () =>
        match ← Run.ask (.screenshot path) with
        | .ok _ => Run.info ("Failure screenshot saved to " ++ path.text)
        | .error e => Run.warn ("Failed to capture failure screenshot: " ++ e.message)

-- ======== information

/-- Logs the console messages there are. -/
def drainConsole [Browser σ] : Run σ Unit := do
  match ← Run.ask .consoleMessages with
  | .ok messages => messages.forM fun message => Run.log .info .console message
  | .error _ => pure ()

/-- Logs what the current element is, where it lies and what it says. -/
def describe [Browser σ] : Run σ Unit := do
  let tag ← Run.call .tagName
  let rect ← Run.call .rect
  let text ← Run.call .text
  let what :=
    match (← get).current with
    | some locator => locator.display
    | none => "element"
  let rounded (x : Float) := Number.positionalText (Number.round x)
  Run.info (what ++ " info tag " ++ tag ++ " at " ++ rounded rect.x ++ "," ++ rounded rect.y ++
    " size " ++ rounded rect.width ++ "," ++ rounded rect.height ++ " text " ++ Text.quoted text)

end PageScript.Machine
