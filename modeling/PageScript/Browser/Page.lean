/-
Scripted pages: browsers whose answers are laid down beforehand, for trying out scripts without a
browser.

What an element answers is a series: each question takes the next value, and the last value stays.
Calls can be made to fail by laying down faults for them, one for each time the call is made.
-/
import PageScript.Browser.Call

namespace PageScript

/-- Values to be given out one after the other, the last one for ever. -/
structure Series (α : Type) where
  first : α
  later : List α := []
  deriving Inhabited

namespace Series

variable {α : Type}

/-- The series of a list; of an empty one, the series of a given value. -/
def ofList (fallback : α) : List α → Series α
  | [] => ⟨fallback, []⟩
  | first :: later => ⟨first, later⟩

/-- The series after its first value has been given out. -/
def next (s : Series α) : Series α :=
  match s.later with
  | [] => s
  | first :: later => ⟨first, later⟩

/-- The value that stays. -/
def last (s : Series α) : α :=
  s.later.getLast?.getD s.first

end Series

/-- What an element answers. -/
structure PageElement where
  text : Series String := ⟨"", []⟩
  tag : Series String := ⟨"DIV", []⟩
  displayed : Series Bool := ⟨true, []⟩
  enabled : Series Bool := ⟨true, []⟩
  selected : Series Bool := ⟨false, []⟩
  checksum : Series Nat := ⟨0, []⟩
  rect : Series Rect := ⟨{}, []⟩
  deriving Inhabited

/-- A page whose answers are laid down. -/
structure Page where
  /-- The elements by the value of the locators that find them. -/
  elements : List (String × PageElement) := []
  /-- The current element. -/
  current : Option String := none
  /-- Faults by the name of the call; none lets a call through. -/
  faults : List (String × List (Option BrowserError)) := []
  ready : Series String := ⟨"complete", []⟩
  console : List (List String) := []
  results : List Json := []
  source : String := ""
  deriving Inhabited

namespace Page

/-- Takes the next fault laid down for a call. -/
def takeFault (name : String) :
    List (String × List (Option BrowserError)) →
      Option BrowserError × List (String × List (Option BrowserError))
  | [] => (none, [])
  | (other, queue) :: rest =>
    if other = name then
      match queue with
      | [] => (none, (other, []) :: rest)
      | fault :: queue => (fault, (other, queue) :: rest)
    else
      let (fault, rest) := takeFault name rest
      (fault, (other, queue) :: rest)

/-- The current element. -/
def element? (p : Page) : Option PageElement :=
  p.current.bind fun key => (p.elements.find? fun e => e.1 = key).map Prod.snd

/-- Changes the current element. -/
def update (p : Page) (change : PageElement → PageElement) : Page :=
  { p with
    elements := p.elements.map fun (key, e) =>
      if p.current = some key then (key, change e) else (key, e) }

/-- Asks the current element: the answer is read off it, and it changes. -/
def ask {α : Type} (p : Page) (read : PageElement → α) (change : PageElement → PageElement) :
    Except BrowserError α × Page :=
  match p.element? with
  | none => (.error .noCurrentElement, p)
  | some e => (.ok (read e), p.update change)

/-- Makes the element that a locator finds the current one. -/
def locate (p : Page) (l : Locator) : Except BrowserError Unit × Page :=
  if p.elements.any fun e => e.1 = l.value then (.ok (), { p with current := some l.value })
  else (.error (.noSuchElement l.display), { p with current := none })

/-- Answers a call for which there is no fault. -/
def serve (p : Page) : (c : Call) → Except BrowserError c.Reply × Page
  | .start _ => (.ok (), p)
  | .connect .. => (.ok (), p)
  | .get _ => (.ok (), p)
  | .close => (.ok (), { p with current := none })
  | .viewport _ => (.ok (), p)
  | .back => (.ok (), p)
  | .forward => (.ok (), p)
  | .refresh => (.ok (), p)
  | .setPageLoadTimeout _ => (.ok (), p)
  | .sendToPage _ => (.ok (), p)
  | .locate l => p.locate l
  | .clearCurrent => (.ok (), { p with current := none })
  | .text => p.ask (·.text.first) fun e => { e with text := e.text.next }
  | .tagName => p.ask (·.tag.first) fun e => { e with tag := e.tag.next }
  | .rect => p.ask (·.rect.first) fun e => { e with rect := e.rect.next }
  | .state .displayed => p.ask (·.displayed.first) fun e => { e with displayed := e.displayed.next }
  | .state .enabled => p.ask (·.enabled.first) fun e => { e with enabled := e.enabled.next }
  | .state .selected => p.ask (·.selected.first) fun e => { e with selected := e.selected.next }
  | .checksum => p.ask (·.checksum.first) fun e => { e with checksum := e.checksum.next }
  | .click => p.ask (fun _ => ()) id
  | .send text => p.ask (fun _ => ()) fun e => { e with text := ⟨e.text.last ++ text, []⟩ }
  | .clear => p.ask (fun _ => ()) fun e => { e with text := ⟨"", []⟩ }
  | .press _ => (.ok (), p)
  | .scrollIntoView => p.ask (fun _ => ()) id
  | .mouse _ => (.ok (), p)
  | .screenshot _ => (.ok (), p)
  | .pageSource => (.ok p.source, p)
  | .readyState => (.ok p.ready.first, { p with ready := p.ready.next })
  | .invoke .. =>
    match p.results with
    | [] => (.ok .null, p)
    | result :: results => (.ok result, { p with results })
  | .consoleMessages =>
    match p.console with
    | [] => (.ok [], p)
    | lines :: console => (.ok lines, { p with console })

/-- What a fault leaves behind: closing, looking for an element and forgetting it leave no current
element. -/
def afterFault (p : Page) : Call → Page
  | .close => { p with current := none }
  | .locate _ => { p with current := none }
  | .clearCurrent => { p with current := none }
  | _ => p

/-- Answers a call. -/
def answer (p : Page) (c : Call) : Except BrowserError c.Reply × Page :=
  let (fault, faults) := takeFault c.name p.faults
  let p := { p with faults }
  match fault with
  | none => p.serve c
  | some e => (.error e, p.afterFault c)

end Page

instance : Browser Page where
  answer c p disk := let (reply, p) := p.answer c; (reply, p, disk)

end PageScript
