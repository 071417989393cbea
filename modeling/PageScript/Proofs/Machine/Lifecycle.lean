/-
When a browser is running.

The calls that decide this are those that launch a browser or take one over, if they succeed, and those
that close it, whether or not they do. A machine keeps track of the latest of them: it says that a
browser is running exactly if that was a launch. What it says is what it goes by, so that it launches no
second browser, closes none that is not there, and goes to no page without one.

Each step of contact keeps this up, and a machine deals with its browser by such steps only, whatever it
is asked to do.
-/
import PageScript.Proofs.Machine.History
import PageScript.Proofs.Machine.Test

namespace PageScript

namespace Machine

variable {σ : Type} [World σ] {R : Machine σ → Machine σ → Prop}

-- ======== all steps

/-- What holds wherever there have been steps of contact alone survives whatever is done around the
statements of a request. -/
theorem Enduring.of_deals [IsPreorder (Machine σ) R] (hR : ∀ {m m'}, Deals m m' → R m m') :
    Enduring R where
  frame {m m'} name dir h := by
    have hentered : R m (m.entering name dir) := hR (.of_eq rfl)
    have hleft : R m' m'.leaving := hR (.of_eq rfl)
    exact trans_of R hentered (trans_of R h hleft)
  block {m m'} h := by
    have hclosed : R m' (m'.closing m.conditions.depth) := hR (.of_eq rfl)
    exact trans_of R h hclosed
  recording _ _ := hR (.of_eq rfl)
  loopEnd _ := hR (.of_eq rfl)
  log _ _ _ := (discreet.log ..).mono fun h => hR h.deals
  drain := discreet.drainConsole.mono fun h => hR h.deals
  program _ _ _ := (discreet.runProgram ..).mono fun h => hR h.deals
  report path f := (discreet.report path f).mono fun h => hR h.deals
  teardown := teardown_discreet.mono fun h => hR h.deals

theorem KeptAt.of_deals (hR : ∀ {m m'}, Deals m m' → R m m') (st : Statement) (m : Machine σ) :
    KeptAt R st m := by
  intro hscript run limit r m' hrun hended
  rcases execute_cases hscript hrun hended with
    h | ⟨-, _, _, _, rfl⟩ | ⟨-, rfl⟩ | ⟨_, -, rfl⟩ | ⟨_, _, -, -, rfl⟩
  · exact hR h.deals
  all_goals exact hR (.of_eq rfl)

/-- For a request, a machine deals with its browser by steps only. -/
theorem Deals.of_request (request : Request) (fuel : Nat) :
    Run.Keeps (σ := σ) Deals (request.run fuel) := by
  have henduring : Enduring (σ := σ) Deals := .of_deals id
  have hstable : Stable (σ := σ) Deals := ⟨henduring.toFramed, fun _ _ => .of_eq rfl⟩
  exact fun m => henduring.of_request (fun _ => .of_eq rfl) fun _ =>
    hstable.of_statements fun _ => KeptAt.of_deals id _ _

end Machine

-- ======== decisions

namespace Dealing

variable {σ : Type}

/-- Whether a call has decided if a browser is running: a launch that has succeeded, or an attempt to
close it. -/
def isDecisive (d : Dealing σ) : Bool :=
  match d.call with
  | .start _ | .connect .. => d.error.isNone
  | .close => true
  | _ => false

/-- Whether a browser is running after some dealings, the latest first: the latest decision, if there was
one, was a launch. -/
def runsAfter (dealings : List (Dealing σ)) : Bool :=
  (dealings.find? isDecisive).any (·.call.launches)

theorem runsAfter_cons (d : Dealing σ) (earlier : List (Dealing σ)) :
    runsAfter (d :: earlier) = d.call.leavesRunning (runsAfter earlier) d.error.isNone := by
  rcases d with ⟨c, launched, error, browser⟩
  rw [runsAfter, List.find?_cons]
  cases c <;> cases error <;> simp [runsAfter, isDecisive, Call.leavesRunning, Call.launches]

theorem runsAfter_eq_true_iff {dealings : List (Dealing σ)} :
    runsAfter dealings = true ↔
      ∃ d, dealings.find? isDecisive = some d ∧ d.call.launches = true := by
  rw [runsAfter, Option.any_eq_true]

end Dealing

namespace Contact

variable {σ : Type}

/-- The record of calls is complete, whether a browser is said to be running is what follows from it, and
so it was at each call, which was one that might then be made. -/
structure Sound (p : Contact σ) : Prop where
  calls : p.calls = p.dealings.map (·.call)
  launched : p.launched = Dealing.runsAfter p.dealings
  each : ∀ d earlier, d :: earlier <:+ p.dealings →
    d.launched = Dealing.runsAfter earlier ∧ d.call.isAllowed d.launched = true

theorem Sound.step [World σ] {p q : Contact σ} (h : p.Sound) (hstep : Step p q) : q.Sound := by
  obtain ⟨c, disk, hallowed⟩ := hstep
  refine ⟨congrArg (c :: ·) h.calls, ?_, fun d earlier hlater => ?_⟩
  · rw [after, Dealing.runsAfter_cons, h.launched]
  · rcases List.suffix_cons_iff.1 hlater with heq | hlater
    · cases heq
      exact ⟨h.launched, hallowed⟩
    · exact h.each d earlier hlater

theorem Sound.steps [World σ] {p q : Contact σ} (h : p.Sound)
    (hsteps : Relation.ReflTransGen Step p q) : q.Sound := by
  induction hsteps with
  | refl => exact h
  | tail _ hstep ih => exact ih.step hstep

end Contact

namespace Machine

variable {σ : Type} [World σ] {m m' : Machine σ}

/-- If the contact of a machine was sound, it is. -/
def StaysSound (m m' : Machine σ) : Prop :=
  m.contact.Sound → m'.contact.Sound

instance : IsPreorder (Machine σ) StaysSound where
  refl _ := id
  trans _ _ _ h₁ h₂ := h₂ ∘ h₁

/-- At each moment of every session the contact is sound. -/
theorem sound_history (settings : Settings) (browser : σ) (disk : Disk)
    (session : List (Errand σ)) :
    ∀ x ∈ history session (new settings browser disk), x.machine.contact.Sound := by
  have hdeals {m m' : Machine σ} : Deals m m' → StaysSound m m' := fun h hsound => hsound.steps h
  have hdurable : Durable (σ := σ) StaysSound :=
    { Enduring.of_deals hdeals with
      reading := fun _ _ => hdeals (.of_eq rfl)
      holding := fun _ _ => hdeals (.of_eq rfl)
      outside := fun _ _ h => ⟨h.calls, h.launched, h.each⟩ }
  have hnew : (new settings browser disk).contact.Sound :=
    ⟨rfl, rfl, fun _ _ h => absurd (List.suffix_nil.1 h) (List.cons_ne_nil _ _)⟩
  exact hdurable.of_history (I := (·.contact.Sound)) (fun _ _ _ => hdeals (.of_eq rfl))
    (KeptAt.of_deals hdeals) id hnew

/-- The life of a browser. At each moment of every session, a machine says that a browser is running
exactly if the latest decision was a launch: of the launches that have succeeded and the attempts to close
it. So it did at each call, and none was made to launch a browser while one was running, nor to close one
or go to a page while none was. After every test none is running. -/
theorem browser_lifecycle (settings : Settings) (browser : σ) (disk : Disk)
    (session : List (Errand σ)) :
    (∀ x ∈ history session (new settings browser disk),
      x.machine.calls = x.machine.dealings.map (·.call) ∧
      (x.machine.launched = true ↔
        ∃ d, x.machine.dealings.find? Dealing.isDecisive = some d ∧ d.call.launches = true) ∧
      ∀ d earlier, d :: earlier <:+ x.machine.dealings →
        (d.launched = true ↔
          ∃ e, earlier.find? Dealing.isDecisive = some e ∧ e.call.launches = true) ∧
        (∀ options, d.call = .start options → d.launched = false) ∧
        (d.call = .close → d.launched = true) ∧ ∀ url, d.call = .get url → d.launched = true) ∧
    ∀ (fuel : Nat) (path : Path) (m m' : Machine σ) (r : Except Halt Unit),
      runScript fuel path m = (r, m') → Halt.Ended r → m'.launched = false := by
  refine ⟨fun x hx => ?_, fun fuel path m m' r => launched_of_runScript⟩
  have hsound := sound_history settings browser disk session x hx
  refine ⟨hsound.calls, ?_, fun d earlier hlater => ?_⟩
  · rw [← Dealing.runsAfter_eq_true_iff]
    exact Bool.eq_iff_iff.1 hsound.launched
  · obtain ⟨hlaunched, hallowed⟩ := hsound.each d earlier hlater
    rw [← Dealing.runsAfter_eq_true_iff, ← hlaunched]
    refine ⟨.rfl, fun options hcall => ?_, fun hcall => ?_, fun url hcall => ?_⟩
    · rw [hcall] at hallowed
      simpa [Call.isAllowed] using hallowed
    · rw [hcall] at hallowed
      exact hallowed
    · rw [hcall] at hallowed
      exact hallowed

/-- A browser in which no time limit for pages can be set at first. -/
def sluggish : Page := { faults := [("set_page_load_timeout", [some .notStarted])] }

/-- A launch that is followed by such a failure, and then a request to close the browser. -/
def interrupted : List (Errand Page) :=
  [{ fuel := 6, request := .text "browser wait 5 browser get 'a'" "script" ⟨"."⟩ },
   { fuel := 6, request := .close }]

/-- Whether a browser is running at a moment, and which calls have been made. -/
def standing (x : Moment Page) : Bool × List String :=
  (x.machine.launched, x.machine.calls.map Call.name)

/-- The browser is running though the statement has failed that launched it. -/
theorem browser_lifecycle_interrupted :
    ∃ x, (history interrupted (new {} sluggish default))[6]? = some x ∧
      x.machine.launched = true ∧
      x.machine.dealings.map (·.call.name) = ["set_page_load_timeout", "start"] ∧
      (∃ d, x.machine.dealings.find? Dealing.isDecisive = some d ∧ d.call.launches = true) ∧
      ∀ d earlier, d :: earlier <:+ x.machine.dealings →
        ∀ options, d.call = .start options → d.launched = false := by
  have hmoment : (history interrupted (new {} sluggish default))[6]?.map standing =
      some (true, ["set_page_load_timeout", "start"]) := by decide +kernel
  obtain ⟨x, hx, hstanding⟩ := Option.map_eq_some_iff.1 hmoment
  obtain ⟨hlaunched, hnames⟩ := Prod.ext_iff.1 hstanding
  obtain ⟨hcalls, hdecided, heach⟩ :=
    (browser_lifecycle {} sluggish default interrupted).1 x (List.mem_of_getElem? hx)
  refine ⟨x, hx, hlaunched, ?_, hdecided.1 hlaunched,
    fun d earlier hlater => (heach d earlier hlater).2.1⟩
  rw [standing, hcalls, List.map_map] at hnames
  exact hnames

end Machine

end PageScript
