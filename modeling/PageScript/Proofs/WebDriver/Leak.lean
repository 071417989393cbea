/-
The sessions that a test leaves open.

A machine closes the browser after a test only if it says that one is running, and it says so of a launch
only if this has succeeded. But a launch may have opened a session and fail nevertheless, as the page is
given its size after that. The client still has the session then, and ends it when it is asked to launch
another browser, or to close this one; if neither happens, the session is left open.
-/
import PageScript.Proofs.Machine.Lifecycle
import PageScript.Proofs.WebDriver.Session

namespace PageScript

namespace Call

/-- Whether a call is to launch a browser or to close it. -/
def turns : Call → Bool
  | .start _ | .connect .. | .close => true
  | _ => false

variable {c : Call}

theorem launches_of_not_turns (h : c.turns = false) : c.launches = false := by
  cases c <;> first | rfl | cases h

theorem leavesRunning_of_not_turns (h : c.turns = false) (launched succeeded : Bool) :
    c.leavesRunning launched succeeded = launched := by
  cases c <;> first | rfl | cases h

end Call

namespace WebDriver

open Client

variable {element : Option String} {c : Call} {k k' : Client} {old sent : List Message}

-- ======== one call

/-- Only the session is ended or changed that a call is about. -/
theorem base?_afterCall (h : c.turns = false) (k : Client) (disk : Disk) :
    (k.afterCall c disk).base? = k.base? := by
  have hforgets : c.forgets = true → (k.afterCall c disk).base? = k.base? :=
    fun h => (forgets_chats h k disk).base?
  have hsteady : c.isSteady = true → (k.afterCall c disk).base? = k.base? :=
    fun h => (steady_chats h k disk).base?
  cases c with
  | start | connect | close => cases h
  | get | back | forward | refresh | clearCurrent => exact hforgets rfl
  | locate l =>
    change (locate l k).2.base? = _
    obtain ⟨k₁, hchats, ⟨id, -, -, hlocate⟩ | ⟨e, -, hlocate⟩ | ⟨e, -, hlocate⟩⟩ := locate_cases l k
      <;> rw [hlocate] <;> exact hchats.base?
  | _ => exact hsteady rfl

/-- Where no session is asked for, none is opened. -/
theorem Steps.unopened (h : Steps none element k k') :
    ∃ new, k'.traffic = new ++ k.traffic ∧ ∀ x ∈ new, x.opened? = none := by
  induction h with
  | refl => exact ⟨[], rfl, fun _ h => absurd h List.not_mem_nil⟩
  | @tail k₁ k₂ _ hstep ih =>
    obtain ⟨new, htraffic, hnew⟩ := ih
    have hadded : ∀ {x k'}, Adds x k₁ k' → x.opened? = none →
        ∃ new, k'.traffic = new ++ k.traffic ∧ ∀ x ∈ new, x.opened? = none := by
      intro x k' hadds hx
      exact ⟨x :: new, by rw [hadds.traffic, htraffic]; rfl, List.forall_mem_cons.2 ⟨hx, hnew⟩⟩
    cases hstep with
    | ask _ hurl huses hadds => exact hadded hadds (huses.opened?_eq_none hurl)
    | point | lose => exact ⟨new, htraffic, hnew⟩
    | finish _ hadds =>
      obtain ⟨new, hnew⟩ := hadded hadds (Message.opened?_of_delete rfl)
      exact ⟨new, hnew⟩
    | poll _ horigin | refuse _ horigin | join _ horigin => cases horigin

theorem openSessions_append_of_unopened {new : List Message} (h : ∀ x ∈ new, x.opened? = none)
    (hsent : openSessions sent = []) : openSessions (new ++ sent) = [] := by
  induction new with
  | nil => exact hsent
  | cons x new ih =>
    obtain ⟨hx, hnew⟩ := List.forall_mem_cons.1 h
    rw [List.cons_append, openSessions_of_not_opened hx, ih hnew]
    rfl

/-- Where the client has no session any more, none is open that it has opened. -/
theorem settled_of_unopened (htraffic : k.traffic = sent ++ old) (hsent : openSessions sent = [])
    (hsteps : Steps none element k k') (hnone : k'.session = none) :
    ∃ new, Settled old k' (new ++ sent) := by
  obtain ⟨new, hnew, hunopened⟩ := hsteps.unopened
  have hbase := base?_of_no_session hnone
  refine ⟨new, ?_, ?_, fun base hsome => ?_⟩
  · rw [hnew, htraffic, List.append_assoc]
  · rw [openSessions_append_of_unopened hunopened hsent, hbase]
    rfl
  · cases hbase.symm.trans hsome

/-- A launch or a closing starts with the end of the session that there is, whether or not it was opened
since. -/
theorem turn_cases (h : c.turns = true) (k : Client) (disk : Disk) :
    ∃ k₁, Steps none none k k₁ ∧ k₁.session = none ∧
      Steps (c.origin? k.settings k.host) none k₁ (k.afterCall c disk) ∧
      (c.launches = false → (k.afterCall c disk).session = none) := by
  have hlaunch : c.launches = true → ∃ k₁, Steps none none k k₁ ∧ k₁.session = none ∧
      Steps (c.origin? k.settings k.host) none k₁ (k.afterCall c disk) ∧
      (c.launches = false → (k.afterCall c disk).session = none) := by
    intro h
    obtain ⟨k₁, hclosed, hnone, hopened, -⟩ := launch_steps none h k disk
    exact ⟨k₁, hclosed, hnone, hopened, fun hnot => absurd h (Bool.eq_false_iff.1 hnot)⟩
  cases c with
  | start | connect => exact hlaunch rfl
  | close =>
    have hnone := (alone_close k).1
    exact ⟨(close k).2, close_steps none k, hnone, .refl, fun _ => hnone⟩
  | _ => cases h

-- ======== all calls

/-- What is known of the sessions that were opened since some messages were sent, from the calls since.
If none of them was to launch a browser or to close it, none is open. Otherwise just the client's own is
open, if it has one, which is the one that the latest such call left it with. -/
inductive Accounted (old : List Message) (p : Contact Client) (sent : List Message) :
    List (Dealing Client) → Prop
  | unturned {deals : List (Dealing Client)} : deals.find? (·.call.turns) = none →
      p.browser.traffic = sent ++ old → openSessions sent = [] → Accounted old p sent deals
  | turned {deals : List (Dealing Client)} {d : Dealing Client} :
      deals.find? (·.call.turns) = some d → Settled old p.browser sent →
      p.browser.base? = d.browser.base? →
      p.launched = d.call.leavesRunning d.launched d.error.isNone →
      (d.call.launches = false → d.browser.session = none) → Accounted old p sent deals

theorem Accounted.step {p q : Contact Client} {deals : List (Dealing Client)}
    (h : Accounted old p sent deals) (hstep : Contact.Step p q) :
    ∃ new d, q.dealings = d :: p.dealings ∧ Accounted old q (new ++ sent) (d :: deals) := by
  obtain ⟨c, disk, -⟩ := hstep
  cases hturns : c.turns with
  | false =>
    have hsteps := answer_steps c p.browser disk
    rw [Call.origin?_of_not_launches (Call.launches_of_not_turns hturns)] at hsteps
    have hsame := base?_afterCall hturns p.browser disk
    have hpassed : ∀ d : Dealing Client, d.call = c →
        (d :: deals).find? (·.call.turns) = deals.find? (·.call.turns) := by
      rintro d rfl
      exact List.find?_cons_of_neg (Bool.eq_false_iff.1 hturns)
    cases h with
    | unturned hnone htraffic hsent =>
      obtain ⟨new, hnew, hunopened⟩ := hsteps.unopened
      refine ⟨new, _, rfl, .unturned ((hpassed _ rfl).trans hnone) ?_
        (openSessions_append_of_unopened hunopened hsent)⟩
      rw [List.append_assoc, ← htraffic]
      exact hnew
    | turned hlatest hsettled hbase hlaunched hclosed =>
      obtain ⟨new, hsettled', -⟩ := hsettled.steps hsteps
      exact ⟨new, _, rfl, .turned ((hpassed _ rfl).trans hlatest) hsettled' (hsame.trans hbase)
        ((Call.leavesRunning_of_not_turns hturns ..).trans hlaunched) hclosed⟩
  | true =>
    obtain ⟨k₁, hended, hnone, hopened, hclosed⟩ := turn_cases hturns p.browser disk
    obtain ⟨new, hsettled⟩ : ∃ new, Settled old k₁ (new ++ sent) := by
      cases h with
      | unturned _ htraffic hsent => exact settled_of_unopened htraffic hsent hended hnone
      | turned _ hsettled =>
        obtain ⟨new, hsettled, -⟩ := hsettled.steps hended
        exact ⟨new, hsettled⟩
    obtain ⟨more, hsettled', -⟩ := hsettled.steps hopened
    rw [← List.append_assoc] at hsettled'
    refine ⟨more ++ new, _, rfl, .turned (List.find?_cons_of_pos hturns) hsettled' rfl rfl hclosed⟩

theorem Accounted.traffic {p : Contact Client} {deals : List (Dealing Client)}
    (h : Accounted old p sent deals) : p.browser.traffic = sent ++ old := by
  cases h with
  | unturned _ htraffic => exact htraffic
  | turned _ hsettled => exact hsettled.traffic

/-- Whatever steps of contact there have been, the sessions that were opened in them are accounted for. -/
theorem accounted_of_steps {p q : Contact Client}
    (hsteps : Relation.ReflTransGen Contact.Step p q) :
    ∃ sent deals, q.dealings = deals ++ p.dealings ∧ Accounted p.browser.traffic q sent deals := by
  induction hsteps with
  | refl => exact ⟨[], [], rfl, .unturned rfl rfl rfl⟩
  | tail _ hstep ih =>
    obtain ⟨sent, deals, hdeals, haccounted⟩ := ih
    obtain ⟨new, d, hdeal, haccounted'⟩ := haccounted.step hstep
    exact ⟨new ++ sent, d :: deals, by rw [hdeal, hdeals]; rfl, haccounted'⟩

/-- Where no browser is said to be running any more, the sessions that are open are those of a launch that
has failed. -/
theorem Accounted.mem_openSessions_iff {p : Contact Client} {deals : List (Dealing Client)}
    (h : Accounted old p sent deals) (hlaunched : p.launched = false) (base : String) :
    base ∈ openSessions sent ↔
      ∃ d, deals.find? (·.call.turns) = some d ∧ d.call.launches = true ∧ d.launched = false ∧
        d.error.isSome = true ∧ d.browser.base? = some base := by
  cases h with
  | unturned hnone _ hsent =>
    rw [hsent, hnone]
    exact ⟨fun h => absurd h List.not_mem_nil, fun h => by obtain ⟨_, h, -⟩ := h; cases h⟩
  | @turned d hlatest hsettled hbase hrunning hclosed =>
    rw [hsettled.sessions, hbase, Option.mem_toList]
    constructor
    · intro hs
      have hlaunches : d.call.launches = true := by
        cases hcall : d.call.launches with
        | true => rfl
        | false => cases (base?_of_no_session (hclosed hcall)).symm.trans hs
      rw [Call.leavesRunning_of_launches hlaunches] at hrunning
      obtain ⟨hidle, herror⟩ := Bool.or_eq_false_iff.1 (hrunning.symm.trans hlaunched)
      refine ⟨d, hlatest, hlaunches, hidle, ?_, hs⟩
      cases herror' : d.error with
      | none =>
        rw [herror'] at herror
        cases herror
      | some e => rfl
    · rintro ⟨d', hlatest', -, -, -, hs⟩
      cases hlatest.symm.trans hlatest'
      exact hs

end WebDriver

namespace Machine

open WebDriver

/-- The sessions that a test leaves open. A session that was opened in a test has not been deleted when the
test ends exactly if the latest call to launch a browser or to close it was to launch one, while none was
running, and has failed although it had opened this session. -/
theorem session_left_open_iff [Programs Client] {fuel : Nat} {path : Path} {m m' : Machine Client}
    {r : Except Halt Unit} (hrun : runScript fuel path m = (r, m')) (hended : Halt.Ended r) :
    ∃ sent deals, m'.browser.traffic = sent ++ m.browser.traffic ∧
      m'.dealings = deals ++ m.dealings ∧
      ∀ base, (∃ later x earlier, sent = later ++ x :: earlier ∧ x.opened? = some base ∧
          ∀ y ∈ later, y.deletes base = false) ↔
        ∃ d, deals.find? (·.call.turns) = some d ∧ d.call.launches = true ∧
          d.launched = false ∧ d.error.isSome = true ∧ d.browser.base? = some base := by
  have hdeals : Deals m m' := Deals.of_request (.script path) fuel hrun hended
  obtain ⟨sent, deals, hdealings, haccounted⟩ := accounted_of_steps hdeals
  refine ⟨sent, deals, haccounted.traffic, hdealings, fun base => ?_⟩
  rw [← mem_openSessions]
  exact haccounted.mem_openSessions_iff (launched_of_runScript hrun hended) base

/-- A machine with an alias for failures, which connects to a server that hands out a session, but fails to
give the page its size. -/
def connecting : Machine Client :=
  ((Request.text "alias --onfail \x7b browser connect 'http://h' \x7d" "setup" ⟨"."⟩).run 8
    (new {} { server := { responses := [.answer 200 "\x7b\"value\":\x7b\"sessionId\":\"s\"\x7d\x7d",
      .answer 500 "\x7b\"value\":\x7b\"error\":\"unknown error\",\"message\":\"no\"\x7d\x7d"] } }
      default)).2

/-- Whether a run has ended, and which sessions are open then. -/
def leftOpen (ran : Except Halt Unit × Machine Client) : Bool × List String :=
  (decide (Halt.Ended ran.1), openSessions ran.2.browser.traffic)

/-- The session is left open, since the call that opened it has failed. -/
theorem session_left_open_iff_connect :
    ∃ (r : Except Halt Unit) (m' : Machine Client) (deals : List (Dealing Client))
      (d : Dealing Client),
      runScript 8 nowhere connecting = (r, m') ∧ Halt.Ended r ∧
      openSessions m'.browser.traffic = ["http://h/session/s"] ∧
      m'.dealings = deals ++ connecting.dealings ∧ deals.find? (·.call.turns) = some d ∧
      d.call.launches = true ∧ d.launched = false ∧ d.error.isSome = true ∧
      d.browser.base? = some "http://h/session/s" := by
  have hleft : leftOpen (runScript 8 nowhere connecting) = (true, ["http://h/session/s"]) := by
    decide +kernel
  have hfresh : connecting.browser.traffic.length = 0 := by decide +kernel
  generalize hrun : runScript 8 nowhere connecting = ran at hleft
  obtain ⟨r, m'⟩ := ran
  obtain ⟨hended, hopen⟩ := Prod.ext_iff.1 hleft
  have hended : Halt.Ended r := of_decide_eq_true hended
  obtain ⟨sent, deals, htraffic, hdealings, hiff⟩ := session_left_open_iff hrun hended
  rw [List.eq_nil_of_length_eq_zero hfresh, List.append_nil] at htraffic
  have hmem : "http://h/session/s" ∈ openSessions sent := by
    rw [← htraffic, show openSessions m'.browser.traffic = _ from hopen]
    exact List.mem_singleton_self _
  obtain ⟨d, hlatest, hfailed⟩ := (hiff _).1 (mem_openSessions.1 hmem)
  exact ⟨r, m', deals, d, rfl, hended, hopen, hdealings, hlatest, hfailed⟩

end Machine

end PageScript
