/-
The stages of a test.

A test runs its file, then the alias for success, and if one of the two has failed, it reports the
failure and runs the alias for failures. Last it closes the browser. Its result is settled by the first
two: whatever happens in the later stages neither makes a failure good nor puts another in its place.
-/
import PageScript.Proofs.Machine.Trace
import PageScript.World

namespace PageScript

namespace Machine

variable {σ : Type} [World σ] {fuel : Nat} {path : Path} {m m' m₁ m₂ : Machine σ} {f : Failure}

-- ======== hooks

/-- A stage of a test that runs an alias. Where this is wanted and there is such an alias, it is run
once, with some result; otherwise nothing is done. -/
inductive Hook (fuel : Nat) (name : String) (wanted : Prop) (m : Machine σ) :
    Option (Except Failure Unit) → Machine σ → Prop
  | skipped : ¬(wanted ∧ m.aliases.contains name = true) → Hook fuel name wanted m none m
  | started {result : Except Failure Unit} {m' : Machine σ} : wanted →
      m.aliases.contains name = true → (runAlias fuel name {}).outcome m = (.ok result, m') →
      Hook fuel name wanted m (some result) m'

theorem runHook_cases {name : String} {result : Except Failure Unit} {wanted : Prop}
    (hwanted : wanted) (h : (runHook fuel name).outcome m = (.ok result, m')) :
    ∃ hook, Hook fuel name wanted m hook m' ∧ result = hook.getD (.ok ()) := by
  have happly : runHook fuel name m =
      (if m.aliases.contains name then runAlias fuel name {} else pure ()) m := rfl
  cases hdefined : m.aliases.contains name with
  | true =>
    rw [hdefined, if_pos rfl] at happly
    rw [Run.outcome_congr happly] at h
    exact ⟨some result, .started hwanted hdefined h, rfl⟩
  | false =>
    rw [hdefined, if_neg nofun] at happly
    rw [Run.outcome_ok happly] at h
    cases h
    exact ⟨none, .skipped fun hboth => Bool.false_ne_true (hdefined.symm.trans hboth.2), rfl⟩

-- ======== stages

/-- The result of the first two stages: that of the file, unless it has ended well and the alias for
success has been run. -/
def verdict (file : Except Failure Unit) (success : Option (Except Failure Unit)) :
    Except Failure Unit :=
  file.bind fun _ => success.getD (.ok ())

theorem verdict_eq_ok_iff {file : Except Failure Unit} {success : Option (Except Failure Unit)} :
    verdict file success = .ok () ↔
      file = .ok () ∧ ∀ result, success = some result → result = .ok () := by
  cases file with
  | error f => exact ⟨nofun, fun h => nomatch h.1⟩
  | ok u => cases success <;> simp [verdict, Except.bind]

/-- Of the two there is only one that can have failed: after a failure of the file nothing is run. -/
theorem verdict_eq_error_iff {file : Except Failure Unit} {success : Option (Except Failure Unit)}
    (hstage : Hook fuel onSuccess (file = .ok ()) m success m') :
    verdict file success = .error f ↔ file = .error f ∨ success = some (.error f) := by
  cases hstage with
  | skipped => cases file <;> simp [verdict, Except.bind]
  | started hwanted => simp [verdict, Except.bind, hwanted]

theorem trial_cases {result : Except Failure Unit}
    (h : (trial fuel path).outcome m = (.ok result, m₂)) :
    ∃ file success m₁, (runFile fuel path).outcome m = (.ok file, m₁) ∧
      Hook fuel onSuccess (file = .ok ()) m₁ success m₂ ∧ result = verdict file success := by
  rcases hfile : runFile fuel path m with ⟨(e | _) | ⟨⟩, m₁⟩
  · have htrial : trial fuel path m = (.error (.failed e), m₁) := Run.bind_error hfile
    rw [Run.outcome_failed htrial] at h
    cases h
    exact ⟨.error e, none, m₂, Run.outcome_failed hfile, .skipped (fun h => nomatch h.1), rfl⟩
  · have htrial : trial fuel path m = (.error .unfinished, m₁) := Run.bind_error hfile
    rw [Run.outcome_unfinished htrial] at h
    cases h
  · have htrial : trial fuel path m = runHook fuel onSuccess m₁ := Run.bind_ok hfile
    rw [Run.outcome_congr htrial] at h
    have hended : (Except.ok () : Except Failure Unit) = .ok () := rfl
    obtain ⟨success, hhook, rfl⟩ := runHook_cases hended h
    exact ⟨.ok (), success, m₁, Run.outcome_ok hfile, hhook, rfl⟩

/-- The screenshot of a failure is at most one call, and what comes of it does not matter. -/
theorem failureScreenshot_apply (path : Path) (m : Machine σ) :
    ∃ m', failureScreenshot path m = (.ok (), m') ∧
      (m'.calls = m.calls ∨ ∃ file, m'.calls = .screenshot file :: m.calls) := by
  rw [failureScreenshot, Run.get_bind_apply]
  cases hdir : m.screenshotDir with
  | none => exact ⟨m, rfl, .inl rfl⟩
  | some dir =>
    dsimp only
    split
    · rcases m.disk.makeDirs dir with ⟨e | ⟨⟩, disk⟩
      · exact ⟨_, rfl, .inl rfl⟩
      · dsimp only
        rw [Run.modify_bind_apply, Run.bind_ok (ask_apply ..)]
        rcases (Browser.answer (.screenshot (dir.join _)) m.browser disk).1 with e | a
        · exact ⟨_, rfl, .inr ⟨_, rfl⟩⟩
        · exact ⟨_, rfl, .inr ⟨_, rfl⟩⟩
    · exact ⟨m, rfl, .inl rfl⟩

theorem report_apply (path : Path) (f : Failure) (m : Machine σ) :
    ∃ m', report path f m = (.ok (), m') ∧
      (m'.calls = m.calls ∨ ∃ file, m'.calls = .screenshot file :: m.calls) := by
  rw [report, Run.log, Run.modify_bind_apply]
  exact failureScreenshot_apply ..

/-- A failure is reported, and then the alias for failures is run. That it fails is only logged. -/
theorem afterFailure_cases {wanted : Prop} {r : Except Halt Unit} (hwanted : wanted)
    (h : afterFailure fuel path f m = (r, m')) (hended : Halt.Ended r) :
    r = .ok () ∧ ∃ failure m₁ m₂, report path f m = (.ok (), m₁) ∧
      Hook fuel onFail wanted m₁ failure m₂ ∧ Quiet m₂ m' ∧ m'.contact = m₂.contact := by
  obtain ⟨m₁, hreport, -⟩ := report_apply path f m
  rw [afterFailure, ← bind_assoc] at h
  change (report path f >>= _) m = _ at h
  rw [Run.bind_ok hreport] at h
  obtain ⟨result, m₂, hrun, h⟩ := Run.outcome_bind_cases h hended
  cases result with
  | error e =>
    obtain ⟨failure, hstage, -⟩ := runHook_cases hwanted (Run.outcome_failed hrun)
    cases h
    exact ⟨rfl, failure, m₁, m₂, hreport, hstage, ⟨⟨rfl⟩, rfl⟩, rfl⟩
  | ok _ =>
    obtain ⟨failure, hstage, -⟩ := runHook_cases hwanted (Run.outcome_ok hrun)
    cases h
    exact ⟨rfl, failure, m₁, m', hreport, hstage, refl_of Quiet m', rfl⟩

/-- The end of a test closes the browser if one is running, and does nothing else to it. -/
theorem teardown_apply (m : Machine σ) :
    ∃ m', teardown m = (.ok (), m') ∧ Quiet m m' ∧ m'.launched = false ∧
      m'.calls = (if m.launched then [.close] else []) ++ m.calls := by
  cases hlaunched : m.launched with
  | false => exact ⟨m, teardown_of_not_launched hlaunched, refl_of Quiet m, hlaunched, rfl⟩
  | true =>
    obtain ⟨m', hdown, hquiet, hclosed, hcontact⟩ := teardown_of_launched hlaunched
    exact ⟨m', hdown, hquiet, hclosed, congrArg Contact.calls hcontact⟩

/-- A test that ends has had its trial, has then dealt with the failure if there was one, and has
closed the browser. Its result is that of the trial. -/
theorem runScript_cases {r : Except Halt Unit} (h : runScript fuel path m = (r, m'))
    (hended : Halt.Ended r) :
    ∃ result m₁ m₂, (trial fuel path).outcome m = (.ok result, m₁) ∧
      (result = .ok () ∧ m₂ = m₁ ∨
        ∃ f, result = .error f ∧ afterFailure fuel path f m₁ = (.ok (), m₂)) ∧
      teardown m₂ = (.ok (), m') ∧ r = result.mapError .failed := by
  change ((trial fuel path).outcome >>= _) m = _ at h
  have hdown : ∀ (result : Except Failure Unit) {m₂ : Machine σ},
      (teardown >>= fun _ => Run.ofOutcome result) m₂ = (r, m') →
      teardown m₂ = (.ok (), m') ∧ r = result.mapError .failed := by
    intro result m₂ h
    obtain ⟨m₃, hdown, -⟩ := teardown_apply m₂
    rw [Run.bind_ok hdown] at h
    cases result <;> (cases h; exact ⟨hdown, rfl⟩)
  obtain ⟨result, m₁, htrial, h⟩ := Run.outcome_bind_cases h hended
  cases result with
  | error e =>
    dsimp only at h
    rcases hafter : afterFailure fuel path e m₁ with ⟨r₁, m₂⟩
    by_cases hunfinished : r₁ = .error .unfinished
    · subst hunfinished
      rw [Run.bind_error hafter] at h
      cases h
      exact absurd rfl hended
    · obtain ⟨rfl, -⟩ := afterFailure_cases trivial hafter hunfinished
      rw [Run.bind_ok hafter] at h
      exact ⟨.error e, m₁, m₂, Run.outcome_failed htrial, .inr ⟨e, rfl, hafter⟩, hdown _ h⟩
  | ok _ => exact ⟨.ok (), m₁, m₁, Run.outcome_ok htrial, .inl ⟨rfl, rfl⟩, hdown _ h⟩

/-- After a test no browser is running. -/
theorem launched_of_runScript {r : Except Halt Unit} (h : runScript fuel path m = (r, m'))
    (hended : Halt.Ended r) : m'.launched = false := by
  obtain ⟨_, _, m₁, -, -, hdown, -⟩ := runScript_cases h hended
  obtain ⟨m₂, hdown', -, hclosed, -⟩ := teardown_apply m₁
  cases hdown.symm.trans hdown'
  exact hclosed

/-- What lies between the trial of a test and its end: nothing if all went well, and otherwise the report
and the alias for failures. -/
theorem aftermath_cases {wanted : Prop} {result : Except Failure Unit}
    (hwanted : wanted ↔ result ≠ .ok ())
    (h : result = .ok () ∧ m' = m ∨
      ∃ f, result = .error f ∧ afterFailure fuel path f m = (.ok (), m')) :
    ∃ failure m₁ m₂, (result = .ok () → m₁ = m) ∧
      (∀ f, result = .error f → report path f m = (.ok (), m₁)) ∧
      (m₁.calls = m.calls ∨ ∃ file, m₁.calls = .screenshot file :: m.calls) ∧
      Hook fuel onFail wanted m₁ failure m₂ ∧ Quiet m₂ m' ∧ m'.contact = m₂.contact := by
  rcases h with ⟨rfl, rfl⟩ | ⟨f, rfl, hafter⟩
  · refine ⟨none, m', m', fun _ => rfl, ?_, .inl rfl, .skipped fun h => hwanted.1 h.1 rfl,
      refl_of Quiet m', rfl⟩
    rintro f ⟨⟩
  · obtain ⟨-, failure, m₁, m₂, hreport, hstage, hquiet, hcontact⟩ :=
      afterFailure_cases (hwanted.2 nofun) hafter nofun
    obtain ⟨m₃, hreport', hshot⟩ := report_apply path f m
    cases hreport.symm.trans hreport'
    refine ⟨failure, m₁, m₂, nofun, ?_, hshot, hstage, hquiet, hcontact⟩
    rintro _ ⟨⟩
    exact hreport

/-- The stages of a test. Its result is that of its file and, if the file has ended well and there is
one, of the alias for success: the first failure of the two, or none. If there is one, it is reported,
for which there is at most one call, for a screenshot; then the alias for failures is run, if there is
one. Last, the browser is closed if one is running, and no call is made after that. -/
theorem test_stages {r : Except Halt Unit} (hrun : runScript fuel path m = (r, m'))
    (hended : Halt.Ended r) :
    ∃ file success failure m₁ m₂ m₃ m₄,
      (runFile fuel path).outcome m = (.ok file, m₁) ∧
      Hook fuel onSuccess (file = .ok ()) m₁ success m₂ ∧
      (r = .ok () ↔ file = .ok () ∧ ∀ result, success = some result → result = .ok ()) ∧
      (∀ f, r = .error (.failed f) ↔ file = .error f ∨ success = some (.error f)) ∧
      (r = .ok () → m₃ = m₂) ∧
      (∀ f, r = .error (.failed f) → report path f m₂ = (.ok (), m₃)) ∧
      (m₃.calls = m₂.calls ∨ ∃ file, m₃.calls = .screenshot file :: m₂.calls) ∧
      Hook fuel onFail (r ≠ .ok ()) m₃ failure m₄ ∧
      Quiet m₄ m' ∧ m'.calls = (if m₄.launched then [.close] else []) ++ m₄.calls ∧
      m'.launched = false := by
  obtain ⟨result, m₂, m₅, htrial, hafter, hdown, hr⟩ := runScript_cases hrun hended
  have hok : r = .ok () ↔ result = .ok () := by
    rw [hr]
    cases result <;> simp [Except.mapError]
  have hfailed : ∀ f, r = .error (.failed f) ↔ result = .error f := by
    intro f
    rw [hr]
    cases result <;> simp [Except.mapError]
  obtain ⟨file, success, m₁, hfile, hsuccess, hresult⟩ := trial_cases htrial
  obtain ⟨failure, m₃, m₄, hnone, hreport, hshot, hfailure, hlogged, hcontact⟩ :=
    aftermath_cases (not_congr hok) hafter
  obtain ⟨m₆, hdown', hquiet, hclosed, hcalls⟩ := teardown_apply m₅
  cases hdown.symm.trans hdown'
  refine ⟨file, success, failure, m₁, m₂, m₃, m₄, hfile, hsuccess, ?_, fun f => ?_,
    fun h => hnone (hok.1 h), fun f h => hreport f ((hfailed f).1 h), hshot, hfailure,
    trans_of Quiet hlogged hquiet, ?_, hclosed⟩
  · rw [hok, hresult, verdict_eq_ok_iff]
  · rw [hfailed, hresult, verdict_eq_error_iff hsuccess]
  · have hlaunched : m₅.launched = m₄.launched := congrArg Contact.launched hcontact
    have hmade : m₅.calls = m₄.calls := congrArg Contact.calls hcontact
    rw [hcalls, hlaunched, hmade]

/-- A machine with a running browser and an alias for failures, which opens another one and fails. -/
def prepared : Machine Page :=
  ((Request.text "alias --onfail \x7b browser close browser get 'b' fail 'c' \x7d browser get 'a'"
    "setup" ⟨"."⟩).run 8 (new {} {} default)).2

/-- A path that leads nowhere on any disk. -/
def nowhere : Path := ⟨"\x00"⟩

/-- Whether a run has failed, and how many calls have been made at its end. -/
def summary (ran : Except Halt Unit × Machine Page) : Bool × Nat :=
  (match ran.1 with
    | .error (.failed _) => true
    | _ => false, ran.2.calls.length)

theorem eq_failed_of_summary {ran : Except Halt Unit × Machine Page} {count : Nat}
    (h : summary ran = (true, count)) :
    ∃ f m', ran = (.error (.failed f), m') ∧ m'.calls.length = count := by
  rcases ran with ⟨(f | _) | ⟨⟩, m'⟩
  · exact ⟨f, m', rfl, congrArg Prod.snd h⟩
  · cases h
  · cases h

/-- The file of the test is not there. The alias for failures is run and fails as well, but the failure
of the test is that of its file. -/
theorem test_stages_failing :
    ∃ (f : Failure) (result : Except Failure Unit) (m' m₁ m₃ m₄ : Machine Page),
      runScript 8 nowhere prepared = (.error (.failed f), m') ∧
      (runFile 8 nowhere).outcome prepared = (.ok (.error f), m₁) ∧
      (runAlias 8 onFail {}).outcome m₃ = (.ok result, m₄) ∧
      m'.calls = (if m₄.launched then [.close] else []) ++ m₄.calls ∧ m'.launched = false := by
  have htest : summary (runScript 8 nowhere prepared) = (true, 6) := by decide +kernel
  have htried : summary (runFile 8 nowhere prepared) = (true, 2) := by decide +kernel
  obtain ⟨f, m', hrun, hsix⟩ := eq_failed_of_summary htest
  obtain ⟨e, m₀, htried, htwo⟩ := eq_failed_of_summary htried
  obtain ⟨file, success, failure, m₁, m₂, m₃, m₄, hfile, hsuccess, -, hfirst, -, -, hshot, hfailure,
    -, hcalls, hclosed⟩ := test_stages hrun nofun
  cases (Run.outcome_failed htried).symm.trans hfile
  -- so the alias for success has not been run, and without the other there would be too few calls
  cases hsuccess with
  | started hwanted => cases hwanted
  | skipped =>
    cases hfailure with
    | skipped =>
      have hfew : m'.calls.length ≤ 4 := by
        rw [hcalls]
        rcases hshot with hshot | ⟨shot, hshot⟩ <;> rw [hshot] <;> split <;> simp [htwo]
      omega
    | @started result _ hwanted hdefined hran =>
      obtain hsame | hnone := (hfirst f).1 rfl
      · cases hsame
        exact ⟨f, result, m', m₀, m₃, m₄, hrun, hfile, hran, hcalls, hclosed⟩
      · cases hnone

end Machine

end PageScript
