/-
What holds at every place that a run comes to.

Such an invariant has two sides: what is true of the machine at all times, and what is true of the place
where it reads. The second may depend on more than the machine, as a captured block that is replayed
takes arguments along. `Guard` asks for what single steps do: reading, a statement that runs no script,
and the start of each kind of piece. It gives the invariant at every place, at any depth, and what it
says of the machine between requests.
-/
import PageScript.Proofs.Machine.Request

namespace PageScript

/-- The tokens and arguments that come with a request, if any do, are of certain kinds. -/
def Request.Admits (T : List Token → Prop) (B : Bindings → Prop) : Request → Prop
  | .tokens given bindings => T given ∧ B bindings
  | .invoke _ bindings => B bindings
  | _ => True

theorem Request.admits_all (request : Request) : request.Admits (fun _ => True) fun _ => True := by
  cases request <;> first | exact ⟨trivial, trivial⟩ | trivial

namespace Machine

variable {σ : Type} [World σ]

/-- An invariant of runs: `I` holds of the machine, `P` at a place, and `B` of arguments. `R` is what
remains between the machines before and after whatever is done. Tokens that are given with a request
are of a kind `T`. -/
structure Guard (I : Machine σ → Prop) (P : Machine σ → Source → Prop) (B : Bindings → Prop)
    (T : List Token → Prop) (R : Machine σ → Machine σ → Prop) : Prop extends Lasting R where
  machine : ∀ {m s}, P m s → I m
  kept : ∀ {m m'}, R m m' → I m → I m'
  place : ∀ {m m' s}, R m m' → P m s → P m' s
  entering : ∀ m name dir, R m (m.entering name dir)
  reading : ∀ {m s}, P m s → R m (m.noting (m.read s))
  behind : ∀ {m s}, P m s → P (m.noting (m.read s)) (m.read s).after.source
  performing : ∀ {m s st m₁}, P m s → Meets m s st m₁ → KeptAt R st m₁
  text : ∀ {m} lexicon content, I m → P m (.ofText lexicon content)
  loop : ∀ {m s body m₁}, P m s → Meets m s (.while body) m₁ → P m₁ (.ofBlock body)
  arguments : ∀ {m s name bindings m₁}, P m s → Meets m s (.invoke name bindings) m₁ → B bindings
  nothing : B {}
  body : ∀ {m name found bindings}, I m → m.aliases.get? name = some found → B bindings →
    P m (.ofBlock ⟨found.body, bindings⟩)
  holding : ∀ {m tokens}, I m → T tokens → R m (m.holding tokens)
  given : ∀ {m tokens bindings}, I m → T tokens → B bindings →
    P (m.holding tokens) (m.tokensStart tokens bindings).1

namespace Guard

variable {I : Machine σ → Prop} {P : Machine σ → Source → Prop} {B : Bindings → Prop}
  {T : List Token → Prop} {R : Machine σ → Machine σ → Prop}

section Pieces

variable {s : Source} {m m₁ : Machine σ}

theorem of_fileStart? (hG : Guard I P B T R) {path : Path} (h : I m)
    (hstart : m.fileStart? path = some (s, m₁)) : P m₁ s := by
  obtain ⟨text, -, hentry⟩ := Option.map_eq_some_iff.1 hstart
  cases hentry
  have hlogged : R m (m.logging ("Running " ++ (m.frames.workingDir.join path).text)) :=
    hG.log .info .engine _ rfl nofun
  exact hG.place (hG.entering ..) (hG.place hlogged (hG.text m.settings.lexicon text h))

theorem of_aliasStart? (hG : Guard I P B T R) {name : String} {bindings : Bindings} (h : I m)
    (hbound : B bindings) (hstart : m.aliasStart? name bindings = some (s, m₁)) : P m₁ s := by
  cases hfound : m.aliases.get? name with
  | none =>
    rw [aliasStart?, hfound] at hstart
    cases hstart
  | some found =>
    rw [aliasStart?_of_some hfound] at hstart
    cases hstart
    exact hG.place (hG.entering ..) (hG.body h hfound hbound)

end Pieces

variable {run : Source → Run σ Unit} {limit n k : Nat} {s s' : Source} {m m₁ m' : Machine σ}
  {st : Statement}

/-- The rounds of a loop keep what holds at the start of its block. -/
theorem of_rounds (hG : Guard I P B T R) {body : Block} (hrounds : Rounds run body k m m')
    (hrun : ∀ {s m}, P m s → Run.KeepsAt R (run s) m) (h : P m (.ofBlock body)) :
    P m' (.ofBlock body) := by
  induction hrounds with
  | zero => exact h
  | succ hblock _ ih => exact ih (hG.place (hG.of_block (hrun h) hblock nofun) h)

/-- The pieces of script that a statement runs start well, if it is met at a good place. -/
theorem of_enters (hG : Guard I P B T R) (h : P m s) (hmeets : Meets m s st m₁)
    (hrun : ∀ {s m}, P m s → Run.KeepsAt R (run s) m) (henters : Enters run limit st m₁ s' m') :
    P m' s' := by
  have hmachine : I m₁ := by
    rw [hmeets.noted]
    exact hG.kept (hG.reading h) (hG.machine h)
  cases henters with
  | includeFile hstart => exact hG.of_fileStart? hmachine hstart
  | invoke hstart => exact hG.of_aliasStart? hmachine (hG.arguments h hmeets) hstart
  | @exec command args _ _ _ hstart =>
    obtain ⟨output, hout, hentry⟩ := Option.map_eq_some_iff.1 hstart
    cases hentry
    rcases hprog : runProgram command args m₁.frames.workingDir m₁ with ⟨e | out, m₂⟩
    · rw [hprog] at hout
      cases hout
    · have hran := hG.kept (hG.program _ _ _ hprog nofun) hmachine
      exact hG.place (hG.entering ..) (hG.text _ _ hran)
  | «while» _ _ hrounds => exact hG.of_rounds hrounds hrun (hG.loop h hmeets)

/-- What a statement does that is met at a good place. -/
theorem execute_keeps (hG : Guard I P B T R) (h : P m s)
    (hrun : ∀ {s m}, P m s → Run.KeepsAt R (run s) m) (hmeets : Meets m s st m₁) :
    Run.KeepsAt R (execute run limit st) m₁ :=
  hG.of_execute (hG.performing h hmeets) fun henters => hrun (hG.of_enters h hmeets hrun henters)

/-- However a turn from a good place ends, the place behind what was read in it is good. -/
theorem of_turn_eq (hG : Guard I P B T R) (h : P m s)
    (hrun : ∀ {s m}, P m s → Run.KeepsAt R (run s) m)
    (hmore : (m.read s).first.isFinish = false) {r : Except Halt (Option (Statement × Source))}
    (hturn : turn run limit s m = (r, m')) (hended : Halt.Ended r) :
    P m' (m.read s).after.source :=
  hG.place (hG.of_turn_noting (hG.execute_keeps h hrun) hmore hturn hended) (hG.behind h)

theorem keeps_of_visits (hG : Guard I P B T R)
    (hall : ∀ {k s' m'}, Visits n s m k s' m' → P m' s') : Run.KeepsAt R (statements n s) m := by
  refine hG.of_statements (fun hvisits => hG.reading (hall hvisits)) fun hperforms => ?_
  obtain ⟨k, s', m', hvisits, hmeets⟩ := hperforms
  exact hG.performing (hall hvisits) hmeets

/-- Every place that a run comes to from a good one is good. The induction is on the fuel: the pieces of
script that are run in a turn have less of it, and are good all the way. -/
theorem of_visits (hG : Guard I P B T R) (h : P m s) (hvisits : Visits n s m k s' m') : P m' s' := by
  induction n generalizing s m k s' m' with
  | zero =>
    cases hvisits
    exact h
  | succ n ih =>
    have hrun : ∀ {s m}, P m s → Run.KeepsAt R (statements n s) m :=
      fun h => hG.keeps_of_visits (ih h)
    cases hvisits with
    | refl => exact h
    | later hturn hrest =>
      obtain ⟨hmore, -, rfl, -⟩ := turn_eq_some hturn
      exact ih (hG.of_turn_eq h hrun hmore hturn nofun) hrest
    | inside hmeets henters hrest => exact ih (hG.of_enters h hmeets hrun henters) hrest

/-- What a run does from a good place. -/
theorem statements_keeps (hG : Guard I P B T R) (h : P m s) : Run.KeepsAt R (statements n s) m :=
  hG.keeps_of_visits (hG.of_visits h)

-- ======== requests

variable {fuel : Nat} {request : Request}

/-- Whatever script is started for a request, it starts at a good place. -/
theorem of_starts (hG : Guard I P B T R) (h : I m) (hadmits : request.Admits T B)
    (hstarts : request.Starts fuel m s m') : P m' s := by
  have hfile : ∀ {path s m₁}, m.fileStart? path = some (s, m₁) → P m₁ s := hG.of_fileStart? h
  have hrunFile : ∀ path, Run.KeepsAt R (runFile fuel path) m := fun path =>
    hG.of_file fun hstart => hG.statements_keeps (hfile hstart)
  have hhook : ∀ {m₁ m₂ name s}, R m m₁ → m₁.aliasStart? name {} = some (s, m₂) → P m₂ s :=
    fun hkept hstart => hG.of_aliasStart? (hG.kept hkept h) hG.nothing hstart
  have := hG.toIsPreorder
  cases hstarts with
  | file hstart => exact hfile hstart
  | text => exact hG.place (hG.entering ..) (hG.text _ _ h)
  | tokens => exact hG.place (hG.entering ..) (hG.given h hadmits.1 hadmits.2)
  | invoke hstart => exact hG.of_aliasStart? h hadmits hstart
  | script hstart => exact hfile hstart
  | onSuccess hran hstart => exact hhook (hrunFile _ hran nofun) hstart
  | @onFail path f _ m₁ m₂ _ _ htrial hreport hstart =>
    have hkept : Run.KeepsAt R (trial fuel path) m :=
      hG.of_trial (fun hstart => hG.statements_keeps (hfile hstart)) fun hran hstart =>
        hG.statements_keeps (hhook (hrunFile _ hran nofun) hstart)
    exact hhook (trans_of R (hkept.outcome htrial nofun) (hG.report path f hreport nofun)) hstart

/-- What a request does, so that whatever is requested next starts at a good place too. -/
theorem request_keeps (hG : Guard I P B T R) (h : I m) (hadmits : request.Admits T B) :
    Run.KeepsAt R (request.run fuel) m := by
  refine hG.of_request ?_ fun hstarts => hG.statements_keeps (hG.of_starts h hadmits hstarts)
  rintro given bindings rfl
  exact hG.holding h hadmits.1

end Guard

end Machine

end PageScript
