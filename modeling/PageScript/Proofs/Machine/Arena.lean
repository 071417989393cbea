/-
Captured tokens stay where they are.

The arena only grows along a run, so that a span of it means the same tokens for ever. And no span is
ahead of it: each block that an alias or a statement refers to, and each place that a run comes to,
lies in the part that is there. What is kept there are blocks with their braces balanced, and no end
token.
-/
import PageScript.Proofs.Machine.Conditional
import PageScript.Proofs.Machine.Guard
import PageScript.Proofs.Statement.Captured

namespace PageScript

/-- What reading keeps true of cursors holds behind a statement that a machine has read, of its first
token and of the block in it. -/
theorem Cursor.Invariant.read {σ : Type} {P : Cursor → Prop} {T : Token → Prop}
    {Q : Cursor → Block → Prop} (hP : Cursor.Invariant P T Q) {m : Machine σ} {s : Source}
    (h : P ⟨s, m.arena⟩) :
    T (m.read s).first ∧ P (m.read s).after ∧
      ∀ st, (m.read s).parsed = .ok st → st.BlockHas (Q (m.read s).after) := by
  obtain ⟨hfirst, hnext⟩ := hP.next h
  obtain ⟨hafter, hblock, -⟩ := hP.statement hnext (Prod.ext rfl rfl :
    Parser.statement m.aliases (m.read s).first (Cursor.next ⟨s, m.arena⟩).2 =
      ((m.read s).parsed, (m.read s).after))
  exact ⟨hfirst, hafter, hblock⟩

/-- What is said of tokens holds of each argument in the use of an alias that a machine has read. -/
theorem Cursor.Invariant.read_arguments {σ : Type} {P : Cursor → Prop} {T : Token → Prop}
    {Q : Cursor → Block → Prop} (hP : Cursor.Invariant P T Q) {m : Machine σ} {s : Source}
    {name : String} {bindings : Bindings} (h : P ⟨s, m.arena⟩)
    (hparsed : (m.read s).parsed = .ok (.invoke name bindings)) :
    ∀ e ∈ bindings.entries, T e.2 ∧ e.2.isFinish = false :=
  hP.statement_arguments (hP.next h).2 (Prod.ext hparsed rfl :
    Parser.statement m.aliases (m.read s).first (Cursor.next ⟨s, m.arena⟩).2 =
      (.ok (.invoke name bindings), (m.read s).after))

namespace Machine

variable {σ : Type}

-- ======== growth

/-- Reading only adds to the arena, and stays within the same replay. -/
theorem read_extends (m : Machine σ) (s : Source) :
    m.arena.Extends (m.read s).after.arena ∧ (m.read s).after.source.stop? = s.stop? := by
  have hnext := (Parser.Steady.next.at ⟨s, m.arena⟩).stop
  obtain ⟨harena, hstop⟩ :=
    Parser.statement_extends m.aliases (m.read s).first ⟨(s.next m.arena).2, m.arena⟩
  exact ⟨harena, hstop.trans hnext⟩

/-- The arena has only grown. -/
def Grows (m m' : Machine σ) : Prop :=
  m.arena.Extends m'.arena

namespace Grows

variable {m m' : Machine σ}

theorem of_eq (h : m'.arena = m.arena) : Grows m m' := by
  rw [Grows, h]
  exact .refl _

instance : IsPreorder (Machine σ) Grows where
  refl _ := of_eq rfl
  trans _ _ _ := Arena.Extends.trans

variable [World σ]

theorem durable : Durable (σ := σ) Grows :=
  .of_quiet (fun h => of_eq h.arena) (fun m s => (m.read_extends s).1) (fun _ _ h => h)
    (fun h => h) (fun _ _ => of_eq rfl) fun m _ => .alloc m.arena _

theorem keptAt (st : Statement) (m : Machine σ) : KeptAt Grows st m := by
  intro hscript run limit r m' hrun hended
  rcases execute_cases hscript hrun hended with
    h | ⟨-, _, _, _, rfl⟩ | ⟨-, rfl⟩ | ⟨_, -, rfl⟩ | ⟨_, _, -, -, rfl⟩
  · exact of_eq h.arena
  all_goals exact of_eq rfl

theorem statements_keeps (n : Nat) (s : Source) : Run.Keeps (σ := σ) Grows (statements n s) :=
  fun _ => durable.of_statements fun _ => keptAt _ _

theorem execute_keeps (n : Nat) (st : Statement) :
    Run.Keeps (σ := σ) Grows (execute (statements n) n st) :=
  fun _ => durable.of_execute (keptAt _ _) fun _ => (statements_keeps n _).from _

theorem turn_keeps (n : Nat) (s : Source) : Run.Keeps (σ := σ) Grows (turn (statements n) n s) :=
  fun _ => durable.toStable.of_turn fun _ => (execute_keeps n _).from _

end Grows

/-- The arena has only grown, and what held of the machine still holds. -/
structure Carries (I : Machine σ → Prop) (m m' : Machine σ) : Prop where
  grows : Grows m m'
  kept : I m → I m'

/-- Something is said of the arena and the aliases alone. -/
def OfStore (I : Machine σ → Prop) : Prop :=
  ∀ {m m'}, m'.arena = m.arena → m'.aliases = m.aliases → I m → I m'

namespace Carries

variable {I : Machine σ → Prop} {m m' : Machine σ}

theorem of_same (hI : OfStore I) (harena : m'.arena = m.arena) (haliases : m'.aliases = m.aliases) :
    Carries I m m' :=
  ⟨.of_eq harena, hI harena haliases⟩

instance : IsPreorder (Machine σ) (Carries I) where
  refl m := ⟨refl_of Grows m, id⟩
  trans _ _ _ h₁ h₂ := ⟨trans_of Grows h₁.grows h₂.grows, fun h => h₂.kept (h₁.kept h)⟩

variable [World σ]

theorem lasting (hI : OfStore I) : Lasting (Carries I) :=
  .of_quiet (fun h => of_same hI h.arena h.aliases)
    (fun {m m'} _ _ h =>
      ⟨h.grows, fun hm => hI (m := m') rfl rfl (h.kept (hI (m := m) rfl rfl hm))⟩)
    (fun {_ m'} h => ⟨h.grows, fun hm => hI (m := m') rfl rfl (h.kept hm)⟩)
    fun _ _ => of_same hI rfl rfl

/-- A definition is all that changes arena or aliases when a statement is carried out. -/
theorem keptAt (hI : OfStore I) {st : Statement}
    (hdefine : ∀ definition, st = .defineAlias definition → I m →
      I { m with aliases := m.aliases.define definition }) : KeptAt (Carries I) st m := by
  intro hscript run limit r m' hrun hended
  rcases execute_cases hscript hrun hended with
    h | ⟨-, _, _, _, rfl⟩ | ⟨-, rfl⟩ | ⟨definition, hst, rfl⟩ | ⟨_, _, -, -, rfl⟩
  · exact of_same hI h.arena h.aliases
  · exact of_same hI rfl rfl
  · exact of_same hI rfl rfl
  · exact ⟨.of_eq rfl, hdefine definition hst⟩
  · exact of_same hI rfl rfl

end Carries

-- ======== tidiness

/-- No end token has been captured, and the bodies of all aliases are blocks in the arena. -/
structure Tidy (m : Machine σ) : Prop where
  noFinish : m.arena.All (·.isFinish = false)
  bodies : ∀ a ∈ m.aliases.aliases, m.arena.Holds a.body

/-- All that can be replayed from a place is in the arena, and the machine is tidy. -/
structure Grounded (m : Machine σ) (s : Source) : Prop where
  source : m.arena.Reaches s.stop?
  tidy : m.Tidy

namespace Tidy

variable {m m' : Machine σ}

/-- A new machine has captured nothing, and has no aliases. -/
theorem new (settings : Settings) (browser : σ) (disk : Disk) :
    (Machine.new settings browser disk).Tidy :=
  ⟨fun _ h => absurd h List.not_mem_nil, fun _ h => absurd h List.not_mem_nil⟩

theorem ofStore : OfStore (σ := σ) Tidy := by
  intro m m' harena haliases h
  refine ⟨harena ▸ h.noFinish, fun a ha => ?_⟩
  rw [haliases] at ha
  exact harena ▸ h.bodies a ha

/-- As the arena grows, the bodies stay in it. -/
theorem grown (h : m.Tidy) (hgrown : Grows m m') (haliases : m'.aliases = m.aliases)
    (hclean : m'.arena.All (·.isFinish = false)) : m'.Tidy :=
  ⟨hclean, fun a ha => (h.bodies a (haliases ▸ ha)).mono hgrown⟩

theorem define (h : m.Tidy) {definition : Alias} (hbody : m.arena.Holds definition.body) :
    Machine.Tidy { m with aliases := m.aliases.define definition } := by
  refine ⟨h.noFinish, fun a ha => ?_⟩
  rcases List.mem_cons.1 ha with rfl | ha
  · exact hbody
  · exact h.bodies a (List.mem_filter.1 ha).1

theorem noting (h : m.Tidy) (s : Source) : (m.noting (m.read s)).Tidy := by
  obtain ⟨-, hclean, -⟩ := Cursor.keepingNoFinish.read (m := m) (s := s) h.noFinish
  exact h.grown (m.read_extends s).1 rfl hclean

theorem holding (h : m.Tidy) (tokens : List Token) : (m.holding tokens).Tidy := by
  refine h.grown (.alloc m.arena _) rfl (h.noFinish.grown (fun t ht => ?_) (Array.toList_append ..))
  simpa using (List.mem_filter.1 ht).2

end Tidy

namespace Grounded

variable {m m₁ : Machine σ} {s : Source} {st : Statement}

/-- From a grounded place, the block of the statement that is met is in the arena. -/
theorem blockHas (h : Grounded m s) (hmeets : Meets m s st m₁) :
    st.BlockHas fun block => m₁.arena.Holds block.span := by
  obtain ⟨-, -, hblock⟩ := Cursor.holding.read h.source
  rw [hmeets.noted]
  exact hblock st hmeets.parsed

/-- From a tidy machine, whatever is requested, every place that is come to is grounded. -/
theorem guard [World σ] :
    Guard (σ := σ) Tidy Grounded (fun _ => True) (fun _ => True) (Carries Tidy) where
  toLasting := Carries.lasting Tidy.ofStore
  machine h := h.tidy
  kept h := h.kept
  place h hs := ⟨hs.source.mono h.grows, h.kept hs.tidy⟩
  entering _ _ _ := .of_same Tidy.ofStore rfl rfl
  reading {m s} _ := ⟨(m.read_extends s).1, fun h => h.noting s⟩
  behind {m s} h := by
    refine ⟨?_, h.tidy.noting s⟩
    rw [(m.read_extends s).2]
    exact h.source.mono (m.read_extends s).1
  performing {m s st m₁} h hmeets := by
    refine Carries.keptAt Tidy.ofStore ?_
    rintro definition rfl htidy
    obtain ⟨block, hspan, hblock⟩ := h.blockHas hmeets
    exact htidy.define (hspan ▸ hblock)
  text _ _ h := ⟨Arena.reaches_none _, h⟩
  loop {m s body m₁} h hmeets := by
    have hblock : m₁.arena.Holds body.span := h.blockHas hmeets
    refine ⟨Arena.reaches_some hblock.within, ?_⟩
    rw [hmeets.noted]
    exact h.tidy.noting s
  arguments _ _ := trivial
  nothing := trivial
  body h hfound _ :=
    ⟨Arena.reaches_some (h.bodies _ (List.mem_of_find?_eq_some hfound)).within, h⟩
  holding {m tokens} _ _ := ⟨.alloc m.arena _, fun h => h.holding tokens⟩
  given h _ _ := ⟨Arena.reaches_some (Nat.le_refl _), h.holding _⟩

end Grounded

end Machine

end PageScript
