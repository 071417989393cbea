/-
Statements read from related cursors.

A simulation is a bisimulation of cursors in which also blocks are captured alike. Statements that are
read from cursors in a simulation are the same up to the blocks that they hold, and as with
bisimulations this is so for as long as the simulation holds. This is all that has to be known of the
grammar where two ways to deliver the same tokens are compared. With both cursors the
same it is all that has to be known of it where something is to hold wherever statements are read:
`Cursor.Invariant` asks for it of single tokens and blocks, and gives it of statements.
-/
import PageScript.Proofs.Statement.Reading

namespace PageScript

/-- Whether a statement holds a block of captured tokens. -/
def Statement.holdsBlock : Statement → Bool
  | .defineAlias _ | .while _ => true
  | _ => false

theorem Statement.holdsBlock_eq_false {st : Statement} (h : st.isComplete = true) :
    st.holdsBlock = false := by
  cases st with
  | defineAlias definition => cases h
  | «while» body => cases h
  | _ => rfl

/-- The same statement, except for the blocks that a definition or a loop holds. -/
inductive Statement.Matches (V : Block → Block → Prop) : Statement → Statement → Prop
  | same {st : Statement} : st.holdsBlock = false → Matches V st st
  | definition {name : String} {params : List String} {x y : Block} : V x y →
      Matches V (.defineAlias ⟨name, params, x.span⟩) (.defineAlias ⟨name, params, y.span⟩)
  | loop {x y : Block} : V x y → Matches V (.while x) (.while y)

/-- A bisimulation in which blocks are captured alike. -/
structure Simulation (R : Cursor → Cursor → Prop) (F : Failure → Failure → Prop)
    (V : Cursor → Cursor → Block → Block → Prop) : Prop extends Bisimulation R F where
  capture : ∀ {c d} (opening : Token) (rebase : Bool), R c d →
    Agree R F V (c.capture opening rebase) (d.capture opening rebase)

/-- A simulation that holds for a while: also a block that is captured may lead to a lost cursor. -/
structure SimulationUntil (L : Cursor → Prop) (R : Cursor → Cursor → Prop)
    (F : Failure → Failure → Prop) (V : Cursor → Cursor → Block → Block → Prop) : Prop
    extends BisimulationUntil L R F where
  capture : ∀ {c d} (opening : Token) (rebase : Bool), R c d →
    AgreeUntil L R F V (c.capture opening rebase) (d.capture opening rebase)
  lost_capture : ∀ {c} (opening : Token) (rebase : Bool), L c → L (c.capture opening rebase).2

theorem Simulation.until {R : Cursor → Cursor → Prop} {F : Failure → Failure → Prop}
    {V : Cursor → Cursor → Block → Block → Prop} (hR : Simulation R F V) :
    SimulationUntil (fun _ => False) R F V where
  toBisimulationUntil := hR.toBisimulation.until
  capture opening rebase h := .inr (hR.capture opening rebase h)
  lost_capture _ _ := id

/-- The parameters of the alias of a name. -/
def AliasTable.params? (t : AliasTable) (name : String) : Option (List String) :=
  (t.get? name).map (·.params)

namespace Parser

-- ======== faithful parsers

/-- A parser respects every simulation, for as long as it holds: what is given is related in the way
that the relation of blocks stands for. -/
def Faithful {α : Type} (W : (Block → Block → Prop) → α → α → Prop) (p : Parser α) : Prop :=
  ∀ ⦃L : Cursor → Prop⦄ ⦃R : Cursor → Cursor → Prop⦄ ⦃F : Failure → Failure → Prop⦄
    ⦃V : Cursor → Cursor → Block → Block → Prop⦄, SimulationUntil L R F V →
    ∀ ⦃c d⦄, R c d → AgreeUntil L R F (fun c d => W (V c d)) (p c) (p d)

namespace Faithful

variable {α β : Type} {W : (Block → Block → Prop) → α → α → Prop}
  {W' : (Block → Block → Prop) → β → β → Prop}

/-- What reading, looking ahead and capturing keep true of a cursor, a faithful parser does. -/
theorem keeps {p : Parser α} (hp : Faithful W p) {P : Cursor → Prop}
    (hnext : ∀ {c}, P c → P c.next.2) (hpeek : ∀ {c}, P c → P c.peek.2)
    (hcapture : ∀ {c} opening rebase, P c → P (c.capture opening rebase).2) {c : Cursor} (h : P c) :
    P (p c).2 := by
  have hR : Simulation (fun c d => d = c ∧ P c) (fun _ _ => True) fun _ _ _ _ => True :=
    { next := by rintro c _ ⟨rfl, hc⟩; exact ⟨.same _, rfl, hnext hc⟩
      peek := by rintro c _ ⟨rfl, hc⟩; exact ⟨.same _, rfl, hpeek hc⟩
      fault := fun _ _ => trivial
      capture := by
        rintro _ c opening rebase ⟨rfl, hc⟩
        have hc' := hcapture opening rebase hc
        rcases hblock : c.capture opening rebase with ⟨_ | _, _⟩ <;> rw [hblock] at hc'
        · exact .error trivial ⟨rfl, hc'⟩
        · exact .ok trivial ⟨rfl, hc'⟩ }
  exact (hp hR.until ⟨rfl, h⟩).agree.related.2

theorem failAt (fault : SyntaxFault) (t : Token) : Faithful W (failAt fault t) :=
  fun _ _ _ _ hR _ _ h => .inr (.error (hR.fault fault t) h)

/-- What a uniform parser gives is the same, and so related to itself. -/
theorem of_uniform {p : Parser α} (hp : Uniform p) (hself : Gives (fun a => ∀ V, W V a a) p) :
    Faithful W p := by
  intro L R F V hR c d h
  rcases hp hR.toBisimulationUntil h with hlost | hagree
  · exact .inl hlost
  · right
    generalize hc : p c = x at hagree
    generalize p d = y at hagree
    cases hagree with
    | ok hab hR' =>
      subst hab
      exact .ok (hself hc _) hR'
    | error hF hR' => exact .error hF hR'

theorem uniform_bind {p : Parser β} {f : β → Parser α} (hp : Uniform p)
    (hf : ∀ b, Faithful W (f b)) : Faithful W (p >>= f) := by
  intro L R F V hR c d h
  refine AgreeUntil.bind (hp hR.toBisimulationUntil h) ?_ ?_
  · intro b c' _ hlost
    exact (hf b).keeps hR.lost_next hR.lost_peek hR.lost_capture hlost
  · intro b _ c' d' _ hb hR'
    subst hb
    exact hf b hR hR'

theorem map {p : Parser α} (hp : Faithful W p) {f : α → β}
    (hf : ∀ {V a b}, W V a b → W' V (f a) (f b)) : Faithful W' (p >>= fun a => pure (f a)) :=
  fun _ _ _ _ hR _ _ h =>
    (hp hR h).bind (fun _ hlost => hlost) fun _ hab hR' => .inr (.ok (hf hab) hR')

theorem capture (opening : Token) (rebase : Bool) :
    Faithful id (ofStep fun c => c.capture opening rebase) :=
  fun _ _ _ _ hR _ _ h => hR.capture opening rebase h

theorem aliasBody (name : Token) (params : List String) (opening : Token) :
    Faithful (fun V a b => Statement.Matches V (.defineAlias a) (.defineAlias b))
      (aliasBody name params opening) := by
  unfold Parser.aliasBody
  split
  · exact .failAt ..
  · exact (capture opening true).map .definition

theorem aliasDefinition :
    Faithful (fun V a b => Statement.Matches V (.defineAlias a) (.defineAlias b)) aliasDefinition := by
  rw [aliasDefinition_eq]
  refine .uniform_bind .any fun name => ?_
  split
  · exact .failAt ..
  · refine .uniform_bind .any fun t => ?_
    split
    · exact .uniform_bind (.items ..) fun params => .uniform_bind .any fun opening =>
        aliasBody name params opening
    · exact aliasBody name [] t

theorem keywordStatement (keyword : Keyword) :
    Faithful Statement.Matches (keywordStatement keyword) := by
  by_cases halias : keyword = .alias
  · subst halias
    exact aliasDefinition.map id
  · by_cases hwhile : keyword = .while
    · subst hwhile
      exact .uniform_bind (.symbol _) fun opening => (capture opening false).map .loop
    · refine .of_uniform (.keywordStatement halias hwhile) fun _ _ _ hst _ => ?_
      exact .same (Statement.holdsBlock_eq_false (keywordStatement_isComplete halias hwhile hst))

theorem invocation (aliases : AliasTable) (first : Token) :
    Faithful Statement.Matches (invocation aliases first) := by
  refine .of_uniform (.invocation ..) fun _ _ _ hst _ => ?_
  obtain ⟨_, _, -, -, rfl⟩ := invocation_eq_ok hst
  exact .same rfl

theorem statement (aliases : AliasTable) (first : Token) :
    Faithful Statement.Matches (statement aliases first) := by
  unfold Parser.statement
  split
  · exact .failAt ..
  · cases Keyword.ofWord? first.text with
    | none => exact invocation aliases first
    | some keyword =>
      dsimp only
      split
      · exact keywordStatement keyword
      · exact invocation aliases first

end Faithful

/-- From related cursors, the same statement is read, up to the blocks in it, or related failures. -/
theorem statement_agree {R : Cursor → Cursor → Prop} {F : Failure → Failure → Prop}
    {V : Cursor → Cursor → Block → Block → Prop} (hR : Simulation R F V) (aliases : AliasTable)
    (first : Token) {c d : Cursor} (h : R c d) :
    Agree R F (fun c d => Statement.Matches (V c d)) (statement aliases first c)
      (statement aliases first d) :=
  (Faithful.statement aliases first hR.until h).agree

/-- Of the aliases, a statement depends on their parameters only. -/
theorem statement_congr {aliases aliases' : AliasTable} {first : Token}
    (h : aliases'.params? first.text = aliases.params? first.text) :
    statement aliases' first = statement aliases first := by
  have huse : invocation aliases' first = invocation aliases first := by
    rw [AliasTable.params?, AliasTable.params?] at h
    rw [invocation, invocation]
    cases hfound : aliases.get? first.text with
    | none =>
      rw [hfound, Option.map_none, Option.map_eq_none_iff] at h
      rw [h]
    | some a =>
      rw [hfound, Option.map_some] at h
      obtain ⟨a', hfound', hparams⟩ := Option.map_eq_some_iff.1 h
      rw [hfound']
      simp only [hparams]
  rw [statement, statement, huse]

-- ======== single cursors

theorem capture_eq_error {c c' : Cursor} {opening : Token} {rebase : Bool} {f : Failure}
    (h : c.capture opening rebase = (.error f, c')) : f = .syntaxAt .unterminatedBlock opening := by
  rcases c with ⟨s | r, a⟩
  · rw [Cursor.capture_text] at h
    generalize s.capture a (if rebase then some opening.line else none) 1 = captured at h
    rcases captured with ⟨_ | _, s', grown⟩
    · cases h
      rfl
    · cases h
  · rw [Cursor.capture_replay] at h
    cases hblock : (r.capture a).1 with
    | none =>
      rw [hblock] at h
      cases h
      rfl
    | some block =>
      rw [hblock] at h
      cases h

end Parser

/-- The block that a statement holds, if it holds one, has a property. -/
def Statement.BlockHas (Q : Block → Prop) : Statement → Prop
  | .defineAlias definition => ∃ block : Block, block.span = definition.body ∧ Q block
  | .while body => Q body
  | _ => True

theorem Statement.Matches.blockHas {Q : Block → Prop} {st st' : Statement}
    (h : Matches (fun x _ => Q x) st st') : st.BlockHas Q := by
  cases h with
  | same hblock =>
    cases st with
    | defineAlias definition => cases hblock
    | «while» body => cases hblock
    | _ => trivial
  | definition hQ => exact ⟨_, rfl, hQ⟩
  | loop hQ => exact hQ

/-- A property of cursors that reading, looking ahead and capturing keep, with what it says of the tokens
that are delivered and of the blocks that are captured. -/
structure Cursor.Invariant (P : Cursor → Prop) (T : Token → Prop) (Q : Cursor → Block → Prop) :
    Prop where
  next : ∀ {c}, P c → T c.next.1 ∧ P c.next.2
  peek : ∀ {c}, P c → P c.peek.2
  capture : ∀ {c c' opening rebase r}, P c → c.capture opening rebase = (r, c') →
    P c' ∧ ∀ block, r = .ok block → Q c' block

namespace Cursor.Invariant

variable {P : Cursor → Prop} {T : Token → Prop} {Q : Cursor → Block → Prop} {aliases : AliasTable}
  {first : Token} {c c' : Cursor}

/-- Reading a statement keeps the property. What is said of blocks holds of the one in the statement, and
all failures are of one form: a fault at a token. -/
theorem statement (hP : Invariant P T Q) {r : Except Failure Statement} (h : P c)
    (hread : Parser.statement aliases first c = (r, c')) :
    P c' ∧ (∀ st, r = .ok st → st.BlockHas (Q c')) ∧
      ∀ f, r = .error f → ∃ fault t, f = .syntaxAt fault t := by
  have hR : Simulation (fun c d => d = c ∧ P c) (fun f _ => ∃ fault t, f = .syntaxAt fault t)
      fun c _ x _ => Q c x :=
    { next := by rintro c _ ⟨rfl, hc⟩; exact ⟨.same _, rfl, (hP.next hc).2⟩
      peek := by rintro c _ ⟨rfl, hc⟩; exact ⟨.same _, rfl, hP.peek hc⟩
      fault := fun fault t => ⟨fault, t, rfl⟩
      capture := by
        rintro _ c opening rebase ⟨rfl, hc⟩
        rcases hblock : c.capture opening rebase with ⟨f | block, c'⟩
        · exact .error ⟨_, _, Parser.capture_eq_error hblock⟩ ⟨rfl, (hP.capture hc hblock).1⟩
        · exact .ok ((hP.capture hc hblock).2 block rfl) ⟨rfl, (hP.capture hc hblock).1⟩ }
  have hagree := Parser.statement_agree hR aliases first ⟨rfl, h⟩
  rw [hread] at hagree
  refine ⟨hagree.related.2, ?_, ?_⟩
  · rintro st rfl
    cases hagree with
    | ok hmatches _ => exact hmatches.blockHas
  · rintro f rfl
    cases hagree with
    | error hF _ => exact hF

/-- What is said of tokens holds of every argument, and no argument is an end token. -/
theorem arguments (hP : Invariant P T Q) {isFirst : Bool} {bound result : Bindings}
    {params : List String} (h : P c) (hbound : ∀ e ∈ bound.entries, T e.2 ∧ e.2.isFinish = false)
    (hread : Parser.arguments isFirst bound params c = (.ok result, c')) :
    ∀ e ∈ result.entries, T e.2 ∧ e.2.isFinish = false := by
  induction params generalizing isFirst bound c with
  | nil =>
    cases hread
    exact hbound
  | cons param params ih =>
    have hone : ∀ {c₁ : Cursor}, P c₁ →
        (Parser.any >>= fun t => Parser.arguments false (bound.insert param t) params) c₁ =
          (.ok result, c') → ∀ e ∈ result.entries, T e.2 ∧ e.2.isFinish = false := by
      intro c₁ hc₁ hread
      obtain ⟨t, c₂, hany, hrest⟩ := Parser.bind_eq_ok.1 hread
      rw [Parser.any_apply] at hany
      split at hany
      · cases hany
      · next hmore =>
        cases hany
        refine ih (hP.next hc₁).2 ?_ hrest
        intro e he
        rcases List.mem_cons.1 he with rfl | he
        · exact ⟨(hP.next hc₁).1, by simpa using hmore⟩
        · exact hbound e (List.mem_filter.1 he).1
    rw [Parser.arguments] at hread
    split at hread
    · obtain ⟨b, c₁, hskip, hrest⟩ := Parser.bind_eq_ok.1 hread
      refine hone ?_ hrest
      have hkept := (Parser.Uniform.skipSymbol ',').keeps (P := P) (fun hc => (hP.next hc).2) hP.peek h
      rwa [hskip] at hkept
    · exact hone h hread

theorem statement_arguments (hP : Invariant P T Q) {name : String} {bindings : Bindings} (h : P c)
    (hread : Parser.statement aliases first c = (.ok (.invoke name bindings), c')) :
    ∀ e ∈ bindings.entries, T e.2 ∧ e.2.isFinish = false := by
  obtain ⟨p, -, hp, hall⟩ | huse := Parser.statement_cases first
  · rw [hall] at hread
    exact absurd rfl (hp hread name bindings)
  · rw [huse] at hread
    obtain ⟨a, _, -, hargs, hst⟩ := Parser.invocation_eq_ok hread
    cases hst
    exact hP.arguments h (fun _ he => absurd he List.not_mem_nil) hargs

end Cursor.Invariant

namespace Parser

/-- What reading, looking ahead and capturing keep true of a cursor, reading a statement does. -/
theorem statement_keeps {P : Cursor → Prop} (hnext : ∀ {c}, P c → P c.next.2)
    (hpeek : ∀ {c}, P c → P c.peek.2)
    (hcapture : ∀ {c} opening rebase, P c → P (c.capture opening rebase).2)
    {aliases : AliasTable} {first : Token} {c c' : Cursor} {r : Except Failure Statement} (h : P c)
    (hread : statement aliases first c = (r, c')) :
    P c' ∧ ∀ f, r = .error f → ∃ fault t, f = .syntaxAt fault t := by
  have hP : Cursor.Invariant P (fun _ => True) fun _ _ => True :=
    { next := fun hc => ⟨trivial, hnext hc⟩
      peek := hpeek
      capture := by
        intro c c' opening rebase r hc hblock
        have hc' := hcapture opening rebase hc
        rw [hblock] at hc'
        exact ⟨hc', fun _ _ => trivial⟩ }
  obtain ⟨hkept, -, hfault⟩ := hP.statement h hread
  exact ⟨hkept, hfault⟩

/-- A statement that cannot be read fails with a fault at a token. -/
theorem statement_eq_error {aliases : AliasTable} {first : Token} {c c' : Cursor} {f : Failure}
    (h : statement aliases first c = (.error f, c')) : ∃ fault t, f = .syntaxAt fault t :=
  (statement_keeps (P := fun _ => True) id id (fun _ _ => id) trivial h).2 f rfl

end Parser

end PageScript
