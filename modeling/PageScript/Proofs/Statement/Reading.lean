/-
What reading a statement depends on.

The words of conditionals and the places between statements do not depend on what has been captured
before, nor on the aliases, except that the number of parameters of an alias says how many arguments
its use takes. The other way round, this number can be told from the place behind the arguments.
-/
import PageScript.Proofs.Statement.Steady

namespace PageScript

/-- The word of a conditional that a statement is, if it is one. -/
def Statement.word? : Statement → Option Control
  | .control word => some word
  | _ => none

theorem Statement.word?_eq_none {st : Statement} (h : st.isControl = false) : st.word? = none := by
  cases st with
  | control word => cases h
  | _ => rfl

/-- Whether a statement is complete in itself: it uses no alias, and holds no block. -/
def Statement.isComplete : Statement → Bool
  | .invoke .. | .defineAlias _ | .while _ => false
  | _ => true

/-- How many parameters the alias of a name has. -/
def AliasTable.arity? (t : AliasTable) (name : String) : Option Nat :=
  (t.get? name).map (·.params.length)

namespace Parser

variable {α β : Type}

-- ======== parsers in step

/-- From alike cursors two parsers come to alike cursors, with results that look the same in some
view; the arena may have grown. -/
structure Follows {γ : Type} (view : α → γ) (p q : Parser α) : Prop where
  arena : ∀ c : Cursor, c.arena.Extends (p c).2.arena
  stop : ∀ c : Cursor, (p c).2.source.stop? = c.source.stop?
  result : ∀ {c d : Cursor}, c.Alike d → (q d).1.map view = (p c).1.map view
  alike : ∀ {c d : Cursor}, c.Alike d → (p c).2.Alike (q d).2

namespace Follows

variable {γ δ : Type}

theorem of_uniform (view : α → γ) {p : Parser α} (hp : Uniform p) : Follows view p p where
  arena c := (hp.steady.at c).arena ▸ .refl _
  stop c := (hp.steady.at c).stop
  result h := by rw [(hp.steady.at _).result h]
  alike := hp.steady.alike

variable {view : α → γ} {look : β → δ}

theorem pure {a b : α} (h : view b = view a) : Follows view (pure a) (pure b) where
  arena _ := .refl _
  stop _ := rfl
  result _ := congrArg Except.ok h
  alike := id

/-- Both parsers fail with the same failure, or both succeed. -/
theorem cases {p q : Parser α} (hp : Follows view p q) {c d : Cursor} (h : c.Alike d) :
    (∃ e c' d', p c = (.error e, c') ∧ q d = (.error e, d') ∧ c'.Alike d') ∨
    ∃ a b c' d', p c = (.ok a, c') ∧ q d = (.ok b, d') ∧ view b = view a ∧ c'.Alike d' := by
  have hresult := hp.result h
  have halike := hp.alike h
  rcases hpc : p c with ⟨e | a, c'⟩ <;> rcases hqd : q d with ⟨e' | b, d'⟩ <;>
    rw [hpc, hqd] at hresult halike
  · cases hresult
    exact .inl ⟨_, _, _, rfl, rfl, halike⟩
  · cases hresult
  · cases hresult
  · injection hresult with hview
    exact .inr ⟨_, _, _, _, rfl, rfl, hview, halike⟩

theorem bind {p q : Parser α} {f g : α → Parser β} (hp : Follows view p q)
    (hf : ∀ a b, view b = view a → Follows look (f a) (g b)) :
    Follows look (p >>= f) (q >>= g) where
  arena c := by
    have harena := hp.arena c
    rw [bind_apply]
    rcases hpc : p c with ⟨e | a, c'⟩ <;> rw [hpc] at harena
    · exact harena
    · exact harena.trans ((hf a a rfl).arena c')
  stop c := by
    have hstop := hp.stop c
    rw [bind_apply]
    rcases hpc : p c with ⟨e | a, c'⟩ <;> rw [hpc] at hstop
    · exact hstop
    · exact ((hf a a rfl).stop c').trans hstop
  result {c d} h := by
    rw [bind_apply, bind_apply]
    obtain ⟨e, c', d', hpc, hqd, -⟩ | ⟨a, b, c', d', hpc, hqd, hview, halike⟩ := hp.cases h
    · rw [hpc, hqd]
    · rw [hpc, hqd]
      exact (hf a b hview).result halike
  alike {c d} h := by
    rw [bind_apply, bind_apply]
    obtain ⟨e, c', d', hpc, hqd, halike⟩ | ⟨a, b, c', d', hpc, hqd, hview, halike⟩ := hp.cases h
    · rw [hpc, hqd]
      exact halike
    · rw [hpc, hqd]
      exact (hf a b hview).alike halike

/-- After a uniform parser, the rest goes on from the same result. -/
theorem uniform_bind {p : Parser α} {f g : α → Parser β} (hp : Uniform p)
    (hf : ∀ a, Follows look (f a) (g a)) : Follows look (p >>= f) (p >>= g) := by
  refine bind (of_uniform id hp) fun a b h => ?_
  cases h
  exact hf a

/-- A captured block may lie elsewhere, but the place behind it is the same. -/
theorem capture (opening : Token) (rebase : Bool) :
    Follows (fun _ => ()) (ofStep fun c => c.capture opening rebase)
      (ofStep fun c => c.capture opening rebase) where
  arena c := by
    rcases c with ⟨s | r, a⟩
    · rw [ofStep_apply, Cursor.capture_text]
      exact (s.capture_spec a a _ 1).2.2
    · rw [ofStep_apply, Cursor.capture_replay]
      exact .refl a
  stop c := by
    rcases c with ⟨s | r, a⟩
    · rw [ofStep_apply, Cursor.capture_text]
      rfl
    · rw [ofStep_apply, Cursor.capture_replay]
      exact congrArg (fun span => some span.stop) (r.span_capture a)
  result {c d} h := by
    rcases c with ⟨s | r, a⟩ <;> rcases d with ⟨source, b⟩ <;> cases h.source
    · rw [ofStep_apply, ofStep_apply, Cursor.capture_text, Cursor.capture_text]
      dsimp only
      rw [(s.capture_spec a b _ 1).1]
      cases (s.capture a (if rebase then some opening.line else none) 1).1 <;> rfl
    · rw [ofStep_apply, ofStep_apply, Cursor.capture_replay, Cursor.capture_replay,
        Replay.capture_eq fun i hi => h.agree rfl hi]
  alike {c d} h := by
    rcases c with ⟨s | r, a⟩ <;> rcases d with ⟨source, b⟩ <;> cases h.source
    · rw [ofStep_apply, ofStep_apply, Cursor.capture_text, Cursor.capture_text]
      exact ⟨congrArg Source.text (s.capture_spec a b _ 1).2.1, nofun⟩
    · rw [ofStep_apply, ofStep_apply, Cursor.capture_replay, Cursor.capture_replay,
        Replay.capture_eq fun i hi => h.agree rfl hi]
      refine ⟨rfl, fun hstop hi => h.agree ?_ hi⟩
      exact (congrArg (fun span : Span => some span.stop) (r.span_capture a)).symm.trans hstop

theorem aliasBody (name : Token) (params : List String) (opening : Token) :
    Follows (fun _ => ()) (aliasBody name params opening) (aliasBody name params opening) := by
  unfold Parser.aliasBody
  split
  · exact of_uniform _ (.failAt ..)
  · exact bind (capture ..) fun _ _ _ => pure rfl

theorem aliasDefinition : Follows (fun _ => ()) aliasDefinition aliasDefinition := by
  rw [aliasDefinition_eq]
  refine uniform_bind .any fun name => ?_
  split
  · exact of_uniform _ (.failAt ..)
  · refine uniform_bind .any fun t => ?_
    split
    · exact uniform_bind (.items ..) fun params => uniform_bind .any fun opening => aliasBody ..
    · exact aliasBody ..

/-- The statement of a keyword. -/
theorem keywordStatement (keyword : Keyword) :
    Follows Statement.word? (keywordStatement keyword) (keywordStatement keyword) := by
  cases keyword with
  | «alias» => exact bind aliasDefinition fun _ _ _ => pure rfl
  | «while» => exact uniform_bind (.symbol _) fun _ => bind (capture ..) fun _ _ _ => pure rfl
  | _ => exact of_uniform _ (.keywordStatement nofun nofun)

theorem arguments {isFirst : Bool} {bound bound' : Bindings} {params params' : List String}
    (h : params'.length = params.length) :
    Follows (fun _ => ()) (arguments isFirst bound params) (arguments isFirst bound' params') := by
  induction params generalizing params' isFirst bound bound' with
  | nil =>
    cases List.eq_nil_of_length_eq_zero h
    exact pure rfl
  | cons param params ih =>
    obtain ⟨param', params', rfl⟩ := List.exists_cons_of_length_eq_add_one h
    have hrest : ∀ t, Follows (fun _ => ())
        (Parser.arguments false (bound.insert param t) params)
        (Parser.arguments false (bound'.insert param' t) params') :=
      fun _ => ih (Nat.succ.inj h)
    rw [Parser.arguments, Parser.arguments]
    split
    · exact uniform_bind (.skipSymbol ',') fun _ => uniform_bind .any hrest
    · exact uniform_bind .any hrest

/-- The use of an alias: it takes as many arguments as the alias has parameters. -/
theorem invocation {aliases aliases' : AliasTable} {first : Token}
    (h : aliases'.arity? first.text = aliases.arity? first.text) :
    Follows Statement.word? (invocation aliases first) (invocation aliases' first) := by
  rw [AliasTable.arity?, AliasTable.arity?] at h
  rw [Parser.invocation, Parser.invocation]
  cases hfound : aliases.get? first.text <;> cases hfound' : aliases'.get? first.text <;>
    rw [hfound, hfound'] at h
  · exact of_uniform _ (.failAt ..)
  · cases h
  · cases h
  · exact bind (arguments (Option.some.inj h)) fun _ _ _ => pure rfl

end Follows

-- ======== arguments

theorem skipSymbol_apply (symbol : Char) (c : Cursor) :
    skipSymbol symbol c =
      if c.peek.1.isSymbol symbol then (.ok true, c.peek.2.next.2) else (.ok false, c.peek.2) := by
  rw [skipSymbol, bind_apply]
  show (if c.peek.1.isSymbol symbol then next >>= fun _ => Pure.pure true else Pure.pure false :
    Parser Bool) c.peek.2 = _
  split <;> rfl

theorem size_skipSymbol_le {symbol : Char} {c c' : Cursor} {b : Bool}
    (h : skipSymbol symbol c = (.ok b, c')) : c'.size ≤ c.size := by
  have hpeek := c.size_peek_le
  rw [skipSymbol_apply] at h
  split at h
  · cases h
    exact Nat.le_trans (c.peek.2.size_next_le) hpeek
  · cases h
    exact hpeek

/-- Each argument brings the end nearer. -/
theorem size_of_arguments {isFirst : Bool} {bound result : Bindings} {params : List String}
    {c c' : Cursor} (h : arguments isFirst bound params c = (.ok result, c')) :
    c'.size + params.length ≤ c.size := by
  induction params generalizing isFirst bound c with
  | nil =>
    cases h
    exact Nat.le_refl _
  | cons param params ih =>
    -- behind an optional comma, which no first argument has, comes one token for the parameter
    have hone : ∀ {c₁ : Cursor}, (any >>= fun t => arguments false (bound.insert param t) params) c₁ =
        (.ok result, c') → c'.size + (param :: params).length ≤ c₁.size := by
      intro c₁ h
      obtain ⟨t, c₂, hany, hrest⟩ := bind_eq_ok.1 h
      have hlt := size_of_any hany
      have hle := ih hrest
      rw [List.length_cons]
      omega
    rw [arguments] at h
    split at h
    · obtain ⟨b, c₁, hskip, hrest⟩ := bind_eq_ok.1 h
      exact Nat.le_trans (hone hrest) (size_skipSymbol_le hskip)
    · exact hone h

theorem arguments_append (isFirst : Bool) (bound : Bindings) (params more : List String) :
    arguments isFirst bound (params ++ more) =
      (arguments isFirst bound params >>= fun bound =>
        arguments (isFirst && params.isEmpty) bound more) := by
  induction params generalizing isFirst bound with
  | nil =>
    rw [List.nil_append, arguments, pure_bind, List.isEmpty_nil, Bool.and_true]
  | cons param params ih =>
    rw [List.cons_append, arguments, arguments, List.isEmpty_cons, Bool.and_false]
    split
    · simp only [bind_assoc, ih, Bool.false_and]
    · simp only [bind_assoc, ih, Bool.false_and]

/-- From alike cursors, longer lists of arguments lead further. -/
theorem not_lt_of_arguments {isFirst : Bool} {bound bound' result result' : Bindings}
    {params params' : List String} {c d c' d' : Cursor} (h : c.Alike d)
    (hc : arguments isFirst bound params c = (.ok result, c'))
    (hd : arguments isFirst bound' params' d = (.ok result', d')) (hplace : d'.source = c'.source) :
    ¬ params.length < params'.length := by
  intro hlt
  have htake : (params'.take params.length).length = params.length := by
    rw [List.length_take]
    omega
  rw [← List.take_append_drop params.length params', arguments_append] at hd
  obtain ⟨bound₁, d₁, hd₁, hrest⟩ := bind_eq_ok.1 hd
  -- so many arguments lead to the same place, and the others beyond it
  have halike : (arguments isFirst bound params c).2.Alike
      (arguments isFirst bound' (params'.take params.length) d).2 :=
    (Follows.arguments htake).alike h
  rw [hc, hd₁] at halike
  have hsize := size_of_arguments hrest
  have hend : d'.size = c'.size := congrArg Source.size hplace
  have hbetween : d₁.size = c'.size := halike.size_eq
  rw [List.length_drop] at hsize
  omega

/-- The number of arguments can be told from the place behind them. -/
theorem length_eq_of_arguments {isFirst : Bool} {bound bound' result result' : Bindings}
    {params params' : List String} {c d c' d' : Cursor} (h : c.Alike d)
    (hc : arguments isFirst bound params c = (.ok result, c'))
    (hd : arguments isFirst bound' params' d = (.ok result', d')) (hplace : d'.source = c'.source) :
    params'.length = params.length :=
  Nat.le_antisymm (Nat.le_of_not_lt (not_lt_of_arguments h hc hd hplace))
    (Nat.le_of_not_lt (not_lt_of_arguments h.symm hd hc hplace.symm))

-- ======== uses of aliases

/-- All that a parser gives has a property. -/
def Gives (P : α → Prop) (p : Parser α) : Prop :=
  ∀ ⦃c a c'⦄, p c = (.ok a, c') → P a

namespace Gives

variable {P : α → Prop}

theorem pure {a : α} (h : P a) : Gives P (pure a) := by
  intro c a' c' hc
  cases hc
  exact h

theorem failAt (fault : SyntaxFault) (t : Token) : Gives P (failAt fault t) := by
  intro c a c' hc
  cases hc

theorem bind {p : Parser β} {f : β → Parser α} (hf : ∀ b, Gives P (f b)) : Gives P (p >>= f) := by
  intro c a c' hc
  obtain ⟨b, c₁, -, hrest⟩ := bind_eq_ok.1 hc
  exact hf b hrest

end Gives

/-- A keyword other than `alias` and `while` starts a statement that is complete in itself. -/
theorem keywordStatement_isComplete {keyword : Keyword} (halias : keyword ≠ .alias)
    (hwhile : keyword ≠ .while) : Gives (·.isComplete = true) (keywordStatement keyword) := by
  cases keyword with
  | «alias» => exact absurd rfl halias
  | «while» => exact absurd rfl hwhile
  | default =>
    refine .bind fun t => ?_
    split
    · exact .bind fun _ => .pure rfl
    · exact .bind fun _ => .pure rfl
    · exact .failAt ..
  | call =>
    refine .bind fun hook => .bind fun listed => ?_
    split
    · exact .bind fun _ => .pure rfl
    · exact .pure rfl
  | log =>
    refine .bind fun t => ?_
    split
    · exact .bind fun _ => .pure rfl
    · exact .pure rfl
    · exact .failAt ..
  | exec =>
    refine .bind fun command => .bind fun listed => ?_
    split
    · exact .bind fun _ => .pure rfl
    · exact .pure rfl
  | execInclude =>
    refine .bind fun command => .bind fun listed => ?_
    split
    · exact .bind fun _ => .pure rfl
    · exact .pure rfl
  | waitFor =>
    refine .bind fun t => ?_
    split
    · exact .pure rfl
    · exact .failAt ..
  | mouse => exact .bind fun _ => .bind fun _ => .pure rfl
  | _ => first | exact .pure rfl | exact .bind fun _ => .pure rfl

/-- No keyword starts the use of an alias. -/
theorem keywordStatement_ne_invoke (keyword : Keyword) :
    Gives (fun st => ∀ name bindings, st ≠ .invoke name bindings) (keywordStatement keyword) := by
  by_cases halias : keyword = .alias
  · subst halias
    exact .bind fun _ => .pure nofun
  · by_cases hwhile : keyword = .while
    · subst hwhile
      exact .bind fun _ => .bind fun _ => .pure nofun
    · rintro c _ c' h name bindings rfl
      cases keywordStatement_isComplete halias hwhile h

/-- The first token of a statement decides whether it is the use of an alias. If it is not, then the
aliases have no part in it. -/
theorem statement_cases (first : Token) :
    (∃ p, Follows Statement.word? p p ∧ Gives (fun st => ∀ name bindings, st ≠ .invoke name bindings) p ∧
      ∀ aliases, statement aliases first = p) ∨
    ∀ aliases, statement aliases first = invocation aliases first := by
  unfold statement
  split
  · exact .inl ⟨_, .of_uniform _ (.failAt ..), .failAt .., fun _ => rfl⟩
  · cases Keyword.ofWord? first.text with
    | none => exact .inr fun _ => rfl
    | some keyword =>
      dsimp only
      split
      · exact .inl ⟨_, .keywordStatement keyword, keywordStatement_ne_invoke keyword, fun _ => rfl⟩
      · exact .inr fun _ => rfl

theorem invocation_eq_ok {aliases : AliasTable} {first : Token} {st : Statement} {c c' : Cursor}
    (h : invocation aliases first c = (.ok st, c')) :
    ∃ a bindings, aliases.get? first.text = some a ∧
      arguments true {} a.params c = (.ok bindings, c') ∧ st = .invoke first.text bindings := by
  rw [invocation] at h
  cases hfound : aliases.get? first.text with
  | none =>
    rw [hfound] at h
    cases h
  | some a =>
    rw [hfound] at h
    obtain ⟨bindings, c₁, hargs, hpure⟩ := bind_eq_ok.1 h
    cases hpure
    exact ⟨a, bindings, rfl, hargs, rfl⟩

section Alike

variable {aliases aliases' : AliasTable} {first : Token} {c c' d d' : Cursor} {st st' : Statement}

/-- A statement is read at the same place from another table, if this has for the alias that is used,
if any, the same number of parameters. -/
theorem statement_of_alike (h : c.Alike d) (hc : statement aliases first c = (.ok st, c'))
    (harity : ∀ name bindings, st = .invoke name bindings →
      aliases'.arity? name = aliases.arity? name) :
    ∃ st' d', statement aliases' first d = (.ok st', d') ∧ st'.word? = st.word? ∧ c'.Alike d' := by
  have hfollows : Follows Statement.word? (statement aliases first) (statement aliases' first) := by
    obtain ⟨p, hp, -, hall⟩ | huse := statement_cases first
    · rw [hall, hall]
      exact hp
    · rw [huse] at hc
      obtain ⟨a, bindings, -, -, rfl⟩ := invocation_eq_ok hc
      rw [huse, huse]
      exact .invocation (harity _ _ rfl)
  obtain ⟨e, _, _, hc', -⟩ | ⟨_, st', _, d', hc', hd, hword, halike⟩ := hfollows.cases h
  · cases hc.symm.trans hc'
  · cases hc.symm.trans hc'
    exact ⟨st', d', hd, hword, halike⟩

/-- From alike cursors, statements that can be read are the same word or both none. -/
theorem word?_eq_of_alike (h : c.Alike d) (hc : statement aliases first c = (.ok st, c'))
    (hd : statement aliases' first d = (.ok st', d')) : st'.word? = st.word? := by
  obtain ⟨p, hp, -, hall⟩ | huse := statement_cases first
  · rw [hall] at hc hd
    have hresult := hp.result h
    rw [hc, hd] at hresult
    exact Except.ok.inj hresult
  · rw [huse] at hc hd
    obtain ⟨_, _, -, -, rfl⟩ := invocation_eq_ok hc
    obtain ⟨_, _, -, -, rfl⟩ := invocation_eq_ok hd
    rfl

/-- If a use of an alias leads to the same place from two tables, the alias has in both the same
number of parameters. -/
theorem arity?_eq_of_place {name : String} {bindings : Bindings} (h : c.Alike d)
    (hc : statement aliases first c = (.ok (.invoke name bindings), c'))
    (hd : statement aliases' first d = (.ok st', d')) (hplace : d'.source = c'.source) :
    aliases'.arity? name = aliases.arity? name := by
  obtain ⟨p, -, hp, hall⟩ | huse := statement_cases first
  · rw [hall] at hc
    exact absurd rfl (hp hc name bindings)
  · rw [huse] at hc hd
    obtain ⟨a, _, hfound, hargs, hst⟩ := invocation_eq_ok hc
    obtain ⟨a', _, hfound', hargs', -⟩ := invocation_eq_ok hd
    cases hst
    rw [AliasTable.arity?, AliasTable.arity?, hfound, hfound']
    exact congrArg some (length_eq_of_arguments h hargs hargs' hplace)

/-- Reading a statement only adds to the arena, and stays within the same replay. -/
theorem statement_extends (aliases : AliasTable) (first : Token) (c : Cursor) :
    c.arena.Extends (statement aliases first c).2.arena ∧
      (statement aliases first c).2.source.stop? = c.source.stop? := by
  have hfollows : Follows Statement.word? (statement aliases first) (statement aliases first) := by
    obtain ⟨p, hp, -, hall⟩ | huse := statement_cases first
    · rw [hall]
      exact hp
    · rw [huse]
      exact .invocation rfl
  exact ⟨hfollows.arena c, hfollows.stop c⟩

end Alike

end Parser

end PageScript
