/-
Parsers know a source only by the tokens that it delivers.

Two cursors may stand in sources of different kinds, and over different arenas. What a parser gives
depends on the tokens delivered to it and on nothing else, so that from two cursors that deliver the
same tokens it gives the same. A bisimulation is a relation between cursors that reading and looking
ahead keep, and in which the same tokens are delivered; end tokens may differ, as long as failures at
them are related. A parser is uniform if it respects every bisimulation: from related cursors it gives
the same, or related failures, and it leads to related cursors. All parsers are uniform, except those
that capture a block.

Sources that deliver the same tokens for a while only are related for as long as that lasts. A token
that is read may then lead to a cursor that is lost to the relation, and a uniform parser respects the
relation unless it ends at a lost cursor.

What a relation has to say is up to its use. With both cursors the same it gives what holds of every
cursor that a parser leads to, and of every failure.
-/
import PageScript.Statement.Parser

namespace PageScript

-- ======== equations

namespace Parser

variable {α β : Type}

theorem bind_apply (p : Parser α) (f : α → Parser β) (c : Cursor) :
    (p >>= f) c =
      match p c with
      | (.ok a, c') => f a c'
      | (.error e, c') => (.error e, c') := by
  show ExceptT.bind p f c = _
  simp only [ExceptT.bind, ExceptT.mk, StateT.bind, bind]
  rcases p c with ⟨_ | _, _⟩ <;> rfl

theorem bind_eq_ok {p : Parser α} {f : α → Parser β} {c c' : Cursor} {b : β} :
    (p >>= f) c = (.ok b, c') ↔ ∃ a c₁, p c = (.ok a, c₁) ∧ f a c₁ = (.ok b, c') := by
  rw [bind_apply]
  rcases p c with ⟨e | a, c₁⟩
  · exact ⟨nofun, fun ⟨_, _, h, _⟩ => nomatch h⟩
  · exact ⟨fun h => ⟨a, c₁, rfl, h⟩, fun ⟨_, _, h, h'⟩ => by cases h; exact h'⟩

theorem map_apply (f : α → β) (p : Parser α) (c : Cursor) :
    (f <$> p) c = ((p c).1.map f, (p c).2) := by
  show (p >>= fun a => pure (f a)) c = _
  rw [bind_apply]
  rcases p c with ⟨_ | _, _⟩ <;> rfl

theorem ofStep_apply (step : Cursor → Except Failure α × Cursor) (c : Cursor) :
    ofStep step c = step c := rfl

theorem any_apply (c : Cursor) :
    any c =
      if c.next.1.isFinish then (.error (.syntaxAt .unexpectedEnd c.next.1), c.next.2)
      else (.ok c.next.1, c.next.2) := by
  rw [any, bind_apply]
  show (if c.next.1.isFinish then failAt .unexpectedEnd c.next.1 else pure c.next.1 : Parser Token)
    c.next.2 = _
  split <;> rfl

theorem number_eq : number =
    (any >>= fun t => match t.value? with
      | some value => pure value
      | none => failAt (.wantedNumber t.kind) t) := by
  funext c
  rw [bind_apply, any_apply]
  show Cursor.number c = _
  rcases hnext : c.next with ⟨t, after⟩
  simp only [Cursor.number, hnext]
  split
  · rfl
  · dsimp only
    cases t.value? <;> rfl

theorem symbol_eq (expected : Char) : symbol expected =
    (any >>= fun t =>
      if t.isSymbol expected then pure t else failAt (.wantedSymbol expected) t) := by
  funext c
  rw [bind_apply, any_apply]
  show Cursor.symbol expected c = _
  rcases hnext : c.next with ⟨t, after⟩
  simp only [Cursor.symbol, hnext]
  split
  · rfl
  · dsimp only
    split <;> rfl

theorem items_eq (close : Char) (item : Token → Except SyntaxFault α) :
    ofStep (Cursor.items close item) =
      (any >>= fun t =>
        if t.isSymbol close then pure []
        else if t.isSymbol ',' then ofStep (Cursor.items close item)
        else
          match item t with
          | .error fault => failAt fault t
          | .ok a => (a :: ·) <$> ofStep (Cursor.items close item)) := by
  funext c
  have hany := any_apply c
  rw [ofStep_apply, Cursor.items, bind_apply]
  split
  next t after hnext =>
  rw [hnext] at hany
  split
  · next hfinish =>
    rw [if_pos hfinish] at hany
    rw [hany]
  · next hmore =>
    rw [if_neg hmore] at hany
    rw [hany]
    dsimp only
    split
    · rfl
    · split
      · rfl
      · cases item t with
        | error fault => rfl
        | ok a =>
          dsimp only
          rw [map_apply]
          rfl

theorem gesture_eq :
    ofStep Cursor.gesture =
      (any >>= fun t =>
        if t.isSymbol '\x7d' then pure []
        else ofStep (Cursor.mouseStep t) >>= fun step => (step :: ·) <$> ofStep Cursor.gesture) := by
  funext c
  have hany := any_apply c
  rw [ofStep_apply, Cursor.gesture, bind_apply]
  split
  next t after hnext =>
  rw [hnext] at hany
  split
  · next hfinish =>
    rw [if_pos hfinish] at hany
    rw [hany]
  · next hmore =>
    rw [if_neg hmore] at hany
    rw [hany]
    dsimp only
    split
    · rfl
    · rw [bind_apply, ofStep_apply]
      split
      · next f last hstep => rw [hstep]
      · next step last hstep =>
        rw [hstep]
        dsimp only
        rw [map_apply]
        rfl

theorem mouseStep_eq (t : Token) :
    ofStep (Cursor.mouseStep t) =
      match t.kind with
      | .number => symbol ',' >>= fun _ => MouseStep.move (t.number.getD 0) <$> number
      | .word =>
        if t.quote.isSome then
          match Cursor.offset? t.text with
          | some step => pure step
          | none => failAt .wantedOffset t
        else if t.text = "sleep" then MouseStep.sleep <$> number
        else
          match Cursor.stepOfWord? t.text with
          | some step => pure step
          | none => failAt .unknownMouseStep t
      | _ => failAt .symbolInMouse t := by
  funext c
  rw [ofStep_apply, Cursor.mouseStep]
  cases t.kind with
  | number =>
    dsimp only
    rw [bind_apply, symbol, ofStep_apply]
    rcases c.symbol ',' with ⟨_ | _, c'⟩
    · rfl
    · dsimp only
      rw [map_apply]
      rfl
  | word =>
    dsimp only
    split
    · cases Cursor.offset? t.text <;> rfl
    · split
      · rw [map_apply]
        rfl
      · cases Cursor.stepOfWord? t.text <;> rfl
  | symbol => rfl
  | finish => rfl

/-- The body of an alias, behind its name and its parameters. -/
def aliasBody (name : Token) (params : List String) (opening : Token) : Parser Alias := do
  if !opening.isSymbol '\x7b' then failAt (.wantedSymbol '\x7b') opening
  else
    let block ← ofStep fun c => c.capture opening true
    return { name := name.text, params, body := block.span }

/-- Both with parameters and without, the body comes last. -/
theorem aliasDefinition_eq : aliasDefinition = (do
    let name ← any
    if name.kind ≠ .word then failAt .wantedAliasName name
    else
      let t ← any
      if t.isSymbol '(' then
        let params ← ofStep (Cursor.items ')' parameter)
        let opening ← any
        aliasBody name params opening
      else aliasBody name [] t) := rfl

/-- A token that has to be there brings the end nearer. -/
theorem size_of_any {c c' : Cursor} {t : Token} (h : any c = (.ok t, c')) : c'.size < c.size := by
  rw [any_apply] at h
  split at h
  · cases h
  · next hmore =>
    cases h
    exact c.size_next_lt (by simpa using hmore)

end Parser

-- ======== bisimulations

/-- The same token, or two end tokens at which failures are related. -/
inductive Token.Matches (F : Failure → Failure → Prop) : Token → Token → Prop
  | same (t : Token) : Matches F t t
  | finish {t u : Token} : t.isFinish = true → u.isFinish = true →
      F (.syntaxAt .unexpectedEnd t) (.syntaxAt .unexpectedEnd u) → Matches F t u

theorem Token.Matches.isFinish_eq {F : Failure → Failure → Prop} {t u : Token} (h : Matches F t u) :
    u.isFinish = t.isFinish := by
  cases h with
  | same => rfl
  | finish ht hu => rw [ht, hu]

theorem Token.Matches.eq_of_more {F : Failure → Failure → Prop} {t u : Token} (h : Matches F t u)
    (hmore : t.isFinish = false) : u = t := by
  cases h with
  | same => rfl
  | finish ht => cases hmore.symm.trans ht

/-- A relation between cursors that deliver matching tokens, kept by reading and by looking ahead.
Failures at the same token are related in any case. -/
structure Bisimulation (R : Cursor → Cursor → Prop) (F : Failure → Failure → Prop) : Prop where
  next : ∀ {c d}, R c d → Token.Matches F c.next.1 d.next.1 ∧ R c.next.2 d.next.2
  peek : ∀ {c d}, R c d → Token.Matches F c.peek.1 d.peek.1 ∧ R c.peek.2 d.peek.2
  fault : ∀ fault t, F (.syntaxAt fault t) (.syntaxAt fault t)

/-- A bisimulation that holds for a while: a token that is read may lead to a cursor that is lost, and
from there on all cursors are lost. A look ahead loses none. -/
structure BisimulationUntil (L : Cursor → Prop) (R : Cursor → Cursor → Prop)
    (F : Failure → Failure → Prop) : Prop where
  next : ∀ {c d}, R c d → L c.next.2 ∨ Token.Matches F c.next.1 d.next.1 ∧ R c.next.2 d.next.2
  peek : ∀ {c d}, R c d → Token.Matches F c.peek.1 d.peek.1 ∧ R c.peek.2 d.peek.2
  fault : ∀ fault t, F (.syntaxAt fault t) (.syntaxAt fault t)
  lost_next : ∀ {c}, L c → L c.next.2
  lost_peek : ∀ {c}, L c → L c.peek.2

theorem Bisimulation.until {R : Cursor → Cursor → Prop} {F : Failure → Failure → Prop}
    (hR : Bisimulation R F) : BisimulationUntil (fun _ => False) R F where
  next h := .inr (hR.next h)
  peek := hR.peek
  fault := hR.fault
  lost_next := id
  lost_peek := id

/-- Two results agree, and lead to related cursors: what is given is related, in a way that may take
the cursors into account, or both are failures that are related. -/
inductive Agree {α : Type} (R : Cursor → Cursor → Prop) (F : Failure → Failure → Prop)
    (V : Cursor → Cursor → α → α → Prop) :
    Except Failure α × Cursor → Except Failure α × Cursor → Prop
  | ok {a b : α} {c d : Cursor} : V c d a b → R c d → Agree R F V (.ok a, c) (.ok b, d)
  | error {f g : Failure} {c d : Cursor} : F f g → R c d → Agree R F V (.error f, c) (.error g, d)

theorem Agree.related {α : Type} {R : Cursor → Cursor → Prop} {F : Failure → Failure → Prop}
    {V : Cursor → Cursor → α → α → Prop} {x y : Except Failure α × Cursor} (h : Agree R F V x y) :
    R x.2 y.2 := by
  cases h with
  | ok _ hR => exact hR
  | error _ hR => exact hR

/-- The first of two results leads to a lost cursor, or the results agree. -/
def AgreeUntil {α : Type} (L : Cursor → Prop) (R : Cursor → Cursor → Prop)
    (F : Failure → Failure → Prop) (V : Cursor → Cursor → α → α → Prop)
    (x y : Except Failure α × Cursor) : Prop :=
  L x.2 ∨ Agree R F V x y

namespace AgreeUntil

variable {α β : Type} {L : Cursor → Prop} {R : Cursor → Cursor → Prop}
  {F : Failure → Failure → Prop} {V : Cursor → Cursor → α → α → Prop}
  {W : Cursor → Cursor → β → β → Prop}

theorem agree {x y : Except Failure α × Cursor} (h : AgreeUntil (fun _ => False) R F V x y) :
    Agree R F V x y :=
  h.resolve_left id

theorem bind {p q : Parser α} {f g : α → Parser β} {c d : Cursor}
    (h : AgreeUntil L R F V (p c) (q d))
    (hlost : ∀ {a c'}, p c = (.ok a, c') → L c' → L (f a c').2)
    (hf : ∀ {a b c' d'}, p c = (.ok a, c') → V c' d' a b → R c' d' →
      AgreeUntil L R F W (f a c') (g b d')) : AgreeUntil L R F W ((p >>= f) c) ((q >>= g) d) := by
  rw [Parser.bind_apply, Parser.bind_apply]
  rcases h with h | h
  · left
    rcases hp : p c with ⟨e | a, c'⟩
    · rwa [hp] at h
    · rw [hp] at h
      exact hlost hp h
  · generalize hp : p c = x at h
    generalize q d = y at h
    cases h with
    | ok hV hR => exact hf hp hV hR
    | error hF hR => exact .inr (.error hF hR)

end AgreeUntil

-- ======== uniform parsers

namespace Parser

variable {α β : Type}

/-- From a cursor and one that is related to it, a parser gives the same, whatever the relation. -/
def UniformAt (p : Parser α) (c : Cursor) : Prop :=
  ∀ ⦃L : Cursor → Prop⦄ ⦃R : Cursor → Cursor → Prop⦄ ⦃F : Failure → Failure → Prop⦄,
    BisimulationUntil L R F → ∀ ⦃d⦄, R c d → AgreeUntil L R F (fun _ _ => Eq) (p c) (p d)

/-- A parser respects every bisimulation, for as long as it holds. -/
def Uniform (p : Parser α) : Prop :=
  ∀ ⦃c⦄, UniformAt p c

theorem Uniform.at {p : Parser α} (hp : Uniform p) (c : Cursor) : UniformAt p c :=
  @hp c

/-- What reading and looking ahead keep true of a cursor, a uniform parser does. -/
theorem UniformAt.keeps {p : Parser α} {c : Cursor} (hp : UniformAt p c) {P : Cursor → Prop}
    (hnext : ∀ {c}, P c → P c.next.2) (hpeek : ∀ {c}, P c → P c.peek.2) (h : P c) : P (p c).2 := by
  have hR : Bisimulation (fun c d => d = c ∧ P c) fun _ _ => True :=
    { next := by rintro c _ ⟨rfl, hc⟩; exact ⟨.same _, rfl, hnext hc⟩
      peek := by rintro c _ ⟨rfl, hc⟩; exact ⟨.same _, rfl, hpeek hc⟩
      fault := fun _ _ => trivial }
  exact (hp hR.until ⟨rfl, h⟩).agree.related.2

theorem UniformAt.bind {p : Parser α} {f : α → Parser β} {c : Cursor} (hp : UniformAt p c)
    (hf : ∀ a c', p c = (.ok a, c') → UniformAt (f a) c') : UniformAt (p >>= f) c := by
  intro L R F hR d h
  refine (hp hR h).bind (fun {a c'} ha hL => ?_) fun {a b c' d'} ha hab hR' => ?_
  · exact (hf a c' ha).keeps hR.lost_next hR.lost_peek hL
  · subst hab
    exact hf a c' ha hR hR'

theorem UniformAt.map {p : Parser α} {c : Cursor} (hp : UniformAt p c) (f : α → β) :
    UniformAt (f <$> p) c :=
  hp.bind fun _ _ _ _ _ _ _ _ hR' => .inr (.ok rfl hR')

namespace Uniform

theorem agree {p : Parser α} (hp : Uniform p) {R : Cursor → Cursor → Prop}
    {F : Failure → Failure → Prop} (hR : Bisimulation R F) {c d : Cursor} (h : R c d) :
    Agree R F (fun _ _ => Eq) (p c) (p d) :=
  (hp hR.until h).agree

theorem keeps {p : Parser α} (hp : Uniform p) {P : Cursor → Prop} (hnext : ∀ {c}, P c → P c.next.2)
    (hpeek : ∀ {c}, P c → P c.peek.2) {c : Cursor} (h : P c) : P (p c).2 :=
  (hp.at c).keeps hnext hpeek h

theorem pure (a : α) : Uniform (pure a : Parser α) :=
  fun _ _ _ _ _ _ h => .inr (.ok rfl h)

theorem failAt (fault : SyntaxFault) (t : Token) : Uniform (failAt fault t : Parser α) :=
  fun _ _ _ _ hR _ h => .inr (.error (hR.fault fault t) h)

theorem bind {p : Parser α} {f : α → Parser β} (hp : Uniform p) (hf : ∀ a, Uniform (f a)) :
    Uniform (p >>= f) :=
  fun c => (hp.at c).bind fun a c' _ => (hf a).at c'

theorem map {p : Parser α} (hp : Uniform p) (f : α → β) : Uniform (f <$> p) :=
  fun c => (hp.at c).map f

/-- What goes on from a token that may be an end token must not tell end tokens apart. -/
theorem bind_of_matches {p : Parser Token} {f : Token → Parser β}
    (hp : ∀ {L R F}, BisimulationUntil L R F → ∀ {c d}, R c d →
      AgreeUntil L R F (fun _ _ => Token.Matches F) (p c) (p d))
    (hf : ∀ t, Uniform (f t)) (hfinish : ∀ {t u}, t.isFinish = true → u.isFinish = true → f t = f u) :
    Uniform (p >>= f) := by
  intro c L R F hR d h
  refine (hp hR h).bind (fun {t _} _ hL => (hf t).keeps hR.lost_next hR.lost_peek hL) ?_
  intro t u c' d' _ htu hR'
  cases htu with
  | same => exact hf t hR hR'
  | finish ht hu _ =>
    rw [← hfinish ht hu]
    exact hf t hR hR'

theorem next_bind {f : Token → Parser β} (hf : ∀ t, Uniform (f t))
    (hfinish : ∀ {t u}, t.isFinish = true → u.isFinish = true → f t = f u) :
    Uniform (next >>= f) :=
  bind_of_matches (fun hR _ _ h => (hR.next h).imp_right fun hnext => .ok hnext.1 hnext.2) hf hfinish

theorem peek_bind {f : Token → Parser β} (hf : ∀ t, Uniform (f t))
    (hfinish : ∀ {t u}, t.isFinish = true → u.isFinish = true → f t = f u) :
    Uniform (peek >>= f) :=
  bind_of_matches (fun hR _ _ h => .inr (.ok (hR.peek h).1 (hR.peek h).2)) hf hfinish

-- ======== operands

theorem any : Uniform any := by
  intro c L R F hR d h
  rw [any_apply, any_apply]
  rcases hR.next h with hlost | ⟨htokens, hR'⟩
  · left
    split <;> exact hlost
  right
  generalize c.next.1 = t at htokens
  generalize d.next.1 = u at htokens
  cases htokens with
  | same =>
    split
    · exact .error (hR.fault ..) hR'
    · exact .ok rfl hR'
  | finish ht hu hF =>
    rw [if_pos ht, if_pos hu]
    exact .error hF hR'

theorem number : Uniform number := by
  rw [number_eq]
  refine .bind .any fun t => ?_
  cases t.value? with
  | some value => exact .pure _
  | none => exact .failAt ..

theorem symbol (expected : Char) : Uniform (symbol expected) := by
  rw [symbol_eq]
  refine .bind .any fun t => ?_
  split
  · exact .pure _
  · exact .failAt ..

/-- A list is read uniformly: the induction is on how far the end of the source is. -/
theorem items (close : Char) (item : Token → Except SyntaxFault α) :
    Uniform (ofStep (Cursor.items close item)) := by
  intro c
  induction hsize : c.size using Nat.strongRecOn generalizing c with
  | ind n ih =>
    subst hsize
    rw [items_eq]
    refine (Uniform.any.at c).bind fun t c' hany => ?_
    have hrest := ih c'.size (size_of_any hany) rfl
    split
    · exact (Uniform.pure _).at c'
    · split
      · exact hrest
      · split
        · exact (Uniform.failAt ..).at c'
        · exact hrest.map _

theorem mouseStep (t : Token) : Uniform (ofStep (Cursor.mouseStep t)) := by
  rw [mouseStep_eq]
  cases t.kind with
  | number => exact .bind (.symbol ',') fun _ => .map .number _
  | word =>
    dsimp only
    split
    · cases Cursor.offset? t.text with
      | some step => exact .pure _
      | none => exact .failAt ..
    · split
      · exact .map .number _
      · cases Cursor.stepOfWord? t.text with
        | some step => exact .pure _
        | none => exact .failAt ..
  | symbol => exact .failAt ..
  | finish => exact .failAt ..

theorem gesture : Uniform (ofStep Cursor.gesture) := by
  intro c
  induction hsize : c.size using Nat.strongRecOn generalizing c with
  | ind n ih =>
    subst hsize
    rw [gesture_eq]
    refine (Uniform.any.at c).bind fun t c' hany => ?_
    split
    · exact (Uniform.pure _).at c'
    · refine ((Uniform.mouseStep t).at c').bind fun step c'' hstep => ?_
      have hle : c''.size ≤ c'.size := by
        have := c'.size_mouseStep_le t
        rw [ofStep_apply] at hstep
        rwa [hstep] at this
      exact (ih c''.size (Nat.lt_of_le_of_lt hle (size_of_any hany)) rfl).map _

theorem value : Uniform value := by
  refine .bind .any fun t => ?_
  split
  · exact .pure _
  · exact .failAt ..

theorem text : Uniform text :=
  .bind .value fun _ => .pure _

theorem bareWord (expected : String) : Uniform (bareWord expected) := by
  refine .bind .any fun t => ?_
  split
  · exact .pure _
  · exact .failAt ..

theorem skipSymbol (symbol : Char) : Uniform (skipSymbol symbol) := by
  refine .peek_bind (fun t => ?_) fun {t u} ht hu => ?_
  · split
    · exact .next_bind (fun _ => .pure _) fun _ _ => rfl
    · exact .pure _
  · -- an end token is no symbol
    rw [if_neg (by simp_all [Token.isSymbol, Token.isFinish]),
      if_neg (by simp_all [Token.isSymbol, Token.isFinish])]

theorem pixelPair : Uniform pixelPair :=
  .bind (.bind .number fun _ => .pure _) fun _ => .bind (.symbol ',') fun _ =>
    .bind (.bind .number fun _ => .pure _) fun _ => .pure _

theorem truth : Uniform truth := by
  refine .bind .value fun t => ?_
  split
  · exact .pure _
  · exact .failAt ..

theorem optionalTruth : Uniform optionalTruth := by
  refine .peek_bind (fun t => ?_) fun {t u} ht hu => ?_
  · split
    · exact .pure _
    · split
      · exact .next_bind (fun _ => .pure _) fun _ _ => rfl
      · exact .pure _
  · -- nor is it a word
    rw [if_pos (by simp_all [Token.isFinish]), if_pos (by simp_all [Token.isFinish])]

theorem axis : Uniform axis := by
  refine .bind .any fun t => ?_
  split
  · exact .pure _
  · split
    · exact .failAt ..
    · refine .bind (.skipSymbol ':') fun ranged => ?_
      split
      · exact .bind .number fun _ => .pure _
      · exact .pure _

theorem axisPair : Uniform axisPair :=
  .bind .axis fun _ => .bind (.symbol ',') fun _ => .bind .axis fun _ => .pure _

theorem checksum : Uniform checksum := by
  refine .bind .value fun t => ?_
  dsimp only
  split
  · exact .failAt ..
  · split
    · exact .pure _
    · exact .failAt ..

theorem key (codes : Bool) : Uniform (key codes) := by
  refine .bind .value fun t => ?_
  split
  · split
    · split
      · exact .pure _
      · exact .failAt ..
    · exact .failAt ..
  · split
    · exact .pure _
    · exact .failAt ..

-- ======== statements

theorem defaultStatement : Uniform defaultStatement := by
  refine .bind .any fun t => ?_
  split
  · exact .bind .number fun _ => .pure _
  · exact .bind .text fun _ => .pure _
  · exact .failAt ..

theorem browserCommand : Uniform browserCommand := by
  refine .bind .any fun t => ?_
  split
  · exact .pure _
  · exact .bind .text fun _ => .pure _
  · exact .bind .pixelPair fun _ => .pure _
  · exact .bind .pixelPair fun _ => .pure _
  · exact .bind .text fun _ => .pure _
  · exact .pure _
  · exact .bind .number fun _ => .pure _
  · exact .pure _
  · exact .pure _
  · exact .pure _
  · exact .bind .text fun _ => .pure _
  · exact .bind .truth fun _ => .pure _
  · exact .bind .text fun _ => .pure _
  · exact .bind .text fun _ => .bind .text fun _ => .pure _
  · exact .failAt ..

theorem logStatement : Uniform logStatement := by
  refine .bind .any fun t => ?_
  split
  · exact .bind .truth fun _ => .pure _
  · exact .pure _
  · exact .failAt ..

theorem callStatement : Uniform callStatement := by
  refine .bind .text fun hook => .bind (.skipSymbol _) fun listed => ?_
  split
  · exact .bind (.items ..) fun _ => .pure _
  · exact .pure _

theorem execStatement (run : Bool) : Uniform (execStatement run) := by
  refine .bind .text fun command => .bind (.skipSymbol _) fun listed => ?_
  split
  · exact .bind (.items ..) fun _ => .pure _
  · exact .pure _

theorem keywordStatement {keyword : Keyword} (halias : keyword ≠ .alias)
    (hwhile : keyword ≠ .while) : Uniform (keywordStatement keyword) := by
  cases keyword with
  | «alias» => exact absurd rfl halias
  | «while» => exact absurd rfl hwhile
  | default => exact .defaultStatement
  | browser => exact .bind .browserCommand fun _ => .pure _
  | call => exact .callStatement
  | log => exact .logStatement
  | exec => exact .execStatement false
  | execInclude => exact .execStatement true
  | checksum => exact .bind .checksum fun _ => .pure _
  | press => exact .bind (.key false) fun _ => .pure _
  | sendKey => exact .bind (.key true) fun _ => .pure _
  | push => exact .bind (.bareWord "wait") fun _ => .pure _
  | pop => exact .bind (.bareWord "wait") fun _ => .pure _
  | mouse => exact .bind (.symbol _) fun _ => .bind .gesture fun _ => .pure _
  | waitFor =>
    refine .bind .value fun t => ?_
    split
    · exact .pure _
    · exact .failAt ..
  | _ =>
    -- a word by itself, or with one operand
    first
    | exact .pure _
    | exact .bind .text fun _ => .pure _
    | exact .bind .number fun _ => .pure _
    | exact .bind .optionalTruth fun _ => .pure _
    | exact .bind .axisPair fun _ => .pure _

theorem arguments (isFirst : Bool) (bound : Bindings) (params : List String) :
    Uniform (arguments isFirst bound params) := by
  induction params generalizing isFirst bound with
  | nil => exact .pure _
  | cons param params ih =>
    rw [Parser.arguments]
    split
    · exact .bind (.skipSymbol ',') fun _ => .bind .any fun _ => ih ..
    · exact .bind .any fun _ => ih ..

theorem invocation (aliases : AliasTable) (first : Token) : Uniform (invocation aliases first) := by
  rw [Parser.invocation]
  cases aliases.get? first.text with
  | none => exact .failAt ..
  | some a => exact .bind (.arguments ..) fun _ => .pure _

end Uniform

end Parser

end PageScript
