/-
Tokens are well formed everywhere.

They come from texts, well formed, are captured as they are, and come back from the arena with arguments
put in. The arguments were delivered in the same way, and an end token is never taken for one. So the
whole cycle keeps them well formed, at any depth; and since no end token is captured and no argument is
one, a replay delivers as many tokens as its span has before it comes to an end.
-/
import PageScript.Proofs.Machine.Captured
import PageScript.Proofs.Token.WellFormed

namespace PageScript

-- ======== sources

/-- Nothing ill-formed is waiting in a source: neither a token that has been looked at, nor an argument
to put in. -/
def Source.Proper : Source → Prop
  | .text s => ∀ t, s.ahead = some t → t.WellFormed
  | .replay r => r.bindings.Proper

namespace Scanner

theorem wellFormed_next {s : Scanner} (h : (Source.text s).Proper) : s.next.1.WellFormed := by
  unfold next
  split
  · next t hahead => exact h t hahead
  · exact s.lexicon.wellFormed_scan ..

theorem proper_of_ahead {s : Scanner} (h : s.ahead = none) : (Source.text s).Proper := by
  intro t hahead
  rw [h] at hahead
  cases hahead

/-- All that a scanner has to deliver is well formed. -/
theorem wellFormed_pending {s : Scanner} (h : (Source.text s).Proper) :
    ∀ t ∈ s.pending, t.WellFormed :=
  fun t ht => forall_drain s.lexicon.wellFormed_scan h t (List.mem_of_mem_filter ht)

theorem wellFormed_kept {t : Token} (h : t.WellFormed) (base : Option Nat) :
    (kept t base).WellFormed := by
  cases base with
  | none => exact h
  | some line => exact ⟨h.number_iff, h.word_of_quote, h.single_of_symbol⟩

end Scanner

theorem Replay.wellFormed_current {r : Replay} {a : Arena} (ha : a.All Token.WellFormed)
    (hr : r.bindings.Proper) : (r.current a).WellFormed := by
  unfold current
  split
  · next t hget =>
    split
    · exact (ha.get? hget).substitute hr
    · exact Token.wellFormed_finish _
  · exact Token.wellFormed_finish _

/-- Reading keeps everything well formed: the arena, the tokens that are delivered, and the arguments that
a captured block takes along. -/
theorem Cursor.legible :
    Cursor.Invariant (fun c => c.arena.All Token.WellFormed ∧ c.source.Proper) Token.WellFormed
      fun _ block => block.bindings.Proper where
  next {c} h := by
    rcases c with ⟨s | r, a⟩
    · exact ⟨Scanner.wellFormed_next h.2, h.1, Scanner.proper_of_ahead s.ahead_next⟩
    · refine ⟨Replay.wellFormed_current h.1 h.2, h.1, ?_⟩
      show r.advance.bindings.Proper
      unfold Replay.advance
      split <;> exact h.2
  peek {c} h := by
    rcases c with ⟨s | r, a⟩
    · refine ⟨h.1, ?_⟩
      rintro _ ⟨⟩
      exact Scanner.wellFormed_next h.2
    · exact h
  capture {c c' opening rebase r} h hc := by
    rcases c with ⟨s | r, a⟩
    · obtain ⟨ts, hcopied, htokens, hahead, -⟩ :=
        s.capture_copies a (if rebase then some opening.line else none) 1
      rw [capture_text] at hc
      generalize s.capture a (if rebase then some opening.line else none) 1 = captured
        at hc htokens hahead
      rcases captured with ⟨closed, s', grown⟩
      cases hc
      refine ⟨⟨h.1.grown (fun t ht => ?_) htokens, Scanner.proper_of_ahead hahead⟩, ?_⟩
      · obtain ⟨t', ht', rfl⟩ := List.mem_map.1 ht
        exact Scanner.wellFormed_kept (Scanner.wellFormed_pending h.2 t' (hcopied.subset ht')) _
      · cases closed with
        | false => rintro _ ⟨⟩
        | true =>
          rintro _ ⟨⟩
          exact Bindings.proper_empty
    · rw [capture_replay, Replay.capture] at hc
      cases hclose : Replay.closingBrace? a (r.span.stop - r.cursor) 1 r.cursor with
      | none =>
        rw [hclose] at hc
        cases hc
        refine ⟨h, ?_⟩
        rintro _ ⟨⟩
      | some i =>
        rw [hclose] at hc
        cases hc
        refine ⟨h, ?_⟩
        rintro _ ⟨⟩
        exact h.2

-- ======== tokens

/-- Whatever is read on and on from a proper source is well formed. -/
theorem Source.wellFormed_token {a : Arena} {s : Source} (ha : a.All Token.WellFormed)
    (hs : s.Proper) (n : Nat) : (s.token a n).WellFormed := by
  induction n generalizing s with
  | zero => exact (Cursor.legible.next (c := ⟨s, a⟩) ⟨ha, hs⟩).1
  | succ n ih => exact ih (Cursor.legible.next (c := ⟨s, a⟩) ⟨ha, hs⟩).2.2

/-- A replay of proper arguments comes to its end with its span and not before. -/
theorem Replay.isFinish_token {r : Replay} {a : Arena} (hstop : r.span.stop ≤ a.size)
    (ha : a.All (·.isFinish = false)) (hr : r.bindings.Proper) (n : Nat) :
    ((Source.replay r).token a n).isFinish = false ↔ n < (r.pending a).length := by
  rw [token_eq hstop]
  cases hget : (r.pending a)[n]? with
  | none =>
    have hout : ¬n < (r.pending a).length := Nat.not_lt.2 (List.getElem?_eq_none_iff.1 hget)
    simp [hout, finish, Token.finish, Token.isFinish]
  | some t =>
    have hin : n < (r.pending a).length := (List.getElem?_eq_some_iff.1 hget).1
    have ht : t.isFinish = false := ha.slice _ t (List.mem_of_getElem? hget)
    simp [hin, Token.isFinish_substitute t hr, ht]

-- ======== sessions

namespace Machine

variable {σ : Type}

/-- All captured tokens are well formed. -/
def Legible (m : Machine σ) : Prop :=
  m.arena.All Token.WellFormed

/-- So they are, and whatever is read at a place is. -/
structure LegibleAt (m : Machine σ) (s : Source) : Prop where
  arena : m.Legible
  source : s.Proper

theorem Legible.ofStore : OfStore (σ := σ) Legible := by
  intro m m' harena _ h
  rw [Legible, harena]
  exact h

theorem Legible.holding {m : Machine σ} (h : m.Legible) {tokens : List Token}
    (htokens : ∀ t ∈ tokens, t.WellFormed) : (m.holding tokens).Legible :=
  Arena.All.grown h (fun t ht => htokens t (List.mem_filter.1 ht).1) (Array.toList_append ..)

namespace LegibleAt

variable {m : Machine σ} {s : Source}

theorem cursor (h : m.LegibleAt s) : m.arena.All Token.WellFormed ∧ s.Proper :=
  ⟨h.arena, h.source⟩

theorem behind (h : m.LegibleAt s) : (m.noting (m.read s)).LegibleAt (m.read s).after.source := by
  obtain ⟨-, hafter, -⟩ := Cursor.legible.read h.cursor
  exact ⟨hafter.1, hafter.2⟩

theorem arguments (h : m.LegibleAt s) {name : String} {bindings : Bindings}
    (hparsed : (m.read s).parsed = .ok (.invoke name bindings)) : bindings.Proper :=
  Cursor.legible.read_arguments h.cursor hparsed

/-- Where the tokens and arguments are proper that come with requests, every place that is come to is
legible. -/
theorem guard [World σ] :
    Guard (σ := σ) Legible LegibleAt Bindings.Proper (fun tokens => ∀ t ∈ tokens, t.WellFormed)
      (Carries Legible) where
  toLasting := Carries.lasting Legible.ofStore
  machine h := h.arena
  kept h := h.kept
  place h hs := ⟨h.kept hs.arena, hs.source⟩
  entering _ _ _ := .of_same Legible.ofStore rfl rfl
  reading {m s} h := ⟨(m.read_extends s).1, fun _ => h.behind.arena⟩
  behind h := h.behind
  performing _ _ := Carries.keptAt Legible.ofStore fun _ _ h => h
  text _ _ h := ⟨h, nofun⟩
  loop {m s body m₁} h hmeets := by
    obtain ⟨-, -, hblock⟩ := Cursor.legible.read h.cursor
    refine ⟨?_, hblock _ hmeets.parsed⟩
    rw [hmeets.noted]
    exact h.behind.arena
  arguments h hmeets := h.arguments hmeets.parsed
  nothing := Bindings.proper_empty
  body h _ hbound := ⟨h, hbound⟩
  holding {m _} _ htokens := ⟨.alloc m.arena _, fun h => h.holding htokens⟩
  given h htokens hbound := ⟨h.holding htokens, hbound⟩

end LegibleAt

/-- Tokens are well formed wherever they are, and no replay is cut short. In a session in which the tokens
and arguments that come with requests are proper, as there are none with files, texts and tests, this
holds at each moment: captured tokens are well formed, and so are those that can be read on and on from
where the machine is; the arguments that are bound there, in the use of an alias or in a replay, are
well formed, and none is an end token; and from the start of its span a replay delivers just as many
tokens as the span has places before its first end token. -/
theorem tokens_wellFormed [World σ] (settings : Settings) (browser : σ) (disk : Disk)
    {session : List (Errand σ)}
    (hadmits : ∀ errand ∈ session,
      errand.request.Admits (fun tokens => ∀ t ∈ tokens, t.WellFormed) Bindings.Proper) :
    ∀ x ∈ history session (new settings browser disk),
      x.machine.arena.All Token.WellFormed ∧
      ∀ s, x.source = some s →
        (∀ n, (s.token x.machine.arena n).WellFormed) ∧
        (∀ name bindings, (x.machine.read s).parsed = .ok (.invoke name bindings) →
          bindings.Proper) ∧
        ∀ r, s = .replay r → r.bindings.Proper ∧
          ∀ n, ((Source.ofBlock ⟨r.span, r.bindings⟩).token x.machine.arena n).isFinish = false ↔
            n < r.span.length := by
  intro x hx
  have hnew : (new settings browser disk).Legible := fun _ h => absurd h List.not_mem_nil
  have hlegible := LegibleAt.guard.of_history (L := fun _ _ => True) (fun _ _ => trivial)
    (fun _ _ => trivial) hadmits hnew x hx
  have horderly := orderly_history settings browser disk session x hx
  refine ⟨hlegible.machine, fun s hs => ?_⟩
  have hplace := hlegible.place s hs
  refine ⟨Source.wellFormed_token hplace.arena hplace.source, fun _ _ => hplace.arguments, ?_⟩
  rintro r rfl
  have hproper : r.bindings.Proper := hplace.source
  have hstop : r.span.stop ≤ x.machine.arena.size := (horderly.place _ hs).source _ rfl
  refine ⟨hproper, fun n => ?_⟩
  rw [← Arena.length_slice hstop]
  exact Replay.isFinish_token (r := .ofBlock ⟨r.span, r.bindings⟩) hstop
    horderly.machine.noFinish hproper n

/-- The use of an alias whose argument, a quoted text, is put in once as it is and once as a whole
number. -/
def coercion : List (Errand Offline) :=
  [{ fuel := 6
     request := .text "alias a(x) \x7b echo $x sleep '$I(x)' \x7d a '7.9'" "script" ⟨"."⟩ }]

/-- The span that is being replayed at a moment, and the parameters that are bound there. -/
def replaying (x : Moment Offline) : Option (Span × List String) :=
  match x.source with
  | some (.replay r) => some (r.span, r.bindings.entries.map Prod.fst)
  | _ => none

/-- The body of the alias is replayed in full, as well-formed tokens. -/
theorem tokens_wellFormed_coerced :
    (∀ errand ∈ coercion,
      errand.request.Admits (fun tokens => ∀ t ∈ tokens, t.WellFormed) Bindings.Proper) ∧
    ∃ x r, (history coercion (new {} (⟨⟩ : Offline) default))[5]? = some x ∧
      x.source = some (.replay r) ∧ r.span = ⟨0, 4⟩ ∧ r.bindings.entries.map Prod.fst = ["x"] ∧
      r.bindings.Proper ∧ (∀ n, ((Source.replay r).token x.machine.arena n).WellFormed) ∧
      ∀ n, ((Source.ofBlock ⟨r.span, r.bindings⟩).token x.machine.arena n).isFinish = false ↔
        n < 4 := by
  have hadmits : ∀ errand ∈ coercion,
      errand.request.Admits (fun tokens => ∀ t ∈ tokens, t.WellFormed) Bindings.Proper := by
    intro errand herrand
    obtain rfl := List.mem_singleton.1 herrand
    trivial
  have hmoment : (history coercion (new {} (⟨⟩ : Offline) default))[5]?.map replaying =
      some (some (⟨0, 4⟩, ["x"])) := by decide +kernel
  obtain ⟨x, hx, hreplay⟩ := Option.map_eq_some_iff.1 hmoment
  unfold replaying at hreplay
  split at hreplay
  · next r hsource =>
    obtain ⟨hspan, hnames⟩ := Prod.ext_iff.1 (Option.some.inj hreplay)
    obtain ⟨-, hread⟩ :=
      tokens_wellFormed {} (⟨⟩ : Offline) default hadmits x (List.mem_of_getElem? hx)
    obtain ⟨htokens, -, hwhole⟩ := hread _ hsource
    obtain ⟨hproper, hlength⟩ := hwhole r rfl
    refine ⟨hadmits, x, r, hx, hsource, hspan, hnames, hproper, htokens, fun n => ?_⟩
    rw [hlength n, show r.span = ⟨0, 4⟩ from hspan]
    rfl
  · cases hreplay

end Machine

end PageScript
