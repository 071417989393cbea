/-
Captured blocks, and their replay token by token.

A block is captured up to the brace that closes it, so the braces in it are balanced, and no end token is
kept. This holds of the copy that a scanner makes in the arena as well as of the part of a span that a
replay cuts out. What a replay delivers depends on nothing in the arena but its span: the tokens there,
with arguments put in, and then end tokens.
-/
import PageScript.Proofs.Statement.Pending
import PageScript.Proofs.Statement.Simulation

namespace PageScript

-- ======== braces

/-- How many braces are opened in some tokens. -/
def opened (ts : List Token) : Nat :=
  ts.countP (·.isSymbol '\x7b')

/-- How many braces are closed in some tokens. -/
def closed (ts : List Token) : Nat :=
  ts.countP (·.isSymbol '\x7d')

/-- Braces are balanced: nowhere have more been closed than opened, and in the end as many have. -/
structure Balanced (ts : List Token) : Prop where
  closed_le : ∀ front, front <+: ts → closed front ≤ opened front
  closed_eq : closed ts = opened ts

theorem opened_cons (t : Token) (ts : List Token) : opened (t :: ts) = opened [t] + opened ts :=
  (List.countP_append : ([t] ++ ts).countP _ = _)

theorem closed_cons (t : Token) (ts : List Token) : closed (t :: ts) = closed [t] + closed ts :=
  (List.countP_append : ([t] ++ ts).countP _ = _)

/-- From one token to the next, the depth changes as braces are opened and closed. -/
theorem blockDepth?_eq_some {depth depth' : Nat} {t : Token} (h : blockDepth? depth t = some depth')
    (hdepth : 0 < depth) : 0 < depth' ∧ depth' + closed [t] = depth + opened [t] := by
  unfold blockDepth? at h
  split at h
  · next hopens =>
    have hnot : t.isSymbol '\x7d' = false := Token.isSymbol_of_other hopens (by decide)
    cases h
    simp [opened, closed, hopens, hnot]
  · next hopens =>
    split at h
    · next hcloses =>
      split at h
      · cases h
      · cases h
        simp [opened, closed, hopens, hcloses]
        omega
    · next hcloses =>
      cases h
      simp [opened, closed, hopens, hcloses, hdepth]

/-- In a block, each place is at least one deep, and the end is exactly so. -/
theorem splitBlock?_depth {depth : Nat} {ts body rest : List Token} (hdepth : 0 < depth)
    (h : splitBlock? depth ts = some (body, rest)) :
    (∀ front, front <+: body → closed front < opened front + depth) ∧
      closed body + 1 = opened body + depth := by
  induction ts generalizing depth body with
  | nil => cases h
  | cons t ts ih =>
    rw [splitBlock?] at h
    cases hd : blockDepth? depth t with
    | none =>
      have := (blockDepth?_eq_none.1 hd).2
      rw [hd] at h
      cases h
      refine ⟨fun front hfront => ?_, ?_⟩
      · rw [List.prefix_nil.1 hfront]
        exact Nat.lt_add_left _ hdepth
      · simp only [closed, opened, List.countP_nil]
        omega
    | some depth' =>
      obtain ⟨hpos, hstep⟩ := blockDepth?_eq_some hd hdepth
      rw [hd] at h
      obtain ⟨⟨body', rest'⟩, hsplit, hpair⟩ := Option.map_eq_some_iff.1 h
      cases hpair
      obtain ⟨hfronts, hend⟩ := ih hpos hsplit
      refine ⟨fun front hfront => ?_, ?_⟩
      · rcases List.prefix_cons_iff.1 hfront with rfl | ⟨front', rfl, hfront'⟩
        · exact Nat.lt_add_left _ hdepth
        · have := hfronts front' hfront'
          rw [opened_cons, closed_cons]
          omega
      · show closed (t :: body') + 1 = opened (t :: body') + depth
        rw [opened_cons, closed_cons]
        omega

/-- What stands in front of the brace that closes a block is balanced. -/
theorem splitBlock?_balanced {ts body rest : List Token} (h : splitBlock? 1 ts = some (body, rest)) :
    Balanced body := by
  obtain ⟨hfronts, hend⟩ := splitBlock?_depth Nat.one_pos h
  exact ⟨fun front hfront => Nat.le_of_lt_succ (hfronts front hfront), Nat.succ.inj hend⟩

-- ======== arena

namespace Arena

variable {a b : Arena}

/-- All tokens in an arena have a property. -/
def All (T : Token → Prop) (a : Arena) : Prop :=
  ∀ t ∈ a.tokens.toList, T t

theorem All.get? {T : Token → Prop} (h : a.All T) {i : Nat} {t : Token} (hget : a.get? i = some t) :
    T t := by
  rw [Arena.get?, ← Array.getElem?_toList] at hget
  exact h t (List.mem_of_getElem? hget)

theorem All.grown {T : Token → Prop} (h : a.All T) {ts : List Token} (hts : ∀ t ∈ ts, T t)
    (hb : b.tokens.toList = a.tokens.toList ++ ts) : b.All T := by
  intro t ht
  rw [hb] at ht
  rcases List.mem_append.1 ht with ht | ht
  · exact h t ht
  · exact hts t ht

theorem All.slice {T : Token → Prop} (h : a.All T) (s : Span) : ∀ t ∈ a.slice s, T t := by
  intro t ht
  rw [slice_eq] at ht
  exact h t (List.mem_of_mem_take (List.mem_of_mem_drop ht))

/-- An arena reaches up to where something stops, if it is in the arena at all. -/
def Reaches (a : Arena) (stop : Option Nat) : Prop :=
  ∀ i, stop = some i → i ≤ a.size

theorem Reaches.mono {stop : Option Nat} (h : a.Reaches stop) (hgrown : a.Extends b) :
    b.Reaches stop :=
  fun i hi => Nat.le_trans (h i hi) hgrown.size_le

theorem reaches_none (a : Arena) : a.Reaches none :=
  nofun

theorem reaches_some {stop : Nat} (h : stop ≤ a.size) : a.Reaches (some stop) := by
  rintro _ ⟨⟩
  exact h

/-- A span lies in the arena, and holds a block. -/
structure Holds (a : Arena) (s : Span) : Prop where
  ordered : s.start ≤ s.stop
  within : s.stop ≤ a.size
  balanced : Balanced (a.slice s)

/-- A block that is held stays where it is. -/
theorem Holds.mono {s : Span} (h : a.Holds s) (hgrown : a.Extends b) : b.Holds s where
  ordered := h.ordered
  within := Nat.le_trans h.within hgrown.size_le
  balanced := hgrown.slice_eq h.within ▸ h.balanced

end Arena

-- ======== capture

/-- What a scanner copies into the arena are tokens that it had to deliver: those of the block, if it is
closed. -/
theorem Scanner.capture_copies (s : Scanner) (a : Arena) (base : Option Nat) (depth : Nat) :
    ∃ ts, ts <+: s.pending ∧
      (s.capture a base depth).2.2.tokens.toList = a.tokens.toList ++ ts.map (kept · base) ∧
      (s.capture a base depth).2.1.ahead = none ∧
      ((s.capture a base depth).1 = true → ∃ rest, splitBlock? depth s.pending = some (ts, rest)) := by
  induction hsize : s.size using Nat.strongRecOn generalizing s a depth with
  | ind n ih =>
    subst hsize
    rw [capture_eq]
    split
    · exact ⟨[], List.nil_prefix, (List.append_nil _).symm, s.ahead_next, nofun⟩
    · next hmore =>
      have hmore : s.next.1.isFinish = false := by simpa using hmore
      have hpending := pending_of_more hmore
      cases hd : blockDepth? depth s.next.1 with
      | none =>
        refine ⟨[], List.nil_prefix, (List.append_nil _).symm, s.ahead_next, fun _ => ?_⟩
        rw [hpending, splitBlock?, hd]
        exact ⟨_, rfl⟩
      | some depth' =>
        obtain ⟨ts, hcopied, htokens, hahead, hclosed⟩ :=
          ih _ (s.size_next_lt hmore) s.next.2 (a.push (kept s.next.1 base)) depth' rfl
        refine ⟨s.next.1 :: ts, ?_, ?_, hahead, fun h => ?_⟩
        · rw [hpending]
          exact List.cons_prefix_cons.2 ⟨rfl, hcopied⟩
        · dsimp only
          rw [htokens, Arena.push, Array.toList_push, List.append_assoc]
          rfl
        · obtain ⟨rest, hsplit⟩ := hclosed h
          rw [hpending, splitBlock?, hd]
          dsimp only
          rw [hsplit]
          exact ⟨rest, rfl⟩

theorem Scanner.isFinish_pending {s : Scanner} {t : Token} (h : t ∈ s.pending) : t.isFinish = false := by
  simpa using (List.mem_filter.1 h).2

theorem Scanner.isFinish_kept (t : Token) (base : Option Nat) : (kept t base).isFinish = t.isFinish := by
  cases base <;> rfl

theorem Scanner.isSymbol_kept (t : Token) (base : Option Nat) (c : Char) :
    (kept t base).isSymbol c = t.isSymbol c := by
  cases base <;> rfl

theorem Replay.ordered_of_capture {r r' : Replay} {a : Arena} {block : Block}
    (h : r.capture a = (some block, r')) : block.span.start ≤ block.span.stop := by
  rw [capture] at h
  cases hclose : closingBrace? a (r.span.stop - r.cursor) 1 r.cursor with
  | none =>
    rw [hclose] at h
    cases h
  | some i =>
    rw [hclose] at h
    cases h
    exact (closingBrace?_bounds hclose).1

theorem Balanced.map {ts : List Token} (h : Balanced ts) {f : Token → Token}
    (hf : ∀ t c, (f t).isSymbol c = t.isSymbol c) : Balanced (ts.map f) := by
  have hopened : ∀ us : List Token, opened (us.map f) = opened us := fun us => by
    rw [opened, List.countP_map]
    exact List.countP_congr fun t _ => by simp [hf]
  have hclosed : ∀ us : List Token, closed (us.map f) = closed us := fun us => by
    rw [closed, List.countP_map]
    exact List.countP_congr fun t _ => by simp [hf]
  refine ⟨fun front hfront => ?_, ?_⟩
  · rw [List.prefix_iff_eq_take.1 hfront, ← List.map_take, hopened, hclosed]
    exact h.closed_le _ (List.take_prefix ..)
  · rw [hopened, hclosed]
    exact h.closed_eq

/-- Where the arena reaches up to the end of what is replayed, it holds each block that is captured: a
scanned block is what it has grown by, and a replayed one is a part of what is replayed. -/
theorem Cursor.holding : Cursor.Invariant (fun c => c.arena.Reaches c.source.stop?) (fun _ => True)
    fun c block => c.arena.Holds block.span where
  next {c} h := by
    have hstop : c.next.2.source.stop? = c.source.stop? := (Parser.Steady.next.at c).stop
    refine ⟨trivial, ?_⟩
    rwa [hstop]
  peek {c} h := by
    have hstop : c.peek.2.source.stop? = c.source.stop? := (Parser.Steady.peek.at c).stop
    rwa [hstop]
  capture {c c' opening rebase r} h hc := by
    rcases c with ⟨s | r, a⟩
    · rw [capture_text] at hc
      obtain ⟨ts, -, htokens, -, hsplit⟩ :=
        s.capture_copies a (if rebase then some opening.line else none) 1
      generalize s.capture a (if rebase then some opening.line else none) 1 = captured at hc htokens hsplit
      rcases captured with ⟨closed, s', grown⟩
      cases hc
      dsimp only at htokens hsplit
      refine ⟨grown.reaches_none, ?_⟩
      cases closed with
      | false => nofun
      | true =>
        rintro _ ⟨⟩
        obtain ⟨rest, hsplit⟩ := hsplit rfl
        have hgrown : a.Extends grown := ⟨_, htokens.symm⟩
        refine ⟨hgrown.size_le, Nat.le_refl _, ?_⟩
        dsimp only
        rw [Arena.slice_grown htokens]
        exact (splitBlock?_balanced hsplit).map fun t c => Scanner.isSymbol_kept ..
    · have hstop : r.span.stop ≤ a.size := h _ rfl
      rw [capture_replay] at hc
      cases hsplit : splitBlock? 1 (r.pending a) with
      | none =>
        rw [(Replay.capture_of_none hsplit).1] at hc
        cases hc
        exact ⟨Arena.reaches_some hstop, nofun⟩
      | some parts =>
        obtain ⟨i, hcapture, hi, hbody, -⟩ := Replay.capture_of_some (Prod.eta parts ▸ hsplit)
        rw [hcapture] at hc
        cases hc
        refine ⟨Arena.reaches_some hstop, ?_⟩
        rintro _ ⟨⟩
        refine ⟨Replay.ordered_of_capture hcapture, Nat.le_trans (Nat.le_of_lt hi) hstop, ?_⟩
        dsimp only
        rw [hbody]
        exact splitBlock?_balanced (Prod.eta parts ▸ hsplit)

/-- Whatever is captured, no end token is kept. -/
theorem Cursor.keepingNoFinish : Cursor.Invariant (fun c => c.arena.All (·.isFinish = false))
    (fun _ => True) fun _ _ => True where
  next h := ⟨trivial, h⟩
  peek h := h
  capture {c c' opening rebase r} h hc := by
    refine ⟨?_, fun _ _ => trivial⟩
    rcases c with ⟨s | r, a⟩
    · obtain ⟨ts, hcopied, htokens, -⟩ :=
        s.capture_copies a (if rebase then some opening.line else none) 1
      rw [capture_text] at hc
      cases hc
      refine h.grown (fun t ht => ?_) htokens
      obtain ⟨t', ht', rfl⟩ := List.mem_map.1 ht
      rw [Scanner.isFinish_kept]
      exact Scanner.isFinish_pending (hcopied.subset ht')
    · rw [capture_replay] at hc
      cases hc
      exact h

-- ======== token by token

namespace Source

/-- A source after so many tokens have been read from it. -/
def after (a : Arena) : Nat → Source → Source
  | 0, s => s
  | n + 1, s => after a n (s.next a).2

/-- The tokens that a source delivers when it is read on and on. -/
def token (a : Arena) (s : Source) (n : Nat) : Token :=
  ((s.after a n).next a).1

end Source

/-- A replay delivers the tokens that are left of its span, with arguments put in, and then end tokens. -/
theorem Replay.token_eq {r : Replay} {a : Arena} (hstop : r.span.stop ≤ a.size) (n : Nat) :
    (Source.replay r).token a n =
      ((r.pending a)[n]?.map (·.substitute r.bindings)).getD (r.finish a) := by
  induction n generalizing r with
  | zero =>
    show r.current a = _
    cases hpending : r.pending a with
    | nil => exact (current_of_nil hstop hpending).1
    | cons t rest => exact (current_of_cons hpending).1
  | succ n ih =>
    show (Source.replay r.advance).token a n = _
    cases hpending : r.pending a with
    | nil =>
      rw [(current_of_nil hstop hpending).2, ih hstop, hpending]
      rfl
    | cons t rest =>
      obtain ⟨-, hadvance, hrest⟩ := current_of_cons hpending
      rw [hadvance] at hrest ⊢
      refine (ih (r := { r with cursor := r.cursor + 1 }) hstop).trans ?_
      rw [hrest]
      rfl

/-- What is scanned from a text has nothing to do with the arena. -/
theorem Source.token_text (s : Scanner) (a b : Arena) (n : Nat) :
    (Source.text s).token b n = (Source.text s).token a n := by
  induction n generalizing s with
  | zero => rfl
  | succ n ih => exact ih s.next.2

/-- However the arena grows, what is in it is replayed as the same tokens. -/
theorem Arena.Extends.token_eq {a b : Arena} (h : a.Extends b) {s : Source}
    (hreaches : a.Reaches s.stop?) (n : Nat) : s.token b n = s.token a n := by
  cases s with
  | text s => exact Source.token_text s a b n
  | replay r =>
    have hstop : r.span.stop ≤ a.size := hreaches _ rfl
    have hpending : r.pending b = r.pending a := h.slice_eq hstop
    have hfinish : r.finish b = r.finish a :=
      Replay.finish_eq fun i hi => h.get?_eq (Nat.lt_of_lt_of_le hi hstop)
    rw [Replay.token_eq (Nat.le_trans hstop h.size_le), Replay.token_eq hstop, hpending, hfinish]

end PageScript
