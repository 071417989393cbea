/-
Looking ahead changes nothing.

A scanner that is asked for the next token ahead of its turn reads it and keeps it, so it stands elsewhere
in its text than one that was not asked. From outside the two cannot be told apart: they are level, which
is to say that they read and capture the same. A transcript of what is asked of a source, and of what is
answered, is therefore the same with or without the looks ahead.

For a text, what is read can be told from the tokens of the text alone. Each token that is read takes one
of them, a captured block those that are copied and the one that ends it, and a look ahead none.
-/
import PageScript.Proofs.Statement.Captured

namespace PageScript

-- ======== accesses

/-- What can be asked of a source. -/
inductive Access where
  | next
  | peek
  | capture (opening : Token) (rebase : Bool)

namespace Access

/-- Whether an access only looks ahead. -/
def isPeek : Access → Bool
  | .peek => true
  | _ => false

/-- Whether an access captures a block. -/
def isCapture : Access → Bool
  | .capture .. => true
  | _ => false

/-- What is answered to an access. -/
inductive Answer where
  | token (t : Token)
  | block (result : Except Failure Block)

end Access

namespace Cursor

/-- The answer to an access, and the cursor after it. -/
def access (c : Cursor) : Access → Access.Answer × Cursor
  | .next => (.token c.next.1, c.next.2)
  | .peek => (.token c.peek.1, c.peek.2)
  | .capture opening rebase =>
    (.block (c.capture opening rebase).1, (c.capture opening rebase).2)

/-- The cursor after some accesses. -/
def accessed (c : Cursor) : List Access → Cursor
  | [] => c
  | x :: xs => accessed (c.access x).2 xs

/-- Some accesses, each with its answer. -/
def transcript (c : Cursor) : List Access → List (Access × Access.Answer)
  | [] => []
  | x :: xs => (x, (c.access x).1) :: transcript (c.access x).2 xs

theorem transcript_append (c : Cursor) (xs ys : List Access) :
    c.transcript (xs ++ ys) = c.transcript xs ++ (c.accessed xs).transcript ys := by
  induction xs generalizing c with
  | nil => rfl
  | cons x xs ih => exact congrArg (_ :: ·) (ih _)

/-- The arena grows with captures only. -/
theorem arena_accessed (c : Cursor) {xs : List Access} (h : ∀ x ∈ xs, x.isCapture = false) :
    (c.accessed xs).arena = c.arena := by
  induction xs generalizing c with
  | nil => rfl
  | cons x xs ih =>
    obtain ⟨hx, hxs⟩ := List.forall_mem_cons.1 h
    refine (ih _ hxs).trans ?_
    cases x with
    | next => rfl
    | peek => rfl
    | capture opening rebase => cases hx

-- ======== level cursors

/-- Two cursors from which the same is read and captured. -/
structure Level (c d : Cursor) : Prop where
  next : d.next = c.next
  capture : ∀ opening rebase, d.capture opening rebase = c.capture opening rebase
  arena : d.arena = c.arena

namespace Level

theorem refl (c : Cursor) : Level c c :=
  ⟨rfl, fun _ _ => rfl, rfl⟩

theorem trans {c d e : Cursor} (h : Level c d) (h' : Level d e) : Level c e :=
  ⟨h'.next.trans h.next, fun o r => (h'.capture o r).trans (h.capture o r), h'.arena.trans h.arena⟩

/-- An access other than a look ahead makes level cursors the same. -/
theorem access_eq {c d : Cursor} (h : Level c d) {x : Access} (hx : x.isPeek = false) :
    d.access x = c.access x := by
  cases x with
  | next => rw [access, access, h.next]
  | peek => cases hx
  | capture opening rebase => rw [access, access, h.capture]

end Level

/-- Looking ahead tells what would be read, and leads to a level cursor. -/
theorem peek_level (c : Cursor) : c.peek.1 = c.next.1 ∧ Level c c.peek.2 := by
  rcases c with ⟨s | r, a⟩
  · refine ⟨rfl, ?_, fun opening rebase => ?_, rfl⟩
    · show (s.peek.2.next.1, Cursor.mk (.text s.peek.2.next.2) a) = _
      rw [s.next_peek]
      rfl
    · show capture ⟨.text s.peek.2, a⟩ opening rebase = _
      rw [capture_text, capture_text, Scanner.capture_eq, Scanner.capture_eq s, s.next_peek]
  · exact ⟨rfl, .refl _⟩

/-- Between level cursors the looks ahead make no difference. The induction is on the accesses: a look
ahead leads to another level cursor, and any other access to the same one. -/
theorem Level.transcript_eq {c d : Cursor} (h : Level c d) (xs : List Access) :
    (d.transcript xs).filter (!·.1.isPeek) = c.transcript (xs.filter (!·.isPeek)) ∧
      (d.accessed xs).arena = (c.accessed (xs.filter (!·.isPeek))).arena := by
  induction xs generalizing c d with
  | nil => exact ⟨rfl, h.arena⟩
  | cons x xs ih =>
    cases hx : x.isPeek with
    | true =>
      have hpeek : Level c (d.access x).2 := by
        cases x with
        | peek => exact h.trans d.peek_level.2
        | _ => cases hx
      rw [List.filter_cons_of_neg (by simp [hx]), transcript, List.filter_cons_of_neg (by simp [hx])]
      exact ih hpeek
    | false =>
      obtain ⟨hrest, harena⟩ := ih (.refl (c.access x).2)
      rw [List.filter_cons_of_pos (by simp [hx]), transcript, List.filter_cons_of_pos (by simp [hx]),
        h.access_eq hx, hrest, accessed, h.access_eq hx, harena]
      exact ⟨rfl, rfl⟩

end Cursor

-- ======== tokens of a text

/-- The token at a place of a text, counted from zero. Behind the end token it comes again and again, on
the same line and with nothing in front. -/
def tokenAt (lexicon : Lexicon) (text : String) (k : Nat) : Token :=
  let tokens := tokenize lexicon text
  tokens.getD k (.finish (tokens.getLastD (.finish 1)).line)

namespace Source

theorem token_after (a : Arena) (s : Source) (m n : Nat) :
    (s.after a m).token a n = s.token a (m + n) := by
  induction m generalizing s with
  | zero => rw [Nat.zero_add]; rfl
  | succ m ih => rw [Nat.succ_add]; exact ih _

theorem token_peek (a : Arena) (s : Scanner) (n : Nat) :
    (Source.text s.peek.2).token a n = (Source.text s).token a n := by
  cases n with
  | zero =>
    show s.peek.2.next.1 = s.next.1
    rw [s.next_peek]
  | succ n =>
    show (Source.text s.peek.2.next.2).token a n = (Source.text s.next.2).token a n
    rw [s.next_peek]

end Source

namespace Scanner

/-- Read on and on, a scanner delivers its tokens, and then the end token again and again. -/
theorem token_eq {s : Scanner} (hs : s.Sound) (a : Arena) (n : Nat) :
    (Source.text s).token a n = s.drain.getD n (.finish s.endLine) := by
  induction n generalizing s with
  | zero =>
    rw [drain_eq]
    split <;> rfl
  | succ n ih =>
    refine (ih s.sound_next).trans ?_
    rw [endLine_next hs, drain_eq s]
    split
    · next hfinish =>
      have hagain := next_next_of_finish hs hfinish
      rw [drain_eq, if_pos (by rw [hagain]; rfl), hagain, endLine_of_finish hfinish]
      cases n <;> rfl
    · rfl

/-- A captured block takes the tokens that it copies, and the one that ends it. -/
theorem capture_after (s : Scanner) (a b : Arena) (base : Option Nat) (depth : Nat) :
    ∃ n, (s.capture a base depth).2.2.size = a.size + n ∧
      Source.text (s.capture a base depth).2.1 = (Source.text s).after b (n + 1) := by
  induction hsize : s.size using Nat.strongRecOn generalizing s a depth with
  | ind n ih =>
    subst hsize
    rw [capture_eq]
    split
    · exact ⟨0, rfl, rfl⟩
    · next hmore =>
      cases blockDepth? depth s.next.1 with
      | none => exact ⟨0, rfl, rfl⟩
      | some depth =>
        obtain ⟨n, hgrown, hafter⟩ := ih _ (s.size_next_lt (by simpa using hmore)) s.next.2
          (a.push (kept s.next.1 base)) depth rfl
        refine ⟨n + 1, hgrown.trans ?_, hafter⟩
        simp [Arena.push, Arena.size]
        omega

end Scanner

/-- Where a text is at after some accesses: each of them but the looks ahead has taken a token, and what
was copied into the arena has been taken too. -/
theorem Cursor.next_accessed (s : Scanner) (a b : Arena) (xs : List Access) :
    ∃ k, a.size + k = xs.countP (!·.isPeek) + (Cursor.accessed ⟨.text s, a⟩ xs).arena.size ∧
      (Cursor.accessed ⟨.text s, a⟩ xs).next.1 = (Source.text s).token b k := by
  induction xs generalizing s a with
  | nil => exact ⟨0, by simp [accessed], rfl⟩
  | cons x xs ih =>
    cases x with
    | next =>
      obtain ⟨k, hk, hnext⟩ := ih s.next.2 a
      refine ⟨k + 1, ?_, hnext⟩
      rw [List.countP_cons_of_pos rfl, Nat.add_right_comm]
      exact congrArg (· + 1) hk
    | peek =>
      obtain ⟨k, hk, hnext⟩ := ih s.peek.2 a
      refine ⟨k, ?_, hnext.trans (Source.token_peek b s k)⟩
      rw [List.countP_cons_of_neg (by simp [Access.isPeek])]
      exact hk
    | capture opening rebase =>
      obtain ⟨n, hgrown, hafter⟩ :=
        s.capture_after a b (if rebase then some opening.line else none) 1
      have hcursor : (access ⟨.text s, a⟩ (.capture opening rebase)).2 =
          ⟨.text (s.capture a (if rebase then some opening.line else none) 1).2.1,
            (s.capture a (if rebase then some opening.line else none) 1).2.2⟩ := by
        rw [access, capture_text]
      rw [accessed, hcursor, List.countP_cons_of_pos rfl]
      generalize s.capture a (if rebase then some opening.line else none) 1 = block at hgrown hafter
      obtain ⟨k, hk, hnext⟩ := ih block.2.1 block.2.2
      refine ⟨n + 1 + k, by omega, ?_⟩
      rw [hnext, hafter, Source.token_after]

/-- Looking ahead is transparent, for every source and every sequence of accesses. Without the looks ahead
the others are answered the same and the arena is the same; a look ahead is answered as reading would be
in its place. What is read from a text is its token at the place `k`, where `k` tokens have been taken
before: one by each access that is no look ahead, and those copied into the arena. So where no
blocks are captured, the tokens are read one after the other, and then the end token for ever. -/
theorem lookahead_transparent :
    (∀ (c : Cursor) (xs : List Access),
      (c.transcript xs).filter (!·.1.isPeek) = c.transcript (xs.filter (!·.isPeek)) ∧
        (c.accessed xs).arena = (c.accessed (xs.filter (!·.isPeek))).arena) ∧
    (∀ (c : Cursor) (before after instead : List Access), ∃ answer rest rest',
      c.transcript (before ++ .peek :: after) = c.transcript before ++ (.peek, answer) :: rest ∧
        c.transcript (before ++ .next :: instead) = c.transcript before ++ (.next, answer) :: rest') ∧
    ∀ (lexicon : Lexicon) (text : String) (arena : Arena) (before after : List Access),
      let c : Cursor := ⟨.ofText lexicon text, arena⟩
      ∃ k rest, arena.size + k = before.countP (!·.isPeek) + (c.accessed before).arena.size ∧
        ((∀ x ∈ before, x.isCapture = false) → k = before.countP (!·.isPeek)) ∧
        c.transcript (before ++ .next :: after) =
          c.transcript before ++ (.next, .token (tokenAt lexicon text k)) :: rest := by
  refine ⟨fun c xs => (Cursor.Level.refl c).transcript_eq xs, fun c before after instead => ?_,
    fun lexicon text arena before after => ?_⟩
  · have hanswer : ((c.accessed before).access .peek).1 = ((c.accessed before).access .next).1 :=
      congrArg Access.Answer.token (Cursor.peek_level _).1
    refine ⟨_, _, ((c.accessed before).access .next).2.transcript instead,
      c.transcript_append before (.peek :: after), ?_⟩
    rw [hanswer]
    exact c.transcript_append before (.next :: instead)
  · intro c
    obtain ⟨k, hk, hnext⟩ := Cursor.next_accessed (.ofText lexicon text) arena arena before
    have htoken : (Source.ofText lexicon text).token arena k = tokenAt lexicon text k :=
      Scanner.token_eq (s := .ofText lexicon text) (by rintro t ⟨⟩) arena k
    refine ⟨k, ((c.accessed before).access .next).2.transcript after, hk, fun hnone => ?_, ?_⟩
    · rw [show (Cursor.accessed ⟨.text _, arena⟩ before).arena = arena from c.arena_accessed hnone] at hk
      omega
    · rw [← htoken]
      exact (c.transcript_append before (.next :: after)).trans (by rw [Source.ofText, ← hnext]; rfl)

end PageScript
