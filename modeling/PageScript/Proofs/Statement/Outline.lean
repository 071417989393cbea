/-
Outlines read from related cursors.

Where statement after statement is read from two cursors in a simulation, the same is read at every
place, up to the blocks that statements hold. The aliases that are defined on the way may have
different bodies; all that counts for reading are their parameters.
-/
import Mathlib.Data.List.Forall2
import PageScript.Proofs.Statement.Simulation
import PageScript.Statement.Outline

namespace PageScript

-- ======== aliases

namespace AliasTable

theorem get?_define (t : AliasTable) (a : Alias) (name : String) :
    (t.define a).get? name = if a.name = name then some a else t.get? name := by
  rw [get?, define, List.find?_cons]
  by_cases hname : a.name = name
  · simp [hname]
  · simp only [hname, decide_false, if_false]
    rw [List.find?_filter, get?]
    congr 1
    funext b
    by_cases hb : b.name = name
    · simp [hb, Ne.symm hname]
    · simp [hb]

theorem params?_define (t : AliasTable) (a : Alias) (name : String) :
    (t.define a).params? name = if a.name = name then some a.params else t.params? name := by
  rw [params?, params?, get?_define]
  split <;> rfl

/-- The aliases behind a statement: a definition adds one. -/
def after (t : AliasTable) : Statement → AliasTable
  | .defineAlias a => t.define a
  | _ => t

theorem after_eq (t : AliasTable) {st : Statement} (h : st.holdsBlock = false) : t.after st = t := by
  cases st with
  | defineAlias a => cases h
  | _ => rfl

/-- Behind the same statements, the same aliases have the same parameters. -/
theorem params?_after {t t' : AliasTable} {V : Block → Block → Prop} {st st' : Statement}
    (h : ∀ name, t'.params? name = t.params? name) (hst : Statement.Matches V st st') (name : String) :
    (t'.after st').params? name = (t.after st).params? name := by
  cases hst with
  | same hblock => rw [after_eq t hblock, after_eq t' hblock, h]
  | definition => rw [after, after, params?_define, params?_define, h]
  | loop => exact h name

end AliasTable

-- ======== entries

theorem Statement.Matches.mono {V W : Block → Block → Prop} {st st' : Statement}
    (h : Matches V st st') (hVW : ∀ {x y}, V x y → W x y) : Matches W st st' := by
  cases h with
  | same hblock => exact .same hblock
  | definition hxy => exact .definition (hVW hxy)
  | loop hxy => exact .loop (hVW hxy)

/-- The same entry of an outline, except for the blocks that a statement holds. Failures may be related
in another way, and where the end is does not count. -/
inductive OutlineEntry.Matches (F : Failure → Failure → Prop) (V : Block → Block → Prop) :
    OutlineEntry → OutlineEntry → Prop
  | parsed {line : Nat} {st st' : Statement} :
      Statement.Matches V st st' → Matches F V (.parsed line st) (.parsed line st')
  | faulty {f g : Failure} : F f g → Matches F V (.faulty f) (.faulty g)
  | finished (line line' : Nat) : Matches F V (.finished line) (.finished line')

namespace Outline

variable {resume : Bool}

theorem read_succ (fuel : Nat) (c : Cursor) (aliases : AliasTable) :
    read resume (fuel + 1) c aliases =
      if c.next.1.isFinish then ⟨[.finished c.next.1.line], c.next.2.arena, aliases⟩
      else
        match Parser.statement aliases c.next.1 c.next.2 with
        | (.ok st, c') =>
          (read resume fuel c' (aliases.after st)).cons (.parsed c.next.1.line st)
        | (.error f, c') =>
          if resume then (read resume fuel c' aliases).cons (.faulty f)
          else ⟨[.faulty f], c'.arena, aliases⟩ := by
  rfl

/-- Reading an outline only adds to the arena. -/
theorem read_extends (fuel : Nat) (c : Cursor) (aliases : AliasTable) :
    c.arena.Extends (read resume fuel c aliases).arena := by
  induction fuel generalizing c aliases with
  | zero => exact .refl _
  | succ fuel ih =>
    have hnext : c.next.2.arena = c.arena := (Parser.Steady.next.at c).arena
    have hread := (Parser.statement_extends aliases c.next.1 c.next.2).1
    rw [hnext] at hread
    rw [read_succ]
    split
    · rw [hnext]
      exact .refl _
    · split
      · next hst =>
        rw [hst] at hread
        exact hread.trans (ih ..)
      · next hst =>
        rw [hst] at hread
        split
        · exact hread.trans (ih ..)
        · exact hread

end Outline

/-- Reading a statement never takes the end away. -/
theorem Parser.size_statement_le {aliases : AliasTable} {first : Token} {c c' : Cursor}
    {r : Except Failure Statement} (h : statement aliases first c = (r, c')) : c'.size ≤ c.size :=
  (statement_keeps (P := fun c' => c'.size ≤ c.size) (fun hc => Nat.le_trans (Cursor.size_next_le _) hc)
    (fun hc => Nat.le_trans (Cursor.size_peek_le _) hc)
    (fun _ _ hc => Nat.le_trans (Cursor.size_capture_le ..) hc) (Nat.le_refl _) h).1

/-- From related cursors, the same outline is read. The induction is on the statements that are read
from the first cursor, each of which brings both cursors nearer to the end. -/
theorem Outline.read_matches {R : Cursor → Cursor → Prop} {F : Failure → Failure → Prop}
    {V : Arena → Arena → Block → Block → Prop}
    (hR : Simulation R F fun c d => V c.arena d.arena)
    (hV : ∀ {a a' b b' x y}, a.Extends a' → b.Extends b' → V a b x y → V a' b' x y)
    {resume : Bool} {fuel fuel' : Nat} {c d : Cursor} {aliases aliases' : AliasTable} (h : R c d)
    (hc : c.size < fuel) (hd : d.size < fuel')
    (haliases : ∀ name, aliases'.params? name = aliases.params? name) :
    List.Forall₂ (OutlineEntry.Matches F
        (V (read resume fuel c aliases).arena (read resume fuel' d aliases').arena))
      (read resume fuel c aliases).entries (read resume fuel' d aliases').entries := by
  induction fuel generalizing fuel' c d aliases aliases' with
  | zero => omega
  | succ fuel ih =>
    cases fuel' with
    | zero => omega
    | succ fuel' =>
      obtain ⟨hfirst, hnext⟩ := hR.next h
      rw [read_succ, read_succ]
      have hfinish' := hfirst.isFinish_eq
      cases hfinish : c.next.1.isFinish with
      | true =>
        rw [hfinish] at hfinish'
        simp only [hfinish', if_true]
        exact .cons (.finished ..) .nil
      | false =>
        have hsame := hfirst.eq_of_more hfinish
        have hlt := c.size_next_lt hfinish
        have hlt' := d.size_next_lt (hsame ▸ hfinish)
        have hagree := Parser.statement_agree hR aliases c.next.1 hnext
        rw [hsame, Parser.statement_congr (haliases c.next.1.text)]
        simp only [hfinish, Bool.false_eq_true, if_false]
        generalize hst : Parser.statement aliases c.next.1 c.next.2 = x at hagree
        generalize hst' : Parser.statement aliases c.next.1 d.next.2 = y at hagree
        cases hagree with
        | @ok st st' c' d' hmatch hR' =>
          have hle := Parser.size_statement_le hst
          have hle' := Parser.size_statement_le hst'
          refine .cons (.parsed (hmatch.mono (hV (read_extends ..) (read_extends ..)))) ?_
          exact ih hR' (by omega) (by omega) (AliasTable.params?_after haliases hmatch)
        | @error f g c' d' hF hR' =>
          have hle := Parser.size_statement_le hst
          have hle' := Parser.size_statement_le hst'
          cases resume with
          | true => exact .cons (.faulty hF) (ih hR' (by omega) (by omega) haliases)
          | false => exact .cons (.faulty hF) .nil

end PageScript
