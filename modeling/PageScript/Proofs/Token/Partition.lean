/-
The parts of a text.

A text is cut into references and the plain text between them. Nothing is lost or comes twice, no plain part
could be left out or joined with another, each reference is written in one of the three ways, and no dollar
sign in plain text starts a reference. These conditions leave no choice: there is one list of parts that
meets them, and it is the one that `pieces` gives.
-/
import PageScript.Proofs.Token.Substitution

namespace PageScript

-- ======== where references start

/-- What stands in front of the next closing bracket is a name. -/
def NameUpToBracket (cs : List Char) : Prop :=
  ∃ name rest, cs = name ++ ')' :: rest ∧ ')' ∉ name ∧ isName name = true

/-- Whether a dollar sign with this behind it, up to the end of the text, starts a reference. -/
def StartsReference : List Char → Prop
  | 'I' :: '(' :: inner => NameUpToBracket inner
  | '(' :: inner => NameUpToBracket inner
  | c :: _ => isNameChar c = true
  | [] => False

theorem isName_no_bracket {name : List Char} (h : isName name = true) : ')' ∉ name := by
  intro hmem
  cases (Reference.isName_iff.1 h).2 _ hmem

theorem bracketed?_isSome_iff (opening : List Char) (whole : Bool) (inner : List Char) :
    (Reference.bracketed? opening whole inner).isSome = true ↔ NameUpToBracket inner := by
  constructor
  · intro h
    obtain ⟨⟨r, rest⟩, hfound⟩ := Option.isSome_iff_exists.1 h
    obtain ⟨name, hname, rfl⟩ := Reference.bracketed?_eq_some hfound
    have hinner := Reference.bracketed?_source_append hfound
    refine ⟨name, rest, ?_, isName_no_bracket hname, hname⟩
    simpa using hinner.symm
  · rintro ⟨name, rest, rfl, -, hname⟩
    rw [Reference.bracketed?_of_isName hname]
    rfl

/-- A reference starts wherever one is written. -/
theorem startsReference_iff {cs : List Char} :
    StartsReference cs ↔
      ∃ (r : Reference) (rest : List Char), '$' :: cs = r.source ++ rest ∧ r.StandsBefore rest := by
  have hfound : StartsReference cs ↔ (Reference.afterDollar? cs).isSome = true := by
    unfold Reference.afterDollar?
    split
    · exact (bracketed?_isSome_iff ..).symm
    · exact (bracketed?_isSome_iff ..).symm
    · next hwhole hbracket =>
      cases cs with
      | nil => simp [StartsReference]
      | cons c cs =>
        have hstarts : StartsReference (c :: cs) = (isNameChar c = true) := by
          unfold StartsReference
          split
          all_goals simp_all
        rw [hstarts]
        cases hc : isNameChar c <;> simp [hc]
  rw [hfound, Option.isSome_iff_exists]
  simp only [Prod.exists, Reference.afterDollar?_eq_some_iff]

-- ======== parts

namespace Piece

/-- Whether a part fits in front of others. A reference is written so that it stands there. Plain text is
not empty, has no plain text behind it, and none of its dollar signs starts a reference. -/
def FitsBefore (rest : List Piece) : Piece → Prop
  | .ref r => r.StandsBefore (rest.flatMap chars)
  | .plain cs => cs ≠ [] ∧ (∀ ds more, rest ≠ .plain ds :: more) ∧
      ∀ before behind, cs = before ++ '$' :: behind → ¬StartsReference (behind ++ rest.flatMap chars)

/-- Each part fits where it stands. -/
def Fit : List Piece → Prop
  | [] => True
  | p :: ps => p.FitsBefore ps ∧ Fit ps

end Piece

/-- The parts of a text spell it, and each fits where it stands. -/
structure Partition (cs : List Char) (ps : List Piece) : Prop where
  chars_eq : ps.flatMap Piece.chars = cs
  fit : Piece.Fit ps

/-- A character in front is plain if it starts no reference there. -/
theorem Piece.fit_consPlain {c : Char} {ps : List Piece} (h : Fit ps)
    (hc : c = '$' → ¬StartsReference (ps.flatMap chars)) : Fit (consPlain c ps) := by
  have halone : ∀ before behind, [c] = before ++ '$' :: behind →
      ¬StartsReference (behind ++ ps.flatMap chars) := by
    intro before behind hsplit
    rcases before with _ | ⟨_, _⟩
    · cases hsplit
      exact hc rfl
    · simp at hsplit
  rcases ps with _ | ⟨ds | r, ps⟩
  · exact ⟨⟨by simp, by simp, halone⟩, h⟩
  · obtain ⟨⟨-, hapart, hdollars⟩, hps⟩ := h
    refine ⟨⟨by simp, hapart, fun before behind hsplit => ?_⟩, hps⟩
    rcases before with _ | ⟨_, before⟩
    · cases hsplit
      exact hc rfl
    · exact hdollars before behind (List.cons.inj hsplit).2
  · exact ⟨⟨by simp, by simp, halone⟩, h⟩

theorem Reads.fit {cs : List Char} {ps : List Piece} (h : Reads cs ps) : Piece.Fit ps := by
  induction h with
  | nil => trivial
  | ref hr hrest ih =>
    refine ⟨?_, ih⟩
    rw [Piece.FitsBefore, hrest.chars_eq]
    exact hr
  | plain hnone hrest ih =>
    refine Piece.fit_consPlain ih fun hc hstarts => ?_
    rw [hrest.chars_eq] at hstarts
    obtain ⟨r, rest, hcs, hr⟩ := startsReference_iff.1 hstarts
    exact hnone r rest (hc ▸ hcs) hr

/-- Plain text that fits is read as it is. The induction is on its characters, each of which goes in front
of what is read behind it. -/
theorem reads_plain {cs : List Char} {ps : List Piece} (h : Reads (ps.flatMap Piece.chars) ps)
    (hfits : Piece.FitsBefore ps (.plain cs)) :
    Reads (cs ++ ps.flatMap Piece.chars) (.plain cs :: ps) := by
  obtain ⟨hne, hapart, hdollars⟩ := hfits
  induction cs with
  | nil => exact absurd rfl hne
  | cons c cs ih =>
    have hnone : ∀ (r : Reference) rest, c :: (cs ++ ps.flatMap Piece.chars) = r.source ++ rest →
        ¬r.StandsBefore rest := by
      intro r rest hcs hr
      obtain ⟨more, hsource⟩ := hr.source_eq
      have hc : c = '$' := by
        rw [hsource] at hcs
        exact (List.cons.inj hcs).1
      subst hc
      exact hdollars [] cs rfl (startsReference_iff.2 ⟨r, rest, hcs, hr⟩)
    cases cs with
    | nil =>
      have hcons : Piece.consPlain c ps = .plain [c] :: ps := by
        rcases ps with _ | ⟨ds | r, ps⟩
        · rfl
        · exact absurd rfl (hapart ds ps)
        · rfl
      exact hcons ▸ .plain hnone h
    | cons d cs =>
      have hrest := ih (by simp) fun before behind hsplit =>
        hdollars (c :: before) behind (congrArg (c :: ·) hsplit)
      exact .plain hnone hrest

theorem Piece.Fit.reads {ps : List Piece} (h : Fit ps) : Reads (ps.flatMap chars) ps := by
  induction ps with
  | nil => exact .nil
  | cons p ps ih =>
    obtain ⟨hp, hps⟩ := h
    cases p with
    | plain cs => exact reads_plain (ih hps) hp
    | ref r => exact .ref hp (ih hps)

/-- Cutting a text into references and plain text is lossless and complete. The parts spell the text; plain
parts are not empty and never next to each other; each reference is written in one of the three ways,
the last of which is that of whole numbers, and a bare name goes on as long as it can; and no dollar
sign in plain text starts a reference, whatever the whole rest of the text holds. No other parts of the
text have all these properties. -/
theorem splitting_lossless_complete (cs : List Char) (ps : List Piece) :
    Partition cs ps ↔ ps = pieces cs := by
  constructor
  · rintro ⟨rfl, hfit⟩
    exact reads_iff.1 hfit.reads
  · intro h
    have hreads : Reads cs ps := reads_iff.2 h
    exact ⟨hreads.chars_eq, hreads.fit⟩

end PageScript
