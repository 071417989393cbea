/-
Putting arguments in is one pass over the text.

Which references a text holds is a matter of how it is written, and `Reads` says so without a scan: from
left to right, a reference stands wherever one of the three ways to write it fits, and every other
character stands for itself. A bare name goes on as long as it can, and the letter of a whole number in
front of a bracket is no name. Each text is read in exactly one way, which is that of `pieces`.

What becomes of a token is then said in terms of what it reads as before anything is put in. No argument
has a part in this, so that nothing that is put in can be read as a reference, or complete one.
-/
import Mathlib.Data.List.Basic
import Mathlib.Data.List.TakeWhile
import PageScript.Proofs.Token.WellFormed
import PageScript.Proofs.Truncation

namespace PageScript

-- ======== references

namespace Reference

/-- A reference is written so that it stands as it is in front of `rest`: with a bare name, which must not
go on there nor open a bracket for a whole number, or with a name between brackets. -/
inductive StandsBefore (rest : List Char) : Reference → Prop
  | bare {name : List Char} : isName name = true →
      (∀ c more, rest = c :: more → isNameChar c = false) →
      ¬(name = ['I'] ∧ ∃ more, rest = '(' :: more) →
      StandsBefore rest ⟨String.ofList name, false, '$' :: name⟩
  | bracketed {name : List Char} : isName name = true →
      StandsBefore rest ⟨String.ofList name, false, ['$', '('] ++ name ++ [')']⟩
  | whole {name : List Char} : isName name = true →
      StandsBefore rest ⟨String.ofList name, true, ['$', 'I', '('] ++ name ++ [')']⟩

theorem isName_iff {name : List Char} :
    isName name = true ↔ name ≠ [] ∧ ∀ c ∈ name, isNameChar c = true := by
  simp [isName, List.all_eq_true]

/-- Between brackets, a name is read up to the closing one. -/
theorem bracketed?_of_isName {name : List Char} (h : isName name = true) (opening : List Char)
    (whole : Bool) (rest : List Char) :
    bracketed? opening whole (name ++ ')' :: rest) =
      some (⟨String.ofList name, whole, opening ++ name ++ [')']⟩, rest) := by
  have hinside : ∀ c ∈ name, (c != ')') = true := by
    intro c hc
    have hname := (isName_iff.1 h).2 c hc
    simp only [bne_iff_ne]
    rintro rfl
    cases hname
  have htake : (name ++ ')' :: rest).takeWhile (· != ')') = name := by
    rw [List.takeWhile_append_of_pos hinside]
    simp
  have hdrop : (name ++ ')' :: rest).dropWhile (· != ')') = ')' :: rest := by
    rw [List.dropWhile_append_of_pos hinside]
    simp
  simp [bracketed?, htake, hdrop, h]

theorem bracketed?_eq_some {opening inner rest : List Char} {whole : Bool} {r : Reference}
    (h : bracketed? opening whole inner = some (r, rest)) :
    ∃ name, isName name = true ∧ r = ⟨String.ofList name, whole, opening ++ name ++ [')']⟩ := by
  unfold bracketed? at h
  dsimp only at h
  split at h
  · cases h
  · next close after hdrop =>
    have hclose := List.head_dropWhile_not (p := (· != ')')) (l := inner) (by simp [hdrop])
    simp only [hdrop, List.head_cons, bne_eq_false_iff_eq] at hclose
    split at h
    · next hname =>
      cases h
      exact ⟨_, hname, by rw [hclose]⟩
    · cases h

/-- A reference is found behind a dollar sign exactly where one is written. -/
theorem afterDollar?_eq_some_iff {cs rest : List Char} {r : Reference} :
    afterDollar? cs = some (r, rest) ↔ '$' :: cs = r.source ++ rest ∧ StandsBefore rest r := by
  constructor
  · intro h
    refine ⟨(afterDollar?_source_append h).symm, ?_⟩
    unfold afterDollar? at h
    split at h
    · obtain ⟨name, hname, rfl⟩ := bracketed?_eq_some h
      exact .whole hname
    · obtain ⟨name, hname, rfl⟩ := bracketed?_eq_some h
      exact .bracketed hname
    · next hwhole hbracket =>
      dsimp only at h
      split at h
      · cases h
      · next hne =>
        cases h
        refine .bare (isName_iff.2 ⟨by simpa using hne, fun c hc => ?_⟩) ?_ ?_
        · exact List.mem_takeWhile_imp hc
        · intro c more hrest
          have hhead := List.head_dropWhile_not (p := isNameChar) (l := cs) (by simp [hrest])
          simpa [hrest] using hhead
        · rintro ⟨hname, more, hrest⟩
          have hcs := List.takeWhile_append_dropWhile (p := isNameChar) (l := cs)
          rw [hname, hrest] at hcs
          exact hwhole more hcs.symm
  · rintro ⟨hcs, hr⟩
    cases hr with
    | whole hname =>
      simp only [List.cons_append, List.nil_append, List.append_assoc, List.cons.injEq] at hcs
      rw [hcs.2]
      exact bracketed?_of_isName hname ..
    | bracketed hname =>
      simp only [List.cons_append, List.nil_append, List.append_assoc, List.cons.injEq] at hcs
      rw [hcs.2]
      exact bracketed?_of_isName hname ..
    | @bare name hname hrest hwhole =>
      simp only [List.cons_append, List.cons.injEq] at hcs
      obtain ⟨-, rfl⟩ := hcs
      obtain ⟨hne, hchars⟩ := isName_iff.1 hname
      have htake : (name ++ rest).takeWhile isNameChar = name := by
        rw [List.takeWhile_append_of_pos hchars]
        cases rest with
        | nil => simp
        | cons c more => simp [hrest c more rfl]
      have hdrop : (name ++ rest).dropWhile isNameChar = rest := by
        rw [List.dropWhile_append_of_pos hchars]
        cases rest with
        | nil => simp
        | cons c more => simp [hrest c more rfl]
      have hopening : '(' ∉ name := fun hmem => by cases hchars _ hmem
      unfold afterDollar?
      split
      · -- a name that starts like the opening of a whole number is the letter alone, or goes on
        next inner hcs =>
        rcases name with _ | ⟨c, _ | ⟨d, more⟩⟩
        · exact absurd rfl hne
        · cases hcs
          exact absurd ⟨rfl, inner, rfl⟩ hwhole
        · cases hcs
          exact absurd (by simp) hopening
      · next inner _ hcs =>
        rcases name with _ | ⟨c, more⟩
        · exact absurd rfl hne
        · cases hcs
          exact absurd (by simp) hopening
      · simp [htake, hdrop, hne]

/-- What a reference to an argument stands for: the argument; or, where it asks for a whole number and the
argument has a value, the number that this is cut down to, as a token of its own. The value is the number
of the argument, or else the one that its text writes, blanks around it left out. -/
def meaning (r : Reference) (argument : Token) : Token :=
  match r.whole, argument.number.or (Number.parse? (Text.trim argument.text)) with
  | true, some value =>
    let written := Number.text (Number.truncate value)
    { kind := .number, text := written, number := some (Number.truncate value),
      line := argument.line, quote := none, leading := "", raw := written }
  | _, _ => argument

theorem meaning_of_whole {r : Reference} (h : r.whole = true) (argument : Token) :
    r.meaning argument = (argument.numericValue?.map fun value =>
      Token.ofNumber (Number.truncate value) argument.line).getD argument := by
  have hvalue : argument.number.or (Number.parse? (Text.trim argument.text)) =
      argument.numericValue? := by
    rw [Token.numericValue?]
    generalize Number.parse? (Text.trim argument.text) = parsed
    cases argument.number <;> rfl
  rw [meaning, h, hvalue]
  cases argument.numericValue? <;> rfl

theorem meaning_of_not_whole {r : Reference} (h : r.whole = false) (argument : Token) :
    r.meaning argument = argument := by
  rw [meaning, h]

theorem standIn_eq (r : Reference) (argument place : Token) :
    argument.standIn r.whole place = (r.meaning argument).movedTo place := by
  rw [Token.standIn]
  cases h : r.whole with
  | false => rw [meaning_of_not_whole h]; rfl
  | true => rw [meaning_of_whole h]; cases argument.numericValue? <;> rfl

theorem inlineText_eq (r : Reference) (argument : Token) :
    argument.inlineText r.whole = (r.meaning argument).text := by
  rw [Token.inlineText]
  cases h : r.whole with
  | false => rw [meaning_of_not_whole h]; rfl
  | true => rw [meaning_of_whole h]; cases argument.numericValue? <;> rfl

end Reference

-- ======== readings

/-- How a text is read: wherever a reference is written it stands for itself, and so does any other
character. -/
inductive Reads : List Char → List Piece → Prop
  | nil : Reads [] []
  | ref {r : Reference} {rest : List Char} {ps : List Piece} :
      r.StandsBefore rest → Reads rest ps → Reads (r.source ++ rest) (.ref r :: ps)
  | plain {c : Char} {cs : List Char} {ps : List Piece} :
      (∀ (r : Reference) rest, c :: cs = r.source ++ rest → ¬r.StandsBefore rest) → Reads cs ps →
      Reads (c :: cs) (Piece.consPlain c ps)

theorem Reference.StandsBefore.source_eq {r : Reference} {rest : List Char} (h : r.StandsBefore rest) :
    ∃ more, r.source = '$' :: more := by
  cases h <;> exact ⟨_, rfl⟩

theorem pieces_of_ref {r : Reference} {rest : List Char} (h : r.StandsBefore rest) :
    pieces (r.source ++ rest) = .ref r :: pieces rest := by
  obtain ⟨more, hsource⟩ := h.source_eq
  have hfound : Reference.afterDollar? (more ++ rest) = some (r, rest) :=
    Reference.afterDollar?_eq_some_iff.2 ⟨by rw [hsource]; rfl, h⟩
  rw [hsource, List.cons_append, pieces, if_pos rfl]
  split
  · next hsome =>
    cases hfound.symm.trans hsome
    rfl
  · next hnone => cases hfound.symm.trans hnone

theorem pieces_of_plain {c : Char} {cs : List Char}
    (h : ∀ (r : Reference) rest, c :: cs = r.source ++ rest → ¬r.StandsBefore rest) :
    pieces (c :: cs) = Piece.consPlain c (pieces cs) := by
  rw [pieces]
  split
  · next hc =>
    subst hc
    split
    · next r rest hsome =>
      obtain ⟨hcs, hr⟩ := Reference.afterDollar?_eq_some_iff.1 hsome
      exact absurd hr (h r rest hcs)
    · rfl
  · rfl

/-- A text is read in exactly one way. -/
theorem reads_iff {cs : List Char} {ps : List Piece} : Reads cs ps ↔ ps = pieces cs := by
  constructor
  · intro h
    induction h with
    | nil => rw [pieces]
    | ref hr _ ih => rw [pieces_of_ref hr, ih]
    | plain hnone _ ih => rw [pieces_of_plain hnone, ih]
  · rintro rfl
    fun_induction pieces cs with
    | case1 => exact .nil
    | case2 cs r rest hsome ih =>
      obtain ⟨hcs, hr⟩ := Reference.afterDollar?_eq_some_iff.1 hsome
      rw [hcs]
      exact .ref hr ih
    | case3 cs hnone ih =>
      refine .plain (fun r rest hcs hr => ?_) ih
      cases hnone.symm.trans (Reference.afterDollar?_eq_some_iff.2 ⟨hcs, hr⟩)
    | case4 c cs hc ih =>
      refine .plain (fun r rest hcs hr => ?_) ih
      obtain ⟨more, hsource⟩ := hr.source_eq
      rw [hsource] at hcs
      exact hc (List.cons.inj hcs).1

-- An open bracket, a dollar sign without a name, and the letter of whole numbers as a name.
example : pieces "$I(x$$y-$(I)".toList =
    [.plain "$I(x$".toList, .ref ⟨"y", false, "$y".toList⟩, .plain "-".toList,
      .ref ⟨"I", false, "$(I)".toList⟩] := by decide +kernel

theorem Piece.flatMap_consPlain {β : Type} {f : Piece → List β} {g : Char → List β}
    (hf : ∀ cs, f (.plain cs) = cs.flatMap g) (c : Char) (ps : List Piece) :
    (consPlain c ps).flatMap f = g c ++ ps.flatMap f := by
  rcases ps with _ | ⟨_ | _, _⟩ <;> simp [consPlain, hf]

/-- Nothing of a text is lost when it is read. -/
theorem Reads.chars_eq {cs : List Char} {ps : List Piece} (h : Reads cs ps) :
    ps.flatMap Piece.chars = cs := by
  induction h with
  | nil => rfl
  | ref _ _ ih => rw [List.flatMap_cons, ih]; rfl
  | plain _ _ ih =>
    rw [Piece.flatMap_consPlain (g := fun c => [c]) (fun cs => by simp [Piece.chars]), ih]
    rfl

theorem Piece.ref_mem_consPlain {c : Char} {ps : List Piece} {r : Reference}
    (h : .ref r ∈ consPlain c ps) : .ref r ∈ ps := by
  rcases ps with _ | ⟨_ | _, _⟩
  · cases List.mem_singleton.1 h
  · simpa [consPlain] using h
  · simpa [consPlain] using h

/-- Without a dollar sign there is no reference. -/
theorem Reads.dollar_mem {cs : List Char} {ps : List Piece} (h : Reads cs ps) {r : Reference}
    (hr : .ref r ∈ ps) : '$' ∈ cs := by
  induction h with
  | nil => cases hr
  | ref hstands _ ih =>
    obtain ⟨more, hsource⟩ := hstands.source_eq
    simp [hsource]
  | plain _ _ ih => exact List.mem_cons_of_mem _ (ih (Piece.ref_mem_consPlain hr))

-- ======== substitution

/-- The characters of a part, with a bound reference replaced by the text of what it stands for. -/
def Piece.filled (b : Bindings) : Piece → List Char
  | .plain cs => cs
  | .ref r => ((b.get? r.name).map fun argument => (r.meaning argument).text.toList).getD r.source

namespace Token

variable {t : Token} {b : Bindings} {ps : List Piece}

theorem toList_pieceText (b : Bindings) (p : Piece) : (pieceText b p).toList = p.filled b := by
  cases p with
  | plain cs => exact String.toList_ofList
  | ref r =>
    rw [pieceText, Piece.filled]
    cases b.get? r.name with
    | none => exact String.toList_ofList
    | some argument => exact congrArg String.toList (r.inlineText_eq argument)

theorem join_pieceText (b : Bindings) (ps : List Piece) :
    String.join (ps.map (pieceText b)) = String.ofList (ps.flatMap (·.filled b)) := by
  rw [← String.toList_inj, String.toList_join, String.toList_ofList, List.flatMap_map]
  exact List.flatMap_congr fun p _ => toList_pieceText b p

/-- Where no reference is bound, filling in changes nothing. -/
theorem filled_of_unbound (h : Reads t.text.toList ps)
    (hunbound : ∀ r, .ref r ∈ ps → b.get? r.name = none) :
    String.ofList (ps.flatMap (·.filled b)) = t.text := by
  have hsame : ps.flatMap (·.filled b) = ps.flatMap Piece.chars := by
    refine List.flatMap_congr fun p hp => ?_
    cases p with
    | plain cs => rfl
    | ref r => rw [Piece.filled, hunbound r hp]; rfl
  rw [hsame, h.chars_eq, String.ofList_toList]

/-- Where a token is passed by without a look at its references, none of them is bound. -/
theorem unbound_of_passed (h : Reads t.text.toList ps) (hpassed : b.isEmpty ∨ '$' ∉ t.text.toList) :
    ∀ r, .ref r ∈ ps → b.get? r.name = none := by
  intro r hr
  rcases hpassed with hempty | hdollar
  · rw [Bindings.get?, List.isEmpty_iff.1 hempty]
    rfl
  · exact absurd (h.dollar_mem hr) hdollar

theorem substitute_of_kind (h : t.kind ≠ .word) : t.substitute b = t :=
  if_pos (.inl h)

/-- A word that is one bound reference becomes what the reference stands for. -/
theorem substitute_of_ref {r : Reference} {argument : Token} (hword : t.kind = .word)
    (h : Reads t.text.toList [.ref r]) (hbound : b.get? r.name = some argument) :
    t.substitute b = (r.meaning argument).movedTo t := by
  have hlooked : ¬(t.kind ≠ .word ∨ b.isEmpty ∨ '$' ∉ t.text.toList) := by
    rintro (hkind | hpassed)
    · exact hkind hword
    · cases hbound.symm.trans (unbound_of_passed h hpassed r List.mem_cons_self)
  rw [substitute, if_neg hlooked, ← reads_iff.1 h]
  dsimp only
  rw [hbound, ← r.standIn_eq]

/-- Any other word keeps everything but its text. -/
theorem substitute_of_text (hword : t.kind = .word) (h : Reads t.text.toList ps)
    (hpart : ∀ r, ps = [.ref r] → b.get? r.name = none) :
    t.substitute b = { t with text := String.ofList (ps.flatMap (·.filled b)) } := by
  rw [substitute]
  split
  · next hpassed =>
    rw [filled_of_unbound h (unbound_of_passed h (hpassed.resolve_left (absurd hword)))]
  · rw [← join_pieceText, ← reads_iff.1 h]
    dsimp only
    split
    · next r => rw [hpart r rfl]
    · rfl

theorem substitute_of_unbound (h : Reads t.text.toList ps)
    (hunbound : ∀ r, .ref r ∈ ps → b.get? r.name = none) : t.substitute b = t := by
  by_cases hword : t.kind = .word
  · rw [substitute_of_text hword h fun r hps => hunbound r (by simp [hps]),
      filled_of_unbound h hunbound]
  · exact substitute_of_kind hword

/-- The line, and the blanks in front, stay as they are. -/
theorem movedTo_substitute (t : Token) (b : Bindings) : (t.substitute b).movedTo t = t.substitute b := by
  obtain hsame | ⟨-, ⟨text, htext⟩ | ⟨name, argument, whole, -, hstand⟩⟩ := t.substitute_cases b
  · rw [hsame]
    rfl
  · rw [htext]
    rfl
  · have hmoved : argument.standIn whole t = _ := Reference.standIn_eq ⟨name, whole, []⟩ argument t
    rw [hstand, hmoved]
    rfl

/-- What becomes of a token depends on the arguments that its references name, and on no others. -/
theorem substitute_congr {b' : Bindings} (h : Reads t.text.toList ps)
    (hb : ∀ r, .ref r ∈ ps → b'.get? r.name = b.get? r.name) : t.substitute b' = t.substitute b := by
  by_cases hword : t.kind = .word
  · by_cases href : ∃ r argument, ps = [.ref r] ∧ b.get? r.name = some argument
    · obtain ⟨r, argument, rfl, hbound⟩ := href
      rw [substitute_of_ref hword h hbound,
        substitute_of_ref hword h ((hb r List.mem_cons_self).trans hbound)]
    · have hpart : ∀ r, ps = [.ref r] → b.get? r.name = none := fun r hps =>
        Option.eq_none_iff_forall_ne_some.2 fun argument hbound => href ⟨r, argument, hps, hbound⟩
      have hpart' : ∀ r, ps = [.ref r] → b'.get? r.name = none := fun r hps =>
        (hb r (by simp [hps])).trans (hpart r hps)
      have hfilled : ps.flatMap (·.filled b') = ps.flatMap (·.filled b) := by
        refine List.flatMap_congr fun p hp => ?_
        cases p with
        | plain cs => rfl
        | ref r => rw [Piece.filled, Piece.filled, hb r hp]
      rw [substitute_of_text hword h hpart, substitute_of_text hword h hpart', hfilled]
  · rw [substitute_of_kind hword, substitute_of_kind hword]

/-- Putting arguments in is a single pass in which all is done at once. The text of the token is read in
exactly one way, before anything is put in. A token that is no word stays as it is, and so does one in
which no reference is bound. A word that is nothing but a bound reference becomes what this stands for,
and takes its place. Of any other word only the text changes: what each bound reference stands for is
put in its place, and all else is kept as it is written. In every case the token stays on its line,
with the blanks in front of it, and nothing depends on an argument to which no reference is made. Where a
value is cut down for a reference to a whole number, its whole part is left. -/
theorem substitution_single_pass (t : Token) (b : Bindings) :
    ∃ ps, Reads t.text.toList ps ∧ (∀ ps', Reads t.text.toList ps' → ps' = ps) ∧
      (t.kind ≠ .word → t.substitute b = t) ∧
      ((∀ r, .ref r ∈ ps → b.get? r.name = none) → t.substitute b = t) ∧
      (t.kind = .word →
        (∀ r argument, ps = [.ref r] → b.get? r.name = some argument →
          t.substitute b = (r.meaning argument).movedTo t) ∧
        ((∀ r, ps = [.ref r] → b.get? r.name = none) →
          t.substitute b = { t with text := String.ofList (ps.flatMap (·.filled b)) })) ∧
      (t.substitute b).line = t.line ∧ (t.substitute b).leading = t.leading ∧
      (∀ b' : Bindings, (∀ r, .ref r ∈ ps → b'.get? r.name = b.get? r.name) →
        t.substitute b' = t.substitute b) ∧
      ∀ value, Number.CutTo (Number.decode value) (Number.decode (Number.truncate value)) := by
  have hreads : Reads t.text.toList (pieces t.text.toList) := reads_iff.2 rfl
  have hplace := t.movedTo_substitute b
  refine ⟨pieces t.text.toList, hreads, fun _ => reads_iff.1, substitute_of_kind,
    substitute_of_unbound hreads, fun hword => ⟨?_, ?_⟩, ?_, ?_, fun _ => substitute_congr hreads,
    Number.truncate_cutTo⟩
  · exact fun r argument hps => substitute_of_ref hword (hps ▸ hreads)
  · exact substitute_of_text hword hreads
  · exact (congrArg Token.line hplace).symm
  · exact (congrArg Token.leading hplace).symm

-- A text that writes a number becomes this number, cut down, and inside a word its digits.
example :
    let b : Bindings := ⟨[("x", .word " -12.7 " 1)]⟩
    let filled := fun text => (Token.word text 3).substitute b
    ((filled "$I(x)").kind, (filled "$I(x)").text, (filled "$I(x)").line, (filled "a$I(x)b$x").text) =
      (.number, "-12", 3, "a-12b -12.7 ") := by decide +kernel

end Token

end PageScript
