/-
The output of other programs.

What a program writes is read a stretch at a time, and each stretch is decoded by itself. Nothing is lost
by it: a byte below 0x80, and so a line feed, is a character wherever it stands, and leaves the decoder
between two characters. To decode all that was written and to cut it into lines comes to the same in
either order, whatever the bytes are.
-/
import Mathlib.Data.String.Basic
import Mathlib.Tactic.SplitIfs
import PageScript.Proofs.Run
import PageScript.Proofs.Text.Split
import PageScript.Machine.Execute

namespace PageScript

-- ======== decoding

namespace Text

namespace Utf8State

/-- Inside a character, the next byte is none below 0x80, and the character will not be one either. -/
def IsWide : Utf8State → Prop
  | .start => True
  | .inside owed value low _ =>
    0x80 ≤ low ∧ 2 ≤ value * 64 + (low - 0x80) ∧ (owed ≤ 1 → 2 ≤ value)

theorem start_isWide : IsWide .start := trivial

theorem first_of_low {b : Nat} (h : b < 0x80) : first b = ([Char.ofNat b], .start) :=
  if_pos h

theorem first_isWide (b : Nat) : (first b).2.IsWide := by
  unfold first
  split_ifs <;> simp only [IsWide] <;> omega

theorem step_isWide {state : Utf8State} (h : state.IsWide) (b : Nat) : (state.step b).2.IsWide := by
  cases state with
  | start => exact first_isWide b
  | inside owed value low high =>
    obtain ⟨hlow, hvalue, -⟩ := h
    simp only [step]
    split_ifs
    · trivial
    · simp only [IsWide]
      omega
    · exact first_isWide b

/-- A low byte is a character, and breaks off the one that it stands in. -/
theorem step_of_low {state : Utf8State} (h : state.IsWide) {b : Nat} (hb : b < 0x80) :
    state.step b = (decodeFrom state [] ++ [Char.ofNat b], .start) := by
  cases state with
  | start => exact first_of_low hb
  | inside owed value low high =>
    have hout : ¬(low ≤ b ∧ b ≤ high) := fun hin =>
      absurd (Nat.le_trans h.1 hin.1) (Nat.not_le.2 hb)
    simp only [step, if_neg hout, first_of_low hb]
    rfl

theorem ofNat_feed {n : Nat} (h : '\n' = Char.ofNat n) : n = 0x0A := by
  by_cases hvalid : n.isValidChar
  · have hchar : Char.ofNat n = Char.ofNatAux n hvalid := dif_pos hvalid
    exact (congrArg Char.toNat (h.trans hchar)).symm
  · have hchar : Char.ofNat n = '\x00' := dif_neg hvalid
    exact absurd (h.trans hchar) (by decide)

theorem first_feed {b : Nat} (h : '\n' ∈ (first b).1) : b = 0x0A := by
  unfold first at h
  split_ifs at h
  · exact ofNat_feed (List.mem_singleton.1 h)
  all_goals simp [replacement] at h

/-- A line feed is written for a line feed alone. -/
theorem step_feed {state : Utf8State} (h : state.IsWide) {b : Nat} (hb : '\n' ∈ (state.step b).1) :
    b = 0x0A := by
  cases state with
  | start => exact first_feed hb
  | inside owed value low high =>
    obtain ⟨hlow, -, hlast⟩ := h
    simp only [step] at hb
    split_ifs at hb with hin howed
    · have hten := ofNat_feed (List.mem_singleton.1 hb)
      have := hlast howed
      omega
    · exact absurd hb List.not_mem_nil
    · rcases List.mem_cons.1 hb with hb | hb
      · exact absurd hb (by decide)
      · exact first_feed hb

end Utf8State

open Utf8State

theorem decodeFrom_cons (state : Utf8State) (b : UInt8) (rest : List UInt8) :
    decodeFrom state (b :: rest) =
      (state.step b.toNat).1 ++ decodeFrom (state.step b.toNat).2 rest := by
  cases state <;> rfl

/-- What stands in front of a low byte is decoded by itself, and so is what stands behind it. -/
theorem decodeFrom_append_low {state : Utf8State} (h : state.IsWide) {b : UInt8}
    (hb : b.toNat < 0x80) (front rest : List UInt8) :
    decodeFrom state (front ++ b :: rest) =
      decodeFrom state front ++ Char.ofNat b.toNat :: decodeFrom .start rest := by
  induction front generalizing state with
  | nil =>
    rw [List.nil_append, decodeFrom_cons, step_of_low h hb, List.append_assoc, List.singleton_append]
  | cons c front ih =>
    rw [List.cons_append, decodeFrom_cons, decodeFrom_cons, ih (step_isWide h _), List.append_assoc]

theorem feed_mem_of_decodeFrom {state : Utf8State} (h : state.IsWide) {bytes : List UInt8}
    (hfeed : '\n' ∈ decodeFrom state bytes) : 0x0A ∈ bytes := by
  induction bytes generalizing state with
  | nil => cases state <;> simp [decodeFrom, replacement] at hfeed
  | cons b rest ih =>
    rw [decodeFrom_cons] at hfeed
    rcases List.mem_append.1 hfeed with hfeed | hfeed
    · have hb : b = 0x0A := UInt8.toNat_inj.1 (step_feed h hfeed)
      exact hb ▸ List.mem_cons_self
    · exact List.mem_cons_of_mem _ (ih (step_isWide h _) hfeed)

/-- Stretches that line feeds end are decoded each by itself. -/
theorem decodeFrom_flatMap (stretches : List (List UInt8)) (rest : List UInt8) :
    decodeFrom .start (stretches.flatMap (· ++ [0x0A]) ++ rest) =
      stretches.flatMap (decodeFrom .start · ++ ['\n']) ++ decodeFrom .start rest := by
  induction stretches with
  | nil => rfl
  | cons s stretches ih =>
    simp only [List.flatMap_cons, List.append_assoc, List.cons_append, List.nil_append]
    rw [decodeFrom_append_low start_isWide (b := 0x0A) (by decide), ih]
    rfl

-- ======== stretches

/-- The lines of a text in which each is ended. -/
def endedLines (text : String) : List String :=
  (splitOn '\n' text.toList).dropLast.map String.ofList

end Text

namespace Command

open Text

theorem not_mem_of_mem_stretches {bytes s : List UInt8} (hs : s ∈ stretches bytes) : 0x0A ∉ s := by
  simp only [stretches] at hs
  split at hs
  · exact not_mem_of_mem_splitOn (List.dropLast_subset _ hs)
  · exact not_mem_of_mem_splitOn hs

/-- The stretches are ended by line feeds, except for the last if the bytes do not end with one. -/
theorem stretches_cases (bytes : List UInt8) :
    (bytes = [] ∨ bytes.getLast? = some 0x0A) ∧ bytes = (stretches bytes).flatMap (· ++ [0x0A]) ∨
    ∃ front last, ¬(bytes = [] ∨ bytes.getLast? = some 0x0A) ∧ stretches bytes = front ++ [last] ∧
      bytes = front.flatMap (· ++ [0x0A]) ++ last := by
  obtain ⟨front, last, hall⟩ : ∃ front last, splitOn 0x0A bytes = front ++ [last] :=
    ⟨_, _, (List.dropLast_concat_getLast (splitOn_ne_nil bytes)).symm⟩
  have hbytes : bytes = front.flatMap (· ++ [0x0A]) ++ last := by
    rw [← joinWith_concat, ← hall, joinWith_splitOn]
  have hlast : (splitOn 0x0A bytes).getLast? = some last := by rw [hall, List.getLast?_concat]
  rcases eq_or_ne last [] with rfl | hne
  · have hstretches : stretches bytes = front := by
      rw [stretches, if_pos hlast, hall, List.dropLast_concat]
    refine .inl ⟨?_, by rw [hstretches, ← List.append_nil (front.flatMap _), ← hbytes]⟩
    rw [hbytes, List.append_nil]
    rcases List.eq_nil_or_concat front with rfl | ⟨front, s, rfl⟩
    · exact .inl rfl
    · simp
  · have hstretches : stretches bytes = front ++ [last] := by
      rw [stretches, if_neg (by rw [hlast]; simpa using hne), hall]
    refine .inr ⟨front, last, ?_, hstretches, hbytes⟩
    have hfeed : 0x0A ∉ last := not_mem_of_mem_stretches (by rw [hstretches]; simp)
    have hend : bytes.getLast? = last.getLast? := by
      rw [hbytes, List.getLast?_append_of_ne_nil _ hne]
    rintro (hnil | hmark)
    · exact hne (List.append_eq_nil_iff.1 (hbytes ▸ hnil)).2
    · exact hfeed (List.mem_of_getLast? (hend ▸ hmark))

theorem mem_of_mem_stretches {bytes s : List UInt8} (hs : s ∈ stretches bytes) : s ⊆ bytes := by
  intro b hb
  rcases stretches_cases bytes with ⟨-, hbytes⟩ | ⟨front, last, -, hstretches, hbytes⟩
  · rw [hbytes, List.mem_flatMap]
    exact ⟨s, hs, List.mem_append_left _ hb⟩
  · rw [hstretches] at hs
    rw [hbytes, List.mem_append, List.mem_flatMap]
    rcases List.mem_append.1 hs with hs | hs
    · exact .inl ⟨s, hs, List.mem_append_left _ hb⟩
    · exact .inr (List.mem_singleton.1 hs ▸ hb)

/-- A stretch without one carriage return at its end. -/
def bare (stretch : List UInt8) : List UInt8 :=
  if stretch.getLast? = some 0x0D then stretch.dropLast else stretch

/-- Bytes without one carriage return in front of each line feed that has one. -/
def withoutReturns : List UInt8 → List UInt8
  | [] => []
  | b :: rest =>
    if b = 0x0D ∧ rest.head? = some 0x0A then withoutReturns rest else b :: withoutReturns rest

theorem withoutReturns_append {s : List UInt8} (hs : 0x0A ∉ s) (rest : List UInt8) :
    withoutReturns (s ++ 0x0A :: rest) = bare s ++ 0x0A :: withoutReturns rest := by
  induction s with
  | nil => simp [withoutReturns, bare]
  | cons b s ih =>
    obtain ⟨-, hs⟩ := List.ne_and_not_mem_of_not_mem_cons hs
    rw [List.cons_append, withoutReturns, ih hs]
    cases s with
    | nil => by_cases hb : b = 0x0D <;> simp [bare, hb]
    | cons c s =>
      have hc : c ≠ 0x0A := fun h => hs (h ▸ List.mem_cons_self)
      have hbare : bare (b :: c :: s) = b :: bare (c :: s) := by
        rw [bare, bare, List.getLast?_cons_cons, List.dropLast_cons_cons]
        split <;> rfl
      rw [hbare, if_neg (by simp [hc]), List.cons_append]

theorem withoutReturns_flatMap {stretches : List (List UInt8)} (h : ∀ s ∈ stretches, 0x0A ∉ s) :
    withoutReturns (stretches.flatMap (· ++ [0x0A])) = stretches.flatMap (bare · ++ [0x0A]) := by
  induction stretches with
  | nil => rfl
  | cons s stretches ih =>
    obtain ⟨hs, hstretches⟩ := List.forall_mem_cons.1 h
    simp only [List.flatMap_cons, List.append_assoc, List.singleton_append]
    rw [withoutReturns_append hs, ih hstretches]

-- ======== texts

theorem toList_captured (lines : List String) :
    (captured lines).toList = lines.flatMap (·.toList ++ ['\n']) := by
  simp [captured, String.toList_join, List.flatMap_map]

theorem endedLines_captured {lines : List String} (h : ∀ line ∈ lines, '\n' ∉ line.toList) :
    endedLines (captured lines) = lines := by
  have hjoin : (captured lines).toList = joinWith '\n' (lines.map String.toList ++ [[]]) := by
    rw [joinWith_concat, toList_captured, List.flatMap_map, List.append_nil]
  have hsplit : splitOn '\n' (captured lines).toList = lines.map String.toList ++ [[]] := by
    rw [hjoin, splitOn_joinWith (by simp) (by simpa [or_imp, forall_and] using h)]
  rw [endedLines, hsplit, List.dropLast_concat, List.map_map]
  simp

theorem feed_not_mem_lines {bytes : List UInt8} :
    ∀ line ∈ lines bytes, '\n' ∉ line.toList := by
  intro line hline hfeed
  obtain ⟨s, hs, rfl⟩ := List.mem_map.1 hline
  rw [lineText, decodeLossy, String.toList_ofList] at hfeed
  have hmem := feed_mem_of_decodeFrom Utf8State.start_isWide hfeed
  refine not_mem_of_mem_stretches hs ?_
  split at hmem
  · exact List.dropLast_subset _ hmem
  · exact hmem

/-- Without carriage returns, what is captured is the text of all bytes, and its last line is ended. -/
theorem captured_lines {bytes : List UInt8} (h : 0x0D ∉ bytes) :
    captured (lines bytes) =
      decodeLossy bytes ++
        if bytes = [] ∨ bytes.getLast? = some 0x0A then "" else "\n" := by
  have hlines : (captured (lines bytes)).toList =
      (stretches bytes).flatMap (decodeFrom .start · ++ ['\n']) := by
    rw [toList_captured, lines, List.flatMap_map]
    refine List.flatMap_congr fun s hs => ?_
    have hend : s.getLast? ≠ some 0x0D := fun hend =>
      h (mem_of_mem_stretches hs (List.mem_of_getLast? hend))
    rw [lineText, if_neg hend, decodeLossy, String.toList_ofList]
  rw [← String.toList_inj, hlines, String.toList_append, decodeLossy, String.toList_ofList]
  rcases stretches_cases bytes with ⟨hend, hbytes⟩ | ⟨front, last, hend, hstretches, hbytes⟩
  · rw [if_pos hend]
    conv_rhs => rw [hbytes, ← List.append_nil (List.flatMap _ _), decodeFrom_flatMap]
    simp [decodeFrom]
  · rw [if_neg hend, hstretches]
    conv_rhs => rw [hbytes, decodeFrom_flatMap]
    simp

/-- Of bytes that end with a line feed, what is captured is the text of all of them without one carriage
return in front of each line feed. -/
theorem captured_lines_of_ended {bytes : List UInt8} (h : bytes.getLast? = some 0x0A) :
    captured (lines bytes) = decodeLossy (withoutReturns bytes) := by
  rcases stretches_cases bytes with ⟨-, hbytes⟩ | ⟨-, -, hend, -, -⟩
  · have hbare : withoutReturns bytes =
        ((stretches bytes).map bare).flatMap (· ++ [0x0A]) ++ [] := by
      conv_lhs => rw [hbytes]
      rw [withoutReturns_flatMap fun _ => not_mem_of_mem_stretches, List.flatMap_map, List.append_nil]
    rw [← String.toList_inj, decodeLossy, String.toList_ofList, hbare, decodeFrom_flatMap,
      toList_captured, lines, List.flatMap_map, List.flatMap_map]
    simp [decodeFrom, lineText, decodeLossy, bare]
  · exact absurd (.inr h) hend

end Command

namespace Machine

variable {σ : Type} [Programs σ]

-- ======== the journal

/-- That a program has written a line to one of its streams. -/
def heard (clock : Nat) (label line : String) : Event :=
  ⟨clock, .log .info .exec (label ++ line)⟩

omit [Programs σ] in
theorem forM_log_apply (label : String) (lines : List String) (m : Machine σ) :
    (lines.forM fun line => Run.log .info .exec (label ++ line) : Run σ PUnit) m =
      (.ok ⟨⟩, { m with journal := (lines.map (heard m.clock label)).reverse ++ m.journal }) := by
  induction lines generalizing m with
  | nil => rfl
  | cons line lines ih =>
    refine (ih { m with journal := heard m.clock label line :: m.journal }).trans ?_
    simp

theorem runProgram_apply {command : String} {args : List String} {dir : Path} {m : Machine σ}
    {finished : Finished} {disk : Disk}
    (hstart : Programs.start m.browser m.disk (Command.resolve m.disk command dir) args dir =
      .ok (some (finished, disk)))
    (hsuccess : finished.status.isSuccess = true) :
    runProgram command args dir m =
      (.ok (Command.captured (Command.lines finished.stdout)),
        { m with
          disk
          journal :=
            ((Command.lines finished.stderr).map (heard m.clock "stderr: ")).reverse ++
              (((Command.lines finished.stdout).map (heard m.clock "stdout: ")).reverse ++
                m.journal) }) := by
  unfold runProgram
  rw [Run.get_bind_apply, hstart]
  simp only
  rw [Run.set_bind_apply, Run.bind_ok (forM_log_apply ..), Run.bind_ok (forM_log_apply ..),
    if_pos hsuccess, Run.pure_apply]

/-- Whatever programs there are, the output of one that has succeeded is passed on line by line, and equals
what decoding it as a whole gives. Where there are no carriage returns, the text is what all the bytes
stand for, with one line feed more if they do not end with one. Where the bytes end with a line feed, it is
what they stand for without one carriage return in front of each line feed that has one. The lines that are
logged are those of the text. -/
theorem output_relayed (command : String) (args : List String) (dir : Path) (m : Machine σ)
    {finished : Finished} {disk : Disk}
    (hstart : Programs.start m.browser m.disk (Command.resolve m.disk command dir) args dir =
      .ok (some (finished, disk)))
    (hsuccess : finished.status.isSuccess = true) :
    ∃ text m', runProgram command args dir m = (.ok text, m') ∧
      (0x0D ∉ finished.stdout → text = Text.decodeLossy finished.stdout ++
        if finished.stdout = [] ∨ finished.stdout.getLast? = some 0x0A then "" else "\n") ∧
      (finished.stdout.getLast? = some 0x0A →
        text = Text.decodeLossy (Command.withoutReturns finished.stdout)) ∧
      ∃ errors : List String, m'.journal =
        (errors.map (heard m.clock "stderr: ")).reverse ++
          ((Text.endedLines text).map (heard m.clock "stdout: ")).reverse ++ m.journal := by
  refine ⟨_, _, runProgram_apply hstart hsuccess, Command.captured_lines,
    Command.captured_lines_of_ended, Command.lines finished.stderr, ?_⟩
  rw [Command.endedLines_captured Command.feed_not_mem_lines, List.append_assoc]

/-- Programs that all write the same bytes, and end well. -/
structure Scribe where
  bytes : List UInt8

instance : Programs Scribe :=
  ⟨fun scribe disk _ _ _ => .ok (some ({ status := .code 0, stdout := scribe.bytes }, disk))⟩

/-- A byte that is no UTF-8 and two carriage returns in front of a line feed, of which one is kept. -/
theorem output_relayed_returns :
    ∃ (finished : Finished) (disk : Disk) (text : String) (m' : Machine Scribe),
      Programs.start (Scribe.mk [0xE9, 0x0D, 0x0D, 0x0A]) default (Command.resolve default "/p" ⟨"/"⟩)
        ["a"] ⟨"/"⟩ = .ok (some (finished, disk)) ∧
      finished.status.isSuccess = true ∧ finished.stdout = [0xE9, 0x0D, 0x0D, 0x0A] ∧
      runProgram "/p" ["a"] ⟨"/"⟩ (new {} ⟨[0xE9, 0x0D, 0x0D, 0x0A]⟩ default) = (.ok text, m') ∧
      text = "\uFFFD\r\n" ∧ Text.endedLines text = ["\uFFFD\r"] := by
  obtain ⟨text, m', hrun, -, hended, -⟩ := output_relayed "/p" ["a"] ⟨"/"⟩
    (new {} (Scribe.mk [0xE9, 0x0D, 0x0D, 0x0A]) default) rfl rfl
  have htext : text = "\uFFFD\r\n" := by
    rw [hended rfl]
    decide +kernel
  exact ⟨_, _, text, m', rfl, rfl, rfl, hrun, htext, by rw [htext]; decide +kernel⟩

end Machine

end PageScript
