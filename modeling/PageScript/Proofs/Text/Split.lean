/-
Cutting text at marks and putting it together again.
-/
import PageScript.Text.Split

namespace PageScript.Text

variable {α : Type} {mark : α}

theorem joinWith_cons (s : List α) {rest : List (List α)} (h : rest ≠ []) :
    joinWith mark (s :: rest) = s ++ mark :: joinWith mark rest := by
  cases rest with
  | nil => exact absurd rfl h
  | cons second rest => rfl

theorem joinWith_concat (front : List (List α)) (last : List α) :
    joinWith mark (front ++ [last]) = front.flatMap (· ++ [mark]) ++ last := by
  induction front with
  | nil => rfl
  | cons s front ih =>
    rw [List.cons_append, joinWith_cons s (by simp), ih]
    simp

variable [DecidableEq α]

theorem splitOn_ne_nil (cs : List α) : splitOn mark cs ≠ [] := by
  fun_induction splitOn mark cs <;> simp

theorem not_mem_of_mem_splitOn {cs s : List α} (hs : s ∈ splitOn mark cs) : mark ∉ s := by
  fun_induction splitOn mark cs generalizing s <;> grind

theorem splitOn_append_mark {s : List α} (hs : mark ∉ s) (rest : List α) :
    splitOn mark (s ++ mark :: rest) = s :: splitOn mark rest := by
  induction s with
  | nil => simp [splitOn]
  | cons c s ih =>
    obtain ⟨hc, hs⟩ := List.ne_and_not_mem_of_not_mem_cons hs
    rw [List.cons_append, splitOn, if_neg hc.symm, ih hs]

theorem splitOn_of_not_mem {cs : List α} (h : mark ∉ cs) : splitOn mark cs = [cs] := by
  induction cs with
  | nil => rfl
  | cons c cs ih =>
    obtain ⟨hc, hcs⟩ := List.ne_and_not_mem_of_not_mem_cons h
    rw [splitOn, if_neg hc.symm, ih hcs]

/-- Cutting undoes putting together, where there are no marks in the parts. -/
theorem splitOn_joinWith {parts : List (List α)} (hne : parts ≠ []) (h : ∀ s ∈ parts, mark ∉ s) :
    splitOn mark (joinWith mark parts) = parts := by
  induction parts with
  | nil => exact absurd rfl hne
  | cons s rest ih =>
    obtain ⟨hs, hrest⟩ := List.forall_mem_cons.1 h
    cases rest with
    | nil => exact splitOn_of_not_mem hs
    | cons second rest =>
      rw [joinWith_cons s (by simp), splitOn_append_mark hs, ih (by simp) hrest]

end PageScript.Text
