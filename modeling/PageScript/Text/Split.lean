/-
Cutting text at a mark.
-/

namespace PageScript.Text

/-- The text in front of the first `mark` and the text behind it. -/
def splitAtFirst? (mark : Char) : List Char → Option (List Char × List Char)
  | [] => none
  | c :: rest =>
    if c = mark then some ([], rest)
    else (splitAtFirst? mark rest).map fun (front, back) => (c :: front, back)

/-- The stretches between the marks of a list, one more than there are marks. -/
def splitOn {α : Type} [DecidableEq α] (mark : α) : List α → List (List α)
  | [] => [[]]
  | c :: rest =>
    if c = mark then [] :: splitOn mark rest
    else
      match splitOn mark rest with
      | [] => [[c]]
      | first :: others => (c :: first) :: others

def joinWith {α : Type} (mark : α) : List (List α) → List α
  | [] => []
  | [only] => only
  | first :: second :: rest => first ++ mark :: joinWith mark (second :: rest)

/-- Putting the marks back undoes the cutting. -/
theorem joinWith_splitOn {α : Type} [DecidableEq α] (mark : α) (cs : List α) :
    joinWith mark (splitOn mark cs) = cs := by
  induction cs with
  | nil => rfl
  | cons c rest ih =>
    unfold splitOn
    split
    · next h =>
      cases hs : splitOn mark rest with
      | nil => rw [hs] at ih; simp [joinWith] at ih; subst ih; simp [splitOn] at hs
      | cons first others => rw [hs] at ih; simp [joinWith, ih, h]
    · cases hs : splitOn mark rest with
      | nil => rw [hs] at ih; simp [joinWith] at ih; simp [joinWith, ih]
      | cons first others =>
        rw [hs] at ih
        cases others with
        | nil => simpa [joinWith] using ih
        | cons second more => simpa [joinWith] using ih

def firstLine (s : String) : String :=
  let line := s.toList.takeWhile (· != '\n')
  let ended := line.length < s.toList.length
  String.ofList (if ended ∧ line.getLast? = some '\r' then line.dropLast else line)

end PageScript.Text
