/-
Tables in a frame of lines.

Every column is as wide as its widest line, with a blank on each side. A cell of several lines makes
its row as high. A double line stands below the head, and a dashed one between two rows.
-/
import PageScript.Text.Split
import PageScript.Text.Width

namespace PageScript.Text.Table

/-- A line across a table: its left end, what it is made of, its crossings and its right end. -/
structure Rule where
  left : String
  stroke : Char
  crossing : String
  right : String

def top : Rule := ⟨"┌", '─', "┬", "┐"⟩

def belowHead : Rule := ⟨"╞", '═', "╪", "╡"⟩

def between : Rule := ⟨"├", '╌', "┼", "┤"⟩

def bottom : Rule := ⟨"└", '─', "┴", "┘"⟩

def Rule.draw (r : Rule) (widths : List Nat) : String :=
  let strokes := widths.map fun w => String.ofList (List.replicate (w + 2) r.stroke)
  r.left ++ String.intercalate r.crossing strokes ++ r.right

def fill (text : String) (w : Nat) : String :=
  text ++ String.ofList (List.replicate (w - width text) ' ')

def cellLines (cell : String) : List String :=
  (splitOn '\n' cell.toList).map String.ofList

def line (cells : List String) (widths : List Nat) : String :=
  let filled := List.zipWith (fun c w => " " ++ fill c w ++ " ") cells widths
  "│" ++ String.intercalate "┆" filled ++ "│"

/-- The lines of a row in columns of given widths; a cell with fewer lines than others is blank
below its last one. -/
def row (cells : List String) (widths : List Nat) : List String :=
  let columns := cells.map cellLines
  let height := (columns.map List.length).foldl max 1
  (List.range height).map fun i => line (columns.map (·.getD i "")) widths

def cellWidth (cell : String) : Nat :=
  ((cellLines cell).map width).foldl max 0

def widths (rows : List (List String)) : List Nat :=
  rows.foldl (fun ws cells => List.zipWith max ws (cells.map cellWidth))
    (((rows.head?).getD []).map fun _ => 0)

def lines (head : List String) (rows : List (List String)) : List String :=
  let ws := widths (head :: rows)
  [top.draw ws] ++ row head ws ++ [belowHead.draw ws] ++
    ((rows.map fun cells => row cells ws).intersperse [between.draw ws]).flatten ++
    [bottom.draw ws]

end PageScript.Text.Table
