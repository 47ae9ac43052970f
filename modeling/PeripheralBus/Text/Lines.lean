/-!
# Lines

The lines of a text. A line ends with a line feed, and a carriage return right before it belongs to
the line break. What follows the last line break is a line of its own unless it is empty.

* `Lines.ofList`: the lines with their breaks; `Lines.flatten_ofList`: together they are the text.
* `Text.lines`, `Text.firstLine`: the lines without their breaks, and the first one.
* `Text.unlines`: the text of some lines.
-/

namespace PeripheralBus.Lines

/-- Puts a character in front of a text that is cut into lines. -/
def cons (c : Char) (lines : List (List Char)) : List (List Char) :=
  if c = '\n' then [c] :: lines
  else
    match lines with
    | [] => [[c]]
    | line :: rest => (c :: line) :: rest

/-- The lines of a text, each with its break. -/
def ofList (s : List Char) : List (List Char) := s.foldr cons []

/-- A line without its break. -/
def withoutBreak (line : List Char) : List Char :=
  match line.reverse with
  | '\n' :: '\r' :: rest => rest.reverse
  | '\n' :: rest => rest.reverse
  | _ => line

theorem flatten_cons (c : Char) (lines : List (List Char)) :
    (cons c lines).flatten = c :: lines.flatten := by
  unfold cons
  split
  · rfl
  · split <;> rfl

/-- **Cutting into lines loses nothing.** -/
theorem flatten_ofList (s : List Char) : (ofList s).flatten = s := by
  induction s with
  | nil => rfl
  | cons c rest ih => simpa [ofList, flatten_cons] using ih

end PeripheralBus.Lines

namespace PeripheralBus.Text

/-- The lines of a text, without their breaks. -/
def lines (s : String) : List String :=
  (Lines.ofList s.toList).map fun line => String.ofList (Lines.withoutBreak line)

/-- The first line of a text, without its break. -/
def firstLine (s : String) : String := (lines s).headD ""

/-- The text of some lines, each with its break. -/
def unlines (lines : List String) : String := String.join (lines.map (· ++ "\n"))

end PeripheralBus.Text
