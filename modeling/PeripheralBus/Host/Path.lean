/-!
# Paths

A path is a text with slashes between its parts. What it says are its steps: empty parts say
nothing apart from a slash in front, and neither does a dot that is not in front.

* `Path.parts`: the texts between the slashes.
* `Path.intercalate_cut`: with slashes between them they are the path.
* `Path.steps`, `Path.same`: what a path says, and whether two paths say the same.
* `join`: a name below a directory.
-/

namespace PeripheralBus.Host

namespace Path

/-- Puts a character in front of a text that is cut at its slashes. -/
def cons (c : Char) (parts : List (List Char)) : List (List Char) :=
  if c = '/' then [] :: parts
  else
    match parts with
    | [] => [[c]]
    | part :: rest => (c :: part) :: rest

/-- A text cut at its slashes. -/
def cut (s : List Char) : List (List Char) := s.foldr cons [[]]

theorem cut_cons (c : Char) (s : List Char) : cut (c :: s) = cons c (cut s) := rfl

theorem cut_ne_nil (s : List Char) : cut s ≠ [] := by
  cases s with
  | nil => simp [cut]
  | cons c rest =>
    rw [cut_cons]
    unfold cons
    split
    · simp
    · split <;> simp

/-- **Cutting at slashes loses only the slashes.** -/
theorem intercalate_cut (s : List Char) : List.intercalate ['/'] (cut s) = s := by
  induction s with
  | nil => rfl
  | cons c rest ih =>
    rw [cut_cons]
    obtain ⟨part, more, h⟩ := List.exists_cons_of_ne_nil (cut_ne_nil rest)
    rw [h] at ih ⊢
    by_cases hc : c = '/'
    · subst hc
      simpa [cons, List.intercalate] using ih
    · cases more <;> simpa [cons, hc, List.intercalate] using ih

/-- The parts of a path between its slashes. -/
def parts (path : String) : List String := (cut path.toList).map String.ofList

/-- A step of a path. -/
inductive Step where
  /-- To the root of all directories. -/
  | root
  /-- To the directory where one is. -/
  | here
  /-- To the directory above. -/
  | up
  /-- To what has this name. -/
  | name (n : String)
  deriving DecidableEq, Repr

/-- The step that a part says when it is not in front. -/
def step? (part : String) : Option Step :=
  if part = "" ∨ part = "." then none
  else if part = ".." then some .up
  else some (.name part)

/-- The steps of a path. -/
def steps (path : String) : List Step :=
  match parts path with
  | [] => []
  | first :: rest =>
    let start :=
      if first = "" then (if rest.isEmpty then none else some .root)
      else if first = "." then some .here
      else step? first
    start.toList ++ rest.filterMap step?

/-- Whether two paths say the same. -/
def same (p q : String) : Bool := steps p = steps q

@[simp] theorem same_self (p : String) : same p p = true := by simp [same]

end Path

/-- The path of a name below a directory; an absolute name stands for itself. -/
def join (directory name : String) : String :=
  if name.startsWith "/" ∨ directory.isEmpty then name
  else if directory.endsWith "/" then directory ++ name
  else directory ++ "/" ++ name

end PeripheralBus.Host
