/-!
# Splitting text

`splitOn` : the parts between the separators; `split` : these without the run of empty parts at the end, though never
fewer than one part. Empty parts at the start and in the middle stay.
-/

namespace BidAdapter.Text

set_option autoImplicit false

/-- The parts between the separators, one more than there are separators. -/
def splitOn (sep : Char) : List Char → List (List Char)
  | [] => [[]]
  | c :: cs =>
    if c = sep then [] :: splitOn sep cs
    else match splitOn sep cs with
      | [] => [[c]]
      | p :: ps => (c :: p) :: ps

/-- Leave out the empty parts at the end of a list. -/
def dropTrailingEmpty : List (List Char) → List (List Char)
  | [] => []
  | p :: ps =>
    match p, dropTrailingEmpty ps with
    | [], [] => []
    | p, qs => p :: qs

/-- The parts between the separators without the empty ones at the end; a text of separators alone is one empty part. -/
def split (sep : Char) (cs : List Char) : List (List Char) :=
  match dropTrailingEmpty (splitOn sep cs) with
  | [] => [[]]
  | ps => ps

end BidAdapter.Text
