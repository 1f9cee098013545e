/-!
# File paths

A path in its normal form: no empty and no single dot components, and at most two slashes at the
start, where two mean something else than one. Double dots stay, since what they denote depends on
the files.
-/

namespace SqlDesk.Text

/-- A text cut at every separator. -/
def splitAt (sep : Char) : List Char → List (List Char)
  | [] => [[]]
  | c :: cs =>
    if c = sep then [] :: splitAt sep cs
    else match splitAt sep cs with
      | part :: rest => (c :: part) :: rest
      | [] => [[c]]

/-- The slashes that a normal path starts with. -/
def pathRoot (cs : List Char) : List Char :=
  match cs.takeWhile (· == '/') with
  | [] => []
  | ['/', '/'] => ['/', '/']
  | _ => ['/']

/-- The components of a path. -/
def pathParts (cs : List Char) : List (List Char) :=
  (splitAt '/' cs).filter fun p => p ≠ [] && p ≠ ['.']

/-- The normal form of a path; a path without components is the current directory. -/
def normalPath (s : String) : String :=
  let root := pathRoot s.toList
  let body := ['/'].intercalate (pathParts s.toList)
  if root = [] ∧ body = [] then "." else String.ofList (root ++ body)

end SqlDesk.Text
