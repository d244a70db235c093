import DispatchGen.Text.Split

/-! # Slash-separated paths

The last component and the directory of a path, joining, and the normal form. The rules are purely
textual: nothing is looked up anywhere.
-/
namespace DispatchGen.Path
open Text

/-- Everything up to and including the last slash. -/
def head (p : List Char) : List Char :=
  (p.reverse.dropWhile (· ≠ '/')).reverse

/-- Everything after the last slash. -/
def base (p : List Char) : List Char :=
  (p.reverse.takeWhile (· ≠ '/')).reverse

/-- The head without its closing slashes, unless it has nothing else. -/
def directory (p : List Char) : List Char :=
  if (head p).all (· = '/') then head p else ((head p).reverse.dropWhile (· = '/')).reverse

/-- The second path seen from the first; one that begins at the root stands alone. -/
def append (p q : List Char) : List Char :=
  if q.head? = some '/' then q
  else if p = [] ∨ p.getLast? = some '/' then p ++ q
  else p ++ '/' :: q

/-- How many slashes open the normal form: two stay two, any other number counts as one. -/
def rootSlashes : List Char → Nat
  | '/' :: '/' :: '/' :: _ => 1
  | '/' :: '/' :: _ => 2
  | '/' :: _ => 1
  | _ => 0

/-- One component put on the components before it, nearest first. A step up takes the nearest one
away; it stays where there is none to take, except at the root. -/
def push (rooted : Bool) (before : List (List Char)) (part : List Char) : List (List Char) :=
  if part = [] ∨ part = ['.'] then before
  else if part = ['.', '.'] then
    match before with
    | [] => if rooted then [] else [part]
    | nearest :: rest => if nearest = ['.', '.'] then part :: before else rest
  else part :: before

def parts (p : List Char) : List (List Char) :=
  ((split '/' p).foldl (push (rootSlashes p != 0)) []).reverse

/-- The path without empty components, dots and steps up that cancel. -/
def normal (p : List Char) : List Char :=
  match List.replicate (rootSlashes p) '/' ++ join ['/'] (parts p) with
  | [] => ['.']
  | text => text

theorem head_append_base (p : List Char) : head p ++ base p = p := by
  rw [head, base, ← List.reverse_append, List.takeWhile_append_dropWhile, List.reverse_reverse]

end DispatchGen.Path
