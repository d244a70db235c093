import DispatchGen.Text.LowerCase

/-! # Words with underscores between them

A name in mixed case is cut in front of every capital that opens a word and put in lower case.
-/
namespace DispatchGen.Text

/-- A capital that opens a word: it follows a small letter or a digit, or it follows a capital and a
small letter comes next. -/
def opensWord (before here : Char) (after : Option Char) : Bool :=
  here.isUpper && (before.isLower || before.isDigit || (before.isUpper && after.any Char.isLower))

def separateWords : List Char → List Char
  | before :: here :: rest =>
    if opensWord before here rest.head? then before :: '_' :: separateWords (here :: rest)
    else before :: separateWords (here :: rest)
  | short => short

def snakeCase (name : String) : String :=
  String.ofList (lower (separateWords name.toList))

end DispatchGen.Text
