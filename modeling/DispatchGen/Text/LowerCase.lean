import DispatchGen.Text.CasedRanges
import DispatchGen.Text.LowerRuns

/-! # Lower case

Characters are mapped one by one, with two exceptions. The dotted capital I becomes an i and a
combining dot. A capital sigma becomes a final sigma where a cased letter precedes it and none
follows, marks in between not counted, and a plain sigma elsewhere.
-/
namespace DispatchGen.Text

/-- The distance to the lower-case letter, if the code point lies in one of the runs. -/
def caseShift? (n : Nat) : List CaseRun → Option Int
  | [] => none
  | run :: rest =>
    if n < run.first then none
    else if n ≤ run.last && (n - run.first) % run.step == 0 then some run.shift
    else caseShift? n rest

def lowerLetter (c : Char) : Char :=
  match caseShift? c.toNat lowerRuns with
  | some shift => Char.ofNat (c.toNat + shift).toNat
  | none => c

/-- The next character that is no mark is a cased letter. -/
def meetsCased (s : List Char) : Bool :=
  match s.dropWhile fun c => caseIgnorable.has c.toNat with
  | [] => false
  | c :: _ => casedLetters.has c.toNat

/-- The lower-case form of a character between `before`, nearest first, and `after`. -/
def lowerAt (before : List Char) (c : Char) (after : List Char) : List Char :=
  if c = 'İ' then ['i', '\u0307']
  else if c = 'Σ' then [if meetsCased before && !meetsCased after then 'ς' else 'σ']
  else [lowerLetter c]

/-- Lower case of `after`, which stands behind the reversed text `before`. -/
def lowerFrom (before : List Char) : List Char → List Char
  | [] => []
  | c :: after => lowerAt before c after ++ lowerFrom (c :: before) after

def lower (s : List Char) : List Char :=
  lowerFrom [] s

end DispatchGen.Text
