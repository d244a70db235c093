/-! # Times of generation -/
namespace DispatchGen

/-- A calendar time; `offset` is the distance from universal time in seconds, if it is known. -/
structure Timestamp where
  year : Nat
  month : Nat
  day : Nat
  hour : Nat
  minute : Nat
  second : Nat
  microsecond : Nat := 0
  offset : Option Int := some 0
  deriving Repr, DecidableEq, Inhabited

namespace Timestamp

def sample : Timestamp := ⟨2024, 5, 1, 12, 30, 0, 0, some 0⟩

def padded (width n : Nat) : String :=
  let digits := toString n
  String.ofList (List.replicate (width - digits.length) '0') ++ digits

/-- The sign, hours and minutes of an offset, and its seconds where they are not zero. -/
def offsetText (offset : Int) : String :=
  let n := offset.natAbs
  (if offset < 0 then "-" else "+") ++ padded 2 (n / 3600) ++ ":" ++ padded 2 (n / 60 % 60) ++
    (if n % 60 = 0 then "" else ":" ++ padded 2 (n % 60))

/-- Date, time to the second, and offset. A fraction of a second is cut off. -/
def text (t : Timestamp) : String :=
  padded 4 t.year ++ "-" ++ padded 2 t.month ++ "-" ++ padded 2 t.day ++ "T" ++
    padded 2 t.hour ++ ":" ++ padded 2 t.minute ++ ":" ++ padded 2 t.second ++
    (t.offset.map offsetText).getD ""

end Timestamp
end DispatchGen
