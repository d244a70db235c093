/-! # Variable-length numbers

A number is written in groups of seven bits, the least significant first; a set top bit says that
another group follows.
-/
namespace DispatchGen.Wire

abbrev Bytes := List UInt8

/-- Reads a number of at most `limit` bytes off the front. -/
def readVarint : Nat → Bytes → Option (Nat × Bytes)
  | 0, _ => none
  | _ + 1, [] => none
  | limit + 1, b :: rest =>
    if b.toNat < 128 then some (b.toNat, rest)
    else match readVarint limit rest with
      | some (n, rest) => some (b.toNat - 128 + 128 * n, rest)
      | none => none

def writeVarint (n : Nat) : Bytes :=
  if n < 128 then [UInt8.ofNat n] else UInt8.ofNat (n % 128 + 128) :: writeVarint (n / 128)

def takeBytes (n : Nat) (bytes : Bytes) : Option (Bytes × Bytes) :=
  if (bytes.take n).length = n then some (bytes.take n, bytes.drop n) else none

theorem readVarint_length {limit n : Nat} {bytes rest : Bytes}
    (h : readVarint limit bytes = some (n, rest)) : rest.length < bytes.length := by
  induction limit generalizing bytes n rest with
  | zero => simp [readVarint] at h
  | succ limit ih =>
    cases bytes with
    | nil => simp [readVarint] at h
    | cons b tail =>
      simp only [readVarint] at h
      split at h
      · simp only [Option.some.injEq, Prod.mk.injEq] at h
        simp [← h.2]
      · split at h
        next hr =>
          simp only [Option.some.injEq, Prod.mk.injEq] at h
          have := ih hr
          simp only [List.length_cons, ← h.2]
          omega
        next => simp at h

theorem takeBytes_length {n : Nat} {bytes front rest : Bytes}
    (h : takeBytes n bytes = some (front, rest)) : rest.length ≤ bytes.length := by
  unfold takeBytes at h
  split at h
  · simp only [Option.some.injEq, Prod.mk.injEq] at h
    simp [← h.2]
  · simp at h

end DispatchGen.Wire
