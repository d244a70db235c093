import DispatchGen.Wire.Varint

/-! # Records of a message

A message is a row of records, each a field number with a payload. Reading takes the records off the
front until the bytes end or what follows is damaged. Groups are passed over: their records have to
be sound, and each group has to be closed under its own number.
-/
namespace DispatchGen.Wire

inductive Payload where
  | varint (value : Nat)
  | fixed
  | bytes (content : Bytes)
  | group
  deriving Repr, DecidableEq

structure Record where
  number : Nat
  payload : Payload
  deriving Repr, DecidableEq

/-- The field number and the wire type in front of a payload: at most five bytes and 32 bits. -/
def readTag (bytes : Bytes) : Option (Nat × Nat × Bytes) :=
  match readVarint 5 bytes with
  | some (tag, rest) =>
    if tag < 0x100000000 then some (tag / 8, tag % 8, rest) else none
  | none => none

/-- A payload with a length in front; the length has at most five bytes and fits 31 bits. -/
def readDelimited (bytes : Bytes) : Option (Bytes × Bytes) :=
  match readVarint 5 bytes with
  | some (length, rest) => if length < 0x80000000 then takeBytes length rest else none
  | none => none

/-- A payload of the given wire type that is no group. -/
def readScalar (wireType : Nat) (bytes : Bytes) : Option (Payload × Bytes) :=
  match wireType with
  | 0 => (readVarint 10 bytes).map fun (n, rest) => (.varint (n % 0x10000000000000000), rest)
  | 1 => (takeBytes 8 bytes).map fun (_, rest) => (.fixed, rest)
  | 2 => (readDelimited bytes).map fun (content, rest) => (.bytes content, rest)
  | 5 => (takeBytes 4 bytes).map fun (_, rest) => (.fixed, rest)
  | _ => none

theorem readTag_length {bytes rest : Bytes} {number wireType : Nat}
    (h : readTag bytes = some (number, wireType, rest)) : rest.length < bytes.length := by
  unfold readTag at h
  split at h
  next hr =>
    split at h
    · simp only [Option.some.injEq, Prod.mk.injEq] at h
      rw [← h.2.2]
      exact readVarint_length hr
    · simp at h
  next => simp at h

theorem readDelimited_length {bytes content rest : Bytes}
    (h : readDelimited bytes = some (content, rest)) : rest.length ≤ bytes.length := by
  unfold readDelimited at h
  split at h
  next hr =>
    split at h
    · exact Nat.le_of_lt (Nat.lt_of_le_of_lt (takeBytes_length h) (readVarint_length hr))
    · simp at h
  next => simp at h

theorem readScalar_length {wireType : Nat} {bytes rest : Bytes} {payload : Payload}
    (h : readScalar wireType bytes = some (payload, rest)) : rest.length ≤ bytes.length := by
  unfold readScalar at h
  split at h
  · simp only [Option.map_eq_some_iff, Prod.exists, Prod.mk.injEq] at h
    obtain ⟨n, r, hr, _, rfl⟩ := h
    exact Nat.le_of_lt (readVarint_length hr)
  · simp only [Option.map_eq_some_iff, Prod.exists, Prod.mk.injEq] at h
    obtain ⟨n, r, hr, _, rfl⟩ := h
    exact takeBytes_length hr
  · simp only [Option.map_eq_some_iff, Prod.exists, Prod.mk.injEq] at h
    obtain ⟨n, r, hr, _, rfl⟩ := h
    exact readDelimited_length hr
  · simp only [Option.map_eq_some_iff, Prod.exists, Prod.mk.injEq] at h
    obtain ⟨n, r, hr, _, rfl⟩ := h
    exact takeBytes_length hr
  · simp at h

/-- Passes over the rest of the open groups, given with the innermost first. At most `depth` groups
may be open at once. -/
def skipGroups (depth : Nat) (pending : List Nat) (bytes : Bytes) : Option Bytes :=
  if pending.length > depth then none
  else match _h : readTag bytes with
    | none => none
    | some (number, 3, rest) => skipGroups depth (number :: pending) rest
    | some (number, 4, rest) =>
      match pending with
      | innermost :: outer =>
        if number ≠ innermost then none
        else if outer = [] then some rest
        else skipGroups depth outer rest
      | [] => none
    | some (_, wireType, rest) =>
      match _h' : readScalar wireType rest with
      | some (_, rest') => skipGroups depth pending rest'
      | none => none
  termination_by bytes.length
  decreasing_by
    · exact readTag_length _h
    · exact readTag_length _h
    · exact Nat.lt_of_le_of_lt (readScalar_length _h') (readTag_length _h)

theorem skipGroups_length {depth : Nat} {pending : List Nat} {bytes rest : Bytes}
    (h : skipGroups depth pending bytes = some rest) : rest.length < bytes.length := by
  fun_induction skipGroups depth pending bytes with
  | case1 => simp at h
  | case2 => simp at h
  | case3 _ _ _ number rest' ht ih => exact Nat.lt_trans (ih h) (readTag_length ht)
  | case4 => simp at h
  | case5 _ _ _ ht =>
    simp only [Option.some.injEq] at h
    exact h ▸ readTag_length ht
  | case6 _ _ _ ht _ _ _ _ _ ih => exact Nat.lt_trans (ih h) (readTag_length ht)
  | case7 => simp at h
  | case8 _ _ _ _ _ _ _ _ ht _ _ hs ih =>
    exact Nat.lt_trans (ih h) (Nat.lt_of_le_of_lt (readScalar_length hs) (readTag_length ht))
  | case9 => simp at h

/-- One record off the front. No record of a message has number zero; inside groups any number goes. -/
def readRecord (depth : Nat) (bytes : Bytes) : Option (Record × Bytes) :=
  match readTag bytes with
  | none => none
  | some (0, _, _) => none
  | some (number, 3, rest) => (skipGroups depth [number] rest).map fun rest => (⟨number, .group⟩, rest)
  | some (number, wireType, rest) =>
    (readScalar wireType rest).map fun (payload, rest) => (⟨number, payload⟩, rest)

theorem readRecord_length {depth : Nat} {bytes rest : Bytes} {record : Record}
    (h : readRecord depth bytes = some (record, rest)) : rest.length < bytes.length := by
  unfold readRecord at h
  split at h
  · simp at h
  · simp at h
  next ht =>
    simp only [Option.map_eq_some_iff, Prod.mk.injEq] at h
    obtain ⟨r, hr, _, rfl⟩ := h
    exact Nat.lt_trans (skipGroups_length hr) (readTag_length ht)
  next ht =>
    simp only [Option.map_eq_some_iff, Prod.exists, Prod.mk.injEq] at h
    obtain ⟨p, r, hr, _, rfl⟩ := h
    exact Nat.lt_of_le_of_lt (readScalar_length hr) (readTag_length ht)

/-- The sound records from the front, and whether damaged bytes follow them. -/
def readRecords (depth : Nat) (bytes : Bytes) : List Record × Bool :=
  match bytes with
  | [] => ([], false)
  | b :: tail =>
    match _h : readRecord depth (b :: tail) with
    | none => ([], true)
    | some (record, rest) =>
      let (records, damaged) := readRecords depth rest
      (record :: records, damaged)
  termination_by bytes.length
  decreasing_by exact readRecord_length _h

end DispatchGen.Wire
