import DispatchGen.Text.UnprintableRanges

/-! # Quoted text in messages

A text stands between single quotes, or between double quotes when it holds a single quote and no
double one. The backslash, the quote in use, line feed, carriage return and tab have short escapes;
other characters without a printed form are written by number.
-/
namespace DispatchGen.Text

def hexDigits : Nat → Nat → List Char
  | 0, _ => []
  | width + 1, n => hexDigits width (n / 16) ++ [Nat.digitChar (n % 16)]

/-- A character by number: two, four or eight digits. -/
def numberEscape (n : Nat) : List Char :=
  if n < 0x100 then '\\' :: 'x' :: hexDigits 2 n
  else if n < 0x10000 then '\\' :: 'u' :: hexDigits 4 n
  else '\\' :: 'U' :: hexDigits 8 n

def quotedChar (quote c : Char) : List Char :=
  if c = quote || c = '\\' then ['\\', c]
  else if c = '\n' then ['\\', 'n']
  else if c = '\r' then ['\\', 'r']
  else if c = '\t' then ['\\', 't']
  else if unprintable.has c.toNat then numberEscape c.toNat
  else [c]

def quoteFor (s : List Char) : Char :=
  if s.contains '\'' && !s.contains '"' then '"' else '\''

def quoted (s : String) : String :=
  let quote := quoteFor s.toList
  String.ofList (quote :: s.toList.flatMap (quotedChar quote) ++ [quote])

theorem quotedChar_of_plain {quote c : Char} (hq : c ≠ quote) (hb : c ≠ '\\') (hu : ¬ unprintable.has c.toNat) :
    quotedChar quote c = [c] := by
  have hcontrol : ∀ control : Char, unprintable.has control.toNat → c ≠ control := by
    rintro control hcontrol rfl
    exact hu hcontrol
  have hline := hcontrol '\n' (by decide)
  have hreturn := hcontrol '\r' (by decide)
  have htab := hcontrol '\t' (by decide)
  simp [quotedChar, hq, hb, hline, hreturn, htab, hu]

/-- A text without quotes, backslashes and unprintable characters stands between single quotes as it is. -/
theorem quoted_of_plain {s : String}
    (h : ∀ c ∈ s.toList, c ≠ '\'' ∧ c ≠ '\\' ∧ ¬ unprintable.has c.toNat) : quoted s = "'" ++ s ++ "'" := by
  have hquote : quoteFor s.toList = '\'' := by
    have hnone : '\'' ∉ s.toList := fun hmem => (h _ hmem).1 rfl
    simp [quoteFor, hnone]
  have hchars : s.toList.flatMap (quotedChar '\'') = s.toList := by
    have hplain : ∀ c ∈ s.toList, quotedChar '\'' c = [c] := by
      intro c hc
      obtain ⟨hsingle, hback, hprinted⟩ := h c hc
      exact quotedChar_of_plain hsingle hback hprinted
    rw [List.flatMap_def, List.map_congr_left hplain, ← List.flatMap_def, List.flatMap_singleton']
  apply String.toList_inj.mp
  simp only [quoted, hquote, hchars, String.toList_ofList, String.toList_append]
  rfl

example : quoted "a-b" = "'a-b'" := by decide

end DispatchGen.Text
