import DispatchGen.Text.IdentifierRanges

/-! # Identifiers and reserved words

The lexical rule of names in generated modules.
-/
namespace DispatchGen.Text

/-- A letter or underscore, then letters, digits, marks and underscores. -/
def isIdentifier : List Char → Bool
  | [] => false
  | c :: cs => (c = '_' || identifierStart.has c.toNat) && cs.all fun d => identifierContinue.has d.toNat

/-- Words of the generated modules' grammar that cannot name anything. -/
def reservedWords : List String :=
  ["False", "None", "True", "and", "as", "assert", "async", "await", "break", "class", "continue",
   "def", "del", "elif", "else", "except", "finally", "for", "from", "global", "if", "import", "in",
   "is", "lambda", "nonlocal", "not", "or", "pass", "raise", "return", "try", "while", "with",
   "yield"]

/-- Fit to name a class, a method or a module in generated code. -/
def isUsableName (name : String) : Bool :=
  isIdentifier name.toList && !reservedWords.contains name

theorem notMem_of_isIdentifier {s : List Char} (h : isIdentifier s) {c : Char}
    (hc : (c = '_' || identifierStart.has c.toNat || identifierContinue.has c.toNat) = false) : c ∉ s := by
  intro hmem
  cases s with
  | nil => cases hmem
  | cons first rest =>
    simp only [isIdentifier, Bool.and_eq_true, List.all_eq_true] at h
    obtain ⟨hfirst, hrest⟩ := h
    rw [Bool.or_eq_false_iff] at hc
    rcases List.mem_cons.mp hmem with rfl | hmem
    · exact absurd hfirst (by simp [hc.1])
    · exact absurd (hrest c hmem) (by simp [hc.2])

end DispatchGen.Text
