import DispatchGen.Proofs.NormalPaths
import DispatchGen.Text.Identifier
import Mathlib.Data.List.Chain

/-! # Usable names

A text of letters that continue an identifier can stand behind any identifier, and also behind a text that is
empty when it is an identifier itself. No reserved word holds an underscore or one of a few capitals, so such
a text keeps a name from being reserved. Dotted names are taken apart at their dots.
-/
namespace DispatchGen.Text

namespace Ranges
variable {ranges big small : Ranges} {n : Nat}

/-- Some range of the row holds the code point. -/
def Covers (ranges : Ranges) (n : Nat) : Prop :=
  ∃ range ∈ ranges, range.1 ≤ n ∧ n ≤ range.2

theorem covers_of_has (h : has n ranges) : Covers ranges n := by
  induction ranges with
  | nil => cases h
  | cons range rest ih =>
    simp only [has] at h
    split at h
    · cases h
    · rcases Bool.or_eq_true_iff.mp h with hlast | hrest
      · exact ⟨range, List.mem_cons_self .., by omega, of_decide_eq_true hlast⟩
      · obtain ⟨other, hother, hn⟩ := ih hrest
        exact ⟨other, List.mem_cons_of_mem _ hother, hn⟩

/-- In ascending ranges the search does not end before the range that holds the code point. -/
theorem has_of_covers (hranges : ranges.Pairwise fun a b => a.1 ≤ b.1) (h : Covers ranges n) : has n ranges := by
  induction hranges with
  | nil =>
    obtain ⟨_, hmem, _⟩ := h
    cases hmem
  | @cons first rest hfirst _ ih =>
    obtain ⟨range, hmem, hlow, hhigh⟩ := h
    simp only [has]
    rcases List.mem_cons.mp hmem with rfl | hrest
    · rw [if_neg (by omega), decide_eq_true hhigh, Bool.true_or]
    · have hlow' : first.1 ≤ n := (hfirst range hrest).trans hlow
      rw [if_neg (by omega), ih ⟨range, hrest, hlow, hhigh⟩, Bool.or_true]

/-- Goes through both rows once: each small range must lie inside the big range reached. -/
def spans : Ranges → Ranges → Bool
  | [], small => small.isEmpty
  | (first, last) :: rest, small => spans rest (small.dropWhile fun range => first ≤ range.1 && range.2 ≤ last)

theorem covers_of_spans (h : spans big small) (hn : Covers small n) : Covers big n := by
  induction big generalizing small with
  | nil =>
    obtain ⟨_, hmem, _⟩ := hn
    rw [List.isEmpty_iff.mp h] at hmem
    cases hmem
  | cons range rest ih =>
    obtain ⟨inner, hmem, hinner⟩ := hn
    have hsplit := List.takeWhile_append_dropWhile (p := fun r : Nat × Nat => range.1 ≤ r.1 && r.2 ≤ range.2)
      (l := small)
    rcases List.mem_append.mp (hsplit ▸ hmem) with htaken | hleft
    · have hinside := List.mem_takeWhile_imp htaken
      simp only [Bool.and_eq_true, decide_eq_true_eq] at hinside
      exact ⟨range, List.mem_cons_self .., by omega, by omega⟩
    · obtain ⟨other, hother, hn⟩ := ih h ⟨inner, hleft, hinner⟩
      exact ⟨other, List.mem_cons_of_mem _ hother, hn⟩

end Ranges

theorem ascending_identifierContinue : identifierContinue.Pairwise fun a b => a.1 ≤ b.1 := by
  have hchain : identifierContinue.IsChain fun a b => a.1 ≤ b.1 := by decide +kernel
  have htrans : Trans (fun a b : Nat × Nat => a.1 ≤ b.1) (fun a b : Nat × Nat => a.1 ≤ b.1)
      (fun a b : Nat × Nat => a.1 ≤ b.1) := ⟨fun hab hbc => Nat.le_trans hab hbc⟩
  exact List.isChain_iff_pairwise.mp hchain

/-- What can open an identifier can also stand inside one. -/
theorem identifierContinue_of_start {c : Char} (h : c = '_' ∨ identifierStart.has c.toNat) :
    identifierContinue.has c.toNat := by
  rcases h with rfl | h
  · decide +kernel
  · have hspans : Ranges.spans identifierContinue identifierStart := by decide +kernel
    exact Ranges.has_of_covers ascending_identifierContinue
      (Ranges.covers_of_spans hspans (Ranges.covers_of_has h))

section Identifiers
variable {s t : List Char} {c : Char}

theorem isIdentifier_cons : isIdentifier (c :: s) ↔
    (c = '_' ∨ identifierStart.has c.toNat) ∧ ∀ d ∈ s, identifierContinue.has d.toNat := by
  simp only [isIdentifier, Bool.and_eq_true, Bool.or_eq_true, decide_eq_true_eq, List.all_eq_true]

theorem continues_of_mem (h : isIdentifier s) (hc : c ∈ s) : identifierContinue.has c.toNat := by
  cases s with
  | nil => cases hc
  | cons first rest =>
    obtain ⟨hfirst, hrest⟩ := isIdentifier_cons.mp h
    rcases List.mem_cons.mp hc with rfl | hc
    · exact identifierContinue_of_start hfirst
    · exact hrest c hc

/-- Fit to stand before letters that are an identifier by themselves. -/
def OpensIdentifier (s : List Char) : Prop := s = [] ∨ isIdentifier s

instance : DecidablePred OpensIdentifier := fun s => inferInstanceAs (Decidable (s = [] ∨ isIdentifier s = true))

theorem OpensIdentifier.continues (h : OpensIdentifier s) (hc : c ∈ s) : identifierContinue.has c.toNat := by
  rcases h with rfl | h
  · cases hc
  · exact continues_of_mem h hc

theorem isIdentifier_append_iff (ht : isIdentifier t) : isIdentifier (s ++ t) ↔ OpensIdentifier s := by
  cases s with
  | nil => simp [OpensIdentifier, ht]
  | cons c rest =>
    have hnil : c :: rest ≠ [] := List.cons_ne_nil _ _
    rw [OpensIdentifier, or_iff_right hnil, List.cons_append, isIdentifier_cons, isIdentifier_cons,
      List.forall_mem_append]
    exact and_congr_right fun _ => and_iff_left fun d hd => continues_of_mem ht hd

/-- No reserved word holds the letter. -/
abbrev Unreserved (c : Char) : Prop := ∀ word ∈ reservedWords, c ∉ word.toList

theorem unreserved_underscore : Unreserved '_' := by
  decide

theorem isUsableName_iff_of_unreserved {name : String} (hc : Unreserved c) (hname : c ∈ name.toList) :
    isUsableName name ↔ isIdentifier name.toList := by
  have hreserved : reservedWords.contains name = false := by
    rw [← Bool.not_eq_true, List.contains_iff_mem]
    exact fun hmem => hc name hmem hname
  rw [isUsableName, hreserved, Bool.not_false, Bool.and_true]

/-- An ending that is an identifier makes every text before it usable that can open an identifier. -/
theorem isUsableName_append_iff {ending : String} (hending : isIdentifier ending.toList) (hc : Unreserved c)
    (hmem : c ∈ ending.toList) (name : String) :
    isUsableName (name ++ ending) ↔ OpensIdentifier name.toList := by
  have hname : c ∈ (name ++ ending).toList := by
    rw [String.toList_append]
    exact List.mem_append_right _ hmem
  rw [isUsableName_iff_of_unreserved hc hname, String.toList_append, isIdentifier_append_iff hending]

theorem dot_notMem_of_isIdentifier (h : isIdentifier s) : '.' ∉ s :=
  notMem_of_isIdentifier h (by decide +kernel)

theorem isIdentifier_of_isUsableName {name : String} (h : isUsableName name) : isIdentifier name.toList :=
  (Bool.and_eq_true_iff.mp h).1

end Identifiers

/-- The parts of a dotted name. -/
def components (name : String) : List String :=
  (split '.' name.toList).map String.ofList

theorem components_of_no_dot {name : String} (h : '.' ∉ name.toList) : components name = [name] := by
  rw [components, split_of_not_mem h, List.map_singleton, String.ofList_toList]

theorem split_join_flatMap {pieces : List (List Char)} (hne : pieces ≠ []) (sep : Char) :
    split sep (join [sep] pieces) = pieces.flatMap (split sep) := by
  induction pieces with
  | nil => exact absurd rfl hne
  | cons first rest ih =>
    cases rest with
    | nil => rw [join, List.flatMap_singleton]
    | cons next others =>
      rw [join, List.append_assoc, List.singleton_append, split_append_sep, ih (List.cons_ne_nil _ _)]
      rfl

theorem components_intercalate {names : List String} (hne : names ≠ []) :
    components (".".intercalate names) = names.flatMap components := by
  have hpieces : names.map String.toList ≠ [] := by simpa using hne
  have hdots : (".".intercalate names).toList = join ['.'] (names.map String.toList) := by
    rw [String.toList_intercalate, join_eq_intercalate]
    rfl
  rw [components, hdots, split_join_flatMap hpieces, List.flatMap_map, List.map_flatMap]
  rfl

end DispatchGen.Text
