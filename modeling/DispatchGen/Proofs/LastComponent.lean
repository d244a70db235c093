import DispatchGen.Path
import Mathlib.Data.List.TakeWhile

/-! # The last component of a path

A proper component put behind a directory stays the last one, whatever the directory is and however
the path changes on its way into normal form.
-/
namespace DispatchGen

namespace Text

theorem split_of_not_mem {sep : Char} {s : List Char} (h : sep ∉ s) : split sep s = [s] := by
  induction s with
  | nil => rfl
  | cons c cs ih =>
    obtain ⟨hc, hcs⟩ := not_or.mp (fun hmem => h (List.mem_cons.mpr hmem))
    simp only [split, if_neg (Ne.symm hc), ih hcs]

theorem split_append_sep (sep : Char) (s t : List Char) :
    split sep (s ++ sep :: t) = split sep s ++ split sep t := by
  induction s with
  | nil => simp [split]
  | cons c cs ih =>
    by_cases h : c = sep
    · simp only [List.cons_append, split, if_pos h, ih]
    · cases hs : split sep cs with
      | nil => exact absurd hs (split_ne_nil sep cs)
      | cons piece rest => simp only [List.cons_append, split, if_neg h, ih, hs]

theorem join_concat (sep : List Char) {pieces : List (List Char)} (hne : pieces ≠ []) (piece : List Char) :
    join sep (pieces ++ [piece]) = join sep pieces ++ sep ++ piece := by
  induction pieces with
  | nil => exact absurd rfl hne
  | cons first rest ih =>
    cases rest with
    | nil => rfl
    | cons next rest =>
      have h := ih (List.cons_ne_nil _ _)
      simp only [List.cons_append] at h ⊢
      simp only [join, h, List.append_assoc]

end Text

namespace Path
open Text

theorem slash_notMem_base (p : List Char) : '/' ∉ base p := by
  intro h
  have hne := List.mem_takeWhile_imp (List.mem_reverse.mp h)
  simp at hne

/-- A component that the normal form keeps as it is. -/
structure Proper (name : List Char) : Prop where
  noSlash : '/' ∉ name
  ne_nil : name ≠ []
  ne_dot : name ≠ ['.']
  ne_up : name ≠ ['.', '.']

/-- The path is the name alone or ends in a slash and the name. -/
def EndsIn (p name : List Char) : Prop :=
  p = name ∨ ∃ front, p = front ++ '/' :: name

variable {p name : List Char}

theorem ne_slash_of_mem_reverse (h : '/' ∉ name) : ∀ c ∈ name.reverse, decide (c ≠ '/') = true := by
  intro c hc
  exact decide_eq_true fun heq => h (heq ▸ List.mem_reverse.mp hc)

theorem head_append (h : '/' ∉ name) : head (p ++ name) = head p := by
  rw [head, head, List.reverse_append, List.dropWhile_append_of_pos (ne_slash_of_mem_reverse h)]

theorem base_append (h : '/' ∉ name) : base (p ++ name) = base p ++ name := by
  rw [base, base, List.reverse_append, List.takeWhile_append_of_pos (ne_slash_of_mem_reverse h),
    List.reverse_append, List.reverse_reverse]

theorem EndsIn.append_left (front : List Char) (h : EndsIn p name) : EndsIn (front ++ '/' :: p) name := by
  rcases h with rfl | ⟨inner, rfl⟩
  · exact Or.inr ⟨front, rfl⟩
  · exact Or.inr ⟨front ++ '/' :: inner, by simp⟩

theorem EndsIn.replicate_append (count : Nat) (h : EndsIn p name) :
    EndsIn (List.replicate count '/' ++ p) name := by
  cases count with
  | zero => exact h
  | succ count =>
    rw [List.replicate_succ', List.append_assoc]
    exact h.append_left _

theorem endsIn_append (directory : List Char) (hn : '/' ∉ name) : EndsIn (append directory name) name := by
  have hhead : name.head? ≠ some '/' := fun h => hn (List.mem_of_head? h)
  rw [append, if_neg hhead]
  split
  next h =>
    rcases h with rfl | hlast
    · exact Or.inl rfl
    · obtain ⟨front, rfl⟩ := List.getLast?_eq_some_iff.mp hlast
      exact Or.inr ⟨front, by simp⟩
  next => exact Or.inr ⟨directory, rfl⟩

theorem EndsIn.split_eq (h : EndsIn p name) (hn : '/' ∉ name) : ∃ pieces, split '/' p = pieces ++ [name] := by
  rcases h with rfl | ⟨front, rfl⟩
  · exact ⟨[], split_of_not_mem hn⟩
  · exact ⟨split '/' front, by rw [split_append_sep, split_of_not_mem hn]⟩

theorem EndsIn.base_eq (h : EndsIn p name) (hn : '/' ∉ name) : base p = name := by
  rcases h with rfl | ⟨front, rfl⟩
  · exact @base_append [] p hn
  · have hsplit : front ++ '/' :: name = (front ++ ['/']) ++ name := by simp
    rw [hsplit, base_append hn]
    simp [base]

theorem endsIn_join (pieces : List (List Char)) : EndsIn (join ['/'] (pieces ++ [name])) name := by
  by_cases hne : pieces = []
  · subst hne
    exact Or.inl rfl
  · rw [join_concat _ hne]
    exact Or.inr ⟨join ['/'] pieces, by simp⟩

theorem push_of_dropped {part : List Char} (h : part = [] ∨ part = ['.']) (rooted : Bool)
    (before : List (List Char)) : push rooted before part = before := by
  unfold push
  rw [if_pos h]

theorem push_of_plain {part : List Char} (h : ¬ (part = [] ∨ part = ['.'])) (hup : part ≠ ['.', '.'])
    (rooted : Bool) (before : List (List Char)) : push rooted before part = part :: before := by
  unfold push
  rw [if_neg h, if_neg hup]

theorem Proper.push_eq (h : Proper name) (rooted : Bool) (before : List (List Char)) :
    push rooted before name = name :: before :=
  push_of_plain (not_or.mpr ⟨h.ne_nil, h.ne_dot⟩) h.ne_up rooted before

theorem EndsIn.parts_eq (h : EndsIn p name) (hn : Proper name) : ∃ before, parts p = before ++ [name] := by
  obtain ⟨pieces, hsplit⟩ := h.split_eq hn.noSlash
  refine ⟨(pieces.foldl (push (rootSlashes p != 0)) []).reverse, ?_⟩
  rw [parts, hsplit, List.foldl_append, List.foldl_cons, List.foldl_nil, hn.push_eq, List.reverse_cons]

theorem normal_eq (h : List.replicate (rootSlashes p) '/' ++ join ['/'] (parts p) ≠ []) :
    normal p = List.replicate (rootSlashes p) '/' ++ join ['/'] (parts p) := by
  unfold normal
  split
  next hnil => exact absurd hnil h
  next => rfl

theorem EndsIn.normal (h : EndsIn p name) (hn : Proper name) : EndsIn (normal p) name := by
  obtain ⟨before, hparts⟩ := h.parts_eq hn
  have hends : EndsIn (List.replicate (rootSlashes p) '/' ++ join ['/'] (parts p)) name := by
    rw [hparts]
    exact (endsIn_join before).replicate_append _
  rw [normal_eq]
  · exact hends
  · intro hnil
    rw [hnil] at hends
    rcases hends with hname | ⟨front, hfront⟩
    · exact hn.ne_nil hname.symm
    · simp at hfront

theorem base_normal_append (directory : List Char) (hn : Proper name) :
    base (normal (append directory name)) = name :=
  ((endsIn_append directory hn.noSlash).normal hn).base_eq hn.noSlash

end Path
end DispatchGen
