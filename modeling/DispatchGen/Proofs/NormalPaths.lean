import DispatchGen.FilePath
import DispatchGen.Proofs.LastComponent
import Mathlib.Data.List.Basic

/-! # Normal forms as file paths

Reading a path in normal form gives its components again. A proper name put behind a directory becomes
the last component and leaves the others as they are in the normal form of the directory.
-/
namespace DispatchGen

namespace Text
variable {sep : Char} {s piece : List Char} {pieces : List (List Char)}

theorem notMem_of_mem_split (h : piece ∈ split sep s) : sep ∉ piece := by
  induction s generalizing piece with
  | nil =>
    rw [split, List.mem_singleton] at h
    rw [h]
    exact List.not_mem_nil
  | cons c cs ih =>
    rw [split] at h
    split at h
    · rcases List.mem_cons.mp h with rfl | hrest
      · exact List.not_mem_nil
      · exact ih hrest
    · next hc =>
      cases hs : split sep cs with
      | nil => exact absurd hs (split_ne_nil sep cs)
      | cons first rest =>
        rw [hs] at h ih
        rcases List.mem_cons.mp h with rfl | hrest
        · rw [List.mem_cons, not_or]
          exact ⟨Ne.symm hc, ih (List.mem_cons_self ..)⟩
        · exact ih (List.mem_cons_of_mem _ hrest)

theorem split_join (hne : pieces ≠ []) (h : ∀ piece ∈ pieces, sep ∉ piece) :
    split sep (join [sep] pieces) = pieces := by
  induction pieces with
  | nil => exact absurd rfl hne
  | cons first rest ih =>
    obtain ⟨hfirst, hrest⟩ := List.forall_mem_cons.mp h
    cases rest with
    | nil => exact split_of_not_mem hfirst
    | cons next others =>
      rw [join, List.append_assoc, List.singleton_append, split_append_sep, split_of_not_mem hfirst,
        ih (List.cons_ne_nil _ _) hrest, List.singleton_append]

theorem join_eq_intercalate (sep : List Char) (pieces : List (List Char)) :
    join sep pieces = sep.intercalate pieces := by
  induction pieces with
  | nil => rfl
  | cons first rest ih =>
    cases rest with
    | nil => rw [join, List.intercalate_singleton]
    | cons next others => rw [join, ih, List.intercalate_cons_cons]

theorem split_replicate_append (count : Nat) :
    split sep (List.replicate count sep ++ s) = List.replicate count [] ++ split sep s := by
  induction count with
  | zero => rfl
  | succ count ih =>
    rw [List.replicate_succ, List.replicate_succ, List.cons_append, List.cons_append, split, if_pos rfl, ih]

end Text

namespace Path
open Text
variable {p name part : List Char} {pieces : List (List Char)}

/-- A component of a normal form; steps up may be left. -/
structure Kept (part : List Char) : Prop where
  noSlash : '/' ∉ part
  ne_nil : part ≠ []
  ne_dot : part ≠ ['.']

theorem kept_of_mem_push {rooted : Bool} {before : List (List Char)} {next : List Char}
    (hbefore : ∀ part ∈ before, Kept part) (hnext : '/' ∉ next) : ∀ part ∈ push rooted before next, Kept part := by
  intro part hpart
  unfold push at hpart
  split at hpart
  · exact hbefore part hpart
  · next hkept =>
    have hnew : Kept next := ⟨hnext, fun h => hkept (Or.inl h), fun h => hkept (Or.inr h)⟩
    split at hpart
    · -- A step up takes the nearest component away, or stays where none can be taken.
      split at hpart
      · split at hpart
        · cases hpart
        · rw [List.mem_singleton] at hpart
          exact hpart ▸ hnew
      · next nearest rest _ =>
        split at hpart
        · rcases List.mem_cons.mp hpart with rfl | hold
          · exact hnew
          · exact hbefore part hold
        · exact hbefore part (List.mem_cons_of_mem _ hpart)
    · rcases List.mem_cons.mp hpart with rfl | hold
      · exact hnew
      · exact hbefore part hold

theorem kept_of_mem_foldl {rooted : Bool} {pieces before : List (List Char)} (hpieces : ∀ piece ∈ pieces, '/' ∉ piece)
    (hbefore : ∀ part ∈ before, Kept part) : ∀ part ∈ pieces.foldl (push rooted) before, Kept part := by
  induction pieces generalizing before with
  | nil => exact hbefore
  | cons piece rest ih =>
    obtain ⟨hpiece, hrest⟩ := List.forall_mem_cons.mp hpieces
    exact ih hrest (kept_of_mem_push hbefore hpiece)

theorem kept_of_mem_parts (h : part ∈ parts p) : Kept part :=
  kept_of_mem_foldl (fun _ hpiece => notMem_of_mem_split hpiece) (fun _ hnone => absurd hnone List.not_mem_nil)
    part (List.mem_reverse.mp h)

/-! ## Slashes at the front -/

theorem takeWhile_slash_eq_nil (h : name.head? ≠ some '/') : name.takeWhile (· = '/') = [] := by
  cases name with
  | nil => rfl
  | cons c rest =>
    have hc : c ≠ '/' := by simpa using h
    rw [List.takeWhile_cons_of_neg (by simpa using hc)]

theorem rootSlashes_eq (p : List Char) : rootSlashes p =
    match (p.takeWhile (· = '/')).length with
    | 0 => 0
    | 2 => 2
    | _ => 1 := by
  have hhead : ∀ {rest : List Char}, (∀ tail, rest = '/' :: tail → False) → rest.head? ≠ some '/' := by
    intro rest hrest hslash
    obtain ⟨tail, rfl⟩ := List.head?_eq_some_iff.mp hslash
    exact hrest tail rfl
  unfold rootSlashes
  split
  · simp
  · next rest hthree =>
    have hnone := takeWhile_slash_eq_nil (@hhead rest fun tail h => hthree tail (by rw [h]))
    simp [hnone]
  · next rest _ htwo =>
    have hnone := takeWhile_slash_eq_nil (@hhead rest fun tail h => htwo tail (by rw [h]))
    simp [hnone]
  · next hone =>
    rw [takeWhile_slash_eq_nil (hhead hone)]
    rfl

theorem rootSlashes_append (h : name.head? ≠ some '/') : rootSlashes (p ++ name) = rootSlashes p := by
  have hsame : (p ++ name).takeWhile (· = '/') = p.takeWhile (· = '/') := by
    rw [List.takeWhile_append, takeWhile_slash_eq_nil h]
    split
    · next hall =>
      rw [List.append_nil]
      exact ((List.takeWhile_prefix _).eq_of_length hall).symm
    · rfl
  rw [rootSlashes_eq, rootSlashes_eq, hsame]

theorem Proper.head?_ne (hn : Proper name) : name.head? ≠ some '/' :=
  fun h => hn.noSlash (List.mem_of_head? h)

/-- Behind an empty directory nothing is put in between, and one that ends in a slash needs none. -/
theorem append_name_cases (directory : List Char) (hn : Proper name) :
    directory = [] ∧ append directory name = name ∨
    (∃ front, directory = front ++ ['/'] ∧ append directory name = front ++ '/' :: name) ∨
    (∃ front c, c ≠ '/' ∧ directory = front ++ [c] ∧ append directory name = directory ++ '/' :: name) := by
  rw [append, if_neg hn.head?_ne]
  rcases List.eq_nil_or_concat' directory with rfl | ⟨front, c, rfl⟩
  · exact Or.inl ⟨rfl, rfl⟩
  · by_cases hc : c = '/'
    · subst hc
      refine Or.inr (Or.inl ⟨front, rfl, ?_⟩)
      rw [if_pos (Or.inr (by simp)), List.append_assoc, List.singleton_append]
    · refine Or.inr (Or.inr ⟨front, c, hc, rfl, ?_⟩)
      rw [if_neg (by simp [hc])]

theorem rootSlashes_append_name (directory : List Char) (hn : Proper name) :
    rootSlashes (append directory name) = rootSlashes directory := by
  rcases append_name_cases directory hn with ⟨rfl, happend⟩ | ⟨front, rfl, happend⟩ | ⟨front, c, hc, rfl, happend⟩
  · rw [happend]
    exact @rootSlashes_append [] name hn.head?_ne
  · have hsplit : front ++ '/' :: name = (front ++ ['/']) ++ name := by simp
    rw [happend, hsplit, rootSlashes_append hn.head?_ne]
  · have hhead : ∀ rest : List Char, (c :: rest).head? ≠ some '/' := fun rest => by simpa using hc
    rw [happend, List.append_assoc, List.singleton_append, rootSlashes_append (hhead _), rootSlashes_append (hhead _)]

theorem parts_append_name (directory : List Char) (hn : Proper name) :
    parts (append directory name) = parts directory ++ [name] := by
  have hpush : ∀ (rooted : Bool) (pieces : List (List Char)),
      ((pieces ++ [name]).foldl (push rooted) []).reverse = (pieces.foldl (push rooted) []).reverse ++ [name] := by
    intro rooted pieces
    rw [List.foldl_append, List.foldl_cons, List.foldl_nil, hn.push_eq, List.reverse_cons]
  rw [parts, parts, rootSlashes_append_name directory hn]
  rcases append_name_cases directory hn with ⟨rfl, happend⟩ | ⟨front, rfl, happend⟩ | ⟨front, c, hc, rfl, happend⟩
  · rw [happend, split_of_not_mem hn.noSlash]
    exact hpush _ []
  · have hempty : ((split '/' front ++ [[]]).foldl (push (rootSlashes (front ++ ['/']) != 0)) []) =
        (split '/' front).foldl (push (rootSlashes (front ++ ['/']) != 0)) [] := by
      rw [List.foldl_append]
      rfl
    rw [happend, split_append_sep, split_append_sep, split_of_not_mem hn.noSlash, hpush, split, hempty]
  · rw [happend, split_append_sep, split_of_not_mem hn.noSlash, hpush]

/-! ## Reading a normal form -/

theorem head?_join_ne (h : ∀ part ∈ pieces, Kept part) : (join ['/'] pieces).head? ≠ some '/' := by
  intro hslash
  cases pieces with
  | nil => cases hslash
  | cons first rest =>
    have hfirst := h first (List.mem_cons_self ..)
    obtain ⟨c, others, rfl⟩ := List.exists_cons_of_ne_nil hfirst.ne_nil
    have hc : (join ['/'] ((c :: others) :: rest)).head? = some c := by
      cases rest <;> rfl
    obtain rfl : c = '/' := Option.some.inj (hc.symm.trans hslash)
    exact hfirst.noSlash (List.mem_cons_self ..)

theorem join_eq_nil (h : ∀ part ∈ pieces, Kept part) (hnil : join ['/'] pieces = []) : pieces = [] := by
  cases pieces with
  | nil => rfl
  | cons first rest =>
    have hfirst := (h first (List.mem_cons_self ..)).ne_nil
    cases rest with
    | nil => exact absurd hnil hfirst
    | cons next others =>
      rw [join, List.append_assoc, List.append_eq_nil_iff] at hnil
      exact absurd hnil.1 hfirst

theorem rootSlashes_replicate (p : List Char) : rootSlashes (List.replicate (rootSlashes p) '/') = rootSlashes p := by
  rw [rootSlashes_eq p]
  split <;> rfl

theorem normal_cases (p : List Char) :
    normal p = ['.'] ∧ rootSlashes p = 0 ∧ parts p = [] ∨
      normal p = List.replicate (rootSlashes p) '/' ++ join ['/'] (parts p) := by
  by_cases hnil : List.replicate (rootSlashes p) '/' ++ join ['/'] (parts p) = []
  · obtain ⟨hroot, hparts⟩ := List.append_eq_nil_iff.mp hnil
    refine Or.inl ⟨?_, (List.replicate_eq_nil_iff _).mp hroot, join_eq_nil (fun _ => kept_of_mem_parts) hparts⟩
    rw [normal, hnil]
  · exact Or.inr (normal_eq hnil)

theorem rootSlashes_normal (p : List Char) : rootSlashes (normal p) = rootSlashes p := by
  rcases normal_cases p with ⟨hdot, hroot, _⟩ | htext
  · rw [hdot, hroot]
    rfl
  · rw [htext, rootSlashes_append (head?_join_ne fun _ => kept_of_mem_parts), rootSlashes_replicate]

theorem filter_split_normal (p : List Char) :
    (split '/' (normal p)).filter (fun name => name ≠ [] ∧ name ≠ ['.']) = parts p := by
  rcases normal_cases p with ⟨hdot, _, hparts⟩ | htext
  · rw [hdot, hparts]
    rfl
  · have hempty : (List.replicate (rootSlashes p) ([] : List Char)).filter
        (fun name => name ≠ [] ∧ name ≠ ['.']) = [] := by
      rw [List.filter_eq_nil_iff]
      intro piece hpiece
      simp [List.eq_of_mem_replicate hpiece]
    rw [htext, split_replicate_append, List.filter_append, hempty, List.nil_append]
    by_cases hparts : parts p = []
    · rw [hparts]
      rfl
    · rw [split_join hparts fun _ hpart => (kept_of_mem_parts hpart).noSlash, List.filter_eq_self]
      intro part hpart
      have hkept := kept_of_mem_parts hpart
      simp [hkept.ne_nil, hkept.ne_dot]

end Path

namespace FilePath
open Text DispatchGen.Path

/-- The path with one more name behind it. -/
def child (path : FilePath) (name : String) : FilePath :=
  { path with names := path.names ++ [name] }

/-- The path is a proper name behind the directory. -/
def IsChildOf (path directory : FilePath) : Prop :=
  ∃ name : String, Proper name.toList ∧ path = directory.child name

theorem child_inj {a b : FilePath} {x y : String} (h : a.child x = b.child y) : a = b := by
  obtain ⟨root, names⟩ := a
  obtain ⟨root', names'⟩ := b
  obtain ⟨rfl, hnames⟩ := FilePath.mk.inj h
  exact congrArg (FilePath.mk root) (List.append_inj' hnames rfl).1

theorem rootOf_eq (text : List Char) : rootOf text = String.ofList (List.replicate (rootSlashes text) '/') := by
  rw [rootOf, rootSlashes_eq]
  generalize (text.takeWhile (· = '/')).length = count
  rcases count with _ | _ | _ | count <;> rfl

/-- A path in normal form is read as its components. -/
theorem ofString_normal (p : List Char) : ofString (String.ofList (normal p)) =
    ⟨String.ofList (List.replicate (rootSlashes p) '/'), (parts p).map String.ofList⟩ := by
  rw [ofString, String.toList_ofList, rootOf_eq, rootSlashes_normal, filter_split_normal]

/-- A name behind a directory is read as one more name behind the directory. -/
theorem ofString_normal_append (directory : List Char) {name : List Char} (hn : Proper name) :
    ofString (String.ofList (normal (Path.append directory name))) =
      (ofString (String.ofList (normal directory))).child (String.ofList name) := by
  rw [ofString_normal, ofString_normal, rootSlashes_append_name directory hn, parts_append_name directory hn,
    List.map_append]
  rfl

theorem append_child (path other : FilePath) (name : String) :
    path.append (other.child name) = (path.append other).child name := by
  by_cases hroot : other.root = ""
  · have hchild : (other.child name).root = "" := hroot
    rw [append, append, if_pos hroot, if_pos hchild, child, child, List.append_assoc]
  · have hchild : ¬ (other.child name).root = "" := hroot
    rw [append, append, if_neg hroot, if_neg hchild]

end FilePath
end DispatchGen
