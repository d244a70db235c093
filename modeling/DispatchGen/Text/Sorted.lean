/-! # Names in code-point order -/
namespace DispatchGen.Text

/-- Ascending by code point, equal names kept. -/
def sorted (names : List String) : List String :=
  names.mergeSort fun a b => decide (a ≤ b)

/-- Ascending by code point, each name once. -/
def sortedDistinct (names : List String) : List String :=
  sorted names.eraseDups

theorem sorted_perm (names : List String) : (sorted names).Perm names :=
  List.mergeSort_perm _ _

@[simp] theorem mem_sorted {a : String} {names : List String} : a ∈ sorted names ↔ a ∈ names :=
  List.mem_mergeSort

theorem pairwise_sorted (names : List String) : (sorted names).Pairwise (· ≤ ·) := by
  have h := @List.pairwise_mergeSort _ (fun a b : String => decide (a ≤ b))
    (fun a b c => by simpa using String.le_trans)
    (fun a b => by simpa using String.le_total a b) names
  simpa [sorted] using h

@[simp] theorem mem_sortedDistinct {a : String} {names : List String} :
    a ∈ sortedDistinct names ↔ a ∈ names := by
  simp [sortedDistinct, List.mem_eraseDups]

end DispatchGen.Text
