import DispatchGen.Proofs.RootSelection

/-! # One walk for types and roots

Types and root files can be gathered in one walk from the last file to the first. Every file gives its
types; its name is compared while fewer roots are found than names are wanted. The roots found so far are
always different wanted names, so at equal numbers none is missing and the comparisons left out would have
changed nothing. The walk ends with the catalog of all files and the roots of the search by name.
-/
namespace DispatchGen
open Text

/-- What a walk has gathered; the roots stand in the order in which they were found. -/
structure Survey where
  catalog : Catalog := .empty
  roots : List Root := []

namespace Survey
variable {wanted : List String} {survey : Survey}

def names (survey : Survey) : List String :=
  survey.roots.map (·.file.name)

def enter (survey : Survey) (file : SourceFile) : Survey :=
  { survey with catalog := file.entries.foldl Catalog.insert survey.catalog }

/-- The name is wanted and has no root yet. -/
abbrev Lacks (wanted : List String) (survey : Survey) (name : String) : Prop :=
  name ∈ wanted ∧ name ∉ survey.names

/-- Takes a file as a root when its name lacks one. -/
def compare (wanted : List String) (survey : Survey) (root : Root) : Survey :=
  if Lacks wanted survey root.file.name then
    { survey with roots := survey.roots ++ [root] }
  else survey

/-- One step of the walk; nothing is compared once there are as many roots as names. -/
def visit (wanted : List String) (survey : Survey) (root : Root) : Survey :=
  if survey.roots.length = wanted.length then survey.enter root.file
  else compare wanted (survey.enter root.file) root

def visitFully (wanted : List String) (survey : Survey) (root : Root) : Survey :=
  compare wanted (survey.enter root.file) root

def ofRequest (requested : List String) (files : List SourceFile) : Survey :=
  (Root.fromLast files).foldl (visit requested.eraseDups) {}

def withoutStop (requested : List String) (files : List SourceFile) : Survey :=
  (Root.fromLast files).foldl (visitFully requested.eraseDups) {}

/-- The roots found so far are roots of different wanted names. -/
structure Sound (wanted : List String) (survey : Survey) : Prop where
  nodup : survey.names.Nodup
  wanted : survey.names ⊆ wanted

theorem sound_empty (wanted : List String) : Sound wanted {} :=
  ⟨List.nodup_nil, List.nil_subset _⟩

theorem sound_compare (h : Sound wanted survey) (root : Root) : Sound wanted (compare wanted survey root) := by
  unfold compare
  split
  next hnew =>
    have hnames : names { survey with roots := survey.roots ++ [root] } = survey.names ++ [root.file.name] := by
      simp [names]
    constructor
    · rw [hnames, List.nodup_append]
      refine ⟨h.nodup, List.nodup_singleton _, fun name hname other hother heq => hnew.2 ?_⟩
      rwa [← List.mem_singleton.mp hother, ← heq]
    · rw [hnames, List.append_subset]
      exact ⟨h.wanted, List.cons_subset.mpr ⟨hnew.1, List.nil_subset _⟩⟩
  next => exact h

theorem sound_visitFully (h : Sound wanted survey) (root : Root) :
    Sound wanted (visitFully wanted survey root) :=
  have hentered : Sound wanted (survey.enter root.file) := ⟨h.nodup, h.wanted⟩
  sound_compare hentered root

/-- At equal numbers every wanted name has its root. -/
theorem mem_names_of_full (h : Sound wanted survey) (hfull : survey.roots.length = wanted.length) {name : String}
    (hname : name ∈ wanted) : name ∈ survey.names := by
  have hlength : wanted.length ≤ survey.names.length := by
    rw [names, List.length_map, hfull]
  exact ((h.nodup.subperm h.wanted).perm_of_length_le hlength).mem_iff.mpr hname

/-- So the comparison that is left out takes nothing. -/
theorem visit_eq (h : Sound wanted survey) (root : Root) :
    visit wanted survey root = visitFully wanted survey root := by
  unfold visit
  split
  next hfull =>
    have hold : ¬ Lacks wanted (survey.enter root.file) root.file.name :=
      fun hnew => hnew.2 (mem_names_of_full h hfull hnew.1)
    rw [visitFully, compare, if_neg hold]
  next => rfl

theorem foldl_visit_eq (h : Sound wanted survey) (roots : List Root) :
    roots.foldl (visit wanted) survey = roots.foldl (visitFully wanted) survey := by
  induction roots generalizing survey with
  | nil => rfl
  | cons root rest ih => rw [List.foldl_cons, List.foldl_cons, visit_eq h, ih (sound_visitFully h root)]

theorem catalog_compare (survey : Survey) (root : Root) :
    (compare wanted survey root).catalog = survey.catalog := by
  unfold compare
  split <;> rfl

/-- Whatever is compared, the types of every file are entered. -/
theorem catalog_foldl (roots : List Root) (survey : Survey) :
    (roots.foldl (visitFully wanted) survey).catalog =
      (roots.flatMap fun root => root.file.entries).foldl Catalog.insert survey.catalog := by
  induction roots generalizing survey with
  | nil => rfl
  | cons root rest ih =>
    rw [List.foldl_cons, ih, visitFully, catalog_compare, List.flatMap_cons, List.foldl_append]
    rfl

theorem visitFully_of_lacks {root : Root} (h : Lacks wanted survey root.file.name) :
    visitFully wanted survey root = ⟨(survey.enter root.file).catalog, survey.roots ++ [root]⟩ :=
  if_pos h

theorem visitFully_of_not_lacks {root : Root} (h : ¬ Lacks wanted survey root.file.name) :
    visitFully wanted survey root = survey.enter root.file :=
  if_neg h

/-- What the walk still finds are the latest files of the names that lack a root. -/
theorem roots_foldl (roots : List Root) (survey : Survey) :
    (roots.foldl (visitFully wanted) survey).roots =
      survey.roots ++ (Root.latest roots).filter fun root => Lacks wanted survey root.file.name := by
  induction roots generalizing survey with
  | nil => simp [Root.latest]
  | cons root rest ih =>
    rw [List.foldl_cons, ih, Root.latest]
    by_cases hnew : Lacks wanted survey root.file.name
    · have hfound : ∀ name, Lacks wanted ⟨(survey.enter root.file).catalog, survey.roots ++ [root]⟩ name ↔
          Lacks wanted survey name ∧ name ≠ root.file.name := by
        intro name
        simp [Lacks, names, not_or, and_assoc]
      rw [visitFully_of_lacks hnew, List.filter_cons_of_pos (by simpa using hnew), List.filter_filter]
      simp only [hfound, Bool.decide_and, List.append_assoc, List.singleton_append]
    · have hother : ∀ other ∈ Root.latest rest, decide (Lacks wanted (survey.enter root.file) other.file.name) =
          (decide (Lacks wanted survey other.file.name) && decide (other.file.name ≠ root.file.name)) := by
        intro other _
        rw [← Bool.decide_and]
        exact decide_eq_decide.mpr ⟨fun hother => ⟨hother, fun heq => hnew (heq ▸ hother)⟩, And.left⟩
      rw [visitFully_of_not_lacks hnew, List.filter_cons_of_neg (by simpa using hnew), List.filter_filter,
        List.filter_congr hother]
      rfl

theorem withoutStop_eq (requested : List String) (files : List SourceFile) :
    withoutStop requested files = ⟨Catalog.ofFiles files, Root.find requested files⟩ := by
  have hcatalog : (withoutStop requested files).catalog = Catalog.ofFiles files := by
    rw [withoutStop, catalog_foldl, Catalog.ofFiles, ← Root.map_file_fromLast, List.flatMap_map]
  have hroots : (withoutStop requested files).roots = Root.find requested files := by
    rw [withoutStop, roots_foldl, Root.find_eq_filter]
    simp [names]
  rw [← hcatalog, ← hroots]

theorem ofRequest_eq (requested : List String) (files : List SourceFile) :
    ofRequest requested files = ⟨Catalog.ofFiles files, Root.find requested files⟩ := by
  rw [ofRequest, foldl_visit_eq (sound_empty _)]
  exact withoutStop_eq requested files

end Survey

namespace Root
variable {requested others : List String} {files : List SourceFile} {root : Root}

theorem mem_fromLast : root ∈ fromLast files ↔ files[root.position]? = some root.file := by
  rw [fromLast, List.mem_reverse, List.mem_map]
  constructor
  · rintro ⟨pair, hpair, rfl⟩
    exact List.mem_zipIdx_iff_getElem?.mp hpair
  · intro h
    exact ⟨(root.file, root.position), List.mem_zipIdx_iff_getElem?.mpr h, rfl⟩

theorem pairwise_fromLast (files : List SourceFile) :
    (fromLast files).Pairwise fun a b => b.position < a.position := by
  rw [fromLast, List.pairwise_reverse, List.pairwise_map]
  have hpositions : ((files.zipIdx).map (·.2)).Pairwise (· < ·) := by
    rw [List.zipIdx_map_snd]
    exact List.pairwise_lt_range' ..
  exact List.pairwise_map.mp hpositions

theorem latest_sublist (roots : List Root) : (latest roots).Sublist roots := by
  induction roots with
  | nil => exact .slnil
  | cons root rest ih => exact (List.filter_sublist.trans ih).cons_cons root

/-- Of the files with one name exactly one is the latest, and the others stand behind it. -/
theorem pairwise_latest {roots : List Root} {r : Root → Root → Prop} (h : roots.Pairwise r) :
    ∀ root ∈ latest roots, ∀ other ∈ roots, other.file.name = root.file.name → other = root ∨ r root other := by
  induction h with
  | nil =>
    intro root hroot
    cases hroot
  | @cons first rest hfirst _ ih =>
    intro root hroot other hother hname
    rw [latest, List.mem_cons, List.mem_filter, decide_eq_true_eq] at hroot
    rcases hroot with rfl | ⟨hroot, hne⟩
    · rcases List.mem_cons.mp hother with rfl | hother
      · exact Or.inl rfl
      · exact Or.inr (hfirst other hother)
    · rcases List.mem_cons.mp hother with rfl | hother
      · exact absurd hname.symm hne
      · exact ih root hroot other hother hname

theorem nodup_names_latest (roots : List Root) : ((latest roots).map (·.file.name)).Nodup := by
  induction roots with
  | nil => exact List.nodup_nil
  | cons root rest ih =>
    rw [latest, List.map_cons, List.nodup_cons]
    refine ⟨?_, ih.sublist (List.filter_sublist.map _)⟩
    simp

theorem mem_names_latest {roots : List Root} {name : String} :
    name ∈ (latest roots).map (·.file.name) ↔ name ∈ roots.map (·.file.name) := by
  induction roots with
  | nil => rfl
  | cons root rest ih =>
    rw [latest, List.map_cons, List.map_cons, List.mem_cons, List.mem_cons, ← ih]
    by_cases hname : name = root.file.name
    · simp [hname]
    · have hkept : ∀ other : Root, other.file.name = name → other.file.name ≠ root.file.name :=
        fun _ heq hroot => hname (heq.symm.trans hroot)
      simp only [hname, false_or, List.mem_map, List.mem_filter, decide_eq_true_eq]
      constructor
      · rintro ⟨other, ⟨hmem, _⟩, heq⟩
        exact ⟨other, hmem, heq⟩
      · rintro ⟨other, hmem, heq⟩
        exact ⟨other, ⟨hmem, hkept other heq⟩, heq⟩

/-- The roots are the requested files that there are, for each name the last file, the later ones first. -/
structure Selects (requested : List String) (files : List SourceFile) (roots : List Root) : Prop where
  nodup : (roots.map (·.file.name)).Nodup
  mem_names : ∀ name, name ∈ roots.map (·.file.name) ↔ name ∈ requested ∧ ∃ file ∈ files, file.name = name
  file_at : ∀ root ∈ roots, files[root.position]? = some root.file
  last : ∀ root ∈ roots, ∀ position file, files[position]? = some file → file.name = root.file.name →
    position ≤ root.position
  descending : roots.Pairwise fun a b => b.position < a.position

theorem mem_names_find {name : String} : name ∈ (find requested files).map (·.file.name) ↔
    name ∈ requested ∧ ∃ file ∈ files, file.name = name := by
  have hlatest : name ∈ (latest (fromLast files)).map (·.file.name) ↔ ∃ file ∈ files, file.name = name := by
    have hnames : (fromLast files).map (·.file.name) = files.reverse.map (·.name) := by
      rw [← map_file_fromLast, List.map_map]
      rfl
    rw [mem_names_latest, hnames, List.map_reverse, List.mem_reverse, List.mem_map]
  rw [← hlatest, find_eq_filter, List.mem_map, List.mem_map]
  constructor
  · rintro ⟨root, hroot, rfl⟩
    obtain ⟨hmem, hname⟩ := List.mem_filter.mp hroot
    exact ⟨of_decide_eq_true hname, root, hmem, rfl⟩
  · rintro ⟨hname, root, hroot, rfl⟩
    exact ⟨root, List.mem_filter.mpr ⟨hroot, decide_eq_true hname⟩, rfl⟩

theorem find_selects (requested : List String) (files : List SourceFile) :
    Selects requested files (find requested files) := by
  have hlatest : (find requested files).Sublist (latest (fromLast files)) :=
    find_eq_filter requested files ▸ List.filter_sublist
  have hsublist : (find requested files).Sublist (fromLast files) := hlatest.trans (latest_sublist _)
  refine ⟨(nodup_names_latest _).sublist (hlatest.map _), fun name => mem_names_find,
    fun root hroot => mem_fromLast.mp (hsublist.subset hroot), ?_, (pairwise_fromLast files).sublist hsublist⟩
  intro root hroot position file hfile hname
  have hother : (⟨file, position⟩ : Root) ∈ fromLast files := mem_fromLast.mpr hfile
  rcases pairwise_latest (pairwise_fromLast files) root (hlatest.subset hroot) _ hother hname with rfl | hlt
  · exact Nat.le_refl _
  · exact Nat.le_of_lt hlt

theorem find_congr (h : ∀ name, name ∈ others ↔ name ∈ requested) : find others files = find requested files := by
  rw [find_eq_filter, find_eq_filter]
  exact List.filter_congr fun root _ => decide_eq_decide.mpr (h root.file.name)

/-- What is absent are the requested names that no file has. -/
theorem mem_absent_find {name : String} : name ∈ absent requested (find requested files) ↔
    name ∈ requested ∧ ∀ file ∈ files, file.name ≠ name := by
  have hroots : ((find requested files).any fun root => root.file.name = name) = true ↔
      name ∈ requested ∧ ∃ file ∈ files, file.name = name := by
    rw [← mem_names_find, List.mem_map, List.any_eq_true]
    simp only [decide_eq_true_eq]
  rw [absent, mem_sortedDistinct, List.mem_filter, Bool.not_eq_true', ← Bool.not_eq_true, hroots]
  constructor
  · exact fun ⟨hname, hnone⟩ => ⟨hname, fun file hfile heq => hnone ⟨hname, file, hfile, heq⟩⟩
  · exact fun ⟨hname, hnone⟩ => ⟨hname, fun ⟨_, file, hfile, heq⟩ => hnone file hfile heq⟩

theorem pairwise_absent (requested : List String) (roots : List Root) :
    (absent requested roots).Pairwise (· < ·) :=
  pairwise_sortedDistinct _

theorem absent_congr (h : ∀ name, name ∈ others ↔ name ∈ requested) :
    absent others (find others files) = absent requested (find requested files) := by
  refine (pairwise_absent others _).eq_of_mem_iff (pairwise_absent requested _) fun name => ?_
  rw [mem_absent_find, mem_absent_find, h]

end Root

/-- One walk over the files, which stops comparing at equal numbers, gives the catalog of all files whatever
is requested, and of the requested names the last file of each, the later files first. It gives the same
without the stop, and order and repetition of the names change nothing. There is one warning when a requested
name has no file; it lists these names in order. -/
theorem Survey.ofRequest_selects (requested : List String) (files : List SourceFile) :
    (ofRequest requested files).catalog = Catalog.ofFiles files ∧
    (ofRequest requested files).roots = Root.find requested files ∧
    Root.Selects requested files (Root.find requested files) ∧
    withoutStop requested files = ofRequest requested files ∧
    (∀ others, (∀ name, name ∈ others ↔ name ∈ requested) →
      ofRequest others files = ofRequest requested files ∧
      Root.diagnostics others (Root.find others files) =
        Root.diagnostics requested (Root.find requested files)) ∧
    ∃ absent : List String, absent.Pairwise (· < ·) ∧
      (∀ name, name ∈ absent ↔ name ∈ requested ∧ ∀ file ∈ files, file.name ≠ name) ∧
      Root.diagnostics requested (Root.find requested files) =
        if absent = [] then []
        else [⟨.warning, .catalog, "requested file(s) not present in request: " ++ ", ".intercalate absent⟩] := by
  rw [ofRequest_eq, withoutStop_eq]
  refine ⟨rfl, rfl, Root.find_selects requested files, rfl, fun others hothers => ⟨?_, ?_⟩,
    Root.absent requested (Root.find requested files), Root.pairwise_absent _ _,
    fun name => Root.mem_absent_find, ?_⟩
  · rw [ofRequest_eq, Root.find_congr hothers]
  · rw [Root.diagnostics, Root.diagnostics, Root.absent_congr hothers]
  · unfold Root.diagnostics
    split
    next hnil => rw [if_pos hnil]
    next hne => rw [if_neg hne]

/-- Two files of one name, one that is not requested, and a request that repeats a name. -/
example : (Root.find ["b", "a", "b"] [{ name := "a" }, { name := "b", package := "first" }, { name := "c" },
    { name := "b", package := "last" }]).map (fun root => (root.file.package, root.position)) =
      [("last", 3), ("", 0)] := by
  decide

end DispatchGen
