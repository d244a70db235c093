import DispatchGen.Proofs.BoundNames
import DispatchGen.Proofs.EntryNames
import DispatchGen.Proofs.UsableNames

/-! # Names in code

A module uses the names of the service and of its methods, which are checked, and names that it takes from
the files and messages it refers to, which are not: the directories of a file become a package, its last
component becomes a module, its whole name becomes a bound name, and the names of messages become a path of
attributes. These names are usable when what they are taken from is.
-/
namespace DispatchGen
open Text

namespace Text
variable {sep c : Char} {s : List Char}

theorem exists_split_cons (h : c ≠ sep) (s : List Char) :
    ∃ piece rest, split sep (c :: s) = (c :: piece) :: rest := by
  rw [split, if_neg h]
  cases split sep s with
  | nil => exact ⟨[], [], rfl⟩
  | cons piece rest => exact ⟨piece, rest, rfl⟩

theorem mem_join {between : List Char} {pieces : List (List Char)} (hc : c ∈ join between pieces) :
    c ∈ between ∨ ∃ piece ∈ pieces, c ∈ piece := by
  induction pieces with
  | nil => cases hc
  | cons first rest ih =>
    have hfirst : c ∈ first → ∃ piece ∈ first :: rest, c ∈ piece := fun h => ⟨first, List.mem_cons_self .., h⟩
    cases rest with
    | nil => exact Or.inr (hfirst hc)
    | cons next others =>
      rw [join, List.mem_append, List.mem_append] at hc
      rcases hc with (hc | hc) | hc
      · exact Or.inr (hfirst hc)
      · exact Or.inl hc
      · refine (ih hc).imp_right ?_
        rintro ⟨piece, hpiece, hmem⟩
        exact ⟨piece, List.mem_cons_of_mem _ hpiece, hmem⟩

theorem mem_join_of_mem {between piece : List Char} {pieces : List (List Char)} (hpiece : piece ∈ pieces)
    (hc : c ∈ piece) : c ∈ join between pieces := by
  induction pieces with
  | nil => cases hpiece
  | cons first rest ih =>
    cases rest with
    | nil =>
      obtain rfl := List.mem_singleton.mp hpiece
      exact hc
    | cons next others =>
      rw [join]
      rcases List.mem_cons.mp hpiece with rfl | hpiece
      · exact List.mem_append_left _ (List.mem_append_left _ hc)
      · exact List.mem_append_right _ (ih hpiece)

theorem exists_piece_of_mem (hc : c ∈ s) (h : c ≠ sep) : ∃ piece ∈ split sep s, c ∈ piece := by
  rw [← join_split sep s] at hc
  exact (mem_join hc).resolve_left fun hsep => h (List.mem_singleton.mp hsep)

/-- What stands behind a text without a separator belongs to the last piece. -/
theorem split_append_of_notMem {last t : List Char} {pieces : List (List Char)}
    (hs : split sep s = pieces ++ [last]) (ht : sep ∉ t) : split sep (s ++ t) = pieces ++ [last ++ t] := by
  have hjoin : s ++ t = join [sep] (pieces ++ [last ++ t]) := by
    rw [← join_split sep s, hs]
    cases pieces with
    | nil => rfl
    | cons first rest =>
      rw [join_concat _ (List.cons_ne_nil _ _), join_concat _ (List.cons_ne_nil _ _), List.append_assoc]
  have hpieces : ∀ piece ∈ pieces ++ [last], sep ∉ piece := fun piece hpiece => notMem_of_mem_split (hs ▸ hpiece)
  rw [List.forall_mem_append, List.forall_mem_singleton] at hpieces
  rw [hjoin, split_join (by simp)]
  rw [List.forall_mem_append, List.forall_mem_singleton, List.mem_append, not_or]
  exact ⟨hpieces.1, hpieces.2, ht⟩

theorem mem_replaceChar {d : Char} {by' : List Char} (h : c ∈ replaceChar d by' s) : c ∈ s ∨ c ∈ by' := by
  obtain ⟨e, he, hc⟩ := List.mem_flatMap.mp h
  split at hc
  · exact Or.inr hc
  · exact Or.inl (List.mem_singleton.mp hc ▸ he)

end Text

namespace Path

/-- The head of a path is its directory and slashes. -/
theorem exists_head_eq (p : List Char) : ∃ slashes : List Char, (∀ c ∈ slashes, c = '/') ∧
    head p = directory p ++ slashes := by
  unfold directory
  split
  · exact ⟨[], by simp, (List.append_nil _).symm⟩
  · refine ⟨((head p).reverse.takeWhile (· = '/')).reverse, fun c hc => ?_, ?_⟩
    · simpa using List.mem_takeWhile_imp (List.mem_reverse.mp hc)
    · rw [← List.reverse_append, List.takeWhile_append_dropWhile, List.reverse_reverse]

end Path

namespace InterfaceFile
variable {file : String} {part : List Char} {c : Char}

/-- The stem with underscores for hyphens, as it stands in the names of modules. -/
def stemCode (file : String) : List Char :=
  replaceChar '-' ['_'] (stem file).toList

def Unhyphened (file : String) : Prop := '-' ∉ Path.head file.toList

instance (file : String) : Decidable (Unhyphened file) := inferInstanceAs (Decidable ('-' ∉ Path.head file.toList))

/-- There is no dot before the ending. -/
structure Dotless (file : String) : Prop where
  head : '.' ∉ Path.head file.toList
  stem : '.' ∉ (stem file).toList

/-- What the names for a file are taken from is usable: the dotted components of its directory are usable
names, those of its stem too, but the last of these needs only open an identifier. -/
structure Fit (file : String) : Prop where
  directory : ∀ part ∈ packageParts (directory file), ∀ name ∈ components (String.ofList part), isUsableName name
  stem : ∃ inner last, split '.' (stemCode file) = inner ++ [last] ∧
    (∀ part ∈ inner, isUsableName (String.ofList part)) ∧ OpensIdentifier last

theorem mem_packageParts : part ∈ packageParts (InterfaceFile.directory file) ↔
    part ∈ split '/' (Path.directory file.toList) ∧ part ≠ [] ∧ part ≠ ['.'] := by
  have hparts : packageParts (InterfaceFile.directory file) =
      (split '/' (Path.directory file.toList)).filter fun part => part ≠ [] ∧ part ≠ ['.'] := by
    unfold InterfaceFile.directory
    cases Path.directory file.toList with
    | nil => decide
    | cons c rest => rw [packageParts, String.toList_ofList]
  rw [hparts, List.mem_filter, decide_eq_true_eq]

theorem dottedPackage_eq_empty_iff {directory : String} :
    dottedPackage directory = "" ↔ packageParts directory = [] := by
  have hparts : ∀ part ∈ packageParts directory, part ≠ [] := by
    intro part hpart
    have hkept := (List.mem_filter.mp hpart).2
    rw [decide_eq_true_eq] at hkept
    exact hkept.1
  rw [dottedPackage, String.ofList_eq_empty_iff]
  constructor
  · intro hjoin
    cases hnil : packageParts directory with
    | nil => rfl
    | cons first rest =>
      obtain ⟨c, others, rfl⟩ := List.exists_cons_of_ne_nil (hparts first (hnil ▸ List.mem_cons_self ..))
      rw [hnil] at hjoin
      cases rest <;> cases hjoin
  · intro hnil
    rw [hnil, join]

theorem components_dottedPackage {directory : String} (h : packageParts directory ≠ []) :
    components (dottedPackage directory) =
      (packageParts directory).flatMap fun part => components (String.ofList part) := by
  rw [components, dottedPackage, String.toList_ofList, split_join_flatMap h, List.map_flatMap]
  simp only [components, String.toList_ofList]

end InterfaceFile

/-- The names in an import line: those of the package and of the module, and the bound name. -/
def ImportLine.names (line : ImportLine) : List String :=
  (if line.source.package = "" then [] else components line.source.package) ++ components line.source.name ++
    [line.boundTo]

def Reference.names (reference : Reference) : List String :=
  reference.boundModule :: components reference.typePath

namespace Adapter

/-- The names for the root's own modules, and those that the module makes of the service and its methods. -/
def ownNames (adapter : Adapter) : List String :=
  Reference.rootModule :: Reference.rootStubModule :: className adapter.service :: (adapter.service ++ "Stub") ::
    adapter.branches.map (·.method.name)

def borrowedNames (adapter : Adapter) : List String :=
  adapter.imports.flatMap ImportLine.names ++ adapter.branches.flatMap (·.reference.names)

end Adapter

namespace InterfaceFile
variable {file ending boundTo : String}

theorem usable_package_iff : (∀ name ∈ if (moduleName file ending).package = "" then []
      else components (moduleName file ending).package, isUsableName name) ↔
    ∀ part ∈ packageParts (InterfaceFile.directory file), ∀ name ∈ components (String.ofList part),
      isUsableName name := by
  by_cases hnil : packageParts (InterfaceFile.directory file) = []
  · have hempty : (moduleName file ending).package = "" := dottedPackage_eq_empty_iff.mpr hnil
    rw [if_pos hempty, hnil]
    simp
  · have hpackage : (moduleName file ending).package ≠ "" := fun h => hnil (dottedPackage_eq_empty_iff.mp h)
    have hcomponents : components (moduleName file ending).package =
        (packageParts (InterfaceFile.directory file)).flatMap fun part => components (String.ofList part) :=
      components_dottedPackage hnil
    rw [if_neg hpackage, hcomponents, List.forall_mem_flatMap]

theorem usable_module_iff (hending : isIdentifier ending.toList) (hmem : '_' ∈ ending.toList) :
    (∀ name ∈ components (moduleName file ending).name, isUsableName name) ↔
      ∃ inner last, split '.' (stemCode file) = inner ++ [last] ∧
        (∀ part ∈ inner, isUsableName (String.ofList part)) ∧ OpensIdentifier last := by
  have hunique : ∀ {inner last}, split '.' (stemCode file) = inner ++ [last] →
      components (moduleName file ending).name =
        inner.map String.ofList ++ [String.ofList last ++ ending] := by
    intro inner last hsplit
    have hname : (moduleName file ending).name.toList = stemCode file ++ ending.toList := by
      rw [moduleName, String.toList_append, String.toList_ofList, stemCode]
    rw [components, hname, split_append_of_notMem hsplit (dot_notMem_of_isIdentifier hending), List.map_append,
      List.map_singleton, String.ofList_append, String.ofList_toList]
  have husable : ∀ {inner last}, split '.' (stemCode file) = inner ++ [last] →
      ((∀ name ∈ components (moduleName file ending).name, isUsableName name) ↔
        (∀ part ∈ inner, isUsableName (String.ofList part)) ∧ OpensIdentifier last) := by
    intro inner last hsplit
    rw [hunique hsplit, List.forall_mem_append, List.forall_mem_map, List.forall_mem_singleton,
      isUsableName_append_iff hending unreserved_underscore hmem, String.toList_ofList]
  constructor
  · intro h
    have hsplit := (List.dropLast_append_getLast (split_ne_nil '.' (stemCode file))).symm
    exact ⟨_, _, hsplit, (husable hsplit).mp h⟩
  · rintro ⟨inner, last, hsplit, h⟩
    exact (husable hsplit).mpr h

theorem usable_importNames_iff (hending : isIdentifier ending.toList) (hmem : '_' ∈ ending.toList) :
    (∀ name ∈ (ImportLine.mk (moduleName file ending) boundTo).names, isUsableName name) ↔
      Fit file ∧ isUsableName boundTo := by
  rw [ImportLine.names, List.forall_mem_append, List.forall_mem_append, List.forall_mem_singleton,
    usable_package_iff, usable_module_iff hending hmem]
  refine and_congr_left fun _ => ⟨fun h => ⟨h.1, h.2⟩, fun h => ⟨h.directory, h.stem⟩⟩

/-! ## Bound names -/

theorem opensIdentifier_code {s : List Char}
    (hall : ∀ c ∈ s, c = '/' ∨ c = '-' ∨ identifierContinue.has c.toNat)
    (hfirst : ∀ c rest, s = c :: rest → ¬ opensMarked s → c = '_' ∨ identifierStart.has c.toNat) :
    OpensIdentifier (code s) := by
  have hmark : isIdentifier "_dot_".toList := by decide +kernel
  have hcode : ∀ d ∈ code s, identifierContinue.has d.toNat := by
    intro d hd
    obtain ⟨c, hc, hletter⟩ := List.mem_flatMap.mp hd
    unfold letterCode at hletter
    split_ifs at hletter with hunderscore hslash hhyphen
    · exact continues_of_mem hmark (by simp_all)
    · exact continues_of_mem hmark hletter
    · exact continues_of_mem hmark (by simp_all)
    · obtain rfl := List.mem_singleton.mp hletter
      exact ((hall d hc).resolve_left hslash).resolve_left hhyphen
  cases s with
  | nil => exact Or.inl rfl
  | cons c rest =>
    right
    by_cases hmarked : opensMarked (c :: rest)
    · obtain ⟨others, hothers⟩ : ∃ others, code (c :: rest) = '_' :: others := by
        simp only [opensMarked, Bool.or_eq_true, decide_eq_true_eq] at hmarked
        rcases hmarked with (rfl | rfl) | rfl <;> exact ⟨_, rfl⟩
      rw [hothers] at hcode ⊢
      exact isIdentifier_cons.mpr ⟨Or.inl rfl, fun d hd => hcode d (List.mem_cons_of_mem _ hd)⟩
    · rw [code_cons, letterCode_of_unmarked hmarked, List.singleton_append] at hcode ⊢
      exact isIdentifier_cons.mpr ⟨hfirst c rest rfl hmarked, fun d hd => hcode d (List.mem_cons_of_mem _ hd)⟩

section Bound
variable {file : String} {c : Char}

/-- In a directory without dots the components of the package are the components themselves. -/
theorem Fit.isIdentifier_part (hfile : Dotless file) (h : Fit file) {part : List Char}
    (hpart : part ∈ split '/' (Path.directory file.toList)) (hne : part ≠ []) : isIdentifier part := by
  obtain ⟨slashes, _, hhead⟩ := Path.exists_head_eq file.toList
  have hdot : '.' ∉ part := by
    intro hmem
    have hdirectory : '.' ∈ Path.directory file.toList := by
      rw [← join_split '/' (Path.directory file.toList)]
      exact mem_join_of_mem hpart hmem
    exact hfile.head (hhead ▸ List.mem_append_left _ hdirectory)
  have hdotted : part ≠ ['.'] := fun heq => hdot (heq ▸ List.mem_singleton_self _)
  have hname : '.' ∉ (String.ofList part).toList := by rwa [String.toList_ofList]
  have husable := h.directory part (mem_packageParts.mpr ⟨hpart, hne, hdotted⟩)
  rw [components_of_no_dot hname, List.forall_mem_singleton] at husable
  simpa using isIdentifier_of_isUsableName husable

theorem Fit.letters_head (hfile : Dotless file) (h : Fit file) (hc : c ∈ Path.head file.toList) :
    c = '/' ∨ identifierContinue.has c.toNat := by
  obtain ⟨slashes, hslashes, hhead⟩ := Path.exists_head_eq file.toList
  by_cases hslash : c = '/'
  · exact Or.inl hslash
  rcases List.mem_append.mp (hhead ▸ hc) with hdirectory | hslashes'
  · obtain ⟨part, hpart, hmem⟩ := exists_piece_of_mem hdirectory hslash
    exact Or.inr (continues_of_mem (h.isIdentifier_part hfile hpart (List.ne_nil_of_mem hmem)) hmem)
  · exact Or.inl (hslashes c hslashes')

/-- A stem without dots is the last of its dotted components. -/
theorem Fit.opens_stemCode (hfile : Dotless file) (h : Fit file) : OpensIdentifier (stemCode file) := by
  obtain ⟨inner, last, hsplit, _, hlast⟩ := h.stem
  have hdot : '.' ∉ stemCode file := by
    intro hmem
    rcases mem_replaceChar hmem with hmem | hmem
    · exact hfile.stem hmem
    · cases List.mem_singleton.mp hmem
  rw [split_of_not_mem hdot] at hsplit
  have hcode : last = stemCode file := by simpa using congrArg List.getLast? hsplit.symm
  exact hcode ▸ hlast

theorem Fit.letters_stem (hfile : Dotless file) (h : Fit file) (hc : c ∈ (InterfaceFile.stem file).toList) :
    c = '-' ∨ identifierContinue.has c.toNat := by
  by_cases hhyphen : c = '-'
  · exact Or.inl hhyphen
  · refine Or.inr ((h.opens_stemCode hfile).continues ?_)
    exact List.mem_flatMap.mpr ⟨c, hc, by rw [if_neg hhyphen]; exact List.mem_singleton_self _⟩

theorem dropEnding_eq (file : String) : dropEnding InterfaceFile.ending file.toList =
    Path.head file.toList ++ (InterfaceFile.stem file).toList := by
  rw [← Path.head_append_base (dropEnding InterfaceFile.ending file.toList), head_dropEnding, base_dropEnding,
    InterfaceFile.stem, String.toList_ofList]

theorem Fit.first_letter (hfile : Dotless file) (h : Fit file) {rest : List Char}
    (hname : Path.head file.toList ++ (InterfaceFile.stem file).toList = c :: rest)
    (hc : ¬ opensMarked (c :: rest)) : c = '_' ∨ identifierStart.has c.toNat := by
  simp only [opensMarked, Bool.or_eq_true, decide_eq_true_eq, not_or] at hc
  obtain ⟨⟨_, hslash⟩, hhyphen⟩ := hc
  cases hhead : Path.head file.toList with
  | nil =>
    rw [hhead, List.nil_append] at hname
    have hstem := h.opens_stemCode hfile
    rw [stemCode, hname, replaceChar, List.flatMap_cons, if_neg hhyphen, List.singleton_append] at hstem
    exact (isIdentifier_cons.mp (hstem.resolve_left (List.cons_ne_nil _ _))).1
  | cons first others =>
    rw [hhead, List.cons_append] at hname
    obtain ⟨rfl, _⟩ := List.cons.inj hname
    obtain ⟨slashes, hslashes, hdirectory⟩ := Path.exists_head_eq file.toList
    cases hnil : Path.directory file.toList with
    | nil =>
      rw [hnil, List.nil_append] at hdirectory
      exact absurd (hslashes first (by rw [← hdirectory, hhead]; exact List.mem_cons_self ..)) hslash
    | cons letter letters =>
      rw [hhead, hnil, List.cons_append] at hdirectory
      obtain ⟨rfl, _⟩ := List.cons.inj hdirectory
      obtain ⟨piece, pieces, hsplit⟩ := exists_split_cons hslash letters
      have hpart : first :: piece ∈ split '/' (Path.directory file.toList) := by
        rw [hnil, hsplit]
        exact List.mem_cons_self ..
      exact (isIdentifier_cons.mp (h.isIdentifier_part hfile hpart (List.cons_ne_nil _ _))).1

theorem Fit.usable_boundName (hfile : Dotless file) (h : Fit file) : isUsableName (boundName file) := by
  have hending : isIdentifier "__pb2".toList := by decide +kernel
  rw [boundName_eq, isUsableName_append_iff hending unreserved_underscore (by decide), String.toList_ofList,
    dropEnding_eq]
  refine opensIdentifier_code (fun c hc => ?_) fun c rest hname hmarked => ?_
  · rcases List.mem_append.mp hc with hhead | hstem
    · exact (h.letters_head hfile hhead).imp_right Or.inr
    · exact Or.inr (h.letters_stem hfile hstem)
  · rw [hname] at hmarked
    exact h.first_letter hfile hname hmarked

end Bound
end InterfaceFile
end DispatchGen
