import DispatchGen.Proofs.Declarations
import Mathlib.Data.Set.Card

/-! # Precedence between declarations

A catalog is filled from the last file to the first, and each file in pre-order, with later entries in
place of earlier ones. Read from the other end, the first file that declares a name wins, and inside
that file the last declaration of the name.
-/
namespace DispatchGen

def SourceFile.lastNamed? (file : SourceFile) (name : String) : Option Declaration :=
  file.declarations.reverse.find? fun declaration => file.nameOf declaration = name

namespace SourceFile
variable {file : SourceFile} {name : String}

theorem lastNamed?_eq_some {declaration : Declaration} :
    file.lastNamed? name = some declaration ↔ ∃ earlier later,
      file.declarations = earlier ++ declaration :: later ∧ file.nameOf declaration = name ∧
        ∀ d ∈ later, file.nameOf d ≠ name := by
  rw [lastNamed?, List.find?_eq_some_iff_append]
  constructor
  · rintro ⟨hname, after, before, hsplit, hafter⟩
    refine ⟨before.reverse, after.reverse, ?_, by simpa using hname, ?_⟩
    · have h := congrArg List.reverse hsplit
      simpa using h
    · intro d hd
      simpa using hafter d (List.mem_reverse.mp hd)
  · rintro ⟨earlier, later, hsplit, hname, hlater⟩
    refine ⟨by simpa using hname, later.reverse, earlier.reverse, by simp [hsplit], ?_⟩
    intro d hd
    simpa using hlater d (List.mem_reverse.mp hd)

theorem lastNamed?_eq_none : file.lastNamed? name = none ↔ ¬ file.Declares name := by
  rw [declares_iff]
  simp [lastNamed?]

theorem entryOf_lastNamed? {declaration : Declaration} (h : file.lastNamed? name = some declaration) :
    file.entryOf declaration = ⟨name, file.name, file.package, declaration.2⟩ := by
  obtain ⟨_, _, _, hname, _⟩ := lastNamed?_eq_some.mp h
  rw [entryOf, hname]

end SourceFile

namespace Catalog

/-- Of the entries put in one after the other, the last with the name stays. -/
theorem resolve_foldl_insert (entries : List TypeEntry) (catalog : Catalog) (name : String) :
    (entries.foldl insert catalog).resolve name =
      (entries.reverse.find? fun entry => entry.fullName = name).or (catalog.resolve name) := by
  induction entries generalizing catalog with
  | nil => rfl
  | cons entry rest ih =>
    rw [List.foldl_cons, ih, resolve_insert, List.reverse_cons, List.find?_append, Option.or_assoc]
    by_cases h : entry.fullName = name <;> simp [h]

theorem resolve_ofFiles (files : List SourceFile) (name : String) :
    (ofFiles files).resolve name =
      files.findSome? fun file => (file.lastNamed? name).map file.entryOf := by
  have hfile : ∀ file : SourceFile, file.entries.reverse.find? (fun entry => entry.fullName = name) =
      (file.lastNamed? name).map file.entryOf := by
    intro file
    rw [SourceFile.entries_eq, ← List.map_reverse, List.find?_map]
    rfl
  rw [ofFiles, resolve_foldl_insert, resolve_empty, Option.or_none, List.reverse_flatMap,
    List.reverse_reverse, List.find?_flatMap]
  exact congrArg files.findSome? (funext hfile)

theorem resolve_ofFiles_eq_none {files : List SourceFile} {name : String} :
    (ofFiles files).resolve name = none ↔ ∀ file ∈ files, ¬ file.Declares name := by
  simp only [resolve_ofFiles, List.findSome?_eq_none_iff, Option.map_eq_none_iff,
    SourceFile.lastNamed?_eq_none]

theorem isSome_resolve_ofFiles {files : List SourceFile} {name : String} :
    ((ofFiles files).resolve name).isSome ↔ ∃ file ∈ files, file.Declares name := by
  rw [Option.isSome_iff_ne_none, Ne, resolve_ofFiles_eq_none]
  push Not
  rfl

/-- The size counts names: each is in the catalog once. -/
theorem size_eq_ncard (catalog : Catalog) :
    catalog.size = {name | (catalog.resolve name).isSome}.ncard := by
  have hkeys : {name | (catalog.resolve name).isSome} = (catalog.entries.keys.toFinset : Set String) := by
    ext name
    rw [Set.mem_ofPred_eq, List.coe_toFinset, Set.mem_ofPred_eq, Std.TreeMap.mem_keys,
      Std.TreeMap.mem_iff_isSome_getElem?]
    rfl
  rw [hkeys, Set.ncard_coe_finset, List.toFinset_card_of_nodup Std.TreeMap.nodup_keys,
    Std.TreeMap.length_keys]
  rfl

/-- What a name leads to, and how many names lead anywhere. The qualified name alone counts, not how
it is divided between the package and the chain of message names. -/
theorem resolve_first_file_last_declaration (files : List SourceFile) :
    (∀ name,
      ((∀ file ∈ files, ¬ file.Declares name) ∧ (ofFiles files).resolve name = none) ∨
      ∃ before file after, files = before ++ file :: after ∧
        (∀ other ∈ before, ¬ other.Declares name) ∧
        ∃ earlier chain message later, file.declarations = earlier ++ (chain, message) :: later ∧
          file.nameOf (chain, message) = name ∧ (∀ d ∈ later, file.nameOf d ≠ name) ∧
          (ofFiles files).resolve name = some
            { fullName := name, fileName := file.name, package := file.package, message := message }) ∧
    (ofFiles files).size = {name | ∃ file ∈ files, file.Declares name}.ncard := by
  constructor
  · intro name
    cases hr : (ofFiles files).resolve name with
    | none => exact Or.inl ⟨resolve_ofFiles_eq_none.mp hr, rfl⟩
    | some entry =>
      right
      obtain ⟨before, file, after, hsplit, hfile, hbefore⟩ :=
        List.findSome?_eq_some_iff.mp ((resolve_ofFiles files name).symm.trans hr)
      obtain ⟨⟨chain, message⟩, hlast, hentry⟩ := Option.map_eq_some_iff.mp hfile
      obtain ⟨earlier, later, hwalk, hname, hlater⟩ := SourceFile.lastNamed?_eq_some.mp hlast
      refine ⟨before, file, after, hsplit, ?_, earlier, chain, message, later, hwalk, hname, hlater, ?_⟩
      · intro other ho
        exact SourceFile.lastNamed?_eq_none.mp (Option.map_eq_none_iff.mp (hbefore other ho))
      · rw [← hentry, SourceFile.entryOf_lastNamed? hlast]
  · rw [size_eq_ncard]
    simp only [isSome_resolve_ofFiles]

/-- Two ways to divide one qualified name. -/
example : absoluteName "a" ["b", "C"] = ".a.b.C" ∧ absoluteName "a.b" ["C"] = ".a.b.C" := by decide

end Catalog
end DispatchGen
