import DispatchGen.Proofs.FirstMentions

/-! # One walk over signatures

The types that root files refer to can be gathered in one walk through files, services and methods. The names
met so far are the keys of what is gathered, and a name that leads nowhere is kept like any other. So each name
is looked up once, where it is first mentioned, and told of there if it is unknown.
-/
namespace DispatchGen
open Text

/-- What a walk has gathered: type names with what the catalog has of them, and warnings. -/
structure SignatureWalk where
  needed : List (String × Option TypeEntry) := []
  warnings : List Diagnostic := []

namespace SignatureWalk

def names (walk : SignatureWalk) : List String :=
  walk.needed.map (·.1)

/-- The name is no reference, or it was met before. -/
abbrev Skips (walk : SignatureWalk) (use : TypeUse) : Prop :=
  use.typeName = "" ∨ use.typeName ∈ walk.names

/-- Looks up the type of a use, with a warning when it is unknown. -/
def take (catalog : Catalog) (walk : SignatureWalk) (use : TypeUse) : SignatureWalk :=
  if walk.Skips use then walk
  else
    let found := catalog.resolve use.typeName
    { needed := walk.needed ++ [(use.typeName, found)]
      warnings := if found.isNone then walk.warnings ++ [use.warning] else walk.warnings }

def takeMethod (catalog : Catalog) (file service : String) (walk : SignatureWalk) (method : Method) :
    SignatureWalk :=
  [method.input, method.output].foldl (fun walk typeName => walk.take catalog ⟨file, service, method.name, typeName⟩)
    walk

def takeService (catalog : Catalog) (file : String) (walk : SignatureWalk) (service : Service) : SignatureWalk :=
  service.methods.foldl (takeMethod catalog file service.name) walk

def takeFile (catalog : Catalog) (walk : SignatureWalk) (file : SourceFile) : SignatureWalk :=
  file.services.foldl (takeService catalog file.name) walk

def ofRoots (catalog : Catalog) (roots : List SourceFile) : SignatureWalk :=
  roots.foldl (takeFile catalog) {}

end SignatureWalk

namespace TypeUse
variable {uses rest : List TypeUse} {use : TypeUse}

theorem firsts_cons_of_empty (h : use.typeName = "") : firsts (use :: rest) = firsts rest := by
  rw [firsts, List.filter_cons_of_neg (by simpa using h), firsts]

theorem firsts_cons (h : use.typeName ≠ "") : firsts (use :: rest) =
    use :: firsts (rest.filter fun other => other.typeName ≠ use.typeName) := by
  rw [firsts, List.filter_cons_of_pos (by simpa using h), List.eraseDupsBy_cons, firsts, List.filter_filter,
    List.filter_filter]
  congr 2
  apply List.filter_congr
  intro other _
  by_cases hname : other.typeName = use.typeName <;> simp [hname]

def FirstIn (uses : List TypeUse) (use : TypeUse) : Prop :=
  ∃ before after, uses = before ++ use :: after ∧ ∀ other ∈ before, other.typeName ≠ use.typeName

theorem firstIn_iff : FirstIn uses use ↔ uses.find? (fun other => other.typeName = use.typeName) = some use := by
  rw [List.find?_eq_some_iff_append]
  simp [FirstIn]

theorem mem_firsts : use ∈ firsts uses ↔ use.typeName ≠ "" ∧ FirstIn uses use := by
  rw [firstIn_iff]
  induction hn : uses.length using Nat.strong_induction_on generalizing uses with
  | _ n ih =>
    cases uses with
    | nil => simp [firsts]
    | cons first rest =>
      have hshort := List.length_filter_le (fun other : TypeUse => decide (other.typeName ≠ first.typeName)) rest
      rw [List.length_cons] at hn
      by_cases hempty : first.typeName = ""
      · rw [firsts_cons_of_empty hempty, ih _ (by omega) rfl]
        refine and_congr_right fun hne => ?_
        have hother : first.typeName ≠ use.typeName := fun heq => hne (heq.symm.trans hempty)
        rw [List.find?_cons_of_neg (by simpa using hother)]
      · rw [firsts_cons hempty, List.mem_cons, ih _ (by omega) rfl, List.find?_filter]
        by_cases hname : first.typeName = use.typeName
        · rw [List.find?_cons_of_pos (by simpa using hname), Option.some_inj]
          constructor
          · rintro (rfl | ⟨_, hlater⟩)
            · exact ⟨hempty, rfl⟩
            · have hother := List.find?_some hlater
              simp [hname] at hother
          · exact fun h => Or.inl h.2.symm
        · have hne : use ≠ first := fun heq => hname (heq ▸ rfl)
          have hsame : ∀ other : TypeUse, (decide (other.typeName ≠ first.typeName) = true ∧
              decide (other.typeName = use.typeName) = true) ↔ other.typeName = use.typeName := by
            intro other
            simp only [decide_eq_true_eq, and_iff_right_iff_imp]
            exact fun hother heq => hname (heq.symm.trans hother)
          rw [List.find?_cons_of_neg (by simpa using hname), or_iff_right hne]
          simp only [hsame]

def Before (uses : List TypeUse) (a b : String) : Prop :=
  (uses.map (·.typeName)).idxOf a < (uses.map (·.typeName)).idxOf b

theorem pairwise_typeNames_firsts (uses : List TypeUse) : ((firsts uses).map (·.typeName)).Pairwise (Before uses) := by
  rw [typeNames_firsts]
  refine (pairwise_idxOf_eraseDups _).imp_of_mem fun {a b} ha hb hlt => ?_
  have ha := (List.mem_filter.mp (List.mem_eraseDups.mp ha)).2
  have hb := (List.mem_filter.mp (List.mem_eraseDups.mp hb)).2
  exact (idxOf_filter_lt_iff ha hb).mp hlt

theorem nodup_typeNames_firsts (uses : List TypeUse) : ((firsts uses).map (·.typeName)).Nodup := by
  rw [typeNames_firsts]
  exact nodup_eraseDups _

/-- The uses at which unknown types are told of: for each unknown name that is mentioned its first use, in the
order of first mention. -/
structure Tells (catalog : Catalog) (uses told : List TypeUse) : Prop where
  nodup : (told.map (·.typeName)).Nodup
  mem_names : ∀ name, name ∈ told.map (·.typeName) ↔ Mentioned uses name ∧ catalog.resolve name = none
  first : ∀ use ∈ told, FirstIn uses use
  ordered : (told.map (·.typeName)).Pairwise (Before uses)

theorem tells_firsts (catalog : Catalog) (uses : List TypeUse) :
    Tells catalog uses ((firsts uses).filter fun use => (catalog.resolve use.typeName).isNone) := by
  have hsublist : ((firsts uses).filter fun use => (catalog.resolve use.typeName).isNone).Sublist (firsts uses) :=
    List.filter_sublist
  refine ⟨(nodup_typeNames_firsts uses).sublist (hsublist.map _), fun name => ?_,
    fun use huse => (mem_firsts.mp (hsublist.subset huse)).2,
    (pairwise_typeNames_firsts uses).sublist (hsublist.map _)⟩
  rw [← mem_typeNames_firsts, List.mem_map, List.mem_map]
  constructor
  · rintro ⟨use, huse, rfl⟩
    obtain ⟨hmem, hnone⟩ := List.mem_filter.mp huse
    exact ⟨⟨use, hmem, rfl⟩, Option.isNone_iff_eq_none.mp hnone⟩
  · rintro ⟨⟨use, hmem, rfl⟩, hnone⟩
    exact ⟨use, List.mem_filter.mpr ⟨hmem, Option.isNone_iff_eq_none.mpr hnone⟩, rfl⟩

end TypeUse

namespace SignatureWalk
variable {catalog : Catalog} {walk : SignatureWalk} {use : TypeUse}

theorem ofRoots_eq_foldl (catalog : Catalog) (roots : List SourceFile) :
    ofRoots catalog roots = (roots.flatMap TypeUse.ofFile).foldl (take catalog) {} := by
  have hmethod : ∀ file service, takeMethod catalog file service =
      fun walk method => (TypeUse.ofMethod file service method).foldl (take catalog) walk := fun _ _ => rfl
  have hservice : ∀ file, takeService catalog file = fun walk service =>
      (service.methods.flatMap (TypeUse.ofMethod file service.name)).foldl (take catalog) walk := by
    intro file
    funext walk service
    rw [takeService, List.foldl_flatMap, hmethod]
  have hfile : takeFile catalog = fun walk file => (TypeUse.ofFile file).foldl (take catalog) walk := by
    funext walk file
    rw [takeFile, TypeUse.ofFile, List.foldl_flatMap, hservice]
  rw [ofRoots, List.foldl_flatMap, hfile]

/-- The uses that a walk still takes: the first of each name that it has not met. -/
def fresh (walk : SignatureWalk) (uses : List TypeUse) : List TypeUse :=
  TypeUse.firsts (uses.filter fun use => use.typeName ∉ walk.names)

theorem take_of_skips (h : walk.Skips use) : walk.take catalog use = walk :=
  if_pos h

theorem names_take (h : ¬ walk.Skips use) : (walk.take catalog use).names = walk.names ++ [use.typeName] := by
  rw [take, if_neg h, names, names, List.map_append]
  rfl

theorem fresh_of_skips (h : walk.Skips use) (rest : List TypeUse) : walk.fresh (use :: rest) = walk.fresh rest := by
  by_cases hmet : use.typeName ∈ walk.names
  · rw [fresh, List.filter_cons_of_neg (by simpa using hmet), fresh]
  · rw [fresh, List.filter_cons_of_pos (by simpa using hmet), TypeUse.firsts_cons_of_empty (h.resolve_right hmet), fresh]

theorem fresh_of_not_skips (h : ¬ walk.Skips use) (rest : List TypeUse) :
    walk.fresh (use :: rest) = use :: (walk.take catalog use).fresh rest := by
  obtain ⟨hempty, hmet⟩ := not_or.mp h
  rw [fresh, List.filter_cons_of_pos (by simpa using hmet), TypeUse.firsts_cons hempty, List.filter_filter, fresh,
    names_take h]
  congr 2
  apply List.filter_congr
  intro other _
  simp [and_comm]

/-- A walk adds the uses that it still takes, with a warning for each that is unknown. -/
theorem foldl_take (catalog : Catalog) (uses : List TypeUse) (walk : SignatureWalk) :
    uses.foldl (take catalog) walk =
      { needed := walk.needed ++ (walk.fresh uses).map fun use => (use.typeName, catalog.resolve use.typeName)
        warnings := walk.warnings ++
          ((walk.fresh uses).filter fun use => (catalog.resolve use.typeName).isNone).map TypeUse.warning } := by
  induction uses generalizing walk with
  | nil => simp [fresh, TypeUse.firsts]
  | cons use rest ih =>
    rw [List.foldl_cons, ih]
    by_cases hskips : walk.Skips use
    · rw [take_of_skips hskips, fresh_of_skips hskips]
    · rw [@fresh_of_not_skips catalog _ _ hskips, List.map_cons, List.filter_cons, take, if_neg hskips]
      cases catalog.resolve use.typeName with
      | none => simp
      | some entry => simp

/-- The walk over all root files gathers the types of the run and gives its warnings. -/
theorem ofRoots_eq (catalog : Catalog) (roots : List SourceFile) : ofRoots catalog roots =
    ⟨(SignatureTypes.collect roots catalog).entries, SignatureTypes.diagnostics roots catalog⟩ := by
  have hfresh : ∀ uses, fresh {} uses = TypeUse.firsts uses := by
    intro uses
    simp [fresh, names]
  rw [ofRoots_eq_foldl, foldl_take, hfresh]
  rfl

end SignatureWalk

namespace SignatureTypes
variable {catalog : Catalog} {uses : List TypeUse}

/-- The types that uses refer to: every name that is mentioned once, in the order of first mention, with what
the catalog has of it. -/
structure Lists (needed : SignatureTypes) (catalog : Catalog) (uses : List TypeUse) : Prop where
  nodup : (needed.entries.map (·.1)).Nodup
  mem_names : ∀ name, name ∈ needed.entries.map (·.1) ↔ TypeUse.Mentioned uses name
  ordered : (needed.entries.map (·.1)).Pairwise (TypeUse.Before uses)
  resolved : ∀ entry ∈ needed.entries, entry.2 = catalog.resolve entry.1

theorem names_ofUses (catalog : Catalog) (uses : List TypeUse) :
    (ofUses catalog uses).entries.map (·.1) = (TypeUse.firsts uses).map (·.typeName) := by
  rw [entries_ofUses, List.map_map]
  exact List.map_id _

theorem lists_ofUses (catalog : Catalog) (uses : List TypeUse) : (ofUses catalog uses).Lists catalog uses := by
  constructor
  · rw [names_ofUses]
    exact TypeUse.nodup_typeNames_firsts uses
  · intro name
    rw [names_ofUses]
    exact TypeUse.mem_typeNames_firsts
  · rw [names_ofUses]
    exact TypeUse.pairwise_typeNames_firsts uses
  · intro entry hentry
    rw [entries_ofUses] at hentry
    obtain ⟨name, _, rfl⟩ := List.mem_map.mp hentry
    rfl

/-- What is missing are the names mentioned that the catalog lacks. -/
theorem Lists.mem_missing {needed : SignatureTypes} (h : needed.Lists catalog uses) {name : String} :
    name ∈ needed.missing ↔ TypeUse.Mentioned uses name ∧ catalog.resolve name = none := by
  rw [missing, mem_sorted, ← h.mem_names, List.mem_map, List.mem_map]
  constructor
  · rintro ⟨entry, hentry, rfl⟩
    obtain ⟨hmem, hnone⟩ := List.mem_filter.mp hentry
    exact ⟨⟨entry, hmem, rfl⟩, h.resolved entry hmem ▸ Option.isNone_iff_eq_none.mp hnone⟩
  · rintro ⟨⟨entry, hmem, rfl⟩, hnone⟩
    refine ⟨entry, List.mem_filter.mpr ⟨hmem, ?_⟩, rfl⟩
    rw [h.resolved entry hmem, hnone]
    rfl

theorem Lists.pairwise_missing {needed : SignatureTypes} (h : needed.Lists catalog uses) :
    needed.missing.Pairwise (· < ·) :=
  pairwise_sorted_of_nodup (h.nodup.sublist (List.filter_sublist.map _))

end SignatureTypes

/-- One walk through the signatures of the root files gathers each name that is mentioned once, in the order of
first mention (files as given, services and methods as declared, an input before the output beside it), with
what the catalog has of it. The names missing are the mentioned ones that the catalog lacks, in order. Each of
these is told of once, at its first use, and nothing is said of any other name. -/
theorem SignatureWalk.gathers_first_mentions (catalog : Catalog) (roots : List SourceFile) :
    ofRoots catalog roots =
      ⟨(SignatureTypes.collect roots catalog).entries, SignatureTypes.diagnostics roots catalog⟩ ∧
    (SignatureTypes.collect roots catalog).Lists catalog (roots.flatMap TypeUse.ofFile) ∧
    ((SignatureTypes.collect roots catalog).missing.Pairwise (· < ·) ∧
      ∀ name, name ∈ (SignatureTypes.collect roots catalog).missing ↔
        TypeUse.Mentioned (roots.flatMap TypeUse.ofFile) name ∧ catalog.resolve name = none) ∧
    ∃ told, TypeUse.Tells catalog (roots.flatMap TypeUse.ofFile) told ∧
      SignatureTypes.diagnostics roots catalog = told.map fun use => ⟨.warning, .catalog,
        use.file ++ ": " ++ use.service ++ "." ++ use.method ++ " references unknown type " ++ use.typeName⟩ := by
  have hlists := SignatureTypes.lists_ofUses catalog (roots.flatMap TypeUse.ofFile)
  exact ⟨ofRoots_eq catalog roots, hlists, ⟨hlists.pairwise_missing, fun _ => hlists.mem_missing⟩, _,
    TypeUse.tells_firsts catalog _, rfl⟩

/-- Of two unknown types the one mentioned first is told of first, though its name is the greater, and once. -/
example : (SignatureTypes.diagnostics [{ name := "x.proto", services := [{ name := "S", methods :=
    [{ name := "First", input := ".b", output := ".a" }, { name := "Second", input := ".b", output := ".b" }] }] }]
      Catalog.empty).map (·.message) =
    ["x.proto: S.First references unknown type .b", "x.proto: S.First references unknown type .a"] := by
  decide

end DispatchGen
