import DispatchGen.Generation
import DispatchGen.Proofs.Precedence

/-! # First mentions of type names

The types of a run are kept once per name, in order of first mention, and an empty name is never kept.
So a service finds under each name it mentions what the catalog has there, whatever else the root files
mention, and under the empty name nothing.
-/
namespace DispatchGen
namespace Text

theorem nodup_eraseDups (names : List String) : names.eraseDups.Nodup := by
  induction hn : names.length using Nat.strong_induction_on generalizing names with
  | _ n ih =>
    cases names with
    | nil => exact List.nodup_nil
    | cons name rest =>
      have hshort := List.length_filter_le (fun other => !other == name) rest
      rw [List.length_cons] at hn
      rw [List.eraseDups_cons, List.nodup_cons]
      refine ⟨?_, ih _ (by omega) _ rfl⟩
      intro h
      have hself := (List.mem_filter.mp (List.mem_eraseDups.mp h)).2
      simp at hself

theorem idxOf_filter_lt_iff {names : List String} {a b : String} {p : String → Bool} (ha : p a) (hb : p b) :
    (names.filter p).idxOf a < (names.filter p).idxOf b ↔ names.idxOf a < names.idxOf b := by
  induction names with
  | nil => simp
  | cons name rest ih =>
    by_cases hna : name = a
    · subst hna
      by_cases hab : name = b
      · simp [hab]
      · simp [ha, hab]
    · by_cases hnb : name = b
      · subst hnb
        simp [hb, hna]
      · cases hp : p name <;> simp [hp, hna, hnb, ih]

/-- Without repetitions, names stand in the order of their first occurrences. -/
theorem pairwise_idxOf_eraseDups (names : List String) :
    names.eraseDups.Pairwise fun a b => names.idxOf a < names.idxOf b := by
  induction hn : names.length using Nat.strong_induction_on generalizing names with
  | _ n ih =>
    cases names with
    | nil => exact List.Pairwise.nil
    | cons name rest =>
      let others := rest.filter fun other => !other == name
      have hshort : others.length < n := by
        have hle : others.length ≤ rest.length := List.length_filter_le ..
        rw [List.length_cons] at hn
        omega
      have hothers : ∀ other ∈ others.eraseDups, other ≠ name := by
        intro other hother
        simpa using (List.mem_filter.mp (List.mem_eraseDups.mp hother)).2
      rw [List.eraseDups_cons, List.pairwise_cons]
      constructor
      · intro other hother
        rw [List.idxOf_cons_self, List.idxOf_cons_ne _ (hothers other hother).symm]
        exact Nat.succ_pos _
      · refine (ih others.length hshort others rfl).imp_of_mem fun {a b} ha hb hlt => ?_
        have hrest : rest.idxOf a < rest.idxOf b :=
          (idxOf_filter_lt_iff (by simpa using hothers a ha) (by simpa using hothers b hb)).mp hlt
        rw [List.idxOf_cons_ne _ (hothers a ha).symm, List.idxOf_cons_ne _ (hothers b hb).symm]
        exact Nat.succ_lt_succ hrest

theorem pairwise_sorted_of_nodup {names : List String} (h : names.Nodup) : (sorted names).Pairwise (· < ·) := by
  have hnodup : (sorted names).Nodup := (sorted_perm names).nodup_iff.mpr h
  refine ((pairwise_sorted names).and hnodup).imp ?_
  rintro a b ⟨hle, hne⟩
  exact Std.lt_of_le_of_ne hle hne

theorem pairwise_sortedDistinct (names : List String) : (sortedDistinct names).Pairwise (· < ·) :=
  pairwise_sorted_of_nodup (nodup_eraseDups names)

end Text

namespace TypeUse

/-- Keeping the first use of each name keeps the first occurrences in the row of names. -/
theorem typeNames_eraseDupsBy (uses : List TypeUse) :
    (uses.eraseDupsBy fun a b => a.typeName = b.typeName).map (·.typeName) =
      (uses.map (·.typeName)).eraseDups := by
  induction hn : uses.length using Nat.strong_induction_on generalizing uses with
  | _ n ih =>
    cases uses with
    | nil => rfl
    | cons use rest =>
      have hshort := List.length_filter_le (fun other : TypeUse =>
        decide (decide (other.typeName = use.typeName) = false)) rest
      rw [List.length_cons] at hn
      rw [List.eraseDupsBy_cons, List.map_cons, List.map_cons, List.eraseDups_cons, ih _ (by omega) _ rfl,
        List.filter_map]
      congr 3
      apply List.filter_congr
      intro other _
      by_cases h : other.typeName = use.typeName <;> simp [h]

theorem typeNames_firsts (uses : List TypeUse) :
    (firsts uses).map (·.typeName) = ((uses.map (·.typeName)).filter (· ≠ "")).eraseDups := by
  rw [firsts, typeNames_eraseDupsBy, List.filter_map]
  rfl

/-- Some use mentions the name; the empty name is no reference. -/
def Mentioned (uses : List TypeUse) (name : String) : Prop :=
  name ≠ "" ∧ ∃ use ∈ uses, use.typeName = name

instance (uses : List TypeUse) : DecidablePred (Mentioned uses) := fun name =>
  inferInstanceAs (Decidable (name ≠ "" ∧ ∃ use ∈ uses, use.typeName = name))

theorem mem_typeNames_firsts {uses : List TypeUse} {name : String} :
    name ∈ (firsts uses).map (·.typeName) ↔ Mentioned uses name := by
  rw [typeNames_firsts, List.mem_eraseDups, List.mem_filter, List.mem_map, decide_eq_true_eq]
  exact and_comm

end TypeUse

namespace SignatureTypes

theorem entries_ofUses (catalog : Catalog) (uses : List TypeUse) : (ofUses catalog uses).entries =
    ((TypeUse.firsts uses).map (·.typeName)).map fun name => (name, catalog.resolve name) := by
  rw [ofUses, List.map_map]
  rfl

theorem lookup_map_self {β : Type} (f : String → β) (names : List String) (name : String) :
    (names.map fun n => (n, f n)).lookup name = if name ∈ names then some (f name) else none := by
  induction names with
  | nil => rfl
  | cons first rest ih =>
    rw [List.map_cons, List.lookup_cons, ih]
    by_cases h : name = first
    · simp [h]
    · simp [h, beq_false_of_ne h]

theorem resolve_ofUses (catalog : Catalog) (uses : List TypeUse) (name : String) :
    (ofUses catalog uses).resolve name = if TypeUse.Mentioned uses name then catalog.resolve name else none := by
  rw [resolve, entries_ofUses, lookup_map_self]
  by_cases h : TypeUse.Mentioned uses name
  · rw [if_pos h, if_pos (TypeUse.mem_typeNames_firsts.mpr h), Option.join_some]
  · rw [if_neg h, if_neg (fun hm => h (TypeUse.mem_typeNames_firsts.mp hm)), Option.join_none]

end SignatureTypes

def Service.Mentions (service : Service) (typeName : String) : Prop :=
  ∃ method ∈ service.methods, typeName = method.input ∨ typeName = method.output

/-- Some message of some file has the name. -/
def Request.Knows (request : Request) (typeName : String) : Prop :=
  ∃ file ∈ request.files, file.Declares typeName

namespace Request
variable {request : Request} {task : ServiceTask} {name : String}

theorem exists_use_of_mentions (ht : task ∈ request.tasks) (hm : task.service.Mentions name) :
    ∃ use ∈ request.rootFiles.flatMap TypeUse.ofFile, use.typeName = name := by
  obtain ⟨root, hroot, htask⟩ := List.mem_flatMap.mp ht
  obtain ⟨service, hservice, rfl⟩ := List.mem_map.mp htask
  obtain ⟨method, hmethod, hname⟩ := hm
  have huses : ∀ use ∈ TypeUse.ofMethod root.name service.name method,
      use ∈ request.rootFiles.flatMap TypeUse.ofFile := by
    intro use huse
    exact List.mem_flatMap.mpr ⟨root, hroot, List.mem_flatMap.mpr
      ⟨service, hservice, List.mem_flatMap.mpr ⟨method, hmethod, huse⟩⟩⟩
  rcases hname with rfl | rfl
  · exact ⟨⟨root.name, service.name, method.name, method.input⟩, huses _ (by simp [TypeUse.ofMethod]), rfl⟩
  · exact ⟨⟨root.name, service.name, method.name, method.output⟩, huses _ (by simp [TypeUse.ofMethod]), rfl⟩

/-- The types of the run agree with the catalog on every name that a task mentions. -/
theorem resolve_signatureTypes (ht : task ∈ request.tasks) (hm : task.service.Mentions name)
    (hne : name ≠ "") : request.signatureTypes.resolve name = request.catalog.resolve name := by
  rw [signatureTypes, SignatureTypes.collect, SignatureTypes.resolve_ofUses,
    if_pos ⟨hne, exists_use_of_mentions ht hm⟩]

theorem resolve_signatureTypes_empty : request.signatureTypes.resolve "" = none := by
  rw [signatureTypes, SignatureTypes.collect, SignatureTypes.resolve_ofUses, if_neg fun h => h.1 rfl]

theorem isSome_resolve_catalog : (request.catalog.resolve name).isSome ↔ request.Knows name :=
  Catalog.isSome_resolve_ofFiles

instance : DecidablePred request.Knows := fun _ => decidable_of_iff _ isSome_resolve_catalog

end Request

namespace ServiceTask
variable {request : Request} {task : ServiceTask} {name : String}

theorem mem_unresolved (ht : task ∈ request.tasks) :
    name ∈ task.unresolved request.signatureTypes ↔
      name ≠ "" ∧ task.service.Mentions name ∧ ¬ request.Knows name := by
  have hmentions : name ∈ (task.service.methods.flatMap fun method => [method.input, method.output]) ↔
      task.service.Mentions name := by
    simp [Service.Mentions]
  rw [unresolved, Text.mem_sortedDistinct, List.mem_filter, hmentions, decide_eq_true_eq]
  constructor
  · rintro ⟨hm, hne, hnone⟩
    rw [Request.resolve_signatureTypes ht hm hne] at hnone
    refine ⟨hne, hm, fun hk => ?_⟩
    simp [Option.isSome_iff_ne_none.mp (Request.isSome_resolve_catalog.mpr hk)] at hnone
  · rintro ⟨hne, hm, hk⟩
    refine ⟨hm, hne, ?_⟩
    rw [Request.resolve_signatureTypes ht hm hne, Option.isNone_iff_eq_none,
      ← Option.not_isSome_iff_eq_none]
    exact fun hs => hk (Request.isSome_resolve_catalog.mp hs)

end ServiceTask
end DispatchGen
