import DispatchGen.Delivery
import DispatchGen.Proofs.SettingEntries

/-! # Settings that an order passes on

An order writes its package and its path into a settings text, from which the generator reads them again.
Commas are not marked as part of a value, and the values that are read hold none. So both values come back
exactly when neither holds a comma.
-/
namespace DispatchGen
open Text

namespace Settings
variable {key value parameter : String}

theorem comma_notMem_of_lastGiven? (hkey : '=' ∉ key.toList)
    (h : lastGiven? key (tokens parameter) = some value) : ',' ∉ value.toList := by
  obtain ⟨before, after, hsplit, _⟩ := (lastGiven?_eq_some hkey).mp h
  have htoken : key ++ "=" ++ value ∈ tokens parameter := by simp [hsplit]
  have hcomma := comma_notMem_of_mem_tokens htoken
  rw [String.toList_append, List.mem_append, not_or] at hcomma
  exact hcomma.2

theorem comma_notMem_getD (hkey : '=' ∉ key.toList) {default : String} (hdefault : ',' ∉ default.toList) :
    ',' ∉ ((lastGiven? key (tokens parameter)).getD default).toList := by
  cases h : lastGiven? key (tokens parameter) with
  | none => exact hdefault
  | some value => exact comma_notMem_of_lastGiven? hkey h

/-- No comma gets into a value that is read. -/
theorem comma_notMem_ofParameter (parameter : String) :
    ',' ∉ (ofParameter parameter).package.toList ∧ ',' ∉ (ofParameter parameter).path.toList := by
  rw [ofParameter_eq]
  exact ⟨comma_notMem_getD (by decide) (by decide), comma_notMem_getD (by decide) (by decide)⟩

/-- A row without commas is read as it was written; the empty row reads as one empty token. -/
theorem lastGiven?_tokens_intercalate (key : String) {row : List String} (h : ∀ token ∈ row, ',' ∉ token.toList) :
    lastGiven? key (tokens (",".intercalate row)) = lastGiven? key row := by
  by_cases hne : row = []
  · subst hne
    rfl
  · rw [tokens_intercalate hne h]

end Settings

namespace DeliveryOrder
open Settings
variable {order : DeliveryOrder} {key : String} {given : Option String}

/-- The entry of a settings text for a value; an empty value has none. -/
def entryFor (key : String) : Option String → List String
  | none => []
  | some text => if text = "" then [] else [key ++ "=" ++ text]

/-- The value that is asked for; an empty one counts as none. -/
def wanted : Option String → Option String
  | none => none
  | some text => if text = "" then none else some text

def CommaFree (given : Option String) : Prop :=
  ∀ text, given = some text → ',' ∉ text.toList

theorem parameter_eq (order : DeliveryOrder) :
    order.parameter = ",".intercalate (entryFor "package" order.package ++ entryFor "path" order.path) := rfl

theorem comma_notMem_entryFor (hkey : ',' ∉ key.toList) (h : CommaFree given) :
    ∀ token ∈ entryFor key given, ',' ∉ token.toList := by
  intro token htoken
  cases given with
  | none => exact absurd htoken List.not_mem_nil
  | some text =>
    rw [entryFor] at htoken
    split at htoken
    · exact absurd htoken List.not_mem_nil
    · rw [List.mem_singleton.mp htoken]
      simp [String.toList_append, hkey, h text rfl]

theorem lastGiven?_entryFor (hkey : '=' ∉ key.toList) (other : String) (given : Option String) :
    lastGiven? other (entryFor key given) = if key = other then wanted given else none := by
  cases given with
  | none => simp [entryFor, wanted, lastGiven?]
  | some text =>
    by_cases hempty : text = ""
    · simp [entryFor, wanted, lastGiven?, hempty]
    · rw [entryFor, wanted, if_neg hempty, if_neg hempty, lastGiven?_cons, given?_entry hkey]
      rfl

/-- Without commas the text is read as the entries that were written, each under its own key. -/
theorem ofParameter_of_commaFree (hpackage : CommaFree order.package) (hpath : CommaFree order.path) :
    ofParameter order.parameter = ⟨(wanted order.package).getD "main", (wanted order.path).getD "."⟩ := by
  have hrow : ∀ token ∈ entryFor "package" order.package ++ entryFor "path" order.path, ',' ∉ token.toList :=
    List.forall_mem_append.mpr ⟨comma_notMem_entryFor (by decide) hpackage, comma_notMem_entryFor (by decide) hpath⟩
  have hkeys : ("path" : String) ≠ "package" ∧ ("package" : String) ≠ "path" := by decide
  rw [ofParameter_eq, parameter_eq, lastGiven?_tokens_intercalate _ hrow, lastGiven?_tokens_intercalate _ hrow,
    lastGiven?_append, lastGiven?_append, lastGiven?_entryFor (by decide), lastGiven?_entryFor (by decide),
    lastGiven?_entryFor (by decide), lastGiven?_entryFor (by decide), if_neg hkeys.1, if_neg hkeys.2, if_pos rfl,
    if_pos rfl, Option.none_or, Option.or_none]

theorem commaFree_of_wanted {default : String} (h : ',' ∉ ((wanted given).getD default).toList) : CommaFree given := by
  rintro text rfl
  by_cases hempty : text = ""
  · rw [hempty]
    exact List.not_mem_nil
  · rwa [wanted, if_neg hempty] at h

/-- The package and the path of an order come back from its settings text exactly when neither holds a comma. -/
theorem settings_come_back_iff (order : DeliveryOrder) :
    ((ofParameter order.parameter).package = (wanted order.package).getD "main" ∧
      (ofParameter order.parameter).path = (wanted order.path).getD ".") ↔
    CommaFree order.package ∧ CommaFree order.path := by
  constructor
  · rintro ⟨hpackage, hpath⟩
    obtain ⟨hnopackage, hnopath⟩ := comma_notMem_ofParameter order.parameter
    rw [hpackage] at hnopackage
    rw [hpath] at hnopath
    exact ⟨commaFree_of_wanted hnopackage, commaFree_of_wanted hnopath⟩
  · rintro ⟨hpackage, hpath⟩
    rw [ofParameter_of_commaFree hpackage hpath]
    exact ⟨rfl, rfl⟩

def commaPackage : DeliveryOrder := { source := ⟨"", ["set.pb"]⟩, output := ⟨"", ["out"]⟩, package := some "a,b" }

/-- An order whose path goes on, behind a comma, with what reads as a package. -/
def packageInPath : DeliveryOrder :=
  { source := ⟨"", ["set.pb"]⟩, output := ⟨"", ["out"]⟩, path := some "gen,package=q" }

/-- A package is cut off at its comma, and a path sets the package that was left out. -/
theorem settings_cut_at_comma :
    ofParameter commaPackage.parameter = { package := "a", path := "." } ∧
    ofParameter packageInPath.parameter = { package := "q", path := "gen" } ∧
    ¬ ∀ order : DeliveryOrder, (ofParameter order.parameter).package = (wanted order.package).getD "main" ∧
      (ofParameter order.parameter).path = (wanted order.path).getD "." := by
  have hcut : ofParameter commaPackage.parameter = { package := "a", path := "." } := by decide
  refine ⟨hcut, by decide, fun hall => ?_⟩
  have hpackage := (hall commaPackage).1
  rw [hcut] at hpackage
  revert hpackage
  decide

end DeliveryOrder
end DispatchGen
