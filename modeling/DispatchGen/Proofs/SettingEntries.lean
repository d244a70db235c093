import DispatchGen.Proofs.NormalPaths
import DispatchGen.Settings
import Std.Data.TreeMap.Lemmas

/-! # Which entry of a settings text holds

A settings text is read token by token, and every entry takes the place of an earlier one for its key. So
of the tokens that give a key a value the last one holds, whatever the other tokens are, and a text put
behind another keeps what the first one sets unless it sets it anew.
-/
namespace DispatchGen
open Text

namespace Text
variable {sep : Char} {s before after : List Char}

theorem splitFirst?_eq_some :
    splitFirst? sep s = some (before, after) ↔ sep ∉ before ∧ s = before ++ sep :: after := by
  induction s generalizing before with
  | nil => simp [splitFirst?]
  | cons c cs ih =>
    rw [splitFirst?]
    by_cases hc : c = sep
    · subst hc
      cases before with
      | nil => simp [eq_comm]
      | cons d ds => simp +contextual [eq_comm]
    · rw [if_neg hc, Option.map_eq_some_iff]
      constructor
      · rintro ⟨⟨inner, rest⟩, hinner, heq⟩
        obtain ⟨rfl, rfl⟩ := Prod.mk.inj heq
        obtain ⟨hnone, rfl⟩ := ih.mp hinner
        exact ⟨by simp [Ne.symm hc, hnone], rfl⟩
      · rintro ⟨hnone, heq⟩
        cases before with
        | nil => exact absurd (List.cons.inj heq).1 hc
        | cons d ds =>
          obtain ⟨rfl, hrest⟩ := List.cons.inj heq
          exact ⟨(ds, after), ih.mpr ⟨fun h => hnone (List.mem_cons_of_mem _ h), hrest⟩, rfl⟩

end Text

namespace Settings

/-! ## Tokens -/

def tokens (parameter : String) : List String :=
  (split ',' parameter.toList).map String.ofList

/-- The token sets the key: it is the key, an equals sign and any value. -/
def Gives (key token : String) : Prop :=
  ∃ value, token = key ++ "=" ++ value

def Sets (key parameter : String) : Prop :=
  ∃ token ∈ tokens parameter, Gives key token

/-- The token sets nothing that is known: it has no equals sign or another key. -/
def Idle (token : String) : Prop :=
  ¬ Gives "package" token ∧ ¬ Gives "path" token

def binding? (token : String) : Option (String × String) :=
  (splitFirst? '=' token.toList).map fun (key, value) => (String.ofList key, String.ofList value)

def given? (key token : String) : Option String :=
  (binding? token).bind fun entry => if entry.1 = key then some entry.2 else none

/-- The value that the last of the tokens with the key gives. -/
def lastGiven? (key : String) (tokens : List String) : Option String :=
  tokens.reverse.findSome? (given? key)

theorem gives_iff_opens (key token : String) : Gives key token ↔ (key ++ "=").toList <+: token.toList := by
  constructor
  · rintro ⟨value, rfl⟩
    exact ⟨value.toList, String.toList_append.symm⟩
  · rintro ⟨rest, hrest⟩
    refine ⟨String.ofList rest, String.toList_injective ?_⟩
    rw [String.toList_append, String.toList_ofList, hrest]

instance (key : String) : DecidablePred (Gives key) := fun token => decidable_of_iff' _ (gives_iff_opens key token)

instance (key parameter : String) : Decidable (Sets key parameter) :=
  inferInstanceAs (Decidable (∃ token ∈ tokens parameter, Gives key token))

instance : DecidablePred Idle := fun token =>
  inferInstanceAs (Decidable (¬ Gives "package" token ∧ ¬ Gives "path" token))

variable {key token value parameter : String}

theorem comma_notMem_of_mem_tokens (h : token ∈ tokens parameter) : ',' ∉ token.toList := by
  obtain ⟨piece, hpiece, rfl⟩ := List.mem_map.mp h
  rw [String.toList_ofList]
  exact notMem_of_mem_split hpiece

theorem intercalate_tokens (parameter : String) : ",".intercalate (tokens parameter) = parameter := by
  apply String.toList_injective
  rw [String.toList_intercalate, tokens, List.map_map]
  have hpieces : (split ',' parameter.toList).map (String.toList ∘ String.ofList) = split ',' parameter.toList := by
    simp [Function.comp_def]
  rw [hpieces]
  exact (join_eq_intercalate _ _).symm.trans (join_split ',' parameter.toList)

theorem tokens_intercalate {row : List String} (hne : row ≠ []) (h : ∀ token ∈ row, ',' ∉ token.toList) :
    tokens (",".intercalate row) = row := by
  have htext : (",".intercalate row).toList = join [','] (row.map String.toList) := by
    rw [String.toList_intercalate, join_eq_intercalate]
    rfl
  have hpieces : split ',' (join [','] (row.map String.toList)) = row.map String.toList := by
    refine split_join (by simpa using hne) fun piece hpiece => ?_
    obtain ⟨token, htoken, rfl⟩ := List.mem_map.mp hpiece
    exact h token htoken
  rw [tokens, htext, hpieces, List.map_map]
  simp [Function.comp_def]

theorem tokens_append (parameter other : String) :
    tokens (parameter ++ "," ++ other) = tokens parameter ++ tokens other := by
  have htext : (parameter ++ "," ++ other).toList = parameter.toList ++ ',' :: other.toList := by
    simp [String.toList_append]
  rw [tokens, htext, split_append_sep, List.map_append]
  rfl

theorem entries_eq (parameter : String) : entries parameter = (tokens parameter).filterMap binding? := by
  rw [entries, tokens, List.filterMap_map]
  congr 1
  funext piece
  simp [binding?]

theorem given?_entry (hkey : '=' ∉ key.toList) (other value : String) :
    given? other (key ++ "=" ++ value) = if key = other then some value else none := by
  have hsplit : splitFirst? '=' (key ++ "=" ++ value).toList = some (key.toList, value.toList) :=
    splitFirst?_eq_some.mpr ⟨hkey, by simp [String.toList_append]⟩
  rw [given?, binding?, hsplit]
  simp

/-- A key without an equals sign ends at the first equals sign of a token that opens with both. -/
theorem given?_eq_some (hkey : '=' ∉ key.toList) : given? key token = some value ↔ token = key ++ "=" ++ value := by
  constructor
  · intro h
    obtain ⟨entry, hentry, hvalue⟩ := Option.bind_eq_some_iff.mp h
    obtain ⟨⟨front, rest⟩, hsplit, rfl⟩ := Option.map_eq_some_iff.mp hentry
    obtain ⟨rfl, rfl⟩ : String.ofList front = key ∧ String.ofList rest = value := by simpa using hvalue
    apply String.toList_injective
    rw [(splitFirst?_eq_some.mp hsplit).2]
    simp [String.toList_append]
  · rintro rfl
    rw [given?_entry hkey, if_pos rfl]

theorem given?_eq_none (hkey : '=' ∉ key.toList) : given? key token = none ↔ ¬ Gives key token := by
  rw [Option.eq_none_iff_forall_ne_some]
  exact ⟨fun h ⟨value, hvalue⟩ => h value ((given?_eq_some hkey).mpr hvalue),
    fun h value hvalue => h ⟨value, (given?_eq_some hkey).mp hvalue⟩⟩

/-! ## The last token with a key -/

theorem lastGiven?_append (key : String) (before after : List String) :
    lastGiven? key (before ++ after) = (lastGiven? key after).or (lastGiven? key before) := by
  rw [lastGiven?, List.reverse_append, List.findSome?_append]
  rfl

theorem lastGiven?_cons (key token : String) (rest : List String) :
    lastGiven? key (token :: rest) = (lastGiven? key rest).or (given? key token) := by
  have h := lastGiven?_append key [token] rest
  rw [List.singleton_append] at h
  rw [h, lastGiven?, lastGiven?, List.reverse_singleton, List.findSome?_singleton]

theorem valueOf?_entries (key parameter : String) :
    valueOf? key (entries parameter) = lastGiven? key (tokens parameter) := by
  rw [entries_eq, valueOf?, ← List.filterMap_reverse, lastGiven?]
  induction (tokens parameter).reverse with
  | nil => rfl
  | cons token rest ih =>
    rw [List.filterMap_cons, List.findSome?_cons, given?]
    cases binding? token with
    | none => exact ih
    | some entry =>
      by_cases hkey : entry.1 = key
      · simp [hkey]
      · simpa only [List.find?_cons, hkey, decide_false, Option.bind_some, if_false] using ih

theorem ofParameter_eq (parameter : String) : ofParameter parameter =
    { package := (lastGiven? "package" (tokens parameter)).getD "main"
      path := (lastGiven? "path" (tokens parameter)).getD "." } := by
  rw [ofParameter, ofEntries, valueOf?_entries, valueOf?_entries]

theorem lastGiven?_eq_some (hkey : '=' ∉ key.toList) {row : List String} :
    lastGiven? key row = some value ↔ ∃ before after, row = before ++ (key ++ "=" ++ value) :: after ∧
      ∀ token ∈ after, ¬ Gives key token := by
  rw [lastGiven?, List.findSome?_eq_some_iff]
  constructor
  · rintro ⟨later, token, earlier, hsplit, htoken, hlater⟩
    refine ⟨earlier.reverse, later.reverse, ?_, fun other hother => ?_⟩
    · have hrow := congrArg List.reverse hsplit
      rw [← (given?_eq_some hkey).mp htoken]
      simpa using hrow
    · exact (given?_eq_none hkey).mp (hlater other (List.mem_reverse.mp hother))
  · rintro ⟨before, after, rfl, hafter⟩
    refine ⟨after.reverse, _, before.reverse, by simp, (given?_eq_some hkey).mpr rfl, fun token htoken => ?_⟩
    exact (given?_eq_none hkey).mpr (hafter token (List.mem_reverse.mp htoken))

theorem lastGiven?_eq_none (hkey : '=' ∉ key.toList) {row : List String} :
    lastGiven? key row = none ↔ ∀ token ∈ row, ¬ Gives key token := by
  rw [lastGiven?, List.findSome?_eq_none_iff]
  simp only [List.mem_reverse, given?_eq_none hkey]

theorem sets_iff (hkey : '=' ∉ key.toList) : Sets key parameter ↔ lastGiven? key (tokens parameter) ≠ none := by
  rw [Ne, lastGiven?_eq_none hkey]
  push Not
  rfl

/-- The value of a key: that of the last token that sets it, or the default when none does. -/
inductive Holds (key default : String) (row : List String) : String → Prop
  | given {before after : List String} {value : String} (hsplit : row = before ++ (key ++ "=" ++ value) :: after)
      (hlast : ∀ token ∈ after, ¬ Gives key token) : Holds key default row value
  | unset (hnone : ∀ token ∈ row, ¬ Gives key token) : Holds key default row default

theorem holds_lastGiven? (hkey : '=' ∉ key.toList) (default : String) (row : List String) :
    Holds key default row ((lastGiven? key row).getD default) := by
  cases h : lastGiven? key row with
  | none => exact .unset ((lastGiven?_eq_none hkey).mp h)
  | some value =>
    obtain ⟨before, after, hsplit, hlast⟩ := (lastGiven?_eq_some hkey).mp h
    exact .given hsplit hlast

/-! ## A table filled token by token -/

def enter (table : Std.TreeMap String String) (token : String) : Std.TreeMap String String :=
  match binding? token with
  | none => table
  | some (key, value) => table.insert key value

def table (parameter : String) : Std.TreeMap String String :=
  (tokens parameter).foldl enter ∅

theorem getElem?_enter (table : Std.TreeMap String String) (key token : String) :
    (enter table token)[key]? = (given? key token).or table[key]? := by
  unfold enter given?
  cases binding? token with
  | none => rfl
  | some entry =>
    by_cases hkey : entry.1 = key
    · simp [hkey]
    · simp [Std.TreeMap.getElem?_insert, hkey]

theorem getElem?_foldl_enter (row : List String) (table : Std.TreeMap String String) (key : String) :
    (row.foldl enter table)[key]? = (lastGiven? key row).or table[key]? := by
  induction row generalizing table with
  | nil => rfl
  | cons token rest ih => rw [List.foldl_cons, ih, getElem?_enter, lastGiven?_cons, Option.or_assoc]

theorem getElem?_table (parameter key : String) :
    (table parameter)[key]? = lastGiven? key (tokens parameter) := by
  rw [table, getElem?_foldl_enter, Std.TreeMap.getElem?_emptyc, Option.or_none]

/-! ## Tokens that do not count -/

/-- Rows of tokens that idle tokens alone tell apart: such tokens are put in, taken out, and change places
with any other. -/
inductive Rearranged (row : List String) : List String → Prop
  | refl : Rearranged row row
  | insert {before after : List String} {token : String} (h : Rearranged row (before ++ after))
      (htoken : Idle token) : Rearranged row (before ++ token :: after)
  | delete {before after : List String} {token : String} (h : Rearranged row (before ++ token :: after))
      (htoken : Idle token) : Rearranged row (before ++ after)
  | swap {before after : List String} {first second : String}
      (h : Rearranged row (before ++ first :: second :: after)) (hidle : Idle first ∨ Idle second) :
      Rearranged row (before ++ second :: first :: after)

theorem lastGiven?_middle (key : String) (before : List String) (token : String) (after : List String) :
    lastGiven? key (before ++ token :: after) =
      ((lastGiven? key after).or (given? key token)).or (lastGiven? key before) := by
  rw [lastGiven?_append, lastGiven?_cons]

/-- A key that idle tokens do not set has the same last value after each of these changes. -/
theorem Rearranged.lastGiven?_eq {row other : List String}
    (hkey : ∀ token, Idle token → given? key token = none) (h : Rearranged row other) :
    lastGiven? key other = lastGiven? key row := by
  induction h with
  | refl => rfl
  | insert _ htoken ih =>
    rw [← ih, lastGiven?_middle, hkey _ htoken, Option.or_none, lastGiven?_append]
  | delete _ htoken ih =>
    rw [← ih, lastGiven?_middle, hkey _ htoken, Option.or_none, lastGiven?_append]
  | swap _ hidle ih =>
    rw [← ih, lastGiven?_middle, lastGiven?_middle, lastGiven?_cons, lastGiven?_cons]
    rcases hidle with hfirst | hsecond
    · rw [hkey _ hfirst, Option.or_none, Option.or_none]
    · rw [hkey _ hsecond, Option.or_none, Option.or_none]

theorem Rearranged.ofParameter_eq {other : String} (h : Rearranged (tokens parameter) (tokens other)) :
    ofParameter other = ofParameter parameter := by
  have hpackage := h.lastGiven?_eq fun token htoken => (given?_eq_none (by decide)).mpr htoken.1
  have hpath := h.lastGiven?_eq fun token htoken => (given?_eq_none (by decide)).mpr htoken.2
  rw [Settings.ofParameter_eq, Settings.ofParameter_eq, hpackage, hpath]

/-! ## Settings as a whole -/

theorem lastGiven?_tokens_append (hkey : '=' ∉ key.toList) (parameter other : String) :
    lastGiven? key (tokens (parameter ++ "," ++ other)) =
      if Sets key other then lastGiven? key (tokens other) else lastGiven? key (tokens parameter) := by
  rw [tokens_append, lastGiven?_append]
  by_cases hsets : Sets key other
  · obtain ⟨value, hvalue⟩ := Option.ne_none_iff_exists'.mp ((sets_iff hkey).mp hsets)
    rw [if_pos hsets, hvalue, Option.some_or]
  · have hnone : lastGiven? key (tokens other) = none := not_not.mp fun h => hsets ((sets_iff hkey).mpr h)
    rw [if_neg hsets, hnone, Option.none_or]

/-- The settings of a text, whose tokens are its pieces between commas. For each key the last token that sets
it holds, with all that stands behind its first equals sign, and the default where no token sets it; this is
what a table filled token by token comes to. A text behind a comma sets anew what it sets and leaves the rest,
and idle tokens change nothing wherever they are put in, taken out or moved. -/
theorem last_entry_holds (parameter : String) :
    ((∀ token ∈ tokens parameter, ',' ∉ token.toList) ∧ ",".intercalate (tokens parameter) = parameter) ∧
    Holds "package" "main" (tokens parameter) (ofParameter parameter).package ∧
    Holds "path" "." (tokens parameter) (ofParameter parameter).path ∧
    ofParameter parameter =
      { package := (table parameter).getD "package" "main", path := (table parameter).getD "path" "." } ∧
    (∀ other, ofParameter (parameter ++ "," ++ other) =
      { package := if Sets "package" other then (ofParameter other).package else (ofParameter parameter).package
        path := if Sets "path" other then (ofParameter other).path else (ofParameter parameter).path }) ∧
    ∀ other, Rearranged (tokens parameter) (tokens other) → ofParameter other = ofParameter parameter := by
  have hpackage : '=' ∉ "package".toList := by decide
  have hpath : '=' ∉ "path".toList := by decide
  refine ⟨⟨fun _ => comma_notMem_of_mem_tokens, intercalate_tokens parameter⟩, ?_, ?_, ?_, fun other => ?_,
    fun _ => Rearranged.ofParameter_eq⟩
  · rw [ofParameter_eq]
    exact holds_lastGiven? hpackage "main" _
  · rw [ofParameter_eq]
    exact holds_lastGiven? hpath "." _
  · rw [ofParameter_eq, Std.TreeMap.getD_eq_getD_getElem?, Std.TreeMap.getD_eq_getD_getElem?, getElem?_table,
      getElem?_table]
  · rw [ofParameter_eq, ofParameter_eq, ofParameter_eq, lastGiven?_tokens_append hpackage,
      lastGiven?_tokens_append hpath, apply_ite (Option.getD · "main"), apply_ite (Option.getD · ".")]

/-- A token without an equals sign is taken out and one with a near-miss key put in; both texts ask for the
last package, with the equals sign in it, and for the one path. -/
theorem last_entry_of_mixedTokens :
    Rearranged (tokens "package=a,x,path=gen,package=b=c") (tokens "package=a,path=gen,package =z,package=b=c") ∧
    ofParameter "package=a,path=gen,package =z,package=b=c" = ofParameter "package=a,x,path=gen,package=b=c" ∧
    ofParameter "package=a,x,path=gen,package=b=c" = { package := "b=c", path := "gen" } := by
  have hfirst : tokens "package=a,x,path=gen,package=b=c" = ["package=a", "x", "path=gen", "package=b=c"] := by
    decide
  have hsecond : tokens "package=a,path=gen,package =z,package=b=c" =
      ["package=a", "path=gen", "package =z", "package=b=c"] := by decide
  have hrearranged : Rearranged (tokens "package=a,x,path=gen,package=b=c")
      (tokens "package=a,path=gen,package =z,package=b=c") := by
    rw [hfirst, hsecond]
    have hshort : Rearranged ["package=a", "x", "path=gen", "package=b=c"] ["package=a", "path=gen", "package=b=c"] :=
      @Rearranged.delete _ ["package=a"] ["path=gen", "package=b=c"] "x" .refl (by decide)
    exact @Rearranged.insert _ ["package=a", "path=gen"] ["package=b=c"] "package =z" hshort (by decide)
  obtain ⟨_, _, _, _, _, hsame⟩ := last_entry_holds "package=a,x,path=gen,package=b=c"
  exact ⟨hrearranged, hsame _ hrearranged, by decide⟩

end Settings
end DispatchGen
