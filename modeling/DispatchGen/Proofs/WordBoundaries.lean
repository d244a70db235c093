import DispatchGen.Proofs.Destinations
import Mathlib.Data.List.Chain

/-! # Words of a name

A name in mixed case is cut wherever one of two patterns fits: a capital behind a small letter or a digit, or a
capital behind a capital with a small letter next. The words are written in lower case with underscores between
them. So an underscore is added between letters and digits alone, and of the name only the case is lost.
-/
namespace DispatchGen.Text

/-- The two patterns of a place where a word begins, with what stands before it and behind it. -/
def WordBoundary (front back : List Char) : Prop :=
  (∃ before ∈ front.getLast?, ∃ here ∈ back.head?, (before.isLower ∨ before.isDigit) ∧ here.isUpper) ∨
    ∃ before ∈ front.getLast?, ∃ here ∈ back.head?, ∃ after ∈ back.tail.head?,
      before.isUpper ∧ here.isUpper ∧ after.isLower

theorem wordBoundary_iff_any {front back : List Char} : WordBoundary front back ↔
    front.getLast?.any fun before => back.head?.any fun here => opensWord before here back.tail.head? := by
  unfold WordBoundary
  cases front.getLast? <;> cases back.head? <;> cases back.tail.head? <;> simp [opensWord] <;> tauto

instance (front back : List Char) : Decidable (WordBoundary front back) :=
  decidable_of_iff _ wordBoundary_iff_any.symm

/-- The words of a text that stands behind `front`; the first of them goes on what `front` ends with. -/
def wordsBehind (front : List Char) : List Char → List (List Char)
  | [] => [[]]
  | here :: rest =>
    let words := (wordsBehind (front ++ [here]) rest).modifyHead (here :: ·)
    if WordBoundary front (here :: rest) then [] :: words else words

/-- The text cut at every place where a word begins. -/
def words (s : List Char) : List (List Char) :=
  wordsBehind [] s

/-- The first ends and the second begins with a letter or a digit. -/
def Adjoins (before after : List Char) : Prop :=
  (∃ c ∈ before.getLast?, c.isAlphanum) ∧ ∃ c ∈ after.head?, c.isAlphanum

section Words
variable {front s : List Char} {before here c : Char}

theorem wordBoundary_iff {rest : List Char} :
    WordBoundary (front ++ [before]) (here :: rest) ↔ opensWord before here rest.head? := by
  simp [wordBoundary_iff_any]

theorem not_wordBoundary_nil (back : List Char) : ¬ WordBoundary [] back := by
  simp [WordBoundary]

theorem isAlphanum_iff : c.isAlphanum ↔ (c.isUpper ∨ c.isLower) ∨ c.isDigit := by
  have hcases : c.isAlphanum = ((c.isUpper || c.isLower) || c.isDigit) := rfl
  rw [hcases, Bool.or_eq_true, Bool.or_eq_true]

theorem WordBoundary.adjoins {back : List Char} (h : WordBoundary front back) : Adjoins front back := by
  rcases h with ⟨before, hbefore, here, hhere, hsmall, hcapital⟩ |
    ⟨before, hbefore, here, hhere, _, _, hfirst, hcapital, _⟩
  · exact ⟨⟨before, hbefore, isAlphanum_iff.mpr (hsmall.imp_left Or.inr)⟩,
      here, hhere, isAlphanum_iff.mpr (Or.inl (Or.inl hcapital))⟩
  · exact ⟨⟨before, hbefore, isAlphanum_iff.mpr (Or.inl (Or.inl hfirst))⟩,
      here, hhere, isAlphanum_iff.mpr (Or.inl (Or.inl hcapital))⟩

theorem exists_wordsBehind_eq (front s : List Char) :
    ∃ word others, wordsBehind front s = word :: others := by
  induction s generalizing front with
  | nil => exact ⟨[], [], rfl⟩
  | cons here rest ih =>
    obtain ⟨word, others, hrest⟩ := ih (front ++ [here])
    by_cases hcut : WordBoundary front (here :: rest)
    · exact ⟨[], (here :: word) :: others, by simp [wordsBehind, hcut, hrest]⟩
    · exact ⟨here :: word, others, by simp [wordsBehind, hcut, hrest]⟩

theorem flatten_wordsBehind (front s : List Char) : (wordsBehind front s).flatten = s := by
  induction s generalizing front with
  | nil => rfl
  | cons here rest ih =>
    obtain ⟨word, others, hrest⟩ := exists_wordsBehind_eq (front ++ [here]) rest
    have hflat : word ++ others.flatten = rest := by simpa [hrest] using ih (front ++ [here])
    by_cases hcut : WordBoundary front (here :: rest) <;> simp [wordsBehind, hcut, hrest, hflat]

theorem join_cons_cons (sep word : List Char) (c : Char) (others : List (List Char)) :
    join sep ((c :: word) :: others) = c :: join sep (word :: others) := by
  cases others <;> rfl

/-- Behind the first letter, the words joined are the text with its underscores. -/
theorem separateWords_cons (front : List Char) (before : Char) (s : List Char) :
    separateWords (before :: s) = before :: join ['_'] (wordsBehind (front ++ [before]) s) := by
  induction s generalizing front before with
  | nil => rfl
  | cons here rest ih =>
    obtain ⟨word, others, hrest⟩ := exists_wordsBehind_eq (front ++ [before] ++ [here]) rest
    have hback := ih (front ++ [before]) here
    rw [hrest] at hback
    rw [separateWords, wordsBehind, hrest, List.modifyHead_cons, hback]
    by_cases hcut : WordBoundary (front ++ [before]) (here :: rest)
    · rw [if_pos (wordBoundary_iff.mp hcut), if_pos hcut, join, join_cons_cons]
      rfl
    · rw [if_neg (fun h => hcut (wordBoundary_iff.mpr h)), if_neg hcut, join_cons_cons]

theorem join_words (s : List Char) : join ['_'] (words s) = separateWords s := by
  cases s with
  | nil => rfl
  | cons c rest =>
    obtain ⟨word, others, hrest⟩ := exists_wordsBehind_eq [c] rest
    rw [separateWords_cons [] c rest, words, wordsBehind, if_neg (not_wordBoundary_nil _), List.nil_append,
      hrest, List.modifyHead_cons, join_cons_cons]

theorem isChain_wordsBehind (front s : List Char) :
    ((wordsBehind front s).modifyHead (front ++ ·)).IsChain Adjoins := by
  induction s generalizing front with
  | nil => simp [wordsBehind]
  | cons here rest ih =>
    obtain ⟨word, others, hrest⟩ := exists_wordsBehind_eq (front ++ [here]) rest
    have hchain := ih (front ++ [here])
    rw [hrest, List.modifyHead_cons, List.append_assoc, List.singleton_append] at hchain
    by_cases hcut : WordBoundary front (here :: rest)
    · -- The new word begins here, and what comes next adjoins it as it adjoined the longer text.
      have hword : ((here :: word) :: others).IsChain Adjoins := by
        cases others with
        | nil => exact List.isChain_singleton _
        | cons next others =>
          rw [List.isChain_cons_cons] at hchain ⊢
          obtain ⟨⟨⟨c, hc, halnum⟩, hnext⟩, hothers⟩ := hchain
          refine ⟨⟨⟨c, ?_, halnum⟩, hnext⟩, hothers⟩
          rwa [List.getLast?_append_of_ne_nil _ (List.cons_ne_nil _ _)] at hc
      have hfront : Adjoins front (here :: word) := ⟨hcut.adjoins.1, hcut.adjoins.2⟩
      simpa [wordsBehind, hcut, hrest] using ⟨hfront, hword⟩
    · simpa [wordsBehind, hcut, hrest] using hchain

theorem isChain_words (s : List Char) : (words s).IsChain Adjoins := by
  obtain ⟨word, others, hwords⟩ := exists_wordsBehind_eq [] s
  have hchain := isChain_wordsBehind [] s
  rwa [hwords, List.modifyHead_cons, List.nil_append, ← hwords] at hchain

end Words

/-! ## Underscores -/

def bare (s : List Char) : List Char :=
  s.filter (· ≠ '_')

/-- How often two underscores stand side by side. -/
def doubles : List Char → Nat
  | first :: second :: rest => (if first = '_' ∧ second = '_' then 1 else 0) + doubles (second :: rest)
  | _ => 0

section Underscores
variable {before here : Char} {after : Option Char}

theorem ne_underscore_of_opensWord (h : opensWord before here after) : before ≠ '_' ∧ here ≠ '_' := by
  constructor
  · rintro rfl
    simp [opensWord] at h
  · rintro rfl
    simp [opensWord] at h

theorem exists_separateWords_cons (c : Char) (s : List Char) : ∃ rest, separateWords (c :: s) = c :: rest :=
  ⟨_, separateWords_cons [] c s⟩

theorem bare_cons (c : Char) (s : List Char) : bare (c :: s) = bare [c] ++ bare s :=
  List.filter_append [c] s

theorem bare_separateWords (s : List Char) : bare (separateWords s) = bare s := by
  fun_induction separateWords s with
  | case1 before here rest _ ih =>
    rw [bare_cons, bare_cons '_', ih, bare_cons before (here :: rest)]
    rfl
  | case2 before here rest _ ih => rw [bare_cons, ih, ← bare_cons]
  | case3 short => rfl

theorem head?_separateWords (s : List Char) : (separateWords s).head? = s.head? := by
  cases s with
  | nil => rfl
  | cons c rest => rw [separateWords_cons [] c rest, List.head?_cons, List.head?_cons]

theorem getLast?_separateWords (s : List Char) : (separateWords s).getLast? = s.getLast? := by
  fun_induction separateWords s with
  | case1 before here rest _ ih =>
    obtain ⟨behind, hbehind⟩ := exists_separateWords_cons here rest
    rw [hbehind] at ih ⊢
    rw [List.getLast?_cons_cons, List.getLast?_cons_cons, ih, List.getLast?_cons_cons]
  | case2 before here rest _ ih =>
    obtain ⟨behind, hbehind⟩ := exists_separateWords_cons here rest
    rw [hbehind] at ih ⊢
    rw [List.getLast?_cons_cons, ih, List.getLast?_cons_cons]
  | case3 short => rfl

theorem doubles_separateWords (s : List Char) : doubles (separateWords s) = doubles s := by
  fun_induction separateWords s with
  | case1 before here rest hopens ih =>
    -- Neither neighbour of the new underscore is one, so it makes no pair.
    obtain ⟨hbefore, hhere⟩ := ne_underscore_of_opensWord hopens
    obtain ⟨behind, hbehind⟩ := exists_separateWords_cons here rest
    rw [hbehind] at ih ⊢
    simp [doubles, ih, hbefore, hhere]
  | case2 before here rest _ ih =>
    obtain ⟨behind, hbehind⟩ := exists_separateWords_cons here rest
    rw [hbehind] at ih ⊢
    rw [doubles, ih, doubles]
  | case3 short => rfl

end Underscores

/-! ## Lower case -/

def IsAscii (s : List Char) : Prop :=
  ∀ c ∈ s, c.toNat < 128

instance (s : List Char) : Decidable (IsAscii s) :=
  List.decidableBAll _ s

section Ascii
variable {c : Char} {s : List Char}

theorem forall_ascii {p : Char → Prop} (h : ∀ n < 128, p (Char.ofNat n)) (hc : c.toNat < 128) : p c :=
  Char.ofNat_toNat c ▸ h c.toNat hc

theorem lowerLetter_of_ascii (hc : c.toNat < 128) : lowerLetter c = c.toLower :=
  forall_ascii (p := fun c => lowerLetter c = c.toLower) (by decide +kernel) hc

/-- A letter in lower case is no capital, and is an underscore just when it was one. -/
theorem toLower_of_ascii (hc : c.toNat < 128) : c.toLower.toNat < 128 ∧ c.toLower.isUpper = false ∧
    c.toLower.toLower = c.toLower ∧ (c.toLower = '_' ↔ c = '_') :=
  forall_ascii (p := fun c => c.toLower.toNat < 128 ∧ c.toLower.isUpper = false ∧
    c.toLower.toLower = c.toLower ∧ (c.toLower = '_' ↔ c = '_')) (by decide +kernel) hc

theorem lowerFrom_of_ascii (before : List Char) (h : IsAscii s) : lowerFrom before s = s.map Char.toLower := by
  induction s generalizing before with
  | nil => rfl
  | cons c rest ih =>
    rw [IsAscii, List.forall_mem_cons] at h
    have hdotted : c ≠ 'İ' := by
      rintro rfl
      exact absurd h.1 (by decide)
    have hsigma : c ≠ 'Σ' := by
      rintro rfl
      exact absurd h.1 (by decide)
    rw [lowerFrom, lowerAt, if_neg hdotted, if_neg hsigma, ih _ h.2, lowerLetter_of_ascii h.1]
    rfl

theorem IsAscii.separateWords (h : IsAscii s) : IsAscii (separateWords s) := by
  intro c hc
  rcases mem_separateWords hc with rfl | hmem
  · decide
  · exact h c hmem

theorem IsAscii.map_toLower (h : IsAscii s) : IsAscii (s.map Char.toLower) :=
  List.forall_mem_map.mpr fun c hc => (toLower_of_ascii (h c hc)).1

theorem toList_snakeCase {name : String} (h : IsAscii name.toList) :
    (snakeCase name).toList = (separateWords name.toList).map Char.toLower := by
  rw [snakeCase, String.toList_ofList, lower, lowerFrom_of_ascii [] h.separateWords]

theorem bare_map_toLower (h : IsAscii s) : bare (s.map Char.toLower) = (bare s).map Char.toLower := by
  rw [bare, bare, List.filter_map]
  congr 1
  refine List.filter_congr fun c hc => ?_
  simp [(toLower_of_ascii (h c hc)).2.2.2]

theorem doubles_map_toLower (h : IsAscii s) : doubles (s.map Char.toLower) = doubles s := by
  fun_induction doubles s with
  | case1 first second rest ih =>
    rw [IsAscii, List.forall_mem_cons] at h
    have hrest := ih h.2
    have hfirst := (toLower_of_ascii h.1).2.2.2
    have hsecond := (toLower_of_ascii (h.2 second (List.mem_cons_self ..))).2.2.2
    rw [List.map_cons] at hrest
    simp only [List.map_cons, doubles, hfirst, hsecond, hrest]
  | case2 short hshort =>
    rcases short with _ | ⟨c, _ | ⟨d, rest⟩⟩
    · rfl
    · rfl
    · exact absurd rfl (hshort c d rest)

/-- No word begins inside a text without capitals. -/
theorem separateWords_of_no_capital (h : ∀ c ∈ s, c.isUpper = false) : separateWords s = s := by
  fun_induction separateWords s with
  | case1 before here rest hopens _ =>
    have hhere : here.isUpper = false := h here (by simp)
    rw [opensWord, hhere] at hopens
    cases hopens
  | case2 before here rest _ ih => rw [ih fun c hc => h c (List.mem_cons_of_mem _ hc)]
  | case3 short => rfl

theorem map_join (sep : List Char) (pieces : List (List Char)) :
    (join sep pieces).map Char.toLower = join (sep.map Char.toLower) (pieces.map (·.map Char.toLower)) := by
  induction pieces with
  | nil => rfl
  | cons first rest ih =>
    cases rest with
    | nil => rfl
    | cons next others =>
      rw [join, List.map_append, List.map_append, ih]
      rfl

end Ascii

theorem snakeCase_snakeCase {name : String} (h : IsAscii name.toList) :
    snakeCase (snakeCase name) = snakeCase name := by
  have hword := h.separateWords
  have hascii : IsAscii (snakeCase name).toList := by
    rw [toList_snakeCase h]
    exact hword.map_toLower
  have hsmall : ∀ c ∈ (snakeCase name).toList, c.isUpper = false := by
    rw [toList_snakeCase h]
    exact List.forall_mem_map.mpr fun c hc => (toLower_of_ascii (hword c hc)).2.1
  apply String.toList_injective
  rw [toList_snakeCase hascii, separateWords_of_no_capital hsmall, toList_snakeCase h, List.map_map]
  exact List.map_congr_left fun c hc => (toLower_of_ascii (hword c hc)).2.2.1

theorem bare_snakeCase {name : String} (h : IsAscii name.toList) :
    bare (snakeCase name).toList = bare (name.toList.map Char.toLower) := by
  rw [toList_snakeCase h, bare_map_toLower h.separateWords, bare_separateWords, ← bare_map_toLower h]

/-- A name of ASCII characters is cut into its words, in front of each capital that opens one, and they are joined
in lower case. Each underscore that comes in stands between two letters or digits, so none is added at an end or
beside another and none is lost. Only underscores and case are given up: a second time nothing changes, and names
that come out the same are the same but for them. -/
theorem snakeCase_of_ascii (name : String) (h : IsAscii name.toList) :
    (snakeCase name).toList = join ['_'] ((words name.toList).map (·.map Char.toLower)) ∧
      (words name.toList).flatten = name.toList ∧ (words name.toList).IsChain Adjoins ∧
      bare (snakeCase name).toList = bare (name.toList.map Char.toLower) ∧
      (snakeCase name).toList.head? = name.toList.head?.map Char.toLower ∧
      (snakeCase name).toList.getLast? = name.toList.getLast?.map Char.toLower ∧
      doubles (snakeCase name).toList = doubles name.toList ∧
      snakeCase (snakeCase name) = snakeCase name ∧
      ∀ other : String, IsAscii other.toList → snakeCase name = snakeCase other →
        bare (name.toList.map Char.toLower) = bare (other.toList.map Char.toLower) := by
  refine ⟨?_, flatten_wordsBehind [] _, isChain_words _, bare_snakeCase h, ?_, ?_, ?_, snakeCase_snakeCase h, ?_⟩
  · rw [toList_snakeCase h, ← join_words, map_join]
    rfl
  · rw [toList_snakeCase h, List.head?_map, head?_separateWords]
  · rw [toList_snakeCase h, List.getLast?_map, getLast?_separateWords]
  · rw [toList_snakeCase h, doubles_map_toLower h.separateWords, doubles_separateWords]
  · intro other hother heq
    rw [← bare_snakeCase h, heq, bare_snakeCase hother]

theorem snakeCase_of_jsonFeed : IsAscii "JSONFeed2_API".toList ∧ IsAscii "Json_Feed2_Api".toList ∧
    snakeCase "JSONFeed2_API" = snakeCase "Json_Feed2_Api" ∧
    words "JSONFeed2_API".toList = ["JSON".toList, "Feed2_API".toList] ∧
    (snakeCase "JSONFeed2_API").toList = join ['_'] ["json".toList, "feed2_api".toList] ∧
    snakeCase (snakeCase "JSONFeed2_API") = snakeCase "JSONFeed2_API" ∧
    bare ("JSONFeed2_API".toList.map Char.toLower) = bare ("Json_Feed2_Api".toList.map Char.toLower) := by
  have hname : IsAscii "JSONFeed2_API".toList := by decide +kernel
  have hother : IsAscii "Json_Feed2_Api".toList := by decide +kernel
  have hsame : snakeCase "JSONFeed2_API" = snakeCase "Json_Feed2_Api" := by decide +kernel
  have hwords : words "JSONFeed2_API".toList = ["JSON".toList, "Feed2_API".toList] := by decide +kernel
  obtain ⟨hjoin, _, _, _, _, _, _, htwice, hcollide⟩ := snakeCase_of_ascii "JSONFeed2_API" hname
  rw [hwords] at hjoin
  exact ⟨hname, hother, hsame, hwords, hjoin, htwice, hcollide _ hother hsame⟩

end DispatchGen.Text
