import DispatchGen.Delivery

/-! # What file operations leave alone

Directories stay directories whatever is done, so a path that led to a place still leads there. Making
directories changes no file, and writing changes the one file at the end of its path.
-/
namespace DispatchGen
open Wire

theorem exists_of_bind_eq_ok {ε α β : Type} {x : Except ε α} {next : α → Except ε β} {result : β}
    (h : x.bind next = .ok result) : ∃ value, x = .ok value ∧ next value = .ok result := by
  cases x with
  | error fault => cases h
  | ok value => exact ⟨value, rfl, h⟩

namespace FileStore
variable {a b c store result : FileStore} {path : FilePath} {place other : Place} {content : Bytes} {entry : Entry}
variable {changed more : Place → Prop}

/-- Directories stay, and so do all files outside the changed places. -/
structure Frame (changed : Place → Prop) (a b : FileStore) : Prop where
  directory : ∀ place, a.entry? place = some .directory → b.entry? place = some .directory
  file : ∀ place, ¬ changed place → ∀ content,
    b.entry? place = some (.file content) ↔ a.entry? place = some (.file content)

theorem Frame.refl (changed : Place → Prop) (store : FileStore) : Frame changed store store :=
  ⟨fun _ h => h, fun _ _ _ => Iff.rfl⟩

theorem Frame.trans (h : Frame changed a b) (h' : Frame changed b c) : Frame changed a c := by
  refine ⟨fun place hd => h'.directory place (h.directory place hd), fun place hp content => ?_⟩
  exact (h'.file place hp content).trans (h.file place hp content)

theorem Frame.mono (h : Frame changed a b) (hmore : ∀ place, changed place → more place) : Frame more a b :=
  ⟨h.directory, fun place hp => h.file place fun hc => hp (hmore place hc)⟩

/-! ## Entries after a change -/

theorem lookup_replaced (entries : List (Place × Entry)) :
    (entries.map fun (p, e) => if p = place then (p, entry) else (p, e)).lookup other =
      if other = place ∧ entries.any (·.1 = place) then some entry else entries.lookup other := by
  induction entries with
  | nil => simp
  | cons row rest ih =>
    obtain ⟨p, e⟩ := row
    by_cases ho : other = p
    · subst ho
      by_cases hp : other = place <;> simp [hp]
    · have htest : (other == p) = false := beq_eq_false_iff_ne.mpr ho
      by_cases hp : p = place
      · subst hp
        simp [List.lookup_cons, htest, ho, ih]
      · have hkey : decide (p = place) = false := decide_eq_false hp
        simp only [List.map_cons, if_neg hp, List.lookup_cons, htest, ih, List.any_cons, hkey, Bool.false_or]

theorem lookup_put : (store.put place entry).entries.lookup other =
    if other = place then some entry else store.entries.lookup other := by
  rw [put]
  by_cases hany : store.entries.any (·.1 = place)
  · rw [if_pos hany, lookup_replaced]
    simp only [hany, and_true]
  · have hnone : store.entries.lookup place = none := by
      rw [List.lookup_eq_none_iff]
      intro row hrow
      have hne : row.1 ≠ place := fun heq => hany (List.any_eq_true.mpr ⟨row, hrow, decide_eq_true heq⟩)
      simpa using hne.symm
    rw [if_neg hany, List.lookup_append]
    by_cases ho : other = place
    · subst ho
      simp [hnone]
    · have htest : (other == place) = false := beq_eq_false_iff_ne.mpr ho
      simp [List.lookup_cons, htest, ho]

/-- Anchors stay directories. -/
theorem entry?_put (h : place.names ≠ []) :
    FileStore.entry? (store.put place entry) other = if other = place then some entry else store.entry? other := by
  unfold entry?
  by_cases ho : other = place
  · subst ho
    rw [if_neg h, lookup_put, if_pos rfl, if_pos rfl]
  · rw [lookup_put, if_neg ho, if_neg ho]

theorem names_ne_nil (h : store.entry? place ≠ some .directory) : place.names ≠ [] :=
  fun hnil => h (if_pos hnil)

/-! ## Paths after a change -/

theorem Frame.enter (h : Frame changed a b) {name : String} (ha : a.enter place name = .ok other) :
    b.enter place name = .ok other := by
  unfold FileStore.enter at ha ⊢
  cases hentry : a.entry? place with
  | none => rw [hentry] at ha; cases ha
  | some entry =>
    cases entry with
    | file content => rw [hentry] at ha; cases ha
    | directory =>
      rw [hentry] at ha
      rw [h.directory place hentry]
      exact ha

theorem Frame.foldlM_enter (h : Frame changed a b) {names : List String}
    (ha : names.foldlM a.enter place = .ok other) : names.foldlM b.enter place = .ok other := by
  induction names generalizing place with
  | nil => exact ha
  | cons name rest ih =>
    rw [List.foldlM_cons] at ha ⊢
    cases hname : a.enter place name with
    | error fault => rw [hname] at ha; cases ha
    | ok next =>
      rw [hname] at ha
      rw [h.enter hname]
      exact ih ha

theorem Frame.follow (h : Frame changed a b) (ha : a.follow path = .ok place) : b.follow path = .ok place := by
  unfold FileStore.follow at ha ⊢
  split at ha
  · cases ha
  · next hnull =>
    split at ha
    · cases ha
    · next hlong =>
      rw [if_neg hnull, if_neg hlong]
      exact h.foldlM_enter ha

/-! ## Single operations -/

theorem makeDirectory_eq_ok (h : store.makeDirectory path = .ok result) :
    ∃ place, store.entry? place = none ∧ result = store.put place .directory := by
  obtain ⟨place, _, hplace⟩ := exists_of_bind_eq_ok h
  cases hentry : store.entry? place with
  | some entry => rw [hentry] at hplace; cases hplace
  | none =>
    rw [hentry] at hplace
    exact ⟨place, hentry, (Except.ok.inj hplace).symm⟩

theorem frame_makeDirectory (h : store.makeDirectory path = .ok result) (changed : Place → Prop) :
    Frame changed store result := by
  obtain ⟨place, hentry, rfl⟩ := makeDirectory_eq_ok h
  have hnames : place.names ≠ [] := names_ne_nil (by rw [hentry]; exact nofun)
  refine ⟨fun other ho => ?_, fun other _ content => ?_⟩
  · rw [entry?_put hnames]
    split
    · rfl
    · exact ho
  · rw [entry?_put hnames]
    split
    · next heq => simp [heq, hentry]
    · exact Iff.rfl

theorem frame_ensureDirectory (h : store.ensureDirectory path = .ok result) (changed : Place → Prop) :
    Frame changed store result := by
  unfold ensureDirectory at h
  split at h
  · next made hmade =>
    cases h
    exact frame_makeDirectory hmade changed
  · split at h
    · cases h
      exact Frame.refl changed _
    · cases h

theorem frame_ensureDirectories {root : String} {names : List String}
    (h : store.ensureDirectories root names = .ok result) (changed : Place → Prop) :
    Frame changed store result := by
  induction names generalizing result with
  | nil => exact frame_ensureDirectory h changed
  | cons name outer ih =>
    rw [ensureDirectories] at h
    split at h
    · next made hmade =>
      cases h
      exact frame_ensureDirectory hmade changed
    · next error herror =>
      split at h
      · -- The outer directories were missing: they are made first, then this one is tried again.
        obtain ⟨between, houter, hinner⟩ := exists_of_bind_eq_ok h
        exact (ih houter).trans (frame_ensureDirectory hinner changed)
      · cases h

/-- A file stands at the end of the path, and nothing else has changed. -/
structure Wrote (path : FilePath) (content : Bytes) (store result : FileStore) (place : Place) : Prop where
  follow : result.follow path = .ok place
  entry : result.entry? place = some (.file content)
  frame : Frame (· = place) store result

theorem write_eq_ok (h : store.write path content = .ok result) : ∃ place, store.follow path = .ok place ∧
    store.entry? place ≠ some .directory ∧ result = store.put place (.file content) := by
  unfold write at h
  cases hplace : store.follow path with
  | error fault => rw [hplace] at h; cases h
  | ok place =>
    simp only [hplace] at h
    split at h
    · cases h
    · next hdirectory => exact ⟨place, rfl, hdirectory, (Except.ok.inj h).symm⟩

theorem exists_wrote_of_write (h : store.write path content = .ok result) :
    ∃ place, Wrote path content store result place := by
  obtain ⟨place, hplace, hdirectory, rfl⟩ := write_eq_ok h
  have hnames := names_ne_nil hdirectory
  have hframe : Frame (· = place) store (store.put place (.file content)) := by
    refine ⟨fun other ho => ?_, fun other ho content => ?_⟩
    · have hne : other ≠ place := fun heq => hdirectory (heq ▸ ho)
      rw [entry?_put hnames, if_neg hne]
      exact ho
    · rw [entry?_put hnames, if_neg ho]
  refine ⟨place, hframe.follow hplace, ?_, hframe⟩
  rw [entry?_put hnames, if_pos rfl]

theorem exists_wrote_of_deliver (h : store.deliver path content = .ok result) :
    ∃ place, Wrote path content store result place := by
  obtain ⟨made, hmade, hwrite⟩ := exists_of_bind_eq_ok h
  obtain ⟨place, hwrote⟩ := exists_wrote_of_write hwrite
  exact ⟨place, hwrote.follow, hwrote.entry, (frame_ensureDirectories hmade _).trans hwrote.frame⟩

theorem read_eq (hf : store.follow path = .ok place) (he : store.entry? place = some (.file content)) :
    store.read path = .ok content := by
  unfold read
  simp only [hf, he]

end FileStore

/-! ## Rows of writes -/

namespace Delivery
open FileStore
variable {store result : FileStore} {writes : List (FilePath × String)}

/-- At the end of every path stands a file with a text of the row, and nothing else has changed. Where
several paths lead to one place, the text is that of one of them. -/
structure WroteAll (writes : List (FilePath × String)) (store result : FileStore) : Prop where
  entry : ∀ row ∈ writes, ∃ place, result.follow row.1 = .ok place ∧
    ∃ other ∈ writes, result.follow other.1 = .ok place ∧ result.entry? place = some (.file (utf8 other.2))
  frame : Frame (fun place => ∃ row ∈ writes, result.follow row.1 = .ok place) store result

theorem WroteAll.cons {between : FileStore} {path : FilePath} {text : String} {rest : List (FilePath × String)}
    {place : Place} (h : Wrote path (utf8 text) store between place) (hrest : WroteAll rest between result) :
    WroteAll ((path, text) :: rest) store result := by
  have hfollow : result.follow path = .ok place := hrest.frame.follow h.follow
  refine ⟨?_, ?_⟩
  · rw [List.forall_mem_cons]
    refine ⟨⟨place, hfollow, ?_⟩, fun row hrow => ?_⟩
    · -- What the first write has put at its place stays there unless a later path leads there too.
      by_cases hlater : ∃ row ∈ rest, result.follow row.1 = .ok place
      · obtain ⟨row, hrow, hleads⟩ := hlater
        obtain ⟨found, hfound, other, hother, hsame, hentry⟩ := hrest.entry row hrow
        obtain rfl : found = place := Except.ok.inj (hfound.symm.trans hleads)
        exact ⟨other, List.mem_cons_of_mem _ hother, hsame, hentry⟩
      · have hentry := (hrest.frame.file place hlater (utf8 text)).mpr h.entry
        exact ⟨(path, text), List.mem_cons_self .., hfollow, hentry⟩
    · obtain ⟨found, hfound, other, hother, hsame, hentry⟩ := hrest.entry row hrow
      exact ⟨found, hfound, other, List.mem_cons_of_mem _ hother, hsame, hentry⟩
  · refine Frame.trans (h.frame.mono ?_) (hrest.frame.mono ?_)
    · rintro _ rfl
      exact ⟨(path, text), List.mem_cons_self .., hfollow⟩
    · rintro other ⟨row, hrow, hleads⟩
      exact ⟨row, List.mem_cons_of_mem _ hrow, hleads⟩

theorem wroteAll_of_writeAll (h : writeAll store writes = (result, none)) : WroteAll writes store result := by
  induction writes generalizing store with
  | nil =>
    obtain rfl : store = result := (Prod.mk.inj h).1
    exact ⟨fun row hrow => absurd hrow (List.not_mem_nil), Frame.refl _ _⟩
  | cons row rest ih =>
    obtain ⟨path, text⟩ := row
    rw [writeAll] at h
    split at h
    · next between hdelivered =>
      obtain ⟨place, hwrote⟩ := exists_wrote_of_deliver hdelivered
      exact WroteAll.cons hwrote (ih h)
    · cases h

end Delivery
end DispatchGen
