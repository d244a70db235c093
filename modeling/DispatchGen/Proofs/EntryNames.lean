import DispatchGen.Proofs.Precedence

/-! # Names of entries

A full name is a dot, the package with its own dot when there is one, and the chain of message names.
So an entry that a file adds always opens with its package as the recovery of the relative name expects,
and what is left behind that opening is the chain, also where a message is named like the package.
-/
namespace DispatchGen

/-- Messages from one that stands beside the given ones down to `last`, each declared directly inside the
one before it. -/
structure Message.Descent (messages chain : List Message) (last : Message) : Prop where
  first : ∃ outer ∈ messages, chain.head? = some outer
  nested : chain.IsChain fun outer inner => inner ∈ outer.nested
  last : chain.getLast? = some last

theorem Message.Descent.cons {messages chain : List Message} {outer last : Message} (ho : outer ∈ messages)
    (h : Message.Descent outer.nested chain last) : Message.Descent messages (outer :: chain) last := by
  obtain ⟨inner, hinner, hhead⟩ := h.first
  obtain ⟨rest, rfl⟩ := List.head?_eq_some_iff.mp hhead
  exact ⟨⟨outer, ho, rfl⟩, h.nested.cons_cons hinner, h.last⟩

/-- A message that is declared at a chain of names ends a descent through messages of these names. -/
theorem DeclaredAt.exists_descent {messages : List Message} {names : List String} {message : Message}
    (h : DeclaredAt messages names message) :
    ∃ chain, Message.Descent messages chain message ∧ chain.map (·.name) = names := by
  induction h with
  | @beside messages message hmem =>
    exact ⟨[message], ⟨⟨message, hmem, rfl⟩, .singleton _, rfl⟩, rfl⟩
  | @inside messages outer message names hmem _ ih =>
    obtain ⟨chain, hchain, rfl⟩ := ih
    exact ⟨outer :: chain, hchain.cons hmem, rfl⟩

theorem DeclaredAt.names_ne_nil {messages : List Message} {names : List String} {message : Message}
    (h : DeclaredAt messages names message) : names ≠ [] := by
  cases h <;> exact List.cons_ne_nil _ _

namespace TypeEntry
variable {entry : TypeEntry} {names : List String}

/-- A full name of the entry's own package opens as that package does; the chain of names follows. -/
theorem toList_absoluteName (hnames : names ≠ []) :
    (absoluteName entry.package names).toList = entry.opening ++ (".".intercalate names).toList := by
  unfold absoluteName opening
  split
  · rw [String.toList_append]
    rfl
  · rw [String.intercalate_cons_of_ne_nil hnames]
    simp only [String.toList_append, List.append_assoc, List.cons_append, List.nil_append]
    rfl

theorem relativeName_eq (hnames : names ≠ []) (h : entry.fullName = absoluteName entry.package names) :
    entry.relativeName = ".".intercalate names := by
  have hname : entry.fullName.toList = entry.opening ++ (".".intercalate names).toList := by
    rw [h, toList_absoluteName hnames]
  have hopening : entry.opening.isPrefixOf entry.fullName.toList := by
    rw [hname, List.isPrefixOf_iff_prefix]
    exact List.prefix_append _ _
  dsimp only [relativeName]
  rw [if_pos hopening, hname, List.drop_left, String.ofList_toList]

end TypeEntry

namespace Catalog

theorem exists_declaration_of_resolve {files : List SourceFile} {name : String} {entry : TypeEntry}
    (h : (ofFiles files).resolve name = some entry) :
    ∃ file ∈ files, ∃ names, DeclaredAt file.messages names entry.message ∧
      absoluteName file.package names = name ∧ entry = file.entryOf (names, entry.message) := by
  rw [resolve_ofFiles] at h
  obtain ⟨file, hfile, hentry⟩ := List.exists_of_findSome?_eq_some h
  obtain ⟨⟨names, message⟩, hlast, rfl⟩ := Option.map_eq_some_iff.mp hentry
  obtain ⟨earlier, later, hwalk, hname, _⟩ := SourceFile.lastNamed?_eq_some.mp hlast
  have hmem : (names, message) ∈ file.declarations := by
    rw [hwalk]
    exact List.mem_append_right _ (List.mem_cons_self ..)
  exact ⟨file, hfile, names, Message.mem_preorderOf.mp hmem, hname, rfl⟩

/-- An entry stands under its full name. It describes the message at the end of a chain that one of the
files declares, it has the file and the package of that declaration, and its relative name is the names of
the chain joined by dots. -/
theorem entry_describes_declaration {files : List SourceFile} {name : String} {entry : TypeEntry}
    (h : (ofFiles files).resolve name = some entry) :
    entry.fullName = name ∧ ∃ file ∈ files, ∃ chain, Message.Descent file.messages chain entry.message ∧
      entry.fileName = file.name ∧ entry.package = file.package ∧
      name = absoluteName file.package (chain.map (·.name)) ∧
      entry.relativeName = ".".intercalate (chain.map (·.name)) := by
  obtain ⟨file, hfile, names, hdeclared, rfl, hentry⟩ := exists_declaration_of_resolve h
  have hfull : entry.fullName = absoluteName file.package names := congrArg TypeEntry.fullName hentry
  have hpackage : entry.package = file.package := congrArg TypeEntry.package hentry
  have hrelative : entry.relativeName = ".".intercalate names :=
    TypeEntry.relativeName_eq hdeclared.names_ne_nil (hpackage ▸ hfull)
  obtain ⟨chain, hchain, rfl⟩ := hdeclared.exists_descent
  exact ⟨hfull, file, hfile, chain, hchain, congrArg TypeEntry.fileName hentry, hpackage, rfl, hrelative⟩

/-- A package that is named like the message it holds and like the message inside. -/
def selfNamed : SourceFile where
  name := "a/a.proto"
  package := "a"
  messages := [{ name := "a", nested := [{ name := "a", fields := ["inner"] }] }]

def innermostEntry : TypeEntry where
  fullName := ".a.a.a"
  fileName := "a/a.proto"
  package := "a"
  message := { name := "a", fields := ["inner"] }

theorem entry_of_selfNamed : (ofFiles [selfNamed]).resolve ".a.a.a" = some innermostEntry ∧
    innermostEntry.relativeName = "a.a" ∧
    innermostEntry.fullName = ".a.a.a" ∧ ∃ file ∈ [selfNamed], ∃ chain,
      Message.Descent file.messages chain innermostEntry.message ∧
      innermostEntry.fileName = file.name ∧ innermostEntry.package = file.package ∧
      ".a.a.a" = absoluteName file.package (chain.map (·.name)) ∧
      innermostEntry.relativeName = ".".intercalate (chain.map (·.name)) := by
  have hentry : (ofFiles [selfNamed]).resolve ".a.a.a" = some innermostEntry := by
    rw [resolve_ofFiles]
    rfl
  exact ⟨hentry, by decide, entry_describes_declaration hentry⟩

end Catalog
end DispatchGen
