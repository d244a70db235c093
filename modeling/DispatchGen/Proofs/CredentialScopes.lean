import DispatchGen.Credentials
import Mathlib.Data.List.Forall2

/-! # Credentials of nested blocks

Code enters and leaves its blocks as a tree: a block is left when its body ends, and also when the body
fails, before the failure goes on. Each block puts back what held when it was entered, so the context behaves
as the stack of the open blocks: at every point the innermost one counts.
-/
namespace DispatchGen

structure Login where
  user : String
  password : String
  deriving Repr, DecidableEq

def Login.text (login : Login) : String := login.user ++ ":" ++ login.password

theorem Login.text_ne_empty (login : Login) : login.text ≠ "" := by
  intro h
  have hlength := congrArg String.length h
  simp only [text, String.length_append] at hlength
  have hcolon : ":".length = 1 := rfl
  have hempty : "".length = 0 := rfl
  omega

/-- Code that runs in one context. A failure leaves everything up to the next guard. -/
inductive ScopedCode where
  | done
  | failure
  | readCredential (next : ScopedCode)
  | makeMetadata (metadata : List (String × String)) (default : Option Login) (next : ScopedCode)
  | block (login : Login) (body next : ScopedCode)
  | guarded (body next : ScopedCode)

inductive Seen where
  | credential (value : Option String)
  | metadata (entries : List (String × String))
  deriving Repr, DecidableEq

structure CodeRun where
  context : CredentialContext
  seen : List Seen
  failed : Bool

def CodeRun.behind (seen : List Seen) (run : CodeRun) : CodeRun :=
  { run with seen := seen ++ run.seen }

namespace CredentialContext
variable {context later inner : CredentialContext}

/-- The same credential is in force, and the blocks that were entered in between have all been left. -/
structure Restored (context later : CredentialContext) : Prop where
  current : later.current = context.current
  blocks : ∃ left, later.blocks = context.blocks ++ left ∧ ∀ block ∈ left, block.isOpen = false

theorem Restored.refl (context : CredentialContext) : context.Restored context :=
  ⟨rfl, [], (List.append_nil _).symm, fun _ h => nomatch h⟩

theorem Restored.trans {last : CredentialContext} (h : context.Restored later) (h' : later.Restored last) :
    context.Restored last := by
  obtain ⟨left, hleft, hclosed⟩ := h.blocks
  obtain ⟨left', hleft', hclosed'⟩ := h'.blocks
  refine ⟨h'.current.trans h.current, left ++ left', ?_, ?_⟩
  · rw [hleft', hleft, List.append_assoc]
  · intro block hblock
    exact (List.mem_append.mp hblock).elim (hclosed block) (hclosed' block)

/-- Leaving a block whose body has left all of its own. -/
theorem Restored.leave {user password : String} (h : (context.enter user password).Restored inner) :
    context.Restored (inner.leave context.blocks.length) := by
  obtain ⟨left, hleft, hclosed⟩ := h.blocks
  have hblocks : inner.blocks = context.blocks ++ { restores := context.current } :: left := by
    rw [hleft, enter, List.append_assoc, List.singleton_append]
  have hentry : inner.blocks[context.blocks.length]? = some { restores := context.current } := by
    rw [hblocks, List.getElem?_append_right (Nat.le_refl _), Nat.sub_self]
    rfl
  have hleave : inner.leave context.blocks.length =
      ⟨context.current, context.blocks ++ ⟨context.current, false⟩ :: left⟩ := by
    have hset : inner.blocks.set context.blocks.length ⟨context.current, false⟩ =
        context.blocks ++ ⟨context.current, false⟩ :: left := by
      rw [hblocks, List.set_append_right _ _ (Nat.le_refl _), Nat.sub_self]
      rfl
    rw [← hset, CredentialContext.leave, hentry]
    rfl
  rw [hleave]
  refine ⟨rfl, _, rfl, fun block hblock => ?_⟩
  rcases List.mem_cons.mp hblock with rfl | hblock
  · rfl
  · exact hclosed block hblock

/-- There is exactly one credential in the metadata of a call, so a second call changes nothing. -/
theorem metadataFor_metadataFor (context : CredentialContext) (default : Option String)
    (metadata : List (String × String)) :
    context.metadataFor default (context.metadataFor default metadata) = context.metadataFor default metadata := by
  unfold metadataFor
  cases context.current.or default with
  | none => rfl
  | some text =>
    by_cases h : text = ""
    · simp [withCredential, h]
    · simp [withCredential, h, credentialEntries, List.filter_append, List.filter_filter]

end CredentialContext

namespace ScopedCode
open CredentialContext

/-- Runs the code. On leaving a block the credential then in force is read, however its body ended. -/
def run : ScopedCode → CredentialContext → CodeRun
  | done, context => ⟨context, [], false⟩
  | failure, context => ⟨context, [], true⟩
  | readCredential next, context => (next.run context).behind [.credential context.current]
  | makeMetadata metadata default next, context =>
    (next.run context).behind [.metadata (context.metadataFor (default.map fun login => credentialText login.user login.password) metadata)]
  | block login body next, context =>
    let inner := body.run (context.enter login.user login.password)
    let outer := inner.context.leave context.blocks.length
    let seen := inner.seen ++ [.credential outer.current]
    if inner.failed then ⟨outer, seen, true⟩ else (next.run outer).behind seen
  | guarded body next, context =>
    let inner := body.run context
    (next.run inner.context).behind inner.seen

/-- Some failure is not guarded. -/
def fails : ScopedCode → Bool
  | done => false
  | failure => true
  | readCredential next => next.fails
  | makeMetadata _ _ next => next.fails
  | block _ body next => body.fails || next.fails
  | guarded _ next => next.fails

inductive Call where
  | credential
  | metadata (metadata : List (String × String)) (default : Option Login)

/-- A call, and the blocks that are open around it, the innermost first. -/
structure Moment where
  opened : List Login
  call : Call

/-- The calls in the order in which they are reached, each with the blocks it stands in. -/
def moments : ScopedCode → List Login → List Moment
  | done, _ => []
  | failure, _ => []
  | readCredential next, opened => ⟨opened, .credential⟩ :: next.moments opened
  | makeMetadata metadata default next, opened => ⟨opened, .metadata metadata default⟩ :: next.moments opened
  | block login body next, opened =>
    body.moments (login :: opened) ++ ⟨opened, .credential⟩ :: if body.fails then [] else next.moments opened
  | guarded body next, opened => body.moments opened ++ next.moments opened

/-- The login of the innermost open block, or the one from before all blocks. -/
def inForce (before : Option Login) (opened : List Login) : Option Login :=
  opened.head?.or before

/-- What a call has to give back at its moment. -/
inductive Shows (before : Option Login) : Moment → Seen → Prop
  | credential {opened : List Login} :
      Shows before ⟨opened, .credential⟩ (.credential ((inForce before opened).map Login.text))
  | unchanged {opened : List Login} {metadata : List (String × String)} (h : inForce before opened = none) :
      Shows before ⟨opened, .metadata metadata none⟩ (.metadata metadata)
  | replaced {opened : List Login} {metadata : List (String × String)} {default : Option Login} {login : Login}
      (h : (inForce before opened).or default = some login) :
      Shows before ⟨opened, .metadata metadata default⟩
        (.metadata (metadata.filter (·.1 ≠ "authorization") ++ [("authorization", login.text)]))

theorem failed_run (code : ScopedCode) (context : CredentialContext) : (code.run context).failed = code.fails := by
  induction code generalizing context with
  | done => rfl
  | failure => rfl
  | readCredential next ih => exact ih context
  | makeMetadata metadata default next ih => exact ih context
  | block login body next ihbody ihnext =>
    simp only [run, fails, ihbody]
    cases body.fails with
    | true => rfl
    | false => exact ihnext _
  | guarded body next _ ihnext => exact ihnext _

theorem restored_run (code : ScopedCode) (context : CredentialContext) :
    context.Restored (code.run context).context := by
  induction code generalizing context with
  | done => exact .refl context
  | failure => exact .refl context
  | readCredential next ih => exact ih context
  | makeMetadata metadata default next ih => exact ih context
  | block login body next ihbody ihnext =>
    have houter := (ihbody (context.enter login.user login.password)).leave
    simp only [run]
    split
    · exact houter
    · exact houter.trans (ihnext _)
  | guarded body next ihbody ihnext => exact (ihbody context).trans (ihnext _)

theorem shows_credential {before : Option Login} {opened : List Login} {context : CredentialContext}
    (h : context.current = (inForce before opened).map Login.text) :
    Shows before ⟨opened, .credential⟩ (.credential context.current) := by
  rw [h]
  exact .credential

theorem shows_metadata {before : Option Login} {opened : List Login} {context : CredentialContext}
    (h : context.current = (inForce before opened).map Login.text) (metadata : List (String × String))
    (default : Option Login) : Shows before ⟨opened, .metadata metadata default⟩
      (.metadata (context.metadataFor (default.map Login.text) metadata)) := by
  have hchosen : context.current.or (default.map Login.text) =
      ((inForce before opened).or default).map Login.text := by
    rw [h]
    cases inForce before opened <;> rfl
  rw [metadataFor, hchosen]
  cases hlogin : (inForce before opened).or default with
  | none =>
    obtain ⟨hopened, rfl⟩ := Option.or_eq_none_iff.mp hlogin
    exact .unchanged hopened
  | some login =>
    rw [Option.map_some, withCredential, if_neg login.text_ne_empty]
    exact .replaced hlogin

/-- In a context where the innermost open block counts, every call of the code shows it. -/
theorem shows_run (code : ScopedCode) {before : Option Login} {opened : List Login} {context : CredentialContext}
    (h : context.current = (inForce before opened).map Login.text) :
    List.Forall₂ (Shows before) (code.moments opened) (code.run context).seen := by
  induction code generalizing opened context with
  | done => exact .nil
  | failure => exact .nil
  | readCredential next ih => exact .cons (shows_credential h) (ih h)
  | makeMetadata metadata default next ih => exact .cons (shows_metadata h metadata default) (ih h)
  | block login body next ihbody ihnext =>
    -- Inside, the block's own login is the innermost; behind it the context is as it was.
    have hinside : (context.enter login.user login.password).current =
        (inForce before (login :: opened)).map Login.text := rfl
    have hbehind : ((body.run (context.enter login.user login.password)).context.leave
        context.blocks.length).current = (inForce before opened).map Login.text :=
      (restored_run body _).leave.current.trans h
    simp only [run, moments, failed_run]
    cases body.fails with
    | true => exact List.rel_append (ihbody hinside) (.cons (shows_credential hbehind) .nil)
    | false =>
      simp only [CodeRun.behind, List.append_assoc, List.singleton_append]
      exact List.rel_append (ihbody hinside) (.cons (shows_credential hbehind) (ihnext hbehind))
  | guarded body next ihbody ihnext =>
    exact List.rel_append (ihbody h) (ihnext ((body.restored_run context).current.trans h))

/-- However blocks are nested and wherever their bodies fail, every call shows the innermost open block, or
what was in force before all of them, and afterwards the context is as it was. Metadata is only changed when
there is a credential, and then has it as its one authorization entry; doing this again changes nothing. -/
theorem run_in_nested_blocks (code : ScopedCode) (before : Option Login) (blocks : List CredentialBlock) :
    List.Forall₂ (Shows before) (code.moments []) (code.run ⟨before.map Login.text, blocks⟩).seen ∧
    (code.run ⟨before.map Login.text, blocks⟩).failed = code.fails ∧
    Restored ⟨before.map Login.text, blocks⟩ (code.run ⟨before.map Login.text, blocks⟩).context ∧
    ∀ (context : CredentialContext) (default : Option String) (metadata : List (String × String)),
      context.metadataFor default (context.metadataFor default metadata) = context.metadataFor default metadata :=
  ⟨code.shows_run rfl, code.failed_run _, code.restored_run _, metadataFor_metadataFor⟩

/-- A failure leaves two blocks at once; behind the guard the outermost one is in force again. -/
example : (ScopedCode.run (.block ⟨"bob", "1"⟩
    (.guarded (.block ⟨"", ""⟩ (.block ⟨"eve", "2"⟩ (.readCredential .failure) .done) .done)
      (.makeMetadata [("authorization", "old"), ("trace", "7")] (some ⟨"ann", "3"⟩) .done)) .done) {}).seen =
    [.credential (some "eve:2"), .credential (some ":"), .credential (some "bob:1"),
      .metadata [("trace", "7"), ("authorization", "bob:1")], .credential none] := by
  decide

end ScopedCode
end DispatchGen
