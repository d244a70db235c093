/-! # Credentials of calls

A user name and a password travel as one metadata entry. Code can set a credential for the calls made
inside a block; leaving the block puts back what held when it was entered.
-/
namespace DispatchGen

def authorizationKey : String := "authorization"

def callCredentialsName : String := "basic-auth"

def credentialText (user password : String) : String :=
  user ++ ":" ++ password

def credentialEntries (credential : String) : List (String × String) :=
  [(authorizationKey, credential)]

/-- Metadata with the credential as its only authorization entry, if there is a credential. -/
def withCredential (credential : Option String) (metadata : List (String × String)) :
    List (String × String) :=
  match credential with
  | none => metadata
  | some text =>
    if text = "" then metadata
    else metadata.filter (·.1 ≠ authorizationKey) ++ credentialEntries text

structure CredentialBlock where
  restores : Option String
  isOpen : Bool := true
  deriving Repr, DecidableEq, Inhabited

structure CredentialContext where
  current : Option String := none
  blocks : List CredentialBlock := []
  deriving Repr, DecidableEq, Inhabited

namespace CredentialContext

def enter (context : CredentialContext) (user password : String) : CredentialContext where
  current := some (credentialText user password)
  blocks := context.blocks ++ [{ restores := context.current }]

/-- Leaves a block, by its end or by a failure. A block that was left before changes nothing. -/
def leave (context : CredentialContext) (which : Nat) : CredentialContext :=
  match context.blocks[which]? with
  | some block =>
    if block.isOpen then
      { current := block.restores, blocks := context.blocks.set which { block with isOpen := false } }
    else context
  | none => context

/-- The metadata of a call: the credential in force counts before the default. -/
def metadataFor (context : CredentialContext) (default : Option String)
    (metadata : List (String × String)) : List (String × String) :=
  withCredential (context.current.or default) metadata

end CredentialContext
end DispatchGen
