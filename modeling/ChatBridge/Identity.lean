import ChatBridge.Text.Basic
import ChatBridge.Text.Printable

/-!
# Identities

An identity is a principal. The anonymous principal stands for nobody: whoever resolves an identity
gets nothing in its place, and it cannot be signed in with.
-/

namespace ChatBridge

structure Identity where
  principal : String
deriving DecidableEq, Repr, Inhabited

def anonymousPrincipal : String := "2vxsx-fae"

namespace Identity

def isAnonymous (i : Identity) : Bool := i.principal == anonymousPrincipal

def anonymous : Identity := ⟨anonymousPrincipal⟩

end Identity

inductive IdentityError where
  | notSignedIn (principal : String)
deriving DecidableEq, Repr, Inhabited

def IdentityError.message : IdentityError → String
  | .notSignedIn principal => "Not a signed-in principal: " ++ Text.quoted principal

/-- What a provider says: nobody, somebody, or that it cannot tell. -/
abbrev Provided := Except IdentityError (Option Identity)

def resolveIdentity (p : Provided) : Provided := p.map fun i => i.filter fun i => !i.isAnonymous

/-! ## Keyring -/

namespace Keyring

def service : String := "com.openchat.client"

def store (principal : String) : Except IdentityError Identity :=
  let i : Identity := ⟨Text.trim principal⟩
  if i.principal.isEmpty || i.isAnonymous then .error (.notSignedIn principal) else .ok i

/-- No backend keeps anything from one access to the next, so nobody is ever found. -/
def load : Provided := .ok none

end Keyring
end ChatBridge
