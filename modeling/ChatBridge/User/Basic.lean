import ChatBridge.Chat.Basic
import ChatBridge.Ordered.KeyMap

/-!
# Users

What the user index says about users, and what the current user may hear about their own account.
-/

namespace ChatBridge

structure UserSummary where
  userId : UserId
  username : Option String
  secondsSinceLastOnline : UInt64
  /-- When the service made this summary; the younger of two counts. -/
  updated : UInt64
deriving DecidableEq, Repr, Inhabited

abbrev UserLookup := KeyMap UserId UserSummary

structure UsersAnswer where
  serverTimestamp : Option UInt64
  users : List UserSummary
deriving DecidableEq, Repr, Inhabited

structure CreatedUser where
  userId : UserId
  username : String
  canisterId : String
  cycles : UInt64
deriving DecidableEq, Repr, Inhabited

inductive CurrentUser where
  | created (user : CreatedUser)
  | unknown
deriving DecidableEq, Repr, Inhabited

structure StorageStatus where
  byteLimit : UInt64
  bytesUsed : UInt64
deriving DecidableEq, Repr, Inhabited

def StorageStatus.percentUsed (s : StorageStatus) : Float :=
  if s.byteLimit = 0 then 0 else s.bytesUsed.toFloat / s.byteLimit.toFloat * 100

/-! ## What comes of a request -/

inductive CheckUsernameOutcome where
  | success | usernameTaken | usernameInvalid | usernameTooShort | usernameTooLong
deriving DecidableEq, Repr, Inhabited

inductive SetUsernameOutcome where
  | success | noChange | usernameTaken | userNotFound | usernameInvalid | usernameTooShort
  | usernameTooLong
deriving DecidableEq, Repr, Inhabited

inductive PinChatOutcome where
  | success
  | pinnedLimitReached (limit : UInt32)
  | chatNotFound
deriving DecidableEq, Repr, Inhabited

inductive ChatOutcome where
  | success | chatNotFound
deriving DecidableEq, Repr, Inhabited

inductive BlockOutcome where
  | success | userNotFound
deriving DecidableEq, Repr, Inhabited

inductive MarkReadOutcome where
  | success | successNoChange | chatNotFound
deriving DecidableEq, Repr, Inhabited

inductive SetBioOutcome where
  | success
  | tooLong (maxLength : UInt32)
deriving DecidableEq, Repr, Inhabited

inductive LeaveGroupOutcome where
  | success | groupNotFound | ownerCannotLeave | notInGroup
deriving DecidableEq, Repr, Inhabited

end ChatBridge
