import ChatBridge.User.Basic
import ChatBridge.Wire.Tagged

/-!
# Users on the wire
-/

namespace ChatBridge

def UserSummary.record : Record UserSummary where
  name := "UserSummary"
  Parts := UserId × Option String × UInt64 × UInt64 × Unit
  fields :=
    .cons (.required "userId") <| .cons (.defaulted "username" none) <|
    .cons (.defaulted "secondsSinceLastOnline" 0) <| .cons (.required "updated") .nil
  make := fun (userId, username, secondsSinceLastOnline, updated, _) =>
    ⟨userId, username, secondsSinceLastOnline, updated⟩
  parts u := (u.userId, u.username, u.secondsSinceLastOnline, u.updated, ())

instance : Wire UserSummary := ⟨UserSummary.record.codec⟩

def UsersAnswer.record : Record UsersAnswer where
  name := "UsersResponse"
  Parts := Option UInt64 × List UserSummary × Unit
  fields := .cons (.optional "serverTimestamp") <| .cons (.required "users") .nil
  make := fun (serverTimestamp, users, _) => ⟨serverTimestamp, users⟩
  parts a := (a.serverTimestamp, a.users, ())

instance : Wire UsersAnswer := ⟨UsersAnswer.record.codec⟩

def CreatedUser.record : Record CreatedUser where
  name := "CreatedUser"
  Parts := UserId × String × String × UInt64 × Unit
  fields :=
    .cons (.required "userId") <| .cons (.required "username") <|
    .cons (.required "canisterId") <| .cons (.defaulted "cycles" 0) .nil
  make := fun (userId, username, canisterId, cycles, _) => ⟨userId, username, canisterId, cycles⟩
  parts u := (u.userId, u.username, u.canisterId, u.cycles, ())

instance : Wire CreatedUser := ⟨CreatedUser.record.codec⟩

namespace CurrentUser

def createdVariant : Variant CurrentUser := .holding "created_user" CreatedUser.record .created

def unknownVariant : Variant CurrentUser := .bare "unknown_user" .unknown

def tagged : Tagged CurrentUser where
  name := "CurrentUserResponse"
  tag := "kind"
  variants := [createdVariant, unknownVariant]
  view
    | .created user => ⟨createdVariant, CreatedUser.record.parts user⟩
    | .unknown => ⟨unknownVariant, ()⟩

end CurrentUser

instance : Wire CurrentUser := ⟨CurrentUser.tagged.codec⟩

def StorageStatus.record : Record StorageStatus where
  name := "StorageStatus"
  Parts := UInt64 × UInt64 × Unit
  fields := .cons (.required "byteLimit") <| .cons (.required "bytesUsed") .nil
  make := fun (byteLimit, bytesUsed, _) => ⟨byteLimit, bytesUsed⟩
  parts s := (s.byteLimit, s.bytesUsed, ())

instance : Wire StorageStatus := ⟨StorageStatus.record.codec⟩

/-! ## Outcomes -/

def CheckUsernameOutcome.words : Words CheckUsernameOutcome where
  all := [.success, .usernameTaken, .usernameInvalid, .usernameTooShort, .usernameTooLong]
  word
    | .success => "success"
    | .usernameTaken => "username_taken"
    | .usernameInvalid => "username_invalid"
    | .usernameTooShort => "username_too_short"
    | .usernameTooLong => "username_too_long"

instance : Wire CheckUsernameOutcome := ⟨CheckUsernameOutcome.words.codec⟩

def SetUsernameOutcome.words : Words SetUsernameOutcome where
  all := [.success, .noChange, .usernameTaken, .userNotFound, .usernameInvalid, .usernameTooShort,
    .usernameTooLong]
  word
    | .success => "success"
    | .noChange => "no_change"
    | .usernameTaken => "username_taken"
    | .userNotFound => "user_not_found"
    | .usernameInvalid => "username_invalid"
    | .usernameTooShort => "username_too_short"
    | .usernameTooLong => "username_too_long"

instance : Wire SetUsernameOutcome := ⟨SetUsernameOutcome.words.codec⟩

namespace PinChatOutcome

def successVariant : Variant PinChatOutcome := .bare "success" .success

def limitVariant : Variant PinChatOutcome :=
  .record "PinChatResponse" "PinnedLimitReached" "pinned_limit_reached"
    (.cons (.required "limit") .nil) fun (limit, _) => .pinnedLimitReached limit

def notFoundVariant : Variant PinChatOutcome := .bare "chat_not_found" .chatNotFound

def tagged : Tagged PinChatOutcome where
  name := "PinChatResponse"
  tag := "kind"
  variants := [successVariant, limitVariant, notFoundVariant]
  view
    | .success => ⟨successVariant, ()⟩
    | .pinnedLimitReached limit => ⟨limitVariant, (limit, ())⟩
    | .chatNotFound => ⟨notFoundVariant, ()⟩

end PinChatOutcome

instance : Wire PinChatOutcome := ⟨PinChatOutcome.tagged.codec⟩

def ChatOutcome.words : Words ChatOutcome where
  all := [.success, .chatNotFound]
  word
    | .success => "success"
    | .chatNotFound => "chat_not_found"

instance : Wire ChatOutcome := ⟨ChatOutcome.words.codec⟩

def BlockOutcome.words : Words BlockOutcome where
  all := [.success, .userNotFound]
  word
    | .success => "success"
    | .userNotFound => "user_not_found"

instance : Wire BlockOutcome := ⟨BlockOutcome.words.codec⟩

def MarkReadOutcome.words : Words MarkReadOutcome where
  all := [.success, .successNoChange, .chatNotFound]
  word
    | .success => "success"
    | .successNoChange => "success_no_change"
    | .chatNotFound => "chat_not_found"

instance : Wire MarkReadOutcome := ⟨MarkReadOutcome.words.codec⟩

namespace SetBioOutcome

def successVariant : Variant SetBioOutcome := .bare "success" .success

def tooLongVariant : Variant SetBioOutcome :=
  .record "SetBioResponse" "TooLong" "too_long" (.cons (.required "max_length") .nil)
    fun (maxLength, _) => .tooLong maxLength

def tagged : Tagged SetBioOutcome where
  name := "SetBioResponse"
  tag := "kind"
  variants := [successVariant, tooLongVariant]
  view
    | .success => ⟨successVariant, ()⟩
    | .tooLong maxLength => ⟨tooLongVariant, (maxLength, ())⟩

end SetBioOutcome

instance : Wire SetBioOutcome := ⟨SetBioOutcome.tagged.codec⟩

def LeaveGroupOutcome.words : Words LeaveGroupOutcome where
  all := [.success, .groupNotFound, .ownerCannotLeave, .notInGroup]
  word
    | .success => "success"
    | .groupNotFound => "group_not_found"
    | .ownerCannotLeave => "owner_cannot_leave"
    | .notInGroup => "not_in_group"

instance : Wire LeaveGroupOutcome := ⟨LeaveGroupOutcome.words.codec⟩

end ChatBridge
