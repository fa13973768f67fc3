import ChatBridge.Command.Arguments
import ChatBridge.Command.Basic

/-!
# The command line

The words for the commands, alone and with the options of the program before them.
-/

namespace ChatBridge

open Arguments

namespace Command

def staleSwitch : Switch := ⟨"allow-stale", none, false⟩

def forms : List (Form Command) := [
  ⟨"initial-state", .none, [], fun _ _ => .initialState⟩,
  ⟨"updates", .none, [], fun _ _ => .updates⟩,
  ⟨"users", .many, [staleSwitch], fun ids isGiven => .users ids (isGiven staleSwitch.name)⟩,
  ⟨"cached-users", .none, [], fun _ _ => .cachedUsers⟩,
  ⟨"check-username", .single, [], fun username _ => .checkUsername username⟩,
  ⟨"bio", .optional, [], fun user _ => .bio user⟩,
  ⟨"pin", .single, [], fun chat _ => .pin chat⟩,
  ⟨"unpin", .single, [], fun chat _ => .unpin chat⟩,
  ⟨"storage", .none, [], fun _ _ => .storage⟩,
  ⟨"online", .none, [], fun _ _ => .online⟩,
  ⟨"watch", .none, [], fun _ _ => .watch⟩]

def usage : Usage Command := ⟨forms, []⟩

def read (words : List String) : Except Misuse Command := (usage.read words).map (·.2)

end Command

inductive Mission where
  | login (principal : String)
  | logout
  | command (c : Command)
deriving DecidableEq, Repr, Inhabited

structure Invocation where
  pretty : Bool
  config : Option String
  mission : Mission
deriving DecidableEq, Repr, Inhabited

namespace Invocation

def prettySwitch : Switch := ⟨"pretty", some 'p', false⟩

def configSwitch : Switch := ⟨"config", some 'c', true⟩

def forms : List (Form Mission) :=
  ⟨"login", .single, [], fun principal _ => .login principal⟩
    :: ⟨"logout", .none, [], fun _ _ => .logout⟩ :: Command.forms.map (·.map .command)

def usage : Usage Mission := ⟨forms, [prettySwitch, configSwitch]⟩

def read (words : List String) : Except Misuse Invocation := do
  let (s, mission) ← usage.read words
  return ⟨s.isGiven prettySwitch.name, s.value? configSwitch.name, mission⟩

end Invocation
end ChatBridge
