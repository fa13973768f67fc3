import ChatBridge.Runtime
import ChatBridge.Schedule.Stack

/-!
# The schedule of a runtime

Shutting down goes through in one go: the worker ends with all it has begun.
-/

namespace ChatBridge

structure RuntimeRun where
  stack : StackRun
  stage : RuntimeStage

namespace RuntimeRun

variable (r : RuntimeRun)

def act (a : Runtime.Action) : RuntimeRun :=
  match Runtime.step? ⟨r.stack.stack, r.stage⟩ a with
  | some ⟨stack, stage⟩ => ⟨r.stack.withStack stack, stage⟩
  | none => r

/-- The worker goes out of its loop, and its thread ends. -/
def shutDown : RuntimeRun :=
  [.shutDown, .stack (.worker .stop), .stack (.worker .halt), .stack .closeRequests, .join].foldl
    act r

end RuntimeRun
end ChatBridge
