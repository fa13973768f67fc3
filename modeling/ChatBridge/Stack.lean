import ChatBridge.Bridge.Client
import ChatBridge.Worker.Basic

/-!
# Client and worker together

A client and a worker joined by two channels. What one puts into its outbox is carried to the inbox
of the other in the same order.
-/

namespace ChatBridge

structure Stack where
  client : Client
  worker : Worker

namespace Stack

inductive Action where
  | client (a : Client.Action)
  | worker (a : Worker.Action)
  | carryRequest
  | carryReply
  | closeRequests
  | closeReplies

/-- The two ends of a channel are moved by carrying alone. -/
def isOwn : Client.Action → Bool
  | .deliver _ => false
  | .closeInbox => false
  | .closeOutbox => false
  | _ => true

variable (s : Stack)

def carryRequest? : Option Stack :=
  match s.client.outbox with
  | e :: rest =>
    some ⟨{ s.client with outbox := rest }, { s.worker with inbox := s.worker.inbox ++ [e] }⟩
  | [] => none

def carryReply? : Option Stack :=
  match s.worker.outbox with
  | e :: rest =>
    some ⟨{ s.client with inbox := s.client.inbox ++ [e] }, { s.worker with outbox := rest }⟩
  | [] => none

def step? : Action → Option Stack
  | .client a => if isOwn a then (s.client.step? a).map fun c => { s with client := c } else none
  | .worker a => (s.worker.step? a).map fun w => { s with worker := w }
  | .carryRequest => s.carryRequest?
  | .carryReply => s.carryReply?
  | .closeRequests =>
    if s.worker.serving then none
    else (s.client.step? .closeOutbox).map fun c => { s with client := c }
  | .closeReplies =>
    if s.worker.isOver && s.worker.outbox.isEmpty then
      (s.client.step? .closeInbox).map fun c => { s with client := c }
    else none

end Stack
end ChatBridge
