import ChatBridge.Command.Rehearsal
import ChatBridge.Main
import ChatBridge.Schedule.Runtime
import ChatBridge.Proofs.Bridge.Moves
import ChatBridge.Proofs.Bridge.Table
import ChatBridge.Proofs.Bridge.Outcome
import ChatBridge.Proofs.Chat.Order
import ChatBridge.Proofs.Ordered.Lookup
import ChatBridge.Proofs.Snapshot.Chats
import ChatBridge.Proofs.Snapshot.Invariant
import ChatBridge.Proofs.Snapshot.Quiet
import ChatBridge.Proofs.Agent.Following
import ChatBridge.Proofs.Worker.Booking
import ChatBridge.Proofs.Worker.Replies
import ChatBridge.Proofs.Agent.Faults
import ChatBridge.Proofs.Bridge.Traffic
import ChatBridge.Proofs.Capability
import ChatBridge.Proofs.Stack.Invoke
import ChatBridge.Proofs.Snapshot.Content
import ChatBridge.Proofs.Snapshot.Reload
import ChatBridge.Proofs.Bridge.Readiness
import ChatBridge.Proofs.Worker.Founding
import ChatBridge.Proofs.Agent.Saving
import ChatBridge.Proofs.UserCache.Reading
import ChatBridge.Proofs.UserCache.Upsert
import ChatBridge.Proofs.Worker.Gate
import ChatBridge.Proofs.Worker.Saves
import ChatBridge.Proofs.Snapshot.Redelivery
import ChatBridge.Proofs.Bridge.Deadline
import ChatBridge.Proofs.Stack.Early
import ChatBridge.Proofs.Agent.Seeking
import ChatBridge.Proofs.Worker.LookUps
import ChatBridge.Proofs.Worker.UserCanister
import ChatBridge.Proofs.Bridge.Entries
import ChatBridge.Proofs.UserCache.Reopening
import ChatBridge.Proofs.Wire.RoundTrip
import ChatBridge.Proofs.Stack.Events
import ChatBridge.Proofs.Worker.Scheduling
import ChatBridge.Proofs.UserCache.Attempts
import ChatBridge.Proofs.Agent.Polling
import ChatBridge.Proofs.Worker.Intact
import ChatBridge.Proofs.UserCache.Latest
import ChatBridge.Proofs.Snapshot.Reference
import ChatBridge.Proofs.Agent.ReadPositions
import ChatBridge.Proofs.Runtime.Shutdown
import ChatBridge.Proofs.Snapshot.Untouched
import ChatBridge.Proofs.UserCache.Opening
import ChatBridge.Proofs.Worker.Cached
import ChatBridge.Proofs.Bridge.Unresolved
import ChatBridge.Proofs.Agent.GoneChats
import ChatBridge.Proofs.Chat.Ranking
import ChatBridge.Proofs.Wire.Tolerance
