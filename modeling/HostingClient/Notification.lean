import HostingClient.Json.Record

/-! # Notifications

Failed requests leave a notification for the user, besides the error that the caller gets. Queues are shared:
any number of handles may refer to one queue. -/

namespace HostingClient

/-- A text for the user. -/
structure Notification where
  text : String
  color : Option String
deriving DecidableEq, Repr, Inhabited

namespace Notification

/-- The color of errors. -/
def errorColor : String := "error-container"

/-- A notification without a color. -/
def info (text : String) : Notification := ⟨text, none⟩

/-- A notification of an error. -/
def error (text : String) : Notification := ⟨text, some errorColor⟩

/-- Whether a notification has the color of errors. -/
def isError (n : Notification) : Bool := n.color = some errorColor

/-- The fields of a notification. -/
def record : Record Notification where
  fields := .cons (.required "text" .text) <| .cons (Field.open? "color" .text).hideUnset .nil
  build := fun (text, color, ()) => { text, color }
  parts n := (n.text, n.color, ())

end Notification

/-- Notifications in the order in which they were added. -/
abbrev NotificationQueue := List Notification

/-- Queues and the handles on them. -/
structure Switchboard where
  queues : List NotificationQueue
  /-- For each handle the number of its queue. -/
  handles : List Nat
deriving DecidableEq, Repr

namespace Switchboard

/-- One empty queue with one handle. -/
def start : Switchboard := ⟨[[]], [0]⟩

/-- The number of the queue of a handle. -/
def queueOf (b : Switchboard) (handle : Nat) : Nat := b.handles[handle]?.getD 0

/-- What is queued where a handle refers to. -/
def queued (b : Switchboard) (handle : Nat) : NotificationQueue := b.queues[b.queueOf handle]?.getD []

/-- Adds a notification at the end. -/
def add (b : Switchboard) (handle : Nat) (n : Notification) : Switchboard :=
  { b with queues := b.queues.modify (b.queueOf handle) (· ++ [n]) }

/-- Takes all that is queued. -/
def drain (b : Switchboard) (handle : Nat) : NotificationQueue × Switchboard :=
  (b.queued handle, { b with queues := b.queues.set (b.queueOf handle) [] })

/-- A further handle on the queue of a handle, and its number. -/
def clone (b : Switchboard) (handle : Nat) : Nat × Switchboard :=
  (b.handles.length, { b with handles := b.handles ++ [b.queueOf handle] })

/-- A handle on a queue of its own, and its number. -/
def create (b : Switchboard) : Nat × Switchboard :=
  (b.handles.length, ⟨b.queues ++ [[]], b.handles ++ [b.queues.length]⟩)

end Switchboard

end HostingClient
