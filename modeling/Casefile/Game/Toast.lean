import Casefile.Instant
import Casefile.Naming

namespace Casefile

/-!
Notifications on the player's screen.

Toasts wait in a queue in the order in which they were asked for.  Nothing happens by itself: a look
at the queue (`Toasts.look`) drops what has expired and shows what is due.
-/

structure ToastRequest where
  text : String
  contact? : Option ContactId := none
  delay : UInt64 := 0
  ttl? : Option UInt64 := none
  deriving DecidableEq

structure Toast where
  /-- Toasts are numbered in the order in which they are asked for, without end: that a counter of
  64 bits starts over after `2 ^ 64` toasts is left out. -/
  id : Nat
  text : String
  contact? : Option ContactId
  createdAt : Instant
  delay : UInt64
  ttl : UInt64
  deriving DecidableEq

namespace Toast

def showsAt (toast : Toast) : Instant := toast.createdAt.after toast.delay.toInt64

def expiresAt (toast : Toast) : Instant := toast.showsAt.after toast.ttl.toInt64

end Toast

structure Toasts where
  defaultTtl : UInt64
  /-- The number of the next toast; like those of the toasts, it has no greatest value. -/
  nextId : Nat := 1
  queue : List Toast := []
  deriving DecidableEq

namespace Toasts

def notify (toasts : Toasts) (now : Instant) (request : ToastRequest) : Toasts :=
  { toasts with
    nextId := toasts.nextId + 1
    queue := toasts.queue ++ [{
      id := toasts.nextId
      text := request.text
      contact? := request.contact?
      createdAt := now
      delay := request.delay
      ttl := request.ttl?.getD toasts.defaultTtl }] }

def prune (toasts : Toasts) (now : Instant) : Toasts :=
  { toasts with queue := toasts.queue.filter fun toast => now < toast.expiresAt }

/-- The toasts that show at an instant; the expired ones leave the queue. -/
def look (toasts : Toasts) (now : Instant) : List Toast × Toasts :=
  let toasts := toasts.prune now
  (toasts.queue.filter fun toast => toast.showsAt ≤ now, toasts)

def pending (toasts : Toasts) : Nat := toasts.queue.length

def dismiss (toasts : Toasts) (id : Nat) : Bool × Toasts :=
  (toasts.queue.any (·.id = id), { toasts with queue := toasts.queue.filter (·.id ≠ id) })

end Toasts

end Casefile
