import Casefile.Game.Toast

namespace Casefile

/-!
A screen on which toasts come and go.

Toasts are asked for and dismissed, and now and then someone looks at the screen.  In between the
clock is set to any instant, also to an earlier one.
-/

inductive ScreenEvent where
  | notify (request : ToastRequest)
  | look
  | dismiss (id : Nat)
  | clock (now : Instant)
  deriving DecidableEq

namespace ScreenEvent

def isNotify : ScreenEvent → Bool
  | .notify _ => true
  | .look | .dismiss _ | .clock _ => false

/-- Whether an event neither asks for a toast nor dismisses one. -/
def isIdle : ScreenEvent → Bool
  | .look | .clock _ => true
  | .notify _ | .dismiss _ => false

/-- The instants to which the clock is set. -/
def clocks (events : List ScreenEvent) : List Instant :=
  events.filterMap fun
    | .clock now => some now
    | .notify _ | .look | .dismiss _ => none

end ScreenEvent

/-- The toast that a request makes. -/
def Toasts.issue (toasts : Toasts) (now : Instant) (request : ToastRequest) : Toast where
  id := toasts.nextId
  text := request.text
  contact? := request.contact?
  createdAt := now
  delay := request.delay
  ttl := request.ttl?.getD toasts.defaultTtl

/-- Whether an instant is in the interval in which a toast is to be seen. -/
def Toast.isDue (toast : Toast) (now : Instant) : Bool :=
  toast.showsAt ≤ now && now < toast.expiresAt

structure Screen where
  toasts : Toasts
  now : Instant
  deriving DecidableEq

namespace Screen

/-- A screen on which nothing was shown yet. -/
def fresh (defaultTtl : UInt64) (now : Instant) : Screen where
  toasts := { defaultTtl }
  now

def queue (screen : Screen) : List Toast := screen.toasts.queue

def shown (screen : Screen) : List Toast := (screen.toasts.look screen.now).1

def dismisses (screen : Screen) (id : Nat) : Bool := (screen.toasts.dismiss id).1

def meet (screen : Screen) : ScreenEvent → Screen
  | .notify request => { screen with toasts := screen.toasts.notify screen.now request }
  | .look => { screen with toasts := (screen.toasts.look screen.now).2 }
  | .dismiss id => { screen with toasts := (screen.toasts.dismiss id).2 }
  | .clock now => { screen with now }

def run (screen : Screen) (events : List ScreenEvent) : Screen := events.foldl meet screen

/-- The events, each with the screen on which it happens. -/
def history (screen : Screen) : List ScreenEvent → List (Screen × ScreenEvent)
  | [] => []
  | event :: rest => (screen, event) :: (screen.meet event).history rest

def issued? (screen : Screen) : ScreenEvent → Option Toast
  | .notify request => some (screen.toasts.issue screen.now request)
  | .look | .dismiss _ | .clock _ => none

/-- The toasts that were asked for, the first one first. -/
def issued (screen : Screen) (events : List ScreenEvent) : List Toast :=
  (screen.history events).filterMap fun entry => entry.1.issued? entry.2

/-- Whether an event takes a toast off the queue: its dismissal, or a look when it has expired. -/
def takes (screen : Screen) (toast : Toast) : ScreenEvent → Bool
  | .dismiss id => toast.id = id
  | .look => toast.expiresAt ≤ screen.now
  | .notify _ | .clock _ => false

/-- Whether none of some events takes a toast off the queue. -/
def spares (screen : Screen) (toast : Toast) (events : List ScreenEvent) : Bool :=
  (screen.history events).all fun entry => !entry.1.takes toast entry.2

end Screen

end Casefile
