import Switchboard.Session

/-!
# The life of a server

A server may be told to serve and to shut down from several sides at once. This file says what each
of these calls does, one indivisible step after the other: an access to the flag that asks for the
end or to the number of the next connection, or a section under the lock of the phase, of the waker
or of the count of connections. Which call moves next, and what it meets in the world, is an
`Action`; any list of actions is an interleaving.

Only one call serves at a time: the phase is taken under its lock, and a second call is refused. A
call that serves looks at the flag before each wait and before each attempt to accept. Once it has
seen it, it lets its socket go and waits until no connection is left. A call that shuts down sets
the flag, waits until nobody serves, and then waits for the connections, too.

Whoever waits sleeps and looks again after being woken; it may also wake for no reason.
-/

namespace Switchboard

/-- Whether somebody serves. -/
inductive Lifecycle.Phase
  /-- Nobody has served yet. -/
  | idle
  /-- Somebody serves. -/
  | serving
  /-- Somebody has served and does not any more. -/
  | stopped
  deriving DecidableEq, Repr

/-- Where a call that serves has come to. -/
inductive Lifecycle.Serving
  /-- About to take the phase. -/
  | entering
  /-- Has taken the phase and prepares to listen. -/
  | preparing
  /-- About to look at the flag before a wait. -/
  | checking
  /-- Waits for connections. -/
  | polling
  /-- About to look at the flag before an attempt to accept. -/
  | looking
  /-- About to accept. -/
  | accepting
  /-- Has accepted a connection that does not count yet. -/
  | counting
  /-- Has counted a connection that has neither a number nor a thread yet. -/
  | spawning
  /-- Has seen the flag and still holds its socket. -/
  | closing
  /-- Has let its socket go and waits for the connections, perhaps asleep. -/
  | draining (asleep : Bool)
  /-- Is done, with an error or without, and about to put the waker away. -/
  | leaving (error : Option Error)
  /-- Is about to give the phase back. -/
  | announcing (error : Option Error)
  /-- Has returned. -/
  | returned (error : Option Error)
  deriving DecidableEq, Repr

/-- Where a call that shuts down has come to. -/
inductive Lifecycle.Stopping
  /-- About to set the flag. -/
  | entering
  /-- About to wake whoever serves. -/
  | waking
  /-- Waits until nobody serves, perhaps asleep. -/
  | awaiting (asleep : Bool)
  /-- Waits for the connections, perhaps asleep. -/
  | draining (asleep : Bool)
  /-- Has returned. -/
  | returned
  deriving DecidableEq, Repr

/-- What a call that serves meets while it waits for connections. -/
inductive Lifecycle.Readiness
  /-- Somebody may be waiting. -/
  | ready
  /-- Nobody is. -/
  | quiet
  /-- The wait failed. -/
  | fault (fault : Fault)
  deriving DecidableEq, Repr

/-- What an attempt to accept meets. -/
inductive Lifecycle.Meeting
  /-- A connection. -/
  | connection
  /-- Nobody is waiting. -/
  | nobody
  /-- A fault that passes; the server has waited. -/
  | retry
  /-- An error that ends the server. -/
  | error (error : Error)
  deriving DecidableEq, Repr

/-- How a connection that counts ends. -/
inductive Lifecycle.Ending
  /-- No thread could be started for it. -/
  | unspawned (fault : Fault)
  /-- Its transport could not be set up. -/
  | unready (fault : Fault)
  /-- Its session is over, and why it was halted, if it was. -/
  | served (halt : Option Session.Halt)
  deriving DecidableEq, Repr

/-- A step of one of the calls, or of a connection. Calls and connections have numbers. -/
inductive Lifecycle.Action
  /-- Somebody calls to serve. -/
  | serve
  /-- Somebody calls to shut down. -/
  | stop
  /-- A call takes the phase, or is refused. -/
  | enter (call : Nat)
  /-- A call gets ready to listen, or fails to. -/
  | prepare (call : Nat) (fault : Option Fault)
  /-- A call looks at the flag before a wait. -/
  | check (call : Nat)
  /-- A call has waited for connections. -/
  | poll (call : Nat) (readiness : Lifecycle.Readiness)
  /-- A call looks at the flag before an attempt to accept. -/
  | look (call : Nat)
  /-- A call attempts to accept. -/
  | accept (call : Nat) (meeting : Lifecycle.Meeting)
  /-- A call counts the connection that it has accepted. -/
  | count (call : Nat)
  /-- A call gives the connection a number, and starts a thread for it or fails to. -/
  | spawn (call : Nat)
  /-- A call lets its socket go. -/
  | close (call : Nat)
  /-- A call that serves looks whether a connection is left. -/
  | drain (call : Nat)
  /-- A call puts the waker away. -/
  | clear (call : Nat)
  /-- A call gives the phase back and wakes those who wait for it. -/
  | announce (call : Nat)
  /-- A connection ends. -/
  | finish (connection : Nat) (ending : Lifecycle.Ending)
  /-- A shutdown sets the flag. -/
  | request (call : Nat)
  /-- A shutdown wakes whoever serves. -/
  | wake (call : Nat)
  /-- A shutdown looks whether somebody serves. -/
  | observe (call : Nat)
  /-- A shutdown looks whether a connection is left. -/
  | await (call : Nat)
  /-- A call that serves wakes for no reason. -/
  | startleServing (call : Nat)
  /-- A shutdown wakes for no reason. -/
  | startleStopping (call : Nat)
  deriving DecidableEq, Repr

/-- A server with all calls and connections that it has ever had. -/
structure Lifecycle where
  /-- The flag that asks for the end. -/
  requested : Bool
  /-- Whether somebody serves. -/
  phase : Lifecycle.Phase
  /-- The call that a shutdown would wake. -/
  waker : Option Nat
  /-- The number of connections that count. -/
  active : Nat
  /-- The number of the next connection. -/
  number : Nat
  /-- The calls that serve. -/
  serves : List Lifecycle.Serving
  /-- The calls that shut down. -/
  stops : List Lifecycle.Stopping
  /-- For each connection that was ever counted, how it has ended, unless it still runs. -/
  connections : List (Option Lifecycle.Ending)
  deriving DecidableEq, Repr

namespace Lifecycle

/-- A server that nobody has called yet. -/
def fresh : Lifecycle := ⟨false, .idle, none, 0, 0, [], [], []⟩

instance : Inhabited Lifecycle := ⟨fresh⟩

/-- What a call is told that finds somebody serving. -/
def alreadyServing : Error := .io (.described .alreadyExists "server is already serving")

/-- The call is between taking the phase and giving it back. -/
def Serving.running : Serving → Bool
  | .entering | .returned _ => false
  | _ => true

/-- The place of a call that was woken. -/
def Serving.rouse : Serving → Serving
  | .draining _ => .draining false
  | place => place

/-- The place of a shutdown that was woken because a connection was the last. -/
def Stopping.rouseDraining : Stopping → Stopping
  | .draining _ => .draining false
  | place => place

/-- The place of a shutdown that was woken because the phase has changed. -/
def Stopping.rouseAwaiting : Stopping → Stopping
  | .awaiting _ => .awaiting false
  | place => place

/-- Moves a call that serves. -/
def move (life : Lifecycle) (call : Nat) (place : Serving) : Lifecycle :=
  { life with serves := life.serves.set call place }

/-- Moves a call that shuts down. -/
def moveStop (life : Lifecycle) (call : Nat) (place : Stopping) : Lifecycle :=
  { life with stops := life.stops.set call place }

/-- Does something if a call that serves is at a place. -/
def whenAt (life : Lifecycle) (call : Nat) (place : Serving) (next : Lifecycle) :
    Option Lifecycle :=
  if life.serves[call]? = some place then some next else none

/-- Does something if a call that shuts down is at a place. -/
def whenStopAt (life : Lifecycle) (call : Nat) (place : Stopping) (next : Lifecycle) :
    Option Lifecycle :=
  if life.stops[call]? = some place then some next else none

/-- Where a call goes that has waited for connections. -/
def Readiness.next : Readiness → Serving
  | .ready => .looking
  | .quiet => .checking
  | .fault reason => .leaving (some (.io reason))

/-- Where a call goes that has attempted to accept. -/
def Meeting.next : Meeting → Serving
  | .connection => .counting
  | .nobody => .checking
  | .retry => .looking
  | .error reason => .leaving (some reason)

/-- The server after one more connection counts. -/
def counted (life : Lifecycle) : Lifecycle :=
  { life with active := life.active + 1, connections := life.connections ++ [none] }

/-- The server after a connection has ended. The last one wakes everybody who waits for them. -/
def finished (life : Lifecycle) (connection : Nat) (ending : Ending) : Lifecycle :=
  let active := life.active - 1
  { life with
    active
    connections := life.connections.set connection (some ending)
    serves := if active = 0 then life.serves.map Serving.rouse else life.serves
    stops := if active = 0 then life.stops.map Stopping.rouseDraining else life.stops }

/-- The server after the phase was given back. -/
def announced (life : Lifecycle) : Lifecycle :=
  { life with phase := .stopped, stops := life.stops.map Stopping.rouseAwaiting }

/-- One step, if it is possible. -/
def step (life : Lifecycle) : Action → Option Lifecycle
  | .serve => some { life with serves := life.serves ++ [.entering] }
  | .stop => some { life with stops := life.stops ++ [.entering] }
  | .enter call =>
      life.whenAt call .entering
        (if life.phase = .serving then life.move call (.returned (some alreadyServing))
        else { life.move call .preparing with phase := .serving })
  | .prepare call fault =>
      life.whenAt call .preparing
        (match fault with
          | some fault => life.move call (.leaving (some (.io fault)))
          | none => { life.move call .checking with waker := some call })
  | .check call =>
      life.whenAt call .checking (life.move call (if life.requested then .closing else .polling))
  | .poll call readiness => life.whenAt call .polling (life.move call readiness.next)
  | .look call =>
      life.whenAt call .looking (life.move call (if life.requested then .checking else .accepting))
  | .accept call meeting => life.whenAt call .accepting (life.move call meeting.next)
  | .count call => life.whenAt call .counting (life.counted.move call .spawning)
  | .spawn call =>
      life.whenAt call .spawning { life.move call .looking with number := life.number + 1 }
  | .close call => life.whenAt call .closing (life.move call (.draining false))
  | .drain call =>
      life.whenAt call (.draining false)
        (life.move call (if life.active = 0 then .leaving none else .draining true))
  | .clear call =>
      match life.serves[call]? with
      | some (.leaving error) => some { life.move call (.announcing error) with waker := none }
      | _ => none
  | .announce call =>
      match life.serves[call]? with
      | some (.announcing error) => some (life.announced.move call (.returned error))
      | _ => none
  | .finish connection ending =>
      if life.connections[connection]? = some none then
        some (life.finished connection ending)
      else none
  | .request call =>
      life.whenStopAt call .entering { life.moveStop call .waking with requested := true }
  | .wake call => life.whenStopAt call .waking (life.moveStop call (.awaiting false))
  | .observe call =>
      life.whenStopAt call (.awaiting false)
        (life.moveStop call (if life.phase = .serving then .awaiting true else .draining false))
  | .await call =>
      life.whenStopAt call (.draining false)
        (life.moveStop call (if life.active = 0 then .returned else .draining true))
  | .startleServing call =>
      life.whenAt call (.draining true) (life.move call (.draining false))
  | .startleStopping call =>
      match life.stops[call]? with
      | some (.awaiting true) => some (life.moveStop call (.awaiting false))
      | some (.draining true) => some (life.moveStop call (.draining false))
      | _ => none

/-- The server after several steps. A step that is not possible is left out. -/
def run (life : Lifecycle) (actions : List Action) : Lifecycle :=
  actions.foldl (fun life action => (life.step action).getD life) life

/-- A server that some interleaving leads to. -/
inductive Reachable : Lifecycle → Prop
  /-- Nobody has called it yet. -/
  | fresh : Reachable fresh
  /-- One step leads to it. -/
  | step {before after : Lifecycle} {action : Action} (reached : Reachable before)
      (taken : before.step action = some after) : Reachable after

/-- Steps lead from one reachable server to another. -/
theorem Reachable.run {life : Lifecycle} (reached : Reachable life) (actions : List Action) :
    Reachable (life.run actions) := by
  induction actions generalizing life with
  | nil => exact reached
  | cons action actions ih =>
      change Reachable (Lifecycle.run ((life.step action).getD life) actions)
      apply ih
      cases taken : life.step action with
      | none => exact reached
      | some after => exact reached.step taken

/-! ## Calls without interruption

Each of these lists takes one call as far as it comes by itself. The first steps of a list are not
possible where the call is beyond them already, and are left out there. -/

/-- A call prepares to serve, and then waits for connections unless it has been asked to stop. -/
def begin (call : Nat) (fault : Option Fault) : List Action :=
  [.serve, .enter call, .prepare call fault, .check call, .clear call, .announce call]

/-- A call accepts one connection and waits for the next. -/
def welcome (call : Nat) : List Action :=
  [.poll call .ready, .look call, .accept call .connection, .count call, .spawn call,
    .look call, .accept call .nobody, .check call]

/-- A call cannot accept and will try again. -/
def stall (call : Nat) : List Action :=
  [.poll call .ready, .look call, .accept call .retry]

/-- A call ends with an error that it meets while accepting. -/
def abandon (call : Nat) (error : Error) : List Action :=
  [.poll call .ready, .look call, .accept call (.error error), .clear call, .announce call]

/-- A call that has been asked to stop notices it and lets its socket go. -/
def retire (call : Nat) : List Action :=
  [.look call, .poll call .quiet, .check call, .close call]

/-- A call returns if no connection is left. -/
def leave (call : Nat) : List Action :=
  [.drain call, .clear call, .announce call]

/-- A shutdown asks for the end. -/
def ask (call : Nat) : List Action :=
  [.stop, .request call, .wake call]

/-- A shutdown returns if nobody serves and no connection is left. -/
def conclude (call : Nat) : List Action :=
  [.observe call, .await call]

/-- What a call has returned, if it has. -/
def result? (life : Lifecycle) (call : Nat) : Option (Except Error Unit) :=
  match life.serves[call]? with
  | some (.returned none) => some (.ok ())
  | some (.returned (some error)) => some (.error error)
  | _ => none

end Lifecycle

end Switchboard
