import Switchboard.AcceptQueue
import Switchboard.Server.Address
import Switchboard.Server.Credentials
import Switchboard.Server.Lifecycle
import Switchboard.Server.Link
import Switchboard.Server.Settings

/-!
# A server among its peers

A server that really serves, in a small world: a file system, a clock, and peers on the same
machine. The first call to serve has number zero and is the one that accepts connections; what it
does is what `Lifecycle` allows, and so is what a shutdown does.

Whatever a peer does, the server reacts to at once. Time passes only when somebody sleeps or waits
for something that needs time: for a connection to be idle for too long, or for the next attempt to
accept.

No host can be reached over the network in this world, and nobody can dial a socket without a path,
so peers exist only for sockets that have one.
-/

namespace Switchboard

/-- A server with its peers and everything around it. -/
structure Loopback where
  settings : Settings
  registry : Registry
  files : Files
  /-- The socket on which the server listens, as long as it is open. -/
  socket : Option Address.Bound
  now : Nat
  /-- The calls to serve and to shut down, and the connections. -/
  life : Lifecycle
  /-- Why the first call to serve never got as far as serving. -/
  setback : Option Error
  /-- The links, in the order in which they were dialled. -/
  links : List Link
  /-- Nothing more can be opened, so nothing can be accepted. -/
  starved : Bool
  /-- What the server makes of failed attempts to accept. -/
  backoff : Backoff
  /-- When the next attempt to accept is due, after a failed one. -/
  retryAt : Option Nat
  /-- What the calls to serve have told, each event with the thread that told it. -/
  told : List (String × Event)

namespace Loopback

variable {α : Type}

def servingThread : String := "serve"

def mainThread : String := "main"

def connectionThread (number : Nat) : String := "framerpc-conn-" ++ toString number

/-- The rules by which the server serves its connections. -/
def rules (world : Loopback) : Rules := world.settings.rules world.registry

/-- Tells events, if the settings ask for events. -/
def tell (world : Loopback) (thread : String) (events : List Event) : Loopback :=
  if world.settings.log then
    { world with told := world.told ++ events.map (thread, ·) }
  else world

def live (world : Loopback) (actions : List Lifecycle.Action) : Loopback :=
  { world with life := world.life.run actions }

/-- However a server lives on, it stays one that some interleaving leads to. -/
theorem reachable_live {world : Loopback} (reached : Lifecycle.Reachable world.life)
    (actions : List Lifecycle.Action) : Lifecycle.Reachable (world.live actions).life :=
  reached.run actions

def isAt (world : Loopback) (call : Nat) (place : Lifecycle.Serving) : Bool :=
  world.life.serves[call]? == some place

/-- What the first call to serve has returned, if it has. -/
def result? (world : Loopback) : Option (Except Error Unit) :=
  match world.setback with
  | some error => some (.error error)
  | none => world.life.result? 0

/-! ## The socket -/

/-- Lets the socket go. Whoever still waits to be accepted is refused. -/
def closeSocket (world : Loopback) : Loopback :=
  { world with
    socket := none
    files := (world.socket.map (·.vacate world.files)).getD world.files
    retryAt := none
    links := world.links.map Link.refuse }

/-- The path at which the open socket can be dialled, if there is one. -/
def path? (world : Loopback) : Option String :=
  world.socket.bind (·.path)

/-- The addresses that are held by open sockets. -/
def held (world : Loopback) : List String :=
  (world.socket.map (·.address)).toList

def bind (world : Loopback) : Except Error Address.Bound :=
  Address.bind world.files world.held world.settings.protocol world.settings.address

/-! ## Calls to serve -/

def idle (settings : Settings) (registry : Registry) (files : Files) : Loopback where
  settings := settings
  registry := registry
  files := files
  socket := none
  now := 0
  life := .fresh
  setback := none
  links := []
  starved := false
  backoff := .fresh
  retryAt := none
  told := []

/-- What stands against serving secure connections. -/
def secured (world : Loopback) : Option Credentials → Except Error Unit
  | none => .ok ()
  | some credentials =>
      if world.settings.protocol = .tcp then credentials.validate world.files
      else .error (.invalidProtocol world.settings.protocol.name)

/-- Somebody asks the server to stop although nobody serves yet. -/
def forestall (world : Loopback) : Loopback :=
  let call := world.life.stops.length
  world.live (Lifecycle.ask call ++ Lifecycle.conclude call)

/-- Opens the socket for the first call to serve. -/
def launch (world : Loopback) (secure : Option Credentials) : Loopback :=
  match world.secured secure, world.bind with
  | .error error, _ => { world with setback := some error }
  | .ok (), .error error => { world with setback := some error }
  | .ok (), .ok bound =>
      { world with socket := some bound, files := bound.occupy world.files }

/-- What a call to serve has told when it listens. -/
def listening (world : Loopback) (bound : Address.Bound) : Event :=
  .listening world.settings.protocol bound.address

/-- Brings a call to its end once no connection is left. -/
def windDown (world : Loopback) (call : Nat) (thread : String) : Loopback :=
  if world.isAt call (.draining false) then
    let later := world.live (Lifecycle.leave call)
    if (later.life.result? call).isSome then later.tell thread [.drained] else later
  else world

/-- Lets a call that has been asked to stop notice it. -/
def stopServing (world : Loopback) (call : Nat) (thread : String) : Loopback :=
  let later := world.live (Lifecycle.retire call)
  if later.isAt call (.draining false) && !world.isAt call (.draining false) then
    (later.closeSocket.tell thread [.draining later.life.active]).windDown call thread
  else later

def fail (world : Loopback) (error : Error) : Loopback :=
  (world.live (Lifecycle.abandon 0 error)).closeSocket.tell servingThread [.stopped error]

/-- The first call to serve gets going, if it has not before. Where nothing more can be opened it
fails. -/
def awaken (world : Loopback) : Loopback :=
  match world.socket with
  | none => world
  | some bound =>
      if world.life.serves != [] then world
      else if world.starved then
        let fault : Fault := .system 24
        (world.live (Lifecycle.begin 0 (some fault))).closeSocket.tell servingThread
          [.stopped (.io fault)]
      else
        let later :=
          (world.live (Lifecycle.begin 0 none)).tell servingThread [world.listening bound]
        if later.life.requested then later.stopServing 0 servingThread else later

/-- Another call to serve, with a socket of its own. It returns nothing if it would serve for
ever. -/
def serveAgain (world : Loopback) (bound : Address.Bound) : Option (Except Error Unit) × Loopback :=
  let call := world.life.serves.length
  let begun := world.live (Lifecycle.begin call none)
  match begun.life.result? call with
  | some result => (some result, begun)
  | none =>
      let stopped := begun.live (Lifecycle.retire call)
      let told := stopped.tell mainThread
        (world.listening bound ::
          if stopped.isAt call (.draining false) then [.draining stopped.life.active] else [])
      let ended := told.windDown call mainThread
      (ended.life.result? call, ended)

def listenAgain (world : Loopback) : Option (Except Error Unit) × Loopback :=
  let awake := world.awaken
  match awake.bind with
  | .error error => (some (.error error), awake)
  | .ok bound => awake.serveAgain bound

/-- Another call to serve, with a socket that was opened before. -/
def secondServe (world : Loopback) : Option (Except Error Unit) × Loopback :=
  let awake := world.awaken
  awake.serveAgain ⟨awake.settings.address, none⟩

/-! ## Connections -/

/-- Replaces a link. If its connection is over now, the server's life goes on without it. -/
def update (world : Loopback) (index : Nat) (link : Link) : Loopback :=
  let served := link.serve world.rules world.now
  let later := { world with links := world.links.set index served }
  match link.side, served.side with
  | .waiting number, .over _ =>
      (later.live [.finish number (.served (served.work.bind (·.halt)))]).windDown 0 servingThread
  | _, _ => later

/-- The server accepts everybody who waits, unless nothing more can be opened. -/
def acceptAll (world : Loopback) : Loopback :=
  (List.range world.links.length).foldl
    (fun world index =>
      match world.links[index]? with
      | some link =>
          if link.side = .queued then
            let number := world.life.number
            let accepted : Loopback :=
              { world.live (Lifecycle.welcome 0) with backoff := .fresh, retryAt := none }
            accepted.update index (link.accept number world.now)
          else world
      | none => world)
    world

/-- One attempt to accept, which fails because nothing more can be opened. -/
def attempt (world : Loopback) : Loopback :=
  let queue : AcceptQueue Unit := .ofArrivals [.fault (.system 24)] world.backoff false
  match AcceptQueue.drain world.settings.maxRetries world.settings.log queue with
  | .ok () after =>
      let later := (world.live (Lifecycle.stall 0)).tell servingThread after.events
      { later with
        backoff := after.backoff
        retryAt := after.waits.getLast?.map fun delay => world.now + delay.totalNanos }
  | .error error after => (world.tell servingThread after.events).fail error

/-- Somebody has dialled. The server accepts unless it is waiting for the next attempt. -/
def knock (world : Loopback) : Loopback :=
  if world.retryAt.isSome then world
  else if world.starved then world.attempt
  else world.acceptAll

/-- Makes all attempts to accept that are due until some time, at most `limit` of them. The delays
grow so fast that few are due in any time that passes. -/
def attemptUntil (world : Loopback) (time : Nat) : (limit : Nat) → Loopback
  | 0 => world
  | limit + 1 =>
      match world.retryAt with
      | some due =>
          if due ≤ time then
            ({ world with now := max world.now due }.attempt).attemptUntil time limit
          else world
      | none => world

/-- How long a connection may be idle, in nanoseconds. -/
def idleNanos (world : Loopback) : Nat :=
  (world.settings.maxTimeout.map (·.totalNanos)).getD 0

/-- The next connection that will have been idle for too long, and when. -/
def nextExpiry? (world : Loopback) : Option (Nat × Nat) :=
  (List.range world.links.length).foldl
    (fun found index =>
      match world.links[index]? with
      | some link =>
          if link.isTimed then
            let due := link.since + world.idleNanos
            match found with
            | some (_, earlier) => if due < earlier then some (index, due) else found
            | none => some (index, due)
          else found
      | none => found)
    none

/-- Lets time pass until a connection has been idle for too long. -/
def expire (world : Loopback) (index due : Nat) : Loopback :=
  match world.links[index]? with
  | some link => { world with now := max world.now due }.update index link.expire
  | none => world

/-- Ends the connections, at most `limit` of them, that have been idle for too long at some time. -/
def expireUntil (world : Loopback) (time : Nat) : (limit : Nat) → Loopback
  | 0 => world
  | limit + 1 =>
      match world.nextExpiry? with
      | some (index, due) =>
          if due ≤ time then (world.expire index due).expireUntil time limit else world
      | none => world

/-- How long somebody waits for something before giving up, in nanoseconds. -/
def patience : Nat := 10 * nanosPerSecond

/-- Waits until something holds, or nothing is expected to happen any more. At most `limit`
connections end meanwhile. -/
def waitFor (world : Loopback) (done : Loopback → Bool) (deadline : Nat) : (limit : Nat) → Loopback
  | 0 => world
  | limit + 1 =>
      if done world then world
      else
        match world.nextExpiry? with
        | some (index, due) =>
            if due ≤ deadline then (world.expire index due).waitFor done deadline limit else world
        | none => world

/-! ## What somebody does to the server -/

/-- Time passes. -/
def sleep (world : Loopback) (nanos : Nat) : Loopback :=
  let time := world.now + nanos
  let tried := world.awaken.attemptUntil time 64
  { tried.expireUntil time tried.links.length with now := time }

/-- Waits until a number of connections is being served. -/
def awaitActive (world : Loopback) (count : Nat) : Loopback :=
  let awake := world.awaken
  awake.waitFor (fun world => world.life.active == count) (awake.now + patience) awake.links.length

def beginShutdown (world : Loopback) : Loopback :=
  let call := world.life.stops.length
  let asked := world.awaken.live (Lifecycle.ask call)
  let stopped :=
    if asked.life.serves = [] then asked else asked.stopServing 0 servingThread
  stopped.live (Lifecycle.conclude call)

/-- Waits until every shutdown has returned. -/
def endShutdown (world : Loopback) : Loopback :=
  let quiet := world.waitFor (fun world => world.life.active == 0) (world.now + patience)
    world.links.length
  (List.range quiet.life.stops.length).foldl
    (fun world call => world.live (Lifecycle.conclude call)) quiet

/-- Asks the server to stop and waits until it has. -/
def shutdown (world : Loopback) : Loopback :=
  world.beginShutdown.endShutdown

/-- Waits until the first call to serve has returned. -/
def awaitEnd (world : Loopback) : Loopback :=
  let awake := world.awaken
  awake.attemptUntil (awake.now + patience) 64

def hasSocketFile (world : Loopback) : Bool :=
  Address.present world.files world.settings.address

def outline (world : Loopback) : Outline :=
  world.settings.serverOutline world.registry world.life.active

/-! ## What peers do -/

def find? (world : Loopback) (name : String) : Option Nat :=
  world.links.findIdx? fun link => link.name == some name

def drop (world : Loopback) (index : Nat) : Loopback :=
  match world.links[index]? with
  | some link => world.update index link.release
  | none => world

/-- All peers of a name but the latest let their ends go. -/
def dropEarlier (world : Loopback) (name : String) : Loopback :=
  match world.find? name with
  | some index => if index + 1 < world.links.length then world.drop index else world
  | none => world

def dropAll (world : Loopback) : Loopback :=
  (List.range world.links.length).foldl
    (fun world index =>
      match world.links[index]? with
      | some link => if link.name.isSome then world.drop index else world
      | none => world)
    world

def connect (world : Loopback) (name : String) (raw : Bool) :
    Except Error (Connection × Loopback) :=
  match world.path?, world.settings.protocol with
  | some path, .unix =>
      let awake := world.awaken
      let link := Link.dialling name path raw
      if awake.socket.isNone then
        .error (.io (Address.dial awake.files .unix awake.settings.address))
      else
        .ok (link.peer, { awake with links := awake.links ++ [link] }.knock.dropEarlier name)
  | _, protocol => .error (.io (Address.dial world.files protocol world.settings.address))

/-- A peer dials the server when nothing more can be opened. Tells whether it has got through. -/
def connectStarved (world : Loopback) (name : String) : Bool × Loopback :=
  let starving := { world with starved := true }
  match starving.path?, starving.settings.protocol with
  | some path, .unix =>
      let link := Link.dialling name path false
      let dialled := { starving with links := starving.links ++ [link] }.dropEarlier name
      (true, if dialled.life.serves = [] then dialled.awaken else dialled.knock)
  | _, _ =>
      let link := Link.stranded name "tcp:(unknown)"
      (false, { starving with links := starving.links ++ [link] }.awaken.dropEarlier name)

/-- Lets things be opened again and waits for a number of connections. Tells whether there are so
many. -/
def feed (world : Loopback) (count : Nat) : Bool × Loopback :=
  let fed := { world with starved := false, now := max world.now (world.retryAt.getD 0) }
  let waited := (if fed.socket.isSome then fed.acceptAll else fed).awaitActive count
  (waited.life.active == count, waited)

/-- A peer does something with its end. If it has to wait for the server, it waits until the server
has lost its patience. -/
def act (world : Loopback) (index : Nat) (action : Connection → α × Connection) :
    Option (α × Loopback) :=
  let later :=
    match world.links[index]? with
    | some link =>
        if link.wouldWait action && link.isTimed then
          world.expire index (link.since + world.idleNanos)
        else world
    | none => world
  later.links[index]?.map fun link =>
    let (value, after) := link.act action
    (value, later.update index after)

/-- A peer shuts down the direction in which it sends. -/
def halfClose (world : Loopback) (index : Nat) : Loopback :=
  match world.links[index]? with
  | some link => world.update index link.halfClose
  | none => world

/-! ## What was told -/

def journal (world : Loopback) : List (String × List Event) :=
  let calls := [mainThread, servingThread].map fun thread =>
    (thread, (world.told.filter (·.1 == thread)).map (·.2))
  let connections := world.links.filterMap fun link =>
    link.number?.map fun number =>
      (connectionThread number, if world.settings.log then link.events else [])
  (calls ++ connections).filter fun entry => !entry.2.isEmpty

end Loopback

end Switchboard
