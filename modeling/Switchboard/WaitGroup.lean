/-!
# Waiting for a number of things to end

A wait group counts things that are going on. Each of them holds a guard; the guard is made when the
count goes up, and the count goes down when it is dropped, however its holder ends. Whoever waits
for the group goes on only when it finds the count at zero: a waiter that finds anything else falls
asleep, and when the count reaches zero all sleepers are woken and look again. A sleeper may also
wake for no reason.

Every step below is one that is done under the lock of the group, so an interleaving is a list of
steps.
-/

namespace Switchboard

/-- Where somebody who waits for a group has come to. -/
inductive WaitGroup.Phase
  /-- Asleep until woken. -/
  | asleep
  | woken
  | returned (seen : Nat)
  deriving DecidableEq, Repr

/-- A group: how many things are going on, and who waits for them. -/
structure WaitGroup where
  count : Nat
  waiters : List WaitGroup.Phase
  deriving DecidableEq, Repr

namespace WaitGroup

def empty : WaitGroup := ⟨0, []⟩

instance : Inhabited WaitGroup := ⟨empty⟩

def add (group : WaitGroup) : WaitGroup :=
  { group with count := group.count + 1 }

def Phase.rouse : Phase → Phase
  | .asleep => .woken
  | phase => phase

/-- One thing less is going on. At zero all sleepers are woken. -/
def drop (group : WaitGroup) : WaitGroup :=
  let count := group.count - 1
  { count, waiters := if count = 0 then group.waiters.map Phase.rouse else group.waiters }

/-- Where a waiter comes to by looking at the count. -/
def look (group : WaitGroup) : Phase :=
  if group.count = 0 then .returned group.count else .asleep

def wait (group : WaitGroup) : WaitGroup :=
  { group with waiters := group.waiters ++ [group.look] }

/-- What looking again does to a waiter who is awake. -/
def Phase.again (next : Phase) : Phase → Phase
  | .woken => next
  | phase => phase

/-- The waiter with a number looks again, if it is awake. -/
def resume (group : WaitGroup) (waiter : Nat) : WaitGroup :=
  { group with waiters := group.waiters.modify waiter (Phase.again group.look) }

/-- The waiter with a number wakes for no reason, if it is asleep. -/
def startle (group : WaitGroup) (waiter : Nat) : WaitGroup :=
  { group with waiters := group.waiters.modify waiter Phase.rouse }

def settle (group : WaitGroup) : WaitGroup :=
  { group with waiters := group.waiters.map (Phase.again group.look) }

/-- The count that a waiter has found, if it has gone on. -/
def Phase.seen? : Phase → Option Nat
  | .returned seen => some seen
  | _ => none

/-- The counts that were found by those who have gone on. -/
def seen (group : WaitGroup) : List Nat :=
  group.waiters.filterMap Phase.seen?

def forget (group : WaitGroup) : WaitGroup :=
  { group with waiters := group.waiters.filter (·.seen?.isNone) }

end WaitGroup

/-- A step that concerns groups. Groups, handles and guards are named by numbers and names. -/
inductive Groups.Step
  /-- Makes a guard of the group that a handle belongs to. -/
  | add (handle : Nat) (guard : String)
  | drop (guard : String)
  | clone (handle : Nat)
  | create
  | wait (handle : Nat)
  | resume (handle waiter : Nat)
  | startle (handle waiter : Nat)
  deriving DecidableEq, Repr

/-- Any number of independent groups, their handles and their guards. -/
structure Groups where
  groups : List WaitGroup
  handles : List Nat
  /-- The guards that have not been dropped, and which group each of them counts in. -/
  guards : List (String × Nat)
  deriving DecidableEq, Repr

namespace Groups

def single : Groups := ⟨[.empty], [0], []⟩

instance : Inhabited Groups := ⟨single⟩

def onGroup (groups : Groups) (group : Nat) (change : WaitGroup → WaitGroup) : Groups :=
  { groups with groups := groups.groups.modify group change }

def onHandle (groups : Groups) (handle : Nat) (change : WaitGroup → WaitGroup) : Groups :=
  match groups.handles[handle]? with
  | none => groups
  | some group => groups.onGroup group change

def group? (groups : Groups) (handle : Nat) : Option WaitGroup :=
  groups.handles[handle]?.bind (groups.groups[·]?)

def holds (groups : Groups) (guard : String) : Bool :=
  (groups.guards.lookup guard).isSome

def dropGuard (groups : Groups) (guard : String) : Groups :=
  match groups.guards.lookup guard with
  | none => groups
  | some group =>
      ({ groups with guards := groups.guards.filter (·.1 != guard) }).onGroup group WaitGroup.drop

/-- Makes a guard. If there was one of that name, it is dropped afterwards. -/
def addGuard (groups : Groups) (handle : Nat) (guard : String) : Groups :=
  match groups.handles[handle]? with
  | none => groups
  | some group =>
      let added := groups.onGroup group WaitGroup.add
      let dropped := added.dropGuard guard
      { dropped with guards := (guard, group) :: dropped.guards }

def step (groups : Groups) : Step → Groups
  | .add handle guard => groups.addGuard handle guard
  | .drop guard => groups.dropGuard guard
  | .clone handle =>
      match groups.handles[handle]? with
      | none => groups
      | some group => { groups with handles := groups.handles ++ [group] }
  | .create =>
      { groups with
        groups := groups.groups ++ [.empty]
        handles := groups.handles ++ [groups.groups.length] }
  | .wait handle => groups.onHandle handle WaitGroup.wait
  | .resume handle waiter => groups.onHandle handle (·.resume waiter)
  | .startle handle waiter => groups.onHandle handle (·.startle waiter)

def run (groups : Groups) (steps : List Step) : Groups :=
  steps.foldl step groups

def settle (groups : Groups) : Groups :=
  { groups with groups := groups.groups.map WaitGroup.settle }

/-- The counts that were found by everybody who has gone on, who are forgotten with that. -/
def join (groups : Groups) : List Nat × Groups :=
  (groups.groups.flatMap WaitGroup.seen,
    { groups with groups := groups.groups.map WaitGroup.forget })

def counts (groups : Groups) : List Nat :=
  groups.handles.map fun handle => (groups.groups[handle]?.map (·.count)).getD 0

end Groups

end Switchboard
