import Switchboard.Server.Lifecycle

/-!
# What a step does to a server

A step belongs to a call that serves, to one that shuts down, or to a connection, or it is the
beginning of a call. `Stepped` lists all of them with what they need and what they leave. Everything
that is known about a server after a step comes from it: what has become of the place of a call
(`ServeCame`, `StopCame`), of the flag and of the connections.

What holds of a server after many steps and did not hold before has begun to hold with one of them
(`exists_becoming`).
-/

namespace Switchboard.Lifecycle

/-- A step of a call that serves: the place that it leaves, the place that it goes to, and the
server apart from that. -/
inductive ServeStep (life : Lifecycle) (call : Nat) : Action → Serving → Serving → Lifecycle → Prop
  | enter (free : life.phase ≠ .serving) :
      ServeStep life call (.enter call) .entering .preparing { life with phase := .serving }
  | refuse (busy : life.phase = .serving) :
      ServeStep life call (.enter call) .entering (.returned (some alreadyServing)) life
  | prepare :
      ServeStep life call (.prepare call none) .preparing .checking { life with waker := some call }
  | fail (fault : Fault) :
      ServeStep life call (.prepare call (some fault)) .preparing (.leaving (some (.io fault))) life
  | proceed (unasked : life.requested = false) :
      ServeStep life call (.check call) .checking .polling life
  | retire (asked : life.requested = true) :
      ServeStep life call (.check call) .checking .closing life
  | poll (readiness : Readiness) :
      ServeStep life call (.poll call readiness) .polling readiness.next life
  | attempt (unasked : life.requested = false) :
      ServeStep life call (.look call) .looking .accepting life
  | desist (asked : life.requested = true) :
      ServeStep life call (.look call) .looking .checking life
  | accept (meeting : Meeting) :
      ServeStep life call (.accept call meeting) .accepting meeting.next life
  | count : ServeStep life call (.count call) .counting .spawning life.counted
  | spawn :
      ServeStep life call (.spawn call) .spawning .looking { life with number := life.number + 1 }
  | close : ServeStep life call (.close call) .closing (.draining false) life
  | leave (empty : life.active = 0) :
      ServeStep life call (.drain call) (.draining false) (.leaving none) life
  | doze (busy : life.active ≠ 0) :
      ServeStep life call (.drain call) (.draining false) (.draining true) life
  | startle : ServeStep life call (.startleServing call) (.draining true) (.draining false) life
  | clear (error : Option Error) :
      ServeStep life call (.clear call) (.leaving error) (.announcing error)
        { life with waker := none }
  | announce (error : Option Error) :
      ServeStep life call (.announce call) (.announcing error) (.returned error) life.announced

/-- A step of a call that shuts down. -/
inductive StopStep (life : Lifecycle) (call : Nat) : Action → Stopping → Stopping → Lifecycle → Prop
  | request : StopStep life call (.request call) .entering .waking { life with requested := true }
  | wake : StopStep life call (.wake call) .waking (.awaiting false) life
  | linger (busy : life.phase = .serving) :
      StopStep life call (.observe call) (.awaiting false) (.awaiting true) life
  | pass (free : life.phase ≠ .serving) :
      StopStep life call (.observe call) (.awaiting false) (.draining false) life
  | doze (busy : life.active ≠ 0) :
      StopStep life call (.await call) (.draining false) (.draining true) life
  | leave (empty : life.active = 0) :
      StopStep life call (.await call) (.draining false) .returned life
  | startleAwaiting :
      StopStep life call (.startleStopping call) (.awaiting true) (.awaiting false) life
  | startleDraining :
      StopStep life call (.startleStopping call) (.draining true) (.draining false) life

/-- A step, and the server after it. -/
inductive Stepped (life : Lifecycle) : Action → Lifecycle → Prop
  | serve : Stepped life .serve { life with serves := life.serves ++ [.entering] }
  | stop : Stepped life .stop { life with stops := life.stops ++ [.entering] }
  | serving {action : Action} {call : Nat} {before place : Serving} {shared : Lifecycle}
      (there : life.serves[call]? = some before)
      (step : ServeStep life call action before place shared) :
      Stepped life action (shared.move call place)
  | stopping {action : Action} {call : Nat} {before place : Stopping} {shared : Lifecycle}
      (there : life.stops[call]? = some before)
      (step : StopStep life call action before place shared) :
      Stepped life action (shared.moveStop call place)
  | finish {connection : Nat} (ending : Ending) (runs : life.connections[connection]? = some none) :
      Stepped life (.finish connection ending) (life.finished connection ending)

section

variable {life after next : Lifecycle} {action : Action} {call : Nat}

theorem whenAt_eq_some {place : Serving} (taken : life.whenAt call place next = some after) :
    life.serves[call]? = some place ∧ next = after := by
  unfold whenAt at taken
  split at taken
  · next there => exact ⟨there, Option.some.inj taken⟩
  · cases taken

theorem whenStopAt_eq_some {place : Stopping}
    (taken : life.whenStopAt call place next = some after) :
    life.stops[call]? = some place ∧ next = after := by
  unfold whenStopAt at taken
  split at taken
  · next there => exact ⟨there, Option.some.inj taken⟩
  · cases taken

theorem stepped (taken : life.step action = some after) : Stepped life action after := by
  cases action with
  | serve =>
      cases taken
      exact .serve
  | stop =>
      cases taken
      exact .stop
  | enter call =>
      rcases whenAt_eq_some taken with ⟨there, rfl⟩
      split
      · next busy => exact .serving there (.refuse busy)
      · next free => exact .serving there (.enter free)
  | prepare call fault =>
      rcases whenAt_eq_some taken with ⟨there, rfl⟩
      cases fault with
      | none => exact .serving there .prepare
      | some fault => exact .serving there (.fail fault)
  | check call =>
      rcases whenAt_eq_some taken with ⟨there, rfl⟩
      cases asked : life.requested with
      | false => exact .serving there (.proceed asked)
      | true => exact .serving there (.retire asked)
  | poll call readiness =>
      rcases whenAt_eq_some taken with ⟨there, rfl⟩
      exact .serving there (.poll readiness)
  | look call =>
      rcases whenAt_eq_some taken with ⟨there, rfl⟩
      cases asked : life.requested with
      | false => exact .serving there (.attempt asked)
      | true => exact .serving there (.desist asked)
  | accept call meeting =>
      rcases whenAt_eq_some taken with ⟨there, rfl⟩
      exact .serving there (.accept meeting)
  | count call =>
      rcases whenAt_eq_some taken with ⟨there, rfl⟩
      exact .serving there .count
  | spawn call =>
      rcases whenAt_eq_some taken with ⟨there, rfl⟩
      exact .serving there .spawn
  | close call =>
      rcases whenAt_eq_some taken with ⟨there, rfl⟩
      exact .serving there .close
  | drain call =>
      rcases whenAt_eq_some taken with ⟨there, rfl⟩
      split
      · next empty => exact .serving there (.leave empty)
      · next busy => exact .serving there (.doze busy)
  | clear call =>
      simp only [step] at taken
      split at taken
      · next error there =>
        cases taken
        exact .serving there (.clear error)
      · cases taken
  | announce call =>
      simp only [step] at taken
      split at taken
      · next error there =>
        cases taken
        exact .serving there (.announce error)
      · cases taken
  | finish connection ending =>
      simp only [step] at taken
      split at taken
      · next runs =>
        cases taken
        exact .finish ending runs
      · cases taken
  | request call =>
      rcases whenStopAt_eq_some taken with ⟨there, rfl⟩
      exact .stopping there .request
  | wake call =>
      rcases whenStopAt_eq_some taken with ⟨there, rfl⟩
      exact .stopping there .wake
  | observe call =>
      rcases whenStopAt_eq_some taken with ⟨there, rfl⟩
      split
      · next busy => exact .stopping there (.linger busy)
      · next free => exact .stopping there (.pass free)
  | await call =>
      rcases whenStopAt_eq_some taken with ⟨there, rfl⟩
      split
      · next empty => exact .stopping there (.leave empty)
      · next busy => exact .stopping there (.doze busy)
  | startleServing call =>
      rcases whenAt_eq_some taken with ⟨there, rfl⟩
      exact .serving there .startle
  | startleStopping call =>
      simp only [step] at taken
      split at taken
      · next there =>
        cases taken
        exact .stopping there .startleAwaiting
      · next there =>
        cases taken
        exact .stopping there .startleDraining
      · cases taken

end

/-! ## Places -/

/-- How a call that serves has come to a place. -/
inductive ServeCame (life : Lifecycle) (action : Action) (call : Nat) (place : Serving) : Prop
  | new (start : place = .entering)
  | kept (there : life.serves[call]? = some place)
  | roused {before : Serving} (there : life.serves[call]? = some before)
      (woken : place = before.rouse)
  | moved {before : Serving} {shared : Lifecycle} (there : life.serves[call]? = some before)
      (step : ServeStep life call action before place shared)

/-- How a call that shuts down has come to a place. -/
inductive StopCame (life : Lifecycle) (action : Action) (call : Nat) (place : Stopping) : Prop
  | new (start : place = .entering)
  | kept (there : life.stops[call]? = some place)
  | roused {before : Stopping} (there : life.stops[call]? = some before)
      (woken : place = before.rouseAwaiting ∨ place = before.rouseDraining)
  | moved {before : Stopping} {shared : Lifecycle} (there : life.stops[call]? = some before)
      (step : StopStep life call action before place shared)

section

variable {life after shared : Lifecycle} {action : Action} {call : Nat}

theorem ServeStep.serves {before place : Serving}
    (step : ServeStep life call action before place shared) :
    shared.serves = life.serves := by
  cases step <;> rfl

theorem ServeStep.stops {before place : Serving}
    (step : ServeStep life call action before place shared) :
    shared.stops = life.stops ∨ shared.stops = life.stops.map Stopping.rouseAwaiting := by
  cases step with
  | announce error => exact Or.inr rfl
  | _ => exact Or.inl rfl

theorem StopStep.serves {before place : Stopping}
    (step : StopStep life call action before place shared) :
    shared.serves = life.serves := by
  cases step <;> rfl

theorem StopStep.stops {before place : Stopping}
    (step : StopStep life call action before place shared) :
    shared.stops = life.stops := by
  cases step <;> rfl

theorem eq_or_there_of_concat {α : Type} {list : List α} {last value : α} {index : Nat}
    (there : (list ++ [last])[index]? = some value) : list[index]? = some value ∨ value = last := by
  rw [List.getElem?_append] at there
  split at there
  · exact Or.inl there
  · exact Or.inr (List.mem_singleton.mp (List.mem_of_getElem? there))

theorem eq_or_there_of_set {α : Type} {list : List α} {new value : α} {index other : Nat}
    (there : (list.set index new)[other]? = some value) :
    list[other]? = some value ∨ (index = other ∧ value = new) := by
  rw [List.getElem?_set] at there
  split at there
  · next same =>
    split at there
    · exact Or.inr ⟨same, (Option.some.inj there).symm⟩
    · cases there
  · exact Or.inl there

theorem serve_came (stepped : Stepped life action after) {place : Serving}
    (there : after.serves[call]? = some place) : ServeCame life action call place := by
  cases stepped with
  | serve =>
      rcases eq_or_there_of_concat there with there | start
      · exact .kept there
      · exact .new start
  | stop => exact .kept there
  | @serving action mover before goal shared stood step =>
      change (shared.serves.set mover goal)[call]? = some place at there
      rw [step.serves] at there
      rcases eq_or_there_of_set there with there | ⟨rfl, rfl⟩
      · exact .kept there
      · exact .moved stood step
  | @stopping action mover before goal shared stood step =>
      change shared.serves[call]? = some place at there
      rw [step.serves] at there
      exact .kept there
  | finish ending runs =>
      simp only [finished] at there
      split at there
      · rw [List.getElem?_map, Option.map_eq_some_iff] at there
        rcases there with ⟨before, stood, woken⟩
        exact .roused stood woken.symm
      · exact .kept there

theorem stop_came (stepped : Stepped life action after) {place : Stopping}
    (there : after.stops[call]? = some place) : StopCame life action call place := by
  cases stepped with
  | serve => exact .kept there
  | stop =>
      rcases eq_or_there_of_concat there with there | start
      · exact .kept there
      · exact .new start
  | @serving action mover before goal shared stood step =>
      change shared.stops[call]? = some place at there
      rcases step.stops with same | woken
      · rw [same] at there
        exact .kept there
      · rw [woken, List.getElem?_map, Option.map_eq_some_iff] at there
        rcases there with ⟨before, stood, woken⟩
        exact .roused stood (Or.inl woken.symm)
  | @stopping action mover before goal shared stood step =>
      change (shared.stops.set mover goal)[call]? = some place at there
      rw [step.stops] at there
      rcases eq_or_there_of_set there with there | ⟨rfl, rfl⟩
      · exact .kept there
      · exact .moved stood step
  | finish ending runs =>
      simp only [finished] at there
      split at there
      · rw [List.getElem?_map, Option.map_eq_some_iff] at there
        rcases there with ⟨before, stood, woken⟩
        exact .roused stood (Or.inr woken.symm)
      · exact .kept there

/-- A shutdown that has returned is over. -/
theorem stop_over (stepped : Stepped life action after)
    (returned : life.stops[call]? = some .returned) :
    after.stops[call]? = some .returned := by
  cases stepped with
  | serve => exact returned
  | stop =>
      have within := (List.getElem?_eq_some_iff.mp returned).1
      exact (List.getElem?_append_left within).trans returned
  | @serving action mover before goal shared stood step =>
      change shared.stops[call]? = some .returned
      rcases step.stops with same | woken
      · rw [same, returned]
      · rw [woken, List.getElem?_map, returned]
        rfl
  | @stopping action mover before goal shared stood step =>
      change (shared.stops.set mover goal)[call]? = some .returned
      have other : mover ≠ call := by
        rintro rfl
        rw [returned] at stood
        cases stood
        cases step
      rw [List.getElem?_set_ne other, step.stops, returned]
  | finish ending runs =>
      simp only [finished]
      split
      · rw [List.getElem?_map, returned]
        rfl
      · exact returned

/-! ## The flag and the connections -/

/-- The flag is only ever set, and only by a shutdown. -/
theorem requested_iff_of_stepped (stepped : Stepped life action after) :
    after.requested = true ↔ life.requested = true ∨ ∃ stop, action = .request stop := by
  cases stepped with
  | serve => simp
  | stop => simp
  | serving there step => cases step <;> simp [move, counted, announced]
  | stopping there step => cases step <;> simp [moveStop]
  | finish ending runs => simp [finished]

/-- A step counts one more connection, or ends one, or leaves all of them alone. -/
inductive ConnectionsStep (life : Lifecycle) (action : Action) (after : Lifecycle) : Prop
  | count {call : Nat} (counts : action = .count call) (there : life.serves[call]? = some .counting)
      (active : after.active = life.active + 1)
      (connections : after.connections = life.connections ++ [none])
  | finish {connection : Nat} {ending : Ending} (finishes : action = .finish connection ending)
      (runs : life.connections[connection]? = some none) (active : after.active = life.active - 1)
      (connections : after.connections = life.connections.set connection (some ending))
  | same (uncounted : ∀ call, action ≠ .count call)
      (unfinished : ∀ connection ending, action ≠ .finish connection ending)
      (active : after.active = life.active) (connections : after.connections = life.connections)

theorem connections_of_stepped (stepped : Stepped life action after) :
    ConnectionsStep life action after := by
  cases stepped with
  | serve => exact .same (by simp) (by simp) rfl rfl
  | stop => exact .same (by simp) (by simp) rfl rfl
  | serving there step =>
      cases step with
      | count => exact .count rfl there rfl rfl
      | _ => exact .same (by simp) (by simp) rfl rfl
  | stopping there step => cases step <;> exact .same (by simp) (by simp) rfl rfl
  | finish ending runs => exact .finish rfl runs rfl rfl

end

/-! ## Many steps -/

/-- The steps that were possible. -/
def taken : Lifecycle → List Action → List Action
  | _, [] => []
  | life, action :: later =>
      match life.step action with
      | some after => action :: after.taken later
      | none => life.taken later

section

variable {life after : Lifecycle} {action : Action}

theorem run_append (life : Lifecycle) (early late : List Action) :
    life.run (early ++ late) = (life.run early).run late :=
  List.foldl_append

theorem run_cons_of_some (possible : life.step action = some after) (later : List Action) :
    life.run (action :: later) = after.run later := by
  simp only [run, List.foldl_cons, possible, Option.getD_some]

theorem run_cons_of_none (impossible : life.step action = none) (later : List Action) :
    life.run (action :: later) = life.run later := by
  simp only [run, List.foldl_cons, impossible, Option.getD_none]

theorem taken_cons_of_some (possible : life.step action = some after) (later : List Action) :
    life.taken (action :: later) = action :: after.taken later := by
  simp only [taken, possible]

theorem taken_cons_of_none (impossible : life.step action = none) (later : List Action) :
    life.taken (action :: later) = life.taken later := by
  simp only [taken, impossible]

/-- What every step keeps, a run keeps. -/
theorem run_keeps {kept : Lifecycle → Prop}
    (step : ∀ {life after action}, kept life → Stepped life action after → kept after)
    (start : kept life) (actions : List Action) : kept (life.run actions) := by
  induction actions generalizing life with
  | nil => exact start
  | cons action later ih =>
      cases possible : life.step action with
      | none =>
          rw [run_cons_of_none possible]
          exact ih start
      | some after =>
          rw [run_cons_of_some possible]
          exact ih (step start (stepped possible))

/-- What has come to hold has come to hold with some step. -/
theorem exists_becoming {holds : Lifecycle → Prop} {actions : List Action} (start : ¬holds life)
    (now : holds (life.run actions)) :
    ∃ early action late after, actions = early ++ action :: late ∧ ¬holds (life.run early) ∧
      Stepped (life.run early) action after ∧ holds after := by
  induction actions generalizing life with
  | nil => exact absurd now start
  | cons action later ih =>
      cases possible : life.step action with
      | none =>
          rw [run_cons_of_none possible] at now
          rcases ih start now with ⟨early, moment, late, after, rfl, before, step, becomes⟩
          refine ⟨action :: early, moment, late, after, rfl, ?_⟩
          rw [run_cons_of_none possible]
          exact ⟨before, step, becomes⟩
      | some next =>
          by_cases becomes : holds next
          · exact ⟨[], action, later, next, rfl, start, stepped possible, becomes⟩
          · rw [run_cons_of_some possible] at now
            rcases ih becomes now with ⟨early, moment, late, after, rfl, before, step, later⟩
            refine ⟨action :: early, moment, late, after, rfl, ?_⟩
            rw [run_cons_of_some possible]
            exact ⟨before, step, later⟩

/-- The flag is set if it was before or a shutdown has set it. -/
theorem requested_run_iff (life : Lifecycle) (actions : List Action) :
    (life.run actions).requested = true ↔
      life.requested = true ∨ ∃ stop, .request stop ∈ life.taken actions := by
  induction actions generalizing life with
  | nil => simp [run, taken]
  | cons action later ih =>
      cases possible : life.step action with
      | none => rw [run_cons_of_none possible, taken_cons_of_none possible, ih]
      | some after =>
          rw [run_cons_of_some possible, taken_cons_of_some possible, ih,
            requested_iff_of_stepped (stepped possible)]
          simp only [List.mem_cons, exists_or, or_assoc, eq_comm]

/-- Counting a connection. -/
def Action.counts : Action → Bool
  | .count _ => true
  | _ => false

/-- There are as many connections as were counted. -/
theorem length_connections_run (life : Lifecycle) (actions : List Action) :
    (life.run actions).connections.length =
      life.connections.length + (life.taken actions).countP Action.counts := by
  induction actions generalizing life with
  | nil => rfl
  | cons action later ih =>
      cases possible : life.step action with
      | none => rw [run_cons_of_none possible, taken_cons_of_none possible, ih]
      | some after =>
          rw [run_cons_of_some possible, taken_cons_of_some possible, ih, List.countP_cons]
          cases connections_of_stepped (stepped possible) with
          | count counts there active connections =>
              rw [connections, counts, List.length_append]
              simp only [List.length_singleton, Action.counts, if_true]
              omega
          | finish finishes runs active connections =>
              rw [connections, finishes, List.length_set]
              rfl
          | same uncounted unfinished active connections =>
              have other : action.counts = false := by
                cases action with
                | count call => exact absurd rfl (uncounted call)
                | _ => rfl
              rw [connections, other]
              rfl

theorem ended_iff_of_stepped (stepped : Stepped life action after) {connection : Nat}
    {ending : Ending} :
    after.connections[connection]? = some (some ending) ↔
      life.connections[connection]? = some (some ending) ∨ .finish connection ending = action := by
  cases connections_of_stepped stepped with
  | count counts there active connections =>
      rw [connections, counts]
      constructor
      · intro ended
        rcases eq_or_there_of_concat ended with ended | new
        · exact Or.inl ended
        · cases new
      · rintro (ended | finishes)
        · exact (List.getElem?_append_left (List.getElem?_eq_some_iff.mp ended).1).trans ended
        · cases finishes
  | @finish moved how finishes runs active connections =>
      rw [connections, finishes]
      constructor
      · intro ended
        rcases eq_or_there_of_set ended with ended | ⟨rfl, same⟩
        · exact Or.inl ended
        · cases same
          exact Or.inr rfl
      · rintro (ended | finishes)
        · have other : moved ≠ connection := by
            rintro rfl
            rw [runs] at ended
            cases ended
          rw [List.getElem?_set_ne other, ended]
        · cases finishes
          exact List.getElem?_set_self (List.getElem?_eq_some_iff.mp runs).1
  | same uncounted unfinished active connections =>
      rw [connections]
      refine ⟨Or.inl, ?_⟩
      rintro (ended | finishes)
      · exact ended
      · exact absurd finishes.symm (unfinished connection ending)

/-- A connection has ended in the way in which a step has ended it. -/
theorem ended_run_iff (life : Lifecycle) (actions : List Action) (connection : Nat)
    (ending : Ending) :
    (life.run actions).connections[connection]? = some (some ending) ↔
      life.connections[connection]? = some (some ending) ∨
      .finish connection ending ∈ life.taken actions := by
  induction actions generalizing life with
  | nil => simp [run, taken]
  | cons action later ih =>
      cases possible : life.step action with
      | none => rw [run_cons_of_none possible, taken_cons_of_none possible, ih]
      | some after =>
          rw [run_cons_of_some possible, taken_cons_of_some possible, ih, List.mem_cons, ← or_assoc]
          refine or_congr_left ?_
          exact ended_iff_of_stepped (stepped possible)

end

end Switchboard.Lifecycle
