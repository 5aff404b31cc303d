import Switchboard.Proofs.Server.Steps

/-!
# Shutting down is safe

The flag, the phase, the waker and the count of connections are accessed one at a time, so nothing
keeps another step from coming between two of them. What holds nevertheless is `Sound`. The phase
says whether a call serves, and there is only one. The count is that of the connections that have
not ended. And a shutdown that has found that nobody serves can rely on it: the flag was set before,
and whoever takes the phase later looks at the flag before it looks for connections. So nobody
accepts a connection any more, and once the count is at zero it stays there.

`Safe` says what follows for those who serve and shut down.
-/

namespace Switchboard.Lifecycle

/-- The call has found the flag not set, and may accept a connection because of that. -/
def Serving.accepts : Serving → Bool
  | .polling | .looking | .accepting | .counting | .spawning => true
  | _ => false

/-- The call has found the flag set, and is about to let its socket go because of that. -/
def Serving.closes : Serving → Bool
  | .closing => true
  | _ => false

/-- The call has found that no connection is left. -/
def Serving.succeeds : Serving → Bool
  | .leaving none | .announcing none | .returned none => true
  | _ => false

/-- The call has let its socket go because the flag was set. -/
def Serving.retires : Serving → Bool
  | .draining _ => true
  | place => place.succeeds

/-- The shutdown has found that nobody serves. -/
def Stopping.passes : Stopping → Bool
  | .draining _ | .returned => true
  | _ => false

/-- A call that serves is at one of some places. -/
def Stands (life : Lifecycle) (call : Nat) (places : Serving → Bool) : Prop :=
  ∃ place, life.serves[call]? = some place ∧ places place = true

/-- What holds of a server whatever the order of the steps. -/
structure Sound (life : Lifecycle) : Prop where
  active : life.active = life.connections.countP Option.isNone
  serving : life.serves.countP Serving.running = if life.phase = .serving then 1 else 0
  asked : ∀ {stop : Nat} {place : Stopping}, life.stops[stop]? = some place → place ≠ .entering →
    life.requested = true
  passed : ∀ {stop call : Nat} {found : Stopping} {place : Serving},
    life.stops[stop]? = some found →
    found.passes = true → life.serves[call]? = some place → place.accepts = false
  returned : ∀ {stop : Nat}, life.stops[stop]? = some .returned → life.active = 0
  closed : ∀ {call : Nat}, life.Stands call Serving.closes → life.requested = true

/-! ## One step -/

theorem countP_set_add {α : Type} (counted : α → Bool) {list : List α} {index : Nat} {old : α}
    (there : list[index]? = some old) (new : α) :
    (list.set index new).countP counted + (counted old).toNat =
      list.countP counted + (counted new).toNat := by
  rcases List.getElem?_eq_some_iff.mp there with ⟨within, same⟩
  have unit (flag : Bool) : (if flag = true then 1 else 0) = flag.toNat := by cases flag <;> rfl
  rw [List.countP_set within, same, unit, unit]
  cases counts : counted old with
  | false =>
      rw [Bool.toNat_false]
      omega
  | true =>
      have positive : 0 < list.countP counted :=
        List.countP_pos_iff.mpr ⟨old, List.mem_of_getElem? there, counts⟩
      rw [Bool.toNat_true]
      omega

theorem eq_of_countP_le_one {α : Type} {counted : α → Bool} {list : List α}
    (few : list.countP counted ≤ 1) {first second : Nat} {one other : α}
    (early : list[first]? = some one) (counts : counted one = true)
    (late : list[second]? = some other) (counts' : counted other = true) :
    first = second := by
  induction list generalizing first second with
  | nil => cases early
  | cons head rest ih =>
      rw [List.countP_cons] at few
      -- Two of them cannot be at different places, because the first place counts already.
      have alone {index : Nat} {value : α} (head_counts : counted head = true)
          (there : rest[index]? = some value) (value_counts : counted value = true) : False := by
        rw [if_pos head_counts] at few
        have positive : 0 < rest.countP counted :=
          List.countP_pos_iff.mpr ⟨value, List.mem_of_getElem? there, value_counts⟩
        omega
      rcases first with _ | first <;> rcases second with _ | second
      · rfl
      · cases early
        exact (alone counts late counts').elim
      · cases late
        exact (alone counts' early counts).elim
      · exact congrArg Nat.succ (ih (by omega) early late)

section

variable {life after shared : Lifecycle} {action : Action}

theorem active_step (active : life.active = life.connections.countP Option.isNone)
    (stepped : Stepped life action after) :
    after.active = after.connections.countP Option.isNone := by
  cases connections_of_stepped stepped with
  | count counts there counted connections =>
      rw [counted, connections, List.countP_append, active]
      rfl
  | @finish _ ending finishes runs counted connections =>
      have less := countP_set_add Option.isNone runs (some ending)
      simp only [Option.isNone_none, Option.isNone_some, Bool.toNat_true, Bool.toNat_false] at less
      rw [counted, connections, active]
      omega
  | same uncounted unfinished counted connections => rw [counted, connections, active]

/-- Taking the phase and giving it back are the only steps that have to do with it. -/
theorem ServeStep.running {call : Nat} {before place : Serving}
    (step : ServeStep life call action before place shared) :
    (place.running = before.running ∧ shared.phase = life.phase) ∨
      (before.running = false ∧ place.running = true ∧ life.phase ≠ .serving ∧
        shared.phase = .serving) ∨
      (before.running = true ∧ place.running = false ∧ shared.phase = .stopped) := by
  cases step with
  | enter free => exact Or.inr (Or.inl ⟨rfl, rfl, free, rfl⟩)
  | announce error => exact Or.inr (Or.inr ⟨rfl, rfl, rfl⟩)
  | poll readiness =>
      cases readiness <;> exact Or.inl ⟨rfl, rfl⟩
  | accept meeting =>
      cases meeting <;> exact Or.inl ⟨rfl, rfl⟩
  | _ => exact Or.inl ⟨rfl, rfl⟩

theorem countP_rouse (serves : List Serving) :
    (serves.map Serving.rouse).countP Serving.running = serves.countP Serving.running := by
  rw [List.countP_map]
  refine List.countP_congr fun place _ => ?_
  cases place <;> rfl

theorem serving_step
    (serving : life.serves.countP Serving.running = if life.phase = .serving then 1 else 0)
    (stepped : Stepped life action after) :
    after.serves.countP Serving.running = if after.phase = .serving then 1 else 0 := by
  cases stepped with
  | serve =>
      rw [List.countP_append, serving]
      rfl
  | stop => exact serving
  | @serving action call before place shared there step =>
      have counted := countP_set_add Serving.running there place
      change (shared.serves.set call place).countP Serving.running =
        if shared.phase = .serving then 1 else 0
      rw [step.serves]
      rcases step.running with ⟨same, phase⟩ | ⟨idle, runs, free, phase⟩ | ⟨runs, idle, phase⟩
      · rw [phase, ← serving]
        rw [same] at counted
        exact Nat.add_right_cancel counted
      · rw [idle, runs, serving, if_neg free] at counted
        rw [phase]
        simpa using counted
      · have positive : 0 < life.serves.countP Serving.running :=
          List.countP_pos_iff.mpr ⟨before, List.mem_of_getElem? there, runs⟩
        rw [idle, runs, Bool.toNat_true, Bool.toNat_false] at counted
        rw [phase, if_neg nofun]
        split at serving <;> omega
  | @stopping action call before place shared there step =>
      change shared.serves.countP Serving.running = if shared.phase = .serving then 1 else 0
      rw [step.serves, serving]
      cases step <;> rfl
  | finish ending runs =>
      simp only [finished]
      split
      · rw [countP_rouse]
        exact serving
      · exact serving

/-- A call is at a place of some kind after a step if it was before, or has just moved there.
Neither the beginning of a call nor being woken matters, as long as the kind does not depend on
them. -/
theorem stands_step {call : Nat} {place : Serving} {kind : Serving → Bool}
    (came : ServeCame life action call place) (holds : kind place = true)
    (entering : kind .entering = false)
    (rouse : ∀ before : Serving, kind before.rouse = true → kind before = true) :
    life.Stands call kind ∨
      ∃ before shared, life.serves[call]? = some before ∧
      ServeStep life call action before place shared := by
  cases came with
  | new start =>
      rw [start, entering] at holds
      cases holds
  | kept there => exact Or.inl ⟨place, there, holds⟩
  | roused there woken =>
      rw [woken] at holds
      exact Or.inl ⟨_, there, rouse _ holds⟩
  | moved there step => exact Or.inr ⟨_, _, there, step⟩

/-- Who may accept after a step could before, or has found the flag not set. -/
theorem accepts_step {call : Nat} {place : Serving} (came : ServeCame life action call place)
    (accepts : place.accepts = true) :
    life.Stands call Serving.accepts ∨ (life.requested = false ∧ action = .check call) := by
  rcases stands_step came accepts rfl (by rintro ⟨⟩ holds <;> exact holds) with
    stands | ⟨before, shared, there, step⟩
  · exact Or.inl stands
  · cases step with
    | proceed unasked => exact Or.inr ⟨unasked, rfl⟩
    | poll readiness => exact Or.inl ⟨_, there, rfl⟩
    | attempt unasked => exact Or.inl ⟨_, there, rfl⟩
    | accept meeting => exact Or.inl ⟨_, there, rfl⟩
    | count => exact Or.inl ⟨_, there, rfl⟩
    | spawn => exact Or.inl ⟨_, there, rfl⟩
    | _ => cases accepts

/-- A call finds that no connection is left after it has let its socket go. -/
theorem succeeds_step {call : Nat} {place : Serving} (came : ServeCame life action call place)
    (succeeds : place.succeeds = true) :
    life.Stands call Serving.succeeds ∨
      (action = .drain call ∧ life.serves[call]? = some (.draining false) ∧ life.active = 0) := by
  rcases stands_step came succeeds rfl (by rintro ⟨⟩ holds <;> exact holds) with
    stands | ⟨before, shared, there, step⟩
  · exact Or.inl stands
  · cases step with
    | leave empty => exact Or.inr ⟨rfl, there, empty⟩
    | clear error =>
        cases error with
        | none => exact Or.inl ⟨_, there, rfl⟩
        | some error => cases succeeds
    | announce error =>
        cases error with
        | none => exact Or.inl ⟨_, there, rfl⟩
        | some error => cases succeeds
    | poll readiness => cases readiness <;> cases succeeds
    | accept meeting => cases meeting <;> cases succeeds
    | _ => cases succeeds

theorem retires_step {call : Nat} {place : Serving} (came : ServeCame life action call place)
    (retires : place.retires = true) :
    life.Stands call Serving.retires ∨
      (action = .close call ∧ life.serves[call]? = some .closing) := by
  rcases stands_step came retires rfl (by rintro ⟨⟩ holds <;> exact holds) with
    stands | ⟨before, shared, there, step⟩
  · exact Or.inl stands
  · cases step with
    | close => exact Or.inr ⟨rfl, there⟩
    | leave empty => exact Or.inl ⟨_, there, rfl⟩
    | doze busy => exact Or.inl ⟨_, there, rfl⟩
    | startle => exact Or.inl ⟨_, there, rfl⟩
    | clear error =>
        cases error with
        | none => exact Or.inl ⟨_, there, rfl⟩
        | some error => cases retires
    | announce error =>
        cases error with
        | none => exact Or.inl ⟨_, there, rfl⟩
        | some error => cases retires
    | poll readiness => cases readiness <;> cases retires
    | accept meeting => cases meeting <;> cases retires
    | _ => cases retires

/-- A call is about to let its socket go only if the flag is set. -/
theorem closes_step {call : Nat} {place : Serving} (came : ServeCame life action call place)
    (closes : place.closes = true) : life.Stands call Serving.closes ∨ life.requested = true := by
  rcases stands_step came closes rfl (by rintro ⟨⟩ holds <;> exact holds) with
    stands | ⟨before, shared, there, step⟩
  · exact Or.inl stands
  · cases step with
    | retire asked => exact Or.inr asked
    | poll readiness => cases readiness <;> cases closes
    | accept meeting => cases meeting <;> cases closes
    | _ => cases closes

/-- A shutdown that has found that nobody serves has found it before, or just now. -/
theorem passes_step {stop : Nat} {found : Stopping} (came : StopCame life action stop found)
    (passes : found.passes = true) :
    (∃ before, life.stops[stop]? = some before ∧ before.passes = true) ∨
      (life.phase ≠ .serving ∧ life.stops[stop]? = some (.awaiting false) ∧
        action = .observe stop) := by
  cases came with
  | new start =>
      rw [start] at passes
      cases passes
  | kept there => exact Or.inl ⟨found, there, passes⟩
  | @roused before there woken =>
      refine Or.inl ⟨before, there, ?_⟩
      rcases woken with woken | woken
      · rw [woken] at passes
        cases before with
        | awaiting asleep => cases passes
        | _ => exact passes
      · rw [woken] at passes
        cases before with
        | draining asleep => rfl
        | _ => exact passes
  | @moved before shared there step =>
      cases step with
      | pass free => exact Or.inr ⟨free, there, rfl⟩
      | doze busy => exact Or.inl ⟨_, there, rfl⟩
      | leave empty => exact Or.inl ⟨_, there, rfl⟩
      | startleDraining => exact Or.inl ⟨_, there, rfl⟩
      | _ => cases passes

/-- A shutdown that has returned had done so before, or has just found that no connection is
left. -/
theorem returns_step {stop : Nat} (came : StopCame life action stop .returned) :
    life.stops[stop]? = some .returned ∨ (life.active = 0 ∧ action = .await stop) := by
  cases came with
  | new start => cases start
  | kept there => exact Or.inl there
  | @roused before there woken =>
      cases before with
      | returned => exact Or.inl there
      | _ => rcases woken with woken | woken <;> cases woken
  | moved there step =>
      cases step with
      | leave empty => exact Or.inr ⟨empty, rfl⟩

end

/-! ## Every step keeps it -/

theorem sound_fresh : Sound fresh where
  active := rfl
  serving := rfl
  asked := by simp [fresh]
  passed := by simp [fresh]
  returned := by simp [fresh]
  closed := by simp [Stands, fresh]

namespace Sound

variable {life after : Lifecycle} {action : Action}

theorem asked_step (sound : Sound life) (stepped : Stepped life action after) {stop : Nat}
    {place : Stopping} (there : after.stops[stop]? = some place) (begun : place ≠ .entering) :
    after.requested = true := by
  rw [requested_iff_of_stepped stepped]
  cases stop_came stepped there with
  | new start => exact absurd start begun
  | kept there => exact Or.inl (sound.asked there begun)
  | @roused before there woken =>
      refine Or.inl (sound.asked there ?_)
      rintro rfl
      rcases woken with woken | woken
      · exact begun woken
      · exact begun woken
  | @moved before shared stood step =>
      cases step with
      | request => exact Or.inr ⟨stop, rfl⟩
      | _ => exact Or.inl (sound.asked stood nofun)

theorem passed_step (sound : Sound life) (stepped : Stepped life action after) {stop call : Nat}
    {found : Stopping} {place : Serving} (there : after.stops[stop]? = some found)
    (passes : found.passes = true) (stands : after.serves[call]? = some place) :
    place.accepts = false := by
  rcases Bool.eq_false_or_eq_true place.accepts with accepting | idle
  · exfalso
    rcases accepts_step (serve_came stepped stands) accepting with
      ⟨earlier, stood, accepts⟩ | ⟨unasked, checks⟩
    · rcases passes_step (stop_came stepped there) passes with
        ⟨before, was, passed⟩ | ⟨free, was, observes⟩
      · rw [sound.passed was passed stood] at accepts
        cases accepts
      · -- Nobody serves, so nobody can accept.
        have nobody := sound.serving
        rw [if_neg free, List.countP_eq_zero] at nobody
        refine nobody earlier (List.mem_of_getElem? stood) ?_
        cases earlier <;> first | rfl | cases accepts
    · -- The flag has been set by the time a shutdown passes.
      rcases passes_step (stop_came stepped there) passes with
        ⟨before, was, passed⟩ | ⟨free, was, observes⟩
      · have asked := sound.asked was (by rintro rfl; cases passed)
        rw [unasked] at asked
        cases asked
      · rw [checks] at observes
        cases observes
  · exact idle

theorem returned_step (sound : Sound life) (stepped : Stepped life action after) {stop : Nat}
    (there : after.stops[stop]? = some .returned) : after.active = 0 := by
  rcases returns_step (stop_came stepped there) with returned | ⟨empty, awaits⟩
  · have empty := sound.returned returned
    cases connections_of_stepped stepped with
    | count counts stood active connections =>
        have idle := sound.passed returned rfl stood
        cases idle
    | finish finishes runs active connections => rw [active, empty]
    | same uncounted unfinished active connections => rw [active, empty]
  · cases connections_of_stepped stepped with
    | count counts stood active connections =>
        rw [awaits] at counts
        cases counts
    | finish finishes runs active connections => rw [active, empty]
    | same uncounted unfinished active connections => rw [active, empty]

theorem step (sound : Sound life) (stepped : Stepped life action after) : Sound after where
  active := active_step sound.active stepped
  serving := serving_step sound.serving stepped
  asked := sound.asked_step stepped
  passed := sound.passed_step stepped
  returned := sound.returned_step stepped
  closed := by
    rintro call ⟨place, there, closes⟩
    rw [requested_iff_of_stepped stepped]
    rcases closes_step (serve_came stepped there) closes with stands | asked
    · exact Or.inl (sound.closed stands)
    · exact Or.inl asked

theorem run (actions : List Action) : Sound (fresh.run actions) :=
  run_keeps (fun sound stepped => sound.step stepped) sound_fresh actions

/-! ## Who serves -/

theorem serves_single (sound : Sound life) {first second : Nat}
    (early : life.Stands first Serving.running) (late : life.Stands second Serving.running) :
    first = second := by
  rcases early with ⟨place, there, runs⟩
  rcases late with ⟨other, stands, serves⟩
  refine eq_of_countP_le_one ?_ there runs stands serves
  rw [sound.serving]
  split <;> omega

theorem phase_of_serves (sound : Sound life) {call : Nat}
    (serves : life.Stands call Serving.running) :
    life.phase = .serving := by
  rcases serves with ⟨place, there, runs⟩
  have positive : 0 < life.serves.countP Serving.running :=
    List.countP_pos_iff.mpr ⟨place, List.mem_of_getElem? there, runs⟩
  have counted := sound.serving
  split at counted
  · assumption
  · omega

theorem phase_of_nobody (sound : Sound life) (nobody : ∀ call, ¬life.Stands call Serving.running) :
    life.phase ≠ .serving := by
  intro busy
  have counted := sound.serving
  rw [if_pos busy] at counted
  rcases List.countP_pos_iff.mp (Nat.lt_of_lt_of_eq Nat.zero_lt_one counted.symm) with
    ⟨place, member, runs⟩
  rcases List.mem_iff_getElem?.mp member with ⟨call, there⟩
  exact nobody call ⟨place, there, runs⟩

/-- No connection runs if none is counted. -/
theorem not_running_of_empty (sound : Sound life) (empty : life.active = 0) (connection : Nat) :
    life.connections[connection]? ≠ some none := by
  intro runs
  have none := sound.active.symm.trans empty
  rw [List.countP_eq_zero] at none
  exact none Option.none (List.mem_of_getElem? runs) rfl

/-! ## After a shutdown -/

/-- Once a shutdown has returned, the connections stay as they are. -/
theorem connections_step_of_returned (sound : Sound life) (stepped : Stepped life action after)
    {stop : Nat} (returned : life.stops[stop]? = some .returned) :
    after.connections = life.connections := by
  cases connections_of_stepped stepped with
  | count counts there active connections =>
      have idle := sound.passed returned rfl there
      cases idle
  | finish finishes runs active connections =>
      exact absurd runs (sound.not_running_of_empty (sound.returned returned) _)
  | same uncounted unfinished active connections => exact connections

theorem run_of_returned (sound : Sound life) {stop : Nat}
    (returned : life.stops[stop]? = some .returned) (actions : List Action) :
    Sound (life.run actions) ∧ (life.run actions).stops[stop]? = some .returned ∧
      (life.run actions).connections = life.connections := by
  refine @run_keeps life (fun later => Sound later ∧ later.stops[stop]? = some .returned ∧
    later.connections = life.connections) ?_ ⟨sound, returned, rfl⟩ actions
  rintro before after action ⟨sound, returned, same⟩ stepped
  exact ⟨sound.step stepped, stop_over stepped returned,
    (sound.connections_step_of_returned stepped returned).trans same⟩

end Sound

/-! ## Serving to the end -/

/-- A call that has come to a place of a kind has come there with a step. -/
theorem exists_arriving {actions : List Action} {call : Nat} {places : Serving → Bool}
    (stands : (fresh.run actions).Stands call places) :
    ∃ early action late place, actions = early ++ action :: late ∧
      ¬(fresh.run early).Stands call places ∧
      ServeCame (fresh.run early) action call place ∧ places place = true := by
  have nowhere : ¬fresh.Stands call places := by
    rintro ⟨place, there, _⟩
    cases there
  rcases @exists_becoming fresh (fun life => life.Stands call places) actions nowhere stands with
    ⟨early, action, late, after, split, before, stepped, place, there, kind⟩
  exact ⟨early, action, late, place, split, before, serve_came stepped there, kind⟩

/-- A call succeeds by finding that no connection is left. -/
theorem exists_drain {actions : List Action} {call : Nat}
    (succeeds : (fresh.run actions).Stands call Serving.succeeds) :
    ∃ early late, actions = early ++ .drain call :: late ∧
      (fresh.run early).serves[call]? = some (.draining false) ∧ (fresh.run early).active = 0 := by
  rcases exists_arriving succeeds with ⟨early, action, late, place, rfl, before, came, kind⟩
  rcases succeeds_step came kind with stands | ⟨rfl, there, empty⟩
  · exact absurd stands before
  · exact ⟨early, late, rfl, there, empty⟩

theorem exists_close {actions : List Action} {call : Nat}
    (retires : (fresh.run actions).Stands call Serving.retires) :
    ∃ early late, actions = early ++ .close call :: late ∧
      (fresh.run early).serves[call]? = some .closing := by
  rcases exists_arriving retires with ⟨early, action, late, place, rfl, before, came, kind⟩
  rcases retires_step came kind with stands | ⟨rfl, there⟩
  · exact absurd stands before
  · exact ⟨early, late, rfl, there⟩

theorem requested_of_closing {actions : List Action} {call : Nat}
    (closing : (fresh.run actions).serves[call]? = some .closing) :
    ∃ stop, .request stop ∈ fresh.taken actions := by
  have requested := (Sound.run actions).closed ⟨_, closing, rfl⟩
  rw [requested_run_iff] at requested
  rcases requested with never | asked
  · cases never
  · exact asked

/-! ## What can be done next -/

theorem serves_move {life : Lifecycle} {call : Nat} {before : Serving}
    (there : life.serves[call]? = some before) (place : Serving) :
    (life.move call place).serves[call]? = some place :=
  List.getElem?_set_self (List.getElem?_eq_some_iff.mp there).1

namespace Sound

variable {life : Lifecycle}

/-- Nobody can take the phase while somebody serves. -/
theorem enter_of_busy (sound : Sound life) {call other : Nat}
    (enters : life.serves[call]? = some .entering) (serves : life.Stands other Serving.running) :
    life.step (.enter call) = some (life.move call (.returned (some alreadyServing))) := by
  simp only [Lifecycle.step, whenAt, if_pos enters, if_pos (sound.phase_of_serves serves)]

theorem enter_of_nobody (sound : Sound life) {call : Nat}
    (enters : life.serves[call]? = some .entering)
    (nobody : ∀ call, ¬life.Stands call Serving.running) :
    life.step (.enter call) = some { life.move call .preparing with phase := .serving } := by
  simp only [Lifecycle.step, whenAt, if_pos enters, if_neg (sound.phase_of_nobody nobody)]

theorem whenAt_of_returned (sound : Sound life) {stop : Nat}
    (returned : life.stops[stop]? = some .returned) {place : Serving}
    (accepts : place.accepts = true) (call : Nat) (next : Lifecycle) :
    life.whenAt call place next = none := by
  refine if_neg fun there => ?_
  rw [sound.passed returned rfl there] at accepts
  cases accepts

/-- Whoever shuts down waits for every connection that runs. -/
theorem finish_of_returned {connection stop : Nat} {actions : List Action}
    (sound : Sound (life.run actions)) (runs : life.connections[connection]? = some none)
    (returned : (life.run actions).stops[stop]? = some .returned) :
    ∃ ending, .finish connection ending ∈ life.taken actions := by
  have within : connection < (life.run actions).connections.length := by
    rw [length_connections_run]
    exact Nat.lt_add_right _ (List.getElem?_eq_some_iff.mp runs).1
  cases left : (life.run actions).connections[connection]? with
  | none => exact absurd (List.getElem?_eq_none_iff.mp left) (Nat.not_le.mpr within)
  | some state =>
      cases state with
      | none => exact absurd left (sound.not_running_of_empty (sound.returned returned) connection)
      | some ending =>
          rcases (ended_run_iff life actions connection ending).mp left with before | finishes
          · rw [runs] at before
            cases before
          · exact ⟨ending, finishes⟩

/-- When there is nothing to wait for, a shutdown does not wait. -/
theorem prompt (sound : Sound life) (nobody : ∀ call, ¬life.Stands call Serving.running)
    (empty : life.active = 0) :
    (life.run (ask life.stops.length ++ conclude life.stops.length)).stops[life.stops.length]? =
      some .returned := by
  have free := sound.phase_of_nobody nobody
  simp [Lifecycle.run, ask, conclude, Lifecycle.step, whenStopAt, moveStop, free, empty]

end Sound

/-! ## Safety -/

/-- What somebody who serves or shuts down can rely on, after some actions of which only those have
happened that were possible. -/
structure Safe (actions : List Action) (life : Lifecycle) : Prop where
  /-- The count is that of the connections that have not ended. -/
  active : life.active = life.connections.countP Option.isNone
  counted : life.connections.length = (fresh.taken actions).countP Action.counts
  ended_iff : ∀ connection ending,
    life.connections[connection]? = some (some ending) ↔
      .finish connection ending ∈ fresh.taken actions
  /-- Only one call serves at a time. -/
  single : ∀ first second, life.Stands first Serving.running → life.Stands second Serving.running →
    first = second
  /-- Another one is refused and changes nothing. -/
  refused : ∀ call other, life.serves[call]? = some .entering → life.Stands other Serving.running →
    ∃ fault after, life.step (.enter call) = some after ∧ fault.kind = .alreadyExists ∧
      after.serves[call]? = some (.returned (some (.io fault))) ∧ after.phase = life.phase ∧
      after.waker = life.waker
  /-- Once a shutdown has returned, no connection is left and none is accepted any more. -/
  settled : ∀ stop : Nat, life.stops[stop]? = some .returned → ∀ later,
    (life.run later).active = 0 ∧ (life.run later).connections = life.connections ∧
      ∀ call, (∀ meeting, (life.run later).step (.accept call meeting) = none) ∧
        (life.run later).step (.count call) = none ∧ (life.run later).step (.spawn call) = none
  /-- A call serves to the end only if it is asked to stop, lets its socket go and then finds no
  connection left. -/
  completed : ∀ call, life.serves[call]? = some (.returned none) →
    ∃ early middle late, actions = early ++ .close call :: (middle ++ .drain call :: late) ∧
      (∃ stop, .request stop ∈ fresh.taken early) ∧
      (fresh.run early).serves[call]? = some .closing ∧
      (fresh.run (early ++ .close call :: middle)).serves[call]? = some (.draining false) ∧
      (fresh.run (early ++ .close call :: middle)).active = 0
  /-- A call that has ended with an error does not serve any more, but its connections are waited
  for. -/
  failed : ∀ call error, life.serves[call]? = some (.returned (some error)) →
    ¬life.Stands call Serving.running ∧
      ∀ (connection stop : Nat) (later : List Action), life.connections[connection]? = some none →
        (life.run later).stops[stop]? = some .returned →
        ∃ ending, .finish connection ending ∈ life.taken later
  /-- When nobody serves, somebody else can. -/
  free : (∀ call, ¬life.Stands call Serving.running) → ∀ call, life.serves[call]? = some .entering →
    ∃ after, life.step (.enter call) = some after ∧ after.serves[call]? = some .preparing ∧
      after.phase = .serving
  /-- When nobody serves and no connection is left, a shutdown returns at once. -/
  prompt : (∀ call, ¬life.Stands call Serving.running) → life.active = 0 →
    (life.run (ask life.stops.length ++ conclude life.stops.length)).stops[life.stops.length]? =
      some .returned

theorem shutdown_is_safe (actions : List Action) : Safe actions (fresh.run actions) := by
  have sound := Sound.run actions
  constructor
  case active => exact sound.active
  case counted =>
    rw [length_connections_run]
    exact Nat.zero_add _
  case ended_iff =>
    intro connection ending
    rw [ended_run_iff]
    simp [fresh]
  case single =>
    intro first second early late
    exact sound.serves_single early late
  case refused =>
    intro call other enters serves
    exact ⟨_, _, sound.enter_of_busy enters serves, rfl, serves_move enters _, rfl, rfl⟩
  case settled =>
    intro stop returned later
    rcases sound.run_of_returned returned later with ⟨after, still, same⟩
    refine ⟨after.returned still, same, fun call => ⟨fun meeting => ?_, ?_, ?_⟩⟩
    · exact after.whenAt_of_returned still rfl call _
    · exact after.whenAt_of_returned still rfl call _
    · exact after.whenAt_of_returned still rfl call _
  case completed =>
    intro call returned
    rcases exists_drain ⟨_, returned, rfl⟩ with ⟨past, late, rfl, drains, empty⟩
    rcases exists_close ⟨_, drains, rfl⟩ with ⟨early, middle, rfl, closing⟩
    refine ⟨early, middle, late, ?_, requested_of_closing closing, closing, drains, empty⟩
    simp
  case failed =>
    intro call error returned
    constructor
    · rintro ⟨place, there, runs⟩
      rw [returned] at there
      cases there
      cases runs
    · intro connection stop later runs gone
      have after : Sound ((fresh.run actions).run later) := by
        rw [← run_append]
        exact Sound.run _
      exact after.finish_of_returned runs gone
  case free =>
    intro nobody call enters
    exact ⟨_, sound.enter_of_nobody enters nobody, serves_move enters _, rfl⟩
  case prompt =>
    intro nobody empty
    exact sound.prompt nobody empty

end Switchboard.Lifecycle
