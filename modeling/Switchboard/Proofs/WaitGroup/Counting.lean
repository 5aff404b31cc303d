import Mathlib.Data.List.Induction
import Switchboard.WaitGroup

/-!
# What a group counts

Which guards there are can be read off the steps that were done: the guard of a name is outstanding
in a group if some step made it through a handle of that group and no step since then has ended it
(`Outstanding`). Whatever the order of the steps, the count of a group is the number of these names
(`counts_run`).

A step that makes a guard of a name that is in use makes the new guard first and then ends the old
one. With names that are used only once, every step is a single one under the lock.

`Stepped` lists what a step can make of a group. `Sound` is what holds of all groups after any
number of steps; that nobody is asleep where there is nothing to wait for is kept together with the
count (`WaitGroup.Counts`).
-/

namespace Switchboard

/-- So many names have a property. -/
def IsCount (holds : String → Prop) (count : Nat) : Prop :=
  ∃ names : List String, names.Nodup ∧ (∀ name, name ∈ names ↔ holds name) ∧ count = names.length

namespace IsCount

variable {holds other : String → Prop} {count : Nat} {name : String}

theorem none (nobody : ∀ name, ¬holds name) : IsCount holds 0 :=
  ⟨[], List.nodup_nil, fun name => by simp [nobody name], rfl⟩

theorem congr (counts : IsCount holds count) (same : ∀ name, other name ↔ holds name) :
    IsCount other count := by
  rcases counts with ⟨names, distinct, mem, length⟩
  exact ⟨names, distinct, fun name => (mem name).trans (same name).symm, length⟩

theorem insert (counts : IsCount holds count) (fresh : ¬holds name)
    (added : ∀ later, other later ↔ later = name ∨ holds later) : IsCount other (count + 1) := by
  rcases counts with ⟨names, distinct, mem, rfl⟩
  refine ⟨name :: names, ?_, fun later => ?_, rfl⟩
  · exact List.nodup_cons.mpr ⟨fun there => fresh ((mem name).mp there), distinct⟩
  · rw [List.mem_cons, mem, added]

theorem pos (counts : IsCount holds count) (there : holds name) : 0 < count := by
  rcases counts with ⟨names, _, mem, rfl⟩
  exact List.length_pos_of_mem ((mem name).mpr there)

theorem remove (counts : IsCount holds count) (there : holds name)
    (removed : ∀ later, other later ↔ holds later ∧ later ≠ name) : IsCount other (count - 1) := by
  rcases counts with ⟨names, distinct, mem, rfl⟩
  refine ⟨names.erase name, distinct.erase name, fun later => ?_, ?_⟩
  · rw [distinct.mem_erase_iff, mem, removed, and_comm]
  · rw [List.length_erase_of_mem ((mem name).mpr there)]

end IsCount

namespace WaitGroup

theorem Phase.rouse_ne_asleep (phase : Phase) : phase.rouse ≠ .asleep := by
  intro asleep
  cases phase with
  | asleep => cases asleep
  | woken => cases asleep
  | returned seen => cases asleep

/-- Only waking up leads out of sleep, and only looking at the count leads further. -/
theorem Phase.rouse_eq_returned {phase : Phase} {seen : Nat} (went : phase.rouse = .returned seen) :
    phase = .returned seen := by
  cases phase with
  | asleep => cases went
  | woken => cases went
  | returned seen => exact went

theorem Phase.again_cases (next phase : Phase) :
    Phase.again next phase = phase ∨ phase = .woken ∧ Phase.again next phase = next := by
  cases phase with
  | asleep => exact Or.inl rfl
  | woken => exact Or.inr ⟨rfl, rfl⟩
  | returned seen => exact Or.inl rfl

theorem look_of_zero {group : WaitGroup} (empty : group.count = 0) : group.look = .returned 0 := by
  rw [look, if_pos empty, empty]

theorem look_eq_returned {group : WaitGroup} {seen : Nat} (went : group.look = .returned seen) :
    group.count = 0 := by
  unfold look at went
  split at went
  · assumption
  · cases went

/-- The group counts the names that have a property, and if there are none, then nobody is
asleep. -/
structure Counts (group : WaitGroup) (holds : String → Prop) : Prop where
  count : IsCount holds group.count
  awake : group.count = 0 → .asleep ∉ group.waiters

namespace Counts

variable {group : WaitGroup} {holds other : String → Prop} {name : String}

theorem empty (nobody : ∀ name, ¬holds name) : WaitGroup.empty.Counts holds :=
  ⟨.none nobody, fun _ => List.not_mem_nil⟩

theorem congr (counts : group.Counts holds) (same : ∀ name, other name ↔ holds name) :
    group.Counts other :=
  ⟨counts.count.congr same, counts.awake⟩

theorem add (counts : group.Counts holds) (fresh : ¬holds name)
    (added : ∀ later, other later ↔ later = name ∨ holds later) : group.add.Counts other :=
  ⟨counts.count.insert fresh added, fun empty => absurd empty (Nat.succ_ne_zero _)⟩

/-- The last guard wakes everybody. -/
theorem drop (counts : group.Counts holds) (there : holds name)
    (removed : ∀ later, other later ↔ holds later ∧ later ≠ name) : group.drop.Counts other where
  count := counts.count.remove there removed
  awake := by
    intro empty
    have last : group.count - 1 = 0 := empty
    simp only [WaitGroup.drop, if_pos last, List.mem_map, not_exists, not_and]
    exact fun phase _ => phase.rouse_ne_asleep

/-- A guard that takes the place of another one wakes nobody, and nobody needs to be woken. -/
theorem renew (counts : group.Counts holds) (there : holds name) : group.add.drop.Counts holds where
  count := counts.count
  awake := fun empty => absurd empty (Nat.pos_iff_ne_zero.mp (counts.count.pos there))

theorem wait (counts : group.Counts holds) : group.wait.Counts holds where
  count := counts.count
  awake := by
    intro (empty : group.count = 0)
    simp only [WaitGroup.wait, look_of_zero empty, List.mem_append, List.mem_singleton, not_or]
    exact ⟨counts.awake empty, fun asleep => by cases asleep⟩

/-- A waiter may change as long as it does not fall asleep where nothing is left to wait for. -/
theorem modify (counts : group.Counts holds) (waiter : Nat) {change : Phase → Phase}
    (awake : group.count = 0 → ∀ phase, change phase = .asleep → phase = .asleep) :
    { group with waiters := group.waiters.modify waiter change }.Counts holds where
  count := counts.count
  awake := by
    intro (empty : group.count = 0) mem
    rcases List.mem_iff_getElem?.mp mem with ⟨index, here⟩
    rw [List.getElem?_modify] at here
    rcases Option.map_eq_some_iff.mp here with ⟨phase, there, asleep⟩
    have before := List.mem_of_getElem? there
    split at asleep
    · exact counts.awake empty (awake empty phase asleep ▸ before)
    · exact counts.awake empty (asleep ▸ before)

theorem resume (counts : group.Counts holds) (waiter : Nat) :
    (group.resume waiter).Counts holds := by
  refine counts.modify waiter fun empty phase asleep => ?_
  rcases Phase.again_cases group.look phase with same | ⟨_, went⟩
  · rwa [same] at asleep
  · rw [went, look_of_zero empty] at asleep
    cases asleep

theorem startle (counts : group.Counts holds) (waiter : Nat) :
    (group.startle waiter).Counts holds :=
  counts.modify waiter fun _ phase asleep => absurd asleep phase.rouse_ne_asleep

end Counts

end WaitGroup

namespace Groups

/-! ## Guards -/

/-- The guard that a step is about. -/
def Step.guard? : Step → Option String
  | .add _ guard => some guard
  | .drop guard => some guard
  | _ => none

/-- The step makes a guard of this name through a handle of the group. -/
def Step.Makes (groups : Groups) (name : String) (number : Nat) (step : Step) : Prop :=
  ∃ handle, step = .add handle name ∧ groups.handles[handle]? = some number

/-- After the step there is no guard any more that had this name before: it was dropped, or
replaced. -/
def Step.Ends (groups : Groups) (name : String) (step : Step) : Prop :=
  step = .drop name ∨ ∃ number, step.Makes groups name number

variable {groups : Groups} {name : String} {number : Nat} {group after : WaitGroup} {step : Step}

theorem Step.Makes.ends (makes : step.Makes groups name number) : step.Ends groups name :=
  Or.inr ⟨number, makes⟩

theorem Step.Ends.guard?_eq (ends : step.Ends groups name) : step.guard? = some name := by
  rcases ends with rfl | ⟨number, handle, rfl, _⟩
  · rfl
  · rfl

theorem Step.Ends.unique {later : String} (ends : step.Ends groups name)
    (again : step.Ends groups later) :
    name = later :=
  Option.some.inj (ends.guard?_eq.symm.trans again.guard?_eq)

theorem Step.Makes.unique {other : Nat} {later : String} (makes : step.Makes groups name number)
    (again : step.Makes groups later other) : name = later ∧ number = other := by
  refine ⟨makes.ends.unique again.ends, ?_⟩
  rcases makes with ⟨handle, rfl, through⟩
  rcases again with ⟨handle, same, there⟩
  cases same
  exact Option.some.inj (through.symm.trans there)

theorem not_ends_of_guardless (guardless : step.guard? = none) (name : String) :
    ¬step.Ends groups name := by
  intro ends
  rw [ends.guard?_eq] at guardless
  cases guardless

theorem not_makes_of_guardless (guardless : step.guard? = none) (name : String) (number : Nat) :
    ¬step.Makes groups name number :=
  fun makes => not_ends_of_guardless guardless name makes.ends

/-- Nothing is made through a handle that there is not. -/
theorem not_ends_of_no_handle {handle : Nat} {guard : String}
    (nowhere : groups.handles[handle]? = none) (name : String) :
    ¬(Step.add handle guard).Ends groups name := by
  rintro (same | ⟨number, other, same, through⟩)
  · cases same
  · cases same
    rw [nowhere] at through
    cases through

/-- Dropping a guard leaves the guards of other names. -/
theorem mem_guards_dropGuard (groups : Groups) (name later : String) (number : Nat) :
    (later, number) ∈ (groups.dropGuard name).guards ↔
      (later, number) ∈ groups.guards ∧ later ≠ name := by
  unfold dropGuard
  split
  · next absent =>
    have others := List.lookup_eq_none_iff.mp absent
    refine ⟨fun mem => ⟨mem, ?_⟩, And.left⟩
    rintro rfl
    simpa using others _ mem
  · simp [onGroup]

theorem addGuard_of_handle {handle : Nat} (through : groups.handles[handle]? = some number)
    (name : String) :
    groups.addGuard handle name =
      { (groups.onGroup number WaitGroup.add).dropGuard name with
        guards :=
          (name, number) :: ((groups.onGroup number WaitGroup.add).dropGuard name).guards } := by
  simp only [addGuard, through]

theorem addGuard_of_no_handle {handle : Nat} (nowhere : groups.handles[handle]? = none)
    (name : String) :
    groups.addGuard handle name = groups := by
  simp only [addGuard, nowhere]

theorem guards_onHandle (groups : Groups) (handle : Nat) (change : WaitGroup → WaitGroup) :
    (groups.onHandle handle change).guards = groups.guards := by
  unfold onHandle
  split <;> rfl

theorem guards_of_guardless (guardless : step.guard? = none) :
    (groups.step step).guards = groups.guards := by
  cases step with
  | add handle guard => cases guardless
  | drop guard => cases guardless
  | clone handle =>
      simp only [Groups.step]
      split <;> rfl
  | create => rfl
  | wait handle => exact guards_onHandle groups handle _
  | resume handle waiter => exact guards_onHandle groups handle _
  | startle handle waiter => exact guards_onHandle groups handle _

/-- Through a handle of a group a guard of that group is made, and of no other one. -/
theorem makes_add_iff {handle other : Nat} {guard : String}
    (through : groups.handles[handle]? = some other) :
    (Step.add handle guard).Makes groups name number ↔ name = guard ∧ number = other := by
  constructor
  · exact fun makes => makes.unique ⟨handle, rfl, through⟩
  · rintro ⟨rfl, rfl⟩
    exact ⟨handle, rfl, through⟩

theorem ends_add_iff {handle other : Nat} {guard : String}
    (through : groups.handles[handle]? = some other) :
    (Step.add handle guard).Ends groups name ↔ name = guard := by
  constructor
  · exact fun ends => (Option.some.inj ends.guard?_eq).symm
  · rintro rfl
    exact Or.inr ⟨other, handle, rfl, through⟩

theorem ends_drop_iff {guard : String} : (Step.drop guard).Ends groups name ↔ name = guard := by
  constructor
  · exact fun ends => (Option.some.inj ends.guard?_eq).symm
  · rintro rfl
    exact Or.inl rfl

theorem not_makes_drop (guard name : String) (number : Nat) :
    ¬(Step.drop guard).Makes groups name number := by
  rintro ⟨handle, same, _⟩
  cases same

/-- A step that is about no guard leaves the guards that there are. -/
theorem kept_of_guardless (guardless : step.guard? = none) :
    (step.Makes groups name number ∨ (name, number) ∈ groups.guards ∧ ¬step.Ends groups name) ↔
      (name, number) ∈ groups.guards := by
  simp only [not_makes_of_guardless guardless, not_ends_of_guardless guardless, false_or,
    not_false_eq_true, and_true]

theorem mem_guards_of_guardless (guardless : step.guard? = none) :
    (name, number) ∈ (groups.step step).guards ↔
      step.Makes groups name number ∨ (name, number) ∈ groups.guards ∧ ¬step.Ends groups name := by
  rw [guards_of_guardless guardless, kept_of_guardless guardless]

/-- After a step there is the guard that it has made, and each one that it has not ended. -/
theorem mem_guards_step (groups : Groups) (step : Step) (name : String) (number : Nat) :
    (name, number) ∈ (groups.step step).guards ↔
      step.Makes groups name number ∨ (name, number) ∈ groups.guards ∧ ¬step.Ends groups name := by
  cases step with
  | add handle guard =>
      cases through : groups.handles[handle]? with
      | none =>
          have idle : ¬(Step.add handle guard).Ends groups name :=
            not_ends_of_no_handle through name
          rw [Groups.step, addGuard_of_no_handle through]
          exact ⟨fun mem => Or.inr ⟨mem, idle⟩,
            fun after => after.elim (fun makes => absurd makes.ends idle) And.left⟩
      | some other =>
          have kept : (groups.onGroup other WaitGroup.add).guards = groups.guards := rfl
          rw [makes_add_iff through, ends_add_iff through, Groups.step, addGuard_of_handle through]
          simp only [List.mem_cons, mem_guards_dropGuard, kept, Prod.mk.injEq, ne_eq]
  | drop guard =>
      simp only [Groups.step, mem_guards_dropGuard, ends_drop_iff, not_makes_drop, false_or, ne_eq]
  | clone handle => exact mem_guards_of_guardless rfl
  | create => exact mem_guards_of_guardless rfl
  | wait handle => exact mem_guards_of_guardless rfl
  | resume handle waiter => exact mem_guards_of_guardless rfl
  | startle handle waiter => exact mem_guards_of_guardless rfl

/-! ## What a step does to a group -/

/-- A step, and what it has made of one of the groups. -/
inductive Stepped (groups : Groups) (number : Nat) (group : WaitGroup) : Step → WaitGroup → Prop
  | apart {step : Step} (unmade : ∀ name, ¬step.Makes groups name number)
      (kept : ∀ name, (name, number) ∈ groups.guards → ¬step.Ends groups name) :
      Stepped groups number group step group
  | added {step : Step} {name : String} (makes : step.Makes groups name number)
      (fresh : (name, number) ∉ groups.guards) : Stepped groups number group step group.add
  /-- The old guard of the name goes after the new one has come, so the count does not reach zero in
  between. -/
  | replaced {step : Step} {name : String} (makes : step.Makes groups name number)
      (old : (name, number) ∈ groups.guards) : Stepped groups number group step group.add.drop
  | dropped {step : Step} {name : String} (unmade : ∀ name, ¬step.Makes groups name number)
      (ends : step.Ends groups name) (old : (name, number) ∈ groups.guards) :
      Stepped groups number group step group.drop
  | waited {handle : Nat} (through : groups.handles[handle]? = some number) :
      Stepped groups number group (.wait handle) group.wait
  | resumed {handle waiter : Nat} (through : groups.handles[handle]? = some number) :
      Stepped groups number group (.resume handle waiter) (group.resume waiter)
  | startled {handle waiter : Nat} (through : groups.handles[handle]? = some number) :
      Stepped groups number group (.startle handle waiter) (group.startle waiter)

/-- What holds of groups whatever the order of the steps. -/
structure Sound (groups : Groups) : Prop where
  handles : ∀ number ∈ groups.handles, number < groups.groups.length
  known : ∀ {name : String} {number : Nat}, (name, number) ∈ groups.guards →
    number < groups.groups.length
  unique : ∀ {name : String} {number other : Nat}, (name, number) ∈ groups.guards →
    (name, other) ∈ groups.guards → number = other
  counts : ∀ {number : Nat} {group : WaitGroup}, groups.groups[number]? = some group →
    group.Counts fun name => (name, number) ∈ groups.guards

theorem getElem?_onGroup (here : groups.groups[number]? = some group) (other : Nat)
    (change : WaitGroup → WaitGroup) :
    (groups.onGroup other change).groups[number]? =
      some (if other = number then change group else group) := by
  rw [onGroup, List.getElem?_modify, here]
  rfl

theorem getElem?_dropGuard (unique : ∀ {other : Nat}, (name, number) ∈ groups.guards →
    (name, other) ∈ groups.guards → number = other) (here : groups.groups[number]? = some group) :
    (groups.dropGuard name).groups[number]? =
      some (if (name, number) ∈ groups.guards then group.drop else group) := by
  unfold dropGuard
  split
  · next absent =>
    have others := List.lookup_eq_none_iff.mp absent
    rw [if_neg, here]
    intro mem
    simpa using others _ mem
  · next other found =>
    rcases List.lookup_eq_some_iff.mp found with ⟨before, later, split, _⟩
    have there : (name, other) ∈ groups.guards := by
      rw [split]
      exact List.mem_append_right _ List.mem_cons_self
    have same : other = number ↔ (name, number) ∈ groups.guards :=
      ⟨fun same => same ▸ there, fun mem => (unique mem there).symm⟩
    have dropped := getElem?_onGroup here other WaitGroup.drop
    simp only [same] at dropped
    exact dropped

/-- A step that is about no guard leaves a group alone if it goes through no handle of it. -/
theorem Stepped.of_guardless (guardless : step.guard? = none) :
    Stepped groups number group step group :=
  .apart (fun name => not_makes_of_guardless guardless name number) fun name _ =>
    not_ends_of_guardless guardless name

/-- A step that ends the guard of a name drops it where it counts. -/
theorem Stepped.of_ends (unmade : ∀ name, ¬step.Makes groups name number)
    (ends : step.Ends groups name) :
    Stepped groups number group step
      (if (name, number) ∈ groups.guards then group.drop else group) := by
  split
  · next old => exact .dropped unmade ends old
  · next fresh =>
    refine .apart unmade fun later mem again => fresh ?_
    rw [ends.unique again]
    exact mem

/-- A step through a handle changes the group that the handle belongs to. -/
theorem stepped_onHandle (here : groups.groups[number]? = some group) {handle : Nat}
    {change : WaitGroup → WaitGroup} (guardless : step.guard? = none)
    (same : groups.step step = groups.onHandle handle change)
    (through : groups.handles[handle]? = some number →
      Stepped groups number group step (change group)) :
    ∃ after, (groups.step step).groups[number]? = some after ∧
      Stepped groups number group step after := by
  rw [same, onHandle]
  split
  · exact ⟨group, here, .of_guardless guardless⟩
  · next other found =>
    rw [getElem?_onGroup here]
    by_cases hit : other = number
    · rw [if_pos hit]
      exact ⟨_, rfl, through (hit ▸ found)⟩
    · rw [if_neg hit]
      exact ⟨_, rfl, .of_guardless guardless⟩

/-- Every group is still there after a step, and these are the changes that the step can have
made. -/
theorem stepped (sound : Sound groups) (here : groups.groups[number]? = some group) (step : Step) :
    ∃ after, (groups.step step).groups[number]? = some after ∧
      Stepped groups number group step after := by
  cases step with
  | add handle guard =>
      cases through : groups.handles[handle]? with
      | none =>
          have idle (name : String) : ¬(Step.add handle guard).Ends groups name :=
            not_ends_of_no_handle through name
          refine ⟨group, ?_, .apart (fun name makes => idle name makes.ends) fun name _ =>
            idle name⟩
          rw [Groups.step, addGuard_of_no_handle through, here]
      | some other =>
          have grown := getElem?_onGroup here other WaitGroup.add
          have left : ((groups.onGroup other WaitGroup.add).dropGuard guard).groups[number]? =
              some _ :=
            getElem?_dropGuard sound.unique grown
          refine ⟨_, by rw [Groups.step, addGuard_of_handle through]; exact left, ?_⟩
          have ends : (Step.add handle guard).Ends groups guard := (ends_add_iff through).mpr rfl
          by_cases same : number = other
          · have makes : (Step.add handle guard).Makes groups guard number :=
              (makes_add_iff through).mpr ⟨rfl, same⟩
            rw [if_pos same.symm]
            split
            · next old => exact .replaced makes old
            · next fresh => exact .added makes fresh
          · have unmade (name : String) : ¬(Step.add handle guard).Makes groups name number :=
              fun makes => same ((makes_add_iff through).mp makes).2
            rw [if_neg (Ne.symm same)]
            exact .of_ends unmade ends
  | drop guard =>
      have unmade (name : String) : ¬(Step.drop guard).Makes groups name number :=
        not_makes_drop guard name number
      exact ⟨_, getElem?_dropGuard sound.unique here, .of_ends unmade (Or.inl rfl)⟩
  | clone handle =>
      refine ⟨group, ?_, .of_guardless rfl⟩
      simp only [Groups.step]
      split
      · exact here
      · exact here
  | create =>
      have inside := (List.getElem?_eq_some_iff.mp here).1
      refine ⟨group, ?_, .of_guardless rfl⟩
      rw [Groups.step, List.getElem?_append_left inside, here]
  | wait handle => exact stepped_onHandle here rfl rfl .waited
  | resume handle waiter => exact stepped_onHandle here rfl rfl .resumed
  | startle handle waiter => exact stepped_onHandle here rfl rfl .startled

/-- What a step has made of a group agrees with the guards that it has left. -/
theorem Stepped.counts (changed : Stepped groups number group step after)
    (counts : group.Counts fun name => (name, number) ∈ groups.guards) :
    after.Counts fun name => (name, number) ∈ (groups.step step).guards := by
  simp only [mem_guards_step]
  cases changed with
  | apart unmade kept =>
      refine counts.congr fun name => ?_
      simp only [unmade name, false_or, and_iff_left_iff_imp]
      exact kept name
  | @added step name makes fresh =>
      refine counts.add fresh fun later => ?_
      constructor
      · rintro (made | ⟨mem, _⟩)
        · exact Or.inl (makes.unique made).1.symm
        · exact Or.inr mem
      · rintro (rfl | mem)
        · exact Or.inl makes
        · refine Or.inr ⟨mem, fun ends => fresh ?_⟩
          rw [makes.ends.unique ends]
          exact mem
  | @replaced step name makes old =>
      refine (counts.renew old).congr fun later => ?_
      constructor
      · rintro (made | ⟨mem, _⟩)
        · rw [← (makes.unique made).1]
          exact old
        · exact mem
      · intro mem
        by_cases same : name = later
        · subst same
          exact Or.inl makes
        · exact Or.inr ⟨mem, fun ends => same (makes.ends.unique ends)⟩
  | @dropped step name unmade ends old =>
      refine counts.drop old fun later => ?_
      simp only [unmade later, false_or]
      refine and_congr_right fun _ => not_congr ⟨fun again => again.unique ends, ?_⟩
      rintro rfl
      exact ends
  | waited through => exact counts.wait.congr fun _ => kept_of_guardless rfl
  | resumed through => exact (counts.resume _).congr fun _ => kept_of_guardless rfl
  | startled through => exact (counts.startle _).congr fun _ => kept_of_guardless rfl

/-- A step that changes the count makes a guard of the group or ends one. -/
theorem Stepped.concerned (changed : Stepped groups number group step after)
    (differs : after.count ≠ group.count) :
    ∃ name, step.Makes groups name number ∨
      (name, number) ∈ groups.guards ∧ step.Ends groups name := by
  cases changed with
  | apart unmade kept => exact absurd rfl differs
  | added makes fresh => exact ⟨_, Or.inl makes⟩
  | replaced makes old => exact ⟨_, Or.inl makes⟩
  | dropped unmade ends old => exact ⟨_, Or.inr ⟨old, ends⟩⟩
  | waited through => exact absurd rfl differs
  | resumed through => exact absurd rfl differs
  | startled through => exact absurd rfl differs

/-! ## What holds after any number of steps -/

/-- There are as many groups as before, and handles of no other ones. -/
structure Stays (before after : Groups) : Prop where
  length : after.groups.length = before.groups.length
  handles : ∀ number ∈ after.handles, number ∈ before.handles

theorem Stays.refl (groups : Groups) : Stays groups groups :=
  ⟨rfl, fun _ => id⟩

theorem stays_onGroup (groups : Groups) (number : Nat) (change : WaitGroup → WaitGroup) :
    Stays groups (groups.onGroup number change) :=
  ⟨List.length_modify .., fun _ => id⟩

theorem stays_onHandle (groups : Groups) (handle : Nat) (change : WaitGroup → WaitGroup) :
    Stays groups (groups.onHandle handle change) := by
  unfold onHandle
  split
  · exact .refl groups
  · exact stays_onGroup groups _ change

theorem stays_dropGuard (groups : Groups) (name : String) :
    Stays groups (groups.dropGuard name) := by
  unfold dropGuard
  split
  · exact .refl groups
  · exact ⟨List.length_modify .., fun _ => id⟩

theorem stays_addGuard (groups : Groups) (handle : Nat) (name : String) :
    Stays groups (groups.addGuard handle name) := by
  cases through : groups.handles[handle]? with
  | none =>
      rw [addGuard_of_no_handle through]
      exact .refl groups
  | some number =>
      have early := stays_onGroup groups number WaitGroup.add
      have late := stays_dropGuard (groups.onGroup number WaitGroup.add) name
      rw [addGuard_of_handle through]
      exact ⟨late.length.trans early.length, fun other mem =>
        early.handles other (late.handles other mem)⟩

/-- Only creating a group makes one more, and that is an empty one. -/
theorem stays_or_creates (groups : Groups) (step : Step) :
    Stays groups (groups.step step) ∨
      groups.step step = { groups with
        groups := groups.groups ++ [.empty]
        handles := groups.handles ++ [groups.groups.length] } := by
  cases step with
  | add handle guard => exact Or.inl (stays_addGuard groups handle guard)
  | drop guard => exact Or.inl (stays_dropGuard groups guard)
  | clone handle =>
      left
      simp only [Groups.step]
      split
      · exact .refl groups
      · next number through =>
        refine ⟨rfl, fun other mem => ?_⟩
        rcases List.mem_append.mp mem with old | new
        · exact old
        · rw [List.mem_singleton.mp new]
          exact List.mem_of_getElem? through
  | create => exact Or.inr rfl
  | wait handle => exact Or.inl (stays_onHandle groups handle _)
  | resume handle waiter => exact Or.inl (stays_onHandle groups handle _)
  | startle handle waiter => exact Or.inl (stays_onHandle groups handle _)

theorem Step.Makes.mem_handles (makes : step.Makes groups name number) :
    number ∈ groups.handles := by
  rcases makes with ⟨handle, _, through⟩
  exact List.mem_of_getElem? through

/-- A group that is there after a step was there before, unless the step has created it. -/
theorem exists_before (sound : Sound groups) (step : Step)
    (there : (groups.step step).groups[number]? = some after) :
    (∃ group, groups.groups[number]? = some group ∧ Stepped groups number group step after) ∨
      groups.groups.length ≤ number ∧ after = .empty := by
  rcases Nat.lt_or_ge number groups.groups.length with inside | outside
  · have here := List.getElem?_eq_getElem inside
    rcases stepped sound here step with ⟨changed, same, stepped⟩
    rw [there, Option.some.injEq] at same
    exact Or.inl ⟨_, here, same ▸ stepped⟩
  · rcases stays_or_creates groups step with stays | creates
    · have inside := (List.getElem?_eq_some_iff.mp there).1
      rw [stays.length] at inside
      exact absurd inside (Nat.not_lt.mpr outside)
    · rw [creates, List.getElem?_append_right outside] at there
      exact Or.inr ⟨outside, List.mem_singleton.mp (List.mem_of_getElem? there)⟩

theorem sound_single : Sound single where
  handles := by
    intro number mem
    rw [List.mem_singleton.mp mem]
    exact Nat.one_pos
  known := fun mem => absurd mem List.not_mem_nil
  unique := fun mem => absurd mem List.not_mem_nil
  counts := by
    intro number group here
    have mem := List.mem_of_getElem? here
    rw [List.mem_singleton.mp mem]
    exact .empty fun _ => List.not_mem_nil

theorem sound_step (sound : Sound groups) (step : Step) : Sound (groups.step step) where
  handles := by
    intro number mem
    rcases stays_or_creates groups step with stays | creates
    · rw [stays.length]
      exact sound.handles number (stays.handles number mem)
    · rw [creates] at mem ⊢
      rw [List.length_append, List.length_singleton]
      rcases List.mem_append.mp mem with old | new
      · exact Nat.lt_succ_of_lt (sound.handles number old)
      · rw [List.mem_singleton.mp new]
        exact Nat.lt_succ_self _
  known := by
    intro name number mem
    have before : number < groups.groups.length := by
      rcases (mem_guards_step groups step name number).mp mem with made | ⟨old, _⟩
      · exact sound.handles number made.mem_handles
      · exact sound.known old
    rcases stays_or_creates groups step with stays | creates
    · rw [stays.length]
      exact before
    · rw [creates, List.length_append]
      exact Nat.lt_add_right _ before
  unique := by
    intro name number other mem again
    rw [mem_guards_step] at mem again
    rcases mem with made | ⟨old, kept⟩
    · rcases again with again | ⟨_, kept⟩
      · exact (made.unique again).2
      · exact absurd made.ends kept
    · rcases again with again | ⟨again, _⟩
      · exact absurd again.ends kept
      · exact sound.unique old again
  counts := by
    intro number after there
    rcases exists_before sound step there with ⟨group, here, changed⟩ | ⟨outside, rfl⟩
    · exact changed.counts (sound.counts here)
    · -- Nobody has a guard of a group that has just been created.
      refine .empty fun name mem => ?_
      rcases (mem_guards_step groups step name number).mp mem with made | ⟨old, _⟩
      · exact absurd (sound.handles number made.mem_handles) (Nat.not_lt.mpr outside)
      · exact absurd (sound.known old) (Nat.not_lt.mpr outside)

theorem run_concat (groups : Groups) (steps : List Step) (step : Step) :
    groups.run (steps ++ [step]) = (groups.run steps).step step := by
  rw [run, run, List.foldl_append, List.foldl_cons, List.foldl_nil]

theorem sound_run (steps : List Step) : Sound (single.run steps) := by
  induction steps using List.reverseRecOn with
  | nil => exact sound_single
  | append_singleton steps step ih =>
      rw [run_concat]
      exact sound_step ih step

/-! ## Which guards there are -/

/-- The last of some steps comes either behind a given step or in its place. -/
theorem split_of_concat {steps past later : List Step} {last step : Step}
    (split : steps ++ [last] = past ++ step :: later) :
    (steps = past ∧ last = step ∧ later = []) ∨
      ∃ rest, later = rest ++ [last] ∧ steps = past ++ step :: rest := by
  rcases List.eq_nil_or_concat later with rfl | ⟨rest, other, rfl⟩
  · rcases List.append_inj' split rfl with ⟨same, ending⟩
    exact Or.inl ⟨same, List.head_eq_of_cons_eq ending, rfl⟩
  · rw [List.concat_eq_append, ← List.cons_append, ← List.append_assoc] at split
    rcases List.append_inj' split rfl with ⟨same, ending⟩
    rw [List.head_eq_of_cons_eq ending]
    exact Or.inr ⟨rest, List.concat_eq_append, same⟩

/-- The guard of a name was made through a handle of a group, and no step after that has ended
it. -/
def Outstanding (steps : List Step) (name : String) (number : Nat) : Prop :=
  ∃ past step later, steps = past ++ step :: later ∧ step.Makes (single.run past) name number ∧
    ∀ early other late, later = early ++ other :: late →
      ¬other.Ends (single.run (past ++ step :: early)) name

theorem outstanding_concat {steps : List Step} {step : Step} {name : String} {number : Nat} :
    Outstanding (steps ++ [step]) name number ↔
      step.Makes (single.run steps) name number ∨
        Outstanding steps name number ∧ ¬step.Ends (single.run steps) name := by
  constructor
  · rintro ⟨past, maker, later, split, made, lasts⟩
    rcases split_of_concat split with ⟨rfl, rfl, _⟩ | ⟨rest, rfl, rfl⟩
    · exact Or.inl made
    · refine Or.inr ⟨⟨past, maker, rest, rfl, made, ?_⟩, lasts rest step [] rfl⟩
      rintro early other late rfl
      exact lasts early other (late ++ [step]) (by simp)
  · rintro (made | ⟨⟨past, maker, later, rfl, made, lasts⟩, kept⟩)
    · refine ⟨steps, step, [], rfl, made, fun early other late split => ?_⟩
      exact absurd split.symm (List.append_ne_nil_of_right_ne_nil _ (List.cons_ne_nil _ _))
    · refine ⟨past, maker, later ++ [step], by simp, made, fun early other late split => ?_⟩
      rcases split_of_concat split with ⟨rfl, rfl, _⟩ | ⟨rest, _, rfl⟩
      · exact kept
      · exact lasts early other rest rfl

/-- The guards are those that are outstanding. -/
theorem mem_guards_run (steps : List Step) (name : String) (number : Nat) :
    (name, number) ∈ (single.run steps).guards ↔ Outstanding steps name number := by
  induction steps using List.reverseRecOn with
  | nil =>
      constructor
      · intro mem
        cases mem
      · rintro ⟨past, step, later, split, _⟩
        exact absurd split.symm (List.append_ne_nil_of_right_ne_nil _ (List.cons_ne_nil _ _))
  | append_singleton steps step ih => rw [run_concat, mem_guards_step, ih, outstanding_concat]

theorem counts_run {steps : List Step} (here : (single.run steps).groups[number]? = some group) :
    group.Counts fun name => Outstanding steps name number :=
  ((sound_run steps).counts here).congr fun name => (mem_guards_run steps name number).symm

end Groups

end Switchboard
