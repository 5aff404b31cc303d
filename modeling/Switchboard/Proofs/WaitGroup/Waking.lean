import Switchboard.Proofs.WaitGroup.Counting

/-!
# Nobody waits in vain

Whoever has gone on has looked at a count of zero (`WentOn`). Whoever sleeps has found another
count, and is woken in the step that takes the last guard away (`Alarmed`), so nobody is asleep
where nothing is left to wait for. It does not matter that guards may have been made again before
those who were woken look: then they fall asleep once more, and the next last guard wakes them.
-/

namespace Switchboard

namespace Groups

open WaitGroup (Phase)

variable {groups : Groups} {number : Nat} {group after : WaitGroup} {step : Step}

/-! ## Who has gone on -/

/-- In this step a waiter looks at the count: it has just come, or it is awake. -/
def Step.Looks (groups : Groups) (number : Nat) (group : WaitGroup) (waiter : Nat) (step : Step) :
    Prop :=
  ∃ handle, groups.handles[handle]? = some number ∧
    (step = .wait handle ∧ waiter = group.waiters.length ∨ step = .resume handle waiter)

/-- The waiter has gone on. -/
def Gone (group : WaitGroup) (waiter : Nat) : Prop :=
  ∃ seen, group.waiters[waiter]? = some (.returned seen)

theorem not_gone_empty (waiter : Nat) : ¬Gone .empty waiter := by
  rintro ⟨seen, nobody⟩
  cases nobody

theorem Gone.of_rouse {phase : Phase} {waiter : Nat} (there : group.waiters[waiter]? = some phase)
    {seen : Nat} (went : phase.rouse = .returned seen) : Gone group waiter :=
  ⟨seen, by rw [there, Phase.rouse_eq_returned went]⟩

/-- Being woken is not going on. -/
theorem Gone.of_drop {waiter : Nat} (gone : Gone group.drop waiter) : Gone group waiter := by
  rcases gone with ⟨seen, here⟩
  simp only [WaitGroup.drop] at here
  split at here
  · rw [List.getElem?_map] at here
    rcases Option.map_eq_some_iff.mp here with ⟨phase, there, went⟩
    exact .of_rouse there went
  · exact ⟨seen, here⟩

/-- Whoever has gone on since one waiter was changed is that waiter, or had gone on before. -/
theorem gone_modify {waiter other : Nat} {change : Phase → Phase}
    (gone : Gone { group with waiters := group.waiters.modify other change } waiter) :
    Gone group waiter ∨ other = waiter ∧
      ∃ phase seen, group.waiters[waiter]? = some phase ∧ change phase = .returned seen := by
  rcases gone with ⟨seen, here⟩
  rw [List.getElem?_modify] at here
  rcases Option.map_eq_some_iff.mp here with ⟨phase, there, went⟩
  split at went
  · next same => exact Or.inr ⟨same, phase, seen, there, went⟩
  · exact Or.inl ⟨seen, by rw [there, went]⟩

/-- Being startled is not going on, either. -/
theorem Gone.of_startle {waiter other : Nat} (gone : Gone (group.startle other) waiter) :
    Gone group waiter := by
  rcases gone_modify gone with before | ⟨_, phase, seen, there, went⟩
  · exact before
  · exact .of_rouse there went

/-- A waiter that goes on by looking again has found a count of zero, and was still awake before. -/
theorem gone_resume {waiter other : Nat} (gone : Gone (group.resume other) waiter) :
    Gone group waiter ∨ ¬Gone group waiter ∧ group.count = 0 ∧ other = waiter := by
  rcases gone_modify gone with before | ⟨same, phase, seen, there, went⟩
  · exact Or.inl before
  · rcases Phase.again_cases group.look phase with kept | ⟨woken, looked⟩
    · rw [kept] at went
      exact Or.inl ⟨seen, by rw [there, went]⟩
    · rw [looked] at went
      refine Or.inr ⟨?_, WaitGroup.look_eq_returned went, same⟩
      rintro ⟨found, again⟩
      rw [there, woken] at again
      cases again

/-- A waiter that goes on as it comes has found a count of zero. -/
theorem gone_wait {waiter : Nat} (gone : Gone group.wait waiter) :
    Gone group waiter ∨ ¬Gone group waiter ∧ group.count = 0 ∧ waiter = group.waiters.length := by
  rcases gone with ⟨seen, here⟩
  rcases Nat.lt_trichotomy waiter group.waiters.length with inside | rfl | outside
  · rw [WaitGroup.wait, List.getElem?_append_left inside] at here
    exact Or.inl ⟨seen, here⟩
  · rw [WaitGroup.wait, List.getElem?_concat_length, Option.some.injEq] at here
    refine Or.inr ⟨?_, WaitGroup.look_eq_returned here, rfl⟩
    rintro ⟨found, there⟩
    rw [List.getElem?_eq_none (Nat.le_refl _)] at there
    cases there
  · have inside := (List.getElem?_eq_some_iff.mp here).1
    rw [WaitGroup.wait, List.length_append, List.length_singleton] at inside
    omega

/-- Whoever goes on in a step looks at a count of zero in it. -/
theorem Stepped.gone {waiter : Nat} (changed : Stepped groups number group step after)
    (gone : Gone after waiter) :
    Gone group waiter ∨
      ¬Gone group waiter ∧ group.count = 0 ∧ step.Looks groups number group waiter := by
  cases changed with
  | apart unmade kept => exact Or.inl gone
  | added makes fresh => exact Or.inl gone
  | replaced makes old =>
      -- The count has gone up and down again, and the waiters are those of the group.
      have grown : Gone group.add waiter := gone.of_drop
      exact Or.inl grown
  | dropped unmade ends old => exact Or.inl gone.of_drop
  | waited through =>
      rcases gone_wait gone with before | ⟨still, empty, last⟩
      · exact Or.inl before
      · exact Or.inr ⟨still, empty, _, through, Or.inl ⟨rfl, last⟩⟩
  | resumed through =>
      rcases gone_resume gone with before | ⟨still, empty, rfl⟩
      · exact Or.inl before
      · exact Or.inr ⟨still, empty, _, through, Or.inr rfl⟩
  | startled through => exact Or.inl gone.of_startle

/-- A waiter of a group has gone on in one of these steps, in which it looked at a count of zero. -/
def WentOn (steps : List Step) (number waiter : Nat) : Prop :=
  ∃ past step later before, steps = past ++ step :: later ∧
    (single.run past).groups[number]? = some before ∧ ¬Gone before waiter ∧ before.count = 0 ∧
    step.Looks (single.run past) number before waiter

theorem WentOn.concat {steps : List Step} {waiter : Nat} (went : WentOn steps number waiter)
    (step : Step) :
    WentOn (steps ++ [step]) number waiter := by
  rcases went with ⟨past, looks, later, before, rfl, there, still, empty, looked⟩
  exact ⟨past, looks, later ++ [step], before, by simp, there, still, empty, looked⟩

theorem wentOn_of_gone {steps : List Step} {waiter : Nat}
    (here : (single.run steps).groups[number]? = some group) (gone : Gone group waiter) :
    WentOn steps number waiter := by
  induction steps using List.reverseRecOn generalizing group with
  | nil =>
      rw [List.mem_singleton.mp (List.mem_of_getElem? here)] at gone
      exact absurd gone (not_gone_empty waiter)
  | append_singleton steps step ih =>
      rw [run_concat] at here
      rcases exists_before (sound_run steps) step here with ⟨before, there, changed⟩ | ⟨_, rfl⟩
      · rcases changed.gone gone with earlier | ⟨still, empty, looks⟩
        · exact (ih there earlier).concat step
        · exact ⟨steps, step, [], before, rfl, there, still, empty, looks⟩
      · exact absurd gone (not_gone_empty waiter)

/-! ## Who is woken -/

/-- The last guard of a group was dropped in one of these steps, and everybody who slept there was
woken. -/
def Alarmed (past steps : List Step) (number : Nat) : Prop :=
  ∃ early step late before after, steps = early ++ step :: late ∧
    (single.run (past ++ early)).groups[number]? = some before ∧
    (single.run (past ++ early ++ [step])).groups[number]? = some after ∧
    before.count = 1 ∧ after.count = 0 ∧ after.waiters = before.waiters.map Phase.rouse

/-- A count comes to zero only when the last guard is dropped. -/
theorem Stepped.alarm (changed : Stepped groups number group step after) (busy : group.count ≠ 0)
    (empty : after.count = 0) :
    group.count = 1 ∧ after.waiters = group.waiters.map Phase.rouse := by
  cases changed with
  | apart unmade kept => exact absurd empty busy
  | added makes fresh => exact absurd empty (Nat.succ_ne_zero _)
  | replaced makes old => exact absurd empty busy
  | dropped unmade ends old =>
      have last : group.count - 1 = 0 := empty
      refine ⟨by omega, ?_⟩
      simp only [WaitGroup.drop, if_pos last]
  | waited through => exact absurd empty busy
  | resumed through => exact absurd empty busy
  | startled through => exact absurd empty busy

theorem exists_later {past : List Step} {before : WaitGroup}
    (there : (single.run past).groups[number]? = some before) (steps : List Step) :
    ∃ group, (single.run (past ++ steps)).groups[number]? = some group := by
  induction steps using List.reverseRecOn with
  | nil => exact ⟨before, by rw [List.append_nil, there]⟩
  | append_singleton steps step ih =>
      rcases ih with ⟨middle, here⟩
      rcases stepped (sound_run _) here step with ⟨after, next, _⟩
      exact ⟨after, by rw [← List.append_assoc, run_concat, next]⟩

/-- A group that has something to wait for and later has nothing has woken its sleepers in
between. -/
theorem alarmed_of_empty {past steps : List Step} {before : WaitGroup}
    (there : (single.run past).groups[number]? = some before) (busy : before.count ≠ 0)
    (here : (single.run (past ++ steps)).groups[number]? = some group) (empty : group.count = 0) :
    Alarmed past steps number := by
  induction steps using List.reverseRecOn generalizing group with
  | nil =>
      rw [List.append_nil, there, Option.some.injEq] at here
      exact absurd (here ▸ empty) busy
  | append_singleton steps step ih =>
      rcases exists_later there steps with ⟨middle, between⟩
      rcases stepped (sound_run _) between step with ⟨after, next, changed⟩
      rw [← run_concat, List.append_assoc, here, Option.some.injEq] at next
      subst next
      by_cases already : middle.count = 0
      · rcases ih between already with ⟨early, last, late, old, new, rfl, rest⟩
        exact ⟨early, last, late ++ [step], old, new, by simp, rest⟩
      · rcases changed.alarm already empty with ⟨last, woken⟩
        rw [← List.append_assoc] at here
        exact ⟨steps, step, [], middle, group, rfl, between, here, last, empty, woken⟩

/-- Where nothing is left to wait for, everybody who is awake goes on by looking, and nobody is
asleep. -/
theorem seen_of_settle {holds : String → Prop} (counts : group.Counts holds)
    (empty : group.count = 0) :
    ∀ phase ∈ group.settle.waiters, phase.seen?.isSome := by
  intro phase mem
  rcases List.mem_map.mp mem with ⟨before, there, rfl⟩
  cases before with
  | asleep => exact absurd there (counts.awake empty)
  | woken =>
      rw [WaitGroup.look_of_zero empty]
      rfl
  | returned seen => rfl

/-- Whatever the order of the steps, the count of a group is the number of its guards that are
outstanding. It changes only with one of them, and it is not zero when one of them is dropped.
Whoever waits for the group goes on only in a step that finds the count at zero. Where it is zero
nobody is asleep, and whoever was has been woken since; so all of them go on as soon as they
look. -/
theorem nobody_waits_in_vain {steps : List Step} {number : Nat} {group : WaitGroup}
    (here : (single.run steps).groups[number]? = some group) :
    IsCount (fun name => Outstanding steps name number) group.count ∧
      (∀ step after, (single.run (steps ++ [step])).groups[number]? = some after →
        after.count ≠ group.count →
        ∃ name, step.Makes (single.run steps) name number ∨
          Outstanding steps name number ∧ step.Ends (single.run steps) name) ∧
      (∀ name, Outstanding steps name number → 0 < group.count) ∧
      (∀ waiter, Gone group waiter → WentOn steps number waiter) ∧
      (group.count = 0 → Phase.asleep ∉ group.waiters ∧
        (∀ phase ∈ group.settle.waiters, phase.seen?.isSome) ∧
        ∀ (past later : List Step) (before : WaitGroup) (waiter : Nat), steps = past ++ later →
          (single.run past).groups[number]? = some before →
          before.waiters[waiter]? = some Phase.asleep →
          Alarmed past later number) := by
  have counts := counts_run here
  refine ⟨counts.count, fun step after next differs => ?_, fun name => counts.count.pos,
    fun waiter => wentOn_of_gone here, fun empty =>
      ⟨counts.awake empty, seen_of_settle counts empty, ?_⟩⟩
  · rcases stepped (sound_run steps) here step with ⟨same, there, changed⟩
    rw [run_concat, there, Option.some.injEq] at next
    rw [← next] at differs
    rcases changed.concerned differs with ⟨name, concerned⟩
    rw [mem_guards_run] at concerned
    exact ⟨name, concerned⟩
  · rintro past later before waiter rfl there asleep
    have busy : before.count ≠ 0 := fun none =>
      (counts_run there).awake none (List.mem_of_getElem? asleep)
    exact alarmed_of_empty there busy here empty

/-- A waiter that was startled falls asleep again; then the second of two guards goes, and wakes
it. -/
def restlessSteps : List Step :=
  [.create, .clone 0, .add 0 "a", .add 2 "b", .add 1 "c", .wait 2, .startle 0 0, .resume 2 0,
    .drop "a", .drop "b"]

theorem sleeper_is_woken :
    (single.run restlessSteps).groups[0]? = some ⟨0, [.woken]⟩ ∧
      Alarmed (restlessSteps.take 8) (restlessSteps.drop 8) 0 := by
  have here : (single.run restlessSteps).groups[0]? = some ⟨0, [.woken]⟩ := rfl
  have there : (single.run (restlessSteps.take 8)).groups[0]? = some ⟨2, [.asleep]⟩ := rfl
  rcases nobody_waits_in_vain here with ⟨_, _, _, _, woken⟩
  exact ⟨here, (woken rfl).2.2 _ _ _ 0 (List.take_append_drop 8 restlessSteps).symm there rfl⟩

end Groups

end Switchboard
