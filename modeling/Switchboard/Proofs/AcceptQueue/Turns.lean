import Switchboard.AcceptQueue

/-!
# The queue, call after call

A server empties its queue again and again, and all calls share one backoff. A call takes the
arrivals in order, with one attempt to accept for each of them, until one of them ends it
(`Arrival.Ends`) or nobody is left. What ends a call depends on how many failures there were in a
row, and these are counted over all calls: only a connection begins the count anew
(`failuresAfter`).

The backoff keeps this count in a word. As long as the word does not overflow (`Countable`),
`Turn.Course` says everything about one call, and `Emptied` about any number of them.
-/

namespace Switchboard

variable {α : Type}

theorem Fault.kind_ne_wouldBlock {fault : Fault} (passing : fault.isPassing = true) :
    fault.kind ≠ .wouldBlock := by
  intro waiting
  cases fault with
  | plain kind =>
      change kind = .wouldBlock at waiting
      subst waiting
      cases passing
  | described kind text =>
      change kind = .wouldBlock at waiting
      subst waiting
      cases passing
  | system code =>
      simp only [Fault.isPassing, waiting, Bool.false_or, List.contains_iff_mem, List.mem_cons,
        List.not_mem_nil, or_false] at passing
      rcases passing with rfl | rfl | rfl | rfl | rfl <;> exact absurd waiting (by decide)

namespace Arrival

def value? : Arrival α → Option α
  | .connection value _ => some value
  | .fault _ => none

/-- The server is asked to stop while it takes the arrival over. -/
def asksToStop : Arrival α → Bool
  | .connection _ stopping => stopping
  | .fault _ => false

def isPassing : Arrival α → Bool
  | .connection _ _ => false
  | .fault reason => reason.isPassing

/-- How an arrival ends a call. So many failures came in a row, the arrival itself included. -/
inductive Ends (maxRetries : UInt64) (failures : Nat) : Arrival α → Except Error Unit → Prop
  /-- The server was asked to stop meanwhile. -/
  | asked (value : α) : Ends maxRetries failures (.connection value true) (.ok ())
  /-- Nobody is waiting. -/
  | nobody {reason : Fault} (waiting : reason.kind = .wouldBlock) :
      Ends maxRetries failures (.fault reason) (.ok ())
  | exhausted {reason : Fault} (passing : reason.isPassing = true)
      (many : maxRetries.toNat < failures) :
      Ends maxRetries failures (.fault reason) (.error (.retriesExhausted maxRetries reason))
  | fatal {reason : Fault} (other : reason.kind ≠ .wouldBlock)
      (lasting : ¬reason.isPassing = true) :
      Ends maxRetries failures (.fault reason) (.error (.io reason))

theorem Ends.unique {maxRetries : UInt64} {failures : Nat} {arrival : Arrival α}
    {result other : Except Error Unit} (ends : arrival.Ends maxRetries failures result)
    (again : arrival.Ends maxRetries failures other) : result = other := by
  cases ends with
  | asked value =>
      cases again
      rfl
  | nobody waiting =>
      cases again with
      | nobody _ => rfl
      | exhausted passing _ => exact absurd waiting (Fault.kind_ne_wouldBlock passing)
      | fatal other _ => exact absurd waiting other
  | exhausted passing many =>
      cases again with
      | nobody waiting => exact absurd waiting (Fault.kind_ne_wouldBlock passing)
      | exhausted _ _ => rfl
      | fatal _ lasting => exact absurd passing lasting
  | fatal other lasting =>
      cases again with
      | nobody waiting => exact absurd waiting other
      | exhausted passing _ => exact absurd passing lasting
      | fatal _ _ => rfl

end Arrival

/-- The number of failures in a row after some arrivals, if there were `failures` before them. -/
def failuresAfter (failures : Nat) : List (Arrival α) → Nat
  | [] => failures
  | .connection _ _ :: later => failuresAfter 0 later
  | .fault fault :: later =>
      failuresAfter (if fault.isPassing then failures + 1 else failures) later

namespace Backoff

/-- The backoff after an arrival. -/
def follow (backoff : Backoff) : Arrival α → Backoff
  | .connection _ _ => .fresh
  | .fault fault => if fault.isPassing then backoff.next else backoff

/-- How long a call waits that goes on after each of some arrivals. -/
def waits (backoff : Backoff) : List (Arrival α) → List Duration
  | [] => []
  | arrival :: later =>
      (if arrival.isPassing then [backoff.next.delay] else []) ++
        (backoff.follow arrival).waits later

end Backoff

/-! ## Counting failures -/

theorem failuresAfter_append (failures : Nat) (early late : List (Arrival α)) :
    failuresAfter failures (early ++ late) = failuresAfter (failuresAfter failures early) late := by
  induction early generalizing failures with
  | nil => rfl
  | cons arrival early ih =>
      cases arrival with
      | connection value stopping => exact ih 0
      | fault fault => exact ih _

theorem failuresAfter_le (failures : Nat) (arrivals : List (Arrival α)) :
    failuresAfter failures arrivals ≤ failures + arrivals.length := by
  induction arrivals generalizing failures with
  | nil => exact Nat.le_refl _
  | cons arrival later ih =>
      rw [List.length_cons]
      cases arrival with
      | connection value stopping =>
          have bound := ih 0
          simp only [failuresAfter]
          omega
      | fault fault =>
          simp only [failuresAfter]
          split
          · have bound := ih (failures + 1)
            omega
          · have bound := ih failures
            omega

/-- The word that counts the failures in a row never overflows. -/
def Countable (backoff : Backoff) (arrivals : List (Arrival α)) : Prop :=
  ∀ past, past <+: arrivals → failuresAfter backoff.attempts.toNat past < UInt64.size

theorem countable_of_length {backoff : Backoff} {arrivals : List (Arrival α)}
    (room : backoff.attempts.toNat + arrivals.length < UInt64.size) :
    Countable backoff arrivals := by
  intro past beginning
  have bound := failuresAfter_le backoff.attempts.toNat past
  have shorter := beginning.length_le
  omega

theorem Backoff.follow_of_passing {fault : Fault} (passing : fault.isPassing = true)
    (backoff : Backoff) :
    backoff.follow (.fault fault : Arrival α) = backoff.next := by
  simp only [Backoff.follow, passing, if_true]

namespace Countable

variable {backoff : Backoff} {arrival : Arrival α} {fault : Fault} {early late : List (Arrival α)}

theorem attempts_follow (countable : Countable backoff (arrival :: late)) :
    (backoff.follow arrival).attempts.toNat = failuresAfter backoff.attempts.toNat [arrival] := by
  cases arrival with
  | connection value stopping => rfl
  | fault fault =>
      have room := countable [.fault fault] (List.prefix_append [_] late)
      simp only [failuresAfter, Backoff.follow] at room ⊢
      split
      · next passing =>
        rw [if_pos passing] at room
        exact Backoff.attempts_next room
      · rfl

theorem tail (countable : Countable backoff (arrival :: late)) :
    Countable (backoff.follow arrival) late := by
  intro past beginning
  rw [countable.attempts_follow, ← failuresAfter_append]
  exact countable _ ((List.prefix_append_right_inj [arrival]).mpr beginning)

/-- The word counts the failures in a row over any number of arrivals. -/
theorem attempts_foldl (countable : Countable backoff (early ++ late)) :
    (early.foldl Backoff.follow backoff).attempts.toNat =
      failuresAfter backoff.attempts.toNat early := by
  induction early generalizing backoff with
  | nil => rfl
  | cons arrival early ih =>
      rw [List.foldl_cons, ih countable.tail, countable.attempts_follow, ← failuresAfter_append]
      rfl

theorem drop (countable : Countable backoff (early ++ late)) :
    Countable (early.foldl Backoff.follow backoff) late := by
  intro past beginning
  rw [countable.attempts_foldl, ← failuresAfter_append]
  exact countable _ ((List.prefix_append_right_inj early).mpr beginning)

theorem many_iff (countable : Countable backoff (.fault fault :: late))
    (passing : fault.isPassing = true) (maxRetries : UInt64) : maxRetries < backoff.next.attempts ↔
      maxRetries.toNat < failuresAfter backoff.attempts.toNat [(.fault fault : Arrival α)] := by
  rw [← countable.attempts_follow, Backoff.follow_of_passing passing]
  exact UInt64.lt_iff_toNat_lt

end Countable

namespace AcceptQueue

/-! ## What a call does -/

/-- A call to empty the queue: what it has met, how often it has attempted to accept, whom it has
accepted, how long it has waited each time, and how it has ended. -/
structure Turn (α : Type) where
  met : List (Arrival α)
  attempts : Nat
  accepted : List α
  waits : List Duration
  result : Except Error Unit

/-- None of the arrivals ends the call. -/
def Onward (maxRetries : UInt64) (failures : Nat) (arrivals : List (Arrival α)) : Prop :=
  ∀ past arrival result, past ++ [arrival] <+: arrivals →
    ¬arrival.Ends maxRetries (failuresAfter failures (past ++ [arrival])) result

/-- What a call does before which there were so many failures in a row. `asked` says whether the
server was asked to stop before, and `left` is what the call leaves in the queue. -/
inductive Turn.Course (maxRetries : UInt64) (failures : Nat) (backoff : Backoff) (asked : Bool)
    (left : List (Arrival α)) : Turn α → Prop
  /-- Nothing is attempted once the server was asked to stop. -/
  | barred (stopped : asked = true) :
      Course maxRetries failures backoff asked left ⟨[], 0, [], [], .ok ()⟩
  /-- The last attempt finds that nobody is left. -/
  | dry {met : List (Arrival α)} (going : asked = false) (empty : left = [])
      (onward : Onward maxRetries failures met) :
      Course maxRetries failures backoff asked left
        ⟨met, met.length + 1, met.filterMap Arrival.value?, backoff.waits met, .ok ()⟩
  /-- The last arrival ends the call, and none before it does. -/
  | ended {met : List (Arrival α)} {last : Arrival α} {result : Except Error Unit}
      (going : asked = false) (onward : Onward maxRetries failures met)
      (ends : last.Ends maxRetries (failuresAfter failures (met ++ [last])) result) :
      Course maxRetries failures backoff asked left
        ⟨met ++ [last], met.length + 1, (met ++ [last]).filterMap Arrival.value?,
          backoff.waits met, result⟩

/-- What a call leaves of the queue. -/
structure Turned (before : AcceptQueue α) (turn : Turn α) (after : AcceptQueue α) : Prop where
  arrivals : before.arrivals = turn.met ++ after.arrivals
  backoff : after.backoff = turn.met.foldl Backoff.follow before.backoff
  stopping : after.stopping = (before.stopping || turn.met.any Arrival.asksToStop)
  accepted : after.accepted = before.accepted ++ turn.accepted
  attempts : after.attempts = before.attempts + turn.attempts
  waits : after.waits = before.waits ++ turn.waits

/-- A call that ends at its first arrival. -/
def Turn.single (arrival : Arrival α) (result : Except Error Unit) : Turn α :=
  ⟨[arrival], 1, arrival.value?.toList, [], result⟩

/-- A call that meets an arrival and goes on. -/
def Turn.behind (backoff : Backoff) (arrival : Arrival α) (turn : Turn α) : Turn α where
  met := arrival :: turn.met
  attempts := turn.attempts + 1
  accepted := arrival.value?.toList ++ turn.accepted
  waits := (if arrival.isPassing then [backoff.next.delay] else []) ++ turn.waits
  result := turn.result

section

variable {maxRetries : UInt64} {failures : Nat} {backoff : Backoff} {arrival : Arrival α}
  {later left : List (Arrival α)} {turn : Turn α} {result : Except Error Unit}
  {before middle after : AcceptQueue α}

theorem filterMap_value?_cons (arrival : Arrival α) (later : List (Arrival α)) :
    (arrival :: later).filterMap Arrival.value? =
      arrival.value?.toList ++ later.filterMap Arrival.value? := by
  cases arrival <;> rfl

theorem Onward.nil (maxRetries : UInt64) (failures : Nat) :
    Onward maxRetries failures ([] : List (Arrival α)) := by
  intro past arrival result beginning
  exact absurd (List.prefix_nil.mp beginning)
    (List.append_ne_nil_of_right_ne_nil _ (List.cons_ne_nil _ _))

theorem Onward.cons
    (passes : ∀ result, ¬arrival.Ends maxRetries (failuresAfter failures [arrival]) result)
    (onward : Onward maxRetries (failuresAfter failures [arrival]) later) :
    Onward maxRetries failures (arrival :: later) := by
  intro past other result beginning
  rcases past with _ | ⟨first, past⟩
  · rcases List.cons_prefix_cons.mp beginning with ⟨rfl, -⟩
    exact passes result
  · rcases List.cons_prefix_cons.mp beginning with ⟨rfl, rest⟩
    have goes := onward past other result rest
    rwa [← failuresAfter_append] at goes

theorem Turn.Course.single
    (ends : arrival.Ends maxRetries (failuresAfter failures [arrival]) result) :
    (Turn.single arrival result).Course maxRetries failures backoff false left := by
  have accepted := filterMap_value?_cons arrival []
  rw [List.filterMap_nil, List.append_nil] at accepted
  rw [Turn.single, ← accepted]
  exact @Turn.Course.ended α maxRetries failures backoff false left [] arrival result rfl
    (.nil _ _) ends

theorem Turn.Course.behind
    (passes : ∀ result, ¬arrival.Ends maxRetries (failuresAfter failures [arrival]) result)
    (course : turn.Course maxRetries (failuresAfter failures [arrival]) (backoff.follow arrival)
      false left) :
    (turn.behind backoff arrival).Course maxRetries failures backoff false left := by
  cases course with
  | barred stopped => cases stopped
  | dry going empty onward =>
      simp only [Turn.behind, ← filterMap_value?_cons]
      exact .dry rfl empty (.cons passes onward)
  | ended going onward ends =>
      rw [← failuresAfter_append] at ends
      simp only [Turn.behind, ← filterMap_value?_cons]
      exact .ended rfl (.cons passes onward) ends

theorem Turned.single (arrivals : before.arrivals = arrival :: after.arrivals)
    (backoff : after.backoff = before.backoff.follow arrival)
    (stopping : after.stopping = (before.stopping || arrival.asksToStop))
    (accepted : after.accepted = before.accepted ++ arrival.value?.toList)
    (attempts : after.attempts = before.attempts + 1) (waits : after.waits = before.waits) :
    Turned before (.single arrival result) after where
  arrivals := arrivals
  backoff := backoff
  stopping := by
    rw [stopping]
    simp [Turn.single]
  accepted := accepted
  attempts := attempts
  waits := by
    rw [waits]
    exact (List.append_nil _).symm

theorem Turned.behind (turned : Turned middle turn after)
    (arrivals : before.arrivals = arrival :: middle.arrivals)
    (backoff : middle.backoff = before.backoff.follow arrival)
    (stopping : middle.stopping = (before.stopping || arrival.asksToStop))
    (accepted : middle.accepted = before.accepted ++ arrival.value?.toList)
    (attempts : middle.attempts = before.attempts + 1)
    (waits : middle.waits =
      before.waits ++ if arrival.isPassing then [before.backoff.next.delay] else []) :
    Turned before (turn.behind before.backoff arrival) after where
  arrivals := by
    rw [arrivals, turned.arrivals]
    rfl
  backoff := by
    rw [turned.backoff, backoff]
    rfl
  stopping := by
    rw [turned.stopping, stopping, Bool.or_assoc]
    rfl
  accepted := by rw [turned.accepted, accepted, List.append_assoc, Turn.behind]
  attempts := by
    change _ = before.attempts + (turn.attempts + 1)
    rw [turned.attempts, attempts]
    omega
  waits := by rw [turned.waits, waits, List.append_assoc, Turn.behind]

/-- After a fault that does not pass nothing but the attempt is noted. -/
theorem turned_attempted {fault : Fault} (next : before.arrivals = .fault fault :: later)
    (lasting : ¬fault.isPassing = true) :
    Turned before (.single (.fault fault) result) before.attempted := by
  refine .single ?_ ?_ ?_ ?_ rfl rfl
  · simp [attempted, next]
  · simp [attempted, Backoff.follow, lasting]
  · simp [attempted, Arrival.asksToStop]
  · simp [attempted, Arrival.value?]

end

/-! ## One call -/

theorem tell_eq (log : Bool) (event : Event) (queue : AcceptQueue α) :
    queue.tell log event =
      { queue with events := queue.events ++ if log then [event] else [] } := by
  cases log with
  | true => rfl
  | false => simp [tell]

/-- After a failure that passes a call waits, or gives up because there were too many in a row. -/
theorem backOff_cases (maxRetries : UInt64) (log : Bool) (fault : Fault) (before : AcceptQueue α) :
    (maxRetries < before.backoff.next.attempts ∧ ∃ events, backOff maxRetries log fault before =
        .error (.retriesExhausted maxRetries fault)
          { before with backoff := before.backoff.next, events }) ∨
      (¬maxRetries < before.backoff.next.attempts ∧ ∃ events, backOff maxRetries log fault before =
        .ok ()
          { before with
            backoff := before.backoff.next
            waits := before.waits ++ [before.backoff.next.delay]
            events }) := by
  simp only [backOff, tell_eq, Backoff.retryDelay, Backoff.exhausted, decide_eq_true_eq]
  by_cases many : maxRetries < before.backoff.next.attempts
  · simp only [many, if_true]
    exact Or.inl ⟨trivial, _, rfl⟩
  · simp only [many, if_false]
    exact Or.inr ⟨not_false, _, rfl⟩

/-- How a call ends. -/
def Turn.finish (turn : Turn α) (after : AcceptQueue α) :
    EStateM.Result Error (AcceptQueue α) Unit :=
  match turn.result with
  | .ok () => .ok () after
  | .error error => .error error after

theorem exists_turn (maxRetries : UInt64) (log : Bool) (before : AcceptQueue α)
    (countable : Countable before.backoff before.arrivals) :
    ∃ turn after, drain maxRetries log before = turn.finish after ∧ Turned before turn after ∧
      turn.Course maxRetries before.backoff.attempts.toNat before.backoff before.stopping
        after.arrivals := by
  -- Behind an arrival that does not end it, a call is one that begins there, with the backoff as it
  -- stands then.
  fun_induction drain maxRetries log before with
  | case1 before stopped =>
      refine ⟨⟨[], 0, [], [], .ok ()⟩, before, rfl, ?_, .barred stopped⟩
      constructor <;> simp
  | case2 before going empty =>
      refine ⟨⟨[], 1, [], [], .ok ()⟩, before.attempted, rfl, ?_, ?_⟩
      · constructor <;> simp [attempted, empty]
      · exact .dry (Bool.eq_false_iff.mpr going) (by simp [attempted, empty]) (.nil _ _)
  | case3 before going value stopping later next ih =>
      rw [next] at countable
      have idle := Bool.eq_false_iff.mpr going
      have rest : (before.attempted.takeOver value stopping).arrivals = later := by
        simp [takeOver, attempted, next]
      rcases ih (rest ▸ countable.tail) with ⟨turn, after, done, turned, course⟩
      refine ⟨turn.behind before.backoff (.connection value stopping), after, done, ?_, ?_⟩
      · refine turned.behind ?_ rfl rfl rfl rfl (List.append_nil _).symm
        rw [rest, next]
      · simp only [takeOver, attempted, idle, Bool.false_or] at course ⊢
        cases stopping with
        | false => exact course.behind (fun _ ends => nomatch ends)
        | true =>
            cases course with
            | barred stopped => exact .single (.asked value)
            | dry going => cases going
            | ended going => cases going
  | case4 before going fault later next waiting =>
      have lasting : ¬fault.isPassing = true :=
        fun passing => fault.kind_ne_wouldBlock passing waiting
      refine ⟨.single (.fault fault) (.ok ()), before.attempted, rfl,
        turned_attempted next lasting, ?_⟩
      rw [Bool.eq_false_iff.mpr going]
      exact .single (.nobody waiting)
  | case5 before going fault later next other passing after waited ih =>
      rw [next] at countable
      have follows := Backoff.follow_of_passing (α := α) passing before.backoff
      rcases backOff_cases maxRetries log fault before.attempted with
        ⟨_, _, failed⟩ | ⟨few, events, done⟩
      · rw [failed] at waited
        cases waited
      · rw [done] at waited
        cases waited
        have rest : before.attempted.arrivals = later := by simp [attempted, next]
        have counted := countable.tail
        rw [follows] at counted
        rcases ih (rest ▸ counted) with ⟨turn, after, ended, turned, course⟩
        refine ⟨turn.behind before.backoff (.fault fault), after, ended, ?_, ?_⟩
        · refine turned.behind ?_ follows.symm ?_ ?_ rfl ?_
          · rw [rest, next]
          · exact (Bool.or_false _).symm
          · exact (List.append_nil _).symm
          · simp only [Arrival.isPassing, passing, if_true]
            rfl
        · simp only [attempted, Bool.eq_false_iff.mpr going] at course ⊢
          rw [← follows, countable.attempts_follow] at course
          refine course.behind ?_
          intro result ends
          cases ends with
          | nobody waiting => exact other waiting
          | exhausted _ many => exact few ((countable.many_iff passing maxRetries).mpr many)
          | fatal _ lasting => exact lasting passing
  | case6 before going fault later next other passing error after failed =>
      rw [next] at countable
      rcases backOff_cases maxRetries log fault before.attempted with
        ⟨many, events, gaveUp⟩ | ⟨_, _, done⟩
      · rw [gaveUp] at failed
        cases failed
        refine ⟨.single (.fault fault) (.error (.retriesExhausted maxRetries fault)), _, rfl,
          .single ?_ ?_ ?_ ?_ rfl rfl, ?_⟩
        · simp [attempted, next]
        · exact (Backoff.follow_of_passing passing _).symm
        · exact (Bool.or_false _).symm
        · exact (List.append_nil _).symm
        · rw [Bool.eq_false_iff.mpr going]
          exact .single (.exhausted passing ((countable.many_iff passing maxRetries).mp many))
      · rw [done] at failed
        cases failed
  | case7 before going fault later next other lasting =>
      refine ⟨.single (.fault fault) (.error (.io fault)), before.attempted, rfl,
        turned_attempted next lasting, ?_⟩
      rw [Bool.eq_false_iff.mpr going]
      exact .single (.fatal other lasting)

/-! ## How a call ends -/

section

variable {maxRetries : UInt64} {failures : Nat} {backoff : Backoff} {asked : Bool}
    {left : List (Arrival α)} {turn : Turn α}

theorem Onward.not_ends {met : List (Arrival α)} {last : Arrival α} {result : Except Error Unit}
    (onward : Onward maxRetries failures met) (final : met.getLast? = some last) :
    ¬last.Ends maxRetries (failuresAfter failures met) result := by
  rcases List.getLast?_eq_some_iff.mp final with ⟨past, rfl⟩
  exact onward past last result (List.prefix_refl _)

/-- What a call does, and that it ends in one way rather than another exactly if something has ended
it so: it succeeds if the server was asked to stop or nobody was waiting, and it fails with the
error that its last arrival brings up. -/
structure Turn.Exact (maxRetries : UInt64) (failures : Nat) (backoff : Backoff) (asked : Bool)
    (left : List (Arrival α)) (turn : Turn α) : Prop where
  course : turn.Course maxRetries failures backoff asked left
  succeeds_iff : turn.result = .ok () ↔ asked = true ∨ turn.attempts = turn.met.length + 1 ∨
    ∃ last, turn.met.getLast? = some last ∧
    last.Ends maxRetries (failuresAfter failures turn.met) (.ok ())
  fails_iff : ∀ error, turn.result = .error error ↔ ∃ last, turn.met.getLast? = some last ∧
    last.Ends maxRetries (failuresAfter failures turn.met) (.error error)

theorem Turn.Course.exact (course : turn.Course maxRetries failures backoff asked left) :
    turn.Exact maxRetries failures backoff asked left := by
  refine ⟨course, ?_, ?_⟩
  · cases course with
    | barred stopped => simp [stopped]
    | dry going empty onward => simp
    | @ended met last result going onward ends =>
        rw [List.getLast?_concat]
        constructor
        · rintro rfl
          exact Or.inr (Or.inr ⟨last, rfl, ends⟩)
        · rintro (stopped | more | ⟨other, same, succeeds⟩)
          · rw [going] at stopped
            cases stopped
          · simp at more
          · cases same
            exact ends.unique succeeds
  · intro error
    cases course with
    | barred stopped => simp
    | @dry met going empty onward =>
        constructor
        · intro failed
          cases failed
        · rintro ⟨last, final, ends⟩
          exact absurd ends (onward.not_ends final)
    | @ended met last result going onward ends =>
        rw [List.getLast?_concat]
        constructor
        · rintro rfl
          exact ⟨last, rfl, ends⟩
        · rintro ⟨other, same, fails⟩
          cases same
          exact ends.unique fails

end

/-! ## Any number of calls -/

/-- What a call has done that has changed the queue and ended with a result. -/
def Turn.between (before after : AcceptQueue α) (result : Except Error Unit) : Turn α where
  met := before.arrivals.take (before.arrivals.length - after.arrivals.length)
  attempts := after.attempts - before.attempts
  accepted := after.accepted.drop before.accepted.length
  waits := after.waits.drop before.waits.length
  result := result

/-- The next call. -/
def turn (maxRetries : UInt64) (log : Bool) (before : AcceptQueue α) : Turn α :=
  match drain maxRetries log before with
  | .ok () after => .between before after (.ok ())
  | .error error after => .between before after (.error error)

/-- The queue after the next call. -/
def drained (maxRetries : UInt64) (log : Bool) (before : AcceptQueue α) : AcceptQueue α :=
  match drain maxRetries log before with
  | .ok () after => after
  | .error _ after => after

/-- The next calls, whatever comes of each of them. -/
def turns (maxRetries : UInt64) (log : Bool) : Nat → AcceptQueue α → List (Turn α)
  | 0, _ => []
  | calls + 1, before =>
      turn maxRetries log before :: turns maxRetries log calls (drained maxRetries log before)

/-- The queue after the next calls. -/
def drainedTimes (maxRetries : UInt64) (log : Bool) : Nat → AcceptQueue α → AcceptQueue α
  | 0, before => before
  | calls + 1, before => drainedTimes maxRetries log calls (drained maxRetries log before)

theorem Turned.between_eq {before after : AcceptQueue α} {turn : Turn α}
    (turned : Turned before turn after) :
    Turn.between before after turn.result = turn := by
  rcases turn with ⟨met, attempts, accepted, waits, result⟩
  simp only [Turn.between, Turn.mk.injEq]
  refine ⟨?_, ?_, ?_, ?_, trivial⟩
  · rw [turned.arrivals, List.length_append, Nat.add_sub_cancel, List.take_left' rfl]
  · rw [turned.attempts, Nat.add_sub_cancel_left]
  · rw [turned.accepted, List.drop_left' rfl]
  · rw [turned.waits, List.drop_left' rfl]

theorem turned_turn (maxRetries : UInt64) (log : Bool) {before : AcceptQueue α}
    (countable : Countable before.backoff before.arrivals) :
    Turned before (turn maxRetries log before) (drained maxRetries log before) ∧
      (turn maxRetries log before).Course maxRetries before.backoff.attempts.toNat before.backoff
        before.stopping (drained maxRetries log before).arrivals := by
  rcases exists_turn maxRetries log before countable with ⟨turn, after, done, turned, course⟩
  have same : AcceptQueue.turn maxRetries log before = turn ∧
      drained maxRetries log before = after := by
    have between := turned.between_eq
    simp only [AcceptQueue.turn, drained, done, Turn.finish]
    cases ended : turn.result with
    | ok value =>
        rw [ended] at between
        exact ⟨between, rfl⟩
    | error error =>
        rw [ended] at between
        exact ⟨between, rfl⟩
  rw [same.1, same.2]
  exact ⟨turned, course⟩

/-- What some calls have made of the queue. The arrivals are met in order, and everybody who was
accepted is kept. The backoff counts the failures in a row over all calls. -/
structure Emptied (maxRetries : UInt64) (before : AcceptQueue α) (turns : List (Turn α))
    (after : AcceptQueue α) : Prop where
  arrivals : before.arrivals = turns.flatMap Turn.met ++ after.arrivals
  accepted : after.accepted = before.accepted ++ (turns.flatMap Turn.met).filterMap Arrival.value?
  backoff : after.backoff = (turns.flatMap Turn.met).foldl Backoff.follow before.backoff
  failures : after.backoff.attempts.toNat =
    failuresAfter before.backoff.attempts.toNat (turns.flatMap Turn.met)
  stopping : after.stopping = (before.stopping || (turns.flatMap Turn.met).any Arrival.asksToStop)
  each : ∀ early turn late, turns = early ++ turn :: late →
    turn.Exact maxRetries (failuresAfter before.backoff.attempts.toNat (early.flatMap Turn.met))
      ((early.flatMap Turn.met).foldl Backoff.follow before.backoff)
      (before.stopping || (early.flatMap Turn.met).any Arrival.asksToStop)
      (late.flatMap Turn.met ++ after.arrivals)

theorem Emptied.nil (maxRetries : UInt64) (queue : AcceptQueue α) :
    Emptied maxRetries queue [] queue where
  arrivals := rfl
  accepted := (List.append_nil _).symm
  backoff := rfl
  failures := rfl
  stopping := (Bool.or_false _).symm
  each := by
    intro early turn late split
    exact absurd split.symm (List.append_ne_nil_of_right_ne_nil _ (List.cons_ne_nil _ _))

theorem Emptied.cons {maxRetries : UInt64} {before middle after : AcceptQueue α} {first : Turn α}
    {later : List (Turn α)} (countable : Countable before.backoff before.arrivals)
    (turned : Turned before first middle)
    (course : first.Course maxRetries before.backoff.attempts.toNat before.backoff before.stopping
      middle.arrivals)
    (emptied : Emptied maxRetries middle later after) :
    Emptied maxRetries before (first :: later) after := by
  rw [turned.arrivals] at countable
  have counted : middle.backoff.attempts.toNat =
      failuresAfter before.backoff.attempts.toNat first.met := by
    rw [turned.backoff, countable.attempts_foldl]
  have accepted : first.accepted = first.met.filterMap Arrival.value? := by
    cases course <;> rfl
  constructor
  · rw [turned.arrivals, emptied.arrivals, List.flatMap_cons, List.append_assoc]
  · rw [emptied.accepted, turned.accepted, accepted, List.flatMap_cons, List.filterMap_append,
      List.append_assoc]
  · rw [emptied.backoff, turned.backoff, List.flatMap_cons, List.foldl_append]
  · rw [emptied.failures, counted, List.flatMap_cons, failuresAfter_append]
  · rw [emptied.stopping, turned.stopping, List.flatMap_cons, List.any_append, Bool.or_assoc]
  · intro early turn late split
    rcases early with _ | ⟨head, early⟩
    · rcases List.cons.inj split with ⟨rfl, rfl⟩
      rw [emptied.arrivals] at course
      rw [List.flatMap_nil, List.any_nil, Bool.or_false]
      exact course.exact
    · rcases List.cons.inj split with ⟨rfl, rest⟩
      have each := emptied.each early turn late rest
      rw [counted, turned.backoff, turned.stopping, Bool.or_assoc] at each
      rw [List.flatMap_cons, List.any_append, List.foldl_append, failuresAfter_append]
      exact each

/-- However often the queue is emptied: the arrivals are met one after the other, each connection is
accepted once, and a call ends exactly at the first arrival that ends it, counting the failures in a
row over all calls. -/
theorem queue_is_emptied_in_order (maxRetries : UInt64) (log : Bool) (calls : Nat)
    {before : AcceptQueue α} (countable : Countable before.backoff before.arrivals) :
    (turns maxRetries log calls before).length = calls ∧
      Emptied maxRetries before (turns maxRetries log calls before)
        (drainedTimes maxRetries log calls before) := by
  induction calls generalizing before with
  | zero => exact ⟨rfl, .nil maxRetries before⟩
  | succ calls ih =>
      rcases turned_turn maxRetries log countable with ⟨turned, course⟩
      have later : Countable (drained maxRetries log before).backoff
          (drained maxRetries log before).arrivals := by
        rw [turned.arrivals] at countable
        rw [turned.backoff]
        exact countable.drop
      rcases ih later with ⟨length, emptied⟩
      refine ⟨congrArg Nat.succ length, ?_⟩
      exact .cons countable turned course emptied

/-- Two failures, a connection, a failure, nobody, and two more failures, the last of which is one
too many. -/
def faltering : AcceptQueue Nat :=
  let aborted : Arrival Nat := .fault (.plain .connectionAborted)
  .ofArrivals [aborted, aborted, .connection 1 false, aborted, .fault (.plain .wouldBlock), aborted,
    aborted]
    .fresh false

theorem faltering_is_emptied :
    Countable faltering.backoff faltering.arrivals ∧
      Emptied 2 faltering (turns 2 true 3 faltering) (drainedTimes 2 true 3 faltering) := by
  have countable : Countable faltering.backoff faltering.arrivals := countable_of_length (by decide)
  exact ⟨countable, (queue_is_emptied_in_order 2 true 3 countable).2⟩

end AcceptQueue

end Switchboard
