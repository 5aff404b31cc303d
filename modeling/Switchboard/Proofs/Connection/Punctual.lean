import Switchboard.Proofs.Connection.Closed

/-!
# Deadlines are absolute

Whatever reads or writes under a deadline does so in attempts. Each of them begins with a look at
the clock and gives the transport the time that is left, and only then asks it for anything
(`Attempts`). The first attempt that finds the deadline reached ends the operation, which reports
that it has timed out. This is shown for a single read and a single write, and `Matching` carries it
over to every operation; so it holds in the middle of a loop as well, however little each read
brings.

If the clock never goes back, an operation that has found the deadline reached is the last one that
had any time left for the transport (`Paced`).
-/

namespace Switchboard

namespace Transport

/-- The call is about how long further calls may take. -/
def Call.Limits : Call → Prop
  | .setTimeout .. => True
  | _ => False

/-- The call neither moves bytes nor has to do with time. -/
def Call.Aside : Call → Prop
  | .flush _ | .shutdown _ | .release => True
  | _ => False

end Transport

namespace Connection

/-- The operation is about the deadline itself. -/
def Operation.Redates : Operation → Prop
  | setDeadline _ | clearDeadline => True
  | _ => False

/-! ## Attempts -/

/-- The limit is exactly the time that is left until the deadline, and there is some. -/
structure Fits (deadline now : Instant) (limit : Duration) : Prop where
  positive : 0 < limit.totalNanos
  exact : limit.totalNanos = deadline.nanos - now.nanos

theorem Fits.early {deadline now : Instant} {limit : Duration} (fits : Fits deadline now limit) :
    now.nanos < deadline.nanos := by
  have positive := fits.positive
  have exact := fits.exact
  omega

theorem fits_remaining {deadline now : Instant} (early : (deadline.remaining now).isZero = false) :
    Fits deadline now (deadline.remaining now) := by
  refine ⟨Nat.pos_of_ne_zero fun none => ?_, Instant.totalNanos_remaining deadline now⟩
  rw [← Duration.isZero_iff, early] at none
  cases none

/-- The calls of attempts that have begun before the deadline, the latest call first. -/
inductive Attempts (deadline : Instant) : List Transport.Call → Prop
  | nil : Attempts deadline []
  /-- The transport was given the time that is left, and asked. -/
  | asked {past : List Transport.Call} {now : Instant} {limit : Duration} {call : Transport.Call}
      (attempts : Attempts deadline past) (fits : Fits deadline now limit) (asks : call.Asks) :
      Attempts deadline (call :: .setTimeout (some limit) none :: .clock now :: past)
  /-- The transport could not be given the time, and was not asked. -/
  | unset {past : List Transport.Call} {now : Instant} {limit : Duration} {fault : Fault}
      (attempts : Attempts deadline past) (fits : Fits deadline now limit) :
      Attempts deadline (.setTimeout (some limit) (some fault) :: .clock now :: past)

/-- What an attempt has done before each of its calls. -/
theorem Attempts.place {deadline : Instant} {calls earlier : List Transport.Call}
    {call : Transport.Call} (attempts : Attempts deadline calls)
    (among : call :: earlier <:+ calls) :
    (call.Asks ∧ ∃ limit now past, earlier = .setTimeout (some limit) none :: .clock now :: past ∧
        Fits deadline now limit) ∨
      (∃ limit fault now past, call = .setTimeout (some limit) fault ∧
        earlier = .clock now :: past ∧
        Fits deadline now limit) ∨
      ∃ now, call = .clock now ∧ now.nanos < deadline.nanos := by
  induction attempts with
  | nil => cases List.suffix_nil.mp among
  | asked attempts fits asks ih =>
      simp only [List.suffix_cons_iff, List.cons.injEq] at among
      rcases among with ⟨rfl, rfl⟩ | ⟨rfl, rfl⟩ | ⟨rfl, _⟩ | among
      · exact Or.inl ⟨asks, _, _, _, rfl, fits⟩
      · exact Or.inr (Or.inl ⟨_, _, _, _, rfl, rfl, fits⟩)
      · exact Or.inr (Or.inr ⟨_, rfl, fits.early⟩)
      · exact ih among
  | unset attempts fits ih =>
      simp only [List.suffix_cons_iff, List.cons.injEq] at among
      rcases among with ⟨rfl, rfl⟩ | ⟨rfl, _⟩ | among
      · exact Or.inr (Or.inl ⟨_, _, _, _, rfl, rfl, fits⟩)
      · exact Or.inr (Or.inr ⟨_, rfl, fits.early⟩)
      · exact ih among

namespace Attempts

variable {deadline : Instant} {calls earlier : List Transport.Call}
    (attempts : Attempts deadline calls)

include attempts

theorem fits_of_asks {call : Transport.Call} (among : call :: earlier <:+ calls)
    (asks : call.Asks) :
    ∃ limit now past, earlier = .setTimeout (some limit) none :: .clock now :: past ∧
      Fits deadline now limit := by
  rcases attempts.place among with ⟨_, placed⟩ | ⟨_, _, _, _, rfl, _⟩ | ⟨_, rfl, _⟩
  · exact placed
  · cases asks
  · cases asks

theorem fits_of_limit {limit : Option Duration} {fault : Option Fault}
    (among : .setTimeout limit fault :: earlier <:+ calls) :
    ∃ left now past, limit = some left ∧ earlier = .clock now :: past ∧ Fits deadline now left := by
  rcases attempts.place among with ⟨asks, _⟩ | ⟨left, _, now, past, same, rest, fits⟩ | ⟨_, same, _⟩
  · cases asks
  · cases same
    exact ⟨left, now, past, rfl, rest, fits⟩
  · cases same

theorem clock_of_unset {next : Transport.Call} {limit : Option Duration} {fault : Fault}
    (among : next :: .setTimeout limit (some fault) :: earlier <:+ calls) :
    ∃ now, next = .clock now := by
  rcases attempts.place among with ⟨_, _, _, _, same, _⟩ | ⟨_, _, _, _, _, same, _⟩ | ⟨now, same, _⟩
  · cases same
  · cases same
  · exact ⟨now, same⟩

theorem early_of_clock {now : Instant} (among : .clock now :: earlier <:+ calls) :
    now.nanos < deadline.nanos := by
  rcases attempts.place among with ⟨asks, _⟩ | ⟨_, _, _, _, same, _⟩ | ⟨_, same, early⟩
  · cases asks
  · cases same
  · cases same
    exact early

end Attempts

/-! ## An operation under a deadline -/

/-- The connection after some attempts. -/
def Attempted (deadline : Instant) (start after : Connection) : Prop :=
  after.deadline = some deadline ∧
    ∃ calls, after.transport.journal = calls ++ start.transport.journal ∧
    Attempts deadline calls

/-- The connection after an attempt that came too late. -/
def Missed (deadline : Instant) (start : Connection) (fault : Fault) (after : Connection) : Prop :=
  fault = .pastDeadline ∧
    ∃ now past, after.transport.journal = .clock now :: past ++ start.transport.journal ∧
    deadline.nanos ≤ now.nanos ∧ Attempts deadline past

/-- Arming under a deadline looks at the clock, and sets a time limit unless it is too late. -/
theorem arm_of_dated {before : Connection} {deadline : Instant}
    (dated : before.deadline = some deadline) :
    (deadline.nanos ≤ before.transport.clock.now.nanos ∧
        arm before = .error .pastDeadline
          { before with transport := before.transport.readClock.2 }) ∨
      ∃ limit outcome after, Fits deadline before.transport.clock.now limit ∧
      after.deadline = some deadline ∧
        after.transport.journal =
          .setTimeout (some limit) outcome :: .clock before.transport.clock.now ::
            before.transport.journal ∧
        ((outcome = none ∧ arm before = .ok () after) ∨
          ∃ fault, outcome = some fault ∧ arm before = .error fault after) := by
  rcases arm_cases before with ⟨untimed, _⟩ | ⟨same, timed, ⟨reached, late⟩ | ⟨early, set⟩⟩
  · rw [dated] at untimed
    cases untimed
  · rw [dated, Option.some.injEq] at timed
    cases timed
    exact Or.inl ⟨(Instant.remaining_isZero_iff _ _).mp reached, late⟩
  · rw [dated, Option.some.injEq] at timed
    cases timed
    have fits := fits_remaining early
    rw [set]
    simp only [onTransport, Transport.setTimeout, Transport.readClock]
    cases before.transport.timeoutFaults.head?.join with
    | none =>
        refine Or.inr ⟨_, none, _, fits, ?_, ?_, Or.inl ⟨rfl, rfl⟩⟩
        · exact dated
        · rfl
    | some fault =>
        refine Or.inr ⟨_, some fault, _, fits, ?_, ?_, Or.inr ⟨fault, rfl, rfl⟩⟩
        · exact dated
        · rfl

/-- Arming and asking make one attempt. -/
theorem mirrors_attempt {α : Type} (deadline : Instant) (start : Connection)
    {action : EStateM Fault Connection α}
    (asks : ∀ before, ∃ call : Transport.Call, call.Asks ∧
      Entered call before (settled (action before))) :
    (Comparison.alone (Attempted deadline start) (Missed deadline start)).Mirrors
      (arm >>= fun _ => action) (arm >>= fun _ => action) := by
  rintro before _ ⟨rfl, dated, past, journal, attempts⟩
  simp only [Bind.bind, EStateM.bind]
  rcases arm_of_dated dated with ⟨reached, late⟩ |
    ⟨limit, _, after, fits, still, entered, ⟨rfl, armed⟩ | ⟨fault, rfl, armed⟩⟩
  · rw [late]
    refine .cut ⟨rfl, before.transport.clock.now, past, ?_, reached, attempts⟩
    simp only [Transport.readClock, journal, List.cons_append]
  · rcases asks after with ⟨call, asking, last⟩
    rw [armed]
    refine agree_alone ⟨last.deadline.trans still, _, ?_, attempts.asked fits asking⟩
    rw [last.journal, entered, journal]
    rfl
  · rw [armed]
    refine .error ⟨rfl, still, .setTimeout (some limit) (some fault) :: .clock _ :: past, ?_,
      attempts.unset fits⟩
    rw [entered, journal]
    rfl

theorem matching_attempted (deadline : Instant) (start : Connection) :
    Matching (.alone (Attempted deadline start) (Missed deadline start))
      (.alone (Attempted deadline start) fun error after => ∃ fault, error = .io fault ∧
        Missed deadline start fault after) := by
  refine matching_alone ?_ ?_ (fun asked => mirrors_attempt deadline start (entered_read asked))
    fun offered => mirrors_attempt deadline start (entered_write offered)
  · rintro _ _ ⟨rfl, _⟩
    decide
  · rintro _ _ ⟨rfl, _⟩
    decide

/-- What a deadline means for an operation. Its calls are given with the latest first, so what
stands behind a call has been done before it. -/
structure Punctual (deadline : Instant) (operation : Operation) (before : Connection) : Prop where
  /-- Right before each read or write the transport was given the time that was left. -/
  asked : ∀ call earlier, call :: earlier <:+ operation.calls before → call.Asks →
    ∃ limit now past, earlier = .setTimeout (some limit) none :: .clock now :: past ∧
    Fits deadline now limit
  /-- Each time limit is what was left when the clock was looked at, right before. -/
  limited : ∀ limit fault earlier, .setTimeout limit fault :: earlier <:+ operation.calls before →
    ∃ left now past, limit = some left ∧ earlier = .clock now :: past ∧ Fits deadline now left
  /-- If the time could not be set, whatever comes next has to look at the clock anew. -/
  unset : ∀ next limit fault earlier, next :: .setTimeout limit (some fault) :: earlier <:+
    operation.calls before →
    ∃ now, next = .clock now
  /-- The deadline was reached, so nothing came next. -/
  late : ∀ now earlier, .clock now :: earlier <:+ operation.calls before →
    deadline.nanos ≤ now.nanos →
    operation.calls before = .clock now :: earlier ∧
      (operation.perform before).report = operation.faulting .pastDeadline

theorem punctual_of_attempted {deadline : Instant} {operation : Operation} {before : Connection}
    (attempted : Attempted deadline before (operation.perform before).after) :
    Punctual deadline operation before := by
  rcases attempted with ⟨_, calls, grown, attempts⟩
  constructor
  all_goals rw [Operation.calls_eq grown]
  · exact fun call earlier => attempts.fits_of_asks
  · exact fun limit fault earlier => attempts.fits_of_limit
  · exact fun next limit fault earlier => attempts.clock_of_unset
  · intro now earlier among reached
    exact absurd reached (Nat.not_le.mpr (attempts.early_of_clock among))

theorem punctual_of_missed {deadline : Instant} {operation : Operation} {before : Connection}
    {fault : Fault} (reports : (operation.perform before).report = operation.faulting fault)
    (missed : Missed deadline before fault (operation.perform before).after) :
    Punctual deadline operation before := by
  rcases missed with ⟨rfl, now, past, grown, reached, attempts⟩
  constructor
  all_goals
    rw [Operation.calls_eq grown]
    simp only [List.suffix_cons_iff]
  · rintro call earlier (first | among) asks
    · cases first
      cases asks
    · exact attempts.fits_of_asks among asks
  · rintro limit fault earlier (first | among)
    · cases first
    · exact attempts.fits_of_limit among
  · rintro next limit fault earlier (first | among)
    · cases first
      exact ⟨now, rfl⟩
    · exact attempts.clock_of_unset among
  · rintro seen earlier (first | among) passed
    · cases first
      exact ⟨rfl, reports⟩
    · exact absurd passed (Nat.not_le.mpr (attempts.early_of_clock among))

theorem punctual_of_aside {operation : Operation} {before : Connection}
    (aside : ∀ call ∈ operation.calls before, call.Aside) (deadline : Instant) :
    Punctual deadline operation before := by
  have besides {call : Transport.Call} {earlier : List Transport.Call}
      (among : call :: earlier <:+ operation.calls before) : call.Aside :=
    aside call (among.subset List.mem_cons_self)
  constructor
  · intro call earlier among asks
    have both := besides among
    cases call with
    | read | write => cases both
    | _ => cases asks
  · intro limit fault earlier among
    cases besides among
  · intro next limit fault earlier among
    cases besides ((List.suffix_cons _ _).trans among)
  · intro now earlier among
    cases besides among

/-- The connection after some calls that have nothing to do with time. -/
structure Apart (calls : List Transport.Call) (before after : Connection) : Prop where
  journal : after.transport.journal = calls ++ before.transport.journal
  aside : ∀ call ∈ calls, call.Aside
  clock : after.transport.clock = before.transport.clock
  deadline : after.deadline = before.deadline

theorem Apart.none (connection : Connection) : Apart [] connection connection :=
  ⟨rfl, by simp, rfl, rfl⟩

theorem Apart.one {call : Transport.Call} {before after : Connection}
    (entered : Entered call before after) (aside : call.Aside) : Apart [call] before after :=
  ⟨entered.journal, by simpa using aside, entered.clock, entered.deadline⟩

/-- An operation that neither transfers anything nor is about the deadline has nothing to do with
time. -/
theorem apart_perform {operation : Operation} (still : ¬operation.Transfers)
    (undated : ¬operation.Redates) (before : Connection) :
    ∃ calls, Apart calls before (operation.perform before).after := by
  rcases operation.transfers_or with transfers | ⟨deadline, rfl⟩ | rfl | ⟨limit, rfl⟩ | rfl | rfl
  · exact absurd transfers still
  · exact absurd trivial undated
  · exact absurd trivial undated
  · exact ⟨[], rfl, by simp, rfl, rfl⟩
  · rcases entered_flush before with ⟨fault, entered⟩
    simp only [Operation.perform, flush, unlessClosed]
    cases before.closed with
    | true => exact ⟨_, .none before⟩
    | false =>
        simp only [Bool.false_eq_true, if_false]
        cases step : onTransport Transport.flush before with
        | ok value after =>
            rw [step] at entered
            exact ⟨_, .one entered trivial⟩
        | error fault after =>
            rw [step] at entered
            exact ⟨_, .one entered trivial⟩
  · rw [(closing_perform before).after]
    split
    · exact ⟨_, .none before⟩
    · refine ⟨[.shutdown before.transport.shutdownFaults.head?.join], rfl, ?_, rfl, rfl⟩
      exact List.forall_mem_singleton.mpr trivial

/-- Under a deadline every operation that leaves it alone is punctual. -/
theorem punctual_perform {before : Connection} {deadline : Instant}
    (dated : before.deadline = some deadline) {operation : Operation}
    (undated : ¬operation.Redates) :
    Punctual deadline operation before := by
  by_cases transfers : operation.Transfers
  · have start : Attempted deadline before before := ⟨dated, [], rfl, .nil⟩
    rcases (matching_attempted deadline before).perform ⟨rfl, start⟩ transfers with
      ⟨_, attempted⟩ | ⟨fault, reports, missed⟩
    · exact punctual_of_attempted attempted.2
    · exact punctual_of_missed reports missed
  · rcases apart_perform transfers undated before with ⟨calls, apart⟩
    refine punctual_of_aside ?_ deadline
    rw [Operation.calls_eq apart.journal]
    exact apart.aside

/-! ## Without a deadline -/

/-- A connection without a deadline after some reads and writes. -/
def OnlyAsked (start after : Connection) : Prop :=
  after.deadline = none ∧ ∃ calls, after.transport.journal = calls ++ start.transport.journal ∧
    ∀ call ∈ calls, call.Asks

theorem mirrors_onlyAsked {α : Type} (start : Connection) {action : EStateM Fault Connection α}
    (asks : ∀ before, ∃ call : Transport.Call, call.Asks ∧
      Entered call before (settled (action before))) :
    (Comparison.alone (OnlyAsked start) fun _ _ => False).Mirrors (arm >>= fun _ => action)
      (arm >>= fun _ => action) := by
  rintro before _ ⟨rfl, untimed, past, journal, only⟩
  simp only [Bind.bind, EStateM.bind, arm_of_untimed untimed]
  rcases asks before with ⟨call, asking, entered⟩
  refine agree_alone ⟨entered.deadline.trans untimed, call :: past, ?_, ?_⟩
  · rw [entered.journal, journal]
    rfl
  · exact List.forall_mem_cons.mpr ⟨asking, only⟩

theorem matching_onlyAsked (start : Connection) :
    Matching (.alone (OnlyAsked start) fun _ _ => False)
      (.alone (OnlyAsked start) fun error _ => ∃ fault, error = .io fault ∧ False) :=
  matching_alone (fun never => absurd never not_false) (fun never => absurd never not_false)
    (fun asked => mirrors_onlyAsked start (entered_read asked))
    fun offered => mirrors_onlyAsked start (entered_write offered)

/-- Without a deadline no time limit is ever set. -/
theorem unlimited_perform {before : Connection} (untimed : before.deadline = none)
    {operation : Operation} (undated : ¬operation.Redates) :
    ∀ call ∈ operation.calls before, ¬call.Limits := by
  by_cases transfers : operation.Transfers
  · rcases (matching_onlyAsked before).perform ⟨rfl, untimed, [], rfl, by simp⟩ transfers with
      ⟨_, _, _, calls, grown, only⟩ | ⟨_, _, never⟩
    · rw [Operation.calls_eq grown]
      intro call among limits
      have asks := only call among
      cases call with
      | setTimeout => cases asks
      | _ => cases limits
    · exact absurd never not_false
  · rcases apart_perform transfers undated before with ⟨calls, apart⟩
    rw [Operation.calls_eq apart.journal]
    intro call among limits
    have aside := apart.aside call among
    cases call with
    | setTimeout => cases aside
    | _ => cases limits

/-! ## The clock over a run -/

/-- What has happened since a connection was at an earlier point: its clock has gone on, past every
time that was read. -/
structure Paced (before after : Connection) : Prop where
  readings : after.transport.clock.readings <:+ before.transport.clock.readings
  grown : ∃ calls, after.transport.journal = calls ++ before.transport.journal ∧
    ∀ now, .clock now ∈ calls → now ∈ before.transport.clock.readings ∧
      (before.transport.clock.Steady → ∀ later ∈ after.transport.clock.readings,
        now.nanos ≤ later.nanos)

theorem Paced.refl (connection : Connection) : Paced connection connection :=
  ⟨List.suffix_refl _, [], rfl, fun _ among => absurd among List.not_mem_nil⟩

theorem Paced.trans {first second third : Connection} (early : Paced first second)
    (late : Paced second third) :
    Paced first third := by
  rcases early.grown with ⟨earlier, first_grown, shown⟩
  rcases late.grown with ⟨later, second_grown, shownLater⟩
  refine ⟨late.readings.trans early.readings, later ++ earlier, ?_, ?_⟩
  · rw [second_grown, first_grown, List.append_assoc]
  · intro now among
    rcases List.mem_append.mp among with among | among
    · rcases shownLater now among with ⟨reading, after⟩
      exact ⟨early.readings.subset reading, fun steady => after (steady.of_suffix early.readings)⟩
    · rcases shown now among with ⟨reading, after⟩
      exact ⟨reading, fun steady next ahead => after steady next (late.readings.subset ahead)⟩

theorem Paced.of_call {call : Transport.Call} {before after : Connection}
    (journal : after.transport.journal = call :: before.transport.journal)
    (clock : after.transport.clock = before.transport.clock) (other : ∀ now, call ≠ .clock now) :
    Paced before after := by
  refine ⟨?_, [call], journal, ?_⟩
  · simp only [clock, List.suffix_refl]
  · intro now among
    exact absurd (List.mem_singleton.mp among).symm (other now)

theorem paced_readClock (connection : Connection) :
    Paced connection { connection with transport := connection.transport.readClock.2 } := by
  refine ⟨Clock.readings_tick _, [.clock connection.transport.clock.now], rfl, ?_⟩
  intro now among
  cases List.mem_singleton.mp among
  exact ⟨List.mem_cons_self, fun steady later ahead =>
    steady.now_le ((Clock.readings_tick _).subset ahead)⟩

theorem unbroken_paced : Unbroken Paced where
  refl := .refl
  trans := .trans
  readClock := paced_readClock
  setTimeout limit before := by
    rcases entered_setTimeout limit before with ⟨fault, entered⟩
    exact .of_call entered.journal entered.clock fun _ => Transport.Call.noConfusion
  read asked before := by
    rcases entered_read asked before with ⟨call, asks, entered⟩
    refine .of_call entered.journal entered.clock ?_
    rintro now rfl
    exact asks
  write offered before := by
    rcases entered_write offered before with ⟨call, asks, entered⟩
    refine .of_call entered.journal entered.clock ?_
    rintro now rfl
    exact asks

theorem Apart.paced {calls : List Transport.Call} {before after : Connection}
    (apart : Apart calls before after) :
    Paced before after := by
  refine ⟨?_, calls, apart.journal, fun now among => ?_⟩
  · simp only [apart.clock, List.suffix_refl]
  · cases apart.aside _ among

theorem deadline_perform {operation : Operation} (undated : ¬operation.Redates)
    (before : Connection) :
    (operation.perform before).after.deadline = before.deadline := by
  by_cases transfers : operation.Transfers
  · exact (unbroken_kept.perform before transfers).deadline
  · rcases apart_perform transfers undated before with ⟨_, apart⟩
    exact apart.deadline

theorem paced_perform {operation : Operation} (undated : ¬operation.Redates) (before : Connection) :
    Paced before (operation.perform before).after := by
  by_cases transfers : operation.Transfers
  · exact unbroken_paced.perform before transfers
  · rcases apart_perform transfers undated before with ⟨_, apart⟩
    exact apart.paced

/-- What a run keeps of the deadline, and how its clock goes on. -/
theorem undergo_undated {operations : List Operation}
    (undated : ∀ operation ∈ operations, ¬operation.Redates) (before : Connection) :
    (undergo operations before).deadline = before.deadline ∧
      Paced before (undergo operations before) := by
  induction operations generalizing before with
  | nil => exact ⟨rfl, .refl _⟩
  | cons operation later ih =>
      have first := undated operation List.mem_cons_self
      rcases ih (fun next among => undated next (List.mem_cons_of_mem _ among))
        (operation.perform before).after with
        ⟨same, paced⟩
      exact ⟨same.trans (deadline_perform first before), (paced_perform first before).trans paced⟩

/-- What a deadline means for a run. -/
structure Bound (deadline : Instant) (before : Connection) (operations : List Operation) :
    Prop where
  punctual : ∀ past operation rest, operations = past ++ operation :: rest →
    Punctual deadline operation (undergo past before)
  /-- Once the deadline was seen to be reached, everything that needs the transport times out. -/
  expired : before.transport.clock.Steady → ∀ past operation between next rest,
    operations = past ++ operation :: between ++ next :: rest →
      ∀ now, .clock now ∈ operation.calls (undergo past before) → deadline.nanos ≤ now.nanos →
        ∀ call ∈ next.calls (undergo (past ++ operation :: between) before), call.Aside ∨
          ∃ later, call = .clock later ∧ deadline.nanos ≤ later.nanos ∧
            (next.perform (undergo (past ++ operation :: between) before)).report =
              next.faulting .pastDeadline

/-- If the clock shows nothing before the deadline any more, the transport is asked for nothing. -/
theorem Punctual.of_reached {deadline : Instant} {operation : Operation} {before : Connection}
    (punctual : Punctual deadline operation before)
    (reached : ∀ now, .clock now ∈ operation.calls before → deadline.nanos ≤ now.nanos) :
    ∀ call ∈ operation.calls before, call.Aside ∨
      ∃ now, call = .clock now ∧ deadline.nanos ≤ now.nanos ∧
        (operation.perform before).report = operation.faulting .pastDeadline := by
  intro call among
  rcases List.append_of_mem among with ⟨later, earlier, split⟩
  have place : call :: earlier <:+ operation.calls before := ⟨later, split.symm⟩
  have late {now : Instant} {limit : Duration} (fits : Fits deadline now limit)
      (behind : .clock now ∈ earlier) : False := by
    have passed := reached now (place.subset (List.mem_cons_of_mem _ behind))
    exact absurd fits.early (Nat.not_lt.mpr passed)
  cases call with
  | flush | shutdown | release => exact Or.inl trivial
  | clock now =>
      exact Or.inr ⟨now, rfl, reached now among,
        (punctual.late now earlier place (reached now among)).2⟩
  | setTimeout limit fault =>
      rcases punctual.limited limit fault earlier place with ⟨_, now, past, _, rfl, fits⟩
      exact absurd (late fits List.mem_cons_self) not_false
  | read | write =>
      rcases punctual.asked _ earlier place trivial with ⟨_, now, past, rfl, fits⟩
      exact absurd (late fits (List.mem_cons_of_mem _ List.mem_cons_self)) not_false

/-- Every time that an operation has read was still ahead of the clock before it, and has passed
after it. -/
theorem Paced.of_seen {operation : Operation} {before : Connection}
    (paced : Paced before (operation.perform before).after) {now : Instant}
    (seen : .clock now ∈ operation.calls before) :
    now ∈ before.transport.clock.readings ∧ (before.transport.clock.Steady →
      ∀ later ∈ (operation.perform before).after.transport.clock.readings,
        now.nanos ≤ later.nanos) := by
  rcases paced.grown with ⟨calls, grown, shown⟩
  rw [Operation.calls_eq grown] at seen
  exact shown now seen

/-- Once the deadline was seen to be reached, the clock shows nothing before it any more. -/
theorem passed_for_good {before : Connection} (steady : before.transport.clock.Steady)
    {deadline : Instant} {operation : Operation} (undated : ¬operation.Redates)
    {between : List Operation} (undatedBetween : ∀ other ∈ between, ¬other.Redates) {now : Instant}
    (seen : .clock now ∈ operation.calls before) (passed : deadline.nanos ≤ now.nanos) :
    ∀ later ∈ (undergo (operation :: between) before).transport.clock.readings,
      deadline.nanos ≤ later.nanos := by
  intro later ahead
  have first := paced_perform undated before
  have middle := (undergo_undated undatedBetween (operation.perform before).after).2
  exact Nat.le_trans passed ((first.of_seen seen).2 steady later (middle.readings.subset ahead))

/-- Whatever a later operation reads from the clock has reached the deadline, too. -/
theorem reached_for_good {before : Connection} (steady : before.transport.clock.Steady)
    {deadline : Instant} {operation : Operation} (undated : ¬operation.Redates)
    {between : List Operation} (undatedBetween : ∀ other ∈ between, ¬other.Redates)
    {next : Operation} (undatedNext : ¬next.Redates) {now : Instant}
    (seen : .clock now ∈ operation.calls before) (passed : deadline.nanos ≤ now.nanos) :
    ∀ later, .clock later ∈ next.calls (undergo (operation :: between) before) →
      deadline.nanos ≤ later.nanos := by
  intro later shown
  have last := paced_perform undatedNext (undergo (operation :: between) before)
  exact passed_for_good steady undated undatedBetween seen passed later (last.of_seen shown).1

theorem bound {before : Connection} {deadline : Instant} (dated : before.deadline = some deadline)
    {operations : List Operation} (undated : ∀ operation ∈ operations, ¬operation.Redates) :
    Bound deadline before operations := by
  have punctual (past : List Operation) (operation : Operation) (rest : List Operation)
      (split : operations = past ++ operation :: rest) :
        Punctual deadline operation (undergo past before) := by
    subst split
    rcases List.forall_mem_append.mp undated with ⟨earlier, later⟩
    exact punctual_perform ((undergo_undated earlier before).1.trans dated)
      (later operation List.mem_cons_self)
  refine ⟨punctual, ?_⟩
  -- The clock does not go back, so a later operation cannot find any time left.
  intro steady past operation between next rest split now seen passed
  refine (punctual _ next rest split).of_reached ?_
  subst split
  simp only [List.append_assoc, List.cons_append, List.forall_mem_append, List.forall_mem_cons]
    at undated
  rcases undated with ⟨earlier, first, middle, last, _⟩
  have paced := (undergo_undated earlier before).2
  rw [undergo_append]
  exact reached_for_good (steady.of_suffix paced.readings) first middle last seen passed

/-- A deadline is absolute. Every single read and write under it is given what is left of the time
and nothing more, however many of them an operation makes and whatever they bring. The first one
that comes too late ends its operation, and nothing is read or written after that. Without a
deadline no time limit is set. -/
theorem deadline_is_absolute (before : Connection) {operations : List Operation}
    (undated : ∀ operation ∈ operations, ¬operation.Redates) :
    (∀ deadline, before.deadline = some deadline → Bound deadline before operations) ∧
      (before.deadline = none → ∀ past operation rest, operations = past ++ operation :: rest →
        ∀ call ∈ operation.calls (undergo past before), ¬call.Limits) := by
  refine ⟨fun deadline dated => bound dated undated, ?_⟩
  rintro untimed past operation rest rfl
  rcases List.forall_mem_append.mp undated with ⟨earlier, later⟩
  exact unlimited_perform ((undergo_undated earlier before).1.trans untimed)
    (later operation List.mem_cons_self)

/-- A connection at which the bytes come one by one, and which has time for two of them. -/
def trickling : Connection :=
  { ofTransport
      ⟨"peer", [.data 1 [], .data 2 [], .data 3 []], [], [], [], [],
        ⟨⟨5, by decide⟩, [⟨8, by decide⟩, ⟨9, by decide⟩]⟩, []⟩ with
    deadline := some ⟨9, by decide⟩ }

theorem trickle_is_cut_off :
    let operations := [.read 4, .read 4, .read 4, .write [7]]
    (∀ operation ∈ operations, ¬operation.Redates) ∧ trickling.deadline = some ⟨9, by decide⟩ ∧
      trickling.transport.clock.Steady ∧ Bound ⟨9, by decide⟩ trickling operations ∧
      (undergo operations trickling).transport.unread = 1 ∧
      (undergo operations trickling).transport.sent = [] := by
  intro operations
  have undated : ∀ operation ∈ operations, ¬operation.Redates := by
    simp only [operations, List.forall_mem_cons]
    exact ⟨not_false, not_false, not_false, not_false, by simp⟩
  refine ⟨undated, rfl, ?_, (deadline_is_absolute trickling undated).1 _ rfl, rfl, rfl⟩
  simp [trickling, ofTransport, Clock.Steady, Clock.readings]

end Connection

end Switchboard
