import Switchboard.Proofs.Connection.Respects
import Switchboard.Proofs.Stream.Remainder

/-!
# Frames and pieces of frames

A caller may go on after a write has failed, and a connection does not hold that against it: it
stays open, and the next frame is written like any other. So what the peer gets is one piece for
each call, in the order of the calls. A call that succeeds leaves its whole frame, and one that
fails a strict beginning of it, or nothing at all.

As long as every call leaves its whole frame or nothing, the bytes are whole frames and a part of
the one that is under way (`Orderly`). This ends with the first frame that stays incomplete, because
nothing keeps the next frame from following it (`sent_behind_cut`).

The bytes are looked at in the middle of a call, too. For that the journal is used, out of which
nothing is ever taken: a moment of a run is a journal between that of the beginning and that of the
end.
-/

namespace Switchboard

namespace Transport

theorem sentBy_append (late early : List Call) :
    sentBy (late ++ early) = sentBy early ++ sentBy late := by
  simp [sentBy]

theorem sentBy_within {early past late : List Call} (begun : early <:+ past) (going : past <:+ late)
    {piece : Bytes} (sent : sentBy late = sentBy early ++ piece) :
    ∃ part, sentBy past = sentBy early ++ part ∧ part <+: piece := by
  rcases begun with ⟨first, rfl⟩
  rcases going with ⟨second, rfl⟩
  refine ⟨sentBy first, sentBy_append _ _, sentBy second, ?_⟩
  rw [sentBy_append, sentBy_append, List.append_assoc] at sent
  exact List.append_cancel_left sent

end Transport

namespace Connection

/-! ## The journal -/

/-- Nothing is taken out of the journal. -/
def Lasting {α ε : Type} (action : EStateM ε Connection α) : Prop :=
  ∀ before, before.transport.journal <:+ (settled (action before)).transport.journal

theorem unbroken_journal :
    Unbroken fun before after => before.transport.journal <:+ after.transport.journal where
  refl _ := List.suffix_refl _
  trans early late := early.trans late
  readClock _ := List.suffix_cons _ _
  setTimeout limit before := by
    rcases entered_setTimeout limit before with ⟨_, entered⟩
    exact entered.journal ▸ List.suffix_cons _ _
  read asked before := by
    rcases entered_read asked before with ⟨_, _, entered⟩
    exact entered.journal ▸ List.suffix_cons _ _
  write offered before := by
    rcases entered_write offered before with ⟨_, _, entered⟩
    exact entered.journal ▸ List.suffix_cons _ _

theorem lasting_writeMessage (message : Bytes) : Lasting (writeMessage message) :=
  unbroken_journal.writeMessage message

/-! ## What is sent -/

/-- What a caller has a connection write. -/
inductive Sending
  | header (announced : Header)
  | bytes (endpoint : String) (body : Bytes)
  | text (endpoint content : String)
  /-- Everything that a source has. -/
  | drained (endpoint : String) (source : Source)

/-- The header or frame as a whole. There is none if the source fails. -/
def Sending.wire : Sending → Bytes
  | .header announced => announced.encode
  | .bytes endpoint body => frame endpoint body
  | .text endpoint content => frame endpoint (Utf8.encode content)
  | .drained endpoint source =>
      match source.outlook.stop with
      | none => frame endpoint source.outlook.data
      | some _ => []

def Sending.perform : Sending → EStateM Error Connection Nat
  | .header announced => writeHeader announced
  | .bytes endpoint body => writeFramed endpoint body
  | .text endpoint content => writeFramedText endpoint content
  | .drained endpoint source => fun before =>
      match writeFramedFrom endpoint (before, source) with
      | .ok count (after, _) => .ok count after
      | .error error (after, _) => .error error after

inductive Act
  | send (sending : Sending)
  | setDeadline (deadline : Instant)
  | clearDeadline

/-- What an act has to write. -/
def Act.wire : Act → Bytes
  | .send sending => sending.wire
  | _ => []

def Act.perform (before : Connection) : Act → Connection
  | .send sending => settled (sending.perform before)
  | .setDeadline deadline => settled (Connection.setDeadline deadline before)
  | .clearDeadline => settled (Connection.clearDeadline before)

/-- The connection after several acts, some of which may have failed. -/
def carry : List Act → Connection → Connection
  | [], before => before
  | act :: later, before => carry later (act.perform before)

/-- A call, how it has ended, and the bytes that were sent meanwhile. -/
structure Attempt where
  sending : Sending
  result : Except Error Nat
  piece : Bytes

def Sending.attempt (sending : Sending) (before : Connection) : Attempt :=
  match sending.perform before with
  | .ok count after =>
      ⟨sending, .ok count, after.transport.sent.drop before.transport.sent.length⟩
  | .error error after =>
      ⟨sending, .error error, after.transport.sent.drop before.transport.sent.length⟩

def Act.attempts (before : Connection) : Act → List Attempt
  | .send sending => [sending.attempt before]
  | _ => []

def attempts : List Act → Connection → List Attempt
  | [], _ => []
  | act :: later, before => act.attempts before ++ attempts later (act.perform before)

/-- A success has sent the whole frame, and a failure nothing or a strict beginning of it. -/
def Attempt.Faithful (attempt : Attempt) : Prop :=
  match attempt.result with
  | .ok count => attempt.piece = attempt.sending.wire ∧ count = attempt.sending.wire.length
  | .error _ =>
      attempt.piece = [] ∨
        (attempt.piece <+: attempt.sending.wire ∧ attempt.piece ≠ attempt.sending.wire)

def Attempt.Complete (attempt : Attempt) : Prop :=
  attempt.piece = [] ∨ attempt.piece = attempt.sending.wire

theorem Attempt.Faithful.piece_prefix {attempt : Attempt} (faithful : attempt.Faithful) :
    attempt.piece <+: attempt.sending.wire := by
  rcases attempt with ⟨sending, count | error, piece⟩
  · rcases faithful with empty | ⟨beginning, _⟩
    · exact empty ▸ List.nil_prefix
    · exact beginning
  · exact faithful.1 ▸ List.prefix_refl _

/-! ## One call -/

/-- What acts leave of a connection: it stays open, and the bytes are the pieces of the calls. -/
structure Carries (before after : Connection) (calls : List Attempt) : Prop where
  isOpen : after.closed = false
  journal : before.transport.journal <:+ after.transport.journal
  sent : after.transport.sent = before.transport.sent ++ calls.flatMap Attempt.piece
  faithful : ∀ attempt ∈ calls, attempt.Faithful

theorem Carries.refl {connection : Connection} (isOpen : connection.closed = false) :
    Carries connection connection [] := by
  refine ⟨isOpen, List.suffix_refl _, ?_, ?_⟩
  · simp
  · simp

theorem Carries.trans {first second third : Connection} {early late : List Attempt}
    (before : Carries first second early) (after : Carries second third late) :
    Carries first third (early ++ late) := by
  refine ⟨after.isOpen, before.journal.trans after.journal, ?_, ?_⟩
  · rw [after.sent, before.sent, List.flatMap_append, List.append_assoc]
  · intro attempt among
    rcases List.mem_append.mp among with among | among
    · exact before.faithful attempt among
    · exact after.faithful attempt among

theorem Carries.single {before after : Connection} {attempt : Attempt}
    (isOpen : after.closed = false) (journal : before.transport.journal <:+ after.transport.journal)
    (sent : after.transport.sent = before.transport.sent ++ attempt.piece)
    (faithful : attempt.Faithful) : Carries before after [attempt] := by
  refine ⟨isOpen, journal, ?_, ?_⟩
  · simpa using sent
  · simpa using faithful

/-- Every call writes its frame as one message, unless its source fails. -/
theorem perform_cases {before : Connection} (isOpen : before.closed = false) (sending : Sending) :
    sending.perform before = writeMessage sending.wire before ∨
      (sending.wire = [] ∧ ∃ error, sending.perform before = .error error before) := by
  cases sending with
  | header announced => exact Or.inl rfl
  | bytes endpoint body => exact Or.inl rfl
  | text endpoint content => exact Or.inl rfl
  | drained endpoint source =>
      simp only [Sending.perform, Sending.wire, writeFramedFrom_of_open isOpen]
      cases source.outlook.stop with
      | some fault => exact Or.inr ⟨rfl, _, rfl⟩
      | none =>
          left
          simp only [writeFramed]
          cases writeMessage (frame endpoint source.outlook.data) before with
          | ok count after => rfl
          | error error after => rfl

theorem Sending.attempt_of_ok {sending : Sending} {before after : Connection} {count : Nat}
    {piece : Bytes} (done : sending.perform before = .ok count after)
    (sent : after.transport.sent = before.transport.sent ++ piece) :
    sending.attempt before = ⟨sending, .ok count, piece⟩ := by
  simp [attempt, done, sent]

theorem Sending.attempt_of_error {sending : Sending} {before after : Connection} {error : Error}
    {piece : Bytes} (failed : sending.perform before = .error error after)
    (sent : after.transport.sent = before.transport.sent ++ piece) :
    sending.attempt before = ⟨sending, .error error, piece⟩ := by
  simp [attempt, failed, sent]

theorem carries_send {before : Connection} (isOpen : before.closed = false) (sending : Sending) :
    Carries before (settled (sending.perform before)) [sending.attempt before] := by
  rcases perform_cases isOpen sending with whole | ⟨_, error, failed⟩
  · have lasting := lasting_writeMessage sending.wire before
    rw [← whole] at lasting
    rcases writeMessage_cases isOpen sending.wire with ⟨after, done, kept, sent⟩ |
      ⟨fault, after, count, failed, kept, short, sent, _⟩
    · rw [← whole] at done
      rw [done] at lasting ⊢
      rw [Sending.attempt_of_ok done sent]
      exact .single (kept.closed.trans isOpen) lasting sent ⟨rfl, rfl⟩
    · rw [← whole] at failed
      rw [failed] at lasting ⊢
      rw [Sending.attempt_of_error failed sent]
      refine .single (kept.closed.trans isOpen) lasting sent (Or.inr ⟨List.take_prefix _ _, ?_⟩)
      intro same
      have lengths : (sending.wire.take count).length = sending.wire.length := congrArg _ same
      rw [List.length_take] at lengths
      omega
  · have nothing : before.transport.sent = before.transport.sent ++ [] := (List.append_nil _).symm
    rw [failed, Sending.attempt_of_error failed nothing]
    exact .single isOpen (List.suffix_refl _) nothing (Or.inl rfl)

/-! ## A run -/

theorem carries_clearDeadline {before : Connection} (isOpen : before.closed = false) :
    Carries before (settled (Connection.clearDeadline before)) [] := by
  have cleared : settled (Connection.clearDeadline before) = before.relieved := by
    rw [clearDeadline_of_open isOpen]
    cases before.transport.timeoutFaults.head?.join with
    | none => rfl
    | some fault => rfl
  rw [cleared]
  refine ⟨isOpen, List.suffix_cons _ _, ?_, ?_⟩
  · simp [relieved, Transport.sent, Transport.Call.sent]
  · simp

theorem carries_act {before : Connection} (isOpen : before.closed = false) (act : Act) :
    Carries before (act.perform before) (act.attempts before) := by
  cases act with
  | send sending => exact carries_send isOpen sending
  | setDeadline deadline =>
      simp only [Act.perform, Act.attempts, setDeadline, ensureOpen_of_open isOpen, settled]
      refine ⟨isOpen, List.suffix_refl _, ?_, ?_⟩
      · simp
      · simp
  | clearDeadline => exact carries_clearDeadline isOpen

theorem carries_carry {before : Connection} (isOpen : before.closed = false) (acts : List Act) :
    Carries before (carry acts before) (attempts acts before) := by
  induction acts generalizing before with
  | nil => exact .refl isOpen
  | cons act later ih =>
      have step := carries_act isOpen act
      exact step.trans (ih step.isOpen)

theorem carry_append (early late : List Act) (before : Connection) :
    carry (early ++ late) before = carry late (carry early before) := by
  induction early generalizing before with
  | nil => rfl
  | cons act later ih => exact ih _

/-- A moment of a run is a moment of one of its acts, and that act has reached the transport, unless
it is the first one. -/
theorem exists_moment {before : Connection} (isOpen : before.closed = false) (acts : List Act)
    {past : List Transport.Call} (begun : before.transport.journal <:+ past)
    (going : past <:+ (carry acts before).transport.journal) :
    ∃ earlier current later, acts = earlier ++ current ++ later ∧ current.length ≤ 1 ∧
      (carry earlier before).transport.journal <:+ past ∧
      past <:+ (carry (earlier ++ current) before).transport.journal ∧
      (earlier ≠ [] → (carry earlier before).transport.journal ≠ past) := by
  -- The first act is chosen that the moment does not lie behind; so the ones before it have been
  -- left behind.
  induction acts generalizing before with
  | nil => exact ⟨[], [], [], rfl, Nat.zero_le _, begun, going, fun nonempty => absurd rfl nonempty⟩
  | cons act later ih =>
      have step := carries_act isOpen act
      have rest := (carries_carry step.isOpen later).journal
      by_cases during : past <:+ (act.perform before).transport.journal
      · exact ⟨[], [act], later, rfl, Nat.le_refl _, begun, during,
          fun nonempty => absurd rfl nonempty⟩
      · have passed := (List.suffix_or_suffix_of_suffix going rest).resolve_left during
        rcases ih step.isOpen passed going with
          ⟨earlier, current, rest, same, single, since, till, reached⟩
        refine ⟨act :: earlier, current, rest, congrArg _ same, single, since, till, ?_⟩
        rintro - stays
        rcases earlier with _ | ⟨second, more⟩
        · change (act.perform before).transport.journal = past at stays
          exact during (stays ▸ List.suffix_refl _)
        · exact reached (List.cons_ne_nil _ _) stays

theorem pieces_prefix_of_single {before : Connection} (isOpen : before.closed = false)
    {acts : List Act} (single : acts.length ≤ 1) :
    (attempts acts before).flatMap Attempt.piece <+: acts.flatMap Act.wire := by
  rcases acts with _ | ⟨act, _ | ⟨second, more⟩⟩
  · exact List.prefix_refl _
  · cases act with
    | send sending =>
        have faithful := (carries_send isOpen sending).faithful _ List.mem_cons_self
        have same : (sending.attempt before).sending = sending := by
          unfold Sending.attempt
          split <;> rfl
        have beginning := faithful.piece_prefix
        rw [same] at beginning
        simpa [attempts, Act.attempts, Act.wire] using beginning
    | setDeadline deadline => exact List.prefix_refl _
    | clearDeadline => exact List.prefix_refl _
  · simp at single

/-- Whole frames, and at most a strict beginning of the last one. -/
def Orderly (frames : List Bytes) (last : Bytes) (bytes : Bytes) : Prop :=
  ∃ whole : List Bytes, ∃ part, whole.Sublist (frames ++ [last]) ∧ bytes = whole.flatten ++ part ∧
    (part = [] ∨ (part <+: last ∧ part ≠ last))

theorem exists_whole {calls : List Attempt} (complete : ∀ attempt ∈ calls, attempt.Complete) :
    ∃ whole : List Bytes, whole.Sublist (calls.map fun attempt => attempt.sending.wire) ∧
      calls.flatMap Attempt.piece = whole.flatten := by
  induction calls with
  | nil => exact ⟨[], List.Sublist.refl _, rfl⟩
  | cons attempt later ih =>
      rcases ih (fun other among => complete other (List.mem_cons_of_mem _ among)) with
        ⟨whole, among, same⟩
      rcases complete attempt List.mem_cons_self with empty | all
      · exact ⟨whole, among.cons _, by simp [empty, same]⟩
      · exact ⟨attempt.sending.wire :: whole, among.cons_cons _, by simp [all, same]⟩

theorem orderly_of_complete {calls : List Attempt} (complete : ∀ attempt ∈ calls, attempt.Complete)
    {part last : Bytes} (beginning : part <+: last) :
    Orderly (calls.map fun attempt => attempt.sending.wire) last
      (calls.flatMap Attempt.piece ++ part) := by
  rcases exists_whole complete with ⟨whole, among, same⟩
  by_cases finished : part = last
  · refine ⟨whole ++ [last], [], among.append (List.Sublist.refl _), ?_, Or.inl rfl⟩
    simp [same, finished]
  · refine ⟨whole, part, among.trans (List.sublist_append_left _ _), ?_,
      Or.inr ⟨beginning, finished⟩⟩
    rw [same]

/-- A moment of a run: some acts are over, at most one has reached the transport after them, and a
part of its frame has been sent. These are whole frames and at most one strict beginning as long as
no act before that one has left a part of its frame. -/
structure Moment (before : Connection) (acts : List Act) (past : List Transport.Call)
    (earlier current later : List Act) (part : Bytes) : Prop where
  split : acts = earlier ++ current ++ later
  single : current.length ≤ 1
  begun : (carry earlier before).transport.journal <:+ past
  going : past <:+ (carry (earlier ++ current) before).transport.journal
  reached : earlier ≠ [] → (carry earlier before).transport.journal ≠ past
  faithful : ∀ attempt ∈ attempts earlier before, attempt.Faithful
  sent : Transport.sentBy past = before.transport.sent ++
    ((attempts earlier before).flatMap Attempt.piece ++ part)
  beginning : part <+: current.flatMap Act.wire
  orderly : (∀ attempt ∈ attempts earlier before, attempt.Complete) →
    Orderly ((attempts earlier before).map fun attempt => attempt.sending.wire)
      (current.flatMap Act.wire) ((attempts earlier before).flatMap Attempt.piece ++ part)

/-- Whatever fails in a run, the peer has one piece of each call that is over and a beginning of the
frame under way, and the connection stays open. -/
theorem frames_go_out_in_pieces {before : Connection} (isOpen : before.closed = false)
    (acts : List Act) {past : List Transport.Call} (begun : before.transport.journal <:+ past)
    (going : past <:+ (carry acts before).transport.journal) :
    (carry acts before).closed = false ∧
      ∃ earlier current later part, Moment before acts past earlier current later part := by
  rcases exists_moment isOpen acts begun going with
    ⟨earlier, current, later, split, single, since, till, reached⟩
  have ended := carries_carry isOpen earlier
  have running := carries_carry ended.isOpen current
  have window := till
  rw [carry_append] at window
  rcases Transport.sentBy_within since window running.sent with ⟨part, sent, within⟩
  have beginning := within.trans (pieces_prefix_of_single ended.isOpen single)
  refine ⟨(carries_carry isOpen acts).isOpen, earlier, current, later, part, ?_⟩
  refine ⟨split, single, since, till, reached, ended.faithful, ?_, beginning, ?_⟩
  · have sentEarlier := ended.sent
    rw [Transport.sent] at sentEarlier
    rw [sent, sentEarlier, List.append_assoc]
  · intro complete
    exact orderly_of_complete complete beginning

/-! ## Behind a cut frame -/

theorem writeAll_stumbles {before : Connection} (untimed : before.deadline = none) {message : Bytes}
    {taken : Nat} {fault : Fault} {later : List Transport.Intake}
    (script : before.transport.outgoing = .accept (taken + 1) :: .fault fault :: later)
    (short : taken + 1 < message.length) (stopping : ¬fault.isInterrupted = true) :
    ∃ after, timedWriter.writeAll message before = .error fault after ∧ WriteKept before after ∧
      after.transport.outgoing = later ∧
      after.transport.sent = before.transport.sent ++ message.take (taken + 1) := by
  rcases message with _ | ⟨first, more⟩
  · exact absurd short (Nat.not_lt_zero _)
  · have fits : min (taken + 1) (first :: more).length = taken + 1 := Nat.min_eq_left (by omega)
    have part : ∃ middle, timedWrite (first :: more) before = .ok (taken + 1) middle ∧
        middle.transport.outgoing = .fault fault :: later := by
      simp only [timedWrite_of_untimed untimed, onTransport, Transport.write, script, fits]
      exact ⟨_, rfl, rfl⟩
    rcases part with ⟨middle, wrote, left⟩
    rcases timedWrite_ok wrote with ⟨kept, _, sent, _⟩
    have rest : 0 < (more.drop taken).length := by
      rw [List.length_drop]
      rw [List.length_cons] at short
      omega
    rcases List.exists_cons_of_length_pos rest with ⟨next, tail, offered⟩
    have stop : ∃ after, timedWrite (next :: tail) middle = .error fault after ∧
        after.transport.outgoing = later := by
      simp only [timedWrite_of_untimed (kept.deadline.trans untimed), onTransport, Transport.write,
        left]
      exact ⟨_, rfl, rfl⟩
    rcases stop with ⟨after, failed, spent⟩
    rcases timedWrite_error failed with ⟨keptLast, nothing, _⟩
    refine ⟨after, ?_, kept.trans keptLast, spent, nothing.trans sent⟩
    change timedWriter.write _ _ = _ at wrote failed
    rw [Writer.writeAll, wrote]
    change timedWriter.writeAll (more.drop taken) middle = _
    rw [offered, Writer.writeAll, failed]
    simp only [stopping, if_false, Bool.false_eq_true]

/-- Whoever goes on behind a frame that was cut has the next frame written there as a whole. -/
theorem sent_behind_cut {before : Connection} (isOpen : before.closed = false)
    (untimed : before.deadline = none) {first second : Sending} {taken : Nat} {fault : Fault}
    (script : before.transport.outgoing = [.accept (taken + 1), .fault fault])
    (short : taken + 1 < first.wire.length) (stopping : ¬fault.isInterrupted = true) :
    (carry [.send first, .send second] before).transport.sent =
      before.transport.sent ++ first.wire.take (taken + 1) ++ second.wire := by
  rcases writeAll_stumbles untimed script short stopping with ⟨middle, failed, kept, spent, sent⟩
  have isOpenStill := kept.closed.trans isOpen
  have willing : middle.transport.Willing := by
    intro intake pending
    rw [spent] at pending
    cases pending
  have firstCall : settled (first.perform before) = middle := by
    rcases perform_cases isOpen first with whole | ⟨empty, _⟩
    · simp only [whole, writeMessage_of_open isOpen, failed, settled]
    · rw [empty] at short
      exact absurd short (Nat.not_lt_zero _)
  simp only [carry, Act.perform, firstCall]
  rcases perform_cases isOpenStill second with whole | ⟨empty, error, nothing⟩
  · rcases writeMessage_cases isOpenStill second.wire with ⟨after, done, _, all⟩ |
      ⟨_, _, _, _, _, _, _, refuses⟩
    · rw [whole, done, settled, all, sent]
    · exact absurd (refuses willing) (not_refuses (kept.deadline.trans untimed) _)
  · rw [nothing, empty, settled, sent, List.append_nil]

/-- A connection whose first write takes three bytes, and whose second one fails. -/
def stumbling : Connection :=
  .ofTransport ⟨"", [], [.accept 3, .fault (.plain .timedOut)], [], [], [], .stopped default, []⟩

theorem first_frame_in_pieces :
    let first : Act := .send (.bytes "a" [1])
    let second : Act := .send (.bytes "b" [2])
    stumbling.closed = false ∧
      ∃ earlier current later part, Moment stumbling [first, second]
        (carry [first] stumbling).transport.journal earlier current later part := by
  intro first second
  have isOpen : stumbling.closed = false := rfl
  have ended := carries_carry isOpen [first]
  have rest := carries_carry ended.isOpen [second]
  exact ⟨rfl, (frames_go_out_in_pieces isOpen [first, second] ended.journal rest.journal).2⟩

/-- The second frame stands behind three bytes of the first one. -/
theorem second_frame_in_first :
    let first : Sending := .bytes "a" [1]
    let second : Sending := .bytes "b" [2]
    let after := carry [.send first, .send second] stumbling
    stumbling.closed = false ∧ stumbling.transport.sent = [] ∧
      after.transport.sent = first.wire.take 3 ++ second.wire ∧
      ¬Orderly [first.wire] second.wire after.transport.sent := by
  intro first second after
  have long : 3 < first.wire.length := by
    change 3 < (frame "a" [1]).length
    rw [length_frame]
    decide
  have sent : after.transport.sent = first.wire.take 3 ++ second.wire :=
    sent_behind_cut rfl rfl rfl long (by decide)
  refine ⟨rfl, rfl, sent, ?_⟩
  rintro ⟨whole, part, among, split, beginning⟩
  rw [sent] at split
  rcases whole with _ | ⟨frame, more⟩
  · -- No whole frame: then all of it would be a beginning of the second one, which is shorter.
    have length := congrArg List.length split
    rw [List.length_append, List.flatten_nil, List.nil_append] at length
    have cut : (first.wire.take 3).length = 3 := rfl
    rcases beginning with empty | ⟨beginning, _⟩
    · rw [empty, List.length_nil] at length
      omega
    · have short := beginning.length_le
      omega
  · have starts : frame <+: first.wire.take 3 ++ second.wire := by
      rw [split, List.flatten_cons, List.append_assoc]
      exact List.prefix_append _ _
    have either : frame = first.wire ∨ frame = second.wire := by
      simpa using among.subset List.mem_cons_self
    rcases either with rfl | rfl
    · revert starts
      decide
    · revert starts
      decide

end Connection

end Switchboard
