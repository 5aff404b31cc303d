import Switchboard.Proofs.Connection.Messages

/-!
# Frames on the wire

Several calls are sent on one connection, and somebody reads their frames, one after the other,
until that fails. The bytes in between may arrive in any chunks, and they may be cut off anywhere.

The frames that arrive whole are read as they were sent. Then the reader is told where the cut was:
at the end of a frame or inside a header the peer went away, and inside a body the body was cut
short (`frames_survive_cut`).
-/

namespace Switchboard

/-- What a call sends. -/
inductive Payload
  | bytes (body : Bytes)
  | text (text : String)

namespace Payload

/-- The body that travels. -/
def body : Payload → Bytes
  | .bytes content => content
  | .text content => Utf8.encode content

/-- The text that is read where the payload was sent. -/
def shown : Payload → String
  | .bytes content => Utf8.decode content
  | .text content => content

theorem decode_body (payload : Payload) : Utf8.decode payload.body = payload.shown := by
  cases payload with
  | bytes content => rfl
  | text content => exact Utf8.decode_encode content

end Payload

/-- A name and a payload that are sent together. No buffer is longer than its length can say. -/
structure Call where
  /-- The name of an endpoint. -/
  endpoint : String
  /-- What is sent to it. -/
  payload : Payload
  /-- The length of the body fits into its word. -/
  fits : payload.body.length < UInt64.size

namespace Call

/-- The body of the call. -/
def body (call : Call) : Bytes :=
  call.payload.body

/-- The call on the wire. -/
def frame (call : Call) : Bytes :=
  Connection.frame call.endpoint call.body

/-- The header that arrives. -/
def header (call : Call) : Header :=
  .forRequest (Header.carried call.endpoint) (UInt64.ofNat call.body.length)

/-- Several calls on the wire. -/
def wire (calls : List Call) : Bytes :=
  calls.flatMap frame

/-- Sends the call. -/
def send (call : Call) : EStateM Error Connection Nat :=
  match call.payload with
  | .bytes content => Connection.writeFramed call.endpoint content
  | .text content => Connection.writeFramedText call.endpoint content

/-- Sends several calls, one after the other. -/
def sendAll : List Call → EStateM Error Connection Unit
  | [] => pure ()
  | call :: later => do
      let _ ← call.send
      sendAll later

theorem bodySize_header (call : Call) : call.header.bodySize.toNat = call.body.length := by
  rw [header, Header.forRequest, UInt64.toNat_ofNat']
  exact Nat.mod_eq_of_lt call.fits

theorem length_frame (call : Call) : call.frame.length = Header.width + call.body.length :=
  Connection.length_frame _ _

theorem send_eq (call : Call) : call.send = Connection.writeMessage call.frame := by
  rcases call with ⟨endpoint, content | content, fits⟩
  · rfl
  · rfl

theorem sendAll_cons {call : Call} {later : List Call} {before after : Connection}
    (done : sendAll (call :: later) before = .ok () after) :
    ∃ count middle, Connection.writeMessage call.frame before = .ok count middle ∧
      sendAll later middle = .ok () after := by
  simp only [sendAll, Bind.bind, EStateM.bind, send_eq] at done
  cases step : Connection.writeMessage call.frame before with
  | error error middle =>
      rw [step] at done
      cases done
  | ok count middle =>
      rw [step] at done
      exact ⟨count, middle, rfl, done⟩

/-- A connection without a deadline over a willing transport sends whatever it is given. -/
theorem sendAll_of_willing (calls : List Call) {before : Connection}
    (isOpen : before.closed = false) (untimed : before.deadline = none)
    (willing : before.transport.Willing) :
    ∃ after, sendAll calls before = .ok () after := by
  induction calls generalizing before with
  | nil => exact ⟨before, rfl⟩
  | cons call later ih =>
      rcases Connection.writeMessage_cases isOpen call.frame with
        ⟨middle, written, kept, _⟩ | ⟨fault, _, _, _, _, _, _, refuses⟩
      · rcases ih (kept.closed.trans isOpen) (kept.deadline.trans untimed)
          (kept.willing willing) with
          ⟨after, rest⟩
        refine ⟨after, ?_⟩
        simp only [sendAll, Bind.bind, EStateM.bind, send_eq, written, rest]
      · exact absurd untimed (refuses willing).1

/-- Whoever has sent all calls has sent their frames and nothing else. -/
theorem sent_of_sendAll {calls : List Call} {before after : Connection}
    (done : sendAll calls before = .ok () after) :
    after.transport.sent = before.transport.sent ++ wire calls := by
  induction calls generalizing before with
  | nil =>
      cases done
      simp [wire]
  | cons call later ih =>
      rcases sendAll_cons done with ⟨count, middle, first, rest⟩
      have isOpen : before.closed = false := by
        cases closed : before.closed with
        | false => rfl
        | true =>
            simp only [Connection.writeMessage, Bind.bind, EStateM.bind,
              Connection.ensureOpen_of_closed closed] at first
            cases first
      rcases Connection.writeMessage_cases isOpen call.frame with
        ⟨middle', written, _, sent⟩ | ⟨fault, middle', taken, failed, _⟩
      · rw [first] at written
        cases written
        rw [ih rest, sent, List.append_assoc]
        rfl
      · rw [first] at failed
        cases failed

end Call

namespace Connection

open Source (Outlook)

variable {α : Type}

/-- An operation that is repeated until it fails: the values that it returned, and the error in the
end. -/
inductive Repeats (action : EStateM Error Connection α) : Connection → List α → Error → Prop
  | failed {before after : Connection} {error : Error}
      (last : action before = .error error after) : Repeats action before [] error
  | again {before after : Connection} {value : α} {values : List α} {error : Error}
      (first : action before = .ok value after) (later : Repeats action after values error) :
      Repeats action before (value :: values) error

/-- What is read as frames can also be read as texts. -/
theorem Repeats.text {before : Connection} {frames : List (Header × Bytes)} {error : Error}
    (repeats : Repeats readFramed before frames error) :
    Repeats readFramedText before
      (frames.map fun (header, body) => (header, Utf8.decode body)) error := by
  induction repeats with
  | failed last =>
      apply Repeats.failed
      simp only [readFramedText, Bind.bind, EStateM.bind, last]
      rfl
  | again first later ih =>
      refine Repeats.again ?_ ih
      simp only [readFramedText, Bind.bind, EStateM.bind, first]
      rfl

/-- An open connection without a deadline that reads bodies of any length. -/
structure Unrestricted (connection : Connection) : Prop where
  isOpen : connection.closed = false
  untimed : connection.deadline = none
  unlimited : connection.bodyLimit = none

theorem Unrestricted.kept {before after : Connection} (unrestricted : Unrestricted before)
    (kept : Kept before after) : Unrestricted after :=
  ⟨kept.closed.trans unrestricted.isOpen, kept.deadline.trans unrestricted.untimed,
    kept.bodyLimit.trans unrestricted.unlimited⟩

theorem Unrestricted.readBody_eq {connection : Connection} (unrestricted : Unrestricted connection)
    (header : Header) : readBody header connection = readOwed header.bodySize connection := by
  apply readBody_of_within unrestricted.isOpen
  intro limit limited
  rw [unrestricted.unlimited] at limited
  cases limited

theorem headerError_ended {outlook : Outlook} (ended : outlook.stop = none) :
    headerError outlook = .disconnected := by
  rw [headerError, ended]
  rfl

/-- The header of a frame is the header of its call. -/
theorem ofBytes_frame_append (call : Call) (rest : Bytes) :
    Header.ofBytes (call.frame ++ rest) = call.header := by
  rw [Call.frame, frame, List.append_assoc, Header.ofBytes_encode_append,
    Header.received_forRequest, Call.header]

theorem drop_width_frame (call : Call) : call.frame.drop Header.width = call.body := by
  rw [Call.frame, frame]
  exact List.drop_left' (Header.length_encode _)

/-- Reading a frame takes what its header announces, or says whether the header or the body is not
complete. -/
theorem readFramed_cases {before : Connection} (unrestricted : Unrestricted before)
    {header : Header} (next : Header.ofBytes before.outlook.data = header) :
    (∃ after, readFramed before = .ok
          (header, (before.outlook.data.drop Header.width).take header.bodySize.toNat) after ∧
        Header.width + header.bodySize.toNat ≤ before.outlook.data.length ∧ Kept before after ∧
        after.outlook = before.outlook.drop (Header.width + header.bodySize.toNat)) ∨
      (∃ after, readFramed before = .error (headerError before.outlook) after ∧
        before.outlook.data.length < Header.width) ∨
      ∃ after, readFramed before =
          .error (bodyError header.bodySize (before.outlook.drop Header.width)) after ∧
        Header.width ≤ before.outlook.data.length ∧
        before.outlook.data.length < Header.width + header.bodySize.toNat := by
  rcases readHeader_cases unrestricted.isOpen with
    ⟨middle, done, enough, kept, left⟩ | ⟨after, failed, short, _⟩ | ⟨fault, _, _, refuses, _⟩
  · have between := unrestricted.kept kept.toKept
    have length : middle.outlook.data.length = before.outlook.data.length - Header.width := by
      rw [left]
      exact List.length_drop
    rw [next] at done
    rcases readOwed_cases header.bodySize middle with
      ⟨after, owed, all, later, remaining⟩ | ⟨after, failed, short, _⟩ | ⟨fault, _, _, refuses, _⟩
    · refine Or.inl ⟨after, ?_, by omega, kept.toKept.trans later.toKept, ?_⟩
      · rw [left] at owed
        simp only [readFramed, Bind.bind, EStateM.bind, done, between.readBody_eq, owed]
        rfl
      · rw [remaining, left]
        simp [Outlook.drop, List.drop_drop]
    · refine Or.inr (Or.inr ⟨after, ?_, enough, by omega⟩)
      rw [left] at failed
      simp only [readFramed, Bind.bind, EStateM.bind, done, between.readBody_eq, failed]
    · exact absurd refuses (not_refuses between.untimed fault)
  · refine Or.inr (Or.inl ⟨after, ?_, short⟩)
    simp only [readFramed, Bind.bind, EStateM.bind, failed]
  · exact absurd refuses (not_refuses unrestricted.untimed fault)

/-- A frame that has arrived whole is read as it was sent. -/
theorem readFramed_frame {before : Connection} (unrestricted : Unrestricted before) {call : Call}
    {rest : Bytes} (arrived : before.outlook.data = call.frame ++ rest) :
    ∃ after, readFramed before = .ok (call.header, call.body) after ∧ Kept before after ∧
      after.outlook = before.outlook.drop call.frame.length := by
  have length := call.length_frame
  have total : before.outlook.data.length = call.frame.length + rest.length := by
    rw [arrived, List.length_append]
  have next : Header.ofBytes before.outlook.data = call.header := by
    rw [arrived, ofBytes_frame_append]
  have body : (before.outlook.data.drop Header.width).take call.body.length = call.body := by
    rw [arrived, List.drop_append_of_le_length (by omega), drop_width_frame, List.take_left' rfl]
  have outcome := readFramed_cases unrestricted next
  rw [call.bodySize_header, body, ← length] at outcome
  rcases outcome with ⟨after, done, _, kept, left⟩ | ⟨_, _, short⟩ | ⟨_, _, _, short⟩
  · exact ⟨after, done, kept, left⟩
  · omega
  · omega

end Connection

namespace Call

/-- What the reader is told if only so many of the bytes of some calls arrive, and no whole
frame. -/
def cutError : List Call → Nat → Error
  | [], _ => .disconnected
  | call :: _, count =>
      if count < Header.width then .disconnected
      else .truncatedBody (UInt64.ofNat call.body.length) (UInt64.ofNat (count - Header.width))

theorem wire_cons (call : Call) (later : List Call) :
    wire (call :: later) = call.frame ++ wire later := rfl

/-- The calls whose frames lie wholly within the first bytes, and the others. -/
theorem whole_and_cut (calls : List Call) (count : Nat) :
    ∃ whole rest, calls = whole ++ rest ∧ (wire whole).length ≤ count ∧
      (∀ next later, rest = next :: later →
        count - (wire whole).length < next.frame.length) ∧
      (wire calls).take count =
        wire whole ++ (wire rest).take (count - (wire whole).length) := by
  induction calls generalizing count with
  | nil => exact ⟨[], [], rfl, by simp [wire]⟩
  | cons call calls ih =>
      by_cases within : call.frame.length ≤ count
      · rcases ih (count - call.frame.length) with ⟨whole, rest, rfl, fits, beyond, taken⟩
        have length : (wire (call :: whole)).length = call.frame.length + (wire whole).length := by
          rw [wire_cons, List.length_append]
        refine ⟨call :: whole, rest, rfl, by omega, ?_, ?_⟩
        · intro next later first
          have short := beyond next later first
          omega
        · rw [wire_cons, List.take_append, List.take_of_length_le within, taken, length, wire_cons,
            List.append_assoc, Nat.sub_sub]
      · refine ⟨[], call :: calls, rfl, Nat.zero_le _, ?_, rfl⟩
        intro next later first
        cases first
        simpa [wire] using within

end Call

namespace Connection

open Source (Outlook)

/-- If no whole frame arrives, reading one tells where the bytes were cut. -/
theorem readFramed_cut {before : Connection} (unrestricted : Unrestricted before)
    {calls : List Call} {count : Nat}
    (none_whole : ∀ next later, calls = next :: later → count < next.frame.length)
    (arrived : before.outlook.data = (Call.wire calls).take count)
    (ended : before.outlook.stop = none) :
    ∃ after, readFramed before = .error (Call.cutError calls count) after := by
  rcases calls with _ | ⟨call, later⟩
  · have nothing : before.outlook.data.length < Header.width := by
      rw [arrived]
      simp [Call.wire, Header.width]
    rcases readFramed_cases unrestricted rfl with
      ⟨_, _, enough, _⟩ | ⟨after, failed, _⟩ | ⟨_, _, enough, _⟩
    · omega
    · rw [headerError_ended ended] at failed
      exact ⟨after, failed⟩
    · omega
  · have within := none_whole call later rfl
    have whole := call.length_frame
    have part : before.outlook.data = call.frame.take count := by
      rw [arrived, Call.wire_cons, List.take_append_of_le_length (by omega)]
    have length : before.outlook.data.length = count := by
      rw [part, List.length_take]
      omega
    by_cases headless : count < Header.width
    · rw [Call.cutError, if_pos headless]
      rcases readFramed_cases unrestricted rfl with
        ⟨_, _, enough, _⟩ | ⟨after, failed, _⟩ | ⟨_, _, enough, _⟩
      · omega
      · rw [headerError_ended ended] at failed
        exact ⟨after, failed⟩
      · omega
    · have next : Header.ofBytes before.outlook.data = call.header := by
        have header := ofBytes_frame_append call []
        rw [List.append_nil] at header
        rw [part, ← Header.ofBytes_take, List.take_take, Nat.min_eq_left (Nat.not_lt.mp headless),
          Header.ofBytes_take, header]
      have outcome := readFramed_cases unrestricted next
      rw [call.bodySize_header, length] at outcome
      rcases outcome with ⟨_, _, enough, _⟩ | ⟨_, _, short⟩ | ⟨after, failed, _, _⟩
      · omega
      · omega
      · refine ⟨after, ?_⟩
        rw [Call.cutError, if_neg headless]
        simp only [bodyError, Outlook.drop, ended, List.length_drop, length] at failed
        exact failed

/-- What is read of the frames that arrive whole comes before whatever is read of the rest. -/
theorem repeats_wire_append {before : Connection} (unrestricted : Unrestricted before)
    {calls : List Call} {rest : Bytes} (arrived : before.outlook.data = Call.wire calls ++ rest) :
    ∃ middle, Unrestricted middle ∧ middle.outlook.data = rest ∧
      middle.outlook.stop = before.outlook.stop ∧
      ∀ values error, Repeats readFramed middle values error →
        Repeats readFramed before (calls.map (fun call => (call.header, call.body)) ++ values)
          error := by
  induction calls generalizing before with
  | nil => exact ⟨before, unrestricted, arrived, rfl, fun values error repeats => repeats⟩
  | cons call calls ih =>
      rw [Call.wire_cons, List.append_assoc] at arrived
      rcases readFramed_frame unrestricted arrived with ⟨after, done, kept, left⟩
      have remaining : after.outlook.data = Call.wire calls ++ rest := by
        rw [left]
        change before.outlook.data.drop call.frame.length = Call.wire calls ++ rest
        rw [arrived, List.drop_left]
      rcases ih (unrestricted.kept kept) remaining with
        ⟨middle, unrestrictedMiddle, data, stop, later⟩
      refine ⟨middle, unrestrictedMiddle, data, ?_, ?_⟩
      · rw [stop, left]
        rfl
      · intro values error repeats
        exact Repeats.again done (later values error repeats)

/-- Calls are sent by one side, only so many of their bytes arrive at the other, in any chunks and
with any interruptions, and then the stream ends. The frames that lie wholly within these bytes are
read as they were sent, be it as bytes or as texts, and then the error says where the cut was. -/
theorem frames_survive_cut {calls : List Call} {sender sent : Connection} {wire : Bytes}
    (sends : Call.sendAll calls sender = .ok () sent)
    (transmitted : sent.transport.sent = sender.transport.sent ++ wire) (count : Nat)
    {reader : Connection} (unrestricted : Unrestricted reader)
    (delivery : Source.Delivers (wire.take count) reader.transport.incoming) :
    ∃ whole rest, calls = whole ++ rest ∧ (Call.wire whole).length ≤ count ∧
      (∀ next later, rest = next :: later →
        count - (Call.wire whole).length < next.frame.length) ∧
      Repeats readFramed reader (whole.map fun call => (call.header, call.body))
        (Call.cutError rest (count - (Call.wire whole).length)) ∧
      Repeats readFramedText reader (whole.map fun call => (call.header, call.payload.shown))
        (Call.cutError rest (count - (Call.wire whole).length)) ∧
      ∀ call ∈ whole, call.header.tag = 0 ∧ call.header.userId = 0 ∧
        call.header.timeout = .zero ∧ call.header.bodySize.toNat = call.body.length ∧
        call.header.endpoint = Header.carried call.endpoint := by
  have same : wire = Call.wire calls := by
    have written := Call.sent_of_sendAll sends
    rw [transmitted] at written
    exact List.append_cancel_left written
  subst same
  have view := delivery.outlook_eq
  rcases Call.whole_and_cut calls count with ⟨whole, rest, rfl, fits, beyond, taken⟩
  rw [taken] at view
  have arrived : reader.outlook.data = Call.wire whole ++
      (Call.wire rest).take (count - (Call.wire whole).length) := by
    rw [outlook, view]
  rcases repeats_wire_append unrestricted arrived with
    ⟨middle, unrestrictedMiddle, data, stop, later⟩
  have ended : middle.outlook.stop = none := by
    rw [stop, outlook, view]
  rcases readFramed_cut unrestrictedMiddle beyond data ended with ⟨after, failed⟩
  have frames := later [] _ (.failed failed)
  rw [List.append_nil] at frames
  refine ⟨whole, rest, rfl, fits, beyond, frames, ?_, ?_⟩
  · have texts := frames.text
    rw [List.map_map] at texts
    have shown (call : Call) : Utf8.decode call.body = call.payload.shown :=
      call.payload.decode_body
    simpa [Function.comp_def, shown] using texts
  · intro call _
    exact ⟨rfl, rfl, rfl, call.bodySize_header, rfl⟩

theorem unrestricted_bringing (source : Source) : Unrestricted (bringing source) :=
  ⟨rfl, rfl, rfl⟩

/-- Of two calls the second is cut in the middle of its body, after one of two bytes. -/
theorem second_frame_cut_in_body :
    ∃ sent, Call.sendAll [⟨"echo", .text "é", by decide⟩, ⟨"echo", .text "hi", by decide⟩]
        (bringing []) = .ok () sent ∧
      Repeats readFramedText (bringing (.ofBytes (sent.transport.sent.take 453)))
        [(.forRequest "echo" 2, "é")] (.truncatedBody 2 1) := by
  let first : Call := ⟨"echo", .text "é", by decide⟩
  let second : Call := ⟨"echo", .text "hi", by decide⟩
  rcases Call.sendAll_of_willing [first, second] rfl rfl (willing_bringing []) with ⟨sent, sends⟩
  refine ⟨sent, sends, ?_⟩
  have firstLength : first.frame.length = 227 := first.length_frame
  have secondLength : second.frame.length = 227 := second.length_frame
  rcases frames_survive_cut sends rfl 453 (unrestricted_bringing _) (Source.delivers_ofBytes _) with
    ⟨whole, rest, split, fits, beyond, _, texts, _⟩
  rcases whole with _ | ⟨one, _ | ⟨two, more⟩⟩
  · have short := beyond first [second] split.symm
    simp only [Call.wire, List.flatMap_nil, List.length_nil] at short
    omega
  · simp only [List.cons_append, List.nil_append, List.cons.injEq] at split
    rcases split with ⟨rfl, rfl⟩
    have length : (Call.wire [first]).length = 227 := by
      simpa [Call.wire] using firstLength
    have name : Header.carried "echo" = "echo" := rfl
    have told : Call.cutError [second] (453 - 227) = .truncatedBody 2 1 := rfl
    have header : first.header = .forRequest "echo" 2 := by
      rw [Call.header, name]
      rfl
    rw [length, told, List.map_singleton, header] at texts
    exact texts
  · simp only [List.cons_append, List.cons.injEq] at split
    rcases split with ⟨rfl, rfl, _⟩
    simp only [Call.wire_cons, List.length_append] at fits
    omega

end Connection

end Switchboard
