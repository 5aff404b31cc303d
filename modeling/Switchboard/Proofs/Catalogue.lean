import Switchboard.Catalogue
import Switchboard.Proofs.Session.Idling

/-!
# Stock handlers are in no hurry

A stock handler looks neither at the clock nor at the deadline of its connection. So a deadline that
does not pass makes no difference to it, and one that passes ends what it does. This is shown for
each operation and carried over to everything that is put together from them.
-/

namespace Switchboard.Catalogue

open Connection (regardless)

variable {α : Type}

theorem mirrors_messages {action : EStateM Error Connection α}
    (mirrors : (regardless (· = .io .pastDeadline)).Mirrors action action) :
    (regardless fun _ => True).Mirrors (messages action) (messages action) :=
  Connection.mirrors_adapt mirrors fun _ _ => trivial

theorem mirrors_raw {action : EStateM Fault Connection α}
    (mirrors : (regardless (· = .pastDeadline)).Mirrors action action) :
    (regardless fun _ => True).Mirrors (raw action) (raw action) :=
  Connection.mirrors_adapt mirrors fun _ _ => trivial

theorem mirrors_readExact (count : Nat) :
    (regardless fun _ => True).Mirrors (raw (Connection.readExact count))
      (raw (Connection.readExact count)) :=
  mirrors_raw (Connection.matching_regardless.readExact count)

theorem mirrors_writeAll (offered : Bytes) :
    (regardless fun _ => True).Mirrors (raw (Connection.writeAll offered))
      (raw (Connection.writeAll offered)) :=
  mirrors_raw (Connection.matching_regardless.writeAll offered)

theorem mirrors_countUp (endpoint : String) (next left : Nat) :
    (regardless fun _ => True).Mirrors (countUp endpoint next left)
      (countUp endpoint next left) := by
  induction left generalizing next with
  | zero => exact .pure ()
  | succ left ih =>
      exact (mirrors_messages (Connection.matching_regardless.writeMessage _)).bind fun _ =>
        ih (next + 1)

/-- Relaying, without the proof that it ends. -/
theorem relay_eq (connection : Connection) :
    relay connection =
      match Connection.readFramedText connection with
      | .error error after =>
          if error.isDisconnect then .ok () after else .error (.failed error.message) after
      | .ok (header, text) after =>
          match Connection.writeFramedText header.endpoint text after with
          | .error error after =>
              if error.isDisconnect then .ok () after else .error (.failed error.message) after
          | .ok _ after => relay after := by
  rw [relay]
  split
  · next same => rw [same]
  · next same =>
    rw [same]
    dsimp only
    split
    · next same => rw [same]
    · next same => rw [same]

theorem mirrors_relay : (regardless fun _ => True).Mirrors relay relay := by
  intro timed free alike
  -- A passed deadline is no disconnect, so it ends the relaying with an error.
  fun_induction relay timed generalizing free with
  | case1 timed error after failed gone =>
      rcases Connection.matching_regardless.readFramedText.error alike failed with
        ⟨other, same, alike⟩ | ⟨rfl, _⟩
      · rw [relay_eq, same]
        simp only [if_pos gone]
        exact .ok alike
      · cases gone
  | case2 timed error after failed other =>
      rcases Connection.matching_regardless.readFramedText.error alike failed with
        ⟨right, same, alike⟩ | cut
      · rw [relay_eq, same]
        simp only [if_neg other]
        exact .error alike
      · exact .cut ⟨trivial, cut.2⟩
  | case3 timed header text middle read error after failed gone =>
      rcases Connection.matching_regardless.readFramedText.ok alike read with ⟨other, same, alike⟩
      rcases (Connection.matching_regardless.writeMessage _).error alike failed with
        ⟨last, sameWrite, alike⟩ | ⟨rfl, _⟩
      · rw [relay_eq, same]
        change Connection.writeFramedText header.endpoint text other = _ at sameWrite
        simp only [sameWrite, if_pos gone]
        exact .ok alike
      · cases gone
  | case4 timed header text middle read error after failed other =>
      rcases Connection.matching_regardless.readFramedText.ok alike read with ⟨right, same, alike⟩
      rcases (Connection.matching_regardless.writeMessage _).error alike failed with
        ⟨last, sameWrite, alike⟩ | cut
      · rw [relay_eq, same]
        change Connection.writeFramedText header.endpoint text right = _ at sameWrite
        simp only [sameWrite, if_neg other]
        exact .error alike
      · exact .cut ⟨trivial, cut.2⟩
  | case5 timed header text middle read count after wrote ih =>
      rcases Connection.matching_regardless.readFramedText.ok alike read with ⟨right, same, alike⟩
      rcases (Connection.matching_regardless.writeMessage _).ok alike wrote with
        ⟨last, sameWrite, alike⟩
      rw [relay_eq free, same]
      change Connection.writeFramedText header.endpoint text right = _ at sameWrite
      simp only [sameWrite]
      exact ih alike

theorem mirrors_countToEnd : (regardless fun _ => True).Mirrors countToEnd countToEnd := by
  intro timed free alike
  simp only [countToEnd]
  rcases Connection.matching_regardless.readToEnd alike with
    ⟨other, same, alike⟩ | ⟨fault, failed, cut⟩
  · rw [same]
    dsimp only
    split
    · exact .ok alike
    · exact .error alike
  · rw [failed]
    exact .cut ⟨trivial, cut.2⟩

/-- The source stands beside the connection, so it brings the same in both runs. -/
theorem mirrors_gather (endpoint : String) (source : Source) :
    (regardless fun _ => True).Mirrors (gather endpoint source) (gather endpoint source) := by
  intro timed free alike
  rcases Connection.matching_regardless.writeFramedFrom endpoint source alike with
    ⟨rest, first, second, left, right, agree⟩
  simp only [gather, left, right]
  cases agree with
  | ok alike => exact .ok alike
  | error alike => exact .error alike
  | cut cut => exact .cut ⟨trivial, cut.2⟩

/-- Whatever stock handler a connection is handed to, the time makes no difference to it. -/
theorem unhurried_stream (title : String) : (stream title).Unhurried := by
  intro header
  simp only [stream]
  generalize (split title).1 = name, (split title).2 = argument
  -- The cases are the names in the catalogue, in its order; the last one is any other name.
  fun_cases serving name argument header with
  | case1 =>
      refine (mirrors_readExact _).bind fun bytes => (mirrors_writeAll _).bind fun _ => ?_
      exact (mirrors_writeAll _).bind fun _ => mirrors_messages Connection.mirrors_close
  | case2 => exact (mirrors_countUp _ _ _).bind fun _ => mirrors_messages Connection.mirrors_close
  | case3 => exact mirrors_relay
  | case4 => exact (mirrors_gather _ _).bind fun _ => mirrors_writeAll _
  | case5 =>
      refine (mirrors_messages Connection.mirrors_clearDeadline).bind fun _ => ?_
      refine mirrors_countToEnd.bind fun _ => (mirrors_writeAll _).bind fun _ => ?_
      exact mirrors_raw Connection.mirrors_flush
  | case6 =>
      exact (mirrors_messages (Connection.matching_regardless.writeMessage _)).bind fun _ =>
        mirrors_writeAll _
  | case7 =>
      refine (mirrors_messages Connection.mirrors_close).bind fun _ => ?_
      exact (mirrors_messages (Connection.matching_regardless.writeMessage _)).bind fun _ =>
        .pure ()
  | case8 => exact fun _ _ alike => .error alike
  | case9 => exact fun _ _ alike => .error alike
  | case10 => exact .pure ()

end Switchboard.Catalogue
