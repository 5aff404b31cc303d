import Switchboard.Stream.Reader
import Switchboard.Stream.Writer

/-!
# Two runs side by side

Two states may differ in something of which nothing depends. To see that nothing does, the same
action is run from both: it brings the same value or fails with the same error, and the states are
still alike. There may be a reason for which the first run is cut short; then nothing is said about
the second one.

A comparison says what is alike, how actions may fail and what cuts them short. It is made for
single reads and writes, and carried over from there to everything that repeats them.
-/

namespace Switchboard

variable {ε ε' σ α β : Type}

/-- The result with a change to the state. -/
def mapState (change : σ → σ) : EStateM.Result ε σ α → EStateM.Result ε σ α
  | .ok value state => .ok value (change state)
  | .error error state => .error error (change state)

/-- What is said about an action that is run from two states. -/
structure Comparison (ε σ : Type) where
  alike : σ → σ → Prop
  /-- What holds when both runs fail. -/
  fails : ε → σ → σ → Prop
  /-- The first run ends here, and the second one may go on. -/
  cut : ε → σ → Prop

namespace Comparison

variable {comparison : Comparison ε σ}

/-- Two runs that are over and have ended in the same way, unless the first one was cut short. -/
inductive Agree (comparison : Comparison ε σ) : EStateM.Result ε σ α → EStateM.Result ε σ α → Prop
  | ok {value : α} {left right : σ} (alike : comparison.alike left right) :
      Agree comparison (.ok value left) (.ok value right)
  | error {error : ε} {left right : σ} (fails : comparison.fails error left right) :
      Agree comparison (.error error left) (.error error right)
  | cut {error : ε} {left : σ} {other : EStateM.Result ε σ α} (cut : comparison.cut error left) :
      Agree comparison (.error error left) other

theorem Agree.of_ok {value : α} {left : σ} {other : EStateM.Result ε σ α}
    (agree : comparison.Agree (.ok value left) other) :
    ∃ right, other = .ok value right ∧ comparison.alike left right := by
  cases agree with
  | ok alike => exact ⟨_, rfl, alike⟩

theorem Agree.of_error {error : ε} {left : σ} {other : EStateM.Result ε σ α}
    (agree : comparison.Agree (.error error left) other) :
    (∃ right, other = .error error right ∧ comparison.fails error left right) ∨
      comparison.cut error left := by
  cases agree with
  | error fails => exact Or.inl ⟨_, rfl, fails⟩
  | cut cut => exact Or.inr cut

/-- Run from states that are alike, the two actions end in the same way. -/
def Mirrors (comparison : Comparison ε σ) (first second : EStateM ε σ α) : Prop :=
  ∀ ⦃left right⦄, comparison.alike left right → comparison.Agree (first left) (second right)

namespace Mirrors

theorem ok {first second : EStateM ε σ α} (mirrors : comparison.Mirrors first second)
    {left right after : σ} {value : α} (alike : comparison.alike left right)
    (done : first left = .ok value after) :
    ∃ other, second right = .ok value other ∧ comparison.alike after other := by
  have agree := mirrors alike
  rw [done] at agree
  exact agree.of_ok

theorem error {first second : EStateM ε σ α} (mirrors : comparison.Mirrors first second)
    {left right after : σ} {error : ε} (alike : comparison.alike left right)
    (failed : first left = .error error after) :
    (∃ other, second right = .error error other ∧ comparison.fails error after other) ∨
      comparison.cut error after := by
  have agree := mirrors alike
  rw [failed] at agree
  exact agree.of_error

theorem pure (value : α) :
    comparison.Mirrors (Pure.pure value : EStateM ε σ α) (Pure.pure value) :=
  fun _ _ alike => .ok alike

theorem bind {first second : EStateM ε σ α} {next other : α → EStateM ε σ β}
    (early : comparison.Mirrors first second)
    (late : ∀ value, comparison.Mirrors (next value) (other value)) :
    comparison.Mirrors (first >>= next) (second >>= other) := by
  intro left right alike
  have agree := early alike
  simp only [Bind.bind, EStateM.bind]
  generalize first left = before, second right = after at agree ⊢
  cases agree with
  | ok alike => exact late _ alike
  | error fails => exact .error fails
  | cut cut => exact .cut cut

theorem adapt {first second : EStateM ε σ α} {comparison' : Comparison ε' σ}
    (mirrors : comparison.Mirrors first second) {map : ε → ε'}
    (starts : ∀ {left right}, comparison'.alike left right → comparison.alike left right)
    (ends : ∀ {left right}, comparison.alike left right → comparison'.alike left right)
    (fails : ∀ {error left right}, comparison.fails error left right →
      comparison'.fails (map error) left right)
    (cut : ∀ {error left}, comparison.cut error left → comparison'.cut (map error) left) :
    comparison'.Mirrors (EStateM.adaptExcept map first) (EStateM.adaptExcept map second) := by
  intro left right alike
  have agree := mirrors (starts alike)
  simp only [EStateM.adaptExcept]
  generalize first left = before, second right = after at agree ⊢
  cases agree with
  | ok alike => exact .ok (ends alike)
  | error failing => exact .error (fails failing)
  | cut short => exact .cut (cut short)

end Mirrors

/-- A run beside itself. What is said about the state is said about it after the run, too, unless
that is cut short. -/
def alone (holds : σ → Prop) (cut : ε → σ → Prop) : Comparison ε σ where
  alike left right := left = right ∧ holds left
  fails _ left right := left = right ∧ holds left
  cut := cut

theorem Mirrors.alone_ok {holds : σ → Prop} {cut : ε → σ → Prop} {action : EStateM ε σ α}
    (mirrors : (alone holds cut).Mirrors action action) {before after : σ} {value : α}
    (start : holds before) (done : action before = .ok value after) : holds after := by
  rcases mirrors.ok ⟨rfl, start⟩ done with ⟨_, _, rfl, kept⟩
  exact kept

theorem Mirrors.alone_error {holds : σ → Prop} {cut : ε → σ → Prop} {action : EStateM ε σ α}
    (mirrors : (alone holds cut).Mirrors action action) {before after : σ} {error : ε}
    (start : holds before) (failed : action before = .error error after) :
    holds after ∨ cut error after := by
  rcases mirrors.error ⟨rfl, start⟩ failed with ⟨_, _, rfl, kept⟩ | short
  · exact Or.inl kept
  · exact Or.inr short

/-- Whatever fails may be repeated from there, and interruptions cut nothing short. -/
structure Resumable (comparison : Comparison Fault σ) : Prop where
  fails_iff : ∀ {fault left right}, comparison.fails fault left right ↔ comparison.alike left right
  quiet : ∀ {fault left}, comparison.cut fault left → ¬fault.isInterrupted = true

end Comparison

/-! ## Readers -/

namespace Reader

/-- Exact reading, without the proofs that it ends. -/
theorem readExact_eq (reader : Reader σ) (count : Nat) (state : σ) :
    reader.readExact count state =
      if count = 0 then .ok [] state
      else
        match reader.read count state with
        | .ok [] after => .error .unfilled after
        | .ok (first :: more) after =>
            EStateM.map (first :: more ++ ·)
              (reader.readExact (count - (first :: more).length)) after
        | .error fault after =>
            if fault.isInterrupted then reader.readExact count after else .error fault after := by
  rw [readExact]
  congr 1
  split
  · next same => rw [same]
  · next first more after same =>
    simp only [same, EStateM.map]
    cases reader.readExact (count - (first :: more).length) after <;> rfl
  · next same => rw [same]

theorem drain_eq (reader : Reader σ) (growth : Growth) (state : σ) :
    reader.drain growth state =
      match reader.read growth.offer state with
      | .ok [] after => ⟨[], none, after⟩
      | .ok (first :: more) after =>
          let later := reader.drain (growth.after (first :: more).length) after
          ⟨first :: more ++ later.data, later.fault, later.state⟩
      | .error fault after =>
          if fault.isInterrupted then reader.drain growth after else ⟨[], some fault, after⟩ := by
  rw [drain]
  split <;> simp only [*]

section

variable {reader : Reader σ} {before after : σ} {fault : Fault}
    (quiet : ¬fault.isInterrupted = true)

include quiet

/-- A fault of the first read ends exact reading at once. -/
theorem readExact_of_error {count : Nat} (positive : count ≠ 0)
    (failed : reader.read count before = .error fault after) :
    reader.readExact count before = .error fault after := by
  rw [readExact_eq, if_neg positive, failed]
  exact if_neg quiet

theorem drain_of_error {growth : Growth}
    (failed : reader.read growth.offer before = .error fault after) :
    reader.drain growth before = ⟨[], some fault, after⟩ := by
  rw [drain_eq, failed]
  exact if_neg quiet

end

variable {reader : Reader σ} {comparison : Comparison Fault σ} (resumable : comparison.Resumable)
  (reads : ∀ asked, comparison.Mirrors (reader.read asked) (reader.read asked))

include resumable reads

/-- What holds of every single read holds of exact reading. -/
theorem mirrors_readExact (count : Nat) :
    comparison.Mirrors (reader.readExact count) (reader.readExact count) := by
  intro left right alike
  -- The first run is followed by its recursion, and the second one is unfolded along with it.
  fun_induction Reader.readExact reader count left generalizing right with
  | case1 left =>
      rw [readExact_eq, if_pos rfl]
      exact .ok alike
  | case2 count left positive after step =>
      rcases (reads count).ok alike step with ⟨other, same, alike⟩
      rw [readExact_eq, if_neg positive, same]
      exact .error (resumable.fails_iff.mpr alike)
  | case3 count left positive first more after step rest final inner ih =>
      rcases (reads count).ok alike step with ⟨other, same, alike⟩
      have agree := ih alike
      rw [inner] at agree
      rcases agree.of_ok with ⟨last, sameRest, alike⟩
      rw [readExact_eq, if_neg positive, same]
      simp only [EStateM.map, sameRest]
      exact .ok alike
  | case4 count left positive first more after step fault final inner ih =>
      rcases (reads count).ok alike step with ⟨other, same, alike⟩
      have agree := ih alike
      rw [inner] at agree
      rcases agree.of_error with ⟨last, sameRest, fails⟩ | cut
      · rw [readExact_eq, if_neg positive, same]
        simp only [EStateM.map, sameRest]
        exact .error fails
      · exact .cut cut
  | case5 count left positive fault after step interrupted ih =>
      rcases (reads count).error alike step with ⟨other, same, fails⟩ | cut
      · rw [readExact_eq reader count right, if_neg positive, same]
        simp only [if_pos interrupted]
        exact ih (resumable.fails_iff.mp fails)
      · exact absurd interrupted (resumable.quiet cut)
  | case6 count left positive fault after step quiet =>
      rcases (reads count).error alike step with ⟨other, same, fails⟩ | cut
      · rw [readExact_eq, if_neg positive, same]
        simp only [if_neg quiet]
        exact .error fails
      · exact .cut cut

theorem drain_agrees (growth : Growth) (left : σ) :
    ∀ right, comparison.alike left right →
      (∃ other, reader.drain growth right = { reader.drain growth left with state := other } ∧
          comparison.alike (reader.drain growth left).state other) ∨
        ∃ fault, (reader.drain growth left).fault = some fault ∧
          comparison.cut fault (reader.drain growth left).state := by
  fun_induction Reader.drain reader growth left with
  | case1 growth left after step =>
      intro right alike
      rcases (reads growth.offer).ok alike step with ⟨other, same, alike⟩
      rw [drain_eq, same]
      exact Or.inl ⟨other, rfl, alike⟩
  | case2 growth left first more after step later ih =>
      intro right alike
      rcases (reads growth.offer).ok alike step with ⟨other, same, alike⟩
      rcases ih other alike with ⟨last, sameRest, alike⟩ | cut
      · rw [drain_eq reader growth right, same]
        simp only [sameRest]
        exact Or.inl ⟨last, rfl, alike⟩
      · exact Or.inr cut
  | case3 growth left fault after step interrupted ih =>
      intro right alike
      rcases (reads growth.offer).error alike step with ⟨other, same, fails⟩ | cut
      · rw [drain_eq reader growth right, same]
        simp only [if_pos interrupted]
        exact ih other (resumable.fails_iff.mp fails)
      · exact absurd interrupted (resumable.quiet cut)
  | case4 growth left fault after step quiet =>
      intro right alike
      rcases (reads growth.offer).error alike step with ⟨other, same, fails⟩ | cut
      · rw [drain_eq, same]
        simp only [if_neg quiet]
        exact Or.inl ⟨other, rfl, resumable.fails_iff.mp fails⟩
      · exact Or.inr ⟨fault, rfl, cut⟩

end Reader

namespace Comparison

/-- The comparison for states with a count beside them. The counts are the same. -/
def counted (comparison : Comparison Fault σ) : Comparison Fault (σ × Nat) where
  alike left right := comparison.alike left.1 right.1 ∧ left.2 = right.2
  fails fault left right := comparison.fails fault left.1 right.1 ∧ left.2 = right.2
  cut fault left := comparison.cut fault left.1

theorem Resumable.counted {comparison : Comparison Fault σ} (resumable : comparison.Resumable) :
    comparison.counted.Resumable where
  fails_iff := and_congr_left fun _ => resumable.fails_iff
  quiet := resumable.quiet

theorem mirrors_limited {comparison : Comparison Fault σ} {reader : Reader σ}
    (reads : ∀ asked, comparison.Mirrors (reader.read asked) (reader.read asked)) (asked : Nat) :
    comparison.counted.Mirrors (reader.limited.read asked) (reader.limited.read asked) := by
  rintro ⟨left, owed⟩ ⟨right, other⟩ ⟨alike, same⟩
  cases same
  simp only [Reader.limited]
  split
  · exact .ok ⟨alike, rfl⟩
  · have agree := reads (min asked owed) alike
    generalize reader.read (min asked owed) left = before,
      reader.read (min asked owed) right = after at agree ⊢
    cases agree with
    | ok alike => exact .ok ⟨alike, rfl⟩
    | error fails => exact .error ⟨fails, rfl⟩
    | cut cut => exact .cut cut

end Comparison

/-! ## Writers -/

namespace Writer

theorem writeAll_eq (writer : Writer σ) (offered : Bytes) (state : σ) :
    writer.writeAll offered state =
      match offered with
      | [] => .ok () state
      | first :: more =>
          match writer.write (first :: more) state with
          | .ok 0 after => .error .unwritten after
          | .ok (taken + 1) after => writer.writeAll (more.drop taken) after
          | .error fault after =>
              if fault.isInterrupted then writer.writeAll (first :: more) after
              else .error fault after := by
  rcases offered with _ | ⟨first, more⟩
  · rw [writeAll]
  · rw [writeAll]
    split <;> simp only [*]

/-- A fault of the first write ends writing at once. -/
theorem writeAll_of_error {writer : Writer σ} {offered : Bytes} (nonempty : offered ≠ [])
    {before after : σ} {fault : Fault} (quiet : ¬fault.isInterrupted = true)
    (failed : writer.write offered before = .error fault after) :
    writer.writeAll offered before = .error fault after := by
  rcases offered with _ | ⟨first, more⟩
  · exact absurd rfl nonempty
  · rw [writeAll_eq]
    simp only [failed, if_neg quiet]

variable {writer : Writer σ} {comparison : Comparison Fault σ} (resumable : comparison.Resumable)
  (writes : ∀ offered, comparison.Mirrors (writer.write offered) (writer.write offered))

include resumable writes

theorem mirrors_writeAll (offered : Bytes) :
    comparison.Mirrors (writer.writeAll offered) (writer.writeAll offered) := by
  intro left right alike
  fun_induction Writer.writeAll writer offered left generalizing right with
  | case1 left =>
      rw [writeAll_eq]
      exact .ok alike
  | case2 left first more after step =>
      rcases (writes (first :: more)).ok alike step with ⟨other, same, alike⟩
      rw [writeAll_eq]
      simp only [same]
      exact .error (resumable.fails_iff.mpr alike)
  | case3 left first more taken after step ih =>
      rcases (writes (first :: more)).ok alike step with ⟨other, same, alike⟩
      rw [writeAll_eq writer (first :: more)]
      simp only [same]
      exact ih alike
  | case4 left first more fault after step interrupted ih =>
      rcases (writes (first :: more)).error alike step with ⟨other, same, fails⟩ | cut
      · rw [writeAll_eq writer (first :: more) right]
        simp only [same, if_pos interrupted]
        exact ih (resumable.fails_iff.mp fails)
      · exact absurd interrupted (resumable.quiet cut)
  | case5 left first more fault after step quiet =>
      rcases (writes (first :: more)).error alike step with ⟨other, same, fails⟩ | cut
      · rw [writeAll_eq]
        simp only [same, if_neg quiet]
        exact .error fails
      · exact .cut cut

end Writer

end Switchboard
