import Mathlib.Data.List.Basic

/-!
# A buffered writer

A writer takes text into a buffer and passes it on to its file when it likes. A call
may fail, and so may the close, which has the rest of the buffer to pass on: what
the file holds in the end is the text written, less what was still in the buffer
when the close failed.
-/

namespace Keyed

/-- What a write comes to, with how much of the buffer reaches the file in the call. -/
inductive WriteOutcome
  | taken (drained : Nat)
  | failed (drained : Nat)
  deriving DecidableEq

structure BufferedWriter (α : Type) where
  onFile : List α
  buffered : List α
  calls : Nat

namespace BufferedWriter

variable {α ε : Type}

def fresh : BufferedWriter α := ⟨[], [], 0⟩

/-- All that was written, on the file or not. -/
def text (w : BufferedWriter α) : List α := w.onFile ++ w.buffered

def drain (n : Nat) (w : BufferedWriter α) : BufferedWriter α :=
  { w with onFile := w.onFile ++ w.buffered.take n, buffered := w.buffered.drop n }

@[simp] theorem text_drain (n : Nat) (w : BufferedWriter α) : (w.drain n).text = w.text := by
  simp only [text, drain, List.append_assoc, List.take_append_drop]

def accept (xs : List α) (w : BufferedWriter α) : BufferedWriter α :=
  { w with buffered := w.buffered ++ xs, calls := w.calls + 1 }

@[simp] theorem text_accept (xs : List α) (w : BufferedWriter α) :
    (w.accept xs).text = w.text ++ xs := by
  simp only [text, accept, List.append_assoc]

/-- One write. `outcomes` says what each call on the writer comes to. -/
def write (outcomes : Nat → WriteOutcome) (exception : ε) (xs : List α) :
    EStateM ε (BufferedWriter α) Unit := fun w =>
  match outcomes w.calls with
  | .taken n => .ok () ((w.accept xs).drain n)
  | .failed n => .error exception ((w.accept xs).drain n)

def writeAll (outcomes : Nat → WriteOutcome) (exception : ε) (texts : List (List α)) :
    EStateM ε (BufferedWriter α) Unit :=
  forM texts (write outcomes exception)

theorem writeAll_append (outcomes : Nat → WriteOutcome) (exception : ε)
    (texts texts' : List (List α)) :
    writeAll outcomes exception (texts ++ texts') =
      (writeAll outcomes exception texts >>= fun _ => writeAll outcomes exception texts') :=
  List.forM_append

/-- How much is in the buffer after writes of the given lengths, all taken. -/
def pending (outcomes : Nat → WriteOutcome) : Nat → Nat → List Nat → Nat
  | _, held, [] => held
  | call, held, length :: lengths =>
    match outcomes call with
    | .taken n => pending outcomes (call + 1) (held + length - n) lengths
    | .failed n => pending outcomes (call + 1) (held + length - n) lengths

/-- Some write of the next `count` ones fails. -/
def FailsWithin (outcomes : Nat → WriteOutcome) (call count : Nat) : Prop :=
  ∃ i, i < count ∧ ∃ n, outcomes (call + i) = .failed n

theorem failsWithin_succ_iff {outcomes : Nat → WriteOutcome} {call count : Nat} :
    FailsWithin outcomes call (count + 1) ↔
      (∃ n, outcomes call = .failed n) ∨ FailsWithin outcomes (call + 1) count := by
  refine ⟨?_, ?_⟩
  · intro fails
    rcases fails with ⟨i, bound, n, failed⟩
    rcases i with _ | i
    · exact .inl ⟨n, failed⟩
    · refine .inr ⟨i, by omega, n, ?_⟩
      rw [← failed]
      congr 1
      omega
  · intro fails
    rcases fails with ⟨n, failed⟩ | ⟨i, bound, n, failed⟩
    · exact ⟨0, by omega, n, failed⟩
    · refine ⟨i + 1, by omega, n, ?_⟩
      rw [← failed]
      congr 1
      omega

/-- What writes that are all taken leave. -/
structure Wrote (outcomes : Nat → WriteOutcome) (texts : List (List α))
    (w w' : BufferedWriter α) : Prop where
  text_eq : w'.text = w.text ++ texts.flatten
  buffered_eq : w'.buffered.length =
    pending outcomes w.calls w.buffered.length (texts.map List.length)

/-- Writes return unless one of them fails, and then they have written their text. -/
theorem writeAll_cases (outcomes : Nat → WriteOutcome) (exception : ε)
    (texts : List (List α)) (w : BufferedWriter α) :
    (∃ w', writeAll outcomes exception texts w = .ok () w' ∧
      ¬ FailsWithin outcomes w.calls texts.length ∧ Wrote outcomes texts w w') ∨
    (∃ w', writeAll outcomes exception texts w = .error exception w' ∧
      FailsWithin outcomes w.calls texts.length) := by
  induction texts generalizing w with
  | nil =>
    refine .inl ⟨w, rfl, ?_, by simp, rfl⟩
    intro fails
    rcases fails with ⟨i, bound, _⟩
    exact absurd bound (Nat.not_lt_zero i)
  | cons xs texts ih =>
    have walk : writeAll outcomes exception (xs :: texts) w =
        match write outcomes exception xs w with
        | .ok _ w' => writeAll outcomes exception texts w'
        | .error e w' => .error e w' := by
      rw [writeAll, List.forM_cons]
      simp only [bind, EStateM.bind]
      cases write outcomes exception xs w <;> rfl
    rw [walk, List.length_cons, failsWithin_succ_iff]
    unfold write
    cases first : outcomes w.calls with
    | failed n => exact .inr ⟨_, rfl, .inl ⟨n, rfl⟩⟩
    | taken n =>
      have sizes : ((w.accept xs).drain n).buffered.length =
          w.buffered.length + xs.length - n := by
        simp only [accept, drain, List.length_drop, List.length_append]
      rcases ih ((w.accept xs).drain n) with ⟨w', ran, none, wrote⟩ | ⟨w', threw, some⟩
      · refine .inl ⟨w', ran, ?_, ?_, ?_⟩
        · intro fails
          rcases fails with ⟨m, failed⟩ | later
          · cases failed
          · exact none later
        · rw [wrote.text_eq, text_drain, text_accept, List.flatten_cons, List.append_assoc]
        · rw [wrote.buffered_eq, sizes, List.map_cons, pending, first]
          rfl
      · exact .inr ⟨w', threw, .inr some⟩

/-- Writes leave a beginning of the text they are to write, also when one fails. -/
theorem writeAll_error_prefix {outcomes : Nat → WriteOutcome} {exception e : ε}
    {texts : List (List α)} {w w' : BufferedWriter α}
    (threw : writeAll outcomes exception texts w = .error e w') :
    w'.text <+: w.text ++ texts.flatten := by
  induction texts generalizing w with
  | nil => cases threw
  | cons xs texts ih =>
    rw [writeAll, List.forM_cons] at threw
    simp only [bind, EStateM.bind] at threw
    unfold write at threw
    rw [List.flatten_cons, ← List.append_assoc]
    cases first : outcomes w.calls with
    | failed n =>
      rw [first] at threw
      cases threw
      rw [text_drain, text_accept]
      exact List.prefix_append _ _
    | taken n =>
      rw [first] at threw
      have rest := ih threw
      rwa [text_drain, text_accept] at rest

/-- What the file holds once the writer is closed. `failure` is `none` for a close
that passes on the whole buffer, or how much of it a failing close passes on. -/
def closed (failure : Option Nat) (w : BufferedWriter α) : List α :=
  match failure with
  | none => w.text
  | some n => (w.drain n).onFile

theorem closed_prefix (failure : Option Nat) (w : BufferedWriter α) :
    w.closed failure <+: w.text := by
  cases failure with
  | none => exact List.prefix_rfl
  | some n =>
    rw [← text_drain n w]
    exact List.prefix_append _ _

/-- The file is complete unless a failing close leaves something in the buffer. -/
theorem closed_eq_text_iff (failure : Option Nat) (w : BufferedWriter α) :
    w.closed failure = w.text ↔ ∀ n, failure = some n → w.buffered.length ≤ n := by
  cases failure with
  | none => simp [closed]
  | some n =>
    have whole : w.buffered.take n = w.buffered ↔ w.buffered.length ≤ n := by
      refine ⟨?_, ?_⟩
      · intro same
        rw [← same]
        exact List.length_take_le n w.buffered
      · exact List.take_of_length_le
    simp only [closed, drain, text, List.append_cancel_left_eq, Option.some.injEq, forall_eq']
    exact whole

end BufferedWriter

end Keyed
