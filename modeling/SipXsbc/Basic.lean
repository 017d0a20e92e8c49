import Mathlib.Data.List.Basic

/-!
# Text and sequences of steps

What the start-up code and the scripts share: lower-casing, and how a computation
with a state and exceptions runs step by step. A computation that throws keeps the
state it has reached.
-/

namespace SipXsbc

/-- `boost::to_lower` in the classic locale. -/
def toLower (s : String) : String := String.ofList (s.toList.map Char.toLower)

section Sequence

variable {ε σ α β : Type} {x : EStateM ε σ α} {f : α → EStateM ε σ β} {s s' : σ}

theorem bind_of_ok {a : α} (ok : x s = .ok a s') : (x >>= f) s = f a s' := by
  simp only [bind, EStateM.bind, ok]

theorem bind_of_error {thrown : ε} (error : x s = .error thrown s') :
    (x >>= f) s = .error thrown s' := by
  simp only [bind, EStateM.bind, error]

theorem and_then {a : α} {b : β} {s'' : σ} (first : x s = .ok a s')
    (rest : f a s' = .ok b s'') : (x >>= f) s = .ok b s'' :=
  (bind_of_ok first).trans rest

/-- A step that only looks at the state can be passed over. -/
theorem bind_of_quiet (quiet : ∃ a, x s = .ok a s) {b : β}
    (rest : ∀ a, f a s = .ok b s') : (x >>= f) s = .ok b s' := by
  rcases quiet with ⟨a, ok⟩
  exact and_then ok (rest a)

theorem get_bind (f : σ → EStateM ε σ β) (s : σ) : (get >>= f) s = f s s := rfl

theorem modify_ok (f : σ → σ) (s : σ) : (modify f : EStateM ε σ PUnit) s = .ok ⟨⟩ (f s) := rfl

end Sequence

end SipXsbc
