import SipXsbc.Keyed.Records

/-!
# One client's runs against a map of records

A script is the operations of one client, each with what the environment does
while it runs. `MapSpec` says what operations mean on a finite map of records:
the answers they may give and the map they leave. `MapSpec.Run` is a run of the
map in which every operation takes effect at one moment between the expiries
that fall into it. `MapSpec.run_of_simulates` lifts a simulation of single
operations to scripts of any length.
-/

namespace Keyed

variable {W K V Q R Op Answer : Type}

/-- Perform the operations of a script one after another. -/
def performAll (S : Client W K V Q) (code : Op → Prog K V Q Answer) :
    List (Op × List (Moment K)) → W → List Answer × W
  | [], w => ([], w)
  | (op, ms) :: script, w =>
      let here := (code op).perform S ms w
      let rest := performAll S code script here.2
      (here.1 :: rest.1, rest.2)

/-- The meaning of operations on a finite map of records. -/
structure MapSpec (K R Op Answer : Type) where
  answers : Op → (K → Option R) → Answer → Prop
  next : Op → (K → Option R) → K → Option R

/-- A run of the map: the expiries that fall into an operation come before or
after the moment at which it takes effect, in their order. -/
inductive MapSpec.Run [DecidableEq K] (spec : MapSpec K R Op Answer) :
    (K → Option R) → List (Op × List (Moment K)) → List Answer → (K → Option R) → Prop
  | nil {m : K → Option R} : spec.Run m [] [] m
  | cons {m m' : K → Option R} {op : Op} {ms : List (Moment K)} {answer : Answer}
      {script : List (Op × List (Moment K))} {answers : List Answer} (before after : List K) :
      expiries ms = before ++ after →
      spec.answers op (eraseAll m before) answer →
      spec.Run (eraseAll (spec.next op (eraseAll m before)) after) script answers m' →
      spec.Run m ((op, ms) :: script) (answer :: answers) m'

/-- One operation of the code answers and acts as the map does. -/
def MapSpec.Simulates [DecidableEq K] (spec : MapSpec K R Op Answer) (S : Client W K V Q)
    (encode : R → V) (key : R → K) (code : Op → Prog K V Q Answer) : Prop :=
  ∀ op ms w m, AllAccepted ms → Represents S encode key w m →
    ∃ before after, expiries ms = before ++ after ∧
      spec.answers op (eraseAll m before) ((code op).perform S ms w).1 ∧
      Represents S encode key ((code op).perform S ms w).2
        (eraseAll (spec.next op (eraseAll m before)) after)

/-- A script of operations that simulate the map is a run of the map. -/
theorem MapSpec.run_of_simulates [DecidableEq K] {spec : MapSpec K R Op Answer}
    {S : Client W K V Q} {encode : R → V} {key : R → K} {code : Op → Prog K V Q Answer}
    (sim : spec.Simulates S encode key code) (script : List (Op × List (Moment K)))
    (accepted : ∀ o ∈ script, AllAccepted o.2) {w : W} {m : K → Option R}
    (rep : Represents S encode key w m) :
    ∃ m', spec.Run m script (performAll S code script w).1 m' ∧
      Represents S encode key (performAll S code script w).2 m' := by
  induction script generalizing w m with
  | nil => exact ⟨m, .nil, rep⟩
  | cons o script ih =>
      obtain ⟨op, ms⟩ := o
      obtain ⟨before, after, split, answered, rep₁⟩ :=
        sim op ms w m (accepted _ List.mem_cons_self) rep
      obtain ⟨m', run, rep'⟩ := ih (fun o ho => accepted o (List.mem_cons_of_mem _ ho)) rep₁
      exact ⟨m', .cons before after split answered run, rep'⟩

end Keyed
