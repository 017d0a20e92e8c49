import SipXsbc.Script.Bridge

/-!
# Transaction properties across the bridge

Scripts set and get the properties of a transaction through the handles of its
messages. Over any calls the properties of all transactions are one map, from a
transaction and a name to a value: a set that the bridge accepts assigns to it, and
every other call leaves the world as it is.
-/

namespace SipXsbc

open Keyed

variable {T S : Type}

/-! ## The properties as one map -/

namespace World

def property (host : SipHost T) (w : World T S) (key : Nat × String) : Option String :=
  host.getProperty (w.transactions key.1) key.2

def assign (host : SipHost T) (w : World T S) (key : Nat × String) (value : String) : World T S :=
  w.onTransaction key.1 (host.setProperty · key.2 value)

theorem property_isMap {host : SipHost T} (map : host.StringMap) :
    IsMap (property (S := S) host) (assign host) := by
  intro w key value key'
  obtain ⟨k, name⟩ := key
  obtain ⟨k', name'⟩ := key'
  by_cases same : k' = k
  case pos =>
    subst same
    have reading := map (w.transactions k') name value name'
    unfold property assign
    rw [onTransaction_transactions_self]
    simpa using reading
  case neg =>
    have other : (w.assign host (k, name) value).transactions k' = w.transactions k' :=
      Function.update_of_ne same ..
    unfold property
    rw [if_neg fun keys => same (congrArg Prod.fst keys), other]

variable {host : SipHost T} (w : World T S) (as : List ((Nat × String) × String))

theorem assignAll_messages : (assignAll (assign host) w as).messages = w.messages := by
  induction as generalizing w with
  | nil => rfl
  | cons a as ih => exact ih (w.assign host a.1 a.2)

theorem assign_getLogId (kept : host.KeepsLogId) (key : Nat × String) (value : String) (k : Nat) :
    host.getLogId ((w.assign host key value).transactions k) =
      host.getLogId (w.transactions k) := by
  by_cases same : k = key.1
  case pos =>
    rw [same]
    unfold assign
    rw [onTransaction_transactions_self, kept]
  case neg =>
    have other : (w.assign host key value).transactions k = w.transactions k :=
      Function.update_of_ne same ..
    rw [other]

theorem assignAll_getLogId (kept : host.KeepsLogId) (k : Nat) :
    host.getLogId ((assignAll (assign host) w as).transactions k) =
      host.getLogId (w.transactions k) := by
  induction as generalizing w with
  | nil => rfl
  | cons a as ih => exact (ih (w.assign host a.1 a.2)).trans (assign_getLogId w kept a.1 a.2 k)

end World

/-! ## Calls -/

/-- A call on the handle of a message. -/
inductive PropertyCall
  | set (i : Nat) (name value : JsVal)
  | get (i : Nat) (name : JsVal)

namespace PropertyCall

def perform (host : SipHost T) : PropertyCall → Js T S JsVal
  | set i name value => SBController.jsMsgSetTransactionProperty host [.handle i, name, value]
  | get i name => SBController.jsMsgGetTransactionProperty host [.handle i, name]

/-- Calls one after another, with their answers in order. -/
def performAll (host : SipHost T) : List PropertyCall → Js T S (List JsVal)
  | [] => return []
  | call :: calls => do
      let answer ← call.perform host
      let answers ← performAll host calls
      return answer :: answers

def NulFree : PropertyCall → Prop
  | set _ name value => name.NulFree ∧ value.NulFree
  | get _ name => name.NulFree

instance : DecidablePred NulFree
  | set _ name value => inferInstanceAs (Decidable (name.NulFree ∧ value.NulFree))
  | get _ name => inferInstanceAs (Decidable name.NulFree)

/-- What a call assigns: a set does if its message has a transaction and its name
and value are non-empty strings. -/
def accepted (messages : Nat → Message) : PropertyCall → Option ((Nat × String) × String)
  | set i (.str name) (.str value) =>
      if name = "" ∨ value = "" then none
      else (messages i).userData.map fun k => ((k, name), value)
  | _ => none

/-- The answer to a call made after other calls on a world. -/
def answer (host : SipHost T) (w : World T S) (earlier : List PropertyCall) : PropertyCall → JsVal
  | set i name value => .bool (accepted w.messages (set i name value)).isSome
  | get i (.str name) =>
      match (w.messages i).userData with
      | none => .undefined
      | some k =>
          if name = "" then .undefined
          else if name = "log-id" then .str (cStr (host.getLogId (w.transactions k)))
          else
            let set := lastValue (earlier.filterMap (accepted w.messages)) (k, name)
            .str ((set.or ((w.property host (k, name)).map cStr)).getD "")
  | get _ _ => .undefined

section Effect

variable (host : SipHost T) (w : World T S)

/-- What a call does to the world. -/
def effect (call : PropertyCall) (w : World T S) : World T S :=
  assignAll (World.assign host) w (call.accepted w.messages).toList

theorem accepted_set (messages : Nat → Message) (i : Nat) {name value : JsVal}
    (nulFree : (set i name value).NulFree) :
    accepted messages (set i name value) =
      if SBController.jsValToString name = "" ∨ SBController.jsValToString value = "" then none
      else (messages i).userData.map fun k =>
        ((k, SBController.jsValToString name), SBController.jsValToString value) := by
  obtain ⟨nameNulFree, valueNulFree⟩ := nulFree
  cases name with
  | str name =>
      cases value with
      | str value =>
          simp only [jsValToString_str nameNulFree, jsValToString_str valueNulFree]
          rfl
      | _ => exact (if_pos (Or.inr rfl)).symm
  | _ => exact (if_pos (Or.inl rfl)).symm

/-- A set makes the assignment it is accepted for. -/
theorem perform_set (i : Nat) {name value : JsVal} (nulFree : (set i name value).NulFree) :
    (set i name value).perform host w =
      .ok (.bool (accepted w.messages (set i name value)).isSome)
        ((set i name value).effect host w) := by
  refine (jsMsgSetTransactionProperty_handle host i w name value).trans ?_
  unfold effect
  rw [accepted_set _ _ nulFree]
  unfold World.acceptsTransactionProperty World.setTransactionProperty
  simp only [← String.isEmpty_iff, ← Bool.or_eq_true]
  cases (w.messages i).userData with
  | none => simp [assignAll]
  | some k =>
      cases (SBController.jsValToString name).isEmpty ||
          (SBController.jsValToString value).isEmpty with
      | true => rfl
      | false => rfl

theorem accepted_nulFree {messages : Nat → Message} {call : PropertyCall} (nulFree : call.NulFree)
    {key : Nat × String} {value : String} (set : call.accepted messages = some (key, value)) :
    SipXsbc.NulFree value := by
  unfold accepted at set
  split at set
  · split at set
    · cases set
    · obtain ⟨k, -, assigned⟩ := Option.map_eq_some_iff.mp set
      cases assigned
      exact nulFree.2
  · cases set

/-- The world after calls that were accepted one after another. -/
def effects (calls : List PropertyCall) (w : World T S) : World T S :=
  assignAll (World.assign host) w (calls.filterMap (accepted w.messages))

/-- A property that calls have set reads as the last value they gave it. -/
theorem effects_property {host : SipHost T} (map : host.StringMap) {calls : List PropertyCall}
    (nulFree : ∀ call ∈ calls, call.NulFree) (key : Nat × String) :
    cStr (((effects host calls w).property host key).getD "") =
      ((lastValue (calls.filterMap (accepted w.messages)) key).or
        ((w.property host key).map cStr)).getD "" := by
  unfold effects
  rw [(World.property_isMap map).get_assignAll]
  cases last : lastValue (calls.filterMap (accepted w.messages)) key with
  | none =>
      cases w.property host key with
      | none => rfl
      | some value => rfl
  | some value =>
      obtain ⟨call, mem, set⟩ := List.mem_filterMap.mp (mem_of_lastValue last)
      exact cStr_eq_self (accepted_nulFree (nulFree call mem) set)

/-- A get leaves the world as it is, and answers what the earlier calls make of it. -/
theorem perform_get {host : SipHost T} (map : host.StringMap) (kept : host.KeepsLogId)
    {earlier : List PropertyCall}
    (earlierNulFree : ∀ call ∈ earlier, call.NulFree) (i : Nat) {name : JsVal}
    (nulFree : name.NulFree) :
    (get i name).perform host (effects host earlier w) =
      .ok ((get i name).answer host w earlier) (effects host earlier w) := by
  refine (getTransactionProperty_handle host i _ name).trans ?_
  have messages : (effects host earlier w).messages = w.messages := World.assignAll_messages w _
  unfold answer World.transactionProperty
  rw [messages]
  cases name with
  | str name =>
      simp only [jsValToString_str nulFree]
      cases (w.messages i).userData with
      | none => rfl
      | some k =>
          have logId : host.getLogId ((effects host earlier w).transactions k) =
              host.getLogId (w.transactions k) := World.assignAll_getLogId w _ kept k
          have text := effects_property w map earlierNulFree (k, name)
          unfold World.property at text
          simp only [logId, text]
          rfl
  | _ => cases (w.messages i).userData <;> rfl

theorem perform_eq {call : PropertyCall} (nulFree : call.NulFree) :
    ∃ v, call.perform host w = .ok v (call.effect host w) := by
  cases call with
  | set i name value => exact ⟨_, perform_set host w i nulFree⟩
  | get i name => exact ⟨_, getTransactionProperty_handle host i w name⟩

theorem effects_cons (call : PropertyCall) (calls : List PropertyCall) :
    effects host (call :: calls) w = effects host calls (call.effect host w) := by
  have messages : (call.effect host w).messages = w.messages := World.assignAll_messages w _
  unfold effects
  rw [messages]
  cases assigned : call.accepted w.messages with
  | none =>
      unfold effect
      rw [List.filterMap_cons_none assigned, assigned]
      rfl
  | some a =>
      unfold effect
      rw [List.filterMap_cons_some assigned, assigned]
      rfl

theorem performAll_eq {calls : List PropertyCall} (nulFree : ∀ call ∈ calls, call.NulFree) :
    ∃ answers, performAll host calls w = .ok answers (effects host calls w) := by
  induction calls generalizing w with
  | nil => exact ⟨[], rfl⟩
  | cons call calls ih =>
      obtain ⟨first, rest⟩ := List.forall_mem_cons.mp nulFree
      obtain ⟨answer, performed⟩ := perform_eq host w first
      obtain ⟨answers, run⟩ := ih (call.effect host w) rest
      refine ⟨answer :: answers, ?_⟩
      rw [effects_cons]
      unfold performAll
      exact and_then performed (and_then run rfl)

end Effect

end PropertyCall

open PropertyCall

/-- After any calls on a world, the next one answers as on a map from a transaction
and a name to a value. It changes the one property it is accepted for, or
nothing. -/
theorem transaction_properties_are_one_map {host : SipHost T} (map : host.StringMap)
    (kept : host.KeepsLogId) {earlier : List PropertyCall} {call : PropertyCall}
    (earlierNulFree : ∀ call ∈ earlier, call.NulFree) (nulFree : call.NulFree) (w : World T S) :
    ∃ answers w₁ w₂, performAll host earlier w = .ok answers w₁ ∧
      call.perform host w₁ = .ok (call.answer host w earlier) w₂ ∧
      (call.accepted w.messages = none → w₂ = w₁) ∧
      ∀ key value, call.accepted w.messages = some (key, value) →
        w₂ = w₁.assign host key value ∧
          ∀ key', w₂.property host key' = if key' = key then some value else w₁.property host key' := by
  obtain ⟨answers, run⟩ := performAll_eq host w earlierNulFree
  have messages : (effects host earlier w).messages = w.messages := World.assignAll_messages w _
  refine ⟨answers, effects host earlier w, call.effect host (effects host earlier w), run, ?_, ?_, ?_⟩
  · cases call with
    | set i name value =>
        rw [perform_set host _ i nulFree, messages]
        rfl
    | get i name => exact perform_get w map kept earlierNulFree i nulFree
  · intro refused
    unfold effect
    rw [messages, refused]
    rfl
  · intro key value set
    have assigned : call.effect host (effects host earlier w) =
        (effects host earlier w).assign host key value := by
      unfold effect
      rw [messages, set]
      rfl
    refine ⟨assigned, ?_⟩
    intro key'
    rw [assigned]
    exact World.property_isMap map _ key value key'

/-- Two messages of one transaction, and others without one. -/
def sharedWorld : World MemoryTransaction Unit where
  messages i :=
    { method := some "INVITE"
      requestUri := ⟨some "alice", "example.com"⟩
      fromUri := ⟨some "bob", "example.com"⟩
      toUri := ⟨some "alice", "example.com"⟩
      headers := []
      properties := fun _ => none
      userData := if i < 2 then some 0 else none }
  transactions _ := ⟨"log", none, fun _ => none⟩
  defaultTargetDomain := ""
  script := ()

/-- A property set through one handle is read through the other, past sets that are
refused. -/
theorem transaction_properties_shared :
    ∃ answers w₁ w₂, performAll memoryHost
        [.set 0 (.str "trunk") (.str "1"), .set 1 (.str "trunk") (.num (.finite 2)),
          .set 2 (.str "trunk") (.str "3")] sharedWorld = .ok answers w₁ ∧
      (PropertyCall.get 1 (.str "trunk")).perform memoryHost w₁ = .ok (.str "1") w₂ ∧ w₂ = w₁ := by
  have nulFree : ∀ call ∈ [PropertyCall.set 0 (.str "trunk") (.str "1"),
      .set 1 (.str "trunk") (.num (.finite 2)), .set 2 (.str "trunk") (.str "3")],
      call.NulFree := by
    intro call mem
    simp only [List.mem_cons, List.not_mem_nil, or_false] at mem
    rcases mem with rfl | rfl | rfl <;> decide
  obtain ⟨answers, w₁, w₂, run, answer, same, -⟩ :=
    transaction_properties_are_one_map memoryHost_stringMap memoryHost_keepsLogId nulFree
      (show (PropertyCall.get 1 (.str "trunk")).NulFree by decide) sharedWorld
  exact ⟨answers, w₁, w₂, run, answer, same rfl⟩

end SipXsbc
