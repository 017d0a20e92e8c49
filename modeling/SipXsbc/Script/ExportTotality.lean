import SipXsbc.Script.RouteProfile

/-!
# The exports on any arguments

A script may pass anything where the exports expect the handle of a message.
`jsUnwrapRequest` only checks that it is an object, and then takes the first internal
field for the pointer to a message.
-/

namespace SipXsbc

open SBController

variable {T S : Type}

/-- The first internal field can be read as the pointer to a message, or the value is
not looked into. -/
def JsVal.unwraps : JsVal → Bool
  | obj (.external .null :: _) _ => true
  | obj (.external (.message _) :: _) _ => true
  | obj _ _ => false
  | _ => true

/-- The exports on a message. -/
inductive MessageExport
  | msgSetTransactionProperty
  | msgGetTransactionProperty
  | msgGetSourceAddress
  | msgGetSourcePort
  | msgGetInterfaceAddress
  | msgGetInterfacePort
  deriving DecidableEq

namespace MessageExport

def perform (host : SipHost T) : MessageExport → List JsVal → Js T S JsVal
  | msgSetTransactionProperty => jsMsgSetTransactionProperty host
  | msgGetTransactionProperty => jsMsgGetTransactionProperty host
  | msgGetSourceAddress => jsMsgGetSourceAddress host
  | msgGetSourcePort => jsMsgGetSourcePort host
  | msgGetInterfaceAddress => jsMsgGetInterfaceAddress host
  | msgGetInterfacePort => jsMsgGetInterfacePort host

/-- The number of arguments without which an export does nothing. -/
def arity : MessageExport → Nat
  | msgSetTransactionProperty => 3
  | msgGetTransactionProperty => 2
  | _ => 1

/-- What an export returns when it cannot do what it should. -/
def failure : MessageExport → JsVal
  | msgSetTransactionProperty => .bool false
  | _ => .undefined

def needsTransport : MessageExport → Bool
  | msgSetTransactionProperty => false
  | msgGetTransactionProperty => false
  | _ => true

/-- What an export reads of a transport. -/
def reading : MessageExport → ServerTransport → JsVal
  | msgGetSourceAddress, transport => .str (cStr transport.remoteAddress.text)
  | msgGetSourcePort, transport => .num (.finite transport.remoteAddress.port)
  | msgGetInterfaceAddress, transport => .str (cStr transport.localAddress.text)
  | msgGetInterfacePort, transport => .num (.finite transport.localAddress.port)
  | _, _ => .undefined

/-- The call did what the export is for on a transaction: a property was set or read, or
something of the transport was read. -/
def Works (host : SipHost T) (fn : MessageExport) (args : List JsVal) (k : Nat) (w : World T S)
    (v : JsVal) (w' : World T S) : Prop :=
  let name := jsValToString (args.getD 1 .undefined)
  match fn with
  | msgSetTransactionProperty =>
      let value := jsValToString (args.getD 2 .undefined)
      name ≠ "" ∧ value ≠ "" ∧ v = .bool true ∧
        w' = w.onTransaction k (host.setProperty · name value)
  | msgGetTransactionProperty =>
      let t := w.transactions k
      name ≠ "" ∧ w' = w ∧
        v = .str (cStr (if name = "log-id" then host.getLogId t
          else (host.getProperty t name).getD ""))
  | _ => w' = w ∧ ∃ transport, host.serverTransport (w.transactions k) = some transport ∧
      v = fn.reading transport

/-- The first argument is a message of the transaction, and there is a transport where the
export needs one. -/
def Genuine (host : SipHost T) (fn : MessageExport) (args : List JsVal) (k : Nat) (w : World T S) :
    Prop :=
  ∃ i, (args.headD .undefined).message? = some i ∧ (w.messages i).userData = some k ∧
    (fn.needsTransport = true → (host.serverTransport (w.transactions k)).isSome = true)

/-- A call ends normally: it works on a genuine message, or returns the failure value and
changes nothing. -/
def Total (host : SipHost T) (fn : MessageExport) (args : List JsVal) (w : World T S) : Prop :=
  ∃ v w', fn.perform host args w = .ok v w' ∧
    ((∃ k, fn.Genuine host args k w ∧ fn.Works host args k w v w') ∨ v = fn.failure ∧ w' = w)

end MessageExport

section Unwrap

variable {args : List JsVal} {w : World T S}

theorem transactionOf_unwraps (unwraps : (args.headD .undefined).unwraps = true) :
    transactionOf args w =
      .ok ((args.headD .undefined).message?.bind fun i => (w.messages i).userData) w := by
  cases args with
  | nil => rfl
  | cons v rest =>
      rcases v with _ | _ | _ | _ | _ | ⟨fields, text⟩
      case obj =>
        rcases fields with _ | ⟨⟨pointer⟩ | _, fields⟩
        · cases unwraps
        · cases pointer with
          | null => rfl
          | message i => rfl
          | other => cases unwraps
        · cases unwraps
      all_goals rfl

theorem transactionOf_fault (bad : (args.headD .undefined).unwraps = false) :
    transactionOf args w = .error .fault w := by
  cases args with
  | nil => cases bad
  | cons v rest =>
      rcases v with _ | _ | _ | _ | _ | ⟨fields, text⟩
      case obj =>
        rcases fields with _ | ⟨⟨pointer⟩ | _, fields⟩
        · rfl
        · cases pointer with
          | null => cases bad
          | message i => cases bad
          | other => rfl
        · rfl
      all_goals cases bad

end Unwrap

/-! ## The shape of the exports -/

/-- Check the number of arguments, find the transaction and go on with it. -/
def onTransactionOf (arity : Nat) (failure : JsVal) (goOn : Nat → Js T S JsVal)
    (args : List JsVal) : Js T S JsVal := do
  if args.length < arity then
    return failure
  else
    match ← transactionOf args with
    | none => return failure
    | some k => goOn k

section Shape

variable {arity : Nat} {failure : JsVal} {goOn : Nat → Js T S JsVal} {args : List JsVal}
  {w : World T S}

theorem onTransactionOf_short (short : args.length < arity) :
    onTransactionOf arity failure goOn args w = .ok failure w := by
  unfold onTransactionOf
  rw [if_pos short]
  rfl

theorem onTransactionOf_fault (enough : ¬ args.length < arity)
    (bad : (args.headD .undefined).unwraps = false) :
    onTransactionOf arity failure goOn args w = .error .fault w := by
  unfold onTransactionOf
  rw [if_neg enough]
  exact bind_of_error (transactionOf_fault bad)

theorem onTransactionOf_unwraps (enough : ¬ args.length < arity)
    (unwraps : (args.headD .undefined).unwraps = true) :
    onTransactionOf arity failure goOn args w =
      match (args.headD .undefined).message?.bind fun i => (w.messages i).userData with
      | none => .ok failure w
      | some k => goOn k w := by
  unfold onTransactionOf
  rw [if_neg enough, bind_of_ok (transactionOf_unwraps unwraps)]
  cases (args.headD .undefined).message?.bind fun i => (w.messages i).userData with
  | none => rfl
  | some k => rfl

end Shape

namespace MessageExport

/-- An export that works has what it needs. -/
theorem Works.transport {host : SipHost T} {fn : MessageExport} {args : List JsVal} {k : Nat}
    {w w' : World T S} {v : JsVal} (works : fn.Works host args k w v w')
    (needs : fn.needsTransport = true) :
    (host.serverTransport (w.transactions k)).isSome = true := by
  cases fn with
  | msgSetTransactionProperty => cases needs
  | msgGetTransactionProperty => cases needs
  | _ =>
      obtain ⟨-, transport, found, -⟩ := works
      rw [found]
      rfl

/-- It changes nothing but its own transaction. -/
theorem Works.frame {host : SipHost T} {fn : MessageExport} {args : List JsVal} {k : Nat}
    {w w' : World T S} {v : JsVal} (works : fn.Works host args k w v w') :
    ∃ t, w' = w.onTransaction k fun _ => t := by
  have unchanged : w = w.onTransaction k fun _ => w.transactions k :=
    (World.onTransaction_eq_self w k rfl).symm
  cases fn with
  | msgSetTransactionProperty => exact ⟨_, works.2.2.2⟩
  | msgGetTransactionProperty => exact ⟨_, works.2.1.trans unchanged⟩
  | _ => exact ⟨_, works.1.trans unchanged⟩

/-- Every export has this shape, and going on it works or fails. -/
theorem perform_shape (host : SipHost T) (fn : MessageExport) (args : List JsVal) :
    ∃ goOn : Nat → Js T S JsVal,
      fn.perform host args = onTransactionOf fn.arity fn.failure goOn args ∧
        ∀ k w, ∃ v w', goOn k w = .ok v w' ∧
          (fn.Works host args k w v w' ∨ v = fn.failure ∧ w' = w) := by
  have reads (read : ServerTransport → JsVal) : ∃ goOn : Nat → Js T S JsVal,
      jsMsgGetTransport host read args = onTransactionOf 1 .undefined goOn args ∧
        ∀ k w, ∃ v w', goOn k w = .ok v w' ∧
          ((w' = w ∧ ∃ transport, host.serverTransport (w.transactions k) = some transport ∧
              v = read transport) ∨
            v = .undefined ∧ w' = w) := by
    refine ⟨_, rfl, ?_⟩
    intro k w
    rw [get_bind]
    cases host.serverTransport (w.transactions k) with
    | none => exact ⟨_, _, rfl, Or.inr ⟨rfl, rfl⟩⟩
    | some transport => exact ⟨_, _, rfl, Or.inl ⟨rfl, transport, rfl, rfl⟩⟩
  cases fn with
  | msgSetTransactionProperty =>
      refine ⟨_, rfl, ?_⟩
      intro k w
      split
      · exact ⟨_, _, rfl, Or.inr ⟨rfl, rfl⟩⟩
      · rename_i filled
        simp only [Bool.or_eq_true, String.isEmpty_iff, not_or] at filled
        exact ⟨_, _, rfl, Or.inl ⟨filled.1, filled.2, rfl, rfl⟩⟩
  | msgGetTransactionProperty =>
      refine ⟨_, rfl, ?_⟩
      intro k w
      rw [get_bind]
      split
      · exact ⟨_, _, rfl, Or.inr ⟨rfl, rfl⟩⟩
      · rename_i named
        rw [String.isEmpty_iff] at named
        split
        · rename_i logId
          rw [beq_iff_eq] at logId
          exact ⟨_, _, rfl, Or.inl ⟨named, rfl, by rw [if_pos logId]⟩⟩
        · rename_i plain
          rw [beq_iff_eq] at plain
          exact ⟨_, _, rfl, Or.inl ⟨named, rfl, by rw [if_neg plain]⟩⟩
  | msgGetSourceAddress => exact reads (reading .msgGetSourceAddress)
  | msgGetSourcePort => exact reads (reading .msgGetSourcePort)
  | msgGetInterfaceAddress => exact reads (reading .msgGetInterfaceAddress)
  | msgGetInterfacePort => exact reads (reading .msgGetInterfacePort)

end MessageExport

/-- A call of an export is total exactly when it lacks arguments, or its first argument is
no object, or an object whose first internal field is the pointer to a message or
null. -/
theorem export_total_iff (host : SipHost T) (fn : MessageExport) (args : List JsVal)
    (w : World T S) :
    fn.Total host args w ↔
      args.length < fn.arity ∨ (args.headD .undefined).unwraps = true := by
  obtain ⟨goOn, shape, ends⟩ := fn.perform_shape (S := S) host args
  unfold MessageExport.Total
  rw [shape]
  by_cases short : args.length < fn.arity
  case pos =>
    simp only [short, true_or, iff_true]
    exact ⟨_, _, onTransactionOf_short short, Or.inr ⟨rfl, rfl⟩⟩
  cases unwraps : (args.headD .undefined).unwraps with
  | false =>
      refine iff_of_false ?_ (by simp [short])
      intro total
      rcases total with ⟨v, w', run, -⟩
      rw [onTransactionOf_fault short unwraps] at run
      cases run
  | true =>
      refine iff_of_true ?_ (Or.inr rfl)
      rw [onTransactionOf_unwraps short unwraps]
      cases message : (args.headD .undefined).message? with
      | none => exact ⟨_, _, rfl, Or.inr ⟨rfl, rfl⟩⟩
      | some i =>
          rw [Option.bind_some]
          cases transaction : (w.messages i).userData with
          | none => exact ⟨_, _, rfl, Or.inr ⟨rfl, rfl⟩⟩
          | some k =>
              obtain ⟨v, w', run, works | failed⟩ := ends k w
              · exact ⟨v, w', run, Or.inl ⟨k, ⟨i, message, transaction, works.transport⟩, works⟩⟩
              · exact ⟨v, w', run, Or.inr failed⟩

/-- The script object around a handle is taken for a message. -/
theorem export_of_wrapper_fails :
    ¬ MessageExport.msgGetSourceAddress.Total memoryHost [.obj [] "[object Object]"]
      registerWorld := by
  intro total
  rcases total with ⟨v, w', run, -⟩
  cases run

end SipXsbc
