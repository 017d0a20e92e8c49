import SipXsbc.Basic
import SipXsbc.Keyed.Assignments
import Mathlib.Data.List.TakeWhile
import Mathlib.Data.Rat.Defs
import Mathlib.Logic.Function.Basic

/-!
# What a handler script works on

The values of a script, the SIP messages and transactions behind the handles it
is given, and the host functions it calls. The messages and transactions belong
to the SIP stack, outside the repository: `SipHost` has what its functions do,
and the assumptions about them are named propositions over it. Log lines are left
out, except for the calls in their arguments.
-/

namespace SipXsbc

/-! ## Texts -/

/-- What a C string keeps of a string. -/
def cStr (s : String) : String := String.ofList (s.toList.takeWhile fun c => c.val != 0)

def NulFree (s : String) : Prop := ∀ c ∈ s.toList, c.val ≠ 0

instance : DecidablePred NulFree := fun s =>
  List.decidableBAll (fun c : Char => c.val ≠ 0) s.toList

/-- Without a NUL a string stays whole. -/
theorem cStr_eq_self {s : String} (nulFree : NulFree s) : cStr s = s := by
  have whole : (s.toList.takeWhile fun c => c.val != 0) = s.toList := by
    rw [List.takeWhile_eq_self_iff]
    intro c mem
    simp [nulFree c mem]
  rw [cStr, whole, String.ofList_toList]

/-- What a C string keeps has no NUL. -/
theorem cStr_nulFree (s : String) : NulFree (cStr s) := by
  intro c mem
  rw [cStr, String.toList_ofList] at mem
  simpa using List.mem_takeWhile_imp mem

/-- A text that comes through a C string as it is, and is not empty. -/
def IsCText (s : String) : Prop := s ≠ "" ∧ NulFree s

instance : DecidablePred IsCText := fun s => inferInstanceAs (Decidable (s ≠ "" ∧ NulFree s))

/-! ## Values -/

/-- What an internal field of a script object points to. -/
inductive Pointer
  | null
  | message (i : Nat)
  | other
  deriving DecidableEq

inductive InternalField
  | external (pointer : Pointer)
  | value
  deriving DecidableEq

inductive JsNumber
  | finite (q : ℚ)
  | infinity (negative : Bool)
  | nan
  deriving DecidableEq

/-- A script value. Of an object there are its internal fields and the text it
converts to. -/
inductive JsVal
  | undefined
  | null
  | bool (b : Bool)
  | num (n : JsNumber)
  | str (s : String)
  | obj (fields : List InternalField) (text : String)
  deriving DecidableEq

def utf16Units : List Char → Nat
  | [] => 0
  | c :: cs => (if c.toNat < 0x10000 then 1 else 2) + utf16Units cs

/-- The length of a string in UTF-16 code units. -/
def utf16Length (s : String) : Nat := utf16Units s.toList

theorem utf16Length_eq_zero {s : String} : utf16Length s = 0 ↔ s = "" := by
  unfold utf16Length
  rw [← String.toList_eq_nil_iff]
  cases s.toList with
  | nil => simp [utf16Units]
  | cons c cs =>
      have positive : 0 < if c.toNat < 0x10000 then 1 else 2 := by
        split <;> omega
      simp only [utf16Units, reduceCtorEq, iff_false]
      omega

namespace JsVal

/-- The handle that a script is given for a message. -/
def handle (i : Nat) : JsVal := obj [.external (.message i)] "[object Object]"

def typeof : JsVal → String
  | undefined => "undefined"
  | null => "object"
  | bool _ => "boolean"
  | num _ => "number"
  | str _ => "string"
  | obj _ _ => "object"

def truthy : JsVal → Bool
  | undefined => false
  | null => false
  | bool b => b
  | num (.finite q) => q != 0
  | num (.infinity _) => true
  | num .nan => false
  | str s => !s.isEmpty
  | obj _ _ => true

/-- `v == text`, for a text that is not a numeral. -/
def looselyEquals (v : JsVal) (text : String) : Bool :=
  match v with
  | str s => s == text
  | obj _ s => s == text
  | _ => false

/-- The user of a URI as a script reads it. -/
def ofUser : Option String → JsVal
  | none => undefined
  | some user => str user

/-- The message behind a handle. -/
def message? : JsVal → Option Nat
  | obj (.external (.message i) :: _) _ => some i
  | _ => none

end JsVal

/-! ## Messages, transactions and the host -/

@[ext] structure SipUri where
  user : Option String
  hostPort : String
  deriving DecidableEq

/-- A SIP message. A response has no method; the From and To headers are the two
URIs, the others are in order in `headers`. `userData` is its transaction. -/
@[ext] structure Message where
  method : Option String
  requestUri : SipUri
  fromUri : SipUri
  toUri : SipUri
  headers : List (String × String)
  properties : String → Option String
  userData : Option Nat

namespace Message

def setProperty (name value : String) (m : Message) : Message :=
  { m with properties := Function.update m.properties name (some value) }

def setRequestUriUser (user : String) (m : Message) : Message :=
  { m with requestUri := { m.requestUri with user := some user } }

def setRequestUriHostPort (hostPort : String) (m : Message) : Message :=
  { m with requestUri := { m.requestUri with hostPort := hostPort } }

def setFromHostPort (hostPort : String) (m : Message) : Message :=
  { m with fromUri := { m.fromUri with hostPort := hostPort } }

def setToHostPort (hostPort : String) (m : Message) : Message :=
  { m with toUri := { m.toUri with hostPort := hostPort } }

/-- Drop the headers of one name, in any letter case. -/
def hdrRemove (name : String) (m : Message) : Message :=
  { m with headers := m.headers.filter fun h => toLower h.1 != toLower name }

/-- Dropping the headers of two names, one after the other. -/
theorem hdrRemove_hdrRemove (name name' : String) (m : Message) :
    (m.hdrRemove name).hdrRemove name' =
      { m with headers := m.headers.filter fun h => toLower h.1 ∉ [toLower name, toLower name'] } := by
  have kept : ((m.headers.filter fun h => toLower h.1 != toLower name).filter fun h =>
      toLower h.1 != toLower name') =
        m.headers.filter fun h => toLower h.1 ∉ [toLower name, toLower name'] := by
    rw [List.filter_filter]
    apply List.filter_congr
    intro h _
    rw [Bool.eq_iff_iff]
    simp [and_comm]
  unfold hdrRemove
  rw [kept]

def withProperty (m : Message) (name value : String) : Message := m.setProperty name value

theorem properties_isMap : Keyed.IsMap properties withProperty := by
  intro m name value name'
  exact Function.update_apply ..

/-- Properties set one after another, and nothing else. -/
theorem assignAll_eq (m : Message) (as : List (String × String)) :
    Keyed.assignAll withProperty m as =
      { m with properties := fun name => (Keyed.lastValue as name).or (m.properties name) } := by
  have rest : Keyed.assignAll withProperty m as =
      { m with properties := (Keyed.assignAll withProperty m as).properties } := by
    induction as generalizing m with
    | nil => rfl
    | cons a as ih => exact ih (m.withProperty a.1 a.2)
  rw [rest]
  congr 1
  funext name
  exact properties_isMap.get_assignAll m as name

end Message

structure TransportAddress where
  text : String
  port : Nat

structure ServerTransport where
  remoteAddress : TransportAddress
  localAddress : TransportAddress

/-- The host functions the scripts call on a message. -/
inductive HostFn
  | msgSetProperty
  | msgIsRequest
  | msgGetRequestUriUser
  | msgSetRequestUriUser
  | msgSetRequestUriHostPort
  | msgSetFromHostPort
  | msgSetToHostPort
  | msgGetToUser
  | msgHdrRemove
  deriving DecidableEq

/-- The code outside the repository that the scripts and their exports call. `call`
is a host function on a message, from the arguments after the handle; `stray` is
one whose first argument is no message. `T` is the class of transactions. -/
structure SipHost (T : Type) where
  call : HostFn → List JsVal → Message → JsVal × Message
  stray : HostFn → List JsVal → JsVal
  cidrVerify : JsVal → JsVal → Bool
  setProperty : T → String → String → T
  getProperty : T → String → Option String
  getLogId : T → String
  serverTransport : T → Option ServerTransport

namespace SipHost

variable {T : Type}

/-- The properties of a transaction are a map of strings. -/
def StringMap (host : SipHost T) : Prop :=
  Keyed.IsMap host.getProperty host.setProperty

/-- The log identifier of a transaction is none of its properties. -/
def KeepsLogId (host : SipHost T) : Prop :=
  ∀ t name value, host.getLogId (host.setProperty t name value) = host.getLogId t

/-- `msgSetProperty` sets a named property to a non-empty value. -/
def SetsProperties (host : SipHost T) : Prop :=
  ∀ name value m, IsCText name → IsCText value →
    (host.call .msgSetProperty [.str name, .str value] m).2 = m.setProperty name value

/-- `msgIsRequest` only looks at the message. -/
def IsRequestReads (host : SipHost T) : Prop :=
  ∀ args m, (host.call .msgIsRequest args m).2 = m

/-- `msgIsRequest` tells whether the message is a request of the method. -/
def IsRequestExact (host : SipHost T) : Prop :=
  ∀ method m,
    (host.call .msgIsRequest [.str method] m).1.truthy = (m.method == some method)

end SipHost

/-! ## A host in memory -/

structure MemoryTransaction where
  logId : String
  transport : Option ServerTransport
  properties : String → Option String

/-- What the host functions do to a message that is just kept in memory. -/
def memoryCall : HostFn → List JsVal → Message → JsVal × Message
  | .msgSetProperty, [.str name, .str value], m =>
      if name = "" ∨ value = "" then (.bool false, m) else (.bool true, m.setProperty name value)
  | .msgIsRequest, [.str method], m => (.bool (m.method == some method), m)
  | .msgGetRequestUriUser, _, m => (.ofUser m.requestUri.user, m)
  | .msgSetRequestUriUser, [.str user], m => (.bool true, m.setRequestUriUser user)
  | .msgSetRequestUriHostPort, [.str hostPort], m =>
      (.bool true, m.setRequestUriHostPort hostPort)
  | .msgSetFromHostPort, [.str hostPort], m => (.bool true, m.setFromHostPort hostPort)
  | .msgSetToHostPort, [.str hostPort], m => (.bool true, m.setToHostPort hostPort)
  | .msgGetToUser, _, m => (.ofUser m.toUri.user, m)
  | .msgHdrRemove, [.str name], m => (.bool true, m.hdrRemove name)
  | _, _, m => (.undefined, m)

/-- A host whose messages and transactions are kept in memory and whose networks
are single addresses. -/
def memoryHost : SipHost MemoryTransaction where
  call := memoryCall
  stray _ _ := .undefined
  cidrVerify
    | .str source, .str network => network == source ++ "/32"
    | _, _ => false
  setProperty t name value :=
    { t with properties := Function.update t.properties name (some value) }
  getProperty t name := t.properties name
  getLogId t := t.logId
  serverTransport t := t.transport

theorem memoryHost_stringMap : memoryHost.StringMap :=
  fun t name value name' => Function.update_apply t.properties name (some value) name'

theorem memoryHost_keepsLogId : memoryHost.KeepsLogId := fun _ _ _ => rfl

theorem memoryHost_setsProperties : memoryHost.SetsProperties := by
  intro name value m named filled
  exact congrArg Prod.snd (if_neg (not_or.mpr ⟨named.1, filled.1⟩))

theorem memoryHost_isRequestReads : memoryHost.IsRequestReads := by
  intro args m
  change (memoryCall .msgIsRequest args m).2 = m
  unfold memoryCall
  split <;> first | rfl | contradiction

theorem memoryHost_isRequestExact : memoryHost.IsRequestExact := fun _ _ => rfl

/-! ## Script computations -/

/-- How a script ends early: an exception, or a C++ access that is not to an
existing value of its type. -/
inductive JsError
  | typeError
  | referenceError
  | fault
  deriving DecidableEq

/-- The messages and transactions there are, the default target domain of the
controller, and the objects of the script itself. -/
structure World (T S : Type) where
  messages : Nat → Message
  transactions : Nat → T
  defaultTargetDomain : String
  script : S

abbrev Js (T S α : Type) := EStateM JsError (World T S) α

namespace World

variable {T S : Type}

/-- Change one message. -/
def onMessage (i : Nat) (f : Message → Message) (w : World T S) : World T S :=
  { w with messages := Function.update w.messages i (f (w.messages i)) }

/-- Change one transaction. -/
def onTransaction (k : Nat) (f : T → T) (w : World T S) : World T S :=
  { w with transactions := Function.update w.transactions k (f (w.transactions k)) }

section

variable (w : World T S) (i k : Nat) {f g : Message → Message} {h : T → T}

@[simp] theorem onMessage_messages_self : (w.onMessage i f).messages i = f (w.messages i) :=
  Function.update_self ..

@[simp] theorem onMessage_onMessage :
    (w.onMessage i f).onMessage i g = w.onMessage i (g ∘ f) := by
  simp [onMessage]

/-- What a change does depends on the message as it is. -/
theorem onMessage_congr (same : f (w.messages i) = g (w.messages i)) :
    w.onMessage i f = w.onMessage i g := by
  unfold onMessage
  rw [same]

theorem onMessage_eq_self (same : f (w.messages i) = w.messages i) : w.onMessage i f = w := by
  unfold onMessage
  rw [same, Function.update_eq_self]

@[simp] theorem onTransaction_transactions_self :
    (w.onTransaction k h).transactions k = h (w.transactions k) :=
  Function.update_self ..

theorem onTransaction_eq_self (same : h (w.transactions k) = w.transactions k) :
    w.onTransaction k h = w := by
  unfold onTransaction
  rw [same, Function.update_eq_self]

@[simp] theorem onTransaction_onTransaction {h h' : T → T} :
    (w.onTransaction k h).onTransaction k h' = w.onTransaction k (h' ∘ h) := by
  simp [onTransaction]

end

end World

/-- A host function: it works on the message behind its first argument. -/
def SipHost.invoke {T S : Type} (host : SipHost T) (fn : HostFn) (request : JsVal)
    (args : List JsVal) : Js T S JsVal := do
  match request.message? with
  | some i =>
      let w ← get
      let result := host.call fn args (w.messages i)
      set (w.onMessage i fun _ => result.2)
      return result.1
  | none => return host.stray fn (request :: args)

/-- The length property of a value; `undefined` and `null` have no properties. -/
def JsVal.length {T S : Type} : JsVal → Js T S (Option Nat)
  | .undefined => throw .typeError
  | .null => throw .typeError
  | .str s => return some (utf16Length s)
  | _ => return none

end SipXsbc
