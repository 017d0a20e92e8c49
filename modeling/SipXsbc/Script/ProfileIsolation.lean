import SipXsbc.Script.AuthProfile
import Mathlib.Data.List.Induction

/-!
# Isolation of authentication profiles

Configuring one profile should not change what another one does. The access lists
are properties of the profiles themselves, but `_transactionParams` is found on the
prototype they all share, so a property pushed onto one profile is set by all of
them. `isolated_iff` says when this makes no difference.
-/

namespace SipXsbc

open Keyed

variable {T : Type}

/-! ## Configuration -/

/-- A step of configuration on one profile. -/
inductive ConfigStep
  | pushProperty (property : PropertyObject)
  | pushNetwork (network : JsVal)
  | trustEveryone (value : JsVal)

/-- Steps on any profiles, in order. -/
abbrev History := List (Nat × ConfigStep)

namespace AuthScript

def onProfile (p : Nat) (f : AuthProfile → AuthProfile) (script : AuthScript) : AuthScript :=
  { script with profiles := Function.update script.profiles p (f (script.profiles p)) }

/-- Pushing goes to the array that the profile reads, its own or the prototype's. -/
def configure (p : Nat) (step : ConfigStep) (script : AuthScript) : AuthScript :=
  match step with
  | .pushProperty property =>
      match (script.profiles p).transactionParams with
      | some params =>
          script.onProfile p fun profile =>
            { profile with transactionParams := some (params ++ [property]) }
      | none => { script with prototypeParams := script.prototypeParams ++ [property] }
  | .pushNetwork network =>
      script.onProfile p fun profile =>
        { profile with accessList :=
          { profile.accessList with
            trustedNetwork := profile.accessList.trustedNetwork ++ [network] } }
  | .trustEveryone value =>
      script.onProfile p fun profile =>
        { profile with accessList := { profile.accessList with trustEveryone := value } }

/-- The profiles after a history of steps on new ones. -/
def configured (history : History) : AuthScript :=
  history.foldl (fun script step => script.configure step.1 step.2) {}

end AuthScript

/-- The history without the steps on one profile. -/
def History.without (p : Nat) (history : History) : History :=
  history.filter fun step => step.1 != p

/-! ## What a profile leaves -/

/-- The result of verification, with the properties left on the message and on its
transaction. -/
structure Observation where
  result : Except JsError Bool
  properties : String → Option String
  transaction : Option (String → Option String)

def World.observation {S : Type} (host : SipHost T) (i : Nat) (result : Except JsError Bool)
    (w : World T S) : Observation where
  result := result
  properties := (w.messages i).properties
  transaction := (w.messages i).userData.map fun k => host.getProperty (w.transactions k)

def World.withScript {S S' : Type} (script : S') (w : World T S) : World T S' :=
  { messages := w.messages, transactions := w.transactions,
    defaultTargetDomain := w.defaultTargetDomain, script := script }

/-- What is seen of a verification by profile `q` after a history. -/
def observe (host : SipHost T) (history : History) (q i : Nat) (w : World T Unit) : Observation :=
  match AuthProfile.verify host q (.handle i) (w.withScript (.configured history)) with
  | .ok verdict w' => w'.observation host i (.ok verdict)
  | .error thrown w' => w'.observation host i (.error thrown)

/-- Verification by `q` is as if the steps on `p` had never been made. -/
def Isolated (host : SipHost T) (history : History) (p q i : Nat) (w : World T Unit) : Prop :=
  observe host history q i w = observe host (history.without p) q i w

/-! ## What configuration changes -/

namespace ConfigStep

/-- The property a step pushes. -/
def pushed : ConfigStep → Option PropertyObject
  | pushProperty property => some property
  | _ => none

def onAccessList : ConfigStep → AccessList → AccessList
  | pushProperty _, accessList => accessList
  | pushNetwork network, accessList =>
      { accessList with trustedNetwork := accessList.trustedNetwork ++ [network] }
  | trustEveryone value, accessList => { accessList with trustEveryone := value }

/-- What a step makes every verification of a message assign. -/
def assigns (host : SipHost T) (m : Message) (step : Nat × ConfigStep) :
    Option (String × String) :=
  step.2.pushed.bind (·.assignment host m)

end ConfigStep

namespace AuthScript

theorem configured_concat (history : History) (step : Nat × ConfigStep) :
    configured (history ++ [step]) = (configured history).configure step.1 step.2 := by
  unfold configured
  rw [List.foldl_append]
  rfl

theorem onProfile_accessList (p q : Nat) (f : AuthProfile → AuthProfile) (script : AuthScript) :
    ((script.onProfile p f).profiles q).accessList =
      if q = p then (f (script.profiles q)).accessList else (script.profiles q).accessList := by
  unfold onProfile
  dsimp only
  rw [Function.update_apply]
  split
  case isTrue same => rw [same]
  case isFalse => rfl

/-- A step changes the access list of its own profile only, and from that list. -/
theorem configure_accessList (p q : Nat) (step : ConfigStep) (script : AuthScript) :
    ((script.configure p step).profiles q).accessList =
      if q = p then step.onAccessList (script.profiles q).accessList
      else (script.profiles q).accessList := by
  unfold configure
  cases step with
  | pushProperty property =>
      dsimp only
      split
      · exact onProfile_accessList p q _ script
      · exact (ite_self _).symm
  | pushNetwork network => exact onProfile_accessList p q _ script
  | trustEveryone value => exact onProfile_accessList p q _ script

/-- The access list of a profile does not depend on the steps on others. -/
theorem configured_accessList {p q : Nat} (distinct : p ≠ q) (history : History) :
    ((configured (history.without p)).profiles q).accessList =
      ((configured history).profiles q).accessList := by
  induction history using List.reverseRecOn with
  | nil => rfl
  | append_singleton history step ih =>
      unfold History.without at ih ⊢
      rw [configured_concat, configure_accessList, List.filter_append]
      by_cases own : step.1 = p
      case pos =>
        have dropped : [step].filter (fun step => step.1 != p) = [] :=
          List.filter_cons_of_neg (by simp [own])
        rw [dropped, List.append_nil, ih, if_neg]
        rw [own]
        exact distinct.symm
      case neg =>
        have kept : [step].filter (fun step => step.1 != p) = [step] :=
          List.filter_cons_of_pos (by simp [own])
        rw [kept, configured_concat, configure_accessList, ih]

/-- No profile ever gets `_transactionParams` of its own. -/
theorem configured_ownParams (history : History) (p : Nat) :
    ((configured history).profiles p).transactionParams = none := by
  induction history using List.reverseRecOn generalizing p with
  | nil => rfl
  | append_singleton history step ih =>
      have unset (f : AuthProfile → AuthProfile)
          (keeps : ∀ profile, (f profile).transactionParams = profile.transactionParams) :
          (((configured history).onProfile step.1 f).profiles p).transactionParams = none := by
        unfold onProfile
        dsimp only
        rw [Function.update_apply]
        split
        · rw [keeps]
          exact ih step.1
        · exact ih p
      rw [configured_concat]
      unfold configure
      rw [ih step.1]
      cases step.2 with
      | pushProperty property => exact ih p
      | pushNetwork network => exact unset _ fun _ => rfl
      | trustEveryone value => exact unset _ fun _ => rfl

/-- What any profile reads as its `_transactionParams` is all that was pushed. -/
theorem configured_params (history : History) (q : Nat) :
    (configured history).transactionParams q =
      history.filterMap fun step => step.2.pushed := by
  unfold transactionParams
  rw [configured_ownParams, Option.getD_none]
  induction history using List.reverseRecOn with
  | nil => rfl
  | append_singleton history step ih =>
      rw [configured_concat, List.filterMap_append, ← ih]
      unfold configure
      rw [configured_ownParams]
      rcases step with ⟨p, property | network | value⟩
      · rfl
      · exact (List.append_nil _).symm
      · exact (List.append_nil _).symm

end AuthScript

/-! ## When profiles are isolated -/

/-- The access list of `q` admits the message. -/
def Admits (host : SipHost T) (history : History) (q i : Nat) (w : World T Unit) : Prop :=
  let accessList := ((AuthScript.configured history).profiles q).accessList
  accessList.trustEveryone.truthy ∨
    ∃ network ∈ accessList.trustedNetwork, host.cidrVerify (w.sourceAddress host i) network = true

/-- Each property `p` pushed that applies to the message, and is not overridden by
a later one, has the value that its name would read anyway: the last one that
other profiles pushed before it, or what the transaction has. -/
def PushesRedundant (host : SipHost T) (history : History) (p : Nat) (m : Message) (t : T) : Prop :=
  ∀ (before : History) property after name value,
    history = before ++ (p, .pushProperty property) :: after →
    property.assignment host m = some (name, value) →
    Untouched (ConfigStep.assigns host m) after name →
    (lastValue ((before.without p).filterMap (ConfigStep.assigns host m)) name).or
      (host.getProperty t name) = some value

theorem observe_eq {host : SipHost T} (sets : host.SetsProperties) (reads : host.IsRequestReads)
    (history : History) (q i : Nat) (w : World T Unit) :
    observe host history q i w =
      ((w.withScript (.configured history)).verified host q i).observation host i
        (.ok (((AuthScript.configured history).profiles q).accessList.trusts host
          (w.sourceAddress host i))) := by
  unfold observe
  rw [verify_handle sets reads]
  rfl

section Observed

variable {host : SipHost T} {i : Nat} {w : World T Unit}

/-- The message once it is admitted, with its transaction given the pushed
properties. -/
theorem observe_admitted (sets : host.SetsProperties) (reads : host.IsRequestReads)
    {history : History} {q : Nat}
    (admitted : ((AuthScript.configured history).profiles q).accessList.trusts host
      (w.sourceAddress host i) = true) :
    observe host history q i w =
      { result := .ok true
        properties := ((w.messages i).authAction true).properties
        transaction := (w.messages i).userData.map fun k =>
          host.getProperty (assignAll host.setProperty (w.transactions k)
            (history.filterMap (ConfigStep.assigns host ((w.messages i).authAction true)))) } := by
  have params : ((AuthScript.configured history).transactionParams q).filterMap
      (·.assignment host ((w.messages i).authAction true)) =
        history.filterMap (ConfigStep.assigns host ((w.messages i).authAction true)) := by
    rw [AuthScript.configured_params, List.filterMap_filterMap]
    rfl
  have message : ((w.withScript (AuthScript.configured history)).onMessage i
      (Message.authAction true)).messages i = (w.messages i).authAction true :=
    World.onMessage_messages_self _ i
  rw [observe_eq sets reads, admitted, World.verified_of_admitted admitted, ← params]
  unfold World.observation
  rw [World.setProperties_messages, message]
  cases transaction : (w.messages i).userData with
  | none =>
      have none : ((w.messages i).authAction true).userData = none := transaction
      rw [none]
      rfl
  | some k =>
      have some : ((w.messages i).authAction true).userData = some k := transaction
      rw [World.setProperties_of_some i _ (message ▸ some), message, some, Option.map_some,
        Option.map_some, World.onTransaction_transactions_self]
      rfl

theorem observe_refused (sets : host.SetsProperties) (reads : host.IsRequestReads)
    {history : History} {q : Nat}
    (refused : ((AuthScript.configured history).profiles q).accessList.trusts host
      (w.sourceAddress host i) = false) :
    observe host history q i w =
      (w.onMessage i (Message.authAction false)).observation host i (.ok false) := by
  rw [observe_eq sets reads, refused, World.verified_of_refused refused]
  rfl

end Observed

/-- Only the properties that `p` pushed are entries left out that assign
something. -/
theorem pushesRedundant_iff {host : SipHost T} (map : host.StringMap) (history : History) (p : Nat)
    (m : Message) (t : T) :
    PushesRedundant host history p m t ↔
      ∀ (before : History) step after name value, history = before ++ step :: after →
        (step.1 != p) = false → ConfigStep.assigns host m step = some (name, value) →
        Untouched (ConfigStep.assigns host m) after name →
        host.getProperty (assignAll host.setProperty t
          ((before.filter fun step => step.1 != p).filterMap (ConfigStep.assigns host m))) name =
            some value := by
  simp only [map.get_assignAll]
  constructor
  case mp =>
    intro redundant before step after name value split dropped assigned untouched
    obtain ⟨own, config⟩ := step
    have same : own = p := by simpa using dropped
    subst same
    cases config with
    | pushProperty property =>
        exact redundant before property after name value split assigned untouched
    | pushNetwork network => cases assigned
    | trustEveryone everyone => cases assigned
  case mpr =>
    intro redundant before property after name value split assigned untouched
    exact redundant before (p, .pushProperty property) after name value split (by simp) assigned
      untouched

/-- Profile `q` is isolated from the steps on `p` exactly when its access list
refuses the request, the request has no transaction, or what `p` pushed is
redundant for it. -/
theorem isolated_iff {host : SipHost T} (map : host.StringMap) (sets : host.SetsProperties)
    (reads : host.IsRequestReads) (history : History) {p q : Nat} (distinct : p ≠ q) (i : Nat)
    (w : World T Unit) :
    Isolated host history p q i w ↔
      ¬ Admits host history q i w ∨
        ∀ k, (w.messages i).userData = some k →
          PushesRedundant host history p ((w.messages i).authAction true) (w.transactions k) := by
  have accessList := AuthScript.configured_accessList distinct history
  unfold Isolated Admits
  dsimp only
  rw [← AccessList.trusts_iff]
  cases verdict : ((AuthScript.configured history).profiles q).accessList.trusts host
      (w.sourceAddress host i) with
  | false =>
      rw [observe_refused sets reads verdict, observe_refused sets reads (accessList ▸ verdict)]
      simp
  | true =>
      rw [observe_admitted sets reads verdict, observe_admitted sets reads (accessList ▸ verdict)]
      simp only [Observation.mk.injEq, true_and, not_true, false_or]
      cases transaction : (w.messages i).userData with
      | none => simp
      | some k =>
          rw [Option.map_some, Option.map_some, Option.some.injEq, funext_iff]
          unfold History.without
          rw [map.readings_agree_iff]
          simp only [Option.some.injEq, forall_eq']
          exact (pushesRedundant_iff map history p _ _).symm

/-- A property for every request. -/
def trunkProperty : PropertyObject := ⟨.str "trunk", .str "1", .str "*"⟩

/-- Another profile has already pushed the property that `p` pushes. -/
theorem isolated_iff_repeated :
    Isolated memoryHost
      [(1, .pushProperty trunkProperty), (1, .trustEveryone (.bool true)),
        (0, .pushProperty trunkProperty)] 0 1 0 ((inviteWorld {}).withScript ()) := by
  apply (isolated_iff memoryHost_stringMap memoryHost_setsProperties memoryHost_isRequestReads _
    Nat.zero_ne_one 0 _).mpr
  refine Or.inr fun k transaction before property after name value split assigned untouched => ?_
  cases transaction
  rcases before with _ | ⟨first, _ | ⟨second, _ | ⟨third, before⟩⟩⟩
  · cases split
  · cases split
  · cases split
    cases assigned
    decide
  · have length := congrArg List.length split
    simp only [List.length_cons, List.length_append, List.length_nil] at length
    omega

/-- The property that one profile pushed is left on a request that another one
admits. -/
theorem isolation_fails :
    ¬ Isolated memoryHost
      [(0, .pushProperty trunkProperty), (1, .trustEveryone (.bool true))] 0 1 0
        ((inviteWorld {}).withScript ()) := by
  intro isolated
  have trunk := congrArg (fun o : Observation => o.transaction.bind fun read => read "trunk")
    isolated
  exact absurd trunk (by decide)

end SipXsbc
