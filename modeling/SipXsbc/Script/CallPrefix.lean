import SipXsbc.Script.RouteRequest

/-!
# Stripping a dialled prefix

`stripCallPrefix` and the two string functions beside it. Lengths are in UTF-16 code
units, so a substring may be cut inside a surrogate pair; it is then no text. The body
of `stripCallPrefix` asks a name for the dialled user that nothing declares.
-/

namespace SipXsbc

variable {T S : Type}

/-! ## Substrings -/

/-- The first code units of a text, all of them if there are not so many. A character is
not split. -/
def takeUnits (n : Nat) : List Char → Option (List Char)
  | [] => some []
  | c :: cs =>
      if n = 0 then some []
      else if utf16Units [c] ≤ n then (takeUnits (n - utf16Units [c]) cs).map (c :: ·)
      else none

def dropUnits (n : Nat) : List Char → Option (List Char)
  | [] => some []
  | c :: cs =>
      if n = 0 then some (c :: cs)
      else if utf16Units [c] ≤ n then dropUnits (n - utf16Units [c]) cs
      else none

/-- `s.substr(start, length)`, where it is a text. -/
def substr (s : String) (start length : Nat) : Option String := do
  let rest ← dropUnits start s.toList
  let part ← takeUnits length rest
  return String.ofList part

theorem utf16Units_cons (c : Char) (cs : List Char) :
    utf16Units (c :: cs) = utf16Units [c] + utf16Units cs := by
  simp [utf16Units]

theorem utf16Units_singleton_pos (c : Char) : 0 < utf16Units [c] := by
  unfold utf16Units
  split <;> omega

/-- The code units that are left after the first character. -/
theorem takeUnits_cons (n : Nat) (c : Char) (cs : List Char) :
    takeUnits (utf16Units [c] + n) (c :: cs) = (takeUnits n cs).map (c :: ·) := by
  have positive := utf16Units_singleton_pos c
  rw [takeUnits, if_neg (by omega), if_pos (by omega), Nat.add_sub_cancel_left]

theorem dropUnits_cons (n : Nat) (c : Char) (cs : List Char) :
    dropUnits (utf16Units [c] + n) (c :: cs) = dropUnits n cs := by
  have positive := utf16Units_singleton_pos c
  rw [dropUnits, if_neg (by omega), if_pos (by omega), Nat.add_sub_cancel_left]

theorem takeUnits_append (cs ds : List Char) : takeUnits (utf16Units cs) (cs ++ ds) = some cs := by
  induction cs with
  | nil => cases ds <;> rfl
  | cons c cs ih =>
      rw [utf16Units_cons, List.cons_append, takeUnits_cons, ih]
      rfl

theorem dropUnits_append (cs ds : List Char) : dropUnits (utf16Units cs) (cs ++ ds) = some ds := by
  induction cs with
  | nil => cases ds <;> rfl
  | cons c cs ih =>
      rw [utf16Units_cons, List.cons_append, dropUnits_cons, ih]

/-- What is taken are the first characters. -/
theorem takeUnits_isPrefix {n : Nat} {cs ds : List Char} (taken : takeUnits n cs = some ds) :
    ds <+: cs := by
  induction cs generalizing n ds with
  | nil =>
      cases taken
      exact List.nil_prefix
  | cons c cs ih =>
      unfold takeUnits at taken
      split at taken
      · cases taken
        exact List.nil_prefix
      · split at taken
        · obtain ⟨rest, took, rfl⟩ := Option.map_eq_some_iff.mp taken
          exact List.cons_prefix_cons.mpr ⟨rfl, ih took⟩
        · cases taken

theorem utf16Units_append (cs ds : List Char) :
    utf16Units (cs ++ ds) = utf16Units cs + utf16Units ds := by
  induction cs with
  | nil => simp [utf16Units]
  | cons c cs ih => simp [utf16Units, ih, Nat.add_assoc]

/-- The substring between two cuts that do not split a character. -/
theorem substr_append (front part back : List Char) :
    substr (String.ofList (front ++ (part ++ back))) (utf16Units front) (utf16Units part) =
      some (String.ofList part) := by
  unfold substr
  rw [String.toList_ofList, dropUnits_append]
  simp only [Option.bind_eq_bind, Option.bind_some, takeUnits_append]
  rfl

theorem substr_front (p v : String) : substr (p ++ v) 0 (utf16Length p) = some p := by
  have front := substr_append [] p.toList v.toList
  rwa [List.nil_append, String.ofList_append, String.ofList_toList, String.ofList_toList] at front

theorem substr_back (p v : String) :
    substr (p ++ v) (utf16Length p) (utf16Length (p ++ v) - utf16Length p) = some v := by
  have length : utf16Length (p ++ v) - utf16Length p = utf16Length v := by
    unfold utf16Length
    rw [String.toList_append, utf16Units_append, Nat.add_sub_cancel_left]
  have back := substr_append p.toList v.toList []
  rwa [List.append_nil, String.ofList_append, String.ofList_toList, String.ofList_toList,
    ← utf16Length, ← utf16Length, ← length] at back

/-- A text starts with another exactly if its front is that text. -/
theorem substr_front_iff (u p : String) :
    substr u 0 (utf16Length p) = some p ↔ ∃ v, u = p ++ v := by
  constructor
  case mp =>
    intro front
    have whole : dropUnits 0 u.toList = some u.toList := dropUnits_append [] u.toList
    unfold substr at front
    simp only [whole, Option.bind_eq_bind, Option.bind_some] at front
    obtain ⟨part, taken, text⟩ := Option.bind_eq_some_iff.mp front
    obtain ⟨rest, joined⟩ := takeUnits_isPrefix taken
    refine ⟨String.ofList rest, ?_⟩
    rw [← Option.some.inj text, ← String.ofList_append, joined, String.ofList_toList]
  case mpr =>
    intro starts
    rcases starts with ⟨v, rfl⟩
    exact substr_front p v

/-! ## The functions of `RouteProfile` -/

namespace RouteProfile

def stringStartsWith (str1 str2 : String) : Bool :=
  substr str1 0 (utf16Length str2) == some str2

/-- The second argument is a string or undefined. Only a string has a method
`substr`. -/
def removeStringPrefix (oldString : JsVal) (stringPrefix : Option String) : Js T S JsVal :=
  match oldString, stringPrefix with
  | .undefined, _ => return .str ""
  | _, none => return .str ""
  | .str oldString, some stringPrefix =>
      if utf16Length stringPrefix > utf16Length oldString then
        return .str oldString
      else if substr oldString 0 (utf16Length stringPrefix) == some stringPrefix then
        -- a text, as the cut is where the prefix ends
        return .str ((substr oldString (utf16Length stringPrefix)
          (utf16Length oldString - utf16Length stringPrefix)).getD "")
      else
        return .str oldString
  | _, some _ => throw .typeError

/-- `thissipMessage`, which nothing declares. -/
def thissipMessage : Js T S SIPMessage := throw .referenceError

section

variable (host : SipHost T) (this : RouteObject)

/-- The body of `stripCallPrefix`, with the message that it asks for the dialled
user. -/
def stripCallPrefixOf (dialled : Js T RouteScript SIPMessage) (stringPrefix : Option String) :
    Js T RouteScript Unit := do
  let dialString ← (← dialled).getRequestUriUser host
  if dialString.typeof == "undefined" || stringPrefix.isNone then
    return ()
  else
    let newDialString ← removeStringPrefix dialString stringPrefix
    let length ← dialString.length
    let newLength ← newDialString.length
    if length.getD 0 > newLength.getD 0 then
      (← sipMessage this).setRequestUriUser host newDialString

def stripCallPrefix (stringPrefix : Option String) : Js T RouteScript Unit :=
  stripCallPrefixOf host this thissipMessage stringPrefix

end

/-! ## What they do -/

theorem stringStartsWith_iff (str1 str2 : String) :
    stringStartsWith str1 str2 = true ↔ ∃ v, str1 = str2 ++ v := by
  unfold stringStartsWith
  rw [beq_iff_eq]
  exact substr_front_iff str1 str2

theorem utf16Length_append (s s' : String) :
    utf16Length (s ++ s') = utf16Length s + utf16Length s' := by
  unfold utf16Length
  rw [String.toList_append, utf16Units_append]

theorem removeStringPrefix_append (p v : String) (w : World T S) :
    removeStringPrefix (.str (p ++ v)) (some p) w = .ok (.str v) w := by
  have enough : ¬ utf16Length p > utf16Length (p ++ v) := by
    rw [utf16Length_append]
    omega
  unfold removeStringPrefix
  dsimp only
  rw [if_neg enough, substr_front, if_pos (by simp), substr_back]
  rfl

theorem removeStringPrefix_other {u p : String} (other : ¬ ∃ v, u = p ++ v) (w : World T S) :
    removeStringPrefix (.str u) (some p) w = .ok (.str u) w := by
  have front : ¬ (substr u 0 (utf16Length p) == some p) = true := by
    rw [beq_iff_eq, substr_front_iff]
    exact other
  unfold removeStringPrefix
  dsimp only
  rw [if_neg front, ite_self]
  rfl

end RouteProfile

open RouteProfile

/-- A non-empty prefix of the Request-URI user is stripped, and otherwise nothing
changes. -/
structure Message.StripsCallPrefix (stringPrefix : Option String) (m m' : Message) : Prop where
  strips : ∀ p v, stringPrefix = some p → p ≠ "" → m.requestUri.user = some (p ++ v) →
    m' = m.setRequestUriUser v
  keeps : (¬ ∃ p v, stringPrefix = some p ∧ p ≠ "" ∧ m.requestUri.user = some (p ++ v)) → m' = m

section Strip

variable {host : SipHost T} {this : RouteObject} {i : Nat} {w : World T RouteScript}

/-- The body sets the user that is left, if it is shorter. -/
theorem stripCallPrefixOf_eq (reads : host.Reads)
    (sets : ∀ user m, (host.call .msgSetRequestUriUser [.str user] m).2 = m.setRequestUriUser user)
    (bound : w.script this = some ⟨.handle i⟩) {u p left : String}
    (user : (w.messages i).requestUri.user = some u)
    (removed : removeStringPrefix (.str u) (some p) w = .ok (.str left) w) :
    stripCallPrefixOf host this (sipMessage this) (some p) w =
      .ok () (if utf16Length u > utf16Length left then w.onMessage i (Message.setRequestUriUser left)
        else w) := by
  unfold stripCallPrefixOf
  rw [bind_of_ok (sipMessage_bound bound), bind_of_ok (getRequestUriUser_handle reads w), user]
  refine (bind_of_ok removed).trans ?_
  change (if utf16Length u > utf16Length left then _ else _ : Js T RouteScript Unit) w = _
  split
  · refine and_then (sipMessage_bound bound) ?_
    exact invoke_effect i w (sets left)
  · rfl

/-- If the body is given the message that the object is bound to, it strips the
prefix. -/
theorem stripCallPrefixOf_bound (reads : host.Reads)
    (sets : ∀ user m, (host.call .msgSetRequestUriUser [.str user] m).2 = m.setRequestUriUser user)
    (bound : w.script this = some ⟨.handle i⟩) (stringPrefix : Option String) :
    ∃ w', stripCallPrefixOf host this (sipMessage this) stringPrefix w = .ok () w' ∧
      (w.messages i).StripsCallPrefix stringPrefix (w'.messages i) := by
  cases user : (w.messages i).requestUri.user with
  | none =>
      refine ⟨w, ?_, ?_, fun _ => rfl⟩
      · unfold stripCallPrefixOf
        rw [bind_of_ok (sipMessage_bound bound), bind_of_ok (getRequestUriUser_handle reads w), user]
        rfl
      · intro p v _ _ named
        cases user.symm.trans named
  | some u =>
      cases stringPrefix with
      | none =>
          refine ⟨w, ?_, ?_, fun _ => rfl⟩
          · unfold stripCallPrefixOf
            rw [bind_of_ok (sipMessage_bound bound),
              bind_of_ok (getRequestUriUser_handle reads w), user]
            rfl
          · intro p v given
            cases given
      | some p =>
          by_cases starts : ∃ v, u = p ++ v
          case neg =>
            refine ⟨_, stripCallPrefixOf_eq reads sets bound user
              (removeStringPrefix_other starts w), ?_⟩
            rw [if_neg (Nat.lt_irrefl _)]
            refine ⟨?_, fun _ => rfl⟩
            intro p' v given _ named
            cases given
            cases user.symm.trans named
            exact absurd ⟨v, rfl⟩ starts
          case pos =>
            obtain ⟨v, rfl⟩ := starts
            refine ⟨_, stripCallPrefixOf_eq reads sets bound user
              (removeStringPrefix_append p v w), ?_⟩
            rw [utf16Length_append]
            by_cases empty : p = ""
            case pos =>
              subst empty
              rw [if_neg (by simp [utf16Length, utf16Units])]
              refine ⟨?_, fun _ => rfl⟩
              intro p' v' given filled
              cases given
              exact absurd rfl filled
            case neg =>
              have positive : utf16Length p ≠ 0 := fun zero => empty (utf16Length_eq_zero.mp zero)
              rw [if_pos (by omega), World.onMessage_messages_self]
              refine ⟨?_, fun other => absurd ⟨p, v, rfl, empty, user⟩ other⟩
              intro p' v' given _ named
              cases given
              rw [user, Option.some.injEq, String.append_right_inj] at named
              rw [named]

end Strip

/-- `stripCallPrefix` never strips a prefix, and never leaves a request alone as it
should: it ends in an exception. -/
theorem stripCallPrefix_never (host : SipHost T) (this : RouteObject) (i : Nat)
    (stringPrefix : Option String) (w : World T RouteScript) :
    ¬ ∃ w', (do
        setRequest this (.handle i)
        stripCallPrefix host this stringPrefix) w = .ok () w' ∧
      (w.messages i).StripsCallPrefix stringPrefix (w'.messages i) := by
  intro strips
  rcases strips with ⟨w', run, -⟩
  cases run

/-- Every message is for the user 9100. -/
def dialWorld : World MemoryTransaction RouteScript :=
  { referWorld with
    messages := fun i =>
      { referWorld.messages i with requestUri := ⟨some "9100", "example.com"⟩ } }

/-- The 9 that was dialled first is not stripped. -/
theorem stripCallPrefix_dialled :
    ¬ ∃ w', (do
        setRequest .route (.handle 0)
        stripCallPrefix memoryHost .route (some "9")) dialWorld = .ok () w' ∧
      (dialWorld.messages 0).StripsCallPrefix (some "9") (w'.messages 0) := by
  intro strips
  rcases strips with ⟨w', run, -⟩
  cases run

end SipXsbc
