import SipXsbc.Script.World
import Mathlib.Algebra.Group.Nat.Defs

/-!
# Registering with a gateway

`sendRegister` looks the local address and port of an interface up in two tables and
hands them to `bridge_add_gateway`. It checks the types of its arguments, but neither
that the interface exists nor what it returns.
-/

namespace SipXsbc

variable {T : Type}

/-! ## Numbers -/

/-- What counts as white space in a script. -/
def isScriptSpace (c : Char) : Bool :=
  c.toNat ∈ [0x09, 0x0a, 0x0b, 0x0c, 0x0d, 0x20, 0xa0, 0x1680, 0x2028, 0x2029, 0x202f, 0x205f,
    0x3000, 0xfeff] || (0x2000 ≤ c.toNat && c.toNat ≤ 0x200a)

/-- The value of a digit, below a radix of at most sixteen. -/
def digitValue (radix : Nat) (c : Char) : Option Nat :=
  let value :=
    if '0' ≤ c ∧ c ≤ '9' then c.toNat - '0'.toNat
    else if 'a' ≤ c ∧ c ≤ 'f' then c.toNat - 'a'.toNat + 10
    else if 'A' ≤ c ∧ c ≤ 'F' then c.toNat - 'A'.toNat + 10
    else radix
  if value < radix then some value else none

/-- The number in front of a text, up to the first character that is no digit. -/
def leadingNumber (radix : Nat) (cs : List Char) : Option Nat :=
  let digits := cs.map (digitValue radix) |>.takeWhile Option.isSome
  if digits = [] then none
  else some (digits.foldl (fun n digit => n * radix + digit.getD 0) 0)

/-- The number in a text whose sign has been taken off, hexadecimal after `0x`. -/
def unsignedNumber : List Char → Option Nat
  | '0' :: 'x' :: cs => leadingNumber 16 cs
  | '0' :: 'X' :: cs => leadingNumber 16 cs
  | cs => leadingNumber 10 cs

/-- The number nearest to `n` among those with 53 binary digits, and of two the even one. -/
def JsNumber.ofNat (n : Nat) : JsNumber :=
  let unit := 2 ^ (n.log2 - 52)
  let units := n / unit
  let rest := n % unit
  let rounded := if unit < 2 * rest ∨ (2 * rest = unit ∧ units % 2 = 1) then units + 1 else units
  if (rounded * unit).log2 < 1024 then .finite (rounded * unit : Nat) else .infinity false

def JsNumber.neg : JsNumber → JsNumber
  | finite q => finite (-q)
  | infinity negative => infinity !negative
  | nan => nan

/-- `parseInt` -/
def parseIntText (s : String) : JsNumber :=
  match s.toList.dropWhile isScriptSpace with
  | '-' :: cs => (unsignedNumber cs).elim .nan fun n => (JsNumber.ofNat n).neg
  | '+' :: cs => (unsignedNumber cs).elim .nan JsNumber.ofNat
  | cs => (unsignedNumber cs).elim .nan JsNumber.ofNat

/-- A number of at most 53 digits is not rounded. -/
theorem JsNumber.ofNat_of_lt {n : Nat} (short : n < 2 ^ 53) : JsNumber.ofNat n = .finite n := by
  have digits : n.log2 < 53 := by
    rcases Nat.eq_zero_or_pos n with rfl | positive
    · decide
    · exact (Nat.log2_lt positive.ne').mpr short
  have unit : 2 ^ (n.log2 - 52) = 1 := by
    rw [show n.log2 - 52 = 0 by omega, Nat.pow_zero]
  have down : ¬ (1 < 2 * 0 ∨ 2 * 0 = 1 ∧ n % 2 = 1) := by omega
  unfold JsNumber.ofNat
  simp only [unit, Nat.div_one, Nat.mod_one, Nat.mul_one]
  rw [if_neg down, if_pos (by omega)]

/-- `xs[i]` -/
def arrayAt (xs : List String) : JsVal → JsVal
  | .num (.finite q) =>
      if q.den = 1 ∧ 0 ≤ q.num then (xs[q.num.toNat]?).elim .undefined .str else .undefined
  | _ => .undefined

/-! ## The method -/

/-- The arguments of a call of `bridge_add_gateway`. -/
structure Gateway where
  user : JsVal
  domain : JsVal
  password : JsVal
  realm : JsVal
  registrar : JsVal
  register : JsVal
  expires : JsVal
  localAddress : JsVal
  localPort : JsVal
  deriving DecidableEq

/-- The tables of interfaces, and the gateways added so far. -/
structure UserAgentScript where
  sipInterfaceAddress : List String
  sipInterfacePort : List String
  gateways : List Gateway

def bridgeAddGateway (gateway : Gateway) : Js T UserAgentScript Unit :=
  modify fun w => { w with script := { w.script with gateways := w.script.gateways ++ [gateway] } }

/-- `parseInt(v)`, of a string or undefined. -/
def parseInt : JsVal → JsVal
  | .str s => .num (parseIntText s)
  | _ => .num .nan

namespace RouteProfile

def sendRegister (user domain password registrar expires interfaceIndex : JsVal) :
    Js T UserAgentScript JsVal := do
  if interfaceIndex.typeof != "number" || expires.typeof != "number" then
    return .bool false
  else if user.typeof != "string" || domain.typeof != "string" || password.typeof != "string" ||
      registrar.typeof != "string" then
    return .bool false
  else
    let tables := (← get).script
    let localAddress := arrayAt tables.sipInterfaceAddress interfaceIndex
    let localPort := arrayAt tables.sipInterfacePort interfaceIndex
    bridgeAddGateway ⟨user, domain, password, .str "", registrar, .bool true, expires, localAddress,
      parseInt localPort⟩
    return .undefined

end RouteProfile

open RouteProfile

/-! ## Ports in decimal -/

/-- The number that a text of decimal digits stands for. -/
def decimal? (s : String) : Option Nat :=
  if (s.toList.map (digitValue 10)).all Option.isSome then leadingNumber 10 s.toList else none

theorem digitValue_ten {c : Char} (digit : (digitValue 10 c).isSome = true) :
    48 ≤ c.toNat ∧ c.toNat ≤ 57 := by
  unfold digitValue at digit
  dsimp only at digit
  split at digit
  case isTrue decimal => exact decimal
  case isFalse =>
    split at digit
    · rw [if_neg (by omega)] at digit
      cases digit
    · split at digit
      · rw [if_neg (by omega)] at digit
        cases digit
      · rw [if_neg (by omega)] at digit
        cases digit

/-- A decimal text starts with neither white space nor a sign. -/
theorem parseIntText_digit {s : String} {c : Char} {cs : List Char} (text : s.toList = c :: cs)
    (digit : (digitValue 10 c).isSome = true) :
    parseIntText s = (unsignedNumber (c :: cs)).elim .nan JsNumber.ofNat := by
  obtain ⟨low, high⟩ := digitValue_ten digit
  have noSpace : isScriptSpace c = false := by
    unfold isScriptSpace
    simp
    omega
  unfold parseIntText
  rw [text, List.dropWhile_cons_of_neg (by simp [noSpace])]
  split
  case h_1 sign =>
    cases sign
    exact absurd low (by decide)
  case h_2 sign =>
    cases sign
    exact absurd low (by decide)
  case h_3 => rfl

/-- `parseInt` reads a decimal text as its number, rounded. -/
theorem parseIntText_decimal {s : String} {n : Nat} (decimal : decimal? s = some n) :
    parseIntText s = .ofNat n := by
  unfold decimal? at decimal
  split at decimal
  case isFalse => cases decimal
  case isTrue digits =>
    rw [List.all_map, List.all_eq_true] at digits
    cases text : s.toList with
    | nil =>
        rw [text] at decimal
        cases decimal
    | cons c cs =>
        rw [text] at decimal digits
        have plain : unsignedNumber (c :: cs) = leadingNumber 10 (c :: cs) := by
          unfold unsignedNumber
          split
          case h_1 hexadecimal =>
            cases hexadecimal
            exact absurd (digits 'x' (by simp)) (by decide)
          case h_2 hexadecimal =>
            cases hexadecimal
            exact absurd (digits 'X' (by simp)) (by decide)
          case h_3 => rfl
        rw [parseIntText_digit text (digits c List.mem_cons_self), plain, decimal]
        rfl

/-! ## What a call does -/

section Call

variable (user domain password registrar expires interfaceIndex : JsVal)

/-- Some argument is of the wrong type. -/
def WronglyTyped : Prop :=
  interfaceIndex.typeof ≠ "number" ∨ expires.typeof ≠ "number" ∨ user.typeof ≠ "string" ∨
    domain.typeof ≠ "string" ∨ password.typeof ≠ "string" ∨ registrar.typeof ≠ "string"

/-- The gateway is as it was asked for, with the address and the port of the interface. -/
def ForInterface (tables : UserAgentScript) (gateway : Gateway) : Prop :=
  ∃ (k : Nat) (address portText : String) (port : Nat),
    interfaceIndex = .num (.finite k) ∧ tables.sipInterfaceAddress[k]? = some address ∧
      tables.sipInterfacePort[k]? = some portText ∧ decimal? portText = some port ∧
      gateway = ⟨user, domain, password, .str "", registrar, .bool true, expires, .str address,
        .num (.ofNat port)⟩

/-- A call refuses and does nothing, or adds the gateway of an interface and says so. -/
def RegistersOrRefuses (w w' : World T UserAgentScript) (v : JsVal) : Prop :=
  (v.truthy = false ∧ w' = w) ∨
    (v.truthy = true ∧ ∃ gateway,
      ForInterface user domain password registrar expires interfaceIndex w.script gateway ∧
        w' = { w with script := { w.script with gateways := w.script.gateways ++ [gateway] } })

variable {user domain password registrar expires interfaceIndex}

theorem sendRegister_refuses
    (wrong : WronglyTyped user domain password registrar expires interfaceIndex)
    (w : World T UserAgentScript) :
    sendRegister user domain password registrar expires interfaceIndex w = .ok (.bool false) w := by
  unfold sendRegister
  split
  case isTrue => rfl
  case isFalse numbers =>
    rw [if_pos]
    · rfl
    · simp only [Bool.or_eq_true, bne_iff_ne] at numbers ⊢
      rcases wrong with index | expiry | texts
      · exact absurd (Or.inl index) numbers
      · exact absurd (Or.inr expiry) numbers
      · simpa only [or_assoc] using texts

theorem sendRegister_adds
    (typed : ¬ WronglyTyped user domain password registrar expires interfaceIndex)
    (w : World T UserAgentScript) :
    sendRegister user domain password registrar expires interfaceIndex w =
      .ok .undefined { w with script := { w.script with gateways := w.script.gateways ++
        [⟨user, domain, password, .str "", registrar, .bool true, expires,
          arrayAt w.script.sipInterfaceAddress interfaceIndex,
          parseInt (arrayAt w.script.sipInterfacePort interfaceIndex)⟩] } } := by
  unfold WronglyTyped at typed
  simp only [not_or, not_not] at typed
  obtain ⟨index, expiry, name, realm, secret, server⟩ := typed
  unfold sendRegister
  rw [if_neg (by simp [index, expiry]), if_neg (by simp [name, realm, secret, server]), get_bind]
  rfl

theorem arrayAt_index (xs : List String) (k : Nat) :
    arrayAt xs (.num (.finite k)) = (xs[k]?).elim .undefined .str := by
  unfold arrayAt
  dsimp only
  rw [if_pos ⟨Rat.den_natCast k, by simp⟩]
  simp

/-- With tables of one length and decimal ports, the gateway that is added is that of an
interface exactly if the index is one of the tables. -/
theorem forInterface_iff {tables : UserAgentScript}
    (aligned : tables.sipInterfaceAddress.length = tables.sipInterfacePort.length)
    (decimal : ∀ portText ∈ tables.sipInterfacePort, (decimal? portText).isSome = true) :
    ForInterface user domain password registrar expires interfaceIndex tables
        ⟨user, domain, password, .str "", registrar, .bool true, expires,
          arrayAt tables.sipInterfaceAddress interfaceIndex,
          parseInt (arrayAt tables.sipInterfacePort interfaceIndex)⟩ ↔
      ∃ k : Nat, interfaceIndex = .num (.finite k) ∧ k < tables.sipInterfaceAddress.length := by
  constructor
  case mp =>
    intro configured
    rcases configured with ⟨k, address, portText, port, index, found, -⟩
    exact ⟨k, index, (List.getElem?_eq_some_iff.mp found).1⟩
  case mpr =>
    intro configured
    rcases configured with ⟨k, rfl, inside⟩
    have portInside : k < tables.sipInterfacePort.length := by omega
    obtain ⟨port, number⟩ :=
      Option.isSome_iff_exists.mp (decimal _ (List.getElem_mem portInside))
    refine ⟨k, _, _, port, rfl, List.getElem?_eq_getElem inside,
      List.getElem?_eq_getElem portInside, number, ?_⟩
    rw [arrayAt_index, arrayAt_index, List.getElem?_eq_getElem inside,
      List.getElem?_eq_getElem portInside]
    change Gateway.mk _ _ _ _ _ _ _ _ (JsVal.num (parseIntText _)) = _
    rw [parseIntText_decimal number]
    rfl

end Call

/-- `sendRegister` registers from an interface and reports it, or refuses, exactly when
some argument is of the wrong type: it then refuses. -/
theorem sendRegister_registers_or_refuses_iff
    (user domain password registrar expires interfaceIndex : JsVal)
    (w : World T UserAgentScript) :
    ∃ v w', sendRegister user domain password registrar expires interfaceIndex w = .ok v w' ∧
      (RegistersOrRefuses user domain password registrar expires interfaceIndex w w' v ↔
        WronglyTyped user domain password registrar expires interfaceIndex) := by
  by_cases wrong : WronglyTyped user domain password registrar expires interfaceIndex
  case pos =>
    exact ⟨_, _, sendRegister_refuses wrong w, iff_of_true (Or.inl ⟨rfl, rfl⟩) wrong⟩
  case neg =>
    refine ⟨_, _, sendRegister_adds wrong w, iff_of_false ?_ wrong⟩
    intro outcome
    rcases outcome with ⟨-, same⟩ | ⟨reported, -⟩
    · have gateways := congrArg (fun w => w.script.gateways.length) same
      simp at gateways
    · cases reported

/-- One interface is configured. -/
def interfaceWorld : World MemoryTransaction UserAgentScript where
  messages _ := ⟨none, ⟨none, ""⟩, ⟨none, ""⟩, ⟨none, ""⟩, [], fun _ => none, none⟩
  transactions _ := ⟨"", none, fun _ => none⟩
  defaultTargetDomain := ""
  script := ⟨["192.168.1.10"], ["5060"], []⟩

/-- A gateway is added for an interface that there is not, and no answer given. -/
theorem sendRegister_unknown_interface :
    ∃ v w', sendRegister (.str "alice") (.str "example.com") (.str "secret")
        (.str "sip.example.com") (.num (.finite 3600)) (.num (.finite 1)) interfaceWorld =
          .ok v w' ∧
      w'.script.gateways = [⟨.str "alice", .str "example.com", .str "secret", .str "",
        .str "sip.example.com", .bool true, .num (.finite 3600), .undefined, .num .nan⟩] ∧
      ¬ RegistersOrRefuses (.str "alice") (.str "example.com") (.str "secret")
        (.str "sip.example.com") (.num (.finite 3600)) (.num (.finite 1)) interfaceWorld w' v := by
  refine ⟨_, _, rfl, by decide, ?_⟩
  intro outcome
  rcases outcome with ⟨-, same⟩ | ⟨reported, -⟩
  · have gateways := congrArg (fun w => w.script.gateways.length) same
    cases gateways
  · cases reported

end SipXsbc
