import SipXsbc.Store.DataStore
import SipXsbc.Keyed.AssocStore

/-!
# A Redis in memory

One concrete choice of what the data store takes from outside the repository:
workspaces are association lists, a key pattern is a prefix, and the two
records have JSON forms with one field for each of theirs. The store's programs
run on it.
-/

namespace SipXsbc

open Keyed

/-- The JSON values the records use. -/
inductive JsonValue
  | text (s : String)
  | number (n : Int)
  | texts (ss : List String)
  deriving DecidableEq

abbrev JsonObject := List (String × JsonValue)

namespace JsonObject

/-- A text field, or what is there already when the object has none. -/
def text (o : JsonObject) (name there : String) : String :=
  match o.lookup name with
  | some (.text s) => s
  | _ => there

def number (o : JsonObject) (name : String) (there : Int) : Int :=
  match o.lookup name with
  | some (.number n) => n
  | _ => there

def texts (o : JsonObject) (name : String) (there : List String) : List String :=
  match o.lookup name with
  | some (.texts ss) => ss
  | _ => there

end JsonObject

def regJson : JsonForm RegData JsonObject where
  toJsonObject r :=
    [("key", .text r.key), ("aor", .text r.aor), ("contact", .text r.contact),
      ("expires", .number r.expires)]
  fromJsonObject r₀ o :=
    { key := o.text "key" r₀.key
      aor := o.text "aor" r₀.aor
      contact := o.text "contact" r₀.contact
      expires := o.number "expires" r₀.expires }

theorem regJson_roundTrips : regJson.RoundTrips := fun _ _ => rfl

def dialogJson : JsonForm DialogData JsonObject where
  toJsonObject d :=
    [("sessionId", .text d.sessionId), ("leg1", .text d.leg1.callId),
      ("otherLegs", .texts (d.otherLegs.map (·.callId))), ("expires", .number d.expires)]
  fromJsonObject d₀ o :=
    { sessionId := o.text "sessionId" d₀.sessionId
      leg1 := ⟨o.text "leg1" d₀.leg1.callId⟩
      otherLegs := (o.texts "otherLegs" (d₀.otherLegs.map (·.callId))).map .mk
      expires := o.number "expires" d₀.expires }

theorem dialogJson_roundTrips : dialogJson.RoundTrips := by
  intro d₀ d
  have legs : (d.otherLegs.map (·.callId)).map DialogLeg.mk = d.otherLegs := by
    rw [List.map_map]
    exact List.map_id d.otherLegs
  exact congrArg (fun legs => DialogData.mk d.sessionId d.leg1 legs d.expires) legs

/-- The key starts with the pattern. -/
def prefixMatches (pattern key : String) : Bool := pattern.toList.isPrefixOf key.toList

def memoryRedis : RedisClient (AList fun _ : String => JsonObject) JsonObject :=
  assocStore String JsonObject (Option String) (selects prefixMatches)

theorem memoryRedis_lawful : memoryRedis.Lawful (selects prefixMatches) :=
  assocStore_lawful (selects prefixMatches)

theorem memoryRedis_empty (k : String) : memoryRedis.get ∅ k = none := rfl

end SipXsbc
