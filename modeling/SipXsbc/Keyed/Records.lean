import SipXsbc.Keyed.Program
import Mathlib.Data.List.Nodup

/-!
# Records kept under their own key

A store whose values are encoded records, each under the key the record itself
carries, represents a finite map from keys to records (`Represents`). The
commands of a lawful client act on the represented map as they should, and a
query lists the records of the keys it selects, each once (`Listing`).
-/

namespace Keyed

variable {W K V Q R : Type}

/-- The workspace holds the records of `m`, encoded, each under its own key. -/
structure Represents (S : Client W K V Q) (encode : R → V) (key : R → K) (w : W)
    (m : K → Option R) : Prop where
  get_eq : ∀ k, S.get w k = (m k).map encode
  own_key : ∀ k r, m k = some r → key r = k

/-- `rs` lists the records of `m` whose key satisfies `sel`, each exactly once. -/
def Listing (key : R → K) (m : K → Option R) (sel : K → Bool) (rs : List R) : Prop :=
  (rs.map key).Nodup ∧ ∀ r, r ∈ rs ↔ sel (key r) = true ∧ m (key r) = some r

theorem Listing.key_mem_iff {key : R → K} {m : K → Option R} {sel : K → Bool} {rs : List R}
    (listing : Listing key m sel rs) (own : ∀ k r, m k = some r → key r = k) (k : K) :
    k ∈ rs.map key ↔ sel k = true ∧ (m k).isSome := by
  refine ⟨?_, ?_⟩
  · intro member
    obtain ⟨r, hr, rfl⟩ := List.mem_map.mp member
    obtain ⟨selected, bound⟩ := (listing.2 r).mp hr
    exact ⟨selected, by rw [bound]; rfl⟩
  · intro given
    rcases given with ⟨selected, live⟩
    obtain ⟨r, bound⟩ := Option.isSome_iff_exists.mp live
    have keyEq := own k r bound
    subst keyEq
    exact List.mem_map_of_mem ((listing.2 r).mpr ⟨selected, bound⟩)

theorem mem_map_filter_key_iff {key : R → K} {rs : List R} {drop : R → Bool} {k : K} :
    k ∈ (rs.filter drop).map key ↔ ∃ r, r ∈ rs ∧ drop r = true ∧ key r = k := by
  simp only [List.mem_map, List.mem_filter, and_assoc]

/-- Drop the bindings of the records that satisfy `doomed`. -/
def withdraw (doomed : R → Bool) (m : K → Option R) : K → Option R :=
  fun k => (m k).filter fun r => !doomed r

theorem eraseAll_eq_some [DecidableEq K] {m : K → Option R} {ks : List K} {k : K} {r : R}
    (bound : eraseAll m ks k = some r) : m k = some r := by
  simp only [eraseAll] at bound
  split at bound
  · cases bound
  · exact bound

/-- Erasing keys withdraws records when the keys are those of the doomed. -/
theorem eraseAll_eq_withdraw [DecidableEq K] {m : K → Option R} {ks : List K} {doomed : R → Bool}
    (exact_ : ∀ k r, m k = some r → (k ∈ ks ↔ doomed r = true)) :
    eraseAll m ks = withdraw doomed m := by
  funext k
  cases bound : m k with
  | none => simp [eraseAll, withdraw, bound]
  | some r =>
      have iff_ := exact_ k r bound
      cases doom : doomed r <;> simp [eraseAll, withdraw, Option.filter, bound, iff_, doom]

section Laws

variable [DecidableEq K] {S : Client W K V Q} {selects : Q → K → Bool} {encode : R → V}
  {key : R → K} {w : W} {m : K → Option R}

omit [DecidableEq K] in
/-- The empty workspace represents the empty map. -/
theorem Represents.of_empty (empty : ∀ k, S.get w k = none) :
    Represents S encode key w (fun _ => none) where
  get_eq := empty
  own_key := by intro k r h; cases h

theorem Represents.set (laws : S.Lawful selects) (rep : Represents S encode key w m)
    (r : R) (ttl : Int) :
    Represents S encode key (S.set w (key r) (encode r) ttl)
      (Function.update m (key r) (some r)) where
  get_eq k := by
    rw [laws.get_set, Function.update_apply, Function.update_apply, rep.get_eq]
    split <;> rfl
  own_key k r' bound := by
    rw [Function.update_apply] at bound
    split at bound
    · rename_i keyEq
      cases bound
      exact keyEq.symm
    · exact rep.own_key k r' bound

/-- A workspace that reads as `w` does with some keys gone represents the map
with these keys gone. -/
theorem Represents.erase {w' : W} {ks : List K} (rep : Represents S encode key w m)
    (get : S.get w' = eraseAll (S.get w) ks) :
    Represents S encode key w' (eraseAll m ks) where
  get_eq k := by
    rw [get]
    simp only [eraseAll]
    split
    · rfl
    · exact rep.get_eq k
  own_key k r bound := by
    simp only [eraseAll] at bound
    split at bound
    · cases bound
    · exact rep.own_key k r bound

theorem Represents.del (laws : S.Lawful selects) (rep : Represents S encode key w m) (k : K) :
    Represents S encode key (S.del w k) (Function.update m k none) := by
  have gone : S.get (S.del w k) = eraseAll (S.get w) [k] := by
    rw [laws.get_del, eraseAll_cons, eraseAll_nil]
  have erased := rep.erase gone
  rwa [eraseAll_cons, eraseAll_nil] at erased

theorem Represents.expireAll (laws : S.Lawful selects) (rep : Represents S encode key w m)
    (ks : List K) : Represents S encode key (S.expireAll w ks) (eraseAll m ks) :=
  rep.erase (laws.get_expireAll w ks)

theorem Represents.expire (laws : S.Lawful selects) (rep : Represents S encode key w m) (k : K) :
    Represents S encode key (S.expire w k) (Function.update m k none) := by
  have gone := rep.expireAll laws [k]
  rwa [eraseAll_cons, eraseAll_nil] at gone

/-- A query of a store of records answers the encodings of a listing. -/
theorem Represents.query (laws : S.Lawful selects) (rep : Represents S encode key w m) (q : Q) :
    ∃ rs, S.query w q = rs.map encode ∧ Listing key m (selects q) rs := by
  obtain ⟨keys, nodup, live, answer⟩ := laws.query_live w q
  have bound : ∀ k ∈ keys, ∃ r, m k = some r := by
    intro k hk
    have isSome := ((live k).mp hk).2
    rw [rep.get_eq, Option.isSome_map] at isSome
    exact Option.isSome_iff_exists.mp isSome
  have keysEq : (keys.filterMap m).map key = keys := by
    clear nodup live answer
    induction keys with
    | nil => rfl
    | cons k ks ih =>
        obtain ⟨r, hr⟩ := bound k List.mem_cons_self
        rw [List.filterMap_cons_some hr, List.map_cons, rep.own_key k r hr,
          ih fun k' hk' => bound k' (List.mem_cons_of_mem k hk')]
  refine ⟨keys.filterMap m, ?_, by rw [keysEq]; exact nodup, fun r => ?_⟩
  · rw [answer, List.map_filterMap]
    exact List.filterMap_congr fun k _ => rep.get_eq k
  · rw [List.mem_filterMap]
    refine ⟨?_, ?_⟩
    · intro given
      rcases given with ⟨k, hk, hr⟩
      have keyEq := rep.own_key k r hr
      subst keyEq
      exact ⟨((live _).mp hk).1, hr⟩
    · intro given
      rcases given with ⟨selected, hr⟩
      refine ⟨key r, (live _).mpr ⟨selected, ?_⟩, hr⟩
      rw [rep.get_eq, hr]
      rfl

/-- Query the records of some keys and delete, by the keys they carry, those
that satisfy `drop`: whatever expires meanwhile, exactly these bindings go. -/
theorem Represents.delEach_query (laws : S.Lawful selects) (rep : Represents S encode key w m)
    (q : Q) (pick : List V → List K) (drop : R → Bool)
    (picks : ∀ rs : List R, pick (rs.map encode) = (rs.filter drop).map key)
    (ms : List (Moment K)) :
    Represents S encode key
      ((Prog.query q fun vs => Prog.delEach (pick vs)).perform S ms w).2
      (withdraw (fun r => selects q (key r) && drop r) (eraseAll m (expiries ms))) := by
  have read := rep.expireAll laws (ms.headD .quiet).expired
  obtain ⟨rs, answer, listing⟩ := read.query laws q
  have performed : ((Prog.query q fun vs => Prog.delEach (pick vs)).perform S ms w).2 =
      ((Prog.delEach ((rs.filter drop).map key) : Prog K V Q Unit).perform S ms.tail
        (S.expireAll w (ms.headD .quiet).expired)).2 := by
    rw [← picks, ← answer]
    rfl
  have gone := Prog.get_perform_delEach laws ((rs.filter drop).map key) ms.tail
    (S.expireAll w (ms.headD .quiet).expired)
  rw [← performed, ← eraseAll_append] at gone
  have erased := read.erase gone
  rw [eraseAll_append, ← eraseAll_append m, expiries_head_tail] at erased
  rw [← eraseAll_eq_withdraw]
  · exact erased
  · intro k r bound
    -- what is bound at the end was bound when the query read it
    have here : eraseAll m (ms.headD .quiet).expired k = some r := by
      rw [← expiries_head_tail ms, eraseAll_append] at bound
      exact eraseAll_eq_some bound
    rw [mem_map_filter_key_iff, Bool.and_eq_true]
    refine ⟨?_, ?_⟩
    · intro given
      rcases given with ⟨r', member, dropped, rfl⟩
      obtain ⟨selected, bound'⟩ := (listing.2 r').mp member
      rw [here] at bound'
      cases bound'
      exact ⟨selected, dropped⟩
    · intro given
      rcases given with ⟨selected, dropped⟩
      have keyEq := read.own_key k r here
      subst keyEq
      exact ⟨r, (listing.2 r).mpr ⟨selected, here⟩, dropped, rfl⟩

end Laws

/-! ## Programs that keep a store of records -/

/-- A program whose writes put encoded records under their own key. -/
def Prog.WritesOwn {α : Type} (encode : R → V) (key : R → K) : Prog K V Q α → Prop
  | .ret _ => True
  | .set k v _ next => (∃ r, key r = k ∧ encode r = v) ∧ ∀ ok, (next ok).WritesOwn encode key
  | .get _ next => ∀ v, (next v).WritesOwn encode key
  | .del _ next => next.WritesOwn encode key
  | .query _ next => ∀ vs, (next vs).WritesOwn encode key

theorem Prog.WritesOwn.bind {α β : Type} {encode : R → V} {key : R → K} {p : Prog K V Q α}
    {f : α → Prog K V Q β} (own : p.WritesOwn encode key)
    (rest : ∀ a, (f a).WritesOwn encode key) : (p.bind f).WritesOwn encode key := by
  induction p with
  | ret a => exact rest a
  | set k v ttl next ih => exact ⟨own.1, fun ok => ih ok (own.2 ok)⟩
  | get k next ih => exact fun v => ih v (own v)
  | del k next ih => exact ih own
  | query q next ih => exact fun vs => ih vs (own vs)

theorem Prog.writesOwn_delEach {encode : R → V} {key : R → K} (ks : List K) :
    (Prog.delEach ks : Prog K V Q Unit).WritesOwn encode key := by
  induction ks with
  | nil => trivial
  | cons k ks ih => exact ih

section Keep

variable [DecidableEq K] {S : Client W K V Q} {selects : Q → K → Bool} {encode : R → V}
  {key : R → K}

/-- Such a program leaves a store of records, whatever expires and whichever writes
are refused. -/
theorem Represents.exec {α : Type} (laws : S.Lawful selects) {p : Prog K V Q α}
    (own : p.WritesOwn encode key) (ms : List (Moment K)) {w : W} {m : K → Option R}
    (rep : Represents S encode key w m) :
    ∃ m', Represents S encode key (p.exec S ms w).2.2 m' := by
  induction p generalizing ms w m with
  | ret a => exact ⟨m, rep⟩
  | set k v ttl next ih =>
      obtain ⟨⟨r, rfl, rfl⟩, rest⟩ := own
      have here := rep.expireAll laws (ms.headD .quiet).expired
      unfold Prog.exec
      dsimp only
      split
      · exact ih true (rest true) ms.tail (here.set laws r ttl)
      · exact ih false (rest false) ms.tail here
  | get k next ih => exact ih _ (own _) ms.tail (rep.expireAll laws _)
  | del k next ih => exact ih own ms.tail ((rep.expireAll laws _).del laws k)
  | query q next ih => exact ih _ (own _) ms.tail (rep.expireAll laws _)

theorem Represents.perform {α : Type} (laws : S.Lawful selects) {p : Prog K V Q α}
    (own : p.WritesOwn encode key) (ms : List (Moment K)) {w : W} {m : K → Option R}
    (rep : Represents S encode key w m) :
    ∃ m', Represents S encode key (p.perform S ms w).2 m' := by
  obtain ⟨m', after⟩ := rep.exec laws own ms
  exact ⟨_, after.expireAll laws _⟩

end Keep

end Keyed
