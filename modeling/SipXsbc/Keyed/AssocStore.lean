import SipXsbc.Keyed.Program
import Mathlib.Data.List.AList

/-!
# A keyed store in memory

An association list without repeated keys is a lawful client. It is the
concrete store on which programs over a keyed store are evaluated.
-/

namespace Keyed

/-- Association lists as a store: a time to live is ignored, and a query answers
the values of the keys it selects in the order of the list. -/
def assocStore (K V Q : Type) [DecidableEq K] (selects : Q → K → Bool) :
    Client (AList fun _ : K => V) K V Q where
  set w k v _ := w.insert k v
  get w k := w.lookup k
  del w k := w.erase k
  expire w k := w.erase k
  query w q := (w.entries.filter fun e => selects q e.1).map Sigma.snd

variable {K V Q : Type} [DecidableEq K]

theorem lookup_erase_eq_update (w : AList fun _ : K => V) (k : K) :
    (fun k' => (w.erase k).lookup k') = Function.update (fun k' => w.lookup k') k none := by
  funext k'
  rw [Function.update_apply]
  split
  · rename_i keyEq
    subst keyEq
    exact AList.lookup_erase k' w
  · exact AList.lookup_erase_ne ‹_›

/-- The values of an association list under some of its keys, in its order. -/
theorem filterMap_lookup_keys (w : AList fun _ : K => V) (es : List (Sigma fun _ : K => V))
    (sub : ∀ e ∈ es, e ∈ w.entries) :
    (es.map Sigma.fst).filterMap (fun k => w.lookup k) = es.map Sigma.snd := by
  induction es with
  | nil => rfl
  | cons e es ih =>
      have found : w.lookup e.1 = some e.2 :=
        AList.mem_lookup_iff.mpr (sub e List.mem_cons_self)
      have rest := ih fun e' he' => sub e' (List.mem_cons_of_mem e he')
      simp only [List.map_cons, List.filterMap_cons, found, rest]

theorem assocStore_lawful (selects : Q → K → Bool) :
    (assocStore K V Q selects).Lawful selects where
  get_set w k v ttl := by
    funext k'
    rw [Function.update_apply]
    split
    · rename_i keyEq
      subst keyEq
      exact AList.lookup_insert w
    · exact AList.lookup_insert_ne ‹_›
  get_del := lookup_erase_eq_update
  get_expire := lookup_erase_eq_update
  query_live w q := by
    refine ⟨(w.entries.filter fun e => selects q e.1).map Sigma.fst, ?_, fun k => ?_, ?_⟩
    · exact w.keys_nodup.sublist (List.filter_sublist.map Sigma.fst)
    · simp only [List.mem_map, List.mem_filter, assocStore]
      refine ⟨?_, ?_⟩
      · intro given
        rcases given with ⟨e, ⟨member, selected⟩, rfl⟩
        exact ⟨selected, Option.isSome_iff_exists.mpr ⟨e.2, AList.mem_lookup_iff.mpr member⟩⟩
      · intro given
        rcases given with ⟨selected, live⟩
        obtain ⟨v, found⟩ := Option.isSome_iff_exists.mp live
        exact ⟨⟨k, v⟩, ⟨AList.mem_lookup_iff.mp found, selected⟩, rfl⟩
    · exact (filterMap_lookup_keys w _ fun e he => (List.mem_filter.mp he).1).symm

end Keyed
