import SipXsbc.Keyed.Precedence
import SipXsbc.Store.BulkRun

/-!
# Bulk unregistration among other workers

A bulk removal is a sweep of the registry map among the calls of other workers
(`Carries.run`), so at each key it ends as some serial order of the same calls
does, the removal having its place among them (`bulk_unregistration_keywise`).

The place may differ from key to key: a worker that registers a contact the
removal has not read, and then one it has still to delete, keeps the first and
loses the second, which no serial order does (`bulk_unregistration_not_serial`).
One place serves for all keys unless a registration that is lost has to come
after one that is kept (`NoneLostAfterKept`). Which runs end as a whole as some serial
order does is a matter of last operations: each key has to be given a call, or the
removal, that leaves there what the run left, without a cycle (`Orderable`).
-/

namespace SipXsbc

open Keyed SBCDataStore

/-- A run of a bulk removal among the calls of other workers, without expiry. -/
def bulkRun {W J : Type} (S : RedisClient W J) (form : JsonForm RegData J) (regIdPrefix : String)
    (workers : List (List RegOp)) (w : W) (schedule : List Nat) : RegPool W J :=
  (Pool.start w (bulkScripts regIdPrefix workers)).run S (RegOp.code form) (moves schedule)

/-- Its calls, in the order in which they take effect. -/
def bulkCalls {W J : Type} (S : RedisClient W J) (form : JsonForm RegData J)
    (keyMatches : String → String → Bool) (regIdPrefix : String) (workers : List (List RegOp))
    (w : W) (schedule : List Nat) : List RegCall :=
  RegPool.calls S form keyMatches regIdPrefix (Pool.start w (bulkScripts regIdPrefix workers)) 0
    schedule

/-! ## The conditions -/

section Forced

variable (keyMatches : String → String → Bool) (regIdPrefix : String) (calls : List RegCall)

/-- A registration that stands at the end: it was spared, and no later call is on
its key. -/
def Kept (o : RegCall) : Prop := o.spared = true ∧ ∃ k, lastOn RegCall.key k calls = some o

/-- A registration of a matching key that is lost at the end: the last call on the key
is a registration that the bulk removal deletes. -/
def Lost (o : RegCall) : Prop :=
  o ∈ calls ∧ o.record.isSome ∧ ∃ k last, o.key = some k ∧ keyMatches regIdPrefix k = true ∧
    lastOn RegCall.key k calls = some last ∧ last.record.isSome ∧ last.spared = false

/-- The second call cannot come before the first: it is a later one of the same
worker, or the last on the same key and leaves something else there. -/
inductive Forces : RegCall → RegCall → Prop
  | own {o o' : RegCall} : o' ∈ calls → o'.worker = o.worker → o.time < o'.time → Forces o o'
  | last {o o' : RegCall} {k : String} : o ∈ calls → o.key = some k →
    lastOn RegCall.key k calls = some o' → o.record ≠ o'.record → Forces o o'

/-- No chain of calls that cannot come before one another leads from a registration
that is kept to one that is lost. -/
def NoneLostAfterKept : Prop :=
  ∀ kept lost, Kept calls kept → Lost keyMatches regIdPrefix calls lost →
    ¬ Relation.ReflTransGen (Forces calls) kept lost

end Forced

/-- The keys at which a call, or the bulk removal (`none`), changes the registry. -/
def ActsOn (keyMatches : String → String → Bool) (regIdPrefix : String) :
    Option RegCall → String → Prop
  | none, k => keyMatches regIdPrefix k = true
  | some o, k => o.key = some k

/-- What a call, or the bulk removal, leaves at them. -/
def leaves (x : Option RegCall) : Option RegData := x.bind RegCall.record

/-- The first is an earlier call of the same worker. -/
def Earlier : Option RegCall → Option RegCall → Prop
  | some o, some o' => o.worker = o'.worker ∧ o.time < o'.time
  | _, _ => False

/-- Each key that the calls or the bulk removal change can be given one of them as the
last on it, which leaves there what the run left, so that none has to come before itself
(`Precedes`). -/
def Orderable {W J : Type} (S : RedisClient W J) (form : JsonForm RegData J)
    (keyMatches : String → String → Bool) (regIdPrefix : String) (calls : List RegCall)
    (w' : W) : Prop :=
  ∃ last, Closing Earlier (ActsOn keyMatches regIdPrefix)
    (fun x => (leaves x).map form.toJsonObject) (none :: calls.map some) (S.get w') last

section Sweep

variable {W J : Type} {S : RedisClient W J} {keyMatches : String → String → Bool}
  {form : JsonForm RegData J} {regIdPrefix : String} {workers : List (List RegOp)}
  {m : String → Option RegData} {c : RegPool W J} {s : Sweep String RegData RegCall}

/-! ## Serial orders -/

/-- The calls of the other workers with the bulk removal at one place. -/
def withRemoval (regIdPrefix : String) (before later : List (Nat × RegOp)) : List (Nat × RegOp) :=
  before ++ (0, .removeAllReg regIdPrefix) :: later

/-- Running the calls of an order takes the registry map through them. -/
theorem serially_holds (laws : S.Lawful (selects keyMatches)) (roundTrips : form.RoundTrips)
    {w : W} (rep : RegistryHolds S form w m) (order : List (Nat × RegOp)) :
    RegistryHolds S form (serially S form order w)
      (after (fun o => (registrySpec keyMatches).next o.2) m order) := by
  induction order generalizing w m with
  | nil => exact rep
  | cons o order ih =>
      have accepted : AllAccepted ([] : List (Moment String)) := by intro m hm; cases hm
      obtain ⟨before, later, split, _, rep'⟩ :=
        RegOp.simulates laws roundTrips o.2 [] w m accepted rep
      obtain ⟨rfl, rfl⟩ := List.append_eq_nil_iff.mp split.symm
      rw [eraseAll_nil, eraseAll_nil] at rep'
      exact ih rep'

theorem serially_withRemoval (laws : S.Lawful (selects keyMatches)) (roundTrips : form.RoundTrips)
    {w : W} (rep : RegistryHolds S form w m) (before later : List RegCall) (k : String) :
    S.get (serially S form
        (withRemoval regIdPrefix (before.map RegCall.entry) (later.map RegCall.entry)) w) k =
      (sweptAfter (nextCall keyMatches) (keyMatches regIdPrefix) m before later k).map
        form.toJsonObject := by
  have entries (m : String → Option RegData) (os : List RegCall) :
      after (fun o => (registrySpec keyMatches).next o.2) m (os.map RegCall.entry) =
        after (nextCall keyMatches) m os := List.foldl_map
  have swept : after (fun o => (registrySpec keyMatches).next o.2) m
      (withRemoval regIdPrefix (before.map RegCall.entry) (later.map RegCall.entry)) =
        sweptAfter (nextCall keyMatches) (keyMatches regIdPrefix) m before later := by
    unfold withRemoval
    rw [after_append, entries]
    exact entries _ later
  rw [(serially_holds laws roundTrips rep _).get_eq, swept]

/-- When all have finished, nothing is left to delete, and orders that keep that of
the calls are those of the workers. -/
theorem Tracks.finished (tracks : Tracks S form regIdPrefix workers c s) (finished : c.Finished) :
    s.pending = some [] ∧ ∀ before later,
      (∀ i, ofWorker (before ++ later) i = ofWorker (s.ops.map RegCall.entry) i) →
      Interleaves (bulkScripts regIdPrefix workers) (withRemoval regIdPrefix before later) := by
  refine ⟨?_, ?_⟩
  · obtain ⟨t, found₀, at_⟩ := tracks.remover
    have isOver := finished t (List.mem_of_getElem? found₀)
    subst isOver
    generalize known : s.pending = pending at at_
    cases at_ with
    | ended => rfl
  · intro before later keeps i
    have own := keeps i
    rw [ofWorker_append] at own
    unfold withRemoval
    rw [ofWorker_append]
    cases i with
    | zero =>
        rw [tracks.noRemoval, List.append_eq_nil_iff] at own
        rw [ofWorker_cons_self, own.1, own.2]
        rfl
    | succ i =>
        have order := tracks.order i
        rw [finished.pending, List.append_nil] at order
        rw [ofWorker_cons_ne later (by omega), own]
        exact order

theorem ofWorker_entries (os : List RegCall) (i : Nat) :
    ofWorker (os.map RegCall.entry) i = (os.filter (·.worker == i)).map RegCall.op :=
  ofWorker_map os i

/-- The calls that cannot come before a registration that is kept come late. -/
theorem divides_afterKept {calls : List RegCall}
    (none_ : NoneLostAfterKept keyMatches regIdPrefix calls) {late : RegCall → Bool}
    (late_iff : ∀ o, late o = true ↔
      ∃ kept, Kept calls kept ∧ Relation.ReflTransGen (Forces calls) kept o) :
    Sweep.Divides (keyMatches regIdPrefix) RegCall.key RegCall.record RegCall.spared late calls where
  stands k o last spared := (late_iff o).mpr ⟨o, ⟨spared, k, last⟩, .refl⟩
  lost k o o' last member names isLate selected registers registers' := by
    obtain ⟨kept, isKept, forced⟩ := (late_iff o).mp isLate
    by_contra notSpared
    have isLost : Lost keyMatches regIdPrefix calls o :=
      ⟨member, registers, k, o', names, selected, last, registers', by simpa using notSpared⟩
    exact none_ kept o isKept isLost forced
  follows k o o' last member names isLate differs := by
    obtain ⟨kept, isKept, forced⟩ := (late_iff o).mp isLate
    exact (late_iff o').mpr ⟨kept, isKept, forced.tail (.last member names last differs)⟩

/-- Putting them late keeps the order of each worker. -/
theorem order_afterKept {calls : List RegCall} (times : calls.Pairwise (·.time < ·.time))
    {late : RegCall → Bool} (late_iff : ∀ o, late o = true ↔
      ∃ kept, Kept calls kept ∧ Relation.ReflTransGen (Forces calls) kept o) (i : Nat) :
    ofWorker ((calls.filter fun o => !late o).map RegCall.entry ++
      (calls.filter late).map RegCall.entry) i = ofWorker (calls.map RegCall.entry) i := by
  have last : (calls.filter (·.worker == i)).Pairwise fun o o' => late o = true → late o' = true := by
    refine (times.filter _).imp_of_mem ?_
    intro o o' member member' before isLate
    rw [List.mem_filter, beq_iff_eq] at member member'
    obtain ⟨kept, isKept, forced⟩ := (late_iff o).mp isLate
    have own : Forces calls o o' := .own member'.1 (member'.2.trans member.2.symm) before
    exact (late_iff o').mpr ⟨kept, isKept, forced.tail own⟩
  rw [← List.map_append, ofWorker_entries, ofWorker_entries, List.filter_append,
    List.filter_comm, List.filter_comm (p := fun o : RegCall => o.worker == i),
    filter_not_append_filter last]

/-- The registry ends as some serial order of the calls leaves it. -/
def Serializable (S : RedisClient W J) (form : JsonForm RegData J)
    (scripts : List (List RegOp)) (w w' : W) : Prop :=
  ∃ order, Interleaves scripts order ∧ ∀ k, S.get w' k = S.get (serially S form order w) k

/-- Each key ends as a serial order of the calls leaves it. The orders differ
only in the place of the bulk removal. -/
def KeywiseSerializable (S : RedisClient W J) (form : JsonForm RegData J) (regIdPrefix : String)
    (workers : List (List RegOp)) (w w' : W) : Prop :=
  ∃ calls, ∀ k, ∃ before later, calls = before ++ later ∧
    Interleaves (bulkScripts regIdPrefix workers) (withRemoval regIdPrefix before later) ∧
    S.get w' k = S.get (serially S form (withRemoval regIdPrefix before later) w) k

/-! ## Some serial order -/

/-- What stands for a call, or the bulk removal, in an order of calls. -/
def operation (regIdPrefix : String) : Option RegCall → Nat × RegOp
  | none => (0, .removeAllReg regIdPrefix)
  | some o => o.entry

/-- What it does to the registry map. -/
def nextOf (keyMatches : String → String → Bool) (regIdPrefix : String) (x : Option RegCall) :
    (String → Option RegData) → String → Option RegData :=
  (registrySpec keyMatches).next (operation regIdPrefix x).2

variable {ops : List RegCall}

theorem operation_calls (ops : List RegCall) :
    (none :: ops.map some).map (operation regIdPrefix) =
      withRemoval regIdPrefix [] (ops.map RegCall.entry) := by
  rw [List.map_cons, List.map_map]
  rfl

theorem nextOf_writes (assigns : ∀ o ∈ ops, Assigns (nextCall keyMatches) RegCall.key
      RegCall.record o) :
    ∀ x ∈ none :: ops.map some,
      Writes (nextOf keyMatches regIdPrefix) (ActsOn keyMatches regIdPrefix) leaves x := by
  intro x member
  cases x with
  | none => exact ⟨fun m k other => if_neg other, fun m k act => if_pos act⟩
  | some o =>
      have isCall : o ∈ ops := by simpa using member
      have writes := (assigns o isCall).writes
      exact ⟨writes.other, writes.same⟩

theorem serially_operations (laws : S.Lawful (selects keyMatches)) (roundTrips : form.RoundTrips)
    {w : W} (rep : RegistryHolds S form w m) (nodes : List (Option RegCall)) (k : String) :
    S.get (serially S form (nodes.map (operation regIdPrefix)) w) k =
      (after (nextOf keyMatches regIdPrefix) m nodes k).map form.toJsonObject := by
  have entries : after (fun o => (registrySpec keyMatches).next o.2) m
      (nodes.map (operation regIdPrefix)) = after (nextOf keyMatches regIdPrefix) m nodes :=
    List.foldl_map
  rw [(serially_holds laws roundTrips rep _).get_eq, entries]

theorem earlier_worker {x y : Option RegCall} (earlier : Earlier x y) :
    (operation regIdPrefix x).1 = (operation regIdPrefix y).1 := by
  cases x with
  | none => exact earlier.elim
  | some o =>
      cases y with
      | none => exact earlier.elim
      | some o' => exact earlier.1

theorem earlier_irrefl (x : Option RegCall) : ¬ Earlier x x := by
  cases x with
  | none => exact id
  | some o => exact fun earlier => Nat.lt_irrefl _ earlier.2

/-- No call comes after one of which it is the earlier. -/
theorem pairwise_not_earlier (times : ops.Pairwise (·.time < ·.time)) :
    (none :: ops.map some).Pairwise fun x y => ¬ Earlier y x := by
  refine List.pairwise_cons.mpr ⟨fun x _ => ?_, List.pairwise_map.mpr (times.imp ?_)⟩
  · cases x with
    | none => exact id
    | some o => exact id
  · intro o o' before earlier
    exact Nat.lt_asymm before earlier.2

/-- Of two operations of one worker, one is the earlier. -/
theorem eq_of_not_earlier (times : ops.Pairwise (·.time < ·.time)) (others : ∀ o ∈ ops, o.worker ≠ 0)
    {x y : Option RegCall} (inRun : x ∈ none :: ops.map some) (inRun' : y ∈ none :: ops.map some)
    (same : (operation regIdPrefix x).1 = (operation regIdPrefix y).1)
    (notEarlier : ¬ Earlier x y) (notLater : ¬ Earlier y x) : x = y := by
  cases x with
  | none =>
      cases y with
      | none => rfl
      | some o => exact absurd same.symm (others o (by simpa using inRun'))
  | some o =>
      cases y with
      | none => exact absurd same (others o (by simpa using inRun))
      | some o' =>
          have isCall : o ∈ ops := by simpa using inRun
          have isCall' : o' ∈ ops := by simpa using inRun'
          have sameTime : o.time = o'.time := by
            have notBefore : ¬ o.time < o'.time := fun before => notEarlier ⟨same, before⟩
            have notAfter : ¬ o'.time < o.time := fun before => notLater ⟨same.symm, before⟩
            omega
          have nodup : (ops.map RegCall.time).Nodup :=
            List.pairwise_map.mpr (times.imp fun before => Nat.ne_of_lt before)
          rw [List.inj_on_of_nodup_map nodup isCall isCall' sameTime]

/-- An order of the operations in which no call comes after one of which it is the
earlier keeps the order of each worker. -/
theorem interleaves_of_perm (times : ops.Pairwise (·.time < ·.time))
    (others : ∀ o ∈ ops, o.worker ≠ 0)
    (orders : Interleaves (bulkScripts regIdPrefix workers)
      ((none :: ops.map some).map (operation regIdPrefix)))
    {nodes : List (Option RegCall)} (perm : nodes.Perm (none :: ops.map some))
    (allowed : nodes.Pairwise fun x y => ¬ Earlier y x) :
    Interleaves (bulkScripts regIdPrefix workers) (nodes.map (operation regIdPrefix)) := by
  intro i
  rw [← orders i, ofWorker_map, ofWorker_map]
  congr 1
  refine List.Perm.eq_of_pairwise ?_ (allowed.filter _) ((pairwise_not_earlier times).filter _)
    (perm.filter _)
  intro x y inPart inPart' notLater notEarlier
  rw [List.mem_filter, beq_iff_eq] at inPart inPart'
  exact eq_of_not_earlier times others (perm.mem_iff.mp inPart.1) inPart'.1
    (inPart.2.trans inPart'.2.symm) notEarlier notLater

theorem JsonForm.RoundTrips.injective {R J : Type} {form : JsonForm R J}
    (roundTrips : form.RoundTrips) : Function.Injective form.toJsonObject := by
  intro r r' same
  have decoded := congrArg (form.fromJsonObject r) same
  rwa [roundTrips, roundTrips] at decoded

/-- The registry ends as some serial order leaves it exactly if last operations can be
given. -/
theorem serializable_iff (laws : S.Lawful (selects keyMatches)) (roundTrips : form.RoundTrips)
    {w w' : W} {m' : String → Option RegData} (rep : RegistryHolds S form w m)
    (rep' : RegistryHolds S form w' m')
    (assigns : ∀ o ∈ ops, Assigns (nextCall keyMatches) RegCall.key RegCall.record o)
    (untouched : ∀ k, (∀ x ∈ none :: ops.map some, ¬ ActsOn keyMatches regIdPrefix x k) →
      m' k = m k)
    (times : ops.Pairwise (·.time < ·.time)) (others : ∀ o ∈ ops, o.worker ≠ 0)
    (orders : Interleaves (bulkScripts regIdPrefix workers)
      ((none :: ops.map some).map (operation regIdPrefix))) :
    Serializable S form (bulkScripts regIdPrefix workers) w w' ↔
      Orderable S form keyMatches regIdPrefix ops w' := by
  have get_eq : S.get w' = fun k => (m' k).map form.toJsonObject := funext rep'.get_eq
  have writes : ∀ x ∈ none :: ops.map some,
      Writes (nextOf keyMatches regIdPrefix) (ActsOn keyMatches regIdPrefix) leaves x :=
    nextOf_writes assigns
  unfold Orderable
  rw [get_eq]
  constructor
  · intro serializable
    obtain ⟨order, interleaves, same⟩ := serializable
    obtain ⟨nodes, rfl, parts⟩ :=
      exists_relabel fun i => (interleaves i).trans (orders i).symm
    have ends : after (nextOf keyMatches regIdPrefix) m nodes = m' := by
      funext k
      refine Option.map_injective roundTrips.injective ?_
      rw [← serially_operations laws roundTrips rep, ← same, rep'.get_eq]
    have nodup : (none :: ops.map some).Nodup := by
      have distinct : ops.Nodup := times.imp fun before same => by
        rw [same] at before
        exact Nat.lt_irrefl _ before
      exact List.nodup_cons.mpr ⟨by simp, distinct.map (Option.some_injective _)⟩
    have allowed : nodes.Pairwise fun x y => ¬ Earlier y x := by
      refine pairwise_of_parts (operation regIdPrefix)
        (fun x y apart earlier => ?_) fun i => ?_
      · exact apart (earlier_worker earlier).symm
      · rw [parts]
        exact (pairwise_not_earlier times).filter _
    obtain ⟨last, closing⟩ :=
      Closing.of_order nodup earlier_irrefl writes (perm_of_parts parts) allowed m
    rw [ends] at closing
    exact ⟨last, (Closing.map_iff roundTrips.injective).mpr closing⟩
  · intro orderable
    obtain ⟨last, closing⟩ := orderable
    have closing' := (Closing.map_iff roundTrips.injective).mp closing
    obtain ⟨nodes, perm, allowed, ends⟩ := closing'.exists_order writes untouched
    refine ⟨_, interleaves_of_perm times others orders perm allowed, fun k => ?_⟩
    rw [serially_operations laws roundTrips rep, ends, get_eq]

/-- Only calls of other workers than the first have been done. -/
theorem Tracks.others (tracks : Tracks S form regIdPrefix workers c s) :
    ∀ o ∈ s.ops, o.worker ≠ 0 := by
  intro o member isRemover
  have none_ := tracks.noRemoval
  rw [ofWorker_entries, List.map_eq_nil_iff, List.filter_eq_nil_iff] at none_
  exact none_ o member (beq_iff_eq.mpr isRemover)

/-- A key that no call and not the bulk removal changes is as before. -/
theorem Carries.untouched (carries : Carries S keyMatches form regIdPrefix workers m c s)
    {k : String} (never : ∀ x ∈ none :: s.ops.map some, ¬ ActsOn keyMatches regIdPrefix x k) :
    s.map k = m k := by
  have out : keyMatches regIdPrefix k = false :=
    Bool.eq_false_of_not_eq_true (never none List.mem_cons_self)
  rw [carries.settles.unselected k out]
  refine after_stays (fun o member => (carries.settles.assigns o member).writes)
    fun o member act => ?_
  exact absurd act (never (some o) (List.mem_cons_of_mem _ (List.mem_map_of_mem member)))

/-- **Bulk unregistration is serializable key by key**, as a whole unless a registration
that is lost cannot come before one that is kept, and exactly if the keys can be given
last operations. -/
theorem bulk_unregistration_keywise (laws : S.Lawful (selects keyMatches))
    (roundTrips : form.RoundTrips) {w : W} (rep : RegistryHolds S form w m)
    (single : ∀ op ∈ workers.flatten, op.Single) (schedule : List Nat)
    (finished : (bulkRun S form regIdPrefix workers w schedule).Finished) :
    KeywiseSerializable S form regIdPrefix workers w
        (bulkRun S form regIdPrefix workers w schedule).store ∧
      (NoneLostAfterKept keyMatches regIdPrefix
          (bulkCalls S form keyMatches regIdPrefix workers w schedule) →
        Serializable S form (bulkScripts regIdPrefix workers) w
          (bulkRun S form regIdPrefix workers w schedule).store) ∧
      (Serializable S form (bulkScripts regIdPrefix workers) w
          (bulkRun S form regIdPrefix workers w schedule).store ↔
        Orderable S form keyMatches regIdPrefix
          (bulkCalls S form keyMatches regIdPrefix workers w schedule)
          (bulkRun S form regIdPrefix workers w schedule).store) := by
  classical
  have started : Carries S keyMatches form regIdPrefix workers m _ _ := .start rep single
  obtain ⟨⟨ops, pending, m'⟩, carries, same⟩ := started.run laws roundTrips 0 schedule
  replace same : ops = bulkCalls S form keyMatches regIdPrefix workers w schedule := same
  obtain ⟨known, orders⟩ := carries.tracks.finished finished
  obtain rfl : pending = some [] := known
  have times : ops.Pairwise (·.time < ·.time) := by
    rw [same]
    exact (calls_times _ 0 schedule).2
  have holds : RegistryHolds S form (bulkRun S form regIdPrefix workers w schedule).store m' :=
    carries.tracks.holds
  rw [← same]
  refine ⟨⟨ops.map RegCall.entry, fun k => ?_⟩, fun noneLost => ?_, ?_⟩
  · obtain ⟨before, later, split, same⟩ := carries.keywise.finished k
    have split' : ops.map RegCall.entry = before.map RegCall.entry ++ later.map RegCall.entry := by
      rw [split, List.map_append]
    refine ⟨_, _, split', orders _ _ fun i => by rw [← split'], ?_⟩
    rw [serially_withRemoval laws roundTrips rep, holds.get_eq, ← same]
  · obtain ⟨late, late_iff⟩ : ∃ late : RegCall → Bool, ∀ o, late o = true ↔
        ∃ kept, Kept ops kept ∧ Relation.ReflTransGen (Forces ops) kept o :=
      ⟨fun o => decide _, fun o => decide_eq_true_iff⟩
    have divided := carries.settles.divided (divides_afterKept noneLost late_iff)
    refine ⟨_, orders _ _ (order_afterKept times late_iff), fun k => ?_⟩
    rw [serially_withRemoval laws roundTrips rep, holds.get_eq]
    exact congrArg (Option.map form.toJsonObject) (divided k)
  · have inOrder : Interleaves (bulkScripts regIdPrefix workers)
        ((none :: ops.map some).map (operation regIdPrefix)) := by
      rw [operation_calls]
      exact orders [] _ fun i => rfl
    exact serializable_iff laws roundTrips rep holds carries.settles.assigns
      (fun k never => carries.untouched never) times carries.tracks.others inOrder

end Sweep

/-! ## Runs on `memoryRedis` -/

/-- Two contacts of one address, the first of them stored. -/
def contactOne : RegData := ⟨"a1", "sip:a@d", "sip:a@h1", 60⟩

def contactTwo : RegData := ⟨"a2", "sip:a@d", "sip:a@h2", 60⟩

def oneContact : AList fun _ : String => JsonObject :=
  memoryRedis.set ∅ "a1" (regJson.toJsonObject contactOne) 60

/-- A contact of another address, and the same at another host. -/
def contactElsewhere : RegData := ⟨"b1", "sip:b@d", "sip:b@h1", 60⟩

def contactMoved : RegData := ⟨"b1", "sip:b@d", "sip:b@h2", 60⟩

/-- A run of `removeAllReg("a")` among calls of other workers. -/
def raceRun (w : AList fun _ : String => JsonObject) (workers : List (List RegOp))
    (schedule : List Nat) : RegPool (AList fun _ : String => JsonObject) JsonObject :=
  bulkRun memoryRedis regJson "a" workers w schedule

/-- A worker that registers the second contact and then refreshes the first. -/
def refresher : List (List RegOp) := [[.persistReg contactTwo, .persistReg contactOne]]

/-- Both come between the read of the removal and its deletion. -/
def refreshRace : RegPool (AList fun _ : String => JsonObject) JsonObject :=
  raceRun oneContact refresher [0, 0, 1, 1, 1, 1, 1, 1, 0, 0]

/-- A worker that registers the second contact and then one elsewhere, and another
that moves that one and then refreshes the first. -/
def relay : List (List RegOp) :=
  [[.persistReg contactTwo, .persistReg contactElsewhere],
    [.persistReg contactMoved, .persistReg contactOne]]

def relayRace : RegPool (AList fun _ : String => JsonObject) JsonObject :=
  raceRun oneContact relay [0, 0, 1, 1, 1, 1, 1, 1, 2, 2, 2, 2, 2, 2, 0, 0]

/-- A record under a key that is not its own. -/
def misplaced : AList fun _ : String => JsonObject :=
  memoryRedis.set ∅ "a9" (regJson.toJsonObject contactElsewhere) 60

/-- A worker that removes what is there and then registers under the record's own key. -/
def replacer : List (List RegOp) := [[.removeReg "a9", .persistReg contactElsewhere]]

def misplacedRace : RegPool (AList fun _ : String => JsonObject) JsonObject :=
  raceRun misplaced replacer [0, 0, 1, 1, 1, 1, 1, 1, 0, 0]

theorem finished_of_workers {c : RegPool (AList fun _ : String => JsonObject) JsonObject}
    {n : Nat} (done : c.workers = List.replicate n ⟨none, []⟩) : c.Finished := by
  intro t member
  rw [done] at member
  exact List.eq_of_mem_replicate member

/-- No order of the calls leaves all of these keys as they are. -/
theorem not_serializable {scripts : List (List RegOp)}
    {w w' : AList fun _ : String => JsonObject} (keys : List String)
    (none_ : ∀ order ∈ interleavings scripts.flatten.length scripts,
      ¬ ∀ k ∈ keys, memoryRedis.get w' k = memoryRedis.get (serially memoryRedis regJson order w) k) :
    ¬ Serializable memoryRedis regJson scripts w w' := by
  intro serializable
  obtain ⟨order, interleaves, same⟩ := serializable
  exact none_ order interleaves.mem_interleavings fun k _ => same k

/-- Races end with registries that no serial order of their calls leaves: where a worker
registers a contact that is kept and then one that is lost; where another worker does the
second, and has to come after the first worker at a third contact; and, not even key by key,
where a record is not under its own key. -/
theorem bulk_unregistration_not_serial :
    (refreshRace.Finished ∧
        ¬ Serializable memoryRedis regJson (bulkScripts "a" refresher) oneContact
          refreshRace.store) ∧
      (relayRace.Finished ∧
        ¬ Serializable memoryRedis regJson (bulkScripts "a" relay) oneContact relayRace.store) ∧
      (misplacedRace.Finished ∧
        ¬ KeywiseSerializable memoryRedis regJson "a" replacer misplaced misplacedRace.store) := by
  refine ⟨⟨finished_of_workers (n := 2) rfl, ?_⟩, ⟨finished_of_workers (n := 3) rfl, ?_⟩,
    ⟨finished_of_workers (n := 2) rfl, ?_⟩⟩
  · -- the first contact is gone and the second is there
    exact not_serializable ["a1", "a2"] (by decide)
  · -- and the contact elsewhere has moved
    exact not_serializable ["a1", "a2", "b1"] (by decide)
  · intro serializable
    obtain ⟨calls, keywise⟩ := serializable
    obtain ⟨before, later, -, interleaves, same⟩ := keywise "b1"
    have never : ∀ order ∈ interleavings 3 (bulkScripts "a" replacer),
        memoryRedis.get misplacedRace.store "b1" ≠
          memoryRedis.get (serially memoryRedis regJson order misplaced) "b1" := by decide
    exact never _ interleaves.mem_interleavings same

/-- A worker registers the second contact, and then another worker the first. -/
def apart : List (List RegOp) := [[.persistReg contactTwo], [.persistReg contactOne]]

def apartSchedule : List Nat := [0, 0, 1, 1, 1, 2, 2, 2, 0, 0]

/-- The one that is lost does not follow the one that is kept. -/
theorem apart_noneLostAfterKept :
    NoneLostAfterKept prefixMatches "a"
      (bulkCalls memoryRedis regJson prefixMatches "a" apart oneContact apartSchedule) := by
  have calls : bulkCalls memoryRedis regJson prefixMatches "a" apart oneContact apartSchedule =
      [⟨3, 1, .persistReg contactTwo, true⟩, ⟨6, 2, .persistReg contactOne, false⟩] := rfl
  rw [calls]
  intro kept lost isKept isLost forced
  have alone : lost = ⟨3, 1, .persistReg contactTwo, true⟩ := by
    clear isLost
    induction forced with
    | refl =>
        obtain ⟨spared, k, last⟩ := isKept
        rcases List.mem_pair.mp (mem_of_lastOn last).1 with rfl | rfl
        · rfl
        · cases spared
    | tail _ forces ih =>
        subst ih
        cases forces with
        | own member worker later =>
            rcases List.mem_pair.mp member with rfl | rfl
            · rfl
            · cases worker
        | last _ names last _ =>
            obtain ⟨member, names'⟩ := mem_of_lastOn last
            rcases List.mem_pair.mp member with rfl | rfl
            · rfl
            · rw [← names] at names'
              exact absurd names' (by decide)
  obtain ⟨-, -, k, last, names, -, last_, -, notSpared⟩ := isLost
  rw [alone] at names
  cases names
  cases last_
  cases notSpared

/-- Serializability of such a run, though one contact was kept when the other was
registered to be lost. -/
theorem bulk_unregistration_keywise_apart :
    KeywiseSerializable memoryRedis regJson "a" apart oneContact
        (raceRun oneContact apart apartSchedule).store ∧
      Serializable memoryRedis regJson (bulkScripts "a" apart) oneContact
        (raceRun oneContact apart apartSchedule).store ∧
      Orderable memoryRedis regJson prefixMatches "a"
        (bulkCalls memoryRedis regJson prefixMatches "a" apart oneContact apartSchedule)
        (raceRun oneContact apart apartSchedule).store := by
  have stored : RegistryHolds memoryRedis regJson oneContact
      (Function.update (fun _ => none) "a1" (some contactOne)) :=
    (Represents.of_empty memoryRedis_empty).set memoryRedis_lawful contactOne 60
  have single : ∀ op ∈ apart.flatten, op.Single := by
    intro op member
    rcases List.mem_pair.mp member with rfl | rfl
    · trivial
    · trivial
  have finished : (raceRun oneContact apart apartSchedule).Finished :=
    finished_of_workers (n := 3) rfl
  obtain ⟨keywise, whole, exactly⟩ := bulk_unregistration_keywise memoryRedis_lawful
    regJson_roundTrips stored single apartSchedule finished
  have serializable := whole apart_noneLostAfterKept
  exact ⟨keywise, serializable, exactly.mp serializable⟩

end SipXsbc
