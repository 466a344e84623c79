import Treadmill.Allocation.Concurrent

/-!
# Writes made alone serialize the requests

When no request writes while another is in flight, a run's store is what its finished requests,
run alone one after another, leave.
-/

namespace Treadmill.Allocation

def Stage.result : Stage → Option (Except Err Unit)
  | .finished result => some result
  | _ => none

/-- The requests that have finished, with what they returned. -/
def finishedRequests (requests : List (Request × Stage)) : List (Request × Except Err Unit) :=
  requests.filterMap fun x => x.2.result.map ((x.1, ·))

/-- Run a request alone: the store it leaves, if it returns `result`. -/
def serialStep (st : Store) (x : Request × Except Err Unit) : Option Store :=
  match x.1.run st, x.2 with
  | .ok st', .ok () => some st'
  | .error e, .error e' => if e = e' then some st else none
  | _, _ => none

/-- Run requests one after another, each alone, each returning its recorded result. -/
def serial (st : Store) (hist : List (Request × Except Err Unit)) : Option Store :=
  hist.foldlM serialStep st

theorem serial_append_singleton (st : Store) (hist : List (Request × Except Err Unit))
    (x : Request × Except Err Unit) :
    serial st (hist ++ [x]) = (serial st hist).bind (serialStep · x) := by
  simp only [serial, List.foldlM_append, List.foldlM_cons, List.foldlM_nil, bind_pure]
  rfl

theorem finishedRequests_cons (x : Request × Stage) (l : List (Request × Stage)) :
    finishedRequests (x :: l) = (x.2.result.map ((x.1, ·))).toList ++ finishedRequests l := by
  simp only [finishedRequests, List.filterMap_cons]
  cases x.2.result <;> rfl

theorem finishedRequests_set {l : List (Request × Stage)} {i : Nat} {req : Request}
    {stage : Stage} (hi : l[i]? = some (req, stage)) (hs : stage.result = none) (stage' : Stage) :
    (finishedRequests (l.set i (req, stage'))).Perm
      (finishedRequests l ++ (stage'.result.map ((req, ·))).toList) := by
  induction l generalizing i with
  | nil => cases hi
  | cons a l ih =>
    cases i with
    | zero =>
      simp only [List.getElem?_cons_zero, Option.some.injEq] at hi
      subst hi
      simp only [List.set_cons_zero, finishedRequests_cons, hs, Option.map_none',
        Option.toList_none, List.nil_append]
      exact List.perm_append_comm
    | succ i =>
      rw [List.getElem?_cons_succ] at hi
      simp only [List.set_cons_succ, finishedRequests_cons, List.append_assoc]
      exact (ih hi).append_left _

theorem Request.run_of_check_error {req : Request} {st : Store} {e : Err}
    (h : checkCapacity st req.cell req.allocation req.body = .error e) : req.run st = .error e := by
  rw [Request.run_eq, h]
  rfl

theorem Request.run_of_check_ok {req : Request} {st : Store}
    (h : checkCapacity st req.cell req.allocation req.body = .ok ()) : req.run st = req.write st := by
  rw [Request.run_eq, h]
  rfl

theorem serialStep_of_run_error {req : Request} {st : Store} {e : Err} (h : req.run st = .error e) :
    serialStep st (req, .error e) = some st := by
  simp only [serialStep, h, if_true]

/-- One call of a request whose reads are current keeps them current; only the write changes the
store; and a call that does not end the request leaves the store as it was, while the call that
ends it returns what the verb returns run alone on the store of that moment. -/
theorem advance_serializes {req : Request} {st st' : Store} {stage stage' : Stage}
    (h : advance req st stage = some (st', stage')) (hc : Current st req stage) :
    Current st' req stage' ∧ (stage.writes = false → st' = st) ∧
      match stage'.result with
      | none => st' = st
      | some r => serialStep st (req, r) = some st' := by
  cases stage with
  | start =>
    cases h
    split
    · exact ⟨‹_›, fun _ => rfl, rfl⟩
    · rename_i e he
      refine ⟨trivial, fun _ => rfl, serialStep_of_run_error (Request.run_of_check_error ?_)⟩
      rw [checkCapacity, he]
      rfl
  | gotOld old =>
    cases h
    split
    · exact ⟨⟨hc, ‹_›, rfl⟩, fun _ => rfl, rfl⟩
    · rename_i e he
      refine ⟨trivial, fun _ => rfl, serialStep_of_run_error (Request.run_of_check_error ?_)⟩
      have hold : oldAmounts st req.cell req.allocation req.body = .ok old := hc
      simp only [checkCapacity, hold, he, bind, Except.bind]
  | gotPartition partition old capacity =>
    cases h
    obtain ⟨hold, hp, rfl⟩ := hc
    have hcheck : checkCapacity st req.cell req.allocation req.body =
        checks (freeOf (partitionObject st partition req.cell)
          (listReservations st req.cell partition)) old req.body.amounts := by
      simp only [checkCapacity, hold, hp, bind, Except.bind, partitionFree]
    split
    · exact ⟨hcheck.trans ‹_›, fun _ => rfl, rfl⟩
    · exact ⟨trivial, fun _ => rfl,
        serialStep_of_run_error (Request.run_of_check_error (hcheck.trans ‹_›))⟩
  | checked =>
    simp only [advance] at h
    split at h <;> cases h
    · rename_i st' hw
      exact ⟨trivial, nofun, by simp only [Stage.result, serialStep, Request.run_of_check_ok hc, hw]⟩
    · rename_i e hw
      exact ⟨trivial, nofun, serialStep_of_run_error (by rw [Request.run_of_check_ok hc, hw])⟩
  | finished => cases h

/-- What every request has read is current, and the store is what running the finished requests
one at a time from `st0`, in some order, leaves, each returning what it returned. -/
def Serialized (st0 : Store) (s : System) : Prop :=
  (∀ x ∈ s.requests, Current s.store x.1 x.2) ∧
    ∃ hist, hist.Perm (finishedRequests s.requests) ∧ serial st0 hist = some s.store

theorem Serialized.arrive {st0 : Store} {s : System} (hs : Serialized st0 s) (req : Request) :
    Serialized st0 ⟨s.store, s.requests ++ [(req, .start)]⟩ := by
  obtain ⟨hcur, hist, hperm, hst⟩ := hs
  refine ⟨fun x hx => ?_, hist, ?_, hst⟩
  · rcases List.mem_append.mp hx with hx | hx
    · exact hcur x hx
    · rw [List.mem_singleton.mp hx]
      trivial
  · simpa only [finishedRequests, List.filterMap_append, List.filterMap_cons, Stage.result,
      Option.map_none', List.filterMap_nil, List.append_nil] using hperm

theorem step_serialized {st0 : Store} {s t : System} (h : Step true s t) (hs : Serialized st0 s) :
    Serialized st0 t := by
  cases h with
  | arrive req => exact hs.arrive req
  | call i h =>
    obtain ⟨hcur, hist, hperm, hst⟩ := hs
    unfold call at h
    split at h
    · cases h
    · rename_i req stage hi
      split at h
      · cases h
      · rename_i hx
        obtain ⟨⟨st', stage'⟩, hadv, rfl⟩ := Option.map_eq_some'.mp h
        have hreq := hcur _ (List.getElem?_mem hi)
        obtain ⟨hc, hst', hlin⟩ := advance_serializes hadv hreq
        have hunfinished : stage.result = none := by
          cases stage <;> first | rfl | cases hadv
        refine ⟨fun x hx' => ?_, hist ++ (stage'.result.map ((req, ·))).toList,
          (hperm.append_right _).trans (finishedRequests_set hi hunfinished stage').symm, ?_⟩
        · rcases mem_set_of_mem hx' with rfl | hx'
          · exact hc
          · cases hwr : stage.writes
            · rw [hst' hwr]
              exact hcur x (List.mem_of_mem_eraseIdx hx')
            · have hidle : othersIdle s.requests i = true := by simpa [hwr] using hx
              exact .of_idle (by simpa using List.all_eq_true.mp hidle x hx')
        · revert hlin
          cases stage'.result with
          | none =>
            rintro rfl
            simpa only [Option.map_none', Option.toList_none, List.append_nil] using hst
          | some r =>
            intro hlin
            simp only [Option.map_some', Option.toList_some, serial_append_singleton, hst,
              Option.some_bind, hlin]

/-- When no request writes while another is between its first call and its end, the requests
serialize: the store of every run from `st0` is the one that running the run's finished requests
one at a time, in some order, leaves, and each of them returns there what it returned in the run. -/
theorem exclusive_requests_serialize {st0 : Store} {s : System}
    (hr : Relation.ReflTransGen (Step true) ⟨st0, []⟩ s) :
    ∃ hist, hist.Perm (finishedRequests s.requests) ∧ serial st0 hist = some s.store := by
  have : Serialized st0 s := by
    induction hr with
    | refl => exact ⟨fun _ h => (nomatch h), [], .nil, rfl⟩
    | tail _ hs ih => exact step_serialized hs ih
  exact this.2

open Race in
/-- `a` is admitted and `b` refused: the run's store is the one that `a` and then `b`, each run
alone and each returning what it returned in the run, leave. -/
theorem exclusive_requests_serialize_refused :
    Relation.ReflTransGen (Step true) ⟨store, []⟩ serialized ∧
      (∃ hist, hist.Perm (finishedRequests serialized.requests) ∧
        serial store hist = some serialized.store) ∧
      serial store [(request "a", .ok ()), (request "b", .error refused)] = some serialized.store :=
  ⟨serialized_reached, exclusive_requests_serialize serialized_reached, rfl⟩

end Treadmill.Allocation
