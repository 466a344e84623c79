import Treadmill.App.Concurrent

/-!
# Requests one at a time

The runs in which at most one request is in flight at once are the serial API `serve`.
-/

namespace Treadmill.App

/-- Whether a request is still making its admin calls. -/
def Stage.busy : Stage → Bool
  | .finished _ => false
  | _ => true

/-- A step after which at most one request is still making its admin calls. -/
def SerialStep (env : Env) (s t : System) : Prop :=
  Step env s t ∧ t.requests.countP (·.2.busy) ≤ 1

/-- Where `serve` ends: its store, and each request finished with what `serve` answers it. -/
def served (env : Env) (reqs : List Request) (st : Store) : System :=
  ⟨(serve env reqs st).2, reqs.zip ((serve env reqs st).1.map .finished)⟩

/-- Where a run of requests one at a time from store `st` can be: the requests that have arrived
finished as `serve` has them, or all but the last, whose calls will finish as its handler does. -/
def SerialState (env : Env) (st : Store) (s : System) : Prop :=
  ∃ reqs, s = served env reqs st ∨
    ∃ req stage, stage.busy = true ∧ s.requests = (served env reqs st).requests ++ [(req, stage)] ∧
      Relation.ReflTransGen (Advances env req) (s.store, stage)
        (after (req.handle env (served env reqs st).store),
          .finished (outcome (req.handle env (served env reqs st).store)))

section Served

variable {env : Env}

theorem serve_fst_cons (req : Request) (reqs : List Request) (st : Store) :
    (serve env (req :: reqs) st).1 =
      outcome (req.handle env st) :: (serve env reqs (after (req.handle env st))).1 := by
  simp only [serve]
  split <;> simp only [outcome, after, *]

theorem length_serve_fst (reqs : List Request) (st : Store) :
    (serve env reqs st).1.length = reqs.length := by
  induction reqs generalizing st with
  | nil => rfl
  | cons req reqs ih => rw [serve_fst_cons, List.length_cons, ih, List.length_cons]

theorem serve_concat (reqs : List Request) (req : Request) (st : Store) :
    serve env (reqs ++ [req]) st =
      ((serve env reqs st).1 ++ [outcome (req.handle env (serve env reqs st).2)],
        after (req.handle env (serve env reqs st).2)) := by
  induction reqs generalizing st with
  | nil => exact Prod.ext (serve_fst_cons req [] st) (serve_snd_cons req [])
  | cons r reqs ih =>
    refine Prod.ext ?_ ?_
    · rw [List.cons_append, serve_fst_cons, ih, serve_fst_cons, serve_snd_cons]
      rfl
    · rw [List.cons_append, serve_snd_cons, ih, serve_snd_cons]

variable (reqs : List Request) (st : Store)

theorem served_concat (req : Request) :
    served env (reqs ++ [req]) st =
      ⟨after (req.handle env (served env reqs st).store), (served env reqs st).requests ++
        [(req, .finished (outcome (req.handle env (served env reqs st).store)))]⟩ := by
  rw [served, serve_concat, List.map_append,
    List.zip_append (by rw [List.length_map, length_serve_fst])]
  rfl

theorem map_fst_served : (served env reqs st).requests.map Prod.fst = reqs :=
  List.map_fst_zip _ _ (by rw [List.length_map, length_serve_fst])

theorem busy_served : ∀ x ∈ (served env reqs st).requests, x.2.busy = false := fun _ hx => by
  obtain ⟨o, _, he⟩ := List.mem_map.mp (List.of_mem_zip hx).2
  rw [← he]
  rfl

end Served

section Calls

variable {env : Env} {req : Request}

theorem advance_of_not_busy {stage : Stage} (h : stage.busy = false) (st : Store) :
    advance env req st stage = none := by
  cases stage <;> first | rfl | cases h

theorem Advances.det {a b c : Store × Stage} (hb : Advances env req a b) (hc : Advances env req a c) :
    b = c :=
  Option.some.inj (hb.symm.trans hc)

theorem Advances.runs_of_step {a b f : Store × Stage} (hab : Advances env req a b)
    (hf : Relation.ReflTransGen (Advances env req) a f) (hfin : f.2.busy = false) :
    Relation.ReflTransGen (Advances env req) b f := by
  rcases hf.cases_head with rfl | ⟨c, hac, hcf⟩
  · rw [Advances, advance_of_not_busy hfin] at hab
    cases hab
  · exact hab.det hac ▸ hcf

theorem eq_of_not_busy {a f : Store × Stage} (hf : Relation.ReflTransGen (Advances env req) a f)
    (ha : a.2.busy = false) : a = f := by
  rcases hf.cases_head with h | ⟨c, hac, -⟩
  · exact h
  · rw [Advances, advance_of_not_busy ha] at hac
    cases hac

end Calls

section Step

variable {env : Env} {st : Store} {s : System}

theorem countP_busy_concat {done : List (Request × Stage)} (h : ∀ x ∈ done, x.2.busy = false)
    (x : Request × Stage) : (done ++ [x]).countP (·.2.busy) = if x.2.busy then 1 else 0 := by
  rw [List.countP_append, List.countP_eq_zero.mpr fun y hy => Bool.eq_false_iff.mp (h y hy),
    List.countP_singleton, Nat.zero_add]

theorem call_last {done : List (Request × Stage)} (h : ∀ x ∈ done, x.2.busy = false)
    {x y : Request × Stage} {i : Nat} (hi : (done ++ [x])[i]? = some y) (hy : y.2.busy = true) :
    i = done.length ∧ y = x := by
  rcases Nat.lt_or_ge i done.length with hlt | hge
  · rw [List.getElem?_append_left hlt] at hi
    exact nomatch hy.symm.trans (h y (List.getElem?_mem hi))
  · rw [List.getElem?_append_right hge] at hi
    obtain ⟨hlt, he⟩ := List.getElem?_eq_some_iff.mp hi
    rw [List.getElem_singleton] at he
    exact ⟨by simp only [List.length_singleton] at hlt; omega, he.symm⟩

theorem SerialState.arrive (hs : SerialState env st s) (req : Request)
    (hcount : (s.requests ++ [(req, Stage.start)]).countP (·.2.busy) ≤ 1) :
    SerialState env st ⟨s.store, s.requests ++ [(req, .start)]⟩ := by
  obtain ⟨reqs, rfl | ⟨r, stage, hbusy, hreqs, -⟩⟩ := hs
  · exact ⟨reqs, .inr ⟨req, .start, rfl, rfl, advance_runs_as_handler req _⟩⟩
  · rw [hreqs, List.countP_append, countP_busy_concat (busy_served reqs st), if_pos hbusy] at hcount
    simp only [List.countP_singleton, Stage.busy, if_true] at hcount
    omega

theorem SerialState.call (hs : SerialState env st s) {i : Nat} {req : Request}
    {stage stage' : Stage} {st' : Store} (hi : s.requests[i]? = some (req, stage))
    (h : advance env req s.store stage = some (st', stage')) :
    SerialState env st ⟨st', s.requests.set i (req, stage')⟩ := by
  have hbusy : stage.busy = true := by
    cases stage <;> first | rfl | cases h
  obtain ⟨reqs, rfl | ⟨r, stg, -, hreqs, hrun⟩⟩ := hs
  · rw [advance_of_not_busy (busy_served reqs st _ (List.getElem?_mem hi))] at h
    cases h
  rw [hreqs] at hi ⊢
  obtain ⟨rfl, he⟩ := call_last (busy_served reqs st) hi hbusy
  cases he
  have hstep : Advances env req (s.store, stage) (st', stage') := h
  have hrun := hstep.runs_of_step hrun rfl
  rw [List.set_append_right _ _ le_rfl, Nat.sub_self]
  cases hb : stage'.busy
  · obtain ⟨rfl, rfl⟩ := Prod.mk.inj (eq_of_not_busy hrun hb)
    exact ⟨reqs ++ [req], .inl (served_concat reqs st req).symm⟩
  · exact ⟨reqs, .inr ⟨req, stage', hb, rfl, hrun⟩⟩

theorem SerialState.step {t : System} (hs : SerialState env st s) (h : SerialStep env s t) :
    SerialState env st t := by
  obtain ⟨h, hcount⟩ := h
  cases h with
  | arrive req => exact hs.arrive req hcount
  | call hi h => exact hs.call hi h

theorem serialState_run (h : Relation.ReflTransGen (SerialStep env) ⟨st, []⟩ s) :
    SerialState env st s := by
  induction h with
  | refl => exact ⟨[], .inl rfl⟩
  | tail _ h ih => exact ih.step h

end Step

section Reach

variable {env : Env}

theorem serialStep_arrive {done : List (Request × Stage)} (h : ∀ x ∈ done, x.2.busy = false)
    (st : Store) (req : Request) :
    SerialStep env ⟨st, done⟩ ⟨st, done ++ [(req, .start)]⟩ :=
  ⟨.arrive _ req, (countP_busy_concat h _).trans_le le_rfl⟩

theorem serialStep_last {done : List (Request × Stage)} (h : ∀ x ∈ done, x.2.busy = false)
    {req : Request} {a b : Store × Stage} (hab : Advances env req a b) :
    SerialStep env ⟨a.1, done ++ [(req, a.2)]⟩ ⟨b.1, done ++ [(req, b.2)]⟩ :=
  ⟨step_last done hab, (countP_busy_concat h _).trans_le (by split <;> omega)⟩

/-- Each request arriving once the one before has finished, a run ends where `serve` ends. -/
theorem serial_run_reaches_served (reqs : List Request) (st : Store) :
    Relation.ReflTransGen (SerialStep env) ⟨st, []⟩ (served env reqs st) := by
  induction reqs using List.reverseRecOn with
  | nil => exact .refl
  | append_singleton reqs req ih =>
    have hdone : ∀ x ∈ (served env reqs st).requests, x.2.busy = false := busy_served reqs st
    rw [served_concat]
    exact (ih.tail (serialStep_arrive hdone _ req)).trans <|
      (advance_runs_as_handler req _).lift
        (fun a : Store × Stage => System.mk a.1 ((served env reqs st).requests ++ [(req, a.2)]))
        fun _ _ h => serialStep_last hdone h

variable {st : Store}

/-- Requests served one at a time are the serial API: a run in which at most one request is making
its admin calls at any point reaches a system whose requests have all finished exactly when that
system is where `serve` ends on its requests in the order they arrived. -/
theorem serial_runs_are_serve {s : System} (hs : ∀ x ∈ s.requests, x.2.busy = false) :
    Relation.ReflTransGen (SerialStep env) ⟨st, []⟩ s ↔
      s = served env (s.requests.map Prod.fst) st := by
  constructor
  · intro h
    obtain ⟨reqs, rfl | ⟨req, stage, hbusy, hreqs, -⟩⟩ := serialState_run h
    · rw [map_fst_served]
    · have := hs (req, stage) (hreqs ▸ List.mem_concat_self _ _)
      exact nomatch hbusy.symm.trans this
  · intro h
    rw [h]
    exact serial_run_reaches_served _ st

theorem serial_runs_are_serve_raced :
    (∀ x ∈ Sample.raced.requests, x.2.busy = false) ∧
      (Relation.ReflTransGen (SerialStep Sample.env) ⟨Sample.store, []⟩ Sample.raced ↔
        Sample.raced = served Sample.env (Sample.raced.requests.map Prod.fst) Sample.store) :=
  have hs : ∀ x ∈ Sample.raced.requests, x.2.busy = false := by decide
  ⟨hs, serial_runs_are_serve hs⟩

end Reach

end Treadmill.App
