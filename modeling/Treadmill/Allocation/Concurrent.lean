import Treadmill.Allocation.Reservation

/-!
# Reservation requests that run at once

Requests interleave at their store calls. Two that both check before either writes can
over-commit a partition; when no request writes while another is in flight, none can.
-/

namespace Treadmill.Allocation

inductive Verb where
  | create
  | update
  deriving DecidableEq, Repr

/-- A `create` or `update` of `allocation/cell` with the body `rsrc`. -/
structure Request where
  verb : Verb
  cell : String
  allocation : String
  rsrc : Rsrc
  deriving DecidableEq, Repr

/-- The body `_check_capacity` sees: `create` fills in the default partition first. -/
def Request.body (req : Request) : Rsrc :=
  match req.verb with
  | .create => { req.rsrc with partition := some (req.rsrc.partition.getD defaultPartition) }
  | .update => req.rsrc

/-- The write that ends an admitted request. -/
def Request.write (req : Request) (st : Store) : Except Err Store :=
  match req.verb with
  | .create => createReservation st req.cell req.allocation
      ⟨req.rsrc.partition.getD defaultPartition, req.rsrc.rank.getD defaultRank, req.rsrc.amounts⟩
  | .update => updateReservation st req.cell req.allocation req.rsrc

def Request.run (req : Request) (st : Store) : Except Err Store :=
  match req.verb with
  | .create => create st req.cell req.allocation req.rsrc
  | .update => update st req.cell req.allocation req.rsrc

theorem Request.run_eq (req : Request) (st : Store) :
    req.run st = (do checkCapacity st req.cell req.allocation req.body; req.write st) := by
  cases h : req.verb <;> simp only [Request.run, Request.body, Request.write, create, update, h]

theorem Request.run_withinCapacity {req : Request} {st st' : Store} (h : WithinCapacity st)
    (hr : req.run st = .ok st') : WithinCapacity st' := by
  unfold Request.run at hr
  split at hr
  exacts [create_withinCapacity h hr, update_withinCapacity h hr]

/-- Where a request is among its store calls, with what it has read. -/
inductive Stage where
  | start
  | gotOld (old : Resources Nat)
  | gotPartition (partition : String) (old capacity : Resources Nat)
  | checked
  | finished (result : Except Err Unit)

def Stage.inFlight : Stage → Bool
  | .start | .finished _ => false
  | _ => true

def Stage.writes : Stage → Bool
  | .checked => true
  | _ => false

/-- A request's next store call: what it leaves the store as, and where the request is then. -/
def advance (req : Request) (st : Store) : Stage → Option (Store × Stage)
  | .start => some (st, match oldAmounts st req.cell req.allocation req.body with
      | .ok old => .gotOld old
      | .error e => .finished (.error e))
  | .gotOld old => some (st, match rsrcPartition req.body with
      | .ok partition => .gotPartition partition old (partitionObject st partition req.cell)
      | .error e => .finished (.error e))
  | .gotPartition partition old capacity =>
    some (st, match checks (freeOf capacity (listReservations st req.cell partition)) old
        req.body.amounts with
      | .ok () => .checked
      | .error e => .finished (.error e))
  | .checked => match req.write st with
      | .ok st' => some (st', .finished (.ok ()))
      | .error e => some (st, .finished (.error e))
  | .finished _ => none

structure System where
  store : Store
  requests : List (Request × Stage)

def othersIdle (requests : List (Request × Stage)) (i : Nat) : Bool :=
  (requests.eraseIdx i).all fun x => !x.2.inFlight

/-- Request `i` makes its next store call; when `exclusive`, a write waits until no other
request is in flight. -/
def call (exclusive : Bool) (s : System) (i : Nat) : Option System :=
  match s.requests[i]? with
  | none => none
  | some (req, stage) =>
    if exclusive && stage.writes && !othersIdle s.requests i then none
    else (advance req s.store stage).map fun x => ⟨x.1, s.requests.set i (req, x.2)⟩

inductive Step (exclusive : Bool) : System → System → Prop where
  | arrive (s : System) (req : Request) : Step exclusive s ⟨s.store, s.requests ++ [(req, .start)]⟩
  | call {s t : System} (i : Nat) (h : call exclusive s i = some t) : Step exclusive s t

inductive Label where
  | arrive (req : Request)
  | call (i : Nat)

def exec (exclusive : Bool) (s : System) : Label → Option System
  | .arrive req => some ⟨s.store, s.requests ++ [(req, .start)]⟩
  | .call i => call exclusive s i

def execAll (exclusive : Bool) : System → List Label → Option System
  | s, [] => some s
  | s, l :: ls => (exec exclusive s l).bind fun t => execAll exclusive t ls

theorem execAll_reaches {exclusive : Bool} {s t : System} {ls : List Label}
    (h : execAll exclusive s ls = some t) : Relation.ReflTransGen (Step exclusive) s t := by
  induction ls generalizing s with
  | nil =>
    cases h
    exact .refl
  | cons l ls ih =>
    obtain ⟨u, hu, ht⟩ := Option.bind_eq_some.mp h
    refine .head ?_ (ih ht)
    cases l with
    | arrive req =>
      cases hu
      exact .arrive s req
    | call i => exact .call i hu

/-- What a request has read still describes the store. -/
def Current (st : Store) (req : Request) : Stage → Prop
  | .start | .finished _ => True
  | .gotOld old => oldAmounts st req.cell req.allocation req.body = .ok old
  | .gotPartition partition old capacity =>
    oldAmounts st req.cell req.allocation req.body = .ok old ∧
      rsrcPartition req.body = .ok partition ∧ partitionObject st partition req.cell = capacity
  | .checked => checkCapacity st req.cell req.allocation req.body = .ok ()

theorem Current.of_idle {st : Store} {req : Request} {stage : Stage} (h : stage.inFlight = false) :
    Current st req stage := by
  cases stage <;> trivial

/-- A call keeps what its request read current; only the write changes the store, and a write
admitted by a current check keeps every partition within capacity. -/
theorem advance_current {req : Request} {st st' : Store} {stage stage' : Stage}
    (h : advance req st stage = some (st', stage')) (hc : Current st req stage)
    (hw : WithinCapacity st) :
    Current st' req stage' ∧ WithinCapacity st' ∧ (stage.writes = false → st' = st) := by
  cases stage with
  | start =>
    cases h
    exact ⟨by split <;> trivial, hw, fun _ => rfl⟩
  | gotOld old =>
    cases h
    refine ⟨?_, hw, fun _ => rfl⟩
    split
    · exact ⟨hc, ‹_›, rfl⟩
    · trivial
  | gotPartition partition old capacity =>
    cases h
    obtain ⟨hold, hp, rfl⟩ := hc
    refine ⟨?_, hw, fun _ => rfl⟩
    split
    · simpa only [Current, checkCapacity, hold, hp, bind, Except.bind, partitionFree]
    · trivial
  | checked =>
    simp only [advance] at h
    split at h <;> cases h
    · have hr : req.run st = .ok st' := by
        rwa [Request.run_eq, show checkCapacity _ _ _ _ = .ok () from hc]
      exact ⟨trivial, Request.run_withinCapacity hw hr, nofun⟩
    · exact ⟨trivial, hw, fun _ => rfl⟩
  | finished => cases h

theorem mem_set_of_mem {α : Type} {l : List α} {i : Nat} {x y : α} (h : x ∈ l.set i y) :
    x = y ∨ x ∈ l.eraseIdx i := by
  induction l generalizing i with
  | nil => simp at h
  | cons a l ih =>
    cases i with
    | zero => simpa using h
    | succ i =>
      rw [List.set_cons_succ, List.mem_cons] at h
      rw [List.eraseIdx_cons_succ, List.mem_cons]
      rcases h with rfl | h
      · exact .inr (.inl rfl)
      · exact (ih h).imp_right .inr

def Sound (s : System) : Prop :=
  WithinCapacity s.store ∧ ∀ x ∈ s.requests, Current s.store x.1 x.2

theorem step_sound {s t : System} (h : Step true s t) (hs : Sound s) : Sound t := by
  cases h with
  | arrive req =>
    refine ⟨hs.1, fun x hx => ?_⟩
    rcases List.mem_append.mp hx with hx | hx
    · exact hs.2 x hx
    · rw [List.mem_singleton.mp hx]
      trivial
  | call i h =>
    unfold call at h
    split at h
    · cases h
    · rename_i req stage hi
      split at h
      · cases h
      · rename_i hx
        obtain ⟨⟨st', stage'⟩, hadv, rfl⟩ := Option.map_eq_some'.mp h
        have hreq := hs.2 _ (List.getElem?_mem hi)
        obtain ⟨hc, hw, hst⟩ := advance_current hadv hreq hs.1
        refine ⟨hw, fun x hx' => ?_⟩
        rcases mem_set_of_mem hx' with rfl | hx'
        · exact hc
        · cases hwr : stage.writes
          · rw [hst hwr]
            exact hs.2 x (List.mem_of_mem_eraseIdx hx')
          · have hidle : othersIdle s.requests i = true := by simpa [hwr] using hx
            exact .of_idle (by simpa using List.all_eq_true.mp hidle x hx')

/-- When no request writes while another is between its first call and its end, every store
the requests reach from one within capacity is within capacity. -/
theorem exclusive_writes_within_capacity {st : Store} {s : System} (h0 : WithinCapacity st)
    (hr : Relation.ReflTransGen (Step true) ⟨st, []⟩ s) : WithinCapacity s.store := by
  have : Sound s := by
    induction hr with
    | refl => exact ⟨h0, fun _ h => nomatch h⟩
    | tail _ hs ih => exact step_sound hs ih
  exact this.1

namespace Race

/-- A cell `c` whose partition `p` has one cpu, and no reservation. -/
def store : Store where
  partitions := (∅ : AList fun _ : String × String => Resources Nat).insert ("p", "c") ⟨1, 0, 0⟩
  reservations := ∅

def request (allocation : String) : Request := ⟨.create, "c", allocation, ⟨some "p", none, ⟨1, 0, 0⟩⟩⟩

theorem store_within : WithinCapacity store := fun _ _ _ => Nat.zero_le _

def taken : Reservation := ⟨"p", 100, ⟨1, 0, 0⟩⟩

/-- `a` and `b` arrive; `a` makes its three reads and its write while `b` waits, then `b` makes its
reads and is refused. -/
def serialSchedule : List Label :=
  [.arrive (request "a"), .arrive (request "b"), .call 0, .call 0, .call 0, .call 0, .call 1,
    .call 1, .call 1]

def refused : Err := .invalidInput "Not enough cpu capacity in partition."

def serialized : System where
  store := { store with reservations := store.reservations.insert ("c", "a") taken }
  requests := [(request "a", .finished (.ok ())), (request "b", .finished (.error refused))]

theorem serialized_reached : Relation.ReflTransGen (Step true) ⟨store, []⟩ serialized :=
  execAll_reaches (show execAll true ⟨store, []⟩ serialSchedule = some serialized from rfl)

/-- `a` has checked and `b` has made its first read. -/
def blocked : System where
  store := store
  requests := [(request "a", .checked), (request "b", .gotOld ⟨0, 0, 0⟩)]

theorem blocked_reached : Relation.ReflTransGen (Step true) ⟨store, []⟩ blocked :=
  execAll_reaches (show execAll true ⟨store, []⟩
    [.arrive (request "a"), .arrive (request "b"), .call 0, .call 1, .call 0, .call 0] =
      some blocked from rfl)

/-- `a` and `b` make their reads in turn, and both check before either writes. -/
def raceSchedule : List Label :=
  [.arrive (request "a"), .arrive (request "b"), .call 0, .call 1, .call 0, .call 1, .call 0,
    .call 1, .call 0, .call 1]

def raced : System where
  store := { store with reservations := (store.reservations.insert ("c", "a") taken).insert ("c", "b") taken }
  requests := [(request "a", .finished (.ok ())), (request "b", .finished (.ok ()))]

theorem raced_reached : Relation.ReflTransGen (Step false) ⟨store, []⟩ raced :=
  execAll_reaches (show execAll false ⟨store, []⟩ raceSchedule = some raced from rfl)

end Race

open Race in
/-- Two creates that interleave at their store calls take two cpus of a partition that has
one. -/
theorem interleaved_creates_overcommit :
    WithinCapacity store ∧ Relation.ReflTransGen (Step false) ⟨store, []⟩ raced ∧
      ¬ WithinCapacity raced.store :=
  ⟨store_within, raced_reached, fun h => absurd (h "c" "p" .cpu) (by decide)⟩

open Race in
/-- `b` arrives while `a` makes its calls: `a` writes while `b` has not started and `b`, checking
after it, is refused. Once `b` has made a read, `a`'s checked write waits; without the restriction
it would go ahead. -/
theorem exclusive_writes_within_capacity_waiting :
    WithinCapacity store ∧ Relation.ReflTransGen (Step true) ⟨store, []⟩ serialized ∧
      WithinCapacity serialized.store ∧ serialized.store.reservations.lookup ("c", "a") = some taken ∧
      Relation.ReflTransGen (Step true) ⟨store, []⟩ blocked ∧ WithinCapacity blocked.store ∧
      call true blocked 0 = none ∧ (call false blocked 0).isSome :=
  ⟨store_within, serialized_reached, exclusive_writes_within_capacity store_within serialized_reached,
    rfl, blocked_reached, exclusive_writes_within_capacity store_within blocked_reached, rfl, rfl⟩

end Treadmill.Allocation
