import Mathlib

/-!
# Reservations of a cell's partitions: `treadmill.api.allocation`

The admin store is two maps, partitions by `[partition, cell]` and reservations by
`[cell, allocation]`; amounts are the natural numbers `utils.cpu_units` and
`utils.size_to_bytes` return.
-/

namespace Treadmill.Allocation

def defaultRank : Nat := 100

def defaultPartition : String := "_default"

inductive Resource where
  | cpu
  | memory
  | disk
  deriving DecidableEq, Repr

/-- A `{'cpu': ..., 'memory': ..., 'disk': ...}` dictionary. -/
structure Resources (α : Type) where
  cpu : α
  memory : α
  disk : α
  deriving DecidableEq, Repr

def Resources.get {α : Type} (x : Resources α) : Resource → α
  | .cpu => x.cpu
  | .memory => x.memory
  | .disk => x.disk

def zero : Resources Nat := ⟨0, 0, 0⟩

@[simp] theorem zero_get (r : Resource) : zero.get r = 0 := by cases r <;> rfl

/-- A cell allocation object: the reservation of one allocation in one cell. -/
structure Reservation where
  partition : String
  rank : Nat
  amounts : Resources Nat
  deriving DecidableEq, Repr

/-- The body `rsrc` of a create or an update; `partition` and `rank` may be missing. -/
structure Rsrc where
  partition : Option String
  rank : Option Nat
  amounts : Resources Nat
  deriving DecidableEq, Repr

structure Store where
  partitions : AList fun _ : String × String => Resources Nat
  reservations : AList fun _ : String × String => Reservation

/-- What a request raises: `InvalidInputError` with its message, `KeyError` on a missing key of
`rsrc`, the store's refusal to create an existing object, and `NoSuchObjectResult`. -/
inductive Err where
  | invalidInput (message : String)
  | keyError (key : String)
  | alreadyExists
  | noSuchObject
  deriving DecidableEq, Repr

def getReservation (st : Store) (cell allocation : String) : Option Reservation :=
  st.reservations.lookup (cell, allocation)

/-- `_admin_partition().get([partition, cell])`, with the zero capacity `_partition_free`
pretends for a missing partition. -/
def partitionObject (st : Store) (partition cell : String) : Resources Nat :=
  (st.partitions.lookup (partition, cell)).getD zero

def inPartition (cell partition : String) (e : Σ _ : String × String, Reservation) : Bool :=
  e.1.1 == cell && e.2.partition == partition

def listReservations (st : Store) (cell partition : String) : List Reservation :=
  (st.reservations.entries.filter (inPartition cell partition)).map (·.2)

def createReservation (st : Store) (cell allocation : String) (r : Reservation) : Except Err Store :=
  if (cell, allocation) ∈ st.reservations then .error .alreadyExists
  else .ok { st with reservations := st.reservations.insert (cell, allocation) r }

def updateReservation (st : Store) (cell allocation : String) (rsrc : Rsrc) : Except Err Store :=
  match getReservation st cell allocation with
  | none => .error .noSuchObject
  | some r =>
    let new : Reservation := ⟨rsrc.partition.getD r.partition, rsrc.rank.getD r.rank, rsrc.amounts⟩
    .ok { st with reservations := st.reservations.insert (cell, allocation) new }

def rsrcPartition (rsrc : Rsrc) : Except Err String :=
  match rsrc.partition with
  | some partition => .ok partition
  | none => .error (.keyError "partition")

def subtractAlloc (free : Resources Int) (alloc : Reservation) : Resources Int :=
  ⟨free.cpu - alloc.amounts.cpu, free.memory - alloc.amounts.memory,
    free.disk - alloc.amounts.disk⟩

/-- The loop of `_partition_free`: the capacity less each reservation's amounts. -/
def freeOf (capacity : Resources Nat) (allocs : List Reservation) : Resources Int :=
  allocs.foldl subtractAlloc ⟨capacity.cpu, capacity.memory, capacity.disk⟩

def partitionFree (st : Store) (partition cell : String) : Resources Int :=
  freeOf (partitionObject st partition cell) (listReservations st cell partition)

/-- `old` as `_check_capacity` sets it: the reservation being replaced, when it is in the
requested partition, and zero otherwise. -/
def oldAmounts (st : Store) (cell allocation : String) (rsrc : Rsrc) : Except Err (Resources Nat) :=
  match getReservation st cell allocation with
  | some old => do
    let partition ← rsrcPartition rsrc
    pure (if old.partition ≠ partition then zero else old.amounts)
  | none => pure zero

def checkResource (free : Int) (old requested : Nat) (message : String) : Except Err Unit :=
  if free + old < requested then .error (.invalidInput message) else .ok ()

def checks (free : Resources Int) (old requested : Resources Nat) : Except Err Unit := do
  checkResource free.cpu old.cpu requested.cpu "Not enough cpu capacity in partition."
  checkResource free.memory old.memory requested.memory "Not enough memory capacity in partition."
  checkResource free.disk old.disk requested.disk "Not enough disk capacity in partition."

def checkCapacity (st : Store) (cell allocation : String) (rsrc : Rsrc) : Except Err Unit := do
  let old ← oldAmounts st cell allocation rsrc
  let partition ← rsrcPartition rsrc
  checks (partitionFree st partition cell) old rsrc.amounts

def create (st : Store) (cell allocation : String) (rsrc : Rsrc) : Except Err Store := do
  let partition := rsrc.partition.getD defaultPartition
  checkCapacity st cell allocation { rsrc with partition := some partition }
  createReservation st cell allocation ⟨partition, rsrc.rank.getD defaultRank, rsrc.amounts⟩

def update (st : Store) (cell allocation : String) (rsrc : Rsrc) : Except Err Store := do
  checkCapacity st cell allocation rsrc
  updateReservation st cell allocation rsrc

/-- What the entries of `cell` in `partition` take of `r`. -/
def usedIn (entries : List (Σ _ : String × String, Reservation)) (cell partition : String)
    (r : Resource) : Nat :=
  ((entries.filter (inPartition cell partition)).map (·.2.amounts.get r)).sum

/-- Every partition of every cell holds its reservations; a partition object that does not exist
holds none. -/
def WithinCapacity (st : Store) : Prop :=
  ∀ cell partition r,
    usedIn st.reservations.entries cell partition r ≤ (partitionObject st partition cell).get r

section Capacity

variable {cell partition : String} {r : Resource}

@[simp] theorem usedIn_nil : usedIn [] cell partition r = 0 := rfl

@[simp] theorem usedIn_cons (e : Σ _ : String × String, Reservation) (l) :
    usedIn (e :: l) cell partition r =
      (if inPartition cell partition e then e.2.amounts.get r else 0) + usedIn l cell partition r := by
  by_cases h : inPartition cell partition e <;> simp [usedIn, List.filter_cons, h]

@[simp] theorem usedIn_append (l l' : List (Σ _ : String × String, Reservation)) :
    usedIn (l ++ l') cell partition r = usedIn l cell partition r + usedIn l' cell partition r := by
  simp [usedIn, List.filter_append]

theorem usedIn_kerase (s : AList fun _ : String × String => Reservation) (key : String × String) :
    usedIn s.entries cell partition r =
      (match s.lookup key with
        | some v => if inPartition cell partition ⟨key, v⟩ then v.amounts.get r else 0
        | none => 0) + usedIn (s.entries.kerase key) cell partition r := by
  by_cases hk : key ∈ s.entries.keys
  · obtain ⟨b, l₁, l₂, -, he, hk'⟩ := List.exists_of_kerase hk
    have hl : s.lookup key = some b := AList.mem_lookup_iff.mpr (by rw [he]; simp)
    rw [hk', hl, he]
    simp only [usedIn_append, usedIn_cons]
    omega
  · have hl : s.lookup key = none := AList.lookup_eq_none.mpr hk
    rw [hl, List.kerase_of_not_mem_keys hk, Nat.zero_add]

theorem subtractAlloc_get (free : Resources Int) (alloc : Reservation) (r : Resource) :
    (subtractAlloc free alloc).get r = free.get r - alloc.amounts.get r := by
  cases r <;> rfl

theorem foldl_subtractAlloc_get (allocs : List Reservation) (init : Resources Int) (r : Resource) :
    (allocs.foldl subtractAlloc init).get r = init.get r - ((allocs.map (·.amounts.get r)).sum : Nat) := by
  induction allocs generalizing init with
  | nil => simp
  | cons a l ih =>
    rw [List.foldl_cons, ih, subtractAlloc_get, List.map_cons, List.sum_cons]
    push_cast
    omega

theorem partitionFree_get (st : Store) (partition cell : String) (r : Resource) :
    (partitionFree st partition cell).get r =
      (partitionObject st partition cell).get r - usedIn st.reservations.entries cell partition r := by
  rw [partitionFree, freeOf, foldl_subtractAlloc_get, listReservations, List.map_map]
  cases r <;> rfl

end Capacity

theorem bind_eq_ok {α β : Type} {x : Except Err α} {f : α → Except Err β} {b : β} :
    (x >>= f) = .ok b ↔ ∃ a, x = .ok a ∧ f a = .ok b := by
  cases x <;> simp [bind, Except.bind]

theorem checkResource_eq_ok {free : Int} {old requested : Nat} {message : String} {u : Unit} :
    checkResource free old requested message = .ok u ↔ (requested : Int) ≤ free + old := by
  unfold checkResource
  split <;> simp_all

theorem checks_eq_ok {free : Resources Int} {old requested : Resources Nat} :
    checks free old requested = .ok () ↔ ∀ r, (requested.get r : Int) ≤ free.get r + old.get r := by
  simp only [checks, bind_eq_ok, checkResource_eq_ok, exists_const]
  exact ⟨fun ⟨h1, h2, h3⟩ r => by cases r <;> assumption, fun h => ⟨h .cpu, h .memory, h .disk⟩⟩

theorem oldAmounts_get {st : Store} {cell allocation partition : String} {rsrc : Rsrc}
    {old : Resources Nat} (hp : rsrc.partition = some partition)
    (h : oldAmounts st cell allocation rsrc = .ok old) (r : Resource) :
    old.get r = match st.reservations.lookup (cell, allocation) with
      | some v => if inPartition cell partition ⟨(cell, allocation), v⟩ then v.amounts.get r else 0
      | none => 0 := by
  unfold oldAmounts getReservation at h
  cases hl : st.reservations.lookup (cell, allocation) with
  | none =>
    rw [hl] at h
    cases h
    simp
  | some v =>
    simp only [hl, rsrcPartition, hp, bind, Except.bind, pure, Except.pure, Except.ok.injEq] at h
    subst h
    by_cases hv : v.partition = partition <;> simp [inPartition, hv]

/-- A request `_check_capacity` admits fits in its partition beside the cell's other
reservations. -/
theorem checkCapacity_fits {st : Store} {cell allocation : String} {rsrc : Rsrc}
    (h : checkCapacity st cell allocation rsrc = .ok ()) :
    ∃ partition, rsrc.partition = some partition ∧ ∀ r,
      rsrc.amounts.get r + usedIn (st.reservations.entries.kerase (cell, allocation)) cell partition r ≤
        (partitionObject st partition cell).get r := by
  obtain ⟨old, hold, partition, hp, hc⟩ := by simpa only [checkCapacity, bind_eq_ok] using h
  have hp : rsrc.partition = some partition := by
    unfold rsrcPartition at hp
    split at hp <;> cases hp
    assumption
  refine ⟨partition, hp, fun r => ?_⟩
  have hfree := (checks_eq_ok.mp hc) r
  rw [partitionFree_get, usedIn_kerase st.reservations (cell, allocation),
    ← oldAmounts_get hp hold] at hfree
  omega

/-- Putting at `(cell, allocation)` a reservation that fits beside the others keeps every
partition within capacity. -/
theorem withinCapacity_insert {st : Store} {cell allocation : String} {new : Reservation}
    (h : WithinCapacity st)
    (hfit : ∀ r, new.amounts.get r + usedIn (st.reservations.entries.kerase (cell, allocation)) cell
      new.partition r ≤ (partitionObject st new.partition cell).get r) :
    WithinCapacity { st with reservations := st.reservations.insert (cell, allocation) new } := by
  intro c p r
  have hle := h c p r
  rw [usedIn_kerase st.reservations (cell, allocation)] at hle
  simp only [AList.insert_entries, usedIn_cons]
  split_ifs with hin
  · obtain ⟨rfl, rfl⟩ : cell = c ∧ new.partition = p := by simpa [inPartition] using hin
    exact hfit r
  · show _ ≤ (partitionObject st p c).get r
    omega

theorem create_withinCapacity {st st' : Store} {cell allocation : String} {rsrc : Rsrc}
    (h : WithinCapacity st) (hc : create st cell allocation rsrc = .ok st') : WithinCapacity st' := by
  obtain ⟨_, hcheck, hw⟩ := by simpa only [create, bind_eq_ok] using hc
  obtain ⟨partition, hp, hfit⟩ := checkCapacity_fits hcheck
  simp only [Option.some.injEq] at hp
  unfold createReservation at hw
  split at hw <;> cases hw
  exact withinCapacity_insert h (by rw [← hp] at hfit; exact hfit)

theorem update_withinCapacity {st st' : Store} {cell allocation : String} {rsrc : Rsrc}
    (h : WithinCapacity st) (hc : update st cell allocation rsrc = .ok st') : WithinCapacity st' := by
  obtain ⟨_, hcheck, hw⟩ := by simpa only [update, bind_eq_ok] using hc
  obtain ⟨partition, hp, hfit⟩ := checkCapacity_fits hcheck
  unfold updateReservation at hw
  split at hw <;> cases hw
  exact withinCapacity_insert h (by simpa [hp] using hfit)

end Treadmill.Allocation
