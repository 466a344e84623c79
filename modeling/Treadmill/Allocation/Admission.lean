import Treadmill.Allocation.Reservation

/-!
# Admission: what `_check_capacity` lets through

A request that names its partition is admitted exactly when it fits there beside the cell's
other reservations; `update` of a body without a partition raises `KeyError`.
-/

namespace Treadmill.Allocation

/-- The amounts fit in `partition` beside the other reservations of `cell`. -/
def Fits (st : Store) (cell allocation partition : String) (amounts : Resources Nat) : Prop :=
  ∀ r, amounts.get r + usedIn (st.reservations.entries.kerase (cell, allocation)) cell partition r ≤
    (partitionObject st partition cell).get r

/-- Every error `x` raises is an `InvalidInputError`. -/
def OnlyInvalid {α : Type} (x : Except Err α) : Prop :=
  ∀ e, x = .error e → ∃ message, e = .invalidInput message

theorem OnlyInvalid.bind {α β : Type} {x : Except Err α} {f : α → Except Err β}
    (hx : OnlyInvalid x) (hf : ∀ a, OnlyInvalid (f a)) : OnlyInvalid (x >>= f) := by
  intro e h
  cases hx' : x with
  | error e' =>
    rw [hx'] at h
    exact Except.error.inj h ▸ hx e' hx'
  | ok a =>
    rw [hx'] at h
    exact hf a e h

theorem checkResource_onlyInvalid (free : Int) (old requested : Nat) (message : String) :
    OnlyInvalid (checkResource free old requested message) := by
  intro e h
  unfold checkResource at h
  split at h <;> cases h
  exact ⟨message, rfl⟩

theorem checks_onlyInvalid (free : Resources Int) (old requested : Resources Nat) :
    OnlyInvalid (checks free old requested) :=
  (checkResource_onlyInvalid _ _ _ _).bind fun _ =>
    (checkResource_onlyInvalid _ _ _ _).bind fun _ => checkResource_onlyInvalid _ _ _ _

theorem oldAmounts_ok {st : Store} {cell allocation partition : String} {rsrc : Rsrc}
    (hp : rsrc.partition = some partition) : ∃ old, oldAmounts st cell allocation rsrc = .ok old := by
  unfold oldAmounts
  split
  · exact ⟨_, by simp only [rsrcPartition, hp]; rfl⟩
  · exact ⟨_, rfl⟩

theorem checkCapacity_eq_checks {st : Store} {cell allocation partition : String} {rsrc : Rsrc}
    {old : Resources Nat} (hp : rsrc.partition = some partition)
    (hold : oldAmounts st cell allocation rsrc = .ok old) :
    checkCapacity st cell allocation rsrc = checks (partitionFree st partition cell) old rsrc.amounts := by
  simp only [checkCapacity, hold, rsrcPartition, hp, bind, Except.bind]

/-- With its partition named, `_check_capacity` passes exactly when the request fits. -/
theorem checkCapacity_eq_ok_iff {st : Store} {cell allocation partition : String} {rsrc : Rsrc}
    (hp : rsrc.partition = some partition) :
    checkCapacity st cell allocation rsrc = .ok () ↔ Fits st cell allocation partition rsrc.amounts := by
  obtain ⟨old, hold⟩ := oldAmounts_ok hp
  rw [checkCapacity_eq_checks hp hold, checks_eq_ok]
  refine forall_congr' fun r => ?_
  rw [partitionFree_get, usedIn_kerase st.reservations (cell, allocation), oldAmounts_get hp hold r]
  omega

theorem checkCapacity_error {st : Store} {cell allocation partition : String} {rsrc : Rsrc}
    {e : Err} (hp : rsrc.partition = some partition) (h : checkCapacity st cell allocation rsrc = .error e) :
    ∃ message, e = .invalidInput message := by
  obtain ⟨old, hold⟩ := oldAmounts_ok hp
  exact checks_onlyInvalid _ _ _ e (by rwa [checkCapacity_eq_checks hp hold] at h)

namespace Resubmit

def reservation : Reservation := ⟨"p", 100, ⟨1, 0, 0⟩⟩

/-- Cell `c`, whose partition `p` has one cpu, taken by the reservation of allocation `a`. -/
def store : Store where
  partitions := (∅ : AList fun _ : String × String => Resources Nat).insert ("p", "c") ⟨1, 0, 0⟩
  reservations := (∅ : AList fun _ : String × String => Reservation).insert ("c", "a") reservation

end Resubmit

/-- A create of a reservation not in the store writes it when it fits in its partition, the
default one when the body names none, and otherwise raises `InvalidInputError`. -/
theorem create_admits {st : Store} {cell allocation : String} {rsrc : Rsrc}
    (hnew : (cell, allocation) ∉ st.reservations) :
    (Fits st cell allocation (rsrc.partition.getD defaultPartition) rsrc.amounts →
        create st cell allocation rsrc = .ok { st with
          reservations := st.reservations.insert (cell, allocation)
            ⟨rsrc.partition.getD defaultPartition, rsrc.rank.getD defaultRank, rsrc.amounts⟩ }) ∧
      (¬ Fits st cell allocation (rsrc.partition.getD defaultPartition) rsrc.amounts →
        ∃ message, create st cell allocation rsrc = .error (.invalidInput message)) := by
  have hiff : checkCapacity st cell allocation
      { rsrc with partition := some (rsrc.partition.getD defaultPartition) } = .ok () ↔ _ :=
    checkCapacity_eq_ok_iff rfl
  refine ⟨fun hfit => ?_, fun hfit => ?_⟩
  · simp only [create, hiff.mpr hfit, createReservation, hnew, bind, Except.bind, if_false]
  · cases hc : checkCapacity st cell allocation
        { rsrc with partition := some (rsrc.partition.getD defaultPartition) } with
    | error e =>
      obtain ⟨message, rfl⟩ := checkCapacity_error rfl hc
      exact ⟨message, by simp only [create, hc, bind, Except.bind]⟩
    | ok u => exact absurd (hiff.mp hc) hfit

open Resubmit in
theorem create_admits_resubmit :
    ("c", "b") ∉ store.reservations ∧
      (Fits store "c" "b" "p" ⟨1, 0, 0⟩ →
          create store "c" "b" ⟨some "p", none, ⟨1, 0, 0⟩⟩ = .ok { store with
            reservations := store.reservations.insert ("c", "b") ⟨"p", defaultRank, ⟨1, 0, 0⟩⟩ }) ∧
        (¬ Fits store "c" "b" "p" ⟨1, 0, 0⟩ →
          ∃ message, create store "c" "b" ⟨some "p", none, ⟨1, 0, 0⟩⟩ =
            .error (.invalidInput message)) :=
  ⟨by decide, @create_admits store "c" "b" ⟨some "p", none, ⟨1, 0, 0⟩⟩ (by decide)⟩

/-- An update of a reservation in the store whose body names its partition writes it when it
fits there, and otherwise raises `InvalidInputError`. -/
theorem update_admits {st : Store} {cell allocation partition : String} {rsrc : Rsrc}
    {old : Reservation} (hold : getReservation st cell allocation = some old)
    (hp : rsrc.partition = some partition) :
    (Fits st cell allocation partition rsrc.amounts →
        update st cell allocation rsrc = .ok { st with
          reservations := st.reservations.insert (cell, allocation)
            ⟨partition, rsrc.rank.getD old.rank, rsrc.amounts⟩ }) ∧
      (¬ Fits st cell allocation partition rsrc.amounts →
        ∃ message, update st cell allocation rsrc = .error (.invalidInput message)) := by
  refine ⟨fun hfit => ?_, fun hfit => ?_⟩
  · simp only [update, (checkCapacity_eq_ok_iff hp).mpr hfit, updateReservation, hold, hp,
      bind, Except.bind, Option.getD_some]
  · cases hc : checkCapacity st cell allocation rsrc with
    | error e =>
      obtain ⟨message, rfl⟩ := checkCapacity_error hp hc
      exact ⟨message, by simp only [update, hc, bind, Except.bind]⟩
    | ok u => exact absurd ((checkCapacity_eq_ok_iff hp).mp hc) hfit

open Resubmit in
theorem update_admits_resubmit :
    getReservation store "c" "a" = some reservation ∧
      (⟨some "p", none, ⟨0, 0, 0⟩⟩ : Rsrc).partition = some "p" ∧
      (Fits store "c" "a" "p" ⟨0, 0, 0⟩ →
          update store "c" "a" ⟨some "p", none, ⟨0, 0, 0⟩⟩ = .ok { store with
            reservations := store.reservations.insert ("c", "a") ⟨"p", reservation.rank, ⟨0, 0, 0⟩⟩ }) ∧
        (¬ Fits store "c" "a" "p" ⟨0, 0, 0⟩ →
          ∃ message, update store "c" "a" ⟨some "p", none, ⟨0, 0, 0⟩⟩ =
            .error (.invalidInput message)) :=
  ⟨rfl, rfl, @update_admits store "c" "a" "p" ⟨some "p", none, ⟨0, 0, 0⟩⟩ reservation rfl rfl⟩

open Resubmit in
/-- `update('a/c', {'cpu': '1', 'memory': '0', 'disk': '0'})`, which the create schema admits,
of a reservation that takes the same cpu: it fits in the reservation's partition, and the update
raises `KeyError` on `rsrc['partition']`. -/
theorem update_without_partition_raises_key_error :
    getReservation store "c" "a" = some reservation ∧ Fits store "c" "a" "p" ⟨1, 0, 0⟩ ∧
      update store "c" "a" ⟨none, none, ⟨1, 0, 0⟩⟩ = .error (.keyError "partition") :=
  ⟨rfl, fun r => by cases r <;> decide, rfl⟩

end Treadmill.Allocation
