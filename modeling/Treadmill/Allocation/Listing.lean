import Treadmill.Allocation.Reservation

/-!
# Listing allocations with their reservations

`_reservation_list` groups the cell allocations under their allocations, listed in the order the
dict iterates them, which the model leaves open.
-/

namespace Treadmill.Allocation

structure CellAlloc where
  id : String
  deriving DecidableEq, Repr

/-- An allocation as `_reservation_list` reads it: its `_id`, and its `reservations` when it has
that key. -/
structure Alloc where
  id : String
  reservations : Option (List CellAlloc)
  deriving DecidableEq, Repr

/-- `d[k] = v` on a dict: a key that is there keeps its place, a new one goes last. -/
def dictSet {α : Type} (d : List (String × α)) (k : String) (v : α) : List (String × α) :=
  if d.any (·.1 = k) then d.map fun e => if e.1 = k then (k, v) else e else d ++ [(k, v)]

/-- The order a dict iterates its items in, as a function of the items in the order their keys
were inserted: any arrangement of them, as Python 2's hash order is. -/
structure DictOrder (α : Type) where
  arrange : List (String × α) → List (String × α)
  perm : ∀ d, (arrange d).Perm d

/-- `d.update(e)`: each entry of `e` set in `d` in turn. -/
def dictUpdate {α : Type} (d e : List (String × α)) : List (String × α) :=
  e.foldl (fun d kv => dictSet d kv.1 kv.2) d

section Dict

variable {α : Type} (d : List (String × α)) (k : String) (v : α)

theorem any_key_eq_true : d.any (·.1 = k) = true ↔ k ∈ d.map Prod.fst :=
  ⟨fun h => let ⟨p, hp, he⟩ := List.any_eq_true.mp h; List.mem_map.mpr ⟨p, hp, of_decide_eq_true he⟩,
    fun h => let ⟨p, hp, he⟩ := List.mem_map.mp h; List.any_eq_true.mpr ⟨p, hp, decide_eq_true he⟩⟩

theorem lookup_eq_none_of_not_mem (h : k ∉ d.map Prod.fst) : d.lookup k = none :=
  List.lookup_eq_none_iff.mpr fun p hp => bne_iff_ne.mpr fun e => h (List.mem_map.mpr ⟨p, hp, e.symm⟩)

theorem mem_dictSet {p : String × α} (h : p ∈ dictSet d k v) : p ∈ d ∨ p = (k, v) := by
  unfold dictSet at h
  split_ifs at h
  · obtain ⟨e, he, rfl⟩ := List.mem_map.mp h
    split_ifs <;> simp [he, *]
  · simpa using h

theorem lookup_cons_of_ne {k' a : String} {b : α} (h : k' ≠ a) :
    ((a, b) :: d).lookup k' = d.lookup k' := by
  simp [List.lookup_cons, beq_false_of_ne h]

theorem lookup_dictSet_self : (dictSet d k v).lookup k = some v := by
  unfold dictSet
  split_ifs with hk
  · induction d with
    | nil => cases hk
    | cons e d ih =>
      obtain ⟨a, b⟩ := e
      by_cases ha : a = k
      · simp [ha, List.lookup_cons_self]
      · simp only [List.any_cons, ha, decide_False, Bool.false_or] at hk
        simp [ha, lookup_cons_of_ne _ (Ne.symm ha), ih hk]
  · simp [List.lookup_append, lookup_eq_none_of_not_mem d k (hk ∘ (any_key_eq_true d k).mpr)]

theorem lookup_dictSet_of_ne {k' : String} (h : k' ≠ k) : (dictSet d k v).lookup k' = d.lookup k' := by
  unfold dictSet
  split_ifs with hk
  · clear hk
    induction d with
    | nil => rfl
    | cons e d ih =>
      obtain ⟨a, b⟩ := e
      by_cases ha : a = k
      · subst ha
        simp [lookup_cons_of_ne _ h, ih]
      · by_cases hka : k' = a
        · subst hka
          simp [ha, List.lookup_cons_self]
        · simp [ha, lookup_cons_of_ne _ hka, ih]
  · simp [List.lookup_append, lookup_cons_of_ne _ h]

theorem lookup_dictSet (k' : String) :
    (dictSet d k v).lookup k' = if k' = k then some v else d.lookup k' := by
  split_ifs with h
  · exact h ▸ lookup_dictSet_self d k v
  · exact lookup_dictSet_of_ne d k v h

theorem nodup_dictSet (h : (d.map Prod.fst).Nodup) : ((dictSet d k v).map Prod.fst).Nodup := by
  unfold dictSet
  split_ifs with hk
  · rwa [List.map_map, List.map_congr_left fun e _ => show (Prod.fst ∘ _) e = e.1 by
      simp only [Function.comp]; split_ifs <;> simp [*]]
  · rw [List.map_append]
    exact h.append (List.nodup_singleton k) (List.disjoint_singleton.mpr (hk ∘ (any_key_eq_true d k).mpr))

variable {d}

theorem nodup_dictUpdate (h : (d.map Prod.fst).Nodup) (e : List (String × α)) :
    ((dictUpdate d e).map Prod.fst).Nodup := by
  induction e generalizing d with
  | nil => exact h
  | cons kv e ih => exact ih (nodup_dictSet _ _ _ h)

/-- With the keys of `e` distinct, as a dict's are, `d.update(e)` has `e`'s value for each key
`e` has, and `d`'s for the others. -/
theorem lookup_dictUpdate {e : List (String × α)} (he : (e.map Prod.fst).Nodup) :
    (dictUpdate d e).lookup k = (e.lookup k).or (d.lookup k) := by
  induction e generalizing d with
  | nil => rfl
  | cons kv e ih =>
    rw [List.map_cons, List.nodup_cons] at he
    obtain ⟨k₀, v₀⟩ := kv
    rw [dictUpdate, List.foldl_cons, ← dictUpdate, ih he.2, lookup_dictSet]
    by_cases hk : k = k₀
    · subst hk
      simp [lookup_eq_none_of_not_mem e k he.1, List.lookup_cons_self]
    · simp [hk, lookup_cons_of_ne e hk]

end Dict

def splitSlash (s : String) : List String := (s.toList.splitOn '/').map String.mk

/-- `'/'.join(alloc['_id'].split('/')[:2])`. -/
def allocationName (cellAllocId : String) : String :=
  "/".intercalate ((splitSlash cellAllocId).take 2)

/-- `a['reservations'].append(alloc)` on the `defaultdict`, which makes the list when it has none. -/
def Alloc.push (a : Alloc) (alloc : CellAlloc) : Alloc :=
  { a with reservations := some (a.reservations.getD [] ++ [alloc]) }

/-- One turn of the loop: `name2alloc[name]['reservations'].append(alloc)`. -/
def appendReservation (name2alloc : List (String × Alloc)) (alloc : CellAlloc) :
    Except Err (List (String × Alloc)) :=
  match name2alloc.lookup (allocationName alloc.id) with
  | none => .error (.keyError (allocationName alloc.id))
  | some a => .ok (dictSet name2alloc (allocationName alloc.id) (a.push alloc))

def reservationList (order : DictOrder Alloc) (allocs : List Alloc) (cellAllocs : List CellAlloc) :
    Except Err (List Alloc) := do
  let name2alloc := allocs.foldl (fun d alloc => dictSet d alloc.id alloc) []
  let name2alloc ← cellAllocs.foldlM appendReservation name2alloc
  pure ((order.arrange name2alloc).map (·.2))

/-- An allocation with `cells` appended to its reservations. With no cell it is as it was: the
`defaultdict` makes the list only when one is appended. -/
def Alloc.extend (a : Alloc) (cells : List CellAlloc) : Alloc :=
  if cells = [] then a else { a with reservations := some (a.reservations.getD [] ++ cells) }

theorem Alloc.extend_nil (a : Alloc) : a.extend [] = a := if_pos rfl

theorem Alloc.extend_push (a : Alloc) (cells : List CellAlloc) (c : CellAlloc) :
    (a.extend cells).push c = a.extend (cells ++ [c]) := by
  by_cases h : cells = []
  · subst h
    simp [Alloc.extend, Alloc.push]
  · simp [Alloc.extend, Alloc.push, h]

theorem foldl_dictSet (allocs : List Alloc) (d : List (String × Alloc))
    (h : (d.map (·.1) ++ allocs.map (·.id)).Nodup) :
    allocs.foldl (fun d alloc => dictSet d alloc.id alloc) d = d ++ allocs.map fun a => (a.id, a) := by
  induction allocs generalizing d with
  | nil => simp
  | cons a allocs ih =>
    have hnew : a.id ∉ d.map (·.1) := fun hm => (List.nodup_append.mp h).2.2 hm (.head _)
    have hset : dictSet d a.id a = d ++ [(a.id, a)] := by
      rw [dictSet, if_neg (hnew ∘ (any_key_eq_true d a.id).mp)]
    rw [List.foldl_cons, hset, ih _ (by simpa using h)]
    simp

section Distinct

variable {allocs : List Alloc} (hids : (allocs.map (·.id)).Nodup)
include hids

theorem lookup_map_id (f : Alloc → Alloc) {a₀ : Alloc} (h : a₀ ∈ allocs) :
    (allocs.map fun a => (a.id, f a)).lookup a₀.id = some (f a₀) := by
  induction allocs with
  | nil => cases h
  | cons a allocs ih =>
    rw [List.map_cons, List.nodup_cons] at hids
    rcases List.mem_cons.mp h with rfl | h
    · simp
    · have hne : a₀.id ≠ a.id := fun he => hids.1 (he ▸ List.mem_map_of_mem _ h)
      rw [List.map_cons, List.lookup_cons, beq_false_of_ne hne]
      exact ih hids.2 h

theorem appendReservation_eq (f : Alloc → Alloc) (c : CellAlloc)
    (hc : allocationName c.id ∈ allocs.map (·.id)) :
    appendReservation (allocs.map fun a => (a.id, f a)) c = .ok (allocs.map fun a =>
      (a.id, if a.id = allocationName c.id then (f a).push c else f a)) := by
  obtain ⟨a₀, ha₀, hid⟩ := List.mem_map.mp hc
  have hany : (allocs.map fun a => (a.id, f a)).any (·.1 = allocationName c.id) = true :=
    List.any_eq_true.mpr ⟨(a₀.id, f a₀), List.mem_map_of_mem _ ha₀, by simpa using hid⟩
  rw [appendReservation, ← hid, lookup_map_id hids f ha₀, hid]
  simp only [dictSet, hany, if_true, List.map_map]
  refine congrArg _ (List.map_congr_left fun a ha => ?_)
  by_cases h : a.id = allocationName c.id
  · obtain rfl : a = a₀ := List.inj_on_of_nodup_map hids ha ha₀ (h.trans hid.symm)
    simp [h]
  · simp [h]

/-- The loop, from the dict after the cell allocations `pre`: it raises `KeyError` at the first
cell allocation whose allocation is not listed, and otherwise appends each to its allocation. -/
theorem foldlM_appendReservation (pre cellAllocs : List CellAlloc) :
    cellAllocs.foldlM appendReservation
        (allocs.map fun a => (a.id, a.extend (pre.filter (allocationName ·.id = a.id)))) =
      match cellAllocs.find? (fun c => allocationName c.id ∉ allocs.map (·.id)) with
      | some c => .error (.keyError (allocationName c.id))
      | none => .ok (allocs.map fun a =>
          (a.id, a.extend ((pre ++ cellAllocs).filter (allocationName ·.id = a.id)))) := by
  induction cellAllocs generalizing pre with
  | nil => simp; rfl
  | cons c cellAllocs ih =>
    rw [List.foldlM_cons]
    by_cases hc : allocationName c.id ∈ allocs.map (·.id)
    · rw [appendReservation_eq hids _ c hc, List.find?_cons_of_neg _ (by simpa using hc)]
      have hstep : (allocs.map fun a => (a.id, if a.id = allocationName c.id then
          (a.extend (pre.filter (allocationName ·.id = a.id))).push c
          else a.extend (pre.filter (allocationName ·.id = a.id)))) =
          allocs.map fun a => (a.id, a.extend ((pre ++ [c]).filter (allocationName ·.id = a.id))) := by
        refine List.map_congr_left fun a _ => ?_
        by_cases h : a.id = allocationName c.id
        · simp only [h, if_true, Alloc.extend_push, List.filter_append, List.filter_cons,
            decide_True, List.filter_nil]
        · simp only [h, if_false, List.filter_append, List.filter_cons, Ne.symm h, decide_False,
            Bool.false_eq_true, List.filter_nil, List.append_nil]
      simp only [bind, Except.bind, hstep, ih, List.append_assoc, List.singleton_append]
    · have hnone : (allocs.map fun a => (a.id, a.extend (pre.filter (allocationName ·.id = a.id)))).lookup
          (allocationName c.id) = none := by
        simpa using fun a ha he => hc (List.mem_map.mpr ⟨a, ha, by simpa using he.symm⟩)
      rw [List.find?_cons_of_pos _ (by simpa using hc)]
      simp only [appendReservation, hnone, bind, Except.bind]

/-- The dict the loop leaves, listed in its order. -/
theorem reservationList_eq (order : DictOrder Alloc) (cellAllocs : List CellAlloc) :
    reservationList order allocs cellAllocs =
      match cellAllocs.find? (fun c => allocationName c.id ∉ allocs.map (·.id)) with
      | some c => .error (.keyError (allocationName c.id))
      | none => .ok ((order.arrange (allocs.map fun a =>
          (a.id, a.extend (cellAllocs.filter (allocationName ·.id = a.id))))).map (·.2)) := by
  have hstart : allocs.foldl (fun d alloc => dictSet d alloc.id alloc) [] =
      allocs.map fun a => (a.id, a.extend (([] : List CellAlloc).filter (allocationName ·.id = a.id))) := by
    simpa [Alloc.extend_nil] using foldl_dictSet allocs [] (by simpa using hids)
  simp only [reservationList, hstart, foldlM_appendReservation hids, List.nil_append]
  split <;> rfl

/-- With the allocation ids distinct, `_reservation_list` raises `KeyError` for the first cell
allocation whose allocation is not listed; otherwise it lists the allocations, in the dict's order,
each with exactly the cell allocations named after it appended to its reservations, in their
order. -/
theorem reservation_list_groups (order : DictOrder Alloc) (cellAllocs : List CellAlloc) :
    match cellAllocs.find? (fun c => allocationName c.id ∉ allocs.map (·.id)) with
    | some c => reservationList order allocs cellAllocs = .error (.keyError (allocationName c.id))
    | none => ∃ l, reservationList order allocs cellAllocs = .ok l ∧
        l.Perm (allocs.map fun a => a.extend (cellAllocs.filter (allocationName ·.id = a.id))) := by
  rw [reservationList_eq hids]
  split
  · rfl
  · refine ⟨_, rfl, ((order.perm _).map _).trans ?_⟩
    rw [List.map_map]
    rfl

end Distinct

namespace Listed

def allocs : List Alloc := [⟨"t/a", none⟩, ⟨"t/b", some []⟩]

def cellAllocs : List CellAlloc := [⟨"t/a/c1"⟩, ⟨"t/b/c1"⟩, ⟨"t/a/c2"⟩]

/-- An order that iterates `t/b` before `t/a`, as a hash order may. -/
def hashOrder : DictOrder Alloc := ⟨List.reverse, List.reverse_perm⟩

end Listed

open Listed in
/-- With `t/b` iterated first, the list starts with it; each allocation gets its cell
allocations, in order. -/
theorem reservation_list_groups_tenant :
    (allocs.map (·.id)).Nodup ∧
      (match cellAllocs.find? (fun c => allocationName c.id ∉ allocs.map (·.id)) with
      | some c => reservationList hashOrder allocs cellAllocs = .error (.keyError (allocationName c.id))
      | none => ∃ l, reservationList hashOrder allocs cellAllocs = .ok l ∧
          l.Perm (allocs.map fun a => a.extend (cellAllocs.filter (allocationName ·.id = a.id)))) ∧
      reservationList hashOrder allocs cellAllocs =
        .ok [⟨"t/b", some [⟨"t/b/c1"⟩]⟩, ⟨"t/a", some [⟨"t/a/c1"⟩, ⟨"t/a/c2"⟩]⟩] :=
  ⟨by decide, reservation_list_groups (by decide) hashOrder cellAllocs, rfl⟩

end Treadmill.Allocation
