import Treadmill.Zksync.Engine
import Treadmill.Zksync.Triple

/-!
# One reconciliation pass
-/

namespace Treadmill.Zksync

def removedNames (children ls : List String) : List String := (sorted ls).filter (· ∉ children)

def commonNames (children ls : List String) : List String := (sorted children).filter (· ∈ ls)

def addedNames (children ls : List String) : List String := (sorted children).filter (· ∉ ls)

/-- The pass as the reconciliation law states it, over the listing `ls` of `fpath zkpath`. -/
def reconcile (zkpath : ZkPath) (children ls : List String) (watchData : Bool)
    (onAdd onDel : ZkPath → Sync Unit)
    (contWatchPredicate : Option (ZkPath → List String → Bool)) : Sync Bool := do
  (removedNames children ls).forM (delNode zkpath onDel)
  (if zkpath ∉ (← get).processedOnce then do
      modify fun s => { s with processedOnce := s.processedOnce.insert zkpath }
      (commonNames children ls).forM (addNode zkpath watchData onAdd)
    else pure ())
  (addedNames children ls).forM (addNode zkpath watchData onAdd)
  pure (contWatch contWatchPredicate zkpath (sorted children))

section Names

variable {children ls : List String} {n : String}

@[simp] theorem mem_removedNames : n ∈ removedNames children ls ↔ n ∈ ls ∧ n ∉ children := by
  simp [removedNames]

@[simp] theorem mem_commonNames : n ∈ commonNames children ls ↔ n ∈ children ∧ n ∈ ls := by
  simp [commonNames]

@[simp] theorem mem_addedNames : n ∈ addedNames children ls ↔ n ∈ children ∧ n ∉ ls := by
  simp [addedNames]

theorem filterChildrenActions_names (hc : children.Nodup) (hl : ls.Nodup) :
    filterChildrenActions (sorted children) (sorted ls) =
      ⟨addedNames children ls, removedNames children ls, commonNames children ls⟩ := by
  rw [filterChildrenActions_sorted hc hl]
  simp only [addedNames, removedNames, commonNames, mem_sorted]

end Names

/-- The code's pass is the pass of the law, over the listing it takes when it starts. -/
theorem childrenWatch_eq_reconcile (zkpath : ZkPath) {children : List String}
    (hc : children.Nodup) (watchData : Bool) (onAdd onDel : ZkPath → Sync Unit)
    (pred : Option (ZkPath → List String → Bool)) (s : World) :
    childrenWatch zkpath children watchData onAdd onDel pred s =
      reconcile zkpath children (glob s.files (fpath zkpath)) watchData onAdd onDel pred s := by
  simp only [childrenWatch, reconcile, bind_apply, get_apply,
    filterChildrenActions_names hc (glob_nodup _ _)]

/-- A callback that leaves `watches` and `processed_once` as they were. -/
def Frames {α : Type} (x : Sync α) : Prop :=
  ∀ s, (after (x s)).watches = s.watches ∧ (after (x s)).processedOnce = s.processedOnce

section Frames

variable {zkpath : ZkPath} {watchData : Bool} {onAdd onDel : ZkPath → Sync Unit} {s t : World}

theorem delNode_ok (hDel : ∀ z, Frames (onDel z)) {n : String} (h : delNode zkpath onDel n s = .ok () t) :
    t.watches = discard (joinZookeeperPath zkpath n) s.watches ∧ t.processedOnce = s.processedOnce := by
  have := hDel (joinZookeeperPath zkpath n)
    { s with watches := discard (joinZookeeperPath zkpath n) s.watches }
  simp only [delNode, bind_apply, modify_apply] at h
  simpa [h] using this

theorem addNode_ok (hAdd : ∀ z, Frames (onAdd z)) {n : String}
    (h : addNode zkpath watchData onAdd n s = .ok () t) :
    t.watches = (if watchData then s.watches.insert (joinZookeeperPath zkpath n) else s.watches) ∧
      t.processedOnce = s.processedOnce := by
  cases watchData with
  | false =>
    simp only [addNode, Bool.false_eq_true, if_false, bind_apply, pure_apply] at h
    simpa [h] using hAdd (joinZookeeperPath zkpath n) s
  | true =>
    have := hAdd (joinZookeeperPath zkpath n)
      { s with watches := s.watches.insert (joinZookeeperPath zkpath n) }
    simp only [addNode, bind_apply, modify_apply, if_true] at h
    simpa [h] using this

theorem delNodes_ok (hDel : ∀ z, Frames (onDel z)) :
    ∀ {l : List String} {s t : World}, l.forM (delNode zkpath onDel) s = .ok () t →
      (∀ z, z ∈ t.watches ↔ z ∈ s.watches ∧ ∀ n ∈ l, z ≠ joinZookeeperPath zkpath n) ∧
        t.processedOnce = s.processedOnce
  | [], s, t, h => by
    cases h
    simp
  | n :: l, s, t, h => by
    rw [List.forM_cons'] at h
    obtain ⟨_, u, h1, h⟩ := bind_apply_eq_ok.mp h
    obtain ⟨hw, hp⟩ := delNode_ok hDel h1
    obtain ⟨ihw, ihp⟩ := delNodes_ok hDel h
    refine ⟨fun z => ?_, ihp.trans hp⟩
    rw [ihw, hw, mem_discard]
    simp only [List.mem_cons, forall_eq_or_imp]
    tauto

theorem addNodes_ok (hAdd : ∀ z, Frames (onAdd z)) :
    ∀ {l : List String} {s t : World}, l.forM (addNode zkpath watchData onAdd) s = .ok () t →
      (∀ z, z ∈ t.watches ↔ z ∈ s.watches ∨ watchData ∧ ∃ n ∈ l, z = joinZookeeperPath zkpath n) ∧
        t.processedOnce = s.processedOnce
  | [], s, t, h => by
    cases h
    simp
  | n :: l, s, t, h => by
    rw [List.forM_cons'] at h
    obtain ⟨_, u, h1, h⟩ := bind_apply_eq_ok.mp h
    obtain ⟨hw, hp⟩ := addNode_ok hAdd h1
    obtain ⟨ihw, ihp⟩ := addNodes_ok hAdd h
    refine ⟨fun z => ?_, ihp.trans hp⟩
    rw [ihw, hw]
    cases watchData <;> simp only [if_true, List.mem_insert_iff, List.mem_cons, exists_eq_or_imp] <;> tauto

end Frames

theorem reconcile_ok {zkpath : ZkPath} {children ls : List String} {watchData : Bool}
    {onAdd onDel : ZkPath → Sync Unit} {pred : Option (ZkPath → List String → Bool)}
    (hAdd : ∀ z, Frames (onAdd z)) (hDel : ∀ z, Frames (onDel z)) {s t : World} {r : Bool}
    (h : reconcile zkpath children ls watchData onAdd onDel pred s = .ok r t) :
    t.processedOnce = s.processedOnce.insert zkpath ∧
      (∀ z, z ∈ t.watches ↔
        (z ∈ s.watches ∧ ∀ n ∈ removedNames children ls, z ≠ joinZookeeperPath zkpath n) ∨
          watchData ∧ ∃ n, (n ∈ addedNames children ls ∨
            zkpath ∉ s.processedOnce ∧ n ∈ commonNames children ls) ∧
            z = joinZookeeperPath zkpath n) ∧
      r = contWatch pred zkpath (sorted children) := by
  simp only [reconcile, bind_apply_eq_ok, get_apply, pure_apply, EStateM.Result.ok.injEq] at h
  obtain ⟨_, u, h1, _, _, ⟨rfl, rfl⟩, _, v, h2, _, _, h3, rfl, rfl⟩ := h
  obtain ⟨hw1, hp1⟩ := delNodes_ok hDel h1
  obtain ⟨hw3, hp3⟩ := addNodes_ok hAdd h3
  by_cases hp : zkpath ∈ u.processedOnce
  · simp only [hp, not_true_eq_false, if_false, pure_apply, EStateM.Result.ok.injEq] at h2
    obtain ⟨-, rfl⟩ := h2
    rw [hp1] at hp
    refine ⟨by rw [hp3, hp1, List.insert_of_mem hp], fun z => ?_, rfl⟩
    rw [hw3, hw1]
    simp only [hp, not_true_eq_false, false_and, or_false]
  · simp only [hp, not_false_eq_true, if_true, bind_apply_eq_ok, modify_apply,
      EStateM.Result.ok.injEq] at h2
    obtain ⟨_, _, ⟨-, rfl⟩, h2⟩ := h2
    obtain ⟨hw2, hp2⟩ := addNodes_ok hAdd h2
    rw [hp1] at hp
    refine ⟨by rw [hp3, hp2, hp1], fun z => ?_, rfl⟩
    rw [hw3, hw2, hw1]
    simp only [hp, not_false_eq_true, true_and]
    constructor
    · rintro ((h | ⟨hd, n, hn, rfl⟩) | ⟨hd, n, hn, rfl⟩)
      · exact .inl h
      · exact .inr ⟨hd, n, .inr hn, rfl⟩
      · exact .inr ⟨hd, n, .inl hn, rfl⟩
    · rintro (h | ⟨hd, n, hn | hn, rfl⟩)
      · exact .inl (.inl h)
      · exact .inr ⟨hd, n, hn, rfl⟩
      · exact .inl (.inr ⟨hd, n, hn, rfl⟩)

/-- The reconciliation-pass law. For children without duplicates, one pass over the listing
`ls` of `fpath zkpath` runs `reconcile`: `on_del` on each listed name that is not a child,
then, when the path was not processed before, `on_add` on each child that is listed, then
`on_add` on each child that is not listed, each list without repeats. With callbacks that
leave `watches` and `processed_once` alone, a pass that returns has added the path to
`processed_once`, taken the removed nodes out of `watches` and, with `watch_data`, put in
every node it called `on_add` on; and it returns the predicate's verdict on the sorted
children, or `True`. -/
theorem children_watch_law {zkpath : ZkPath} {children : List String} (hc : children.Nodup)
    (watchData : Bool) (onAdd onDel : ZkPath → Sync Unit)
    (pred : Option (ZkPath → List String → Bool))
    (hAdd : ∀ z, Frames (onAdd z)) (hDel : ∀ z, Frames (onDel z)) (s : World) :
    let ls := glob s.files (fpath zkpath)
    childrenWatch zkpath children watchData onAdd onDel pred s =
        reconcile zkpath children ls watchData onAdd onDel pred s ∧
      (removedNames children ls).Nodup ∧ (commonNames children ls).Nodup ∧
      (addedNames children ls).Nodup ∧
      ∀ r t, childrenWatch zkpath children watchData onAdd onDel pred s = .ok r t →
        t.processedOnce = s.processedOnce.insert zkpath ∧
        (∀ z, z ∈ t.watches ↔
          (z ∈ s.watches ∧ ∀ n ∈ removedNames children ls, z ≠ joinZookeeperPath zkpath n) ∨
            watchData ∧ ∃ n, (n ∈ addedNames children ls ∨
              zkpath ∉ s.processedOnce ∧ n ∈ commonNames children ls) ∧
              z = joinZookeeperPath zkpath n) ∧
        r = contWatch pred zkpath (sorted children) := by
  intro ls
  have heq := childrenWatch_eq_reconcile zkpath hc watchData onAdd onDel pred s
  refine ⟨heq, (sorted_nodup (glob_nodup _ _)).filter _, (sorted_nodup hc).filter _,
    (sorted_nodup hc).filter _, fun r t h => reconcile_ok hAdd hDel (heq ▸ h)⟩

namespace StaleMirror

/-- A mirror of `/` holding `b` and a stale `x`, which is watched. -/
def start : World :=
  { World.start ∅ ((∅ : Files).insert ["b"] (.file "" 0) |>.insert ["x"] (.file "" 0)) with
    watches := [["x"]] }

end StaleMirror

open StaleMirror in
/-- The law at the children `a` and `b` of `/` on a first pass over a mirror holding `b` and a
stale `x`, with callbacks that do nothing: `x` is removed, `a` is added and `b` is common; the
pass takes `x` out of `watches` and puts `a` and, this being the first pass, `b` in. -/
theorem children_watch_law_stale :
    ["a", "b"].Nodup ∧ (∀ z : ZkPath, Frames ((fun _ : ZkPath => (pure () : Sync Unit)) z)) ∧
      (let ls := glob start.files (fpath [])
      childrenWatch [] ["a", "b"] true (fun _ => pure ()) (fun _ => pure ()) none start =
          reconcile [] ["a", "b"] ls true (fun _ => pure ()) (fun _ => pure ()) none start ∧
        (removedNames ["a", "b"] ls).Nodup ∧ (commonNames ["a", "b"] ls).Nodup ∧
        (addedNames ["a", "b"] ls).Nodup ∧
        ∀ r t, childrenWatch [] ["a", "b"] true (fun _ => pure ()) (fun _ => pure ()) none start =
            .ok r t →
          t.processedOnce = start.processedOnce.insert [] ∧
          (∀ z, z ∈ t.watches ↔
            (z ∈ start.watches ∧ ∀ n ∈ removedNames ["a", "b"] ls, z ≠ joinZookeeperPath [] n) ∨
              true ∧ ∃ n, (n ∈ addedNames ["a", "b"] ls ∨
                [] ∉ start.processedOnce ∧ n ∈ commonNames ["a", "b"] ls) ∧
                z = joinZookeeperPath [] n) ∧
          r = contWatch none [] (sorted ["a", "b"])) ∧
      removedNames ["a", "b"] (glob start.files (fpath [])) = ["x"] ∧
      commonNames ["a", "b"] (glob start.files (fpath [])) = ["b"] ∧
      addedNames ["a", "b"] (glob start.files (fpath [])) = ["a"] ∧
      (after (childrenWatch [] ["a", "b"] true (fun _ => pure ()) (fun _ => pure ()) none
        start)).watches = [["a"], ["b"]] :=
  have hf : ∀ z : ZkPath, Frames ((fun _ : ZkPath => (pure () : Sync Unit)) z) :=
    fun _ _ => ⟨rfl, rfl⟩
  ⟨by decide, hf, children_watch_law (by decide) true _ _ none hf hf _, by decide, by decide,
    by decide, rfl⟩

end Treadmill.Zksync
