import Mathlib.Data.Finset.Card
import Treadmill.Zksync.Io

/-!
# `Zk2Fs._filter_children_actions`: the sorted three-way merge
-/

namespace Treadmill.Zksync

/-- The three lists `_filter_children_actions` appends to. -/
structure Actions where
  add : List String
  remove : List String
  common : List String
  deriving DecidableEq, Repr

/-- The `while` loop of `_filter_children_actions`, one iteration per step of `fuel`. A
cursor past the end of its list reads as `None`. -/
def filterLoop (sortedChildren sortedFilenames : List String) :
    Nat → Nat → Nat → Actions → Actions
  | 0, _, _, acts => acts
  | fuel + 1, childIdx, fileIdx, acts =>
    match sortedChildren[childIdx]?, sortedFilenames[fileIdx]? with
    | none, none => acts
    | none, some fileName =>
      filterLoop sortedChildren sortedFilenames fuel childIdx (fileIdx + 1)
        { acts with remove := acts.remove ++ [fileName] }
    | some child, none =>
      filterLoop sortedChildren sortedFilenames fuel (childIdx + 1) fileIdx
        { acts with add := acts.add ++ [child] }
    | some child, some fileName =>
      if child = fileName then
        filterLoop sortedChildren sortedFilenames fuel (childIdx + 1) (fileIdx + 1)
          { acts with common := acts.common ++ [child] }
      else if child.toList < fileName.toList then
        filterLoop sortedChildren sortedFilenames fuel (childIdx + 1) fileIdx
          { acts with add := acts.add ++ [child] }
      else
        filterLoop sortedChildren sortedFilenames fuel childIdx (fileIdx + 1)
          { acts with remove := acts.remove ++ [fileName] }

/-- `_filter_children_actions(sorted_children, sorted_filenames, [], [], [])`. Each
iteration advances a cursor, so one unit of fuel per name lets the loop run out. -/
def filterChildrenActions (sortedChildren sortedFilenames : List String) : Actions :=
  filterLoop sortedChildren sortedFilenames (sortedChildren.length + sortedFilenames.length)
    0 0 ⟨[], [], []⟩

/-- The merge over what is left of each list. -/
def merge : List String → List String → Actions → Actions
  | [], [], acts => acts
  | [], f :: fs, acts => merge [] fs { acts with remove := acts.remove ++ [f] }
  | c :: cs, [], acts => merge cs [] { acts with add := acts.add ++ [c] }
  | c :: cs, f :: fs, acts =>
    if c = f then merge cs fs { acts with common := acts.common ++ [c] }
    else if c.toList < f.toList then merge cs (f :: fs) { acts with add := acts.add ++ [c] }
    else merge (c :: cs) fs { acts with remove := acts.remove ++ [f] }
termination_by cs fs => cs.length + fs.length

theorem getElem?_eq_none_iff_drop {l : List String} {i : Nat} : l[i]? = none ↔ l.drop i = [] := by
  simp [List.getElem?_eq_none_iff]

theorem drop_of_getElem? {l : List String} {i : Nat} {a : String} (h : l[i]? = some a) :
    l.drop i = a :: l.drop (i + 1) := by
  obtain ⟨hi, rfl⟩ := List.getElem?_eq_some_iff.mp h
  exact (List.getElem_cons_drop l i hi).symm

structure LoopState where
  childIdx : Nat
  fileIdx : Nat
  acts : Actions
  deriving DecidableEq, Repr

/-- One iteration of the loop: `none` when its condition
`child_idx < num_children or file_idx < num_filenames` fails. -/
def filterStep (sortedChildren sortedFilenames : List String) (st : LoopState) :
    Option LoopState :=
  match sortedChildren[st.childIdx]?, sortedFilenames[st.fileIdx]? with
  | none, none => none
  | none, some fileName =>
    some ⟨st.childIdx, st.fileIdx + 1, { st.acts with remove := st.acts.remove ++ [fileName] }⟩
  | some child, none =>
    some ⟨st.childIdx + 1, st.fileIdx, { st.acts with add := st.acts.add ++ [child] }⟩
  | some child, some fileName =>
    if child = fileName then
      some ⟨st.childIdx + 1, st.fileIdx + 1, { st.acts with common := st.acts.common ++ [child] }⟩
    else if child.toList < fileName.toList then
      some ⟨st.childIdx + 1, st.fileIdx, { st.acts with add := st.acts.add ++ [child] }⟩
    else
      some ⟨st.childIdx, st.fileIdx + 1, { st.acts with remove := st.acts.remove ++ [fileName] }⟩

/-- A loop with body `step` runs `n` iterations from `st` and stops at `t`. -/
inductive Iterations {σ : Type} (step : σ → Option σ) : σ → Nat → σ → Prop
  | done {st : σ} : step st = none → Iterations step st 0 st
  | next {st st' t : σ} {n : Nat} :
      step st = some st' → Iterations step st' n t → Iterations step st (n + 1) t

theorem Iterations.det {σ : Type} {step : σ → Option σ} {st t t' : σ} {n m : Nat}
    (h : Iterations step st n t) (h' : Iterations step st m t') : n = m ∧ t = t' := by
  induction h generalizing m with
  | done hs =>
    cases h' with
    | done _ => exact ⟨rfl, rfl⟩
    | next hs' _ => simp [hs] at hs'
  | next hs _ ih =>
    cases h' with
    | done hs' => simp [hs] at hs'
    | next hs' h' =>
      obtain rfl := Option.some.inj (hs.symm.trans hs')
      obtain ⟨rfl, rfl⟩ := ih h'
      exact ⟨rfl, rfl⟩

def Actions.size (acts : Actions) : Nat := acts.add.length + acts.remove.length + acts.common.length

section Loop

variable {xs ys : List String}

theorem filterLoop_succ (fuel i j : Nat) (acts : Actions) :
    filterLoop xs ys (fuel + 1) i j acts =
      match filterStep xs ys ⟨i, j, acts⟩ with
      | none => acts
      | some st => filterLoop xs ys fuel st.childIdx st.fileIdx st.acts := by
  simp only [filterLoop, filterStep]
  cases xs[i]? <;> cases ys[j]? <;> try rfl
  simp only
  split_ifs <;> rfl

theorem filterStep_none {st : LoopState} :
    filterStep xs ys st = none ↔ xs.drop st.childIdx = [] ∧ ys.drop st.fileIdx = [] := by
  rw [← getElem?_eq_none_iff_drop, ← getElem?_eq_none_iff_drop, filterStep]
  cases xs[st.childIdx]? <;> cases ys[st.fileIdx]? <;> simp
  split_ifs <;> simp

theorem filterStep_some {i j : Nat} {acts : Actions} {st : LoopState}
    (h : filterStep xs ys ⟨i, j, acts⟩ = some st) :
    xs.length - st.childIdx + (ys.length - st.fileIdx) < xs.length - i + (ys.length - j) ∧
      (i ≤ xs.length → st.childIdx ≤ xs.length) ∧ (j ≤ ys.length → st.fileIdx ≤ ys.length) ∧
      st.acts.size = acts.size + 1 ∧
      merge (xs.drop st.childIdx) (ys.drop st.fileIdx) st.acts = merge (xs.drop i) (ys.drop j) acts := by
  rw [filterStep] at h
  cases hx : xs[i]? with
  | none =>
    have hi : xs.length ≤ i := List.getElem?_eq_none_iff.mp hx
    cases hy : ys[j]? with
    | none => simp [hx, hy] at h
    | some f =>
      have hj := (List.getElem?_eq_some_iff.mp hy).1
      simp only [hx, hy, Option.some.injEq] at h
      subst h
      dsimp only
      refine ⟨by omega, id, fun _ => hj, by simp [Actions.size]; omega, ?_⟩
      rw [getElem?_eq_none_iff_drop.mp hx, drop_of_getElem? hy, merge]
  | some c =>
    have hi := (List.getElem?_eq_some_iff.mp hx).1
    cases hy : ys[j]? with
    | none =>
      have hj : ys.length ≤ j := List.getElem?_eq_none_iff.mp hy
      simp only [hx, hy, Option.some.injEq] at h
      subst h
      dsimp only
      refine ⟨by omega, fun _ => hi, id, by simp [Actions.size]; omega, ?_⟩
      rw [drop_of_getElem? hx, getElem?_eq_none_iff_drop.mp hy, merge]
    | some f =>
      have hj := (List.getElem?_eq_some_iff.mp hy).1
      simp only [hx, hy] at h
      rw [drop_of_getElem? hx, drop_of_getElem? hy, merge]
      split_ifs at h ⊢ <;> simp only [Option.some.injEq] at h <;> subst h <;> dsimp only <;>
        refine ⟨by omega, by omega, by omega, by simp [Actions.size]; omega, ?_⟩ <;>
        simp only [drop_of_getElem? hx, drop_of_getElem? hy]

end Loop

/-- The loop on cursors is the merge of the suffixes past them, given enough fuel. -/
theorem filterLoop_eq_merge (xs ys : List String) :
    ∀ fuel i j acts, xs.length - i + (ys.length - j) ≤ fuel →
      filterLoop xs ys fuel i j acts = merge (xs.drop i) (ys.drop j) acts := by
  intro fuel
  induction fuel with
  | zero =>
    intro i j acts h
    rw [List.drop_eq_nil_of_le (by omega), List.drop_eq_nil_of_le (by omega), merge]
    rfl
  | succ fuel ih =>
    intro i j acts h
    rw [filterLoop_succ]
    cases hs : filterStep xs ys ⟨i, j, acts⟩ with
    | none =>
      obtain ⟨hx, hy⟩ := filterStep_none.mp hs
      rw [hx, hy, merge]
    | some st =>
      have hst := filterStep_some hs
      dsimp only
      rw [ih _ _ _ (by omega), hst.2.2.2.2]

theorem filterChildrenActions_eq (xs ys : List String) :
    filterChildrenActions xs ys = merge xs ys ⟨[], [], []⟩ := by
  rw [filterChildrenActions, filterLoop_eq_merge xs ys _ 0 0 _ (by omega)]
  rfl

theorem filter_not_mem_cons {l xs : List String} {c : String} (h : ∀ y ∈ l, y ≠ c) :
    l.filter (· ∉ c :: xs) = l.filter (· ∉ xs) :=
  List.filter_congr fun y hy => by simp [h y hy]

theorem filter_mem_cons {l xs : List String} {c : String} (h : ∀ y ∈ l, y ≠ c) :
    l.filter (· ∈ c :: xs) = l.filter (· ∈ xs) :=
  List.filter_congr fun y hy => by simp [h y hy]

theorem filter_not_mem_cons_self (c : String) (l xs : List String) :
    (c :: l).filter (· ∉ c :: xs) = l.filter (· ∉ c :: xs) :=
  List.filter_cons_of_neg (by simp)

theorem filter_mem_cons_self (c : String) (l xs : List String) :
    (c :: l).filter (· ∈ c :: xs) = c :: l.filter (· ∈ c :: xs) :=
  List.filter_cons_of_pos (by simp)

theorem filter_not_mem_cons_of_not_mem {c : String} {l xs : List String} (h : c ∉ xs) :
    (c :: l).filter (· ∉ xs) = c :: l.filter (· ∉ xs) :=
  List.filter_cons_of_pos (by simp [h])

theorem filter_mem_cons_of_not_mem {c : String} {l xs : List String} (h : c ∉ xs) :
    (c :: l).filter (· ∈ xs) = l.filter (· ∈ xs) :=
  List.filter_cons_of_neg (by simp [h])

theorem ne_of_sorted_cons {c : String} {cs : List String} (h : (c :: cs).Sorted (· < ·)) :
    ∀ y ∈ cs, y ≠ c :=
  fun y hy => (List.rel_of_sorted_cons h y hy).ne'

theorem ne_of_lt_head {a b : String} {l : List String} (hl : (b :: l).Sorted (· < ·)) (h : a < b) :
    ∀ y ∈ b :: l, y ≠ a := fun y hy => by
  rcases List.mem_cons.mp hy with rfl | hy
  · exact h.ne'
  · exact (h.trans (List.rel_of_sorted_cons hl y hy)).ne'

theorem merge_eq {xs ys : List String} (hx : xs.Sorted (· < ·)) (hy : ys.Sorted (· < ·))
    (acts : Actions) :
    merge xs ys acts =
      ⟨acts.add ++ xs.filter (· ∉ ys), acts.remove ++ ys.filter (· ∉ xs),
        acts.common ++ xs.filter (· ∈ ys)⟩ := by
  induction xs, ys, acts using merge.induct with
  | case1 acts => simp [merge]
  | case2 f fs acts ih =>
    rw [merge, ih List.sorted_nil hy.of_cons]
    simp
  | case3 c cs acts ih =>
    rw [merge, ih hx.of_cons List.sorted_nil]
    simp
  | case4 cs f fs acts ih =>
    rw [merge, if_pos rfl, ih hx.of_cons hy.of_cons, filter_not_mem_cons_self,
      filter_not_mem_cons_self, filter_mem_cons_self, filter_not_mem_cons (ne_of_sorted_cons hx),
      filter_not_mem_cons (ne_of_sorted_cons hy), filter_mem_cons (ne_of_sorted_cons hx)]
    simp only [List.append_assoc, List.singleton_append]
  | case5 c cs f fs acts hcf hlt ih =>
    have hf := ne_of_lt_head hy (String.lt_iff_toList_lt.mpr hlt)
    have hc : c ∉ f :: fs := fun h => hf c h rfl
    rw [merge, if_neg hcf, if_pos hlt, ih hx.of_cons hy, filter_not_mem_cons_of_not_mem hc,
      filter_not_mem_cons hf, filter_mem_cons_of_not_mem hc]
    simp only [List.append_assoc, List.singleton_append]
  | case6 c cs f fs acts hcf hlt ih =>
    have hc := ne_of_lt_head hx
      (lt_of_le_of_ne (not_lt.mp (mt String.lt_iff_toList_lt.mp hlt)) (Ne.symm hcf))
    have hf : f ∉ c :: cs := fun h => hc f h rfl
    rw [merge, if_neg hcf, if_neg hlt, ih hx hy.of_cons, filter_not_mem_cons hc,
      filter_not_mem_cons_of_not_mem hf, filter_mem_cons hc]
    simp only [List.append_assoc, List.singleton_append]

theorem nameLe_iff {a b : String} : NameLe a b ↔ a ≤ b := String.le_iff_toList_le.symm

instance : IsTotal String NameLe := ⟨fun a b => (le_total a b).imp nameLe_iff.mpr nameLe_iff.mpr⟩

instance : IsTrans String NameLe :=
  ⟨fun _ _ _ hab hbc => nameLe_iff.mpr (le_trans (nameLe_iff.mp hab) (nameLe_iff.mp hbc))⟩

theorem sorted_perm (l : List String) : (sorted l).Perm l := List.perm_insertionSort _ _

@[simp] theorem mem_sorted {l : List String} {x : String} : x ∈ sorted l ↔ x ∈ l :=
  (sorted_perm l).mem_iff

theorem sorted_nodup {l : List String} (h : l.Nodup) : (sorted l).Nodup :=
  (sorted_perm l).nodup_iff.mpr h

theorem sorted_strict {l : List String} (h : l.Nodup) : (sorted l).Sorted (· < ·) :=
  List.Sorted.lt_of_le ((List.sorted_insertionSort NameLe l).imp nameLe_iff.mp) (sorted_nodup h)

theorem filterChildrenActions_sorted {cs ls : List String} (hcs : cs.Nodup) (hls : ls.Nodup) :
    filterChildrenActions (sorted cs) (sorted ls) =
      ⟨(sorted cs).filter (· ∉ sorted ls), (sorted ls).filter (· ∉ sorted cs),
        (sorted cs).filter (· ∈ sorted ls)⟩ := by
  rw [filterChildrenActions_eq, merge_eq (sorted_strict hcs) (sorted_strict hls)]
  rfl

section Loop

variable {xs ys : List String}

theorem filterStep_run (i j : Nat) (acts : Actions) (hi : i ≤ xs.length) (hj : j ≤ ys.length) :
    ∃ n, Iterations (filterStep xs ys) ⟨i, j, acts⟩ n
      ⟨xs.length, ys.length, merge (xs.drop i) (ys.drop j) acts⟩ :=
  match h : filterStep xs ys ⟨i, j, acts⟩ with
  | none => by
    obtain ⟨hx, hy⟩ := filterStep_none.mp h
    obtain rfl : i = xs.length := le_antisymm hi (List.drop_eq_nil_iff.mp hx)
    obtain rfl : j = ys.length := le_antisymm hj (List.drop_eq_nil_iff.mp hy)
    exact ⟨0, by rw [hx, hy, merge]; exact .done h⟩
  | some st => by
    have hs := filterStep_some h
    obtain ⟨n, hn⟩ := filterStep_run st.childIdx st.fileIdx st.acts (hs.2.1 hi) (hs.2.2.1 hj)
    exact ⟨n + 1, .next h (by rwa [hs.2.2.2.2] at hn)⟩
termination_by xs.length - i + (ys.length - j)
decreasing_by exact hs.1

theorem filterStep_iterations_size {st t : LoopState} {n : Nat}
    (h : Iterations (filterStep xs ys) st n t) : t.acts.size = st.acts.size + n := by
  induction h with
  | done _ => rfl
  | next hs _ ih => rw [ih, (filterStep_some hs).2.2.2.1]; omega

theorem filter_not_mem_append_filter_mem_perm (l m : List String) :
    (l.filter (· ∉ m) ++ l.filter (· ∈ m)).Perm l := by
  have h : l.filter (· ∈ m) = l.filter fun a => !decide (a ∉ m) :=
    List.filter_congr fun a _ => by simp
  rw [h]
  exact List.filter_append_perm _ _

theorem merge_size (hx : xs.Sorted (· < ·)) (hy : ys.Sorted (· < ·)) :
    (merge xs ys ⟨[], [], []⟩).size = (xs ++ ys).toFinset.card := by
  have hn : (xs ++ ys.filter (· ∉ xs)).Nodup :=
    List.nodup_append.mpr ⟨hx.nodup, hy.nodup.filter _, fun a _ hb => by simp_all⟩
  have he : (xs ++ ys).toFinset = (xs ++ ys.filter (· ∉ xs)).toFinset := by
    ext a
    simp only [List.mem_toFinset, List.mem_append, List.mem_filter, decide_eq_true_eq]
    tauto
  rw [merge_eq hx hy, he, List.toFinset_card_of_nodup hn, List.length_append,
    ← (filter_not_mem_append_filter_mem_perm xs ys).length_eq]
  simp only [Actions.size, List.nil_append, List.length_append]
  omega

end Loop

/-- On strictly increasing lists the loop of `_filter_children_actions` stops after one
iteration per distinct name, having split the names into three increasing, disjoint lists. -/
theorem filter_children_actions_correct {sortedChildren sortedFilenames : List String}
    (hc : sortedChildren.Sorted (· < ·)) (hf : sortedFilenames.Sorted (· < ·)) {acts : Actions}
    (hacts : filterChildrenActions sortedChildren sortedFilenames = acts) :
    (∀ n t, Iterations (filterStep sortedChildren sortedFilenames) ⟨0, 0, ⟨[], [], []⟩⟩ n t ↔
        n = (sortedChildren ++ sortedFilenames).toFinset.card ∧
          t = ⟨sortedChildren.length, sortedFilenames.length, acts⟩) ∧
      acts = ⟨sortedChildren.filter (· ∉ sortedFilenames),
        sortedFilenames.filter (· ∉ sortedChildren), sortedChildren.filter (· ∈ sortedFilenames)⟩ ∧
      acts.add.Sorted (· < ·) ∧ acts.remove.Sorted (· < ·) ∧ acts.common.Sorted (· < ·) ∧
      (acts.add ++ acts.common).Perm sortedChildren ∧
      (acts.remove ++ acts.common).Perm sortedFilenames ∧
      acts.add.Disjoint acts.remove ∧ acts.add.Disjoint acts.common ∧
      acts.remove.Disjoint acts.common := by
  subst hacts
  have heq : filterChildrenActions sortedChildren sortedFilenames = ⟨_, _, _⟩ :=
    (filterChildrenActions_eq _ _).trans (merge_eq hc hf _)
  obtain ⟨n, hrun⟩ := @filterStep_run sortedChildren sortedFilenames 0 0 ⟨[], [], []⟩
    (Nat.zero_le _) (Nat.zero_le _)
  rw [List.drop_zero, List.drop_zero, ← filterChildrenActions_eq] at hrun
  have hn : n = (sortedChildren ++ sortedFilenames).toFinset.card := by
    rw [← merge_size hc hf, ← filterChildrenActions_eq, filterStep_iterations_size hrun]
    exact (Nat.zero_add n).symm
  have hcommon : (sortedChildren.filter (· ∈ sortedFilenames)).Perm
      (sortedFilenames.filter (· ∈ sortedChildren)) :=
    (List.perm_ext_iff_of_nodup (hc.nodup.filter _) (hf.nodup.filter _)).mpr fun a => by
      simp only [List.mem_filter, decide_eq_true_eq, and_comm]
  refine ⟨fun m t => ⟨fun h => ?_, ?_⟩, heq, ?_⟩
  · obtain ⟨rfl, rfl⟩ := hrun.det h
    exact ⟨hn, rfl⟩
  · rintro ⟨rfl, rfl⟩
    exact hn ▸ hrun
  rw [heq]
  simp only [List.nil_append]
  refine ⟨hc.filter _, hf.filter _, hc.filter _, filter_not_mem_append_filter_mem_perm _ _,
    (hcommon.append_left _).trans (filter_not_mem_append_filter_mem_perm _ _), ?_, ?_, ?_⟩ <;>
  · intro a h1 h2
    simp only [List.mem_filter, decide_eq_true_eq] at h1 h2
    tauto

/-- The lists of the spec: remote `a, c, e` against local `b, c, d`. -/
theorem filter_children_actions_spec_lists :
    (["a", "c", "e"] : List String).Sorted (· < ·) ∧ (["b", "c", "d"] : List String).Sorted (· < ·) ∧
      ((∀ n t, Iterations (filterStep ["a", "c", "e"] ["b", "c", "d"]) ⟨0, 0, ⟨[], [], []⟩⟩ n t ↔
          n = (["a", "c", "e"] ++ ["b", "c", "d"]).toFinset.card ∧ t = ⟨3, 3, ⟨["a", "e"], ["b", "d"], ["c"]⟩⟩) ∧
        (⟨["a", "e"], ["b", "d"], ["c"]⟩ : Actions) = ⟨["a", "c", "e"].filter (· ∉ ["b", "c", "d"]),
          ["b", "c", "d"].filter (· ∉ ["a", "c", "e"]), ["a", "c", "e"].filter (· ∈ ["b", "c", "d"])⟩ ∧
        (["a", "e"] : List String).Sorted (· < ·) ∧ (["b", "d"] : List String).Sorted (· < ·) ∧
        (["c"] : List String).Sorted (· < ·) ∧
        (["a", "e"] ++ ["c"] : List String).Perm ["a", "c", "e"] ∧
        (["b", "d"] ++ ["c"] : List String).Perm ["b", "c", "d"] ∧
        (["a", "e"] : List String).Disjoint ["b", "d"] ∧ (["a", "e"] : List String).Disjoint ["c"] ∧
        (["b", "d"] : List String).Disjoint ["c"]) := by
  have hc : (["a", "c", "e"] : List String).Sorted (· < ·) := by
    simp only [List.sorted_cons, List.mem_cons, forall_eq_or_imp, String.lt_iff_toList_lt]
    decide
  have hf : (["b", "c", "d"] : List String).Sorted (· < ·) := by
    simp only [List.sorted_cons, List.mem_cons, forall_eq_or_imp, String.lt_iff_toList_lt]
    decide
  exact ⟨hc, hf, filter_children_actions_correct hc hf (by decide)⟩

end Treadmill.Zksync
