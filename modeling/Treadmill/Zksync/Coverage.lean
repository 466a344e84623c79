import Treadmill.Zksync.Callbacks

/-!
# Watch coverage

Every path in `Zk2Fs.watches` has a live `DataWatch`; the converse fails.
-/

namespace Treadmill.Zksync

/-- Every data watch is live: armed, or fired with its notification still queued. -/
def DataWatchesLive (s : World) : Prop :=
  ∀ w ∈ s.dataWatches, w.armed = true ∨ ∃ e, Notification.data w.id e ∈ s.queue

/-- The data watches have distinct identities, all below the next one. -/
def IdsFresh (s : World) : Prop :=
  (s.dataWatches.map (·.id)).Nodup ∧ ∀ w ∈ s.dataWatches, w.id < s.nextId

/-- Every path in `watches` other than `z` has a data watch. -/
def CoveredExcept (z : ZkPath) (s : World) : Prop :=
  ∀ y ∈ s.watches, y ≠ z → ∃ w ∈ s.dataWatches, w.path = y

/-- The invariant: live watches with fresh identities, and one on every path of `watches`. -/
structure Coverage (s : World) : Prop where
  live : DataWatchesLive s
  fresh : IdsFresh s
  covered : ∀ y ∈ s.watches, ∃ w ∈ s.dataWatches, w.path = y

/-- The invariant inside `on_add`, between putting `z` in `watches` and installing its watch. -/
structure CoverageExcept (z : ZkPath) (s : World) : Prop where
  live : DataWatchesLive s
  fresh : IdsFresh s
  covered : CoveredExcept z s

namespace Coverage

variable {s : World} {z : ZkPath}

theorem except (h : Coverage s) : CoverageExcept z s :=
  ⟨h.live, h.fresh, fun y hy _ => h.covered y hy⟩

theorem of_except (h : CoverageExcept z s) (hz : z ∉ s.watches) : Coverage s :=
  ⟨h.live, h.fresh, fun y hy => h.covered y hy fun e => hz (e ▸ hy)⟩

theorem discard (h : Coverage s) : Coverage { s with watches := discard z s.watches } :=
  ⟨h.live, h.fresh, fun y hy => h.covered y (mem_discard.mp hy).1⟩

theorem insert (h : Coverage s) : CoverageExcept z { s with watches := s.watches.insert z } :=
  ⟨h.live, h.fresh, fun y hy hne => h.covered y ((List.mem_insert_iff.mp hy).resolve_left hne)⟩

theorem of_data {t : World} (h : Coverage s) (hw : t.watches = s.watches)
    (hd : t.dataWatches = s.dataWatches) (hq : t.queue = s.queue) (hn : t.nextId = s.nextId) :
    Coverage t := by
  obtain ⟨hl, ⟨hu, hf⟩, hc⟩ := h
  exact ⟨by rw [DataWatchesLive, hd, hq]; exact hl, ⟨hd ▸ hu, by rw [hd, hn]; exact hf⟩,
    by rw [hw, hd]; exact hc⟩

end Coverage

section Methods

variable {z : ZkPath}

theorem logOnly_coverage {α : Type} {x : Sync α} (h : LogOnly x) : Keeps Coverage x :=
  h.keeps fun _ _ _ hs => hs.of_data rfl rfl rfl rfl

theorem dataWatch_coverage (data : Option String) (stat : Option Stat)
    (event : Option EventType) (D : List DataWatch) :
    Triple (fun t => Coverage t ∧ t.dataWatches = D) (dataWatch z data stat event)
      (fun renew t => (Coverage t ∧ t.dataWatches = D) ∧ renew = decide (z ∈ t.watches))
      (fun t => Coverage t ∧ t.dataWatches = D) := by
  have hlog : ∀ {α : Type} {x : Sync α}, LogOnly x →
      Keeps (fun t => Coverage t ∧ t.dataWatches = D) x :=
    fun h => h.keeps fun _ _ _ h => ⟨h.1.of_data rfl rfl rfl rfl, h.2⟩
  have hdrop : Keeps (fun t => Coverage t ∧ t.dataWatches = D)
      (do modify fun s => { s with watches := discard z s.watches }; rmSafe (fpath z)) :=
    .seq (.update fun _ h => ⟨h.1.discard, h.2⟩) fun _ => hlog (rmSafe_logOnly _)
  dsimp only [dataWatch]
  refine .seq (M := fun _ t => Coverage t ∧ t.dataWatches = D) ?_
    fun _ => .seq_read fun t => .ret fun u ⟨hu, e⟩ => ⟨hu, by rw [e]⟩
  exact .cond (fun _ => hdrop) fun _ => .cond (fun _ => hdrop) fun _ => hlog (writeStat_logOnly _ _ _)

theorem dataCallback_coverage (data : Option String) (stat : Option Stat)
    (event : Option EventType) (D : List DataWatch) :
    Triple (fun t => Coverage t ∧ t.dataWatches = D) (dataCallback z data stat event)
      (fun renew t => (Coverage t ∧ t.dataWatches = D) ∧ renew = decide (z ∈ t.watches))
      (fun t => Coverage t ∧ t.dataWatches = D) := by
  refine .handle (.seq (dataWatch_coverage data stat event D) fun renew => ?_)
    fun _ => .raise fun _ h => h
  refine .seq ?_ fun _ => .ret fun _ h => h
  exact (updateLast_logOnly.keeps (I := fun t => (Coverage t ∧ t.dataWatches = D) ∧
    renew = decide (z ∈ t.watches)) fun _ _ _ h => ⟨⟨h.1.1.of_data rfl rfl rfl rfl, h.1.2⟩, h.2⟩).post
      (fun _ _ h => h) fun _ h => h.1

theorem Coverage.stop {s : World} {id : Nat} (h : Coverage s)
    (hid : ∀ w ∈ s.dataWatches, w.id = id → w.path = z) (hz : z ∉ s.watches) :
    Coverage (stopDataWatch id s) := by
  obtain ⟨hl, ⟨hu, hf⟩, hc⟩ := h
  refine ⟨fun w hw => hl w (List.mem_filter.mp hw).1,
    ⟨hu.sublist ((List.filter_sublist _).map _), fun w hw => hf w (List.mem_filter.mp hw).1⟩,
    fun y hy => ?_⟩
  obtain ⟨w, hw, rfl⟩ := hc y hy
  refine ⟨w, List.mem_filter.mpr ⟨hw, ?_⟩, rfl⟩
  simpa using fun e => hz (hid w hw e ▸ hy)

theorem CoverageExcept.register {s : World} {id : Nat} (h : CoverageExcept z s)
    (hid : ∀ w ∈ s.dataWatches, w.id < id) (hn : id < s.nextId) :
    Coverage (registerDataWatch id z s) := by
  obtain ⟨hl, ⟨hu, hf⟩, hc⟩ := h
  refine ⟨fun w hw => ?_, ⟨?_, fun w hw => ?_⟩, fun y hy => ?_⟩
  · rcases List.mem_append.mp hw with hw | hw
    · exact hl w hw
    · simp only [List.mem_singleton] at hw
      exact .inl (by rw [hw])
  · simp only [registerDataWatch, List.map_append, List.map_cons, List.map_nil]
    exact hu.append (List.nodup_singleton _)
      (List.disjoint_singleton.mpr fun hm => by
        obtain ⟨w, hw, e⟩ := List.mem_map.mp hm
        exact (hid w hw).ne e)
  · rcases List.mem_append.mp hw with hw | hw
    · exact hf w hw
    · simp only [List.mem_singleton] at hw
      rw [hw]
      exact hn
  · by_cases hyz : y = z
    · exact ⟨⟨id, z, true⟩, List.mem_append_right _ (List.mem_singleton_self _), hyz.symm⟩
    · obtain ⟨w, hw, e⟩ := hc y hy hyz
      exact ⟨w, List.mem_append_left _ hw, e⟩

theorem dataCallback_stop_coverage (id : Nat) (data : Option String) (stat : Option Stat)
    (event : Option EventType) :
    Triple (fun t => Coverage t ∧ ∀ w ∈ t.dataWatches, w.id = id → w.path = z)
      (dataCallback z data stat event >>= fun renew =>
        if renew then pure () else modify (stopDataWatch id))
      (fun _ => Coverage) Coverage := by
  refine .mono (.of_forall (P := fun D t => (Coverage t ∧ t.dataWatches = D) ∧
      ∀ w ∈ D, w.id = id → w.path = z) fun D => ?_)
    (fun t ht => ⟨t.dataWatches, ⟨ht.1, rfl⟩, ht.2⟩) (fun _ _ h => h) fun _ h => h
  refine (Triple.seq (dataCallback_coverage data stat event D).const fun renew => ?_).post
    (fun _ _ h => h) fun _ h => h.1.1
  refine .cond (fun _ => .ret fun _ h => h.1.1.1) fun hr => .update fun t h => ?_
  obtain ⟨⟨⟨hc, hd⟩, e⟩, hid⟩ := h
  subst hd
  exact hc.stop hid (by simpa [e] using hr)

theorem installDataWatch_coverage :
    Triple (CoverageExcept z) (installDataWatch z) (fun _ => Coverage) Coverage := by
  dsimp only [installDataWatch]
  refine .seq (M := fun id t => CoverageExcept z t ∧ (∀ w ∈ t.dataWatches, w.id < id) ∧
      id < t.nextId) (fun s hs => ⟨⟨hs.1, ⟨hs.2.1, fun w hw => Nat.lt_succ_of_lt (hs.2.2 w hw)⟩,
        hs.3⟩, hs.2.2, Nat.lt_succ_self _⟩) fun id => ?_
  refine .seq (M := fun _ t => CoverageExcept z t ∧ (∀ w ∈ t.dataWatches, w.id < id) ∧
      id < t.nextId) (readNode_triple z fun _ _ h => ⟨⟨h.1.1, h.1.2, h.1.3⟩, h.2⟩)
    fun ⟨data, stat⟩ => ?_
  refine .seq (.update fun s hs => ⟨hs.1.register hs.2.1 hs.2.2, fun w hw e => ?_⟩)
    fun _ => dataCallback_stop_coverage id data stat none
  rcases List.mem_append.mp hw with hw | hw
  · exact absurd e (hs.2.1 w hw).ne
  · simp only [List.mem_singleton] at hw
    rw [hw]

theorem syncData_coverage :
    Triple (CoverageExcept z) (syncData z) (fun _ => Coverage) Coverage := by
  refine .seq_read fun t => .cond (fun _ => installDataWatch_coverage.pre (fun _ h => h.1)) fun hz => ?_
  refine (logOnly_coverage (.seq (zkGet_logOnly z) fun ⟨_, _⟩ =>
    .seq (writeStat_logOnly _ _ _) fun _ => updateLast_logOnly)).pre
      fun _ h => Coverage.of_except h.1 (h.2 ▸ hz)

theorem delNode_coverage (zkpath : ZkPath) (node : String) :
    Keeps Coverage (delNode zkpath defaultOnDel node) :=
  .seq (.update fun _ h => h.discard) fun _ => logOnly_coverage (rmSafe_logOnly _)

theorem addNode_coverage (zkpath : ZkPath) (watchData : Bool) (node : String) :
    Keeps Coverage (addNode zkpath watchData defaultOnAdd node) := by
  dsimp only [addNode]
  exact Triple.seq (M := fun _ => CoverageExcept (joinZookeeperPath zkpath node))
    (.cond (fun _ => .update fun _ h => h.insert) fun _ => .ret fun _ h => h.except)
    fun _ => syncData_coverage

theorem newWatchId_coverage : Keeps Coverage newWatchId := fun _ h =>
  ⟨h.live, ⟨h.fresh.1, fun w hw => Nat.lt_succ_of_lt (h.fresh.2 w hw)⟩, h.covered⟩

theorem childrenWatch_coverage (zkpath : ZkPath) (children : List String) (watchData : Bool)
    (pred : Option (ZkPath → List String → Bool)) :
    Keeps Coverage (childrenWatch zkpath children watchData defaultOnAdd defaultOnDel pred) := by
  dsimp only [childrenWatch]
  refine .seq_get fun _ => .seq (Keeps.loop fun _ _ => delNode_coverage _ _) fun _ =>
    .seq_get fun _ => .seq (.cond (fun _ => ?_) fun _ => .ret fun _ h => h) fun _ =>
      .seq (Keeps.loop fun _ _ => addNode_coverage _ _ _) fun _ => .ret fun _ h => h
  exact .seq (.update fun _ h => ⟨h.1, h.2, h.3⟩)
    fun _ => Keeps.loop fun _ _ => addNode_coverage _ _ _

theorem childrenCallback_coverage (zkpath : ZkPath) (watchData : Bool)
    (pred : Option (ZkPath → List String → Bool)) (children : List String) :
    Keeps Coverage (childrenCallback zkpath watchData pred children) :=
  .handle (.seq (childrenWatch_coverage _ _ _ _) fun _ =>
      .seq (logOnly_coverage updateLast_logOnly) fun _ => .ret fun _ h => h)
    fun _ => .raise fun _ h => h

theorem makeChildrenWatch_coverage (zkpath : ZkPath) (watchData : Bool)
    (pred : Option (ZkPath → List String → Bool)) :
    Keeps Coverage (makeChildrenWatch zkpath watchData pred) := by
  refine .seq (logOnly_coverage (listChildren_logOnly _)) fun x => ?_
  rcases x with _ | children
  · exact .ret fun _ h => h
  · exact .seq newWatchId_coverage fun _ => .seq (.update fun _ h => ⟨h.1, h.2, h.3⟩)
      fun _ => .seq (childrenCallback_coverage _ _ _ _) fun _ =>
        .cond (fun _ => .ret fun _ h => h) fun _ => .update fun _ h => ⟨h.1, h.2, h.3⟩

theorem syncChildren_coverage (zkpath : ZkPath) (watchData : Bool)
    (needWatchPredicate : Option (ZkPath → Bool))
    (contWatchPredicate : Option (ZkPath → List String → Bool)) :
    Keeps Coverage (syncChildren zkpath watchData needWatchPredicate contWatchPredicate) := by
  dsimp only [syncChildren]
  refine .seq (logOnly_coverage (mkdirSafe_logOnly _)) fun _ => .seq_get fun _ => ?_
  refine .cond (fun _ => .ret fun _ h => h) fun _ => .cond (fun _ => makeChildrenWatch_coverage _ _ _)
    fun _ => ?_
  refine .seq (.handle (logOnly_coverage (zkGetChildren_logOnly _)) fun e => ?_) fun _ =>
    .seq (childrenWatch_coverage _ _ _ _) fun _ =>
      .seq (.cond (fun _ => makeChildrenWatch_coverage _ _ _) fun _ => .ret fun _ h => h) fun _ =>
        .seq (logOnly_coverage updateLast_logOnly) fun _ =>
          .cond (fun _ => .ret fun _ h => h) fun _ => logOnly_coverage (touch_logOnly _)
  cases e <;> first | exact .ret fun _ h => h | exact .raise fun _ h => h

theorem markReady_coverage : Keeps Coverage markReady :=
  .seq (.update fun _ h => ⟨h.1, h.2, h.3⟩) fun _ => logOnly_coverage updateLast_logOnly

end Methods

/-- The invariant once a data notification of `id` is taken off the queue: a watch of `id` may
be disarmed with nothing queued for it. -/
structure CoveragePopped (id : Nat) (s : World) : Prop where
  live : ∀ w ∈ s.dataWatches, w.armed = true ∨ w.id = id ∨ ∃ e, Notification.data w.id e ∈ s.queue
  fresh : IdsFresh s
  covered : ∀ y ∈ s.watches, ∃ w ∈ s.dataWatches, w.path = y

theorem Coverage.pop_data {s : World} {id : Nat} {e : EventType} {q : List Notification}
    (h : Coverage s) (hq : s.queue = .data id e :: q) : CoveragePopped id { s with queue := q } := by
  refine ⟨fun w hw => ?_, h.fresh, h.covered⟩
  rcases h.live w hw with ha | ⟨e', he⟩
  · exact .inl ha
  · rw [hq, List.mem_cons] at he
    rcases he with he | he
    · exact .inr (.inl (Notification.data.inj he).1)
    · exact .inr (.inr ⟨e', he⟩)

theorem Coverage.pop_children {s : World} {id : Nat} {q : List Notification} (h : Coverage s)
    (hq : s.queue = .children id :: q) : Coverage { s with queue := q } := by
  refine ⟨fun w hw => ?_, h.fresh, h.covered⟩
  rcases h.live w hw with ha | ⟨e', he⟩
  · exact .inl ha
  · rw [hq, List.mem_cons] at he
    exact .inr ⟨e', he.resolve_left Notification.noConfusion⟩

theorem fresh_covered_of_setArmed {s t : World} (c : DataWatch → Prop) [DecidablePred c] (b : Bool)
    (hd : t.dataWatches = s.dataWatches.map fun w => if c w then { w with armed := b } else w)
    (hn : t.nextId = s.nextId) (hw : t.watches = s.watches) (h : IdsFresh s)
    (hc : ∀ y ∈ s.watches, ∃ w ∈ s.dataWatches, w.path = y) :
    IdsFresh t ∧ ∀ y ∈ t.watches, ∃ w ∈ t.dataWatches, w.path = y := by
  obtain ⟨hu, hf⟩ := h
  have hids : t.dataWatches.map (·.id) = s.dataWatches.map (·.id) := by
    rw [hd, List.map_map]
    exact List.map_congr_left fun w _ => by dsimp only [Function.comp]; split <;> rfl
  refine ⟨⟨hids ▸ hu, fun w' hw' => ?_⟩, fun y hy => ?_⟩
  · obtain ⟨w, hw, rfl⟩ := List.mem_map.mp (hd ▸ hw')
    rw [hn]
    split <;> exact hf w hw
  · obtain ⟨w, hw, rfl⟩ := hc y (hw ▸ hy)
    refine ⟨if c w then { w with armed := b } else w, hd ▸ List.mem_map_of_mem _ hw, ?_⟩
    split <;> rfl

theorem CoveragePopped.arm {s : World} {id : Nat} (h : CoveragePopped id s) :
    Coverage (armDataWatch id s) := by
  obtain ⟨hl, hu, hc⟩ := h
  obtain ⟨hu', hc'⟩ :=
    fresh_covered_of_setArmed (t := armDataWatch id s) (fun w => w.id = id) true rfl rfl rfl hu hc
  refine ⟨fun w' hw' => ?_, hu', hc'⟩
  obtain ⟨w, hw, rfl⟩ := List.mem_map.mp hw'
  by_cases e : w.id = id
  · simp [e]
  · simp only [e, if_false]
    exact (hl w hw).imp_right fun h => h.resolve_left e

theorem deliver_data_coverage (id : Nat) (event : EventType) :
    Triple (CoveragePopped id) (deliver (.data id event)) (fun _ => Coverage) Coverage := by
  rw [deliver]
  refine .seq_read fun t => ?_
  cases hf : t.dataWatches.find? (·.id == id) with
  | none =>
    refine .ret fun s ⟨h, e⟩ => ⟨fun w hw => ?_, h.fresh, h.covered⟩
    subst e
    have hne := List.find?_eq_none.mp hf w hw
    rcases h.live w hw with h' | h' | h'
    · exact .inl h'
    · exact absurd (by simpa using h') hne
    · exact .inr h'
  | some w =>
    obtain ⟨wid, path, armed⟩ := w
    have hid : wid = id := by simpa using List.find?_some hf
    have hmem := List.mem_of_find?_eq_some hf
    refine Triple.mono (P := fun s => CoveragePopped id s ∧ s.dataWatches = t.dataWatches) ?_
      (fun s h => ⟨h.1, h.2 ▸ rfl⟩) (fun _ _ h => h) fun _ h => h
    refine .seq (readNode_triple path fun _ _ h => ⟨⟨h.1.1, h.1.2, h.1.3⟩, h.2⟩)
      fun ⟨data, stat⟩ => ?_
    refine .seq (.update fun s h => ⟨h.1.arm, fun w' hw' e => ?_⟩)
      fun _ => dataCallback_stop_coverage id data stat (some event)
    obtain ⟨w, hw, rfl⟩ := List.mem_map.mp hw'
    have hw1 : w ∈ t.dataWatches := h.2 ▸ hw
    have heq : w = ⟨wid, path, armed⟩ :=
      List.inj_on_of_nodup_map (h.2 ▸ h.1.fresh.1) hw1 hmem (by
        rw [hid]; split at e <;> simpa using e)
    subst heq
    split <;> rfl

theorem deliver_children_coverage (id : Nat) :
    Keeps Coverage (deliver (.children id)) := by
  rw [deliver]
  refine .seq_get fun t => ?_
  cases t.childWatches.find? (·.id == id) with
  | none => exact .ret fun _ h => h
  | some w =>
    obtain ⟨_, path, watchData, pred, _⟩ := w
    refine .seq (logOnly_coverage (listChildren_logOnly _)) fun x => ?_
    rcases x with _ | children
    · exact .update fun _ h => ⟨h.1, h.2, h.3⟩
    · exact .seq (.update fun _ h => ⟨h.1, h.2, h.3⟩) fun _ =>
        .seq (childrenCallback_coverage _ _ _ _) fun _ =>
          .cond (fun _ => .ret fun _ h => h) fun _ => .update fun _ h => ⟨h.1, h.2, h.3⟩

theorem Coverage.settle {r : EStateM.Result Err World Unit} (h : Coverage (after r)) :
    Coverage (settle r) := by
  cases r with
  | ok _ s => exact h
  | error e s =>
    simp only [Zksync.settle]
    split
    · exact ⟨h.1, h.2, h.3⟩
    · exact h

theorem Coverage.fireData {s : World} {z : ZkPath} {event : EventType} (h : Coverage s) :
    Coverage (fireData z event s) := by
  obtain ⟨hl, hu, hc⟩ := h
  obtain ⟨hu', hc'⟩ := fresh_covered_of_setArmed (t := Zksync.fireData z event s)
    (fun w => w.path = z) false rfl rfl rfl hu hc
  refine ⟨fun w' hw' => ?_, hu', hc'⟩
  obtain ⟨w, hw, rfl⟩ := List.mem_map.mp hw'
  simp only [Zksync.fireData, List.mem_append, List.mem_map, List.mem_filter]
  by_cases hz : w.path = z
  · cases ha : w.armed
    · rcases hl w hw with h' | ⟨e, he⟩
      · rw [ha] at h'; cases h'
      · exact .inr ⟨e, .inl (by simpa [hz] using he)⟩
    · exact .inr ⟨event, .inr ⟨w, ⟨hw, by simp [hz, ha]⟩, by simp [hz]⟩⟩
  · simp only [hz, if_false]
    rcases hl w hw with h' | ⟨e, he⟩
    · exact .inl h'
    · exact .inr ⟨e, .inl he⟩

theorem Coverage.fireChildren {s : World} {z : ZkPath} (h : Coverage s) :
    Coverage (fireChildren z s) :=
  ⟨fun w hw => (h.live w hw).imp_right fun ⟨e, he⟩ => ⟨e, List.mem_append_left _ he⟩, h.fresh,
    h.covered⟩

theorem Coverage.remote {s : World} (h : Coverage s) (op : RemoteOp) : Coverage (op.apply s) := by
  cases op with
  | create z n => exact Coverage.fireChildren (Coverage.fireData ⟨h.1, h.2, h.3⟩)
  | delete z => exact Coverage.fireChildren (Coverage.fireChildren (Coverage.fireData ⟨h.1, h.2, h.3⟩))
  | setData z n => exact Coverage.fireData ⟨h.1, h.2, h.3⟩

theorem call_coverage (c : Call) : Keeps Coverage c.run := by
  cases c with
  | syncData z => exact syncData_coverage.pre (fun _ h => h.except)
  | syncChildren z w nw cw => exact syncChildren_coverage z w nw cw
  | markReady => exact markReady_coverage

theorem Coverage.step {s t : World} {l : Label} (h : Coverage s) (hst : Step s l t) : Coverage t := by
  cases hst with
  | call c _ => exact Coverage.settle ((call_coverage c).after h)
  | remote op _ => exact h.remote op
  | @deliver n q _ hq =>
    apply Coverage.settle
    cases n with
    | data id e => exact (deliver_data_coverage id e).after_post (h.pop_data hq)
    | children id => exact (deliver_children_coverage id).after (h.pop_children hq)
  | sessionLost => exact ⟨h.1, h.2, h.3⟩

theorem Coverage.run {s t : World} {steps : List (World × Label)} (h : Coverage s)
    (hr : Run s steps t) : Coverage t := by
  induction hr with
  | nil => exact h
  | snoc _ hst ih => exact ih.step hst

theorem Fresh.coverage {s : World} (h : Fresh s) : Coverage s :=
  ⟨fun w hw => by simp [h.dataWatches] at hw, ⟨by simp [h.dataWatches], fun w hw => by
    simp [h.dataWatches] at hw⟩, fun y hy => by simp [h.watches] at hy⟩

/-- Watch coverage, as the code has it: in every state a run of a new process reaches, every
path in `watches` has a live data watch, armed or fired with its notification queued. -/
theorem watched_paths_have_live_watches {s0 s : World} {steps : List (World × Label)}
    (h0 : Fresh s0) (hr : Run s0 steps s) :
    ∀ z ∈ s.watches, ∃ w ∈ s.dataWatches, w.path = z ∧
      (w.armed = true ∨ ∃ e, Notification.data w.id e ∈ s.queue) := by
  have h := h0.coverage.run hr
  intro z hz
  obtain ⟨w, hw, rfl⟩ := h.covered z hz
  exact ⟨w, hw, rfl, h.live w hw⟩

theorem watched_paths_have_live_watches_one_child :
    Fresh (World.start OneChild.nodes ∅) ∧
      Run (World.start OneChild.nodes ∅)
        [(World.start OneChild.nodes ∅, .call (.syncChildren ["p"] true none none))]
        OneChild.synced ∧
      ∀ z ∈ OneChild.synced.watches, ∃ w ∈ OneChild.synced.dataWatches, w.path = z ∧
        (w.armed = true ∨ ∃ e, Notification.data w.id e ∈ OneChild.synced.queue) :=
  have hr := Run.cons OneChild.sync_children_step (.nil _)
  ⟨World.start_fresh _ _, hr, watched_paths_have_live_watches (World.start_fresh _ _) hr⟩

namespace LazyCancel

open OneChild

def created : World :=
  { synced with
    nodes := synced.nodes.insert ["p", "d"] ⟨"d", ⟨2⟩⟩
    childWatches := [⟨0, ["p"], true, none, false⟩]
    queue := [.children 0] }

/-- `/p/c` is rewritten: its data watch fires behind the children notification. -/
def rewritten : World :=
  { created with
    nodes := created.nodes.insert ["p", "c"] ⟨"v2", ⟨3⟩⟩
    dataWatches := [⟨1, ["p", "c"], false⟩]
    queue := [.children 0, .data 1 .changed] }

def deleted : World := { rewritten with nodes := rewritten.nodes.erase ["p", "c"] }

/-- The children pass removes `/p/c` and adds `/p/d`. -/
def passed : World :=
  { deleted with
    dataWatches := [⟨1, ["p", "c"], false⟩, ⟨2, ["p", "d"], true⟩]
    childWatches := [⟨0, ["p"], true, none, true⟩]
    queue := [.data 1 .changed]
    nextId := 3
    fsLog := deleted.fsLog ++ [.unlink ["p", "c"], .create temp 0, .write temp "d", .chmod temp,
      .utime temp 2, .rename temp ["p", "d"]]
    reads := deleted.reads ++ [(["p", "d"], ⟨"d", ⟨2⟩⟩)]
    watches := [["p", "d"]] }

def recreated : World :=
  { passed with
    nodes := passed.nodes.insert ["p", "c"] ⟨"v3", ⟨4⟩⟩
    childWatches := [⟨0, ["p"], true, none, false⟩]
    queue := [.data 1 .changed, .children 0] }

/-- The stale notification rewrites `/p/c`'s mirror and stops its watch. -/
def stale : World :=
  { recreated with
    dataWatches := [⟨2, ["p", "d"], true⟩]
    queue := [.children 0]
    fsLog := recreated.fsLog ++ [.create temp 0, .write temp "v3", .chmod temp, .utime temp 4,
      .rename temp ["p", "c"]]
    reads := recreated.reads ++ [(["p", "c"], ⟨"v3", ⟨4⟩⟩)] }

/-- The next children pass finds `/p/c` in the listing and, `/p` being processed, skips it. -/
def settled : World :=
  { stale with
    childWatches := [⟨0, ["p"], true, none, true⟩]
    queue := [] }

def labels : List Label :=
  [.call (.syncChildren ["p"] true none none), .remote (.create ["p", "d"] ⟨"d", ⟨2⟩⟩),
    .remote (.setData ["p", "c"] ⟨"v2", ⟨3⟩⟩), .remote (.delete ["p", "c"]), .deliver,
    .remote (.create ["p", "c"] ⟨"v3", ⟨4⟩⟩), .deliver, .deliver]

theorem run_settled :
    Run (World.start nodes ∅)
      ([World.start nodes ∅, synced, created, rewritten, deleted, passed, recreated, stale].zip
        labels) settled :=
  .cons sync_children_step <| .cons (t := created) (exec_step rfl) <|
    .cons (t := rewritten) (exec_step rfl) <| .cons (t := deleted) (exec_step rfl) <|
      .cons (t := passed) (exec_step rfl) <| .cons (t := recreated) (exec_step rfl) <|
        .cons (t := stale) (exec_step rfl) <| .cons (t := settled) (exec_step rfl) <| .nil _

end LazyCancel

open LazyCancel in
/-- Watch coverage fails for mirror files: after the run above, `/p/c` exists, its mirror file
exists, no notification is pending, and `/p/c` is neither in `watches` nor under a data
watch. -/
theorem lazy_cancellation_leaves_file_unwatched :
    Run (World.start OneChild.nodes ∅)
        ([World.start OneChild.nodes ∅, OneChild.synced, created, rewritten, deleted, passed,
          recreated, stale].zip labels) settled ∧
      ["p", "c"] ∈ settled.nodes ∧ ["p", "c"] ∈ settled.files ∧ ["p", "c"] ∉ settled.watches ∧
      (∀ w ∈ settled.dataWatches, w.path ≠ ["p", "c"]) ∧ settled.queue = [] :=
  ⟨run_settled, by decide, by decide, by decide, by decide, rfl⟩

end Treadmill.Zksync
