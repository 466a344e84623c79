import Treadmill.Zksync.Done

/-!
# The `.modified` marker
-/

namespace Treadmill.Zksync

/-- The operations that change what a reader of the mirror sees at their path: a rename onto
it, an unlink. -/
def FsOp.changes : FsOp → Bool
  | .rename .. | .unlink _ => true
  | _ => false

/-- The operations the mirror makes on a path it mirrors: a rename onto it, its unlink, its
directory. -/
def FsOp.mirrors : FsOp → Bool
  | .rename .. | .unlink _ | .mkdir _ => true
  | _ => false

theorem BumpOp.changes {op : FsOp} (h : BumpOp op) : op.changes = false := by
  obtain ⟨m, rfl | rfl⟩ := h <;> rfl

/-- Every rename or unlink of `ops` is followed, later in `ops`, by a bump of `.modified`. -/
def Signalled (ops : List FsOp) : Prop :=
  ∀ pre op post, ops = pre ++ op :: post → op.changes → ∃ b ∈ post, BumpOp b

theorem signalled_of_quiet {ops : List FsOp} (h : ∀ op ∈ ops, op.changes = false) :
    Signalled ops := by
  intro pre op post e hc
  have : op ∈ ops := e ▸ List.mem_append_right _ (List.mem_cons_self _ _)
  simp [h op this] at hc

theorem Signalled.append {ops ops' : List FsOp} (h : Signalled ops)
    (h' : ∀ op ∈ ops', op.changes = false) : Signalled (ops ++ ops') := by
  intro pre op post e hc
  rcases List.append_eq_append_iff.mp e with ⟨a', -, e'⟩ | ⟨c', e1, e2⟩
  · have : op ∈ ops' := e' ▸ List.mem_append_right _ (List.mem_cons_self _ _)
    simp [h' op this] at hc
  · cases c' with
    | nil =>
      have : op ∈ ops' := by simp at e2; exact e2 ▸ List.mem_cons_self _ _
      simp [h' op this] at hc
    | cons x c'' =>
      obtain ⟨rfl, rfl⟩ := List.cons.inj e2
      obtain ⟨b, hb, hB⟩ := h pre op c'' e1 hc
      exact ⟨b, List.mem_append_left _ hb, hB⟩

theorem signalled_bump (ops : List FsOp) {b : FsOp} (hb : BumpOp b) : Signalled (ops ++ [b]) := by
  intro pre op post e hc
  have hmem : b ∈ op :: post := by
    have := congrArg List.getLast? e
    simp only [List.getLast?_append, List.getLast?_singleton] at this
    exact List.mem_of_getLast?_eq_some this.symm
  rcases List.mem_cons.mp hmem with rfl | h
  · simp [hb.changes] at hc
  · exact ⟨b, h, hb⟩

/-- Since the log `L`, the engine appended only operations satisfying `G`. -/
def LogSince (L : List FsOp) (G : FsOp → Prop) (s : World) : Prop :=
  ∃ ops, s.fsLog = L ++ ops ∧ ∀ op ∈ ops, G op

theorem LogSince.append {L : List FsOp} {G : FsOp → Prop} {s : World} {o : List FsOp}
    {r : List (ZkPath × ZNode)} (h : LogSince L G s) (h' : ∀ op ∈ o, G op) :
    LogSince L G { s with fsLog := s.fsLog ++ o, reads := s.reads ++ r } := by
  obtain ⟨ops, e, hg⟩ := h
  exact ⟨ops ++ o, by rw [e, List.append_assoc],
    fun op hop => (List.mem_append.mp hop).elim (hg op) (h' op)⟩

theorem LogSince.settle {L : List FsOp} {G : FsOp → Prop} {r : EStateM.Result Err World Unit}
    (h : LogSince L G (after r)) : LogSince L G (settle r) := by
  cases r with
  | ok _ s => exact h
  | error e s =>
    simp only [Zksync.settle]
    split
    · exact h
    · exact h

/-- The ready flag stays at `r` and the log grows by operations of `G`, in every method, when
`write_data` and `rm_safe` write only `G` and `_update_last` keeps it. -/
theorem closedAll_logSince {L : List FsOp} {G : FsOp → Prop} {r : Bool}
    (hw : ∀ z op, WriteOp (fpath z) op → G op) (hu : ∀ z, G (.unlink (fpath z)))
    (hb : Keeps (fun s => s.ready = r ∧ LogSince L G s) updateLast) :
    ClosedAll fun s => s.ready = r ∧ LogSince L G s where
  watches _ _ h := h
  processedOnce _ _ h := h
  dataWatches _ _ h := h
  nextId _ _ h := h
  read s _ _ _ h := ⟨h.1, by simpa using h.2.append (o := []) (r := [_]) (by simp)⟩
  writeData z _ _ := ((writeData_footprint _ _ _ _).keeps fun _ _ _ h hg =>
    ⟨h.1, h.2.append fun op hop => hw z op (hg op hop)⟩).pre (fun _ h => h.1)
  rmSafe z := (rmSafe_footprint _).keeps fun _ _ _ h hg =>
    ⟨h.1, h.2.append fun op hop => hg op hop ▸ hu z⟩
  updateLast := hb
  registerChildren _ _ _ _ _ h := h
  armChildren _ _ h := h
  stopChildren _ _ h := h

/-- An operation on `.modified` is the mirror's own. -/
def OnMarker (op : FsOp) : Prop := op.path = modifiedFile → op.mirrors

theorem closedAll_before (L : List FsOp) :
    ClosedAll fun s => s.ready = false ∧ LogSince L OnMarker s :=
  closedAll_logSince
    (fun z op hop hm => by
      rcases hop with ⟨ht, -⟩ | ⟨temp, -, rfl⟩
      · exact absurd (hm ▸ ht) not_isTemp_modifiedFile
      · rfl)
    (fun _ _ => rfl)
    fun s h => by
      rw [show updateLast s = .ok () s by simp [updateLast, h.1]]
      exact h

/-- A step before `mark_ready` that is not `mark_ready` touches and stamps no `.modified`: every
operation it makes on the marker is a mirror's rename, unlink or directory. -/
theorem step_before {t u : World} {l : Label} (h : Step t l u) (hr : t.ready = false)
    (hl : l ≠ .call .markReady) : LogSince t.fsLog OnMarker u := by
  have hI := closedAll_before t.fsLog
  have h0 : ∀ {s : World}, s.ready = false → s.fsLog = t.fsLog →
      s.ready = false ∧ LogSince t.fsLog OnMarker s :=
    fun hs e => ⟨hs, [], by simp [e], by simp⟩
  cases h with
  | call c _ =>
    apply LogSince.settle
    cases c with
    | syncData z => exact ((hI.toDataClosed.syncData z).after (h0 hr rfl)).2
    | syncChildren q w nw cw =>
      refine ((hI.syncChildrenWith hI.keeps_defaultOnAdd hI.keeps_defaultOnDel (fun _ => ?_)
        (fun _ => ?_) q w nw cw).after (h0 hr rfl)).2
      · exact (mkdirSafe_footprint _).keeps fun _ _ _ h hg =>
          ⟨h.1, h.2.append fun op hop _ => by rw [hg op hop]; rfl⟩
      · exact (touch_footprint _).keeps fun _ _ _ h hg =>
          ⟨h.1, h.2.append fun op hop hm => by
            obtain ⟨_, rfl⟩ := hg op hop
            exact absurd hm.symm (modifiedFile_ne_doneFile _)⟩
    | markReady => exact (hl rfl).elim
  | remote op _ => exact ⟨[], by cases op <;> simp [RemoteOp.apply, fireChildren, fireData], by simp⟩
  | @deliver _ q _ _ =>
    exact LogSince.settle ((hI.deliver _).after (h0 (s := { t with queue := q }) hr rfl)).2
  | sessionLost => exact ⟨[], by simp, by simp⟩

/-- A computation that keeps the engine ready and only adds filesystem operations: what the
readiness results ask of the callbacks a caller gives `sync_children`. -/
def Grows {α : Type} (x : Sync α) : Prop :=
  ∀ L, Keeps (fun s => s.ready = true ∧ LogSince L (fun _ => True) s) x

theorem Footprint.grows {α : Type} {G : FsOp → Prop} {x : Sync α} (h : Footprint G x) : Grows x :=
  fun _ => h.keeps fun _ _ _ h _ => ⟨h.1, h.2.append fun _ _ => trivial⟩

section Ready

variable (L : List FsOp)

/-- Since the log `L`, with the engine ready, every change is followed by a bump. -/
def SignalledSince (s : World) : Prop := s.ready = true ∧ ∃ ops, s.fsLog = L ++ ops ∧ Signalled ops

theorem closedAll_grown : ClosedAll fun s => s.ready = true ∧ LogSince L (fun _ => True) s :=
  closedAll_logSince (fun _ _ _ => trivial) (fun _ => trivial) (updateLast_footprint.grows L)

theorem SignalledSince.grown {s : World} (h : SignalledSince L s) :
    s.ready = true ∧ LogSince L (fun _ => True) s :=
  ⟨h.1, let ⟨ops, e, _⟩ := h.2; ⟨ops, e, fun _ _ => trivial⟩⟩

theorem quiet_keeps {α : Type} {x : Sync α} {G : FsOp → Prop} (h : Footprint G x)
    (hq : ∀ op, G op → op.changes = false) : Keeps (SignalledSince L) x :=
  h.keeps fun _ _ _ ⟨hr, ops, e, hs⟩ hg =>
    ⟨hr, ops ++ _, by rw [e, List.append_assoc], hs.append fun op hop => hq op (hg op hop)⟩

theorem updateLast_bumps :
    Triple (fun s => s.ready = true ∧ LogSince L (fun _ => True) s) updateLast
      (fun _ => SignalledSince L) fun _ => True := by
  refine .seq_read fun _ => .cond (fun _ => ?_) fun h _ hs => (h (hs.2 ▸ hs.1.1)).elim
  refine .seq ((((touch_footprint _).keeps (I := fun s => s.ready = true ∧
    LogSince L (fun _ => True) s) fun _ _ _ h _ => ⟨h.1, h.2.append fun _ _ => trivial⟩).mono
      (fun _ h => h.1) (fun _ _ h => h) fun _ _ => trivial)) fun _ => .seq_read fun t => ?_
  rintro s ⟨⟨hr, ops, e, -⟩, -⟩
  by_cases hm : modifiedFile ∈ s.files
  · cases hf : s.fault s.fsLog.length with
    | none =>
      simp only [osUtime, fsCall, hm, if_true, hf]
      exact ⟨hr, ops ++ [.utime modifiedFile t.now], by simp [World.perform, e],
        signalled_bump _ ⟨_, .inr rfl⟩⟩
    | some _ => simp [osUtime, fsCall, hm, hf]
  · simp [osUtime, hm]

theorem dataCallback_signals (zkpath : ZkPath) (data : Option String) (stat : Option Stat)
    (event : Option EventType) :
    Triple (fun s => (s.ready = true ∧ LogSince L (fun _ => True) s) ∧ ReadOk zkpath data stat s)
      (dataCallback zkpath data stat event) (fun _ => SignalledSince L) fun _ => True :=
  .handle (.seq (((closedAll_grown L).toDataClosed.dataWatch zkpath data stat event).post
      (fun _ _ h => h) fun _ _ => trivial) fun _ =>
      .seq (updateLast_bumps L) fun _ => .ret fun _ h => h)
    fun _ => .raise fun _ _ => trivial

theorem installDataWatch_signals (zkpath : ZkPath) :
    Triple (fun s => s.ready = true ∧ LogSince L (fun _ => True) s) (installDataWatch zkpath)
      (fun _ => SignalledSince L) fun _ => True := by
  have hG := (closedAll_grown L).toDataClosed
  dsimp only [installDataWatch]
  refine Triple.seq ((newWatchId_keeps hG.nextId).post (fun _ _ h => h)
    fun _ _ => trivial) fun id => Triple.seq ((hG.readNode zkpath).post
      (fun _ _ h => h) fun _ _ => trivial) fun ⟨data, stat⟩ => ?_
  exact .seq (M := fun _ s => (s.ready = true ∧ LogSince L (fun _ => True) s) ∧
      ReadOk zkpath data stat s) (.update fun _ h => h) fun _ =>
    .seq (dataCallback_signals L zkpath data stat none) fun _ =>
      .cond (fun _ => .ret fun _ h => h) fun _ => .update fun _ h => h

theorem syncData_signals (zkpath : ZkPath) :
    Triple (fun s => s.ready = true ∧ LogSince L (fun _ => True) s) (syncData zkpath)
      (fun _ => SignalledSince L) fun _ => True := by
  have hG := (closedAll_grown L).toDataClosed
  refine .seq_get fun _ => .cond (fun _ => installDataWatch_signals L zkpath) fun _ => ?_
  refine .seq ((hG.zkGet zkpath).post (fun _ _ h => h) fun _ _ => trivial)
    fun ⟨d, st⟩ => .seq ?_ fun _ => updateLast_bumps L
  exact (hG.writeStat zkpath (some d) (some st)).mono
    (fun s h => ⟨h.1, fun _ e => ⟨d, rfl, by cases e; exact h.2⟩⟩) (fun _ _ h => h) fun _ _ => trivial

end Ready

section Callbacks

variable (L : List FsOp) {onAdd onDel : ZkPath → Sync Unit} (hAdd : ∀ z, Grows (onAdd z))
  (hDel : ∀ z, Grows (onDel z))
include hAdd hDel

theorem childrenCallbackWith_signals (zkpath : ZkPath) (watchData : Bool)
    (pred : Option (ZkPath → List String → Bool)) (children : List String) :
    Triple (fun s => s.ready = true ∧ LogSince L (fun _ => True) s)
      (childrenCallbackWith zkpath watchData onAdd onDel pred children) (fun _ => SignalledSince L)
      fun _ => True :=
  .handle (.seq (((closedAll_grown L).childrenWatchWith (fun z => hAdd z L) (fun z => hDel z L)
      _ _ _ _).post (fun _ _ h => h.1) fun _ _ => trivial) fun _ =>
      .seq (updateLast_bumps L) fun _ => .ret fun _ h => h)
    fun _ => .raise fun _ _ => trivial

theorem childrenCallbackWith_stop_signals (zkpath : ZkPath) (watchData : Bool)
    (pred : Option (ZkPath → List String → Bool)) (children : List String) (id : Nat) :
    Triple (fun s => s.ready = true ∧ LogSince L (fun _ => True) s)
      (childrenCallbackWith zkpath watchData onAdd onDel pred children >>= fun renew =>
        if renew then pure () else modify (stopChildrenWatch id))
      (fun _ => SignalledSince L) fun _ => True :=
  .seq (childrenCallbackWith_signals L hAdd hDel _ _ _ _) fun _ =>
    .cond (fun _ => .ret fun _ h => h) fun _ => .update fun _ h => h

theorem makeChildrenWatchWith_signals (zkpath : ZkPath) (watchData : Bool)
    (pred : Option (ZkPath → List String → Bool)) :
    Triple (SignalledSince L) (makeChildrenWatchWith zkpath watchData onAdd onDel pred)
      (fun _ => SignalledSince L) fun _ => True := by
  refine .seq ((listChildren_keeps _ _).post (fun _ _ h => h) fun _ _ => trivial)
    fun x => ?_
  rcases x with _ | children
  · exact .ret fun _ h => h
  · exact .seq ((newWatchId_keeps fun _ _ h => h).post (fun _ _ h => h)
      fun _ _ => trivial) fun _ => .seq (.update fun _ h => h.grown L) fun _ =>
        childrenCallbackWith_stop_signals L hAdd hDel _ _ _ _ _

theorem syncChildrenWith_signals (zkpath : ZkPath) (watchData : Bool)
    (nw : Option (ZkPath → Bool)) (cw : Option (ZkPath → List String → Bool)) :
    Triple (SignalledSince L) (syncChildrenWith zkpath watchData onAdd onDel nw cw)
      (fun _ => SignalledSince L) fun _ => True := by
  have hG := closedAll_grown L
  dsimp only [syncChildrenWith]
  refine .seq (((quiet_keeps L (mkdirSafe_footprint _) fun _ e => by rw [e]; rfl).post
    (fun _ _ h => h) fun _ _ => trivial)) fun _ => .seq_get fun _ => ?_
  refine .cond (fun _ => .ret fun _ h => h) fun _ =>
    .cond (fun _ => makeChildrenWatchWith_signals L hAdd hDel _ _ _) fun _ =>
      Triple.mono (P := fun s => s.ready = true ∧ LogSince L (fun _ => True) s) ?_
        (fun _ h => h.grown L) (fun _ _ h => h) fun _ h => h
  refine .seq (.handle (zkGetChildren_keeps _ _) fun e => ?_) fun _ =>
    .seq ((hG.childrenWatchWith (fun z => hAdd z L) (fun z => hDel z L) _ _ _ _).post
      (fun _ _ h => h.1) fun _ _ => trivial) fun _ =>
      .seq (.cond (fun _ => (hG.makeChildrenWatchWith (fun z => hAdd z L) (fun z => hDel z L)
        _ _ _).post (fun _ _ h => h) fun _ _ => trivial) fun _ => .ret fun _ h => h) fun _ =>
        .seq (updateLast_bumps L) fun _ => .cond (fun _ => .ret fun _ h => h) fun _ =>
          (quiet_keeps L (touch_footprint _) fun _ ⟨_, e⟩ => by rw [e]; rfl).post
            (fun _ _ h => h) fun _ _ => trivial
  cases e <;> first | exact .ret fun _ h => h | exact .raise fun _ _ => trivial

omit hAdd hDel in
theorem grows_defaults (z : ZkPath) : Grows (defaultOnAdd z) ∧ Grows (defaultOnDel z) :=
  ⟨fun L => (closedAll_grown L).keeps_defaultOnAdd z, fun L => (closedAll_grown L).keeps_defaultOnDel z⟩

omit L in
/-- `sync_children` with callbacks that grow grows: so do callbacks that nest it. -/
theorem grows_syncChildrenWith (zkpath : ZkPath) (watchData : Bool) (nw : Option (ZkPath → Bool))
    (cw : Option (ZkPath → List String → Bool)) :
    Grows (syncChildrenWith zkpath watchData onAdd onDel nw cw) := fun L =>
  (closedAll_grown L).syncChildrenWith (fun z => hAdd z L) (fun z => hDel z L)
    (fun _ => (mkdirSafe_footprint _).grows L) (fun _ => (touch_footprint _).grows L)
    zkpath watchData nw cw

end Callbacks

section Ready

variable (L : List FsOp)

theorem deliver_signals (n : Notification) :
    Triple (SignalledSince L) (deliver n) (fun _ => SignalledSince L) fun _ => True := by
  cases n with
  | data id event =>
    refine .seq_get fun t => ?_
    cases t.dataWatches.find? (·.id == id) with
    | none => exact .ret fun _ h => h
    | some w =>
      refine Triple.seq (((closedAll_grown L).toDataClosed.readNode w.path).mono
        (fun _ h => h.grown L) (fun _ _ h => h) fun _ _ => trivial) fun ⟨data, stat⟩ => ?_
      exact .seq (M := fun _ s => (s.ready = true ∧ LogSince L (fun _ => True) s) ∧
          ReadOk w.path data stat s) (.update fun _ h => h) fun _ =>
        .seq (dataCallback_signals L w.path data stat (some event)) fun _ =>
          .cond (fun _ => .ret fun _ h => h) fun _ => .update fun _ h => h
  | children id =>
    refine .seq_get fun t => ?_
    cases t.childWatches.find? (·.id == id) with
    | none => exact .ret fun _ h => h
    | some w =>
      refine .seq ((listChildren_keeps _ _).post (fun _ _ h => h) fun _ _ => trivial)
        fun x => ?_
      rcases x with _ | children
      · exact .update fun _ h => h
      · exact .seq (.update fun _ h => h.grown L) fun _ => childrenCallbackWith_stop_signals L
          (fun z => (grows_defaults z).1) (fun z => (grows_defaults z).2) _ _ _ _ _

theorem markReady_signals :
    Triple (fun s => LogSince L (fun _ => True) s) markReady (fun _ => SignalledSince L)
      fun _ => True :=
  .seq (.update fun _ h => ⟨rfl, h⟩) fun _ => updateLast_bumps L

end Ready

namespace RootMarker

def nodes : AList fun _ : ZkPath => ZNode :=
  (∅ : AList fun _ : ZkPath => ZNode).insert [] ⟨"", ⟨0⟩⟩ |>.insert [".modified"] ⟨"m", ⟨5⟩⟩

def temp : FsPath := [".tmpx"]

/-- After `sync_children('/')`, before `mark_ready`: the child `.modified` mirrored over the
marker. -/
def synced : World :=
  { World.start nodes ∅ with
    childWatches := [⟨0, [], false, none, true⟩]
    nextId := 1
    fsLog := [.mkdir [], .create temp 0, .write temp "m", .chmod temp, .utime temp 5,
      .rename temp [".modified"]]
    reads := [([".modified"], ⟨"m", ⟨5⟩⟩)]
    processedOnce := [[]] }

theorem sync_step : Step (World.start nodes ∅) (.call (.syncChildren [] false none none)) synced :=
  exec_step rfl

/-- `mark_ready` once `/` is mirrored. -/
def ready : World :=
  { synced with
    fsLog := synced.fsLog ++ [.touch modifiedFile 0, .utime modifiedFile 0]
    ready := true }

end RootMarker

open RootMarker in
/-- Before `mark_ready`, the mirror of a child `.modified` of `/` creates `fsroot/.modified`. -/
theorem modified_child_mirrored_before_ready :
    Run (World.start nodes ∅) [(World.start nodes ∅, .call (.syncChildren [] false none none))]
        synced ∧
      synced.ready = false ∧ modifiedFile ∉ (World.start nodes ∅).files ∧
      synced.files.lookup modifiedFile = some (.file "m" 5) :=
  ⟨.cons sync_step (.nil _), rfl, by decide, by decide⟩

namespace ReadyMirror

/-- A ready engine over `/p` and its child `c`. -/
def nodes : AList fun _ : ZkPath => ZNode :=
  (∅ : AList fun _ : ZkPath => ZNode).insert [] ⟨"", ⟨0⟩⟩ |>.insert ["p"] ⟨"", ⟨0⟩⟩
    |>.insert ["p", "c"] ⟨"v", ⟨1⟩⟩

def start : World := { World.start nodes ∅ with ready := true }

def synced : World := after (Call.run (.syncChildren ["p"] false none none) start)

/-- `/p/d` created, and the notification of the children watch of `/p` taken from the queue. -/
def created : World :=
  { RemoteOp.apply synced (.create ["p", "d"] ⟨"w", ⟨2⟩⟩) with queue := [] }

def delivered : World := after (deliver (.children 0) created)

def nestedOnAdd (z : ZkPath) : Sync Unit := syncChildren z false none none

/-- After `sync_children('/', on_add=nestedOnAdd)`. -/
def nested : World := after (syncChildrenWith [] false nestedOnAdd defaultOnDel none none start)

end ReadyMirror

/-- The readiness marker as the code has it. Before `mark_ready`, no step other than
`mark_ready` touches or stamps `.modified`: every operation a step makes on it is a mirror's
rename, unlink or directory. Once ready, every caller call and every delivery that returns has,
after each rename or unlink it made, bumped `.modified` later in its own operations; and so has
every `sync_children` call and every children callback with an `on_add` and an `on_del` that keep
the engine ready and only add filesystem operations. The defaults do, and `sync_children` with
such callbacks does in turn, so callbacks nested to any depth are covered. -/
theorem readiness_marker_signals :
    (∀ t l u, Step t l u → t.ready = false → l ≠ .call .markReady →
      ∃ ops, u.fsLog = t.fsLog ++ ops ∧ ∀ op ∈ ops, op.path = modifiedFile → op.mirrors) ∧
    (∀ (c : Call) t u, t.ready = true → c.run t = .ok () u →
      ∃ ops, u.fsLog = t.fsLog ++ ops ∧ Signalled ops) ∧
    (∀ n t u, t.ready = true → deliver n t = .ok () u →
      ∃ ops, u.fsLog = t.fsLog ++ ops ∧ Signalled ops) ∧
    (∀ z, Grows (defaultOnAdd z) ∧ Grows (defaultOnDel z)) ∧
    ∀ onAdd onDel : ZkPath → Sync Unit, (∀ z, Grows (onAdd z)) → (∀ z, Grows (onDel z)) →
      ∀ zkpath watchData,
        (∀ nw cw, Grows (syncChildrenWith zkpath watchData onAdd onDel nw cw)) ∧
        (∀ nw cw t u, t.ready = true →
          syncChildrenWith zkpath watchData onAdd onDel nw cw t = .ok () u →
          ∃ ops, u.fsLog = t.fsLog ++ ops ∧ Signalled ops) ∧
        ∀ pred children t r u, t.ready = true →
          childrenCallbackWith zkpath watchData onAdd onDel pred children t = .ok r u →
          ∃ ops, u.fsLog = t.fsLog ++ ops ∧ Signalled ops := by
  have hs : ∀ {t : World}, t.ready = true → SignalledSince t.fsLog t :=
    fun h => ⟨h, [], by simp, signalled_of_quiet (by simp)⟩
  have hg : ∀ t : World, LogSince t.fsLog (fun _ => True) t := fun _ => ⟨[], by simp, by simp⟩
  refine ⟨fun t l u h hr hl => step_before h hr hl, fun c t u hr h => ?_,
    fun n t u hr h => ((deliver_signals t.fsLog n).ok_post (hs hr) h).2, grows_defaults,
    fun onAdd onDel hAdd hDel z w => ⟨grows_syncChildrenWith hAdd hDel z w,
      fun nw cw t u hr h => ((syncChildrenWith_signals t.fsLog hAdd hDel z w nw cw).ok_post
        (hs hr) h).2,
      fun pred children t r u hr h => ((childrenCallbackWith_signals t.fsLog hAdd hDel z w pred
        children).ok_post ⟨hr, hg t⟩ h).2⟩⟩
  cases c with
  | syncData z => exact ((syncData_signals t.fsLog z).ok_post ⟨hr, hg t⟩ h).2
  | syncChildren z w nw cw =>
    exact ((syncChildrenWith_signals t.fsLog (fun z => (grows_defaults z).1)
      (fun z => (grows_defaults z).2) z w nw cw).ok_post (hs hr) h).2
  | markReady => exact ((markReady_signals t.fsLog).ok_post (hg t) h).2

open ReadyMirror in
/-- Before `mark_ready`, `sync_children('/')` stamps nothing. After it, `sync_children('/p')`
mirrors `c`, the children callback for the created `/p/d` mirrors `d`, and `sync_children('/')`
with an `on_add` that itself syncs children mirrors `/p/c` one level down; each rename is followed
by a bump of `.modified`. -/
theorem readiness_marker_signals_ready_mirror :
    (∃ ops, RootMarker.synced.fsLog = (World.start RootMarker.nodes ∅).fsLog ++ ops ∧
      ∀ op ∈ ops, op.path = modifiedFile → op.mirrors) ∧
    (∃ ops, synced.fsLog = start.fsLog ++ ops ∧ Signalled ops) ∧
    (∃ ops, delivered.fsLog = created.fsLog ++ ops ∧ Signalled ops) ∧
    (∃ ops, nested.fsLog = start.fsLog ++ ops ∧ Signalled ops) ∧
    delivered.fsLog = synced.fsLog ++
      [.create ["p", ".tmpx"] 0, .write ["p", ".tmpx"] "w", .chmod ["p", ".tmpx"],
        .utime ["p", ".tmpx"] 2, .rename ["p", ".tmpx"] ["p", "d"], .touch modifiedFile 0,
        .utime modifiedFile 0, .touch modifiedFile 0, .utime modifiedFile 0] ∧
    nested.fsLog =
      [.mkdir [], .mkdir ["p"], .create ["p", ".tmpx"] 0, .write ["p", ".tmpx"] "v",
        .chmod ["p", ".tmpx"], .utime ["p", ".tmpx"] 1, .rename ["p", ".tmpx"] ["p", "c"],
        .touch modifiedFile 0, .utime modifiedFile 0, .touch modifiedFile 0, .utime modifiedFile 0,
        .touch modifiedFile 0, .utime modifiedFile 0] :=
  have hNested : ∀ z, Grows (nestedOnAdd z) := fun z =>
    (readiness_marker_signals.2.2.2.2 defaultOnAdd defaultOnDel
      (fun z => (readiness_marker_signals.2.2.2.1 z).1)
      (fun z => (readiness_marker_signals.2.2.2.1 z).2) z false).1 none none
  ⟨readiness_marker_signals.1 _ _ _ RootMarker.sync_step rfl (by simp),
    readiness_marker_signals.2.1 (.syncChildren ["p"] false none none) start synced rfl rfl,
    readiness_marker_signals.2.2.1 (.children 0) created delivered rfl rfl,
    (readiness_marker_signals.2.2.2.2 nestedOnAdd defaultOnDel hNested
      (fun z => (readiness_marker_signals.2.2.2.1 z).2) [] false).2.1 none none start nested rfl rfl,
    rfl, rfl⟩

end Treadmill.Zksync
