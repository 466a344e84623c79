import Treadmill.Zksync.Closure
import Treadmill.Zksync.Coverage

/-!
# What the engine writes

The engine writes only the mirrors of the nodes and directories its caller passes it.
-/

namespace Treadmill.Zksync

/-- A name `NamedTemporaryFile(dir=dir, prefix='.tmp')` makes. -/
def TempIn (dir q : FsPath) : Prop := ∃ sfx, q = dir ++ [".tmp" ++ sfx]

def FsOp.OnTemp (dir : FsPath) : FsOp → Prop
  | .create p _ | .write p _ | .chmod p | .utime p _ => TempIn dir p
  | _ => False

/-- What the engine does to the mirror of `z`: `write_data` through a temporary file in the
same directory, renamed onto it, or the unlink of `fs.rm_safe`. -/
def MirrorOp (z : ZkPath) (op : FsOp) : Prop :=
  op.OnTemp (fpath z).dropLast ∨
    (∃ temp, TempIn (fpath z).dropLast temp ∧ op = .rename temp (fpath z)) ∨ op = .unlink (fpath z)

/-- The nodes whose mirror the engine may write: those passed to `sync_data`, and the children of
the directories passed to `sync_children`. -/
def Mirrored (nodes dirs : List ZkPath) (z : ZkPath) : Prop :=
  z ∈ nodes ∨ ∃ c ∈ dirs, ∃ n, z = joinZookeeperPath c n

/-- The filesystem operations the engine may make for `nodes` and `dirs`. -/
def Allowed (nodes dirs : List ZkPath) (op : FsOp) : Prop :=
  BumpOp op ∨ (∃ c ∈ dirs, op = .mkdir (fpath c) ∨ ∃ m, op = .touch (doneFile (fpath c)) m) ∨
    ∃ z, Mirrored nodes dirs z ∧ MirrorOp z op

/-- A call that asks for nothing outside `nodes` and `dirs`. -/
def Call.Within (nodes dirs : List ZkPath) : Call → Prop
  | .syncData z => z ∈ nodes
  | .syncChildren z .. => z ∈ dirs
  | .markReady => True

instance (nodes dirs : List ZkPath) : DecidablePred (Call.Within nodes dirs)
  | .syncData z => inferInstanceAs (Decidable (z ∈ nodes))
  | .syncChildren z .. => inferInstanceAs (Decidable (z ∈ dirs))
  | .markReady => inferInstanceAs (Decidable True)

def Label.Within (nodes dirs : List ZkPath) : Label → Prop
  | .call c => c.Within nodes dirs
  | _ => True

instance (nodes dirs : List ZkPath) : DecidablePred (Label.Within nodes dirs)
  | .call c => inferInstanceAs (Decidable (c.Within nodes dirs))
  | .remote _ | .deliver | .sessionLost => inferInstanceAs (Decidable True)

theorem namedTemporaryFile_tempIn {dir : FsPath} {s t : World} {temp : FsPath}
    (h : namedTemporaryFile dir s = .ok temp t) : TempIn dir temp := by
  simp only [namedTemporaryFile] at h
  split at h
  · cases h
  · simp only [bind_apply, fsCall] at h
    split at h <;> cases h
    exact ⟨_, rfl⟩

theorem namedTemporaryFile_onTemp (dir : FsPath) :
    Footprint (FsOp.OnTemp dir) (namedTemporaryFile dir) := by
  intro s
  simp only [namedTemporaryFile]
  split
  · exact ⟨[], [], by simp, by simp⟩
  · exact (Footprint.seq ((fsCall_footprint _).mono fun _ e => e ▸ ⟨_, rfl⟩) fun _ => Footprint.ret) s

theorem writeData_mirrorOp (z : ZkPath) (data : Option String) (modified : Nat) (raiseErr : Bool) :
    Footprint (MirrorOp z) (writeData (fpath z) data modified raiseErr) := by
  refine .seq_ret ((namedTemporaryFile_onTemp _).mono fun _ => .inl)
    (fun _ _ _ => namedTemporaryFile_tempIn) fun temp h => ?_
  refine .seq (.cond ((fsWrite_footprint _ _).mono fun _ ⟨_, e⟩ => .inl (e ▸ h)) .ret) fun _ =>
    .seq ((fsCall_footprint _).mono fun _ e => .inl (e ▸ h)) fun _ =>
      .seq ((fsCall_footprint _).mono fun _ e => .inl (e ▸ h)) fun _ =>
        .handle ((osRename_footprint _ _).mono fun _ e => .inr (.inl ⟨temp, h, e⟩))
          fun _ => .cond .raise .ret

/-- What a world owes to `nodes` and `dirs`: every operation in its log is allowed, every data
watch is on a node whose mirror may be written, and every children watch is on one of `dirs`. -/
structure Confined (nodes dirs : List ZkPath) (s : World) : Prop where
  log : ∀ op ∈ s.fsLog, Allowed nodes dirs op
  dataWatches : ∀ w ∈ s.dataWatches, Mirrored nodes dirs w.path
  childWatches : ∀ w ∈ s.childWatches, w.path ∈ dirs

theorem forall_mem_map_of_path {β : Type} {ws : List β} {f : β → β} {path : β → ZkPath}
    {P : ZkPath → Prop} (hf : ∀ w, path (f w) = path w) (h : ∀ w ∈ ws, P (path w)) :
    ∀ w ∈ ws.map f, P (path w) := by
  simpa only [List.forall_mem_map, hf] using h

namespace Confined

variable {nodes dirs : List ZkPath} {s t : World}

theorem of_eq (h : Confined nodes dirs s) (hl : t.fsLog = s.fsLog)
    (hd : t.dataWatches = s.dataWatches) (hc : t.childWatches = s.childWatches) :
    Confined nodes dirs t :=
  ⟨hl ▸ h.log, hd ▸ h.dataWatches, hc ▸ h.childWatches⟩

theorem of_fresh (h : Fresh s) : Confined nodes dirs s :=
  ⟨by simp [h.fsLog], by simp [h.dataWatches], by simp [h.childWatches]⟩

theorem update {f : World → World} (hf : ∀ s, Confined nodes dirs s → Confined nodes dirs (f s)) :
    Keeps (Confined nodes dirs) (modify f) :=
  Triple.update hf

theorem of_footprint {α : Type} {G : FsOp → Prop} {x : Sync α} (h : Footprint G x)
    (hG : ∀ op, G op → Allowed nodes dirs op) : Keeps (Confined nodes dirs) x :=
  h.keeps fun _ _ _ hs hops => ⟨fun op hop => (List.mem_append.mp hop).elim (hs.log op)
    (hG op <| hops op ·), hs.dataWatches, hs.childWatches⟩

theorem reads {α : Type} {x : Sync α} (h : Footprint (fun _ => False) x) :
    Keeps (Confined nodes dirs) x :=
  of_footprint h fun _ => False.elim

theorem fireData (h : Confined nodes dirs s) (z : ZkPath) (event : EventType) :
    Confined nodes dirs (Zksync.fireData z event s) :=
  ⟨h.log, forall_mem_map_of_path (fun w => by split <;> rfl) h.dataWatches, h.childWatches⟩

theorem fireChildren (h : Confined nodes dirs s) (z : ZkPath) :
    Confined nodes dirs (Zksync.fireChildren z s) :=
  ⟨h.log, h.dataWatches, forall_mem_map_of_path (fun w => by split <;> rfl) h.childWatches⟩

theorem remote (h : Confined nodes dirs s) (op : RemoteOp) : Confined nodes dirs (op.apply s) := by
  have hn : ∀ nodes', Confined nodes dirs { s with nodes := nodes' } := fun _ => h.of_eq rfl rfl rfl
  cases op with
  | create z n => exact ((hn _).fireData _ _).fireChildren _
  | delete z => exact (((hn _).fireData _ _).fireChildren _).fireChildren _
  | setData z n => exact (hn _).fireData _ _

variable {z c : ZkPath}

theorem updateLast : Keeps (Confined nodes dirs) Zksync.updateLast :=
  of_footprint updateLast_footprint fun _ => .inl

theorem rmSafe (hz : Mirrored nodes dirs z) : Keeps (Confined nodes dirs) (Zksync.rmSafe (fpath z)) :=
  of_footprint (rmSafe_footprint _) fun _ e => .inr (.inr ⟨z, hz, .inr (.inr e)⟩)

theorem writeStat (hz : Mirrored nodes dirs z) (data : Option String) (stat : Option Stat) :
    Keeps (Confined nodes dirs) (Zksync.writeStat (fpath z) data stat) := by
  cases stat with
  | some st => exact of_footprint (writeData_mirrorOp z _ _ _) fun _ h => .inr (.inr ⟨z, hz, h⟩)
  | none => exact .raise fun _ h => h

theorem dataWatch (hz : Mirrored nodes dirs z) (data : Option String) (stat : Option Stat)
    (event : Option EventType) : Keeps (Confined nodes dirs) (Zksync.dataWatch z data stat event) := by
  have hdrop : Keeps (Confined nodes dirs)
      (do modify fun s => { s with watches := discard z s.watches }; Zksync.rmSafe (fpath z)) :=
    .seq (update fun _ h => h.of_eq rfl rfl rfl) fun _ => rmSafe hz
  dsimp only [Zksync.dataWatch]
  refine .seq ?_ fun _ => .seq_get fun _ => .ret fun _ h => h
  exact .cond (fun _ => hdrop) fun _ => .cond (fun _ => hdrop) fun _ => writeStat hz _ _

theorem dataCallback (hz : Mirrored nodes dirs z) (data : Option String) (stat : Option Stat)
    (event : Option EventType) :
    Keeps (Confined nodes dirs) (Zksync.dataCallback z data stat event) :=
  .handle (.seq (dataWatch hz data stat event) fun _ => .seq updateLast fun _ => .ret fun _ h => h)
    fun _ => .raise fun _ h => h

theorem installDataWatch (hz : Mirrored nodes dirs z) :
    Keeps (Confined nodes dirs) (Zksync.installDataWatch z) := by
  dsimp only [Zksync.installDataWatch]
  refine .seq (newWatchId_keeps fun _ _ h => h.of_eq rfl rfl rfl) fun id =>
    .seq (reads (readNode_footprint z)) fun _ => ?_
  refine .seq (update fun _ h => ⟨h.log, ?_, h.childWatches⟩) fun _ =>
    .seq (dataCallback hz _ _ _) fun _ => .cond (fun _ => .ret fun _ h => h) fun _ =>
      update fun _ h => ⟨h.log, fun w hw => h.dataWatches w (List.mem_of_mem_filter hw), h.childWatches⟩
  intro w hw
  rcases List.mem_append.mp hw with hw | hw
  exacts [h.dataWatches w hw, (List.mem_singleton.mp hw) ▸ hz]

theorem syncData (hz : Mirrored nodes dirs z) : Keeps (Confined nodes dirs) (Zksync.syncData z) :=
  .seq_get fun _ => .cond (fun _ => installDataWatch hz) fun _ =>
    .seq (reads (zkGet_footprint z)) fun _ => .seq (writeStat hz _ _) fun _ => updateLast

theorem delNode (hc : c ∈ dirs) (node : String) :
    Keeps (Confined nodes dirs) (Zksync.delNode c defaultOnDel node) :=
  .seq (update fun _ h => h.of_eq rfl rfl rfl) fun _ => rmSafe (.inr ⟨c, hc, node, rfl⟩)

theorem addNode (hc : c ∈ dirs) (watchData : Bool) (node : String) :
    Keeps (Confined nodes dirs) (Zksync.addNode c watchData defaultOnAdd node) := by
  dsimp only [Zksync.addNode]
  exact .seq (.cond (fun _ => update fun _ h => h.of_eq rfl rfl rfl) fun _ => .ret fun _ h => h)
    fun _ => syncData (.inr ⟨c, hc, node, rfl⟩)

theorem childrenWatch (hc : c ∈ dirs) (children : List String) (watchData : Bool)
    (pred : Option (ZkPath → List String → Bool)) :
    Keeps (Confined nodes dirs) (Zksync.childrenWatch c children watchData defaultOnAdd defaultOnDel pred) := by
  dsimp only [Zksync.childrenWatch]
  refine .seq_get fun _ => .seq (Keeps.loop fun _ _ => delNode hc _) fun _ =>
    .seq_get fun _ => .seq (.cond (fun _ => ?_) fun _ => .ret fun _ h => h) fun _ =>
      .seq (Keeps.loop fun _ _ => addNode hc _ _) fun _ => .ret fun _ h => h
  exact .seq (update fun _ h => h.of_eq rfl rfl rfl) fun _ => Keeps.loop fun _ _ => addNode hc _ _

theorem childrenCallback_stop (hc : c ∈ dirs) (watchData : Bool)
    (pred : Option (ZkPath → List String → Bool)) (children : List String) (id : Nat) :
    Keeps (Confined nodes dirs) (Zksync.childrenCallback c watchData pred children >>= fun renew =>
      if renew then pure () else modify (stopChildrenWatch id)) :=
  .seq (.handle (.seq (childrenWatch hc children watchData pred) fun _ =>
      .seq updateLast fun _ => .ret fun _ h => h) fun _ => .raise fun _ h => h) fun _ =>
    .cond (fun _ => .ret fun _ h => h) fun _ =>
      update fun _ h => ⟨h.log, h.dataWatches, fun w hw => h.childWatches w (List.mem_of_mem_filter hw)⟩

theorem makeChildrenWatch (hc : c ∈ dirs) (watchData : Bool)
    (pred : Option (ZkPath → List String → Bool)) :
    Keeps (Confined nodes dirs) (Zksync.makeChildrenWatch c watchData pred) := by
  refine .seq (listChildren_keeps _ _) fun x => ?_
  rcases x with _ | children
  · exact .ret fun _ h => h
  refine .seq (newWatchId_keeps fun _ _ h => h.of_eq rfl rfl rfl) fun _ =>
    .seq (update fun _ h => ⟨h.log, h.dataWatches, fun w hw => ?_⟩) fun _ =>
      childrenCallback_stop hc _ _ _ _
  rcases List.mem_append.mp hw with hw | hw
  exacts [h.childWatches w hw, (List.mem_singleton.mp hw) ▸ hc]

theorem syncChildren (hc : c ∈ dirs) (watchData : Bool) (nw : Option (ZkPath → Bool))
    (cw : Option (ZkPath → List String → Bool)) :
    Keeps (Confined nodes dirs) (Zksync.syncChildren c watchData nw cw) := by
  dsimp only [Zksync.syncChildren]
  refine .seq (of_footprint (mkdirSafe_footprint _) fun _ e => .inr (.inl ⟨c, hc, .inl e⟩))
    fun _ => .seq_get fun _ => .cond (fun _ => .ret fun _ h => h) fun _ =>
      .cond (fun _ => makeChildrenWatch hc _ _) fun _ => ?_
  refine .seq (.handle (zkGetChildren_keeps _ _) fun e => ?_) fun _ =>
    .seq (childrenWatch hc _ _ _) fun _ =>
      .seq (.cond (fun _ => makeChildrenWatch hc _ _) fun _ => .ret fun _ h => h) fun _ =>
        .seq updateLast fun _ => .cond (fun _ => .ret fun _ h => h) fun _ =>
          of_footprint (touch_footprint _) fun _ ⟨m, e⟩ => .inr (.inl ⟨c, hc, .inr ⟨m, e⟩⟩)
  cases e <;> first | exact .ret fun _ h => h | exact .raise fun _ h => h

theorem call {c : Call} (hc : c.Within nodes dirs) : Keeps (Confined nodes dirs) c.run := by
  cases c with
  | syncData z => exact syncData (.inl hc)
  | syncChildren z w nw cw => exact syncChildren hc w nw cw
  | markReady => exact .seq (update fun _ h => h.of_eq rfl rfl rfl) fun _ => updateLast

theorem deliver (n : Notification) : Keeps (Confined nodes dirs) (Zksync.deliver n) := by
  cases n with
  | data id event =>
    refine .seq_read fun t => ?_
    cases hw : t.dataWatches.find? (·.id == id) with
    | none => exact .ret fun _ h => h.1
    | some w =>
      rintro s ⟨hs, rfl⟩
      have hz := hs.dataWatches w (List.mem_of_find?_eq_some hw)
      refine Triple.seq (reads (readNode_footprint w.path)) (fun _ => ?_) s hs
      exact .seq (update fun _ h => ⟨h.log, forall_mem_map_of_path (fun w => by split <;> rfl)
        h.dataWatches, h.childWatches⟩) fun _ => .seq (dataCallback hz _ _ _) fun _ =>
          .cond (fun _ => .ret fun _ h => h) fun _ => update fun _ h =>
            ⟨h.log, fun w hw => h.dataWatches w (List.mem_of_mem_filter hw), h.childWatches⟩
  | children id =>
    refine .seq_read fun t => ?_
    cases hw : t.childWatches.find? (·.id == id) with
    | none => exact .ret fun _ h => h.1
    | some w =>
      rintro s ⟨hs, rfl⟩
      have hc := hs.childWatches w (List.mem_of_find?_eq_some hw)
      have hstop : ∀ id s, Confined nodes dirs s → Confined nodes dirs (stopChildrenWatch id s) :=
        fun _ _ h => ⟨h.log, h.dataWatches, fun w hw => h.childWatches w (List.mem_of_mem_filter hw)⟩
      refine Triple.seq (listChildren_keeps _ _) (fun x => ?_) s hs
      rcases x with _ | children
      · exact update fun _ h => hstop _ _ h
      · exact .seq (update fun _ h => ⟨h.log, h.dataWatches,
          forall_mem_map_of_path (fun w => by split <;> rfl) h.childWatches⟩) fun _ =>
            childrenCallback_stop hc _ _ _ _

theorem step {l : Label} (h : Step s l t) (hl : l.Within nodes dirs) (hs : Confined nodes dirs s) :
    Confined nodes dirs t := by
  cases h with
  | call c _ => exact settle_keeps (fun _ h => h.of_eq rfl rfl rfl) ((call hl).after hs)
  | remote op _ => exact hs.remote op
  | deliver _ _ => exact settle_keeps (fun _ h => h.of_eq rfl rfl rfl) ((deliver _).after (hs.of_eq rfl rfl rfl))
  | sessionLost => exact hs.of_eq rfl rfl rfl

theorem run {steps : List (World × Label)} (hr : Run s steps t)
    (hl : ∀ x ∈ steps, x.2.Within nodes dirs) (hs : Confined nodes dirs s) : Confined nodes dirs t := by
  induction hr with
  | nil => exact hs
  | snoc _ h ih =>
    exact step h (hl _ (List.mem_append_right _ (List.mem_singleton_self _)))
      (ih fun x hx => hl x (List.mem_append_left _ hx))

end Confined

/-- The engine writes only what it is asked for: in a run from a fresh process whose caller
passes only `nodes` to `sync_data` and only `dirs` to `sync_children`, every filesystem operation
is the `.modified` bump, the directory of one of `dirs` or its `.done` marker, or, for a node of
`nodes` or a child of one of `dirs`, the removal of its mirror or a write of it through a
temporary file in its own directory, renamed onto it. -/
theorem engine_writes_only_requested_mirrors {s t : World} {steps : List (World × Label)}
    {nodes dirs : List ZkPath} (hs : Fresh s) (hr : Run s steps t)
    (hl : ∀ x ∈ steps, x.2.Within nodes dirs) : ∀ op ∈ t.fsLog, Allowed nodes dirs op :=
  (Confined.run hr hl (.of_fresh hs)).log

open LazyCancel in
theorem engine_writes_only_requested_mirrors_lazy_cancel :
    Fresh (World.start OneChild.nodes ∅) ∧
      Run (World.start OneChild.nodes ∅)
        ([World.start OneChild.nodes ∅, OneChild.synced, created, rewritten, deleted, passed,
          recreated, stale].zip labels) settled ∧
      (∀ x ∈ [World.start OneChild.nodes ∅, OneChild.synced, created, rewritten, deleted, passed,
          recreated, stale].zip labels, x.2.Within [] [["p"]]) ∧
      ∀ op ∈ settled.fsLog, Allowed [] [["p"]] op :=
  ⟨World.start_fresh _ _, run_settled, by decide,
    engine_writes_only_requested_mirrors (World.start_fresh _ _) run_settled (by decide)⟩

end Treadmill.Zksync
