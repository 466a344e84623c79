import Treadmill.Zksync.Frame
import Treadmill.Zksync.System

/-!
# Invariants of the filesystem side

`Closed I` and `ClosedAll I` say what an invariant needs for every method, and every delivery, to
keep it.
-/

namespace Treadmill.Zksync

/-- What a data callback receives was read: a stat comes with the data read together with it. -/
def ReadOk (zkpath : ZkPath) (data : Option String) (stat : Option Stat) (s : World) : Prop :=
  ∀ st, stat = some st → ∃ d, data = some d ∧ (zkpath, ⟨d, st⟩) ∈ s.reads

/-- An invariant every data-side method keeps. -/
structure Closed (I : World → Prop) : Prop where
  watches : ∀ s w, I s → I { s with watches := w }
  processedOnce : ∀ s p, I s → I { s with processedOnce := p }
  dataWatches : ∀ s d, I s → I { s with dataWatches := d }
  nextId : ∀ s n, I s → I { s with nextId := n }
  read : ∀ s z n, s.nodes.lookup z = some n → I s → I { s with reads := s.reads ++ [(z, n)] }
  writeData : ∀ z d st, Triple (fun s => I s ∧ (z, ⟨d, st⟩) ∈ s.reads)
    (writeData (fpath z) (some d) st.lastModified true) (fun _ => I) I
  rmSafe : ∀ z, Keeps I (rmSafe (fpath z))
  updateLast : Keeps I updateLast

/-- An invariant that every method and every delivery keeps. -/
structure ClosedAll (I : World → Prop) extends Closed I : Prop where
  registerChildren : ∀ s id z w cw, I s → I (registerChildrenWatch id z w cw s)
  armChildren : ∀ s id, I s → I (armChildrenWatch id s)
  stopChildren : ∀ s id, I s → I (stopChildrenWatch id s)

/-- What the data-side methods need of an invariant: `Closed` without `processed_once`, which
only a children pass changes. -/
structure DataClosed (I : World → Prop) : Prop where
  watches : ∀ s w, I s → I { s with watches := w }
  dataWatches : ∀ s d, I s → I { s with dataWatches := d }
  nextId : ∀ s n, I s → I { s with nextId := n }
  read : ∀ s z n, s.nodes.lookup z = some n → I s → I { s with reads := s.reads ++ [(z, n)] }
  writeData : ∀ z d st, Triple (fun s => I s ∧ (z, ⟨d, st⟩) ∈ s.reads)
    (writeData (fpath z) (some d) st.lastModified true) (fun _ => I) I
  rmSafe : ∀ z, Keeps I (rmSafe (fpath z))
  updateLast : Keeps I updateLast

theorem Closed.toDataClosed {I : World → Prop} (hc : Closed I) : DataClosed I :=
  ⟨hc.watches, hc.dataWatches, hc.nextId, hc.read, hc.writeData, hc.rmSafe, hc.updateLast⟩

theorem DataClosed.of_log {I : World → Prop} (hw : ∀ s w, I s → I { s with watches := w })
    (hd : ∀ s d, I s → I { s with dataWatches := d }) (hn : ∀ s n, I s → I { s with nextId := n })
    (hl : ∀ s ops rs, I s → I { s with fsLog := s.fsLog ++ ops, reads := s.reads ++ rs }) :
    DataClosed I where
  watches := hw
  dataWatches := hd
  nextId := hn
  read s _ _ _ h := by simpa using hl s [] _ h
  writeData _ _ _ := ((writeData_logOnly _ _ _ _).keeps hl).pre (fun _ h => h.1)
  rmSafe _ := (rmSafe_logOnly _).keeps hl
  updateLast := updateLast_logOnly.keeps hl

/-- An invariant of what the logs' growth leaves alone, which ignores the data-side
bookkeeping. -/
theorem Closed.of_log {I : World → Prop} (hw : ∀ s w, I s → I { s with watches := w })
    (hp : ∀ s p, I s → I { s with processedOnce := p })
    (hd : ∀ s d, I s → I { s with dataWatches := d }) (hn : ∀ s n, I s → I { s with nextId := n })
    (hl : ∀ s ops rs, I s → I { s with fsLog := s.fsLog ++ ops, reads := s.reads ++ rs }) :
    Closed I :=
  let d := DataClosed.of_log hw hd hn hl
  ⟨hw, hp, hd, hn, d.read, d.writeData, d.rmSafe, d.updateLast⟩

theorem closed_true : Closed fun _ => True :=
  .of_log (fun _ _ _ => trivial) (fun _ _ _ => trivial) (fun _ _ _ => trivial) (fun _ _ _ => trivial)
    fun _ _ _ _ => trivial

theorem Closed.and {I J : World → Prop} (hI : Closed I) (hJ : Closed J) :
    Closed fun s => I s ∧ J s where
  watches s w h := ⟨hI.watches s w h.1, hJ.watches s w h.2⟩
  processedOnce s p h := ⟨hI.processedOnce s p h.1, hJ.processedOnce s p h.2⟩
  dataWatches s d h := ⟨hI.dataWatches s d h.1, hJ.dataWatches s d h.2⟩
  nextId s n h := ⟨hI.nextId s n h.1, hJ.nextId s n h.2⟩
  read s z n hn h := ⟨hI.read s z n hn h.1, hJ.read s z n hn h.2⟩
  writeData z d st :=
    ((hI.writeData z d st).conj (hJ.writeData z d st)).pre fun _ h => ⟨⟨h.1.1, h.2⟩, h.1.2, h.2⟩
  rmSafe z := (hI.rmSafe z).conj (hJ.rmSafe z)
  updateLast := hI.updateLast.conj hJ.updateLast

theorem zkGetChildren_keeps (I : World → Prop) (zkpath : ZkPath) : Keeps I (zkGetChildren zkpath) := by
  intro s hs
  by_cases h : zkpath ∈ s.nodes <;> simpa [zkGetChildren, h] using hs

theorem listChildren_keeps (I : World → Prop) (zkpath : ZkPath) : Keeps I (listChildren zkpath) :=
  fun _ hs => hs

theorem newWatchId_keeps {I : World → Prop} (h : ∀ s n, I s → I { s with nextId := n }) :
    Keeps I newWatchId :=
  fun s hs => h s _ hs

theorem doneFile_ne (dir : FsPath) : doneFile dir ≠ dir := fun h => by
  simpa [doneFile] using congrArg List.length h

theorem mkdirSafe_absent {J : World → Prop}
    (hJ : ∀ s ops rs, J s → J { s with fsLog := s.fsLog ++ ops, reads := s.reads ++ rs })
    {q path : FsPath} (hq : q ≠ path) : Keeps (fun s => J s ∧ q ∉ s.files) (mkdirSafe path) := by
  intro s ⟨hs, hqs⟩
  by_cases hp : path ∈ s.files
  · simp only [mkdirSafe, hp, if_true]
    exact ⟨hs, hqs⟩
  cases hf : s.fault s.fsLog.length with
  | none =>
    simp only [mkdirSafe, fsCall, hp, hf, if_false]
    refine ⟨by simpa using hJ s [.mkdir path] [] hs, ?_⟩
    simp [World.files_perform, FsOp.apply, AList.mem_insert, hq, hqs]
  | some _ =>
    simp only [mkdirSafe, fsCall, hp, hf, if_false]
    exact ⟨hs, hqs⟩

namespace DataClosed

variable {I : World → Prop}

theorem readNode (hc : DataClosed I) (zkpath : ZkPath) :
    Triple I (Zksync.readNode zkpath) (fun r s => I s ∧ ReadOk zkpath r.1 r.2 s) I := by
  intro s hs
  cases h : s.nodes.lookup zkpath with
  | none =>
    simp only [Zksync.readNode, h]
    exact ⟨hs, fun _ e => nomatch e⟩
  | some n =>
    obtain ⟨d, st⟩ := n
    simp only [Zksync.readNode, h]
    exact ⟨hc.read s zkpath _ h hs, fun _ e => ⟨d, rfl, by cases e; simp⟩⟩

theorem zkGet (hc : DataClosed I) (zkpath : ZkPath) :
    Triple I (Zksync.zkGet zkpath) (fun r s => I s ∧ (zkpath, ⟨r.1, r.2⟩) ∈ s.reads) I := by
  intro s hs
  cases h : s.nodes.lookup zkpath with
  | none => simp only [Zksync.zkGet, h]; exact hs
  | some n =>
    obtain ⟨d, st⟩ := n
    simp only [Zksync.zkGet, h]
    exact ⟨hc.read s zkpath _ h hs, by simp⟩

theorem writeStat (hc : DataClosed I) (zkpath : ZkPath) (data : Option String)
    (stat : Option Stat) :
    Triple (fun s => I s ∧ ReadOk zkpath data stat s) (Zksync.writeStat (fpath zkpath) data stat)
      (fun _ => I) I := by
  rcases stat with _ | ⟨⟨m⟩⟩
  · exact .raise fun _ h => h.1
  · intro s hs
    obtain ⟨d, rfl, hr⟩ := hs.2 ⟨m⟩ rfl
    exact hc.writeData zkpath d ⟨m⟩ s ⟨hs.1, hr⟩

theorem dataWatch (hc : DataClosed I) (zkpath : ZkPath) (data : Option String)
    (stat : Option Stat) (event : Option EventType) :
    Triple (fun s => I s ∧ ReadOk zkpath data stat s) (Zksync.dataWatch zkpath data stat event)
      (fun _ => I) I := by
  have hdrop : Triple (fun s => I s ∧ ReadOk zkpath data stat s)
      (do modify fun s => { s with watches := discard zkpath s.watches }; Zksync.rmSafe (fpath zkpath))
      (fun _ => I) I :=
    .seq (.update fun s h => hc.watches s _ h.1) fun _ => hc.rmSafe zkpath
  dsimp only [Zksync.dataWatch]
  refine .seq (M := fun _ => I) ?_ fun _ => .seq_get fun _ => .ret fun _ h => h
  exact .cond (fun _ => hdrop) fun _ => .cond (fun _ => hdrop) fun _ => hc.writeStat _ _ _

theorem dataCallback (hc : DataClosed I) (zkpath : ZkPath) (data : Option String)
    (stat : Option Stat) (event : Option EventType) :
    Triple (fun s => I s ∧ ReadOk zkpath data stat s) (Zksync.dataCallback zkpath data stat event)
      (fun _ => I) I :=
  .handle (.seq (hc.dataWatch zkpath data stat event) fun _ =>
      .seq hc.updateLast fun _ => .ret fun _ h => h)
    fun _ => .raise fun _ h => h

theorem installDataWatch (hc : DataClosed I) (zkpath : ZkPath) :
    Keeps I (Zksync.installDataWatch zkpath) := by
  dsimp only [Zksync.installDataWatch]
  refine Triple.seq (newWatchId_keeps hc.nextId) fun id =>
    Triple.seq (hc.readNode zkpath) fun ⟨data, stat⟩ => ?_
  exact .seq (M := fun _ s => I s ∧ ReadOk zkpath data stat s)
    (.update fun s h => ⟨hc.dataWatches s _ h.1, h.2⟩) fun _ =>
      .seq (hc.dataCallback zkpath data stat none) fun _ =>
        .cond (fun _ => .ret fun _ h => h) fun _ => .update fun s h => hc.dataWatches s _ h

theorem syncData (hc : DataClosed I) (zkpath : ZkPath) : Keeps I (Zksync.syncData zkpath) := by
  refine .seq_get fun _ => .cond (fun _ => hc.installDataWatch zkpath) fun _ => ?_
  refine .seq (hc.zkGet zkpath) fun ⟨d, st⟩ => .seq ?_ fun _ => hc.updateLast
  exact (hc.writeStat zkpath (some d) (some st)).pre
    fun s h => ⟨h.1, fun _ e => ⟨d, rfl, by cases e; exact h.2⟩⟩

theorem delNode (hc : DataClosed I) (zkpath : ZkPath) (node : String) :
    Keeps I (Zksync.delNode zkpath defaultOnDel node) :=
  .seq (.update fun s h => hc.watches s _ h) fun _ => hc.rmSafe _

theorem addNode (hc : DataClosed I) (zkpath : ZkPath) (watchData : Bool) (node : String) :
    Keeps I (Zksync.addNode zkpath watchData defaultOnAdd node) := by
  dsimp only [Zksync.addNode]
  exact .seq (.cond (fun _ => .update fun s h => hc.watches s _ h) fun _ => .ret fun _ h => h)
    fun _ => hc.syncData _

end DataClosed

namespace Closed

variable {I : World → Prop}

theorem keeps_defaultOnAdd (hc : Closed I) (z : ZkPath) : Keeps I (defaultOnAdd z) :=
  hc.toDataClosed.syncData z

theorem keeps_defaultOnDel (hc : Closed I) (z : ZkPath) : Keeps I (defaultOnDel z) := hc.rmSafe z

variable {onAdd onDel : ZkPath → Sync Unit} (hAdd : ∀ z, Keeps I (onAdd z))
  (hDel : ∀ z, Keeps I (onDel z))
include hAdd hDel

/-- A children pass keeps what its callbacks keep, and returns what `cont_watch_predicate` says
of the sorted children. -/
theorem childrenWatchWith (hc : Closed I) (zkpath : ZkPath) (children : List String)
    (watchData : Bool) (pred : Option (ZkPath → List String → Bool)) :
    Triple I (Zksync.childrenWatch zkpath children watchData onAdd onDel pred)
      (fun r s => I s ∧ r = contWatch pred zkpath (sorted children)) I := by
  have hadd : ∀ n, Keeps I (Zksync.addNode zkpath watchData onAdd n) := fun _ =>
    .seq (.cond (fun _ => .update fun s h => hc.watches s _ h) fun _ => .ret fun _ h => h)
      fun _ => hAdd _
  dsimp only [Zksync.childrenWatch]
  refine .seq_get fun _ => .seq (Keeps.loop fun _ _ =>
      .seq (.update fun s h => hc.watches s _ h) fun _ => hDel _) fun _ =>
    .seq_get fun _ => .seq (.cond (fun _ => ?_) fun _ => .ret fun _ h => h) fun _ =>
      .seq (Keeps.loop fun _ _ => hadd _) fun _ => .ret fun _ h => ⟨h, rfl⟩
  exact .seq (.update fun s h => hc.processedOnce s _ h) fun _ => Keeps.loop fun _ _ => hadd _

theorem childrenCallbackWith (hc : Closed I) (zkpath : ZkPath) (watchData : Bool)
    (pred : Option (ZkPath → List String → Bool)) (children : List String) :
    Triple I (Zksync.childrenCallbackWith zkpath watchData onAdd onDel pred children)
      (fun r s => I s ∧ r = contWatch pred zkpath (sorted children)) I :=
  .handle (.seq (hc.childrenWatchWith hAdd hDel _ _ _ _) fun _ =>
      .seq ((Triple.const hc.updateLast).post (fun _ _ h => h) fun _ h => h.1)
        fun _ => .ret fun _ h => h)
    fun _ => .raise fun _ h => h

theorem childrenCallbackWith_stop (hc : Closed I) (hs : ∀ s id, I s → I (stopChildrenWatch id s))
    (zkpath : ZkPath) (watchData : Bool) (pred : Option (ZkPath → List String → Bool))
    (children : List String) (id : Nat) :
    Keeps I (Zksync.childrenCallbackWith zkpath watchData onAdd onDel pred children >>= fun renew =>
      if renew then pure () else modify (stopChildrenWatch id)) :=
  Triple.seq (hc.childrenCallbackWith hAdd hDel _ _ _ _) fun _ =>
    .cond (fun _ => .ret fun _ h => h.1) fun _ => .update fun s h => hs s _ h.1

end Closed

/-- A delivery keeps an invariant that arming and stopping a children watch keep. -/
theorem Closed.deliver {I : World → Prop} (hc : Closed I)
    (ha : ∀ s id, I s → I (armChildrenWatch id s)) (hs : ∀ s id, I s → I (stopChildrenWatch id s))
    (n : Notification) : Keeps I (Zksync.deliver n) := by
  cases n with
  | data id event =>
    refine .seq_get fun t => ?_
    cases t.dataWatches.find? (·.id == id) with
    | none => exact .ret fun _ h => h
    | some w =>
      refine Triple.seq (hc.toDataClosed.readNode w.path) fun ⟨data, stat⟩ => ?_
      exact .seq (M := fun _ s => I s ∧ ReadOk w.path data stat s)
        (.update fun s h => ⟨hc.dataWatches s _ h.1, h.2⟩) fun _ =>
          .seq (hc.toDataClosed.dataCallback w.path data stat (some event)) fun _ =>
            .cond (fun _ => .ret fun _ h => h) fun _ => .update fun s h => hc.dataWatches s _ h
  | children id =>
    refine .seq_get fun t => ?_
    cases t.childWatches.find? (·.id == id) with
    | none => exact .ret fun _ h => h
    | some w =>
      refine .seq (listChildren_keeps I _) fun x => ?_
      rcases x with _ | children
      · exact .update fun s h => hs s _ h
      · exact .seq (.update fun s h => ha s _ h) fun _ =>
          hc.childrenCallbackWith_stop hc.keeps_defaultOnAdd hc.keeps_defaultOnDel hs _ _ _ _ _

namespace ClosedAll

variable {I : World → Prop} {onAdd onDel : ZkPath → Sync Unit} (hAdd : ∀ z, Keeps I (onAdd z))
  (hDel : ∀ z, Keeps I (onDel z))
include hAdd hDel

theorem makeChildrenWatchWith (hc : ClosedAll I) (zkpath : ZkPath) (watchData : Bool)
    (pred : Option (ZkPath → List String → Bool)) :
    Keeps I (Zksync.makeChildrenWatchWith zkpath watchData onAdd onDel pred) := by
  refine .seq (listChildren_keeps I _) fun x => ?_
  rcases x with _ | children
  · exact .ret fun _ h => h
  · exact .seq (newWatchId_keeps hc.nextId) fun _ =>
      .seq (.update fun s h => hc.registerChildren s _ _ _ _ h) fun _ =>
        hc.childrenCallbackWith_stop hAdd hDel hc.stopChildren _ _ _ _ _

/-- `sync_children` keeps what its callbacks, its own `mkdir_safe` and its `.done` touch keep. -/
theorem syncChildrenWith (hc : ClosedAll I) (hm : ∀ z, Keeps I (mkdirSafe (fpath z)))
    (ht : ∀ z, Keeps I (touch (doneFile (fpath z)))) (zkpath : ZkPath) (watchData : Bool)
    (nw : Option (ZkPath → Bool)) (cw : Option (ZkPath → List String → Bool)) :
    Keeps I (Zksync.syncChildrenWith zkpath watchData onAdd onDel nw cw) := by
  dsimp only [Zksync.syncChildrenWith]
  refine .seq (hm _) fun _ => .seq_get fun _ => ?_
  refine .cond (fun _ => .ret fun _ h => h) fun _ =>
    .cond (fun _ => hc.makeChildrenWatchWith hAdd hDel _ _ _) fun _ => ?_
  refine .seq (.handle (zkGetChildren_keeps I _) fun e => ?_) fun _ =>
    .seq (hc.childrenWatchWith hAdd hDel _ _ _ _) fun _ =>
      .seq (.cond (fun _ => (hc.makeChildrenWatchWith hAdd hDel _ _ _).pre (fun _ h => h.1))
        fun _ => .ret fun _ h => h.1) fun _ =>
        .seq hc.updateLast fun _ => .cond (fun _ => .ret fun _ h => h) fun _ => ht _
  cases e <;> first | exact .ret fun _ h => h | exact .raise fun _ h => h

end ClosedAll

theorem ClosedAll.deliver {I : World → Prop} (hc : ClosedAll I) (n : Notification) :
    Keeps I (Zksync.deliver n) :=
  hc.toClosed.deliver hc.armChildren hc.stopChildren n

theorem settle_keeps {I : World → Prop} (ha : ∀ s, I s → I { s with alive := false })
    {r : EStateM.Result Err World Unit} (h : I (after r)) : I (settle r) := by
  cases r with
  | ok _ s => exact h
  | error e s =>
    simp only [settle]
    split
    exacts [ha s h, h]

/-- Every step of the system keeps an invariant that every method and delivery keeps, that
`sync_children`'s own filesystem calls and `mark_ready` keep, and that the coordination service,
the queue and the end of the process leave alone. -/
theorem ClosedAll.step {I : World → Prop} (hc : ClosedAll I)
    (hm : ∀ z, Keeps I (mkdirSafe (fpath z))) (ht : ∀ z, Keeps I (touch (doneFile (fpath z))))
    (hr : Keeps I markReady) (ho : ∀ s op, I s → I (RemoteOp.apply s op))
    (hq : ∀ s q, I s → I { s with queue := q }) (ha : ∀ s, I s → I { s with alive := false })
    {t u : World} {l : Label} (h : Step t l u) (hI : I t) : I u := by
  cases h with
  | call c _ =>
    refine settle_keeps ha (Keeps.after ?_ hI)
    cases c with
    | syncData z => exact hc.toDataClosed.syncData z
    | syncChildren z w nw cw =>
      exact hc.syncChildrenWith hc.keeps_defaultOnAdd hc.keeps_defaultOnDel hm ht z w nw cw
    | markReady => exact hr
  | remote op _ => exact ho t op hI
  | deliver _ _ => exact settle_keeps ha ((hc.deliver _).after (hq t _ hI))
  | sessionLost => exact ha t hI

end Treadmill.Zksync
