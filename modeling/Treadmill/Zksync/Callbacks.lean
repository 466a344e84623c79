import Treadmill.Zksync.System
import Treadmill.Zksync.Frame

/-!
# The data callback

How `_data_watch` reads a notification re-read after its node changed again.
-/

namespace Treadmill.Zksync

/-- A `CHANGED` notification re-read after the node is gone raises, and the process exits. -/
theorem dataCallback_changed_absent (zkpath : ZkPath) (s : World) :
    dataCallback zkpath none none (some .changed) s = .error .exit s := by
  simp [dataCallback, exitOnUnhandled, dataWatch, writeStat]

/-- A `DELETED` notification drops the path from `watches` and does not renew, whatever the
re-read found. -/
theorem dataWatch_deleted (zkpath : ZkPath) (data : Option String) (stat : Option Stat) :
    Triple (fun _ => True) (dataWatch zkpath data stat (some .deleted))
      (fun renew t => zkpath ∉ t.watches ∧ renew = false) (fun t => zkpath ∉ t.watches) := by
  have hrm : Triple (fun t => zkpath ∉ t.watches) (rmSafe (fpath zkpath))
      (fun _ t => zkpath ∉ t.watches) (fun t => zkpath ∉ t.watches) :=
    (rmSafe_logOnly _).keeps fun _ _ _ h => h
  refine .seq (M := fun _ t => zkpath ∉ t.watches) ?_
    fun _ => .seq_read fun t => .ret fun u ⟨hu, e⟩ => ⟨hu, by subst e; simpa using hu⟩
  cases data <;>
    simpa using .seq (.update fun _ _ => by simp) fun _ => hrm

/-- The data-callback law fails on two deliveries: `(None, None, CHANGED)` ends the process,
and `(data, stat, DELETED)` with the node present leaves the path out of `watches` and does
not renew. -/
theorem data_callback_misreads_node_state :
    (∀ zkpath s, dataCallback zkpath none none (some .changed) s = .error .exit s) ∧
    ∀ zkpath data stat s,
      zkpath ∉ (after (dataCallback zkpath (some data) (some stat) (some .deleted) s)).watches ∧
      ∀ r t, dataCallback zkpath (some data) (some stat) (some .deleted) s = .ok r t → r = false := by
  refine ⟨dataCallback_changed_absent, fun zkpath data stat s => ?_⟩
  have h : Triple (fun _ => True) (dataCallback zkpath (some data) (some stat) (some .deleted))
      (fun renew t => zkpath ∉ t.watches ∧ renew = false) (fun t => zkpath ∉ t.watches) := by
    refine .handle (.seq (dataWatch_deleted _ _ _) fun renew => ?_) fun _ => .raise fun _ h => h
    refine .seq ?_ fun _ => .ret fun _ h => h
    exact (updateLast_logOnly.keeps (I := fun t => zkpath ∉ t.watches ∧ renew = false)
      fun _ _ _ h => h).post (fun _ _ h => h) fun _ h => h.1
  have hw : Triple (fun _ => True) (dataCallback zkpath (some data) (some stat) (some .deleted))
      (fun _ t => zkpath ∉ t.watches) (fun t => zkpath ∉ t.watches) :=
    h.post (fun _ _ h => h.1) fun _ h => h
  exact ⟨hw.after_post trivial, fun r t e => (h.ok_post trivial e).2⟩

namespace OneChild

def nodes : AList fun _ : ZkPath => ZNode :=
  (∅ : AList fun _ : ZkPath => ZNode).insert ["p"] ⟨"", ⟨0⟩⟩ |>.insert ["p", "c"] ⟨"v1", ⟨1⟩⟩

def temp : FsPath := ["p", ".tmpx"]

/-- After `sync_children('/p', watch_data=True)`: `/p/c` is mirrored and watched. -/
def synced : World :=
  { World.start nodes ∅ with
    dataWatches := [⟨1, ["p", "c"], true⟩]
    childWatches := [⟨0, ["p"], true, none, true⟩]
    nextId := 2
    fsLog := [.mkdir ["p"], .create temp 0, .write temp "v1", .chmod temp, .utime temp 1,
      .rename temp ["p", "c"]]
    reads := [(["p", "c"], ⟨"v1", ⟨1⟩⟩)]
    watches := [["p", "c"]]
    processedOnce := [["p"]] }

theorem sync_children_step :
    Step (World.start nodes ∅) (.call (.syncChildren ["p"] true none none)) synced :=
  exec_step rfl

end OneChild

namespace StaleChanged

open OneChild

def rewritten : World :=
  { synced with
    nodes := synced.nodes.insert ["p", "c"] ⟨"v2", ⟨2⟩⟩
    dataWatches := [⟨1, ["p", "c"], false⟩]
    queue := [.data 1 .changed] }

def deleted : World :=
  { rewritten with
    nodes := rewritten.nodes.erase ["p", "c"]
    childWatches := [⟨0, ["p"], true, none, false⟩]
    queue := [.data 1 .changed, .children 0] }

/-- The client reads the notification: `exists` finds no node, and the callback's
`stat.last_modified` ends the process. -/
def exited : World :=
  { deleted with
    dataWatches := [⟨1, ["p", "c"], true⟩]
    queue := [.children 0]
    alive := false }

end StaleChanged

open OneChild StaleChanged in
/-- Remote-gone is not absorbed: a watched child rewritten and then deleted before its
notification is read ends the process, and its mirror file stays behind. -/
theorem stale_changed_notification_ends_process :
    Run (World.start nodes ∅)
        [(World.start nodes ∅, .call (.syncChildren ["p"] true none none)),
          (synced, .remote (.setData ["p", "c"] ⟨"v2", ⟨2⟩⟩)),
          (rewritten, .remote (.delete ["p", "c"])), (deleted, .deliver)] exited ∧
      exited.alive = false ∧ ["p", "c"] ∈ exited.files ∧ ["p", "c"] ∉ exited.nodes :=
  ⟨.cons sync_children_step <| .cons (t := rewritten) (exec_step rfl) <|
    .cons (t := deleted) (exec_step rfl) <| .cons (t := exited) (exec_step rfl) <| .nil _,
    rfl, by decide, by decide⟩

end Treadmill.Zksync
