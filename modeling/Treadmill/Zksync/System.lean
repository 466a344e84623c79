import Treadmill.Zksync.Engine

/-!
# The system around `Zk2Fs`

The caller, the coordination service and the client's delivery of notifications, one step at a
time.
-/

namespace Treadmill.Zksync

/-- The armed data watches of `z` fire: each is disarmed and its notification queued. -/
def fireData (z : ZkPath) (event : EventType) (s : World) : World :=
  { s with
    dataWatches := s.dataWatches.map fun w => if w.path = z then { w with armed := false } else w
    queue := s.queue ++ (s.dataWatches.filter fun w => w.path = z && w.armed).map
      fun w => .data w.id event }

def fireChildren (z : ZkPath) (s : World) : World :=
  { s with
    childWatches := s.childWatches.map fun w => if w.path = z then { w with armed := false } else w
    queue := s.queue ++ (s.childWatches.filter fun w => w.path = z && w.armed).map
      fun w => .children w.id }

/-- A change another client makes to the namespace. -/
inductive RemoteOp where
  | create (zkpath : ZkPath) (node : ZNode)
  | delete (zkpath : ZkPath)
  | setData (zkpath : ZkPath) (node : ZNode)
  deriving DecidableEq, Repr

/-- ZooKeeper accepts a create under an existing parent, a delete of a childless node
other than the root, and a write to an existing node. -/
def RemoteOp.enabled (s : World) : RemoteOp → Bool
  | .create z _ => z != [] && z ∉ s.nodes && z.dropLast ∈ s.nodes
  | .delete z => z != [] && z ∈ s.nodes && childrenOf s.nodes z == []
  | .setData z _ => z ∈ s.nodes

def RemoteOp.apply (s : World) : RemoteOp → World
  | .create z n => fireChildren z.dropLast (fireData z .created { s with nodes := s.nodes.insert z n })
  | .delete z =>
    fireChildren z.dropLast (fireChildren z (fireData z .deleted { s with nodes := s.nodes.erase z }))
  | .setData z n => fireData z .changed { s with nodes := s.nodes.insert z n }

/-- What the caller asks of the engine. -/
inductive Call where
  | syncData (zkpath : ZkPath)
  | syncChildren (zkpath : ZkPath) (watchData : Bool)
      (needWatchPredicate : Option (ZkPath → Bool))
      (contWatchPredicate : Option (ZkPath → List String → Bool))
  | markReady

def Call.run : Call → Sync Unit
  | .syncData z => Zksync.syncData z
  | .syncChildren z w nw cw => Zksync.syncChildren z w nw cw
  | .markReady => Zksync.markReady

/-- The world a call or a delivery leaves: an exit ends the process, and any other exception
returns to the caller with the world as it was raised in. -/
def settle : EStateM.Result Err World Unit → World
  | .ok _ s => s
  | .error e s => if e = .exit then { s with alive := false } else s

inductive Label where
  | call (c : Call)
  | remote (op : RemoteOp)
  | deliver
  | sessionLost

/-- One step of the system. -/
inductive Step : World → Label → World → Prop where
  | call {s : World} (c : Call) (h : s.alive) : Step s (.call c) (settle (c.run s))
  | remote {s : World} (op : RemoteOp) (h : op.enabled s) : Step s (.remote op) (op.apply s)
  | deliver {s : World} {n : Notification} {q : List Notification} (h : s.alive)
      (hq : s.queue = n :: q) : Step s .deliver (settle (deliver n { s with queue := q }))
  | sessionLost {s : World} : Step s .sessionLost { s with alive := false }

/-- A run from `s` to `s'`: each step with the world it was taken in. -/
inductive Run : World → List (World × Label) → World → Prop where
  | nil (s : World) : Run s [] s
  | snoc {s t u : World} {l : Label} {steps : List (World × Label)} :
      Run s steps t → Step t l u → Run s (steps ++ [(t, l)]) u

/-- A process that has just started: a new `Zk2Fs` and no watches. -/
structure Fresh (s : World) : Prop where
  dataWatches : s.dataWatches = []
  childWatches : s.childWatches = []
  queue : s.queue = []
  fsLog : s.fsLog = []
  reads : s.reads = []
  watches : s.watches = []
  processedOnce : s.processedOnce = []
  ready : s.ready = false
  alive : s.alive = true

theorem World.start_fresh (nodes : AList fun _ : ZkPath => ZNode) (files0 : Files) :
    Fresh (World.start nodes files0) :=
  ⟨rfl, rfl, rfl, rfl, rfl, rfl, rfl, rfl, rfl⟩

def exec (s : World) : Label → Option World
  | .call c => if s.alive then some (settle (c.run s)) else none
  | .remote op => if op.enabled s then some (op.apply s) else none
  | .deliver =>
    if s.alive then
      match s.queue with
      | n :: q => some (settle (deliver n { s with queue := q }))
      | [] => none
    else none
  | .sessionLost => some { s with alive := false }

theorem exec_step {s s' : World} {l : Label} (h : exec s l = some s') : Step s l s' := by
  cases l with
  | call c =>
    simp only [exec] at h
    split at h
    · cases h
      exact .call c ‹_›
    · cases h
  | remote op =>
    simp only [exec] at h
    split at h
    · cases h
      exact .remote op ‹_›
    · cases h
  | deliver =>
    simp only [exec] at h
    split at h
    · split at h
      · cases h
        exact .deliver ‹_› ‹_›
      · cases h
    · cases h
  | sessionLost =>
    cases h
    exact .sessionLost

def execAll : World → List Label → Option (List (World × Label) × World)
  | s, [] => some ([], s)
  | s, l :: ls =>
    match exec s l with
    | some t => (execAll t ls).map fun (steps, u) => ((s, l) :: steps, u)
    | none => none

theorem Run.cons {s t u : World} {l : Label} {steps : List (World × Label)}
    (h : Step s l t) (hr : Run t steps u) : Run s ((s, l) :: steps) u := by
  induction hr with
  | nil => exact .snoc (.nil s) h
  | snoc _ hs ih => exact .snoc ih hs

theorem execAll_run {s : World} {ls : List Label} {steps : List (World × Label)} {u : World}
    (h : execAll s ls = some (steps, u)) : Run s steps u := by
  induction ls generalizing s steps with
  | nil =>
    simp only [execAll, Option.some.injEq, Prod.mk.injEq] at h
    obtain ⟨rfl, rfl⟩ := h
    exact .nil s
  | cons l ls ih =>
    simp only [execAll] at h
    split at h
    · rename_i t ht
      obtain ⟨⟨steps', u'⟩, hr, he⟩ := Option.map_eq_some'.mp h
      simp only [Prod.mk.injEq] at he
      obtain ⟨rfl, rfl⟩ := he
      exact Run.cons (exec_step ht) (ih hr)
    · cases h

theorem execAll_labels {s : World} {ls : List Label} {steps : List (World × Label)} {u : World}
    (h : execAll s ls = some (steps, u)) : steps.map Prod.snd = ls := by
  induction ls generalizing s steps with
  | nil =>
    simp only [execAll, Option.some.injEq, Prod.mk.injEq] at h
    rw [← h.1, List.map_nil]
  | cons l ls ih =>
    simp only [execAll] at h
    split at h
    · obtain ⟨⟨steps', u'⟩, hr, he⟩ := Option.map_eq_some'.mp h
      simp only [Prod.mk.injEq] at he
      obtain ⟨rfl, rfl⟩ := he
      rw [List.map_cons, ih hr]
    · cases h

end Treadmill.Zksync
