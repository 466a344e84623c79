import Mathlib.Data.List.AList
import Mathlib.Data.String.Basic
import Mathlib.Data.List.Sort

/-!
# The world of `treadmill.zksync`

A path is its list of names and `fsroot` is implicit; the local filesystem is the one the process
started with, replayed through the log of the engine's operations.
-/

namespace Treadmill.Zksync

/-- A ZooKeeper path as its list of node names: `/a/b` is `["a", "b"]`. -/
abbrev ZkPath := List String

abbrev FsPath := List String

/-- `Zk2Fs.fpath`: `os.path.join(fsroot, zkpath.lstrip('/'))`. -/
def fpath (zkpath : ZkPath) : FsPath := zkpath

/-- Modelled from the spec: `zknamespace.join_zookeeper_path` is not under src/; paths are
`/`-separated, so joining a child name appends it. -/
def joinZookeeperPath (zkpath : ZkPath) (node : String) : ZkPath := zkpath ++ [node]

def modifiedFile : FsPath := [".modified"]

def doneFile (dir : FsPath) : FsPath := dir ++ [".done"]

/-- Names `glob('*')` does not list: those beginning with a dot. -/
def hidden (name : String) : Bool := name.toList.head? == some '.'

/-- Python's `str` order: code points, lexicographically. -/
def NameLe (a b : String) : Prop := a.toList ≤ b.toList

instance : DecidableRel NameLe := fun a b => inferInstanceAs (Decidable (a.toList ≤ b.toList))

def sorted (names : List String) : List String := names.insertionSort NameLe

def nameIn (dir q : List String) : Option String :=
  if q.dropLast = dir then q.getLast? else none

theorem nameIn_eq_some {dir q : List String} {n : String} :
    nameIn dir q = some n ↔ q = dir ++ [n] := by
  unfold nameIn
  constructor
  · intro h
    split at h
    · rename_i hd
      obtain ⟨hne, rfl⟩ : ∃ hne : q ≠ [], q.getLast hne = n := by
        cases q with
        | nil => simp at h
        | cons a l => exact ⟨List.cons_ne_nil a l, by simpa [List.getLast?_eq_getLast] using h⟩
      rw [← hd, List.dropLast_append_getLast]
    · cases h
  · rintro rfl
    simp

structure Stat where
  lastModified : Nat
  deriving DecidableEq, Repr

structure ZNode where
  data : String
  stat : Stat
  deriving DecidableEq, Repr

/-- The type of a `WatchedEvent`; `_data_watch` compares it with `'DELETED'`. -/
inductive EventType where
  | created
  | deleted
  | changed
  | child
  deriving DecidableEq, Repr

/-- An entry of the local filesystem. Permission bits are not modelled. -/
inductive Entry where
  | file (content : String) (mtime : Nat)
  | dir
  deriving DecidableEq, Repr

abbrev Files := AList fun _ : FsPath => Entry

/-- One filesystem operation that took effect, as the engine issued it: the empty file
`NamedTemporaryFile` makes, the bytes of `temp.write` that reached the file, `os.fchmod`,
`os.utime`, `os.rename`, the `os.unlink` of `fs.rm_safe`, `utils.touch` and `fs.mkdir_safe`. -/
inductive FsOp where
  | create (path : FsPath) (mtime : Nat)
  | write (path : FsPath) (content : String)
  | chmod (path : FsPath)
  | utime (path : FsPath) (mtime : Nat)
  | rename (src dst : FsPath)
  | unlink (path : FsPath)
  | touch (path : FsPath) (mtime : Nat)
  | mkdir (path : FsPath)
  deriving DecidableEq, Repr

def FsOp.apply (fs : Files) : FsOp → Files
  | .create p t => fs.insert p (.file "" t)
  | .write p c =>
    match fs.lookup p with
    | some (.file _ m) => fs.insert p (.file c m)
    | _ => fs
  | .chmod _ => fs
  | .utime p t =>
    match fs.lookup p with
    | some (.file c _) => fs.insert p (.file c t)
    | _ => fs
  | .rename src dst =>
    match fs.lookup src with
    | some e => (fs.erase src).insert dst e
    | none => fs
  | .unlink p => fs.erase p
  | .touch p t =>
    match fs.lookup p with
    | some (.file c _) => fs.insert p (.file c t)
    | _ => fs.insert p (.file "" t)
  | .mkdir p => fs.insert p .dir

def replay (fs : Files) (ops : List FsOp) : Files := ops.foldl FsOp.apply fs

@[simp] theorem replay_nil (fs : Files) : replay fs [] = fs := rfl

@[simp] theorem replay_append (fs : Files) (ops ops' : List FsOp) :
    replay fs (ops ++ ops') = replay (replay fs ops) ops' := List.foldl_append ..

@[simp] theorem replay_singleton (fs : Files) (op : FsOp) : replay fs [op] = op.apply fs := rfl

/-- A live `kazoo` `DataWatch` on `path`; it is `armed` until its notification is queued. -/
structure DataWatch where
  id : Nat
  path : ZkPath
  armed : Bool
  deriving DecidableEq, Repr

/-- A live `kazoo` `ChildrenWatch`, with the arguments `_make_children_watch` closed over. -/
structure ChildrenWatch where
  id : Nat
  path : ZkPath
  watchData : Bool
  contWatchPredicate : Option (ZkPath → List String → Bool)
  armed : Bool

inductive Notification where
  | data (id : Nat) (event : EventType)
  | children (id : Nat)
  deriving DecidableEq, Repr

/-- The exceptions the engine can raise: `NoNodeError`, the `AttributeError` of
`stat.last_modified` on `None`, a failed filesystem call, and the exit of the process. -/
inductive Err where
  | noNode
  | attributeError
  | osError
  | exit
  deriving DecidableEq, Repr

/-- The coordination service, the local filesystem and a `Zk2Fs` object. The last three
fields are the environment's choices: which filesystem call fails (and after how many
bytes, for a write), the random part of each temporary name, and the wall clock; each is
indexed by the number of filesystem operations made so far. -/
structure World where
  nodes : AList fun _ : ZkPath => ZNode
  dataWatches : List DataWatch
  childWatches : List ChildrenWatch
  queue : List Notification
  nextId : Nat
  files0 : Files
  fsLog : List FsOp
  reads : List (ZkPath × ZNode)
  watches : List ZkPath
  processedOnce : List ZkPath
  ready : Bool
  alive : Bool
  fault : Nat → Option Nat
  tempSuffix : Nat → String
  clock : Nat → Nat

namespace World

def files (s : World) : Files := replay s.files0 s.fsLog

def perform (s : World) (op : FsOp) : World := { s with fsLog := s.fsLog ++ [op] }

def now (s : World) : Nat := s.clock s.fsLog.length

@[simp] theorem files_perform (s : World) (op : FsOp) : (s.perform op).files = op.apply s.files := by
  simp [files, perform]

/-- A process that has just started over the namespace `nodes` and the local filesystem
`files0`, in an environment where no filesystem call fails, every temporary name gets the
suffix `x` and the clock reads 0. -/
def start (nodes : AList fun _ : ZkPath => ZNode) (files0 : Files) : World where
  nodes := nodes
  dataWatches := []
  childWatches := []
  queue := []
  nextId := 0
  files0 := files0
  fsLog := []
  reads := []
  watches := []
  processedOnce := []
  ready := false
  alive := true
  fault := fun _ => none
  tempSuffix := fun _ => "x"
  clock := fun _ => 0

end World

def discard (z : ZkPath) (l : List ZkPath) : List ZkPath := l.filter (· != z)

@[simp] theorem mem_discard {z x : ZkPath} {l : List ZkPath} : x ∈ discard z l ↔ x ∈ l ∧ x ≠ z := by
  simp [discard]

/-- The engine: a method of `Zk2Fs` is a computation over the world that may raise. A raised
exception keeps the world as it was when it was raised. -/
abbrev Sync := EStateM Err World

end Treadmill.Zksync
