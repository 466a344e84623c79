import Treadmill.Zksync.Merge

/-!
# `Zk2Fs`: the methods of the engine, and the watches of its `kazoo` client

A watch calls its function when it is installed and on each delivery, and stops when the function
returns `False`; `zksync` wraps each function in `exc.exit_on_unhandled`.
-/

namespace Treadmill.Zksync

def newWatchId : Sync Nat := fun s => .ok s.nextId { s with nextId := s.nextId + 1 }

def registerDataWatch (id : Nat) (path : ZkPath) (s : World) : World :=
  { s with dataWatches := s.dataWatches ++ [⟨id, path, true⟩] }

def armDataWatch (id : Nat) (s : World) : World :=
  { s with dataWatches := s.dataWatches.map fun w => if w.id = id then { w with armed := true } else w }

def stopDataWatch (id : Nat) (s : World) : World :=
  { s with dataWatches := s.dataWatches.filter (·.id != id) }

def registerChildrenWatch (id : Nat) (path : ZkPath) (watchData : Bool)
    (contWatchPredicate : Option (ZkPath → List String → Bool)) (s : World) : World :=
  { s with childWatches := s.childWatches ++ [⟨id, path, watchData, contWatchPredicate, true⟩] }

def armChildrenWatch (id : Nat) (s : World) : World :=
  { s with childWatches := s.childWatches.map fun w => if w.id = id then { w with armed := true } else w }

def stopChildrenWatch (id : Nat) (s : World) : World :=
  { s with childWatches := s.childWatches.filter (·.id != id) }

/-- `get_children` as a `ChildrenWatch` calls it: `none` on `NoNodeError`. -/
def listChildren (zkpath : ZkPath) : Sync (Option (List String)) := fun s =>
  .ok (if zkpath ∈ s.nodes then some (childrenOf s.nodes zkpath) else none) s

def updateLast : Sync Unit := do
  if (← get).ready then
    touch modifiedFile
    let s ← get
    osUtime modifiedFile s.now

def markReady : Sync Unit := do
  modify fun s => { s with ready := true }
  updateLast

def defaultOnDel (zkpath : ZkPath) : Sync Unit := rmSafe (fpath zkpath)

/-- `Zk2Fs._write_data`: `stat.last_modified` raises on `None`. -/
def writeStat (fpath : FsPath) (data : Option String) : Option Stat → Sync Unit
  | some ⟨lastModified⟩ => writeData fpath data lastModified true
  | none => throw .attributeError

def dataWatch (zkpath : ZkPath) (data : Option String) (stat : Option Stat)
    (event : Option EventType) : Sync Bool := do
  let fpath := fpath zkpath
  (if data.isNone && event.isNone then do
      modify fun s => { s with watches := discard zkpath s.watches }
      rmSafe fpath
    else if event = some .deleted then do
      modify fun s => { s with watches := discard zkpath s.watches }
      rmSafe fpath
    else
      writeStat fpath data stat)
  pure (zkpath ∈ (← get).watches)

/-- The callback `sync_data` installs on a watched path. -/
def dataCallback (zkpath : ZkPath) (data : Option String) (stat : Option Stat)
    (event : Option EventType) : Sync Bool :=
  exitOnUnhandled do
    let renew ← dataWatch zkpath data stat event
    updateLast
    pure renew

def installDataWatch (zkpath : ZkPath) : Sync Unit := do
  let id ← newWatchId
  let (data, stat) ← readNode zkpath
  modify (registerDataWatch id zkpath)
  let renew ← dataCallback zkpath data stat none
  unless renew do modify (stopDataWatch id)

def syncData (zkpath : ZkPath) : Sync Unit := do
  if zkpath ∈ (← get).watches then
    installDataWatch zkpath
  else
    let (data, stat) ← zkGet zkpath
    writeStat (fpath zkpath) (some data) (some stat)
    updateLast

def defaultOnAdd (zknode : ZkPath) : Sync Unit := syncData zknode

/-- The body of the remove loop of `_children_watch`. -/
def delNode (zkpath : ZkPath) (onDel : ZkPath → Sync Unit) (node : String) : Sync Unit := do
  let zknode := joinZookeeperPath zkpath node
  modify fun s => { s with watches := discard zknode s.watches }
  onDel zknode

/-- The body of the common and add loops of `_children_watch`. -/
def addNode (zkpath : ZkPath) (watchData : Bool) (onAdd : ZkPath → Sync Unit) (node : String) :
    Sync Unit := do
  let zknode := joinZookeeperPath zkpath node
  (if watchData then modify fun s => { s with watches := s.watches.insert zknode } else pure ())
  onAdd zknode

def contWatch (contWatchPredicate : Option (ZkPath → List String → Bool)) (zkpath : ZkPath)
    (sortedChildren : List String) : Bool :=
  match contWatchPredicate with
  | some pred => pred zkpath sortedChildren
  | none => true

def needWatch (needWatchPredicate : Option (ZkPath → Bool)) (zkpath : ZkPath) : Bool :=
  match needWatchPredicate with
  | some pred => pred zkpath
  | none => true

/-- `Zk2Fs._children_watch`: one reconciliation pass of `zkpath` against `children`. -/
def childrenWatch (zkpath : ZkPath) (children : List String) (watchData : Bool)
    (onAdd onDel : ZkPath → Sync Unit)
    (contWatchPredicate : Option (ZkPath → List String → Bool)) : Sync Bool := do
  let sortedChildren := sorted children
  let sortedFilenames := sorted (glob (← get).files (fpath zkpath))
  let acts := filterChildrenActions sortedChildren sortedFilenames
  acts.remove.forM (delNode zkpath onDel)
  (if zkpath ∉ (← get).processedOnce then do
      modify fun s => { s with processedOnce := s.processedOnce.insert zkpath }
      acts.common.forM (addNode zkpath watchData onAdd)
    else pure ())
  acts.add.forM (addNode zkpath watchData onAdd)
  pure (contWatch contWatchPredicate zkpath sortedChildren)

/-- The callback `_make_children_watch` installs, closed over its `on_add` and `on_del`. -/
def childrenCallbackWith (zkpath : ZkPath) (watchData : Bool) (onAdd onDel : ZkPath → Sync Unit)
    (contWatchPredicate : Option (ZkPath → List String → Bool)) (children : List String) :
    Sync Bool :=
  exitOnUnhandled do
    let renew ← childrenWatch zkpath children watchData onAdd onDel contWatchPredicate
    updateLast
    pure renew

def childrenCallback (zkpath : ZkPath) (watchData : Bool)
    (contWatchPredicate : Option (ZkPath → List String → Bool)) (children : List String) :
    Sync Bool :=
  childrenCallbackWith zkpath watchData defaultOnAdd defaultOnDel contWatchPredicate children

/-- `Zk2Fs._make_children_watch`, with `self.zkclient.ChildrenWatch(zkpath)`: a missing node
stops the watch before the callback runs. -/
def makeChildrenWatchWith (zkpath : ZkPath) (watchData : Bool) (onAdd onDel : ZkPath → Sync Unit)
    (contWatchPredicate : Option (ZkPath → List String → Bool)) : Sync Unit := do
  match ← listChildren zkpath with
  | none => pure ()
  | some children =>
    let id ← newWatchId
    modify (registerChildrenWatch id zkpath watchData contWatchPredicate)
    let renew ← childrenCallbackWith zkpath watchData onAdd onDel contWatchPredicate children
    unless renew do modify (stopChildrenWatch id)

def makeChildrenWatch (zkpath : ZkPath) (watchData : Bool)
    (contWatchPredicate : Option (ZkPath → List String → Bool)) : Sync Unit :=
  makeChildrenWatchWith zkpath watchData defaultOnAdd defaultOnDel contWatchPredicate

/-- `Zk2Fs.sync_children` with the `on_add` and `on_del` it calls. -/
def syncChildrenWith (zkpath : ZkPath) (watchData : Bool) (onAdd onDel : ZkPath → Sync Unit)
    (needWatchPredicate : Option (ZkPath → Bool))
    (contWatchPredicate : Option (ZkPath → List String → Bool)) : Sync Unit := do
  let fpath := fpath zkpath
  mkdirSafe fpath
  if doneFile fpath ∈ (← get).files then pure ()
  else
    if needWatch needWatchPredicate zkpath then
      makeChildrenWatchWith zkpath watchData onAdd onDel contWatchPredicate
    else
      let children ← tryCatch (zkGetChildren zkpath) fun
        | .noNode => pure []
        | e => throw e
      let needWatch ← childrenWatch zkpath children watchData onAdd onDel contWatchPredicate
      (if needWatch then makeChildrenWatchWith zkpath watchData onAdd onDel contWatchPredicate
        else pure ())
      updateLast
      unless needWatch do touch (doneFile fpath)

/-- `sync_children` as the callers call it, with `on_add` and `on_del` left `None`. -/
def syncChildren (zkpath : ZkPath) (watchData : Bool)
    (needWatchPredicate : Option (ZkPath → Bool))
    (contWatchPredicate : Option (ZkPath → List String → Bool)) : Sync Unit :=
  syncChildrenWith zkpath watchData defaultOnAdd defaultOnDel needWatchPredicate contWatchPredicate

/-- The client runs a fired watch: it reads again, arms the watch again, and calls its
callback; a stopped watch is ignored, and a `ChildrenWatch` whose node is gone stops. -/
def deliver : Notification → Sync Unit
  | .data id event => do
    match (← get).dataWatches.find? (·.id == id) with
    | none => pure ()
    | some ⟨_, path, _⟩ =>
      let (data, stat) ← readNode path
      modify (armDataWatch id)
      let renew ← dataCallback path data stat (some event)
      unless renew do modify (stopDataWatch id)
  | .children id => do
    match (← get).childWatches.find? (·.id == id) with
    | none => pure ()
    | some ⟨_, path, watchData, contWatchPredicate, _⟩ =>
      match ← listChildren path with
      | none => modify (stopChildrenWatch id)
      | some children =>
        modify (armChildrenWatch id)
        let renew ← childrenCallback path watchData contWatchPredicate children
        unless renew do modify (stopChildrenWatch id)

end Treadmill.Zksync
