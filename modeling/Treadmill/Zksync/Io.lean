import Treadmill.Zksync.State

/-!
# The calls `zksync` makes: the local filesystem and the ZooKeeper client

Each filesystem call is one operation of the log and fails when the environment says so.
-/

namespace Treadmill.Zksync

section Monad

variable {α β : Type} (s : World)

@[simp] theorem bind_apply (x : Sync α) (f : α → Sync β) :
    (x >>= f) s = match x s with
      | .ok a s' => f a s'
      | .error e s' => .error e s' := by
  cases h : x s <;> simp only [bind, EStateM.bind, h]

@[simp] theorem pure_apply (a : α) : (pure a : Sync α) s = .ok a s := rfl

@[simp] theorem get_apply : (get : Sync World) s = .ok s s := rfl

@[simp] theorem modify_apply (f : World → World) : (modify f : Sync Unit) s = .ok () (f s) := rfl

@[simp] theorem throw_apply (e : Err) : (throw e : Sync α) s = .error e s := rfl

@[simp] theorem tryCatch_apply (x : Sync α) (h : Err → Sync α) :
    (tryCatch x h) s = match x s with
      | .ok a s' => .ok a s'
      | .error e s' => h e s' := by
  show EStateM.tryCatch x h s = _
  simp only [EStateM.tryCatch]
  cases x s <;> rfl

end Monad

theorem bind_apply_eq_ok {α β : Type} {s t : World} {x : Sync α} {f : α → Sync β} {b : β} :
    (x >>= f) s = .ok b t ↔ ∃ a u, x s = .ok a u ∧ f a u = .ok b t := by
  rw [bind_apply]
  cases x s <;> simp [and_assoc]

/-- One filesystem call; it fails, changing nothing, when the environment says so. -/
def fsCall (op : FsOp) : Sync Unit := fun s =>
  match s.fault s.fsLog.length with
  | none => .ok () (s.perform op)
  | some _ => .error .osError s

/-- `temp.write(data)`: a failing write leaves the bytes that reached the file. -/
def fsWrite (path : FsPath) (data : String) : Sync Unit := fun s =>
  match s.fault s.fsLog.length with
  | none => .ok () (s.perform (.write path data))
  | some k => .error .osError (s.perform (.write path ⟨data.toList.take k⟩))

def namedTemporaryFile (dir : FsPath) : Sync FsPath := fun s =>
  let temp := dir ++ [".tmp" ++ s.tempSuffix s.fsLog.length]
  if temp ∈ s.files then .error .osError s
  else (do fsCall (.create temp s.now); pure temp) s

/-- `os.rename`: it fails onto a directory. -/
def osRename (src dst : FsPath) : Sync Unit := fun s =>
  if s.files.lookup dst = some .dir then .error .osError s else fsCall (.rename src dst) s

def osUtime (path : FsPath) (mtime : Nat) : Sync Unit := fun s =>
  if path ∈ s.files then fsCall (.utime path mtime) s else .error .osError s

def truthy : Option String → Bool
  | some d => d != ""
  | none => false

/-- `write_data`: write to a temporary file in the same directory, stamp it with the
remote modification time, then rename it over `fpath`. -/
def writeData (fpath : FsPath) (data : Option String) (modified : Nat) (raiseErr : Bool) :
    Sync Unit := do
  let temp ← namedTemporaryFile fpath.dropLast
  (if truthy data then fsWrite temp (data.getD "") else pure ())
  fsCall (.chmod temp)
  fsCall (.utime temp modified)
  tryCatch (osRename temp fpath) fun e => if raiseErr then throw e else pure ()

/-- Modelled from the spec: `fs.rm_safe` is not under src/. It unlinks a file and ignores
a missing one; `unlink` fails on a directory. -/
def rmSafe (path : FsPath) : Sync Unit := fun s =>
  match s.files.lookup path with
  | none => .ok () s
  | some .dir => .error .osError s
  | some (.file ..) => fsCall (.unlink path) s

/-- Modelled from the spec: `fs.mkdir_safe` is not under src/. It makes a directory and
ignores an existing entry. -/
def mkdirSafe (path : FsPath) : Sync Unit := fun s =>
  if path ∈ s.files then .ok () s else fsCall (.mkdir path) s

/-- Modelled from the spec: `utils.touch` is not under src/. It creates the file when
missing and sets its modification time to now. -/
def touch (path : FsPath) : Sync Unit := fun s =>
  if s.files.lookup path = some .dir then .error .osError s else fsCall (.touch path s.now) s

def hasMagic (name : String) : Bool := name.toList.any fun c => c == '*' || c == '?' || c == '['

/-- A directory `glob` reads as itself: none of its names holds `*`, `?` or `[` (`glob.has_magic`). -/
def Plain (dir : FsPath) : Prop := ∀ n ∈ dir, hasMagic n = false

instance : DecidablePred Plain := fun dir => inferInstanceAs (Decidable (∀ n ∈ dir, _))

/-- `map(os.path.basename, glob.glob(os.path.join(dir, '*')))` for a `Plain` directory (and
`fsroot`): its entries whose names do not begin with a dot. `glob` reads a directory with a
magic character as a pattern; the model lists it literally, so what is proved of a listing is
proved for plain directories. -/
def glob (fs : Files) (dir : FsPath) : List String :=
  (fs.keys.filterMap (nameIn dir)).filter fun n => !hidden n

def childrenOf (nodes : AList fun _ : ZkPath => ZNode) (zkpath : ZkPath) : List String :=
  nodes.keys.filterMap (nameIn zkpath)

def zkGet (zkpath : ZkPath) : Sync (String × Stat) := fun s =>
  match s.nodes.lookup zkpath with
  | some ⟨data, stat⟩ => .ok (data, stat) { s with reads := s.reads ++ [(zkpath, ⟨data, stat⟩)] }
  | none => .error .noNode s

def zkGetChildren (zkpath : ZkPath) : Sync (List String) := fun s =>
  if zkpath ∈ s.nodes then .ok (childrenOf s.nodes zkpath) s else .error .noNode s

/-- What a `DataWatch` reads when it fires: `get`, or `exists` when there is no node. -/
def readNode (zkpath : ZkPath) : Sync (Option String × Option Stat) := fun s =>
  match s.nodes.lookup zkpath with
  | some ⟨data, stat⟩ =>
    .ok (some data, some stat) { s with reads := s.reads ++ [(zkpath, ⟨data, stat⟩)] }
  | none => .ok (none, none) s

/-- Modelled from the spec: `exc.exit_on_unhandled` is not under src/. Any exception the
wrapped callback raises terminates the process. -/
def exitOnUnhandled {α : Type} (x : Sync α) : Sync α := tryCatch x fun _ => throw .exit

theorem mem_filterMap_nameIn {keys : List FsPath} {dir : FsPath} {n : String} :
    n ∈ keys.filterMap (nameIn dir) ↔ dir ++ [n] ∈ keys := by
  simp only [List.mem_filterMap, nameIn_eq_some]
  simp

theorem nodup_filterMap_nameIn {keys : List FsPath} (h : keys.Nodup) (dir : FsPath) :
    (keys.filterMap (nameIn dir)).Nodup :=
  h.filterMap fun _ _ _ h1 h2 => (nameIn_eq_some.mp h1).trans (nameIn_eq_some.mp h2).symm

@[simp] theorem mem_glob {fs : Files} {dir : FsPath} {n : String} :
    n ∈ glob fs dir ↔ hidden n = false ∧ dir ++ [n] ∈ fs := by
  simp only [glob, List.mem_filter, mem_filterMap_nameIn, AList.mem_keys]
  simp [and_comm]

theorem glob_nodup (fs : Files) (dir : FsPath) : (glob fs dir).Nodup :=
  (nodup_filterMap_nameIn fs.keys_nodup dir).filter _

@[simp] theorem mem_childrenOf {nodes : AList fun _ : ZkPath => ZNode} {z : ZkPath} {n : String} :
    n ∈ childrenOf nodes z ↔ z ++ [n] ∈ nodes := by
  rw [childrenOf, mem_filterMap_nameIn, AList.mem_keys]

theorem childrenOf_nodup (nodes : AList fun _ : ZkPath => ZNode) (z : ZkPath) :
    (childrenOf nodes z).Nodup :=
  nodup_filterMap_nameIn nodes.keys_nodup z

end Treadmill.Zksync
