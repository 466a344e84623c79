import Mathlib.Logic.Function.Basic

/-!
# s6 service definitions

The `_utils` readers and writers are not under src/: each writer leaves an entry its own reader
returns, and a reader of a missing path raises `IOError`, except `value_read`.
-/

namespace Treadmill.S6

inductive ServiceType where
  | longRun
  | oneshot
  | bundle
  deriving DecidableEq, Repr

def ServiceType.value : ServiceType → String
  | .longRun => "longrun"
  | .oneshot => "oneshot"
  | .bundle => "bundle"

def ServiceType.ofValue (value : String) : Option ServiceType :=
  [ServiceType.longRun, .oneshot, .bundle].find? (·.value = value)

/-- What a path holds: a directory, or what one of the `_utils` writers left there. -/
inductive Entry where
  | dir
  | data (value : Option String)
  | value (n : Int)
  | script (text : String)
  | setList (items : List String)
  | environ (env : List (String × String))
  deriving DecidableEq, Repr

abbrev Files := List String → Option Entry

/-- What a service operation raises: `ValueError`, `IOError` with `ENOENT`, a reader that met an
entry another writer left, and `ServiceType(value)` of a value no member has. -/
inductive Error where
  | valueError (message : String)
  | noEntry (path : List String)
  | unreadable (path : List String)
  | notServiceType (value : String)
  deriving DecidableEq, Repr

abbrev Io := EStateM Error Files

def truthy : Option String → Bool
  | some s => !s.isEmpty
  | none => false

def put (p : List String) (e : Option Entry) : Io Unit :=
  modify fun fs => Function.update fs p e

def mkdirSafe (p : List String) : Io Unit := do
  if (← get) p = none then put p (some .dir)

def rmSafe (p : List String) : Io Unit := put p none

def dataWrite (p : List String) (value : Option String) : Io Unit := put p (some (.data value))

def valueWrite (p : List String) (n : Int) : Io Unit := put p (some (.value n))

def scriptWrite (p : List String) (text : String) : Io Unit := put p (some (.script text))

/-- `set_list_write`, which is not under src/. `__init__` keeps `dependencies` and `contents` as
given, the `dependencies` setter as `set(new_deps)`; the model keeps the list of items a service
holds, and what it proves of a list read back holds of the set it names. -/
def setListWrite (p : List String) (items : List String) : Io Unit := put p (some (.setList items))

def environDirWrite (p : List String) (env : List (String × String)) : Io Unit :=
  put p (some (.environ env))

/-- `if x is not None: <write>(path, x)`. -/
def writeSome {α : Type} (write : α → Io Unit) : Option α → Io Unit
  | some x => write x
  | none => pure ()

def pathExists (fs : Files) (p : List String) : Bool := (fs p).isSome

/-- Read what one writer left at `p`, with `IOError` when there is nothing. -/
def readEntry {α : Type} (fs : Files) (p : List String) (get? : Entry → Option α) : Except Error α :=
  match fs p with
  | none => .error (.noEntry p)
  | some e => match get? e with
    | some x => .ok x
    | none => .error (.unreadable p)

def dataRead (fs : Files) (p : List String) : Except Error String :=
  readEntry fs p fun | .data (some value) => some value | _ => none

def scriptRead (fs : Files) (p : List String) : Except Error String :=
  readEntry fs p fun | .script text => some text | _ => none

def setListRead (fs : Files) (p : List String) : Except Error (List String) :=
  readEntry fs p fun | .setList items => some items | _ => none

def environDirRead (fs : Files) (p : List String) : Except Error (List (String × String)) :=
  readEntry fs p fun | .environ env => some env | .dir => some [] | _ => none

def valueRead (fs : Files) (p : List String) (default : Int) : Except Error Int :=
  match fs p with
  | none => .ok default
  | some _ => readEntry fs p fun | .value n => some n | _ => none

/-- A property read on first use: the cached value, or what `read` returns, which is cached. -/
def lazyProperty {σ α : Type} (svc : σ) (cached : Option α) (cache : α → σ)
    (read : Except Error α) : Except Error (α × σ) :=
  match cached with
  | some v => .ok (v, svc)
  | none => read.map fun v => (v, cache v)

def serviceWrite (dir : List String) (type : ServiceType) : Io Unit := do
  mkdirSafe dir
  dataWrite (dir ++ ["type"]) (some type.value)

structure BundleService where
  directory : List String
  name : String
  contents : Option (List String)
  deriving DecidableEq, Repr

def BundleService.dir (svc : BundleService) : List String := svc.directory ++ [svc.name]

def BundleService.contentsFile (svc : BundleService) : List String := svc.dir ++ ["contents"]

def BundleService.getContents (svc : BundleService) (fs : Files) :
    Except Error (List String × BundleService) :=
  lazyProperty svc svc.contents (fun v => { svc with contents := some v })
    (setListRead fs svc.contentsFile)

def BundleService.write (svc : BundleService) : Io Unit := do
  serviceWrite svc.dir .bundle
  -- Mandatory settings
  if !(svc.contents.any (!·.isEmpty)) && !pathExists (← get) svc.contentsFile then
    throw (.valueError "Invalid Bundle: No content")
  else if let some contents := svc.contents then
    if contents.isEmpty then throw (.valueError "Invalid Bundle: empty")
    setListWrite svc.contentsFile contents

structure AtomicService where
  directory : List String
  name : String
  dependencies : Option (List String)
  timeoutUp : Option Int
  timeoutDown : Option Int
  env : Option (List (String × String))
  deriving DecidableEq, Repr

namespace AtomicService

variable (svc : AtomicService)

def dir : List String := svc.directory ++ [svc.name]

def dataDir : List String := svc.dir ++ ["data"]

def envDir : List String := svc.dir ++ ["env"]

def dependenciesFile : List String := svc.dir ++ ["dependencies"]

/-- `_AtomicService.write`: the dependencies, environ and timeouts are written only when set. -/
def write (type : ServiceType) : Io Unit := do
  serviceWrite svc.dir type
  mkdirSafe svc.envDir
  mkdirSafe svc.dataDir
  writeSome (setListWrite svc.dependenciesFile) svc.dependencies
  writeSome (environDirWrite svc.envDir) svc.env
  writeSome (valueWrite (svc.dir ++ ["timeout-up"])) svc.timeoutUp
  writeSome (valueWrite (svc.dir ++ ["timeout-down"])) svc.timeoutDown

end AtomicService

structure LongrunService extends AtomicService where
  consumerFor : Option String
  defaultDown : Option Bool
  finishScript : Option String
  logRunScript : Option String
  notificationFd : Option Int
  pipelineName : Option String
  producerFor : Option String
  runScript : Option String
  timeoutFinish : Option Int
  deriving DecidableEq, Repr

namespace LongrunService

/-- `LongrunService(directory, name, ...)`; the timeouts up and down are not arguments. -/
def init (directory : List String) (name : String) (runScript finishScript : Option String)
    (notificationFd : Option Int) (logRunScript : Option String) (timeoutFinish : Option Int)
    (defaultDown : Option Bool) (pipelineName producerFor consumerFor : Option String)
    (dependencies : Option (List String)) (environ : Option (List (String × String))) :
    Except Error LongrunService :=
  if truthy producerFor && truthy logRunScript then
    .error (.valueError "Invalid LongRun service options: producer/log")
  else
    .ok { directory, name, dependencies, timeoutUp := none, timeoutDown := none, env := environ,
          consumerFor, defaultDown, finishScript, logRunScript, notificationFd, pipelineName,
          producerFor, runScript, timeoutFinish }

variable (svc : LongrunService)

def loggerDir : List String := svc.dir ++ ["log"]

def runFile : List String := svc.dir ++ ["run"]

def finishFile : List String := svc.dir ++ ["finish"]

def logRunFile : List String := svc.loggerDir ++ ["run"]

def downFile : List String := svc.dir ++ ["down"]

def pipelineNameFile : List String := svc.dir ++ ["pipeline-name"]

def producerForFile : List String := svc.dir ++ ["producer-for"]

def consumerForFile : List String := svc.dir ++ ["consumer-for"]

def write : Io Unit := do
  svc.toAtomicService.write .longRun
  -- Mandatory settings
  if svc.runScript.isNone && !pathExists (← get) svc.runFile then
    throw (.valueError "Invalid LongRun service: not run script")
  else writeSome (scriptWrite svc.runFile) svc.runScript
  -- Optional settings
  writeSome (scriptWrite svc.finishFile) svc.finishScript
  writeSome (fun s => do mkdirSafe svc.loggerDir; scriptWrite svc.logRunFile s) svc.logRunScript
  if svc.defaultDown = some true then dataWrite svc.downFile none
  else rmSafe svc.downFile
  writeSome (valueWrite (svc.dir ++ ["timeout-finish"])) svc.timeoutFinish
  writeSome (valueWrite (svc.dir ++ ["notification-fd"])) svc.notificationFd
  writeSome (fun v => dataWrite svc.pipelineNameFile (some v)) svc.pipelineName
  writeSome (fun v => dataWrite svc.producerForFile (some v)) svc.producerFor
  writeSome (fun v => dataWrite svc.consumerForFile (some v)) svc.consumerFor

variable (fs : Files)

def getDependencies : Except Error (List String × LongrunService) :=
  lazyProperty svc svc.dependencies (fun v => { svc with dependencies := some v })
    (setListRead fs svc.dependenciesFile)

def getEnviron : Except Error (List (String × String) × LongrunService) :=
  lazyProperty svc svc.env (fun v => { svc with env := some v }) (environDirRead fs svc.envDir)

def getTimeoutUp : Except Error (Int × LongrunService) :=
  lazyProperty svc svc.timeoutUp (fun v => { svc with timeoutUp := some v })
    (valueRead fs (svc.dir ++ ["timeout-up"]) 0)

def getTimeoutDown : Except Error (Int × LongrunService) :=
  lazyProperty svc svc.timeoutDown (fun v => { svc with timeoutDown := some v })
    (valueRead fs (svc.dir ++ ["timeout-down"]) 0)

def getNotificationFd : Except Error (Int × LongrunService) :=
  lazyProperty svc svc.notificationFd (fun v => { svc with notificationFd := some v })
    (valueRead fs (svc.dir ++ ["notification-fd"]) (-1))

def getDefaultDown : Except Error (Bool × LongrunService) :=
  lazyProperty svc svc.defaultDown (fun v => { svc with defaultDown := some v })
    (.ok (pathExists fs svc.downFile))

def getRunScript : Except Error (String × LongrunService) :=
  lazyProperty svc svc.runScript (fun v => { svc with runScript := some v })
    (scriptRead fs svc.runFile)

/-- A script that may be missing: `ENOENT` leaves the property `None`. -/
def optionalScript (cached : Option String) (cache : String → LongrunService) (p : List String) :
    Except Error (Option String × LongrunService) :=
  match cached with
  | some v => .ok (some v, svc)
  | none => match scriptRead fs p with
    | .ok v => .ok (some v, cache v)
    | .error (.noEntry _) => .ok (none, svc)
    | .error e => .error e

def getFinishScript : Except Error (Option String × LongrunService) :=
  svc.optionalScript fs svc.finishScript (fun v => { svc with finishScript := some v }) svc.finishFile

def getLogRunScript : Except Error (Option String × LongrunService) :=
  svc.optionalScript fs svc.logRunScript (fun v => { svc with logRunScript := some v })
    svc.logRunFile

def getTimeoutFinish : Except Error (Int × LongrunService) :=
  lazyProperty svc svc.timeoutFinish (fun v => { svc with timeoutFinish := some v })
    (valueRead fs (svc.dir ++ ["timeout-finish"]) 5000)

def getPipelineName : Except Error (String × LongrunService) :=
  lazyProperty svc svc.pipelineName (fun v => { svc with pipelineName := some v })
    (dataRead fs svc.pipelineNameFile)

def getProducerFor : Except Error (String × LongrunService) :=
  lazyProperty svc svc.producerFor (fun v => { svc with producerFor := some v })
    (dataRead fs svc.producerForFile)

def getConsumerFor : Except Error (String × LongrunService) :=
  lazyProperty svc svc.consumerFor (fun v => { svc with consumerFor := some v })
    (dataRead fs svc.consumerForFile)

end LongrunService

structure OneshotService extends AtomicService where
  up : Option String
  down : Option String
  deriving DecidableEq, Repr

namespace OneshotService

variable (svc : OneshotService)

def upFile : List String := svc.dir ++ ["up"]

def downFile : List String := svc.dir ++ ["down"]

def write : Io Unit := do
  svc.toAtomicService.write .oneshot
  -- Mandatory settings
  if !truthy svc.up && !pathExists (← get) svc.upFile then
    throw (.valueError "Invalid Oneshot service: not up script")
  else writeSome (scriptWrite svc.upFile) svc.up
  -- Optional settings
  writeSome (scriptWrite svc.downFile) svc.down

def getUp (fs : Files) : Except Error (String × OneshotService) :=
  lazyProperty svc svc.up (fun v => { svc with up := some v }) (scriptRead fs svc.upFile)

def getDown (fs : Files) : Except Error (String × OneshotService) :=
  lazyProperty svc svc.down (fun v => { svc with down := some v }) (scriptRead fs svc.downFile)

end OneshotService

inductive Service where
  | bundle (svc : BundleService)
  | longrun (svc : LongrunService)
  | oneshot (svc : OneshotService)
  deriving DecidableEq, Repr

/-- A service object with no property set nor read. -/
def AtomicService.blank (directory : List String) (name : String) : AtomicService :=
  ⟨directory, name, none, none, none, none⟩

def LongrunService.blank (directory : List String) (name : String) : LongrunService :=
  ⟨.blank directory name, none, none, none, none, none, none, none, none, none⟩

def OneshotService.blank (directory : List String) (name : String) : OneshotService :=
  ⟨.blank directory name, none, none⟩

def Service.new (directory : List String) (name : String) : ServiceType → Service
  | .longRun => .longrun (.blank directory name)
  | .oneshot => .oneshot (.blank directory name)
  | .bundle => .bundle ⟨directory, name, none⟩

/-- `Service.from_dir`: `None` when the directory has no `type` file. -/
def Service.fromDir (fs : Files) (directory : List String) : Except Error (Option Service) :=
  match dataRead fs (directory ++ ["type"]) with
  | .error (.noEntry _) => .ok none
  | .error e => .error e
  | .ok svcType => match ServiceType.ofValue svcType with
    | none => .error (.notServiceType svcType)
    | some type => .ok (some (Service.new directory.dropLast (directory.getLast?.getD "") type))

end Treadmill.S6
