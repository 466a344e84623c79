import Treadmill.Zksync.State
import Treadmill.Allocation.Listing

/-!
# `treadmill.sproc.init`: the node's presence daemon

Every call outside src/ is recorded in a log, and the world answers it, or makes it raise, as a
function of the log so far; each `while` loop gets fuel.
-/

namespace Treadmill.Sproc

open Zksync (EventType)

/-- The nodes of the coordination service the daemon uses, by `zknamespace`, for this host:
`z.SERVER_PRESENCE` and the `z.path` of `blackedout_server`, `server_presence` and `server`. -/
inductive ZkNode where
  | serverPresenceDir
  | blackedoutServer (hostname : String)
  | serverPresence (hostname : String)
  | server (hostname : String)
  deriving DecidableEq, Repr

abbrev NodeInfo := List (String × String)

/-- What a `DataWatch` passes its function: the node's data (`None` when there is no node) and
the event, `None` on the call made when the watch is set. -/
structure Reading where
  data : Option String
  event : Option EventType
  deriving DecidableEq, Repr

/-- A call of the daemon to the world outside src/, named after what it calls, with the answer it
got where it reads one: `get` the owner session of the node (`none` for `NoNodeError`), `delete`
whether the node was there, `dataWatch` what the watch reads when it is set, `wait` the watch's
calls meanwhile, and `check` the watchdogs that failed. -/
inductive Call where
  | connect
  | reportReady
  | zkExists (node : ZkNode) (found : Bool)
  | sleep (secs : Nat)
  | get (node : ZkNode) (owner : Option Nat)
  | delete (node : ZkNode) (found : Bool)
  | nodeInfo (info : NodeInfo)
  | zkGet (node : ZkNode) (info : NodeInfo)
  | update (node : ZkNode) (info : NodeInfo)
  | put (node : ZkNode) (data : NodeInfo) (ephemeral : Bool)
  | tmEnvInit (info : NodeInfo)
  | watchdogsInit
  | forwardingSet (dev : String) (enabled : Bool)
  | dataWatch (node : ZkNode) (reading : Reading)
  | wait (deliveries : List Reading)
  | check (failed : List String)
  | ensureExists (node : ZkNode) (data : String)
  | ensureDeleted (node : ZkNode)
  | removeListener
  | stop
  | close
  | checkCall (args : List String)
  | sysExit (code : Int)
  deriving DecidableEq, Repr

/-- The world outside src/. Each answer, and whether the next call raises, is a function of the
calls made so far. `clientId` is `zkclient.client_id[0]`, `initDir` is `tm_env.init_dir`, and
`posix` is `os.name == 'posix'`; otherwise `os.name` is `'nt'`. -/
structure Env where
  hostname : String
  clientId : Nat
  posix : Bool
  initDir : String
  raises : List Call → Bool
  nodeExists : List Call → ZkNode → Bool
  owner : List Call → Option Nat
  deleteFound : List Call → Bool
  nodeInfo : List Call → NodeInfo
  serverInfo : List Call → NodeInfo
  reading : List Call → Reading
  deliveries : List Call → List Reading
  failed : List Call → List String

/-- How the daemon stops: `NoNodeError`, any other exception or the exit of the session listener,
`SystemExit`, or a loop out of fuel, the run then being a prefix of the daemon's. -/
inductive Stop where
  | noNodeError
  | raised
  | exit (code : Int)
  | outOfFuel
  deriving DecidableEq, Repr

abbrev Daemon := EStateM Stop (List Call)

/-- A call that returns what the world answers; it raises when the world says so. -/
def ask {α : Type} (env : Env) (answer : List Call → α) (record : α → Call) : Daemon α := fun log =>
  if env.raises log then .error .raised log else .ok (answer log) (log ++ [record (answer log)])

def call (env : Env) (c : Call) : Daemon Unit := ask env (fun _ => ()) fun _ => c

def zkExists (env : Env) (node : ZkNode) : Daemon Bool := ask env (env.nodeExists · node) (.zkExists node)

def waitExists (env : Env) (node : ZkNode) : Nat → Daemon Unit
  | 0 => throw .outOfFuel
  | fuel + 1 => do
    if ← zkExists env node then pure ()
    else
      call env (.sleep 30)
      waitExists env node fuel

def presenceData : NodeInfo := [("seen", "False")]

def nodeInitialize (env : Env) (zkServerPath zkPresencePath : ZkNode) : Daemon Unit := do
  let newNodeInfo ← ask env env.nodeInfo .nodeInfo
  let nodeInfo ← ask env env.serverInfo (.zkGet zkServerPath)
  let nodeInfo := Allocation.dictUpdate nodeInfo newNodeInfo
  call env (.update zkServerPath nodeInfo)
  call env (.put zkPresencePath presenceData true)
  call env (.tmEnvInit nodeInfo)

/-- `_node_start`: keep the presence node of this session, or start fresh. -/
def nodeStart (env : Env) (zkServerPath zkPresencePath : ZkNode) : Daemon Unit := do
  let oldSessionOk ← tryCatch
    (do
      match ← ask env env.owner (.get zkPresencePath) with
      | none => throw .noNodeError
      | some owner =>
        if owner = env.clientId then pure true
        else
          if ← ask env env.deleteFound (.delete zkPresencePath) then pure false
          else throw .noNodeError)
    fun
      | .noNodeError => pure false
      | e => throw e
  unless oldSessionOk do nodeInitialize env zkServerPath zkPresencePath

def initNetwork (env : Env) : Daemon Unit :=
  if env.posix then call env (.forwardingSet "tm0" true) else pure ()

def cleanupNetwork (env : Env) : Daemon Unit :=
  if env.posix then call env (.forwardingSet "tm0" false) else pure ()

/-- `os.path.join(dir, name)` for a relative `name`: a separator goes between them unless `dir`
is empty or already ends with one. -/
def osPathJoin (dir name : String) : String :=
  if dir.toList.getLast?.all (· == '/') then dir ++ name else dir ++ "/" ++ name

theorem osPathJoin_cleanup_ne_supervisor (dir : String) :
    osPathJoin dir "cleanup" ≠ osPathJoin dir "supervisor" := by
  unfold osPathJoin
  split_ifs <;> intro h <;> simpa using congrArg String.toList h

def blackoutTerminate (env : Env) : Daemon Unit :=
  if env.posix then do
    let supervisorDir := osPathJoin env.initDir "supervisor"
    let cleanupdDir := osPathJoin env.initDir "cleanup"
    call env (.checkCall ["s6_svc", "-d", cleanupdDir])
    call env (.checkCall ["s6_svwait", "-d", cleanupdDir])
    call env (.checkCall ["s6_svc", "-d", supervisorDir])
  else pure ()

/-- `_exit_on_delete`: whether the watch is renewed. A missing node or a deletion sets
`node_deleted_event` instead. -/
def exitOnDelete (data : Option String) (event : Option EventType) : Bool :=
  if data.isNone || event = some .deleted then false else true

/-- `node_deleted_event.wait(_WATCHDOG_CHECK_INTERVAL)` while the watch passes `_exit_on_delete`
what it reads: whether the watch is still renewed, so that the event is not set. A stopped watch
calls no more. -/
def waitDeleted (env : Env) (renewing : Bool) : Daemon Bool := do
  let deliveries ← ask env env.deliveries .wait
  pure (deliveries.foldl (fun renewing r => renewing && exitOnDelete r.data r.event) renewing)

/-- `'watchdogs %r failed.' % result`, for names without quotes or backslashes. -/
def downReason (result : List String) : String :=
  "watchdogs [" ++ ", ".intercalate (result.map fun n => "'" ++ n ++ "'") ++ "] failed."

def watchdogLoop (env : Env) : Bool → Nat → Daemon (Option String)
  | _, 0 => throw .outOfFuel
  | renewing, fuel + 1 => do
    let renewing ← waitDeleted env renewing
    if !renewing then pure none
    else
      let result ← ask env env.failed .check
      if result.isEmpty then watchdogLoop env renewing fuel else pure (some (downReason result))

/-- `_main_loop`: watch the presence node, then check the watchdogs until it is deleted or one
of them fails; the reason to go down, if one failed. -/
def mainLoop (env : Env) (zkPresencePath : ZkNode) (fuel : Nat) : Daemon (Option String) := do
  let r ← ask env env.reading (.dataWatch zkPresencePath)
  watchdogLoop env (exitOnDelete r.data r.event) fuel

def sleepForever (env : Env) : Nat → Daemon Unit
  | 0 => throw .outOfFuel
  | fuel + 1 => do
    call env (.sleep 1000000)
    sleepForever env fuel

def shutdown (env : Env) (exitOnFail : Bool) (zkPresencePath : ZkNode) (fuel : Nat) : Daemon Unit := do
  call env (.ensureDeleted zkPresencePath)
  call env .removeListener
  call env .stop
  call env .close
  cleanupNetwork env
  blackoutTerminate env
  if exitOnFail then
    call env (.sysExit (-1))
    throw (.exit (-1))
  else sleepForever env fuel

/-- The command `init`: `top(exit_on_fail, zkid, approot)`; `fuel` bounds each loop. -/
def top (env : Env) (exitOnFail : Bool) (fuel : Nat) : Daemon Unit := do
  call env .connect
  call env .reportReady
  waitExists env .serverPresenceDir fuel
  let hostname := env.hostname
  let zkBlackoutPath := ZkNode.blackedoutServer hostname
  let zkPresencePath := ZkNode.serverPresence hostname
  let zkServerPath := ZkNode.server hostname
  waitExists env zkServerPath fuel
  let blacklisted ← zkExists env zkBlackoutPath
  if !blacklisted then
    nodeStart env zkServerPath zkPresencePath
    call env .watchdogsInit
    initNetwork env
    match ← mainLoop env zkPresencePath fuel with
    | some downReason => call env (.ensureExists zkBlackoutPath downReason)
    | none => pure ()
  shutdown env exitOnFail zkPresencePath fuel

def after {α : Type} : EStateM.Result Stop (List Call) α → List Call
  | .ok _ log => log
  | .error _ log => log

def trace (env : Env) (exitOnFail : Bool) (fuel : Nat) : List Call := after (top env exitOnFail fuel [])

end Treadmill.Sproc
