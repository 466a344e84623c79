import Treadmill.Sproc.Lifecycle

/-!
# The daemon keeps to its lifecycle

Every run of `top`, whatever the world answers, makes only calls the lifecycle allows.
-/

namespace Treadmill.Sproc

section Monad

variable {α β : Type} (log : List Call)

@[simp] theorem bind_run (x : Daemon α) (f : α → Daemon β) :
    (x >>= f) log = match x log with
      | .ok a log' => f a log'
      | .error e log' => .error e log' := by
  show EStateM.bind x f log = _
  cases h : x log <;> simp only [EStateM.bind, h]

@[simp] theorem tryCatch_run (x : Daemon α) (h : Stop → Daemon α) :
    tryCatch x h log = match x log with
      | .ok a log' => .ok a log'
      | .error e log' => h e log' := by
  show EStateM.tryCatch x h log = _
  simp only [EStateM.tryCatch]
  cases x log <;> rfl

end Monad

section Triple

variable (node : Node)

/-- From a log the lifecycle takes to a state satisfying `P`, `x` returns `a` with a log it takes
to a state satisfying `Q a`, or stops with `e` and a log it takes to a state satisfying `R e`. -/
def Triple {α : Type} (P : Lifecycle → Prop) (x : Daemon α) (Q : α → Lifecycle → Prop)
    (R : Stop → Lifecycle → Prop) : Prop :=
  ∀ log s, Lifecycle.run node log = some s → P s → match x log with
    | .ok a log' => ∃ s', Lifecycle.run node log' = some s' ∧ Q a s'
    | .error e log' => ∃ s', Lifecycle.run node log' = some s' ∧ R e s'

variable {node} {α β : Type} {P : Lifecycle → Prop} {Q : α → Lifecycle → Prop}
  {R : Stop → Lifecycle → Prop}

namespace Triple

theorem ret {a : α} (h : ∀ s, P s → Q a s) : Triple node P (pure a) Q R :=
  fun _ s hr hp => ⟨s, hr, h s hp⟩

theorem raise {e : Stop} (h : ∀ s, P s → R e s) : Triple node P (throw e : Daemon α) Q R :=
  fun _ s hr hp => ⟨s, hr, h s hp⟩

theorem seq {x : Daemon α} {f : α → Daemon β} {M : α → Lifecycle → Prop}
    {Q : β → Lifecycle → Prop} (hx : Triple node P x M R) (hf : ∀ a, Triple node (M a) (f a) Q R) :
    Triple node P (x >>= f) Q R := by
  intro log s hr hp
  have hx' := hx log s hr hp
  rw [bind_run]
  cases h : x log with
  | ok a log' =>
    rw [h] at hx'
    obtain ⟨s', hr', hm⟩ := hx'
    exact hf a log' s' hr' hm
  | error e log' =>
    rw [h] at hx'
    exact hx'

theorem cond {c : Prop} [Decidable c] {x y : Daemon α} (hx : c → Triple node P x Q R)
    (hy : ¬c → Triple node P y Q R) : Triple node P (if c then x else y) Q R := by
  split
  exacts [hx ‹_›, hy ‹_›]

theorem handle {x : Daemon α} {h : Stop → Daemon α} {M : Stop → Lifecycle → Prop}
    (hx : Triple node P x Q M) (hh : ∀ e, Triple node (M e) (h e) Q R) :
    Triple node P (tryCatch x h) Q R := by
  intro log s hr hp
  have hx' := hx log s hr hp
  rw [tryCatch_run]
  cases hxl : x log with
  | ok a log' =>
    rw [hxl] at hx'
    exact hx'
  | error e log' =>
    rw [hxl] at hx'
    obtain ⟨s', hr', hm⟩ := hx'
    exact hh e log' s' hr' hm

theorem pre {x : Daemon α} {P' : Lifecycle → Prop} (h : Triple node P x Q R)
    (hp : ∀ s, P' s → P s) : Triple node P' x Q R :=
  fun log s hr hs => h log s hr (hp s hs)

theorem ask {env : Env} {answer : List Call → α} {record : α → Call}
    (hr : ∀ s, P s → R .raised s)
    (hq : ∀ s a, P s → ∃ s', Lifecycle.step node s (record a) = some s' ∧ Q a s') :
    Triple node P (Sproc.ask env answer record) Q R := by
  intro log s hrun hp
  by_cases hraise : env.raises log
  · simp only [Sproc.ask, hraise, if_true]
    exact ⟨s, hrun, hr s hp⟩
  · obtain ⟨s', hs, hq⟩ := hq s (answer log) hp
    simp only [Sproc.ask, hraise]
    exact ⟨s', by rw [Lifecycle.run_append_singleton, hrun]; exact hs, hq⟩

theorem keep {env : Env} {answer : List Call → α} {record : α → Call}
    (hc : ∀ s a, Lifecycle.step node s (record a) = some s) (hr : ∀ s, P s → R .raised s) :
    Triple node P (Sproc.ask env answer record) (fun _ => P) R :=
  ask hr fun s a hp => ⟨s, hc s a, hp⟩

end Triple

end Triple

def Lifecycle.checked (b : Bool) : Lifecycle := { Lifecycle.init with blacklisted := some b }

/-- A node not blacked out whose presence node is this session's. -/
def Lifecycle.joined : Lifecycle := { Lifecycle.checked false with registered := true }

/-- A node that may withdraw: the blackout check was made, and a watchdog failure, if any, has
blacked it out. -/
def Lifecycle.Leaving (s : Lifecycle) : Prop := s.blacklisted ≠ none ∧ (s.failure.isNone || s.blackedOut) = true

section Daemon

variable {env : Env} {P : Lifecycle → Prop}

theorem waitExists_keeps {n : ZkNode} (hn : n ≠ .blackedoutServer env.hostname) (fuel : Nat) :
    Triple env.node P (waitExists env n fuel) (fun _ => P) (fun _ _ => True) := by
  induction fuel with
  | zero => exact .raise fun _ _ => trivial
  | succ fuel ih =>
    rw [waitExists]
    refine .seq (.keep (fun _ _ => by simp [Lifecycle.step, Env.node, hn]) fun _ _ => trivial)
      fun _ => .cond (fun _ => .ret fun _ h => h) fun _ =>
        .seq (.keep (fun _ _ => rfl) fun _ _ => trivial) fun _ => ih

theorem nodeInitialize_joins :
    Triple env.node (· = .checked false)
      (nodeInitialize env (.server env.hostname) (.serverPresence env.hostname))
      (fun _ => (· = .joined)) (fun _ _ => True) := by
  dsimp only [nodeInitialize]
  refine .seq (.keep (fun _ _ => rfl) fun _ _ => trivial) fun _ =>
    .seq (.keep (fun _ _ => rfl) fun _ _ => trivial) fun _ =>
      .seq (.ask (fun _ _ => trivial) fun s _ hs => ⟨s, ?_, hs⟩) fun _ =>
        .seq (M := fun _ => (· = .joined)) (.ask (fun _ _ => trivial) fun s _ hs => ⟨_, ?_, rfl⟩)
          fun _ => .ask (fun _ _ => trivial) fun s _ hs => ⟨s, ?_, hs⟩
  all_goals subst hs; simp [Lifecycle.step, Env.node, Lifecycle.checked, Lifecycle.joined, Lifecycle.init]

theorem nodeStart_joins :
    Triple env.node (· = .checked false)
      (nodeStart env (.server env.hostname) (.serverPresence env.hostname))
      (fun _ => (· = .joined)) (fun _ _ => True) := by
  dsimp only [nodeStart]
  refine .seq (M := fun ok s => (ok = true ∧ s = .joined) ∨ (ok = false ∧ s = .checked false))
    (.handle (M := fun e s => e = .noNodeError → s = .checked false) ?_ fun e => ?_) fun ok => ?_
  · refine .seq (M := fun o s => s = { Lifecycle.checked false with registered := o == some env.clientId })
      (.ask (fun _ _ => nofun) fun s o hs => ⟨_, ?_, rfl⟩) fun o => ?_
    · subst hs
      simp [Lifecycle.step, Env.node, Lifecycle.checked, Lifecycle.init]
    cases o with
    | none => exact .raise fun s hs _ => hs
    | some owner =>
      refine .cond (fun h => .ret fun s hs => .inl ⟨rfl, by simpa [h] using hs⟩) fun h => ?_
      have hreg : (some owner == some env.clientId) = false := by simpa using h
      refine .seq (.ask (fun _ _ => nofun) fun s _ hs => ⟨s, ?_, hs⟩) fun _ =>
        .cond (fun _ => .ret fun s hs => .inr ⟨rfl, by simpa [hreg] using hs⟩)
          fun _ => .raise fun s hs _ => by simpa [hreg] using hs
      subst hs
      simp [Lifecycle.step, Env.node, Lifecycle.checked, Lifecycle.init, hreg]
  · cases e with
    | noNodeError => exact .ret fun s hs => .inr ⟨rfl, hs rfl⟩
    | _ => exact .raise fun _ _ => trivial
  · cases ok with
    | false => exact nodeInitialize_joins.pre fun s hs => by simpa using hs
    | true => exact .ret fun s hs => by simpa using hs

theorem watchdogLoop_spec (renewing : Bool) (fuel : Nat) :
    Triple env.node (· = .joined) (watchdogLoop env renewing fuel)
      (fun r s => (r = none ∧ s = .joined) ∨
        ∃ reason, r = some reason ∧ s = { Lifecycle.joined with failure := some reason })
      (fun _ _ => True) := by
  induction fuel generalizing renewing with
  | zero => exact .raise fun _ _ => trivial
  | succ fuel ih =>
    rw [watchdogLoop]
    refine .seq (.seq (.keep (fun _ _ => rfl) fun _ _ => trivial) fun _ => .ret fun _ h => h)
      fun renewing => .cond (fun _ => .ret fun s hs => .inl ⟨rfl, hs⟩) fun _ => ?_
    refine .seq (M := fun result s => s = { Lifecycle.joined with
        failure := if result.isEmpty then none else some (downReason result) })
      (.ask (fun _ _ => trivial) fun s _ hs => ⟨_, ?_, rfl⟩) fun result => ?_
    · subst hs
      simp [Lifecycle.step, Lifecycle.joined, Lifecycle.checked, Lifecycle.init]
    exact .cond (fun h => (ih _).pre fun s hs => by simpa [h] using hs)
      fun h => .ret fun s hs => .inr ⟨_, rfl, by simpa [h] using hs⟩

theorem mainLoop_spec (fuel : Nat) :
    Triple env.node (· = .joined) (mainLoop env (.serverPresence env.hostname) fuel)
      (fun r s => (r = none ∧ s = .joined) ∨
        ∃ reason, r = some reason ∧ s = { Lifecycle.joined with failure := some reason })
      (fun _ _ => True) :=
  .seq (.keep (fun _ _ => rfl) fun _ _ => trivial) fun _ => watchdogLoop_spec _ fuel

theorem sleepForever_keeps (fuel : Nat) :
    Triple env.node P (sleepForever env fuel) (fun _ => P) (fun _ _ => True) := by
  induction fuel with
  | zero => exact .raise fun _ _ => trivial
  | succ fuel ih =>
    rw [sleepForever]
    exact .seq (.keep (fun _ _ => rfl) fun _ _ => trivial) fun _ => ih

theorem shutdown_spec (exitOnFail : Bool) (fuel : Nat) :
    Triple env.node Lifecycle.Leaving (shutdown env exitOnFail (.serverPresence env.hostname) fuel)
      (fun _ _ => True) (fun _ _ => True) := by
  dsimp only [shutdown]
  refine .seq (M := fun _ s => s.withdrawn = true)
    (.ask (fun _ _ => trivial) fun s _ hs =>
      ⟨{ s with withdrawn := true }, by simp [Lifecycle.step, Env.node, hs.1, hs.2], rfl⟩)
    fun _ => .seq (.keep (fun _ _ => rfl) fun _ _ => trivial) fun _ =>
      .seq (.keep (fun _ _ => rfl) fun _ _ => trivial) fun _ =>
        .seq (.keep (fun _ _ => rfl) fun _ _ => trivial) fun _ => ?_
  refine .seq (M := fun _ s => env.posix = true → s.closed = true) ?_ fun _ =>
    .seq (M := fun _ _ => True) ?_ fun _ => ?_
  · exact .cond (fun _ => .ask (fun _ _ => trivial) fun s _ hs =>
      ⟨{ s with closed := true }, by simp [Lifecycle.step, hs], fun _ => rfl⟩)
      fun hp => .ret fun _ _ h => absurd h hp
  · refine .cond (fun hp => ?_) fun _ => .ret fun _ _ => trivial
    have hne := osPathJoin_cleanup_ne_supervisor env.initDir
    refine .seq (.keep (fun s _ => by simp [Lifecycle.step, Env.node, hne]) fun _ _ => trivial) fun _ =>
      .seq (.keep (fun s _ => by simp [Lifecycle.step, Env.node]) fun _ _ => trivial) fun _ =>
        .ask (fun _ _ => trivial) fun s _ hs => ⟨s, by simp [Lifecycle.step, Env.node, hs hp], trivial⟩
  · exact .cond (fun _ => .seq (.keep (fun _ _ => rfl) fun _ _ => trivial) fun _ =>
      .raise fun _ _ => trivial) fun _ => sleepForever_keeps fuel

theorem top_follows_lifecycle (exitOnFail : Bool) (fuel : Nat) :
    Triple env.node (· = .init) (top env exitOnFail fuel) (fun _ _ => True) (fun _ _ => True) := by
  dsimp only [top]
  refine .seq (.keep (fun _ _ => rfl) fun _ _ => trivial) fun _ =>
    .seq (.keep (fun _ _ => rfl) fun _ _ => trivial) fun _ =>
      .seq (waitExists_keeps (by simp) fuel) fun _ => .seq (waitExists_keeps (by simp) fuel) fun _ =>
        .seq (M := fun b s => s = .checked b) (.ask (fun _ _ => trivial) fun s b hs => ⟨_, ?_, rfl⟩)
          fun b => ?_
  · subst hs
    simp [Lifecycle.step, Env.node, Lifecycle.checked, Lifecycle.init]
  refine .cond (fun hb => ?_) fun _ => .seq (M := fun _ s => s = .checked b) (.ret fun _ h => h) fun _ =>
    (shutdown_spec exitOnFail fuel).pre fun s hs => by
      subst hs
      simp [Lifecycle.Leaving, Lifecycle.checked, Lifecycle.init]
  obtain rfl : b = false := by simpa using hb
  refine .seq nodeStart_joins fun _ => .seq (.keep (fun _ _ => rfl) fun _ _ => trivial) fun _ =>
    .seq (M := fun _ => (· = .joined)) ?_ fun _ => .seq (mainLoop_spec fuel) fun r => ?_
  · exact .cond (fun _ => .ask (fun _ _ => trivial) fun s _ hs => ⟨s, by
      subst hs
      simp [Lifecycle.step, Lifecycle.joined, Lifecycle.checked, Lifecycle.init], hs⟩)
      fun _ => .ret fun _ h => h
  cases r with
  | none =>
    exact .seq (M := fun _ s => s = .joined) (.ret fun s h => (h.resolve_right (by simp)).2) fun _ =>
      (shutdown_spec exitOnFail fuel).pre fun s hs => by
        subst hs
        simp [Lifecycle.Leaving, Lifecycle.joined, Lifecycle.checked, Lifecycle.init]
  | some reason =>
    refine .seq (M := fun _ => Lifecycle.Leaving) (.ask (fun _ _ => trivial) fun s _ hs => ?_)
      fun _ => shutdown_spec exitOnFail fuel
    obtain ⟨_, hr, rfl⟩ := hs.resolve_left (by simp)
    cases hr
    exact ⟨{ Lifecycle.joined with failure := some reason, blackedOut := true },
      by simp [Lifecycle.step, Env.node, Lifecycle.joined, Lifecycle.checked, Lifecycle.init],
      by simp [Lifecycle.Leaving, Lifecycle.joined, Lifecycle.checked, Lifecycle.init]⟩

/-- Every run of `top` from a fresh process leaves a log the lifecycle accepts. -/
theorem trace_accepted (exitOnFail : Bool) (fuel : Nat) :
    ∃ s, Lifecycle.run env.node (trace env exitOnFail fuel) = some s := by
  have h := @top_follows_lifecycle env exitOnFail fuel [] .init rfl rfl
  unfold trace
  cases hx : top env exitOnFail fuel [] <;> rw [hx] at h <;> obtain ⟨s, hs, -⟩ := h <;> exact ⟨s, hs⟩

end Daemon

namespace Sample

/-- A posix host whose calls all return, found not blacked out, whose `disk` watchdog fails at
the first check. -/
def failing : Env where
  hostname := "h"
  clientId := 1
  posix := true
  initDir := "/i"
  raises _ := false
  nodeExists _ n := n != .blackedoutServer "h"
  owner _ := none
  deleteFound _ := true
  nodeInfo _ := []
  serverInfo _ := []
  reading _ := ⟨some "", none⟩
  deliveries _ := []
  failed _ := ["disk"]

/-- The same host, found blacked out at start-up. -/
def blacklisted : Env := { failing with nodeExists := fun _ _ => true }

/-- The calls of `failing` up to the blackout. -/
def servedCalls : List Call :=
  [.connect, .reportReady, .zkExists .serverPresenceDir true, .zkExists (.server "h") true,
   .zkExists (.blackedoutServer "h") false, .get (.serverPresence "h") none, .nodeInfo [],
   .zkGet (.server "h") [], .update (.server "h") [], .put (.serverPresence "h") presenceData true,
   .tmEnvInit [], .watchdogsInit, .forwardingSet "tm0" true,
   .dataWatch (.serverPresence "h") ⟨some "", none⟩, .wait [], .check ["disk"],
   .ensureExists (.blackedoutServer "h") (downReason ["disk"])]

/-- The calls of `failing` after the withdrawal, up to stopping the containers. -/
def closingCalls : List Call :=
  [.removeListener, .stop, .close, .forwardingSet "tm0" false,
   .checkCall ["s6_svc", "-d", "/i/cleanup"], .checkCall ["s6_svwait", "-d", "/i/cleanup"]]

end Sample

section Trace

variable (env : Env) (exitOnFail : Bool) (fuel : Nat)

/-- Every run of the daemon, whatever the world answers, is a run of the lifecycle, and the
state it leaves the lifecycle in records the run's calls. -/
theorem daemon_refines_lifecycle :
    ∃ s, Lifecycle.run env.node (trace env exitOnFail fuel) = some s ∧
      Tracks env.node (trace env exitOnFail fuel) s :=
  let ⟨s, h⟩ := trace_accepted exitOnFail fuel
  ⟨s, h, Lifecycle.tracks_run h⟩

/-- A node found blacked out at start-up never registers, never rewrites its server node, never
initializes and never opens traffic. -/
theorem blacklisted_node_never_serves
    (hb : Call.zkExists (.blackedoutServer env.hostname) true ∈ trace env exitOnFail fuel) :
    (∀ d e, Call.put (.serverPresence env.hostname) d e ∉ trace env exitOnFail fuel) ∧
      (∀ i, Call.update (.server env.hostname) i ∉ trace env exitOnFail fuel) ∧
      (∀ i, Call.tmEnvInit i ∉ trace env exitOnFail fuel) ∧
      ∀ dev, Call.forwardingSet dev true ∉ trace env exitOnFail fuel :=
  let ⟨_, h⟩ := trace_accepted exitOnFail fuel
  Lifecycle.blacklisted_no_service h hb

theorem blacklisted_node_never_serves_sample :
    Call.zkExists (.blackedoutServer "h") true ∈ trace Sample.blacklisted true 1 ∧
      (∀ d e, Call.put (.serverPresence "h") d e ∉ trace Sample.blacklisted true 1) ∧
      (∀ i, Call.update (.server "h") i ∉ trace Sample.blacklisted true 1) ∧
      (∀ i, Call.tmEnvInit i ∉ trace Sample.blacklisted true 1) ∧
      ∀ dev, Call.forwardingSet dev true ∉ trace Sample.blacklisted true 1 :=
  have hb : Call.zkExists (.blackedoutServer "h") true ∈ trace Sample.blacklisted true 1 := by
    decide
  ⟨hb, blacklisted_node_never_serves Sample.blacklisted true 1 hb⟩

/-- When a watchdog fails, the node is blacked out with the failure's reason before its
presence node is withdrawn. -/
theorem watchdog_failure_blacks_out_first (l1 l2 : List Call) {f : List String}
    (hl : trace env exitOnFail fuel = l1 ++ Call.ensureDeleted (.serverPresence env.hostname) :: l2)
    (hf : f ≠ []) (hc : Call.check f ∈ l1) :
    Call.ensureExists (.blackedoutServer env.hostname) (downReason f) ∈ l1 :=
  let ⟨_, h⟩ := trace_accepted exitOnFail fuel
  Lifecycle.withdrawal_after_blackout h hl hf hc

theorem watchdog_failure_blacks_out_first_sample :
    Call.ensureExists (.blackedoutServer "h") (downReason ["disk"]) ∈ Sample.servedCalls :=
  watchdog_failure_blacks_out_first Sample.failing true 1 Sample.servedCalls
    (Sample.closingCalls ++ [Call.checkCall ["s6_svc", "-d", "/i/supervisor"], Call.sysExit (-1)])
    rfl (by decide) (by decide)

/-- The containers are stopped only after the presence node was withdrawn and traffic closed. -/
theorem containers_stop_after_withdrawal (l1 l2 : List Call)
    (hl : trace env exitOnFail fuel =
      l1 ++ Call.checkCall ["s6_svc", "-d", osPathJoin env.initDir "supervisor"] :: l2) :
    Call.ensureDeleted (.serverPresence env.hostname) ∈ l1 ∧
      ∃ dev, Call.forwardingSet dev false ∈ l1 :=
  let ⟨_, h⟩ := trace_accepted exitOnFail fuel
  Lifecycle.stop_after_closing h hl

theorem containers_stop_after_withdrawal_sample :
    Call.ensureDeleted (.serverPresence "h") ∈
        Sample.servedCalls ++ .ensureDeleted (.serverPresence "h") :: Sample.closingCalls ∧
      ∃ dev, Call.forwardingSet dev false ∈
        Sample.servedCalls ++ .ensureDeleted (.serverPresence "h") :: Sample.closingCalls :=
  containers_stop_after_withdrawal Sample.failing true 1
    (Sample.servedCalls ++ .ensureDeleted (.serverPresence "h") :: Sample.closingCalls)
    [.sysExit (-1)] rfl

/-- Traffic opens only on a node found not blacked out whose presence node is this session's:
one it found owned by its session or one it created. -/
theorem traffic_opens_only_when_registered (dev : String) (l1 l2 : List Call)
    (hl : trace env exitOnFail fuel = l1 ++ Call.forwardingSet dev true :: l2) :
    Call.zkExists (.blackedoutServer env.hostname) false ∈ l1 ∧
      (Call.get (.serverPresence env.hostname) (some env.clientId) ∈ l1 ∨
        ∃ d e, Call.put (.serverPresence env.hostname) d e ∈ l1) :=
  let ⟨_, h⟩ := trace_accepted exitOnFail fuel
  Lifecycle.opening_after_registration h hl

theorem traffic_opens_only_when_registered_sample :
    Call.zkExists (.blackedoutServer "h") false ∈ Sample.servedCalls.take 12 ∧
      (Call.get (.serverPresence "h") (some 1) ∈ Sample.servedCalls.take 12 ∨
        ∃ d e, Call.put (.serverPresence "h") d e ∈ Sample.servedCalls.take 12) :=
  traffic_opens_only_when_registered Sample.failing true 1 "tm0" (Sample.servedCalls.take 12)
    (Sample.servedCalls.drop 13 ++ .ensureDeleted (.serverPresence "h") :: Sample.closingCalls ++
      [Call.checkCall ["s6_svc", "-d", "/i/supervisor"], Call.sysExit (-1)]) rfl

end Trace

end Treadmill.Sproc
