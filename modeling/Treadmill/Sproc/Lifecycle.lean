import Treadmill.Sproc.Init

/-!
# The node's lifecycle in the cell

`Lifecycle.step` is the contract of the daemon as an automaton over its calls, and `Tracks` says
what its state records of the calls that led to it.
-/

namespace Treadmill.Sproc

/-- The node whose lifecycle is followed: its host, the daemon's session, and the supervisor
directory of its containers. -/
structure Node where
  hostname : String
  clientId : Nat
  supervisorDir : String

def Env.node (env : Env) : Node := ⟨env.hostname, env.clientId, osPathJoin env.initDir "supervisor"⟩

/-- Where the node is in its lifecycle: the answer of the blackout check once it was made, whether
the presence node is this session's (found with its session, or put), the watchdogs' reason to go
down once one failed, and whether it was blacked out, withdrawn and its traffic closed. -/
structure Lifecycle where
  blacklisted : Option Bool
  registered : Bool
  failure : Option String
  blackedOut : Bool
  withdrawn : Bool
  closed : Bool
  deriving DecidableEq, Repr

def Lifecycle.init : Lifecycle := ⟨none, false, none, false, false, false⟩

/-- What each call may do, where it is allowed. -/
def Lifecycle.step (node : Node) (s : Lifecycle) : Call → Option Lifecycle
  | .zkExists n b =>
    if n = .blackedoutServer node.hostname then
      if s.blacklisted = none then some { s with blacklisted := some b } else none
    else some s
  | .get n owner =>
    if n = .serverPresence node.hostname then
      if s.blacklisted = some false ∧ s.withdrawn = false then
        some { s with registered := s.registered || owner == some node.clientId }
      else none
    else some s
  | .delete n _ =>
    if n = .serverPresence node.hostname then
      if s.blacklisted = some false ∧ s.registered = false then some s else none
    else some s
  | .update n _ =>
    if n = .server node.hostname then
      if s.blacklisted = some false ∧ s.registered = false then some s else none
    else some s
  | .put n _ _ =>
    if n = .serverPresence node.hostname then
      if s.blacklisted = some false ∧ s.registered = false ∧ s.withdrawn = false then
        some { s with registered := true }
      else none
    else some s
  | .tmEnvInit _ => if s.blacklisted = some false ∧ s.registered then some s else none
  | .forwardingSet _ true =>
    if s.blacklisted = some false ∧ s.registered ∧ s.withdrawn = false then some s else none
  | .forwardingSet _ false => if s.withdrawn then some { s with closed := true } else none
  | .check failed =>
    if s.registered ∧ s.failure = none then
      some { s with failure := if failed.isEmpty then none else some (downReason failed) }
    else none
  | .ensureExists n data =>
    if n = .blackedoutServer node.hostname then
      if s.failure = some data then some { s with blackedOut := true } else none
    else some s
  | .ensureDeleted n =>
    if n = .serverPresence node.hostname then
      if s.blacklisted ≠ none ∧ (s.failure.isNone || s.blackedOut) then
        some { s with withdrawn := true }
      else none
    else some s
  | .checkCall args =>
    if args = ["s6_svc", "-d", node.supervisorDir] then
      if s.closed then some s else none
    else some s
  | _ => some s

/-- The state after a log, if the lifecycle allows every call of it. -/
def Lifecycle.run (node : Node) (log : List Call) : Option Lifecycle :=
  log.foldlM (Lifecycle.step node) Lifecycle.init

theorem Lifecycle.run_append_singleton (node : Node) (log : List Call) (c : Call) :
    Lifecycle.run node (log ++ [c]) = (Lifecycle.run node log).bind (Lifecycle.step node · c) := by
  simp only [Lifecycle.run, List.foldlM_append, List.foldlM_cons, List.foldlM_nil, bind_pure]
  rfl

section Tracks

variable (node : Node)

/-- What the state says of the calls that led to it. -/
structure Tracks (log : List Call) (s : Lifecycle) : Prop where
  blacklisted : ∀ b, Call.zkExists (.blackedoutServer node.hostname) b ∈ log ↔ s.blacklisted = some b
  registered : s.registered →
    Call.get (.serverPresence node.hostname) (some node.clientId) ∈ log ∨
      ∃ d e, Call.put (.serverPresence node.hostname) d e ∈ log
  failure : ∀ f, f ≠ [] → Call.check f ∈ log → s.failure = some (downReason f)
  blackedOut : s.blackedOut →
    ∃ r, s.failure = some r ∧ Call.ensureExists (.blackedoutServer node.hostname) r ∈ log
  withdrawn : s.withdrawn → Call.ensureDeleted (.serverPresence node.hostname) ∈ log
  closed : s.closed → ∃ dev, Call.forwardingSet dev false ∈ log

theorem tracks_init : Tracks node [] Lifecycle.init :=
  ⟨by simp [Lifecycle.init], nofun, by simp, nofun, nofun, nofun⟩

variable {node} {log : List Call} {s s' : Lifecycle} {c : Call}

namespace Tracks

theorem mem_snoc_self (log : List Call) (c : Call) : c ∈ log ++ [c] :=
  List.mem_append_right _ (List.mem_singleton_self c)

theorem blacklisted_snoc (h : Tracks node log s)
    (hb : ∀ b, c ≠ .zkExists (.blackedoutServer node.hostname) b) (b : Bool) :
    Call.zkExists (.blackedoutServer node.hostname) b ∈ log ++ [c] ↔ s.blacklisted = some b := by
  rw [← h.blacklisted b, List.mem_append, List.mem_singleton]
  exact or_iff_left (hb b).symm

theorem registered_snoc (h : Tracks node log s) (c : Call) (hr : s.registered) :
    Call.get (.serverPresence node.hostname) (some node.clientId) ∈ log ++ [c] ∨
      ∃ d e, Call.put (.serverPresence node.hostname) d e ∈ log ++ [c] :=
  (h.registered hr).imp (List.mem_append_left _) fun ⟨d, e, hm⟩ => ⟨d, e, List.mem_append_left _ hm⟩

theorem failure_snoc (h : Tracks node log s) (hf : ∀ f, f ≠ [] → c ≠ .check f) (f : List String)
    (hf' : f ≠ []) (hm : Call.check f ∈ log ++ [c]) : s.failure = some (downReason f) := by
  rcases List.mem_append.mp hm with hm | hm
  exacts [h.failure f hf' hm, absurd (List.mem_singleton.mp hm) (hf f hf').symm]

theorem blackedOut_snoc (h : Tracks node log s) (c : Call) (hb : s.blackedOut) :
    ∃ r, s.failure = some r ∧ Call.ensureExists (.blackedoutServer node.hostname) r ∈ log ++ [c] :=
  let ⟨r, hr, hm⟩ := h.blackedOut hb; ⟨r, hr, List.mem_append_left _ hm⟩

theorem withdrawn_snoc (h : Tracks node log s) (c : Call) (hw : s.withdrawn) :
    Call.ensureDeleted (.serverPresence node.hostname) ∈ log ++ [c] :=
  List.mem_append_left _ (h.withdrawn hw)

theorem closed_snoc (h : Tracks node log s) (c : Call) (hc : s.closed) :
    ∃ dev, Call.forwardingSet dev false ∈ log ++ [c] :=
  let ⟨dev, hm⟩ := h.closed hc; ⟨dev, List.mem_append_left _ hm⟩

theorem snoc (h : Tracks node log s) (hb : ∀ b, c ≠ .zkExists (.blackedoutServer node.hostname) b)
    (hf : ∀ f, f ≠ [] → c ≠ .check f) : Tracks node (log ++ [c]) s :=
  ⟨h.blacklisted_snoc hb, h.registered_snoc c, h.failure_snoc hf, h.blackedOut_snoc c,
    h.withdrawn_snoc c, h.closed_snoc c⟩

theorem step (h : Tracks node log s) (hs : Lifecycle.step node s c = some s') :
    Tracks node (log ++ [c]) s' := by
  cases c with
  | zkExists n b =>
    simp only [Lifecycle.step] at hs
    split_ifs at hs with hn hnone
    · subst hn
      cases hs
      refine ⟨fun b' => ?_, h.registered_snoc _, fun f hf hm => h.failure f hf (by simpa using hm),
        h.blackedOut_snoc _, h.withdrawn_snoc _, h.closed_snoc _⟩
      have hno : Call.zkExists (.blackedoutServer node.hostname) b' ∉ log := fun hm => by
        simp [(h.blacklisted b').mp hm] at hnone
      simp [hno, eq_comm]
    · cases hs
      exact h.snoc (fun b' e => hn (Call.zkExists.inj e).1) (by simp)
  | get n owner =>
    simp only [Lifecycle.step] at hs
    split_ifs at hs with hn
    · subst hn
      cases hs
      refine ⟨h.blacklisted_snoc (by simp), fun hr => ?_, h.failure_snoc (by simp),
        h.blackedOut_snoc _, h.withdrawn_snoc _, h.closed_snoc _⟩
      rcases Bool.or_eq_true _ _ ▸ hr with hr | hr
      · exact h.registered_snoc _ hr
      · rw [beq_iff_eq.mp hr]
        exact .inl (mem_snoc_self log _)
    · cases hs
      exact h.snoc (by simp) (by simp)
  | put n d e =>
    simp only [Lifecycle.step] at hs
    split_ifs at hs with hn
    · subst hn
      cases hs
      exact ⟨h.blacklisted_snoc (by simp), fun _ => .inr ⟨d, e, mem_snoc_self log _⟩,
        h.failure_snoc (by simp), h.blackedOut_snoc _, h.withdrawn_snoc _, h.closed_snoc _⟩
    · cases hs
      exact h.snoc (by simp) (by simp)
  | check failed =>
    simp only [Lifecycle.step] at hs
    split at hs
    · rename_i hg
      cases hs
      have hold : ∀ f, f ≠ [] → Call.check f ∉ log := fun f hf hm => by
        simp [h.failure f hf hm] at hg
      refine ⟨h.blacklisted_snoc (by simp), h.registered_snoc _, fun f hf hm => ?_,
        fun hb => absurd hg.2 (by obtain ⟨r, hr, -⟩ := h.blackedOut hb; simp [hr]),
        h.withdrawn_snoc _, h.closed_snoc _⟩
      obtain rfl : f = failed := by simpa [hold f hf] using hm
      simp [List.isEmpty_iff, hf]
    · cases hs
  | ensureExists n r =>
    simp only [Lifecycle.step] at hs
    split_ifs at hs with hn hr
    · subst hn
      cases hs
      exact ⟨h.blacklisted_snoc (by simp), h.registered_snoc _, h.failure_snoc (by simp),
        fun _ => ⟨r, hr, mem_snoc_self log _⟩, h.withdrawn_snoc _, h.closed_snoc _⟩
    · cases hs
      exact h.snoc (by simp) (by simp)
  | ensureDeleted n =>
    simp only [Lifecycle.step] at hs
    split_ifs at hs with hn
    · subst hn
      cases hs
      exact ⟨h.blacklisted_snoc (by simp), h.registered_snoc _, h.failure_snoc (by simp),
        h.blackedOut_snoc _, fun _ => mem_snoc_self log _, h.closed_snoc _⟩
    · cases hs
      exact h.snoc (by simp) (by simp)
  | forwardingSet dev enabled =>
    cases enabled <;> simp only [Lifecycle.step] at hs <;> split_ifs at hs <;> cases hs
    · exact ⟨h.blacklisted_snoc (by simp), h.registered_snoc _, h.failure_snoc (by simp),
        h.blackedOut_snoc _, h.withdrawn_snoc _, fun _ => ⟨dev, mem_snoc_self log _⟩⟩
    · exact h.snoc (by simp) (by simp)
  | delete n _ | update n _ | checkCall n | tmEnvInit n =>
    simp only [Lifecycle.step] at hs
    split_ifs at hs <;> cases hs <;> exact h.snoc (by simp) (by simp)
  | connect | reportReady | sleep _ | nodeInfo _ | zkGet _ _ | watchdogsInit | dataWatch _ _
  | wait _ | removeListener | stop | close | sysExit _ =>
    cases hs
    exact h.snoc (by simp) (by simp)

end Tracks

end Tracks

namespace Lifecycle

variable {node : Node} {log l1 l2 : List Call} {s : Lifecycle} {c : Call}

theorem tracks_foldlM {l : List Call} {log0 : List Call} {s0 : Lifecycle} (h0 : Tracks node log0 s0)
    (h : l.foldlM (step node) s0 = some s) : Tracks node (log0 ++ l) s := by
  induction l generalizing log0 s0 with
  | nil =>
    cases h
    simpa using h0
  | cons c l ih =>
    rw [List.foldlM_cons] at h
    obtain ⟨s1, h1, h⟩ := Option.bind_eq_some.mp h
    simpa using ih (h0.step h1) h

/-- The state a log leads to records it. -/
theorem tracks_run (h : run node log = some s) : Tracks node log s := by
  simpa using tracks_foldlM (tracks_init node) h

theorem run_prefix (h : run node log = some s) (hl : log = l1 ++ c :: l2) :
    ∃ s1 s2, run node l1 = some s1 ∧ step node s1 c = some s2 := by
  subst hl
  rw [run, List.foldlM_append] at h
  obtain ⟨s1, h1, h⟩ := Option.bind_eq_some.mp h
  rw [List.foldlM_cons] at h
  obtain ⟨s2, h2, -⟩ := Option.bind_eq_some.mp h
  exact ⟨s1, s2, h1, h2⟩

theorem not_mem_of_blacklisted (h : run node log = some s)
    (hb : Call.zkExists (.blackedoutServer node.hostname) true ∈ log)
    (hc : ∀ s1 s2, step node s1 c = some s2 → s1.blacklisted = some false) : c ∉ log := by
  intro hm
  obtain ⟨l1, l2, hl⟩ := List.append_of_mem hm
  obtain ⟨s1, s2, h1, h2⟩ := run_prefix h hl
  have hfalse := ((tracks_run h1).blacklisted false).mpr (hc s1 s2 h2)
  have hlog := (tracks_run h).blacklisted
  rw [hl] at hb
  have := ((hlog false).mp (hl ▸ List.mem_append_left _ hfalse)).symm.trans ((hlog true).mp (hl ▸ hb))
  simp at this

/-- A node found blacked out never registers, never rewrites its server node, never initializes
and never opens traffic. -/
theorem blacklisted_no_service (h : run node log = some s)
    (hb : Call.zkExists (.blackedoutServer node.hostname) true ∈ log) :
    (∀ d e, Call.put (.serverPresence node.hostname) d e ∉ log) ∧
      (∀ i, Call.update (.server node.hostname) i ∉ log) ∧ (∀ i, Call.tmEnvInit i ∉ log) ∧
      ∀ dev, Call.forwardingSet dev true ∉ log := by
  refine ⟨fun d e => not_mem_of_blacklisted h hb fun s1 s2 h2 => ?_,
    fun i => not_mem_of_blacklisted h hb fun s1 s2 h2 => ?_,
    fun i => not_mem_of_blacklisted h hb fun s1 s2 h2 => ?_,
    fun dev => not_mem_of_blacklisted h hb fun s1 s2 h2 => ?_⟩ <;>
  · simp only [step, if_true] at h2
    split_ifs at h2 with hg
    exact hg.1

/-- After a watchdog failure, the presence node is withdrawn only once the node is blacked out
with the failure's reason. -/
theorem withdrawal_after_blackout (h : run node log = some s)
    (hl : log = l1 ++ Call.ensureDeleted (.serverPresence node.hostname) :: l2) {f : List String}
    (hf : f ≠ []) (hc : Call.check f ∈ l1) :
    Call.ensureExists (.blackedoutServer node.hostname) (downReason f) ∈ l1 := by
  obtain ⟨s1, s2, h1, h2⟩ := run_prefix h hl
  have ht := tracks_run h1
  have hfail := ht.failure f hf hc
  simp only [step, if_true] at h2
  split_ifs at h2 with hg
  obtain ⟨r, hr, hm⟩ := ht.blackedOut (by simpa [hfail] using hg.2)
  rw [hfail, Option.some.injEq] at hr
  exact hr ▸ hm

/-- The containers are stopped only after the presence node was withdrawn and traffic closed. -/
theorem stop_after_closing (h : run node log = some s)
    (hl : log = l1 ++ Call.checkCall ["s6_svc", "-d", node.supervisorDir] :: l2) :
    Call.ensureDeleted (.serverPresence node.hostname) ∈ l1 ∧
      ∃ dev, Call.forwardingSet dev false ∈ l1 := by
  obtain ⟨s1, s2, h1, h2⟩ := run_prefix h hl
  simp only [step, if_true] at h2
  split_ifs at h2 with hc
  obtain ⟨dev, hm⟩ := (tracks_run h1).closed hc
  obtain ⟨m1, m2, hm1⟩ := List.append_of_mem hm
  obtain ⟨s0, s0', h0, h0'⟩ := run_prefix h1 hm1
  simp only [step] at h0'
  split_ifs at h0' with hw
  exact ⟨hm1 ▸ List.mem_append_left _ ((tracks_run h0).withdrawn hw), dev, hm⟩

/-- Traffic opens only on a node found not blacked out whose presence node is this session's. -/
theorem opening_after_registration (h : run node log = some s) {dev : String}
    (hl : log = l1 ++ Call.forwardingSet dev true :: l2) :
    Call.zkExists (.blackedoutServer node.hostname) false ∈ l1 ∧
      (Call.get (.serverPresence node.hostname) (some node.clientId) ∈ l1 ∨
        ∃ d e, Call.put (.serverPresence node.hostname) d e ∈ l1) := by
  obtain ⟨s1, s2, h1, h2⟩ := run_prefix h hl
  have ht := tracks_run h1
  simp only [step] at h2
  split_ifs at h2 with hg
  exact ⟨(ht.blacklisted false).mpr hg.1, ht.registered hg.2.1⟩

end Lifecycle

end Treadmill.Sproc
