import Mathlib.Data.List.AList
import Mathlib.Data.List.Nodup

/-!
# `treadmill.runtime`: the ports of a container

The port ranges, `random.sample` and `socket.bind` are parameters; a socket is the port it is
bound to.
-/

namespace Treadmill.Runtime

/-- `PORT_SPAN` and the bounds of the two ranges. -/
structure PortRanges where
  portSpan : Nat
  prodPortLow : Nat
  prodPortHigh : Nat
  nonprodPortLow : Nat
  nonprodPortHigh : Nat
  deriving DecidableEq, Repr

/-- The constants the module sets off posix. -/
def nonPosix : PortRanges :=
  let portSpan := 8192
  let prodPortLow := 32768
  let nonprodPortLow := prodPortLow + portSpan
  ⟨portSpan, prodPortLow, prodPortLow + portSpan - 1, nonprodPortLow, nonprodPortLow + portSpan - 1⟩

def portRange (low high : Nat) : List Nat := List.range' low (high + 1 - low)

/-- The `port_pool` of `_allocate_sockets`, before it is sampled. -/
def portPool (ranges : PortRanges) (environment : String) : List Nat :=
  if environment = "prod" then portRange ranges.prodPortLow ranges.prodPortHigh
  else portRange ranges.nonprodPortLow ranges.nonprodPortHigh

/-- What `socket_.bind((host_ip, real_port))` does: bind, or raise `socket.error` with
`EADDRINUSE` or another errno. -/
inductive BindResult where
  | bound
  | addrInUse
  | error (errno : Nat)
  deriving DecidableEq, Repr

/-- What the allocation raises: `ContainerSetupError` with its message, a `socket.error` raised
again, and the `IndexError` of `sockets[idx]`. -/
inductive Err where
  | containerSetup (message : String)
  | socket (errno : Nat)
  | indexError
  deriving DecidableEq, Repr

/-- The `for ... else` loop of `_allocate_sockets` over what is left of the pool. -/
def allocLoop (bind : Nat → BindResult) (count : Nat) : List Nat → List Nat → Except Err (List Nat)
  | sockets, [] =>
    .error (.containerSetup
      ("run.alloc_sockets:" ++ toString sockets.length ++ " < " ++ toString count))
  | sockets, realPort :: portPool =>
    if sockets.length = count then .ok sockets
    else match bind realPort with
      | .bound => allocLoop bind count (sockets ++ [realPort]) portPool
      | .addrInUse => allocLoop bind count sockets portPool
      | .error errno => .error (.socket errno)

/-- `_allocate_sockets`, with `sample` for `random.sample`. -/
def allocateSockets (ranges : PortRanges) (sample : List Nat → Nat → List Nat)
    (environment : String) (bind : Nat → BindResult) (count : Nat) : Except Err (List Nat) :=
  allocLoop bind count [] (sample (portPool ranges environment) ranges.portSpan)

structure Endpoint where
  proto : Option String
  port : Nat
  realPort : Option Nat
  deriving DecidableEq, Repr

def Endpoint.protoOrTcp (ep : Endpoint) : String := ep.proto.getD "tcp"

def Endpoint.assign (ep : Endpoint) (realPort : Nat) : Endpoint :=
  { ep with realPort := some realPort, port := if ep.port = 0 then realPort else ep.port }

/-- A value of `manifest['ephemeral_ports']`: a count, or the ports allocated. -/
inductive Ephemeral where
  | count (n : Nat)
  | ports (ports : List Nat)
  deriving DecidableEq, Repr

structure Manifest where
  environment : String
  endpoints : List Endpoint
  ephemeralPorts : AList fun _ : String => Ephemeral

/-- `manifest['ephemeral_ports'].get(proto, 0)`, counted when it is a list. -/
def ephemeralCount (m : Manifest) (proto : String) : Nat :=
  match m.ephemeralPorts.lookup proto with
  | some (.count n) => n
  | some (.ports ports) => ports.length
  | none => 0

/-- The loop over `enumerate(endpoints)`, on the manifest's endpoints: the `idx`-th endpoint of
`proto` gets `sockets[idx]`. -/
def assignPorts (proto : String) : List Endpoint → List Nat → Except Err (List Endpoint)
  | [], _ => .ok []
  | ep :: eps, sockets =>
    if ep.protoOrTcp = proto then
      match sockets with
      | realPort :: sockets => (ep.assign realPort :: ·) <$> assignPorts proto eps sockets
      | [] => .error .indexError
    else (ep :: ·) <$> assignPorts proto eps sockets

def allocateNetworkPortsProto (ranges : PortRanges) (sample : List Nat → Nat → List Nat)
    (bind : Nat → BindResult) (m : Manifest) (proto : String) :
    Except Err (List Nat × Manifest) := do
  let ephemeralCount := ephemeralCount m proto
  let endpoints := m.endpoints.filter (·.protoOrTcp == proto)
  let sockets ← allocateSockets ranges sample m.environment bind (endpoints.length + ephemeralCount)
  let assigned ← assignPorts proto m.endpoints sockets
  pure (sockets, { m with
    endpoints := assigned
    ephemeralPorts := m.ephemeralPorts.insert proto (.ports (sockets.drop endpoints.length)) })

inductive SockType where
  | stream
  | dgram
  deriving DecidableEq, Repr

/-- `allocate_network_ports`; `sample` and `bind` are those of the call for each socket type. -/
def allocateNetworkPorts (ranges : PortRanges) (sample : SockType → List Nat → Nat → List Nat)
    (bind : SockType → Nat → BindResult) (m : Manifest) : Except Err (List Nat × Manifest) := do
  let (tcpSockets, m) ← allocateNetworkPortsProto ranges (sample .stream) (bind .stream) m "tcp"
  let (udpSockets, m) ← allocateNetworkPortsProto ranges (sample .dgram) (bind .dgram) m "udp"
  pure (tcpSockets ++ udpSockets, m)

/-- `bind` succeeds on the free ports and raises `EADDRINUSE` on the others. -/
def bindFree (free : Nat → Bool) (port : Nat) : BindResult :=
  if free port then .bound else .addrInUse

def shortMessage (bound count : Nat) : String :=
  "run.alloc_sockets:" ++ toString bound ++ " < " ++ toString count

/-- The loop stops with its count exactly when the ports before the last of the pool hold enough
free ones; otherwise it has bound every free port of the pool, and raises. -/
theorem allocLoop_bindFree (free : Nat → Bool) (count : Nat) (pool : List Nat) :
    ∀ sockets : List Nat, sockets.length ≤ count →
      allocLoop (bindFree free) count sockets pool =
        if pool ≠ [] ∧ count - sockets.length ≤ (pool.dropLast.filter free).length then
          .ok (sockets ++ (pool.filter free).take (count - sockets.length))
        else .error (.containerSetup
          (shortMessage (sockets.length + (pool.filter free).length) count)) := by
  induction pool with
  | nil => intro sockets _; simp [allocLoop, shortMessage]
  | cons p ps ih =>
    intro sockets hle
    by_cases hk : sockets.length = count
    · simp [allocLoop, hk]
    · have h0 : count - sockets.length ≠ 0 := by omega
      rw [allocLoop, if_neg hk, bindFree]
      cases hp : free p
      · rw [if_neg (by simp), ih sockets hle]
        cases ps <;> simp [List.filter_cons, hp, h0]
      · rw [if_pos rfl, ih (sockets ++ [p]) (by simp; omega), List.filter_cons_of_pos hp]
        have hsub : count - sockets.length = count - (sockets ++ [p]).length + 1 := by simp; omega
        cases ps with
        | nil => simp [h0, Nat.add_comm]
        | cons q qs =>
          rw [List.dropLast_cons₂, List.filter_cons_of_pos hp, hsub, List.take_succ_cons]
          simp only [ne_eq, reduceCtorEq, not_false_eq_true, true_and, List.length_cons,
            Nat.add_le_add_iff_right, List.append_assoc, List.singleton_append, List.length_append,
            List.length_singleton, List.length_nil, Nat.zero_add, Nat.add_assoc, Nat.add_comm 1]

theorem portPool_nodup (ranges : PortRanges) (environment : String) :
    (portPool ranges environment).Nodup := by
  unfold portPool portRange
  split <;> exact List.nodup_range' _ _

theorem length_filter_le_dropLast (free : Nat → Bool) {pool : List Nat} (h : pool ≠ []) :
    (pool.filter free).length ≤ (pool.dropLast.filter free).length + 1 := by
  conv_lhs => rw [← List.dropLast_append_getLast h, List.filter_append, List.length_append]
  have : ([pool.getLast h].filter free).length ≤ 1 := (List.filter_sublist _).length_le
  omega

section Free

variable {ranges : PortRanges} {sample : List Nat → Nat → List Nat} {environment : String}
  {free : Nat → Bool} {count : Nat}

/-- `_allocate_sockets` returns the first `count` free ports of the pool when the ports before
its last hold as many, and otherwise raises `ContainerSetupError`. -/
theorem allocateSockets_bindFree :
    allocateSockets ranges sample environment (bindFree free) count =
      let pool := sample (portPool ranges environment) ranges.portSpan
      if pool ≠ [] ∧ count ≤ (pool.dropLast.filter free).length then
        .ok ((pool.filter free).take count)
      else .error (.containerSetup (shortMessage (pool.filter free).length count)) := by
  simpa using allocLoop_bindFree free count _ [] (Nat.zero_le _)

theorem allocateSockets_eq_ok {sockets : List Nat}
    (h : allocateSockets ranges sample environment (bindFree free) count = .ok sockets) :
    sockets = ((sample (portPool ranges environment) ranges.portSpan).filter free).take count ∧
      count ≤ ((sample (portPool ranges environment) ranges.portSpan).filter free).length := by
  rw [allocateSockets_bindFree] at h
  dsimp only at h
  split_ifs at h with hc
  cases h
  exact ⟨rfl, hc.2.trans ((List.dropLast_sublist _).filter free).length_le⟩

theorem allocateSockets_length {sockets : List Nat}
    (h : allocateSockets ranges sample environment (bindFree free) count = .ok sockets) :
    sockets.length = count := by
  obtain ⟨rfl, hle⟩ := allocateSockets_eq_ok h
  simp only [List.length_take]
  omega

variable (hs : (sample (portPool ranges environment) ranges.portSpan).Perm (portPool ranges environment))
include hs

/-- What `_allocate_sockets` returns: `count` distinct free ports of the range. -/
theorem allocateSockets_ok {sockets : List Nat}
    (h : allocateSockets ranges sample environment (bindFree free) count = .ok sockets) :
    sockets.length = count ∧ sockets.Nodup ∧ ∀ p ∈ sockets, free p ∧ p ∈ portPool ranges environment := by
  refine ⟨allocateSockets_length h, ?_, fun p hp => ?_⟩
  all_goals obtain ⟨rfl, -⟩ := allocateSockets_eq_ok h
  · exact ((hs.nodup_iff.mpr (portPool_nodup _ _)).filter _).sublist (List.take_sublist _ _)
  obtain ⟨hp, hf⟩ := List.mem_filter.mp (List.mem_of_mem_take hp)
  exact ⟨hf, hs.mem_iff.mp hp⟩

theorem allocateSockets_short (h : ((portPool ranges environment).filter free).length < count) :
    ∃ message, allocateSockets ranges sample environment (bindFree free) count =
      .error (.containerSetup message) := by
  rw [allocateSockets_bindFree, if_neg]
  · exact ⟨_, rfl⟩
  · rintro ⟨-, hc⟩
    have := ((List.dropLast_sublist
      (sample (portPool ranges environment) ranges.portSpan)).filter free).length_le
    rw [(hs.filter free).length_eq] at this
    omega

theorem allocateSockets_plenty (h : count < ((portPool ranges environment).filter free).length) :
    ∃ sockets, allocateSockets ranges sample environment (bindFree free) count = .ok sockets := by
  rw [allocateSockets_bindFree, if_pos]
  · exact ⟨_, rfl⟩
  · rw [← (hs.filter free).length_eq] at h
    have hne : sample (portPool ranges environment) ranges.portSpan ≠ [] := by
      rintro he
      simp [he] at h
    exact ⟨hne, by have := length_filter_le_dropLast free hne; omega⟩

end Free

namespace Small

def ranges : PortRanges := ⟨4, 1, 4, 5, 8⟩

/-- `random.sample` returning the range in its order. -/
def inOrder (pool : List Nat) (_ : Nat) : List Nat := pool

end Small

open Small in
theorem allocateSockets_short_dev :
    (inOrder (portPool ranges "dev") ranges.portSpan).Perm (portPool ranges "dev") ∧
      ((portPool ranges "dev").filter (· == 5)).length < 2 ∧
      ∃ message, allocateSockets ranges inOrder "dev" (bindFree (· == 5)) 2 =
        .error (.containerSetup message) :=
  ⟨.refl _, by decide, allocateSockets_short (.refl _) (by decide)⟩

open Small in
theorem allocateSockets_plenty_dev :
    (inOrder (portPool ranges "dev") ranges.portSpan).Perm (portPool ranges "dev") ∧
      2 < ((portPool ranges "dev").filter (· ≤ 7)).length ∧
      ∃ sockets, allocateSockets ranges inOrder "dev" (bindFree (· ≤ 7)) 2 = .ok sockets :=
  ⟨.refl _, by decide, allocateSockets_plenty (.refl _) (by decide)⟩

theorem bind_eq_ok {ε α β : Type} {x : Except ε α} {f : α → Except ε β} {b : β} :
    (x >>= f) = .ok b ↔ ∃ a, x = .ok a ∧ f a = .ok b := by
  cases x <;> simp [bind, Except.bind]

@[simp] theorem assign_protoOrTcp (ep : Endpoint) (realPort : Nat) :
    (ep.assign realPort).protoOrTcp = ep.protoOrTcp := rfl

theorem assignPorts_ok (proto : String) (eps : List Endpoint) :
    ∀ sockets : List Nat, (eps.filter (·.protoOrTcp == proto)).length ≤ sockets.length →
      ∃ assigned, assignPorts proto eps sockets = .ok assigned ∧
        assigned.filter (·.protoOrTcp == proto) =
          List.zipWith Endpoint.assign (eps.filter (·.protoOrTcp == proto)) sockets ∧
        assigned.filter (fun ep => !(ep.protoOrTcp == proto)) =
          eps.filter (fun ep => !(ep.protoOrTcp == proto)) := by
  induction eps with
  | nil => exact fun _ _ => ⟨[], rfl, rfl, rfl⟩
  | cons ep eps ih =>
    intro sockets hle
    by_cases hp : ep.protoOrTcp = proto
    · cases sockets with
      | nil => simp [hp] at hle
      | cons s ss =>
        obtain ⟨a, ha, h1, h2⟩ := ih ss (by simpa [hp] using hle)
        refine ⟨ep.assign s :: a, by simp [assignPorts, hp, ha, Functor.map, Except.map], ?_, ?_⟩
        · simp [hp, h1]
        · simp [hp, h2]
    · obtain ⟨a, ha, h1, h2⟩ := ih sockets (by simpa [hp] using hle)
      refine ⟨ep :: a, by simp [assignPorts, hp, ha, Functor.map, Except.map], ?_, ?_⟩
      · simp [hp, h1]
      · simp [hp, h2]

/-- When `_allocate_network_ports_proto` returns, its sockets are distinct free ports of the
range, one for each endpoint of `proto` and each ephemeral port; the endpoints of `proto` get
them in order, the other endpoints stay as they were, and `ephemeral_ports[proto]` lists the
rest. -/
theorem allocateNetworkPortsProto_ok {ranges : PortRanges} {sample : List Nat → Nat → List Nat}
    {free : Nat → Bool} {m m' : Manifest} {proto : String} {sockets : List Nat}
    (hs : (sample (portPool ranges m.environment) ranges.portSpan).Perm
      (portPool ranges m.environment))
    (h : allocateNetworkPortsProto ranges sample (bindFree free) m proto = .ok (sockets, m')) :
    let endpoints := m.endpoints.filter (·.protoOrTcp == proto)
    sockets.length = endpoints.length + ephemeralCount m proto ∧ sockets.Nodup ∧
      (∀ p ∈ sockets, free p ∧ p ∈ portPool ranges m.environment) ∧
      m'.endpoints.filter (·.protoOrTcp == proto) = List.zipWith Endpoint.assign endpoints sockets ∧
      m'.endpoints.filter (fun ep => !(ep.protoOrTcp == proto)) =
        m.endpoints.filter (fun ep => !(ep.protoOrTcp == proto)) ∧
      m'.ephemeralPorts.lookup proto = some (.ports (sockets.drop endpoints.length)) ∧
      m'.environment = m.environment := by
  intro endpoints
  obtain ⟨s, hal, a, hap, hpure⟩ := by simpa only [allocateNetworkPortsProto, bind_eq_ok] using h
  obtain ⟨hlen, hnd, hmem⟩ := allocateSockets_ok hs hal
  obtain ⟨a', hap', h1, h2⟩ := assignPorts_ok proto m.endpoints s (by omega)
  obtain rfl : a = a' := Except.ok.inj (hap.symm.trans hap')
  cases hpure
  exact ⟨hlen, hnd, hmem, h1, h2, AList.lookup_insert _, rfl⟩

namespace Small

/-- One tcp endpoint with `port` 0 and one udp endpoint, in a non-production environment. -/
def manifest : Manifest := ⟨"dev", [⟨some "tcp", 0, none⟩, ⟨some "udp", 53, none⟩], ∅⟩

def withTcp : Manifest :=
  ⟨"dev", [⟨some "tcp", 5, some 5⟩, ⟨some "udp", 53, none⟩], (∅ : AList _).insert "tcp" (.ports [])⟩

end Small

open Small in
theorem allocateNetworkPortsProto_ok_tcp :
    (inOrder (portPool ranges manifest.environment) ranges.portSpan).Perm
        (portPool ranges manifest.environment) ∧
      allocateNetworkPortsProto ranges inOrder (bindFree fun _ => true) manifest "tcp" =
        .ok ([5], withTcp) ∧
      let endpoints := manifest.endpoints.filter (·.protoOrTcp == "tcp")
      [5].length = endpoints.length + ephemeralCount manifest "tcp" ∧ [5].Nodup ∧
        (∀ p ∈ [5], (fun _ => true) p ∧ p ∈ portPool ranges manifest.environment) ∧
        withTcp.endpoints.filter (·.protoOrTcp == "tcp") =
          List.zipWith Endpoint.assign endpoints [5] ∧
        withTcp.endpoints.filter (fun ep => !(ep.protoOrTcp == "tcp")) =
          manifest.endpoints.filter (fun ep => !(ep.protoOrTcp == "tcp")) ∧
        withTcp.ephemeralPorts.lookup "tcp" = some (.ports ([5].drop endpoints.length)) ∧
        withTcp.environment = manifest.environment :=
  ⟨.refl _, rfl,
    @allocateNetworkPortsProto_ok ranges inOrder (fun _ => true) manifest withTcp "tcp" [5] (.refl _) rfl⟩

section Protocols

variable {ranges : PortRanges} {sample : List Nat → Nat → List Nat} {free : Nat → Bool}
  {m : Manifest} {proto : String}

theorem allocateNetworkPortsProto_of_error {e : Err}
    (h : allocateSockets ranges sample m.environment (bindFree free)
      ((m.endpoints.filter (·.protoOrTcp == proto)).length + ephemeralCount m proto) = .error e) :
    allocateNetworkPortsProto ranges sample (bindFree free) m proto = .error e := by
  simp only [allocateNetworkPortsProto, h, bind, Except.bind]

theorem allocateNetworkPortsProto_of_ok {sockets : List Nat}
    (h : allocateSockets ranges sample m.environment (bindFree free)
      ((m.endpoints.filter (·.protoOrTcp == proto)).length + ephemeralCount m proto) = .ok sockets) :
    ∃ m', allocateNetworkPortsProto ranges sample (bindFree free) m proto = .ok (sockets, m') ∧
      m'.environment = m.environment ∧ ∀ other, other ≠ proto →
        m'.endpoints.filter (·.protoOrTcp == other) = m.endpoints.filter (·.protoOrTcp == other) ∧
        ephemeralCount m' other = ephemeralCount m other := by
  obtain ⟨a, hap, -, h2⟩ := assignPorts_ok proto m.endpoints sockets
    (by rw [allocateSockets_length h]; omega)
  refine ⟨{ m with
      endpoints := a
      ephemeralPorts := m.ephemeralPorts.insert proto
        (.ports (sockets.drop (m.endpoints.filter (·.protoOrTcp == proto)).length)) },
    by simp only [allocateNetworkPortsProto, h, hap, bind, Except.bind, pure, Except.pure], rfl,
    fun other ho => ⟨?_, ?_⟩⟩
  · have hsplit : ∀ l : List Endpoint, l.filter (·.protoOrTcp == other) =
        (l.filter fun ep => !(ep.protoOrTcp == proto)).filter (·.protoOrTcp == other) := by
      intro l
      rw [List.filter_filter]
      exact List.filter_congr fun ep _ => by
        by_cases he : ep.protoOrTcp = other <;> simp [he, ho]
    rw [hsplit, h2, ← hsplit]
  · simp only [ephemeralCount, AList.lookup_insert_ne ho]

/-- `allocate_network_ports` raises exactly when the tcp sockets or the udp sockets the manifest
asks for cannot all be bound, whichever ports of each type are free. -/
theorem allocateNetworkPorts_error_iff {sample : SockType → List Nat → Nat → List Nat}
    {free : SockType → Nat → Bool} :
    (∃ e, allocateNetworkPorts ranges sample (fun t => bindFree (free t)) m = .error e) ↔
      (∃ e, allocateSockets ranges (sample .stream) m.environment (bindFree (free .stream))
          ((m.endpoints.filter (·.protoOrTcp == "tcp")).length + ephemeralCount m "tcp") = .error e) ∨
        (∃ e, allocateSockets ranges (sample .dgram) m.environment (bindFree (free .dgram))
          ((m.endpoints.filter (·.protoOrTcp == "udp")).length + ephemeralCount m "udp") = .error e) := by
  cases ht : allocateSockets ranges (sample .stream) m.environment (bindFree (free .stream))
      ((m.endpoints.filter (·.protoOrTcp == "tcp")).length + ephemeralCount m "tcp") with
  | error e =>
    simp only [allocateNetworkPorts, allocateNetworkPortsProto_of_error ht, bind, Except.bind]
    simp
  | ok tcp =>
    obtain ⟨m', hm', henv, hother⟩ := allocateNetworkPortsProto_of_ok ht
    obtain ⟨hfilter, hcount⟩ := hother "udp" (by decide)
    cases hu : allocateSockets ranges (sample .dgram) m.environment (bindFree (free .dgram))
        ((m.endpoints.filter (·.protoOrTcp == "udp")).length + ephemeralCount m "udp") with
    | error e =>
      rw [← henv, ← hfilter, ← hcount] at hu
      simp only [allocateNetworkPorts, hm', allocateNetworkPortsProto_of_error hu, bind,
        Except.bind]
      simp
    | ok udp =>
      rw [← henv, ← hfilter, ← hcount] at hu
      obtain ⟨m'', hm'', -⟩ := allocateNetworkPortsProto_of_ok hu
      simp only [allocateNetworkPorts, hm', hm'', bind, Except.bind, pure, Except.pure]
      simp

end Protocols

namespace LastFree

/-- One tcp endpoint with `port` 0, and no ephemeral ports, in a non-production environment. -/
def manifest : Manifest := ⟨"dev", [⟨some "tcp", 0, none⟩], ∅⟩

def inOrder (pool : List Nat) (_ : Nat) : List Nat := pool

/-- Only the last port of the non-production range is free. -/
def free (port : Nat) : Bool := port == 49151

theorem pool_eq : portPool nonPosix "dev" = List.range' 40960 8191 ++ [49151] := by
  show List.range' 40960 (8191 + 1) = _
  rw [List.range'_concat]

theorem filter_dropLast : (List.range' 40960 8191).filter free = [] :=
  List.filter_eq_nil_iff.mpr fun a ha => by
    rw [List.mem_range'_1] at ha
    simp only [free, beq_iff_eq]
    omega

theorem filter_pool : (portPool nonPosix "dev").filter free = [49151] := by
  rw [pool_eq, List.filter_append, filter_dropLast]
  rfl

end LastFree

open LastFree in
/-- A manifest with one tcp endpoint, where one port of the range is free, the last of the pool:
`allocate_network_ports` raises `ContainerSetupError('run.alloc_sockets:1 < 1')`. -/
theorem last_free_port_not_allocated :
    ((portPool nonPosix "dev").filter free).length = 1 ∧
      allocateNetworkPorts nonPosix (fun _ => inOrder) (fun _ => bindFree free) manifest =
        .error (.containerSetup "run.alloc_sockets:1 < 1") := by
  refine ⟨by rw [filter_pool]; rfl, ?_⟩
  have hs : allocateSockets nonPosix inOrder manifest.environment (bindFree free)
      ((manifest.endpoints.filter (·.protoOrTcp == "tcp")).length + ephemeralCount manifest "tcp") =
        .error (.containerSetup (shortMessage 1 1)) := by
    show allocateSockets nonPosix inOrder "dev" (bindFree free) 1 = _
    rw [allocateSockets_bindFree]
    dsimp only [inOrder]
    rw [if_neg, filter_pool]
    · rfl
    · rw [pool_eq, List.dropLast_concat, filter_dropLast]
      simp
  rw [allocateNetworkPorts]
  dsimp only
  rw [allocateNetworkPortsProto_of_error hs]
  rfl

end Treadmill.Runtime
