import Treadmill.Zksync.Engine
import Treadmill.Zksync.Triple

/-!
# Frames

`Footprint G x`: `x` only appends to the logs, with filesystem operations satisfying `G`.
-/

namespace Treadmill.Zksync

/-- `x` only appends to the two logs, and every filesystem operation it appends satisfies `G`. -/
def Footprint {α : Type} (G : FsOp → Prop) (x : Sync α) : Prop :=
  ∀ s, ∃ ops rs, after (x s) = { s with fsLog := s.fsLog ++ ops, reads := s.reads ++ rs } ∧
    ∀ op ∈ ops, G op

/-- `x` only appends filesystem operations to the log and reads to the reads. -/
def LogOnly {α : Type} (x : Sync α) : Prop := Footprint (fun _ => True) x

namespace Footprint

variable {α β : Type} {G : FsOp → Prop}

theorem ret {a : α} : Footprint G (pure a : Sync α) := fun _ => ⟨[], [], by simp, by simp⟩

theorem raise {e : Err} : Footprint G (throw e : Sync α) := fun _ => ⟨[], [], by simp, by simp⟩

theorem seq_ret {x : Sync α} {f : α → Sync β} {P : α → Prop} (hx : Footprint G x)
    (hr : ∀ s a t, x s = .ok a t → P a) (hf : ∀ a, P a → Footprint G (f a)) :
    Footprint G (x >>= f) := by
  intro s
  obtain ⟨ops, rs, hops, hg⟩ := hx s
  rw [bind_apply]
  cases h : x s with
  | ok a t =>
    rw [h, after_ok] at hops
    obtain ⟨ops', rs', hops', hg'⟩ := hf a (hr s a t h) t
    refine ⟨ops ++ ops', rs ++ rs', by rw [hops', hops]; simp, fun op hop => ?_⟩
    rcases List.mem_append.mp hop with hop | hop
    exacts [hg op hop, hg' op hop]
  | error e t =>
    rw [h, after_error] at hops
    exact ⟨ops, rs, hops, hg⟩

theorem seq {x : Sync α} {f : α → Sync β} (hx : Footprint G x) (hf : ∀ a, Footprint G (f a)) :
    Footprint G (x >>= f) :=
  seq_ret (P := fun _ => True) hx (fun _ _ _ _ => trivial) fun a _ => hf a

theorem seq_read {f : World → Sync β} (hf : ∀ t, Footprint G (f t)) : Footprint G (get >>= f) :=
  seq (fun _ => ⟨[], [], by simp, by simp⟩) hf

theorem handle {x : Sync α} {h : Err → Sync α} (hx : Footprint G x) (hh : ∀ e, Footprint G (h e)) :
    Footprint G (tryCatch x h) := by
  intro s
  obtain ⟨ops, rs, hops, hg⟩ := hx s
  rw [tryCatch_apply]
  cases hxs : x s with
  | ok a t => rw [hxs] at hops; exact ⟨ops, rs, hops, hg⟩
  | error e t =>
    rw [hxs, after_error] at hops
    obtain ⟨ops', rs', hops', hg'⟩ := hh e t
    refine ⟨ops ++ ops', rs ++ rs', by rw [hops', hops]; simp, fun op hop => ?_⟩
    rcases List.mem_append.mp hop with hop | hop
    exacts [hg op hop, hg' op hop]

theorem cond {c : Prop} [Decidable c] {x y : Sync α} (hx : Footprint G x) (hy : Footprint G y) :
    Footprint G (if c then x else y) := by
  split <;> assumption

theorem mono {x : Sync α} {G' : FsOp → Prop} (h : Footprint G x) (hG : ∀ op, G op → G' op) :
    Footprint G' x := fun s =>
  let ⟨ops, rs, e, hg⟩ := h s
  ⟨ops, rs, e, fun op hop => hG op (hg op hop)⟩

theorem logOnly {x : Sync α} (h : Footprint G x) : LogOnly x := h.mono fun _ _ => trivial

theorem keeps {x : Sync α} {I : World → Prop} (h : Footprint G x)
    (hI : ∀ s ops rs, I s → (∀ op ∈ ops, G op) →
      I { s with fsLog := s.fsLog ++ ops, reads := s.reads ++ rs }) :
    Keeps I x :=
  Keeps.of_world fun s hs => by
    obtain ⟨ops, rs, e, hg⟩ := h s
    rw [e]
    exact hI s ops rs hs hg

end Footprint

namespace LogOnly

variable {α β : Type}

theorem ret {a : α} : LogOnly (pure a : Sync α) := Footprint.ret

theorem raise {e : Err} : LogOnly (throw e : Sync α) := Footprint.raise

theorem seq {x : Sync α} {f : α → Sync β} (hx : LogOnly x) (hf : ∀ a, LogOnly (f a)) :
    LogOnly (x >>= f) :=
  Footprint.seq hx hf

theorem seq_read {f : World → Sync β} (hf : ∀ t, LogOnly (f t)) : LogOnly (get >>= f) :=
  Footprint.seq_read hf

theorem handle {x : Sync α} {h : Err → Sync α} (hx : LogOnly x) (hh : ∀ e, LogOnly (h e)) :
    LogOnly (tryCatch x h) :=
  Footprint.handle hx hh

theorem cond {c : Prop} [Decidable c] {x y : Sync α} (hx : LogOnly x) (hy : LogOnly y) :
    LogOnly (if c then x else y) :=
  Footprint.cond hx hy

theorem keeps {x : Sync α} {I : World → Prop} (h : LogOnly x)
    (hI : ∀ s ops rs, I s → I { s with fsLog := s.fsLog ++ ops, reads := s.reads ++ rs }) :
    Keeps I x :=
  Footprint.keeps h fun s ops rs hs _ => hI s ops rs hs

end LogOnly

/-- A name `NamedTemporaryFile(prefix='.tmp')` makes. -/
def IsTemp (q : FsPath) : Prop := ∃ dir sfx, q = dir ++ [".tmp" ++ sfx]

theorem tmp_append_ne {x n : String} (hn : n.toList.take 2 ≠ ['.', 't']) : ".tmp" ++ x ≠ n := by
  rintro rfl
  apply hn
  simp [String.toList, String.append]

theorem not_isTemp {q dir : FsPath} {n : String} (hq : q = dir ++ [n])
    (hn : n.toList.take 2 ≠ ['.', 't']) : ¬ IsTemp q := by
  rintro ⟨d, x, rfl⟩
  obtain ⟨-, h⟩ := List.append_inj' hq rfl
  exact tmp_append_ne hn (List.singleton_inj.mp h)

theorem not_isTemp_doneFile (dir : FsPath) : ¬ IsTemp (doneFile dir) := not_isTemp rfl (by decide)

theorem not_isTemp_modifiedFile : ¬ IsTemp modifiedFile :=
  not_isTemp (show modifiedFile = [] ++ [".modified"] from rfl) (by decide)

def FsOp.path : FsOp → FsPath
  | .create p _ | .write p _ | .chmod p | .utime p _ | .unlink p | .touch p _ | .mkdir p => p
  | .rename _ dst => dst

/-- An operation of `write_data` to `fpath`: on its temporary file, or the rename of the
temporary file onto `fpath`. -/
def WriteOp (fpath : FsPath) (op : FsOp) : Prop :=
  (IsTemp op.path ∧ ∀ src dst, op ≠ .rename src dst) ∨ ∃ temp, IsTemp temp ∧ op = .rename temp fpath

/-- What `_update_last` writes: the `.modified` marker, touched then stamped. -/
def BumpOp (op : FsOp) : Prop := ∃ m, op = .touch modifiedFile m ∨ op = .utime modifiedFile m

section Primitives

theorem fsCall_footprint (op : FsOp) : Footprint (· = op) (fsCall op) := by
  intro s
  simp only [fsCall]
  split
  · exact ⟨[op], [], by simp [World.perform], by simp⟩
  · exact ⟨[], [], by simp, by simp⟩

theorem fsWrite_footprint (path : FsPath) (data : String) :
    Footprint (fun op => ∃ c, op = .write path c) (fsWrite path data) := by
  intro s
  simp only [fsWrite]
  split
  · exact ⟨[.write path data], [], by simp [World.perform], by simp⟩
  · rename_i k _
    exact ⟨[.write path ⟨data.toList.take k⟩], [], by simp [World.perform], by simp⟩

theorem namedTemporaryFile_footprint (dir : FsPath) :
    Footprint (fun op => ∃ temp m, IsTemp temp ∧ op = .create temp m) (namedTemporaryFile dir) := by
  intro s
  simp only [namedTemporaryFile]
  split
  · exact ⟨[], [], by simp, by simp⟩
  · exact (Footprint.seq ((fsCall_footprint _).mono fun _ e => ⟨_, _, ⟨_, _, rfl⟩, e⟩)
      fun _ => Footprint.ret) s

theorem namedTemporaryFile_isTemp {dir : FsPath} {s t : World} {temp : FsPath}
    (h : namedTemporaryFile dir s = .ok temp t) : IsTemp temp := by
  simp only [namedTemporaryFile] at h
  split at h
  · cases h
  · simp only [bind_apply, fsCall] at h
    split at h <;> cases h
    exact ⟨_, _, rfl⟩

theorem osRename_footprint (src dst : FsPath) : Footprint (· = .rename src dst) (osRename src dst) := by
  intro s
  simp only [osRename]
  split
  · exact ⟨[], [], by simp, by simp⟩
  · exact fsCall_footprint _ s

theorem osUtime_footprint (path : FsPath) (mtime : Nat) :
    Footprint (· = .utime path mtime) (osUtime path mtime) := by
  intro s
  simp only [osUtime]
  split
  · exact fsCall_footprint _ s
  · exact ⟨[], [], by simp, by simp⟩

theorem rmSafe_footprint (path : FsPath) : Footprint (· = .unlink path) (rmSafe path) := by
  intro s
  simp only [rmSafe]
  split
  · exact ⟨[], [], by simp, by simp⟩
  · exact ⟨[], [], by simp, by simp⟩
  · exact fsCall_footprint _ s

theorem mkdirSafe_footprint (path : FsPath) : Footprint (· = .mkdir path) (mkdirSafe path) := by
  intro s
  simp only [mkdirSafe]
  split
  · exact ⟨[], [], by simp, by simp⟩
  · exact fsCall_footprint _ s

theorem touch_footprint (path : FsPath) : Footprint (fun op => ∃ m, op = .touch path m) (touch path) := by
  intro s
  simp only [touch]
  split
  · exact ⟨[], [], by simp, by simp⟩
  · exact (fsCall_footprint _).mono (fun _ e => ⟨_, e⟩) s

theorem writeData_footprint (fpath : FsPath) (data : Option String) (modified : Nat)
    (raiseErr : Bool) : Footprint (WriteOp fpath) (writeData fpath data modified raiseErr) := by
  have ht : ∀ {temp : FsPath} {G : FsOp → Prop} {x : Sync Unit}, IsTemp temp →
      Footprint G x → (∀ op, G op → op.path = temp ∧ ∀ src dst, op ≠ .rename src dst) →
      Footprint (WriteOp fpath) x := fun h hx hG =>
    hx.mono fun op hop => .inl ⟨(hG op hop).1 ▸ h, (hG op hop).2⟩
  refine .seq_ret ((namedTemporaryFile_footprint _).mono fun op ⟨temp, m, h, e⟩ =>
    .inl ⟨e ▸ h, by simp [e]⟩) (fun _ _ _ => namedTemporaryFile_isTemp) fun temp h => ?_
  refine .seq (.cond (ht h (fsWrite_footprint _ _) fun op ⟨c, e⟩ => by simp [e, FsOp.path]) .ret)
    fun _ => .seq (ht h (fsCall_footprint _) fun op e => by simp [e, FsOp.path]) fun _ =>
      .seq (ht h (fsCall_footprint _) fun op e => by simp [e, FsOp.path]) fun _ =>
        .handle ((osRename_footprint _ _).mono fun op e => .inr ⟨temp, h, e⟩) fun _ => .cond .raise .ret

theorem updateLast_footprint : Footprint BumpOp updateLast :=
  .seq_read fun _ => .cond (.seq ((touch_footprint _).mono fun _ ⟨m, e⟩ => ⟨m, .inl e⟩) fun _ =>
    .seq_read fun _ => (osUtime_footprint _ _).mono fun _ e => ⟨_, .inr e⟩) .ret

theorem writeStat_footprint (fpath : FsPath) (data : Option String) (stat : Option Stat) :
    Footprint (WriteOp fpath) (writeStat fpath data stat) := by
  cases stat with
  | some st => exact writeData_footprint _ _ _ _
  | none => exact .raise

theorem readNode_footprint {G : FsOp → Prop} (zkpath : ZkPath) : Footprint G (readNode zkpath) := by
  intro s
  simp only [readNode]
  split
  · exact ⟨[], _, by simp; rfl, by simp⟩
  · exact ⟨[], [], by simp, by simp⟩

theorem zkGet_footprint {G : FsOp → Prop} (zkpath : ZkPath) : Footprint G (zkGet zkpath) := by
  intro s
  simp only [zkGet]
  split
  · exact ⟨[], _, by simp; rfl, by simp⟩
  · exact ⟨[], [], by simp, by simp⟩

theorem zkGetChildren_footprint {G : FsOp → Prop} (zkpath : ZkPath) :
    Footprint G (zkGetChildren zkpath) := by
  intro s
  simp only [zkGetChildren]
  split <;> exact ⟨[], [], by simp, by simp⟩

theorem listChildren_footprint {G : FsOp → Prop} (zkpath : ZkPath) :
    Footprint G (listChildren zkpath) :=
  fun _ => ⟨[], [], by simp [listChildren], by simp⟩

theorem fsCall_logOnly (op : FsOp) : LogOnly (fsCall op) := (fsCall_footprint op).logOnly

theorem rmSafe_logOnly (path : FsPath) : LogOnly (rmSafe path) := (rmSafe_footprint path).logOnly

theorem mkdirSafe_logOnly (path : FsPath) : LogOnly (mkdirSafe path) :=
  (mkdirSafe_footprint path).logOnly

theorem touch_logOnly (path : FsPath) : LogOnly (touch path) := (touch_footprint path).logOnly

theorem writeData_logOnly (fpath : FsPath) (data : Option String) (modified : Nat) (raiseErr : Bool) :
    LogOnly (writeData fpath data modified raiseErr) :=
  (writeData_footprint fpath data modified raiseErr).logOnly

theorem updateLast_logOnly : LogOnly updateLast := updateLast_footprint.logOnly

theorem writeStat_logOnly (fpath : FsPath) (data : Option String) (stat : Option Stat) :
    LogOnly (writeStat fpath data stat) :=
  (writeStat_footprint fpath data stat).logOnly

theorem readNode_logOnly (zkpath : ZkPath) : LogOnly (readNode zkpath) := readNode_footprint zkpath

theorem zkGet_logOnly (zkpath : ZkPath) : LogOnly (zkGet zkpath) := zkGet_footprint zkpath

theorem zkGetChildren_logOnly (zkpath : ZkPath) : LogOnly (zkGetChildren zkpath) :=
  zkGetChildren_footprint zkpath

theorem listChildren_logOnly (zkpath : ZkPath) : LogOnly (listChildren zkpath) :=
  listChildren_footprint zkpath

theorem readNode_triple {P R : World → Prop} (zkpath : ZkPath)
    (hP : ∀ s rs, P s → P { s with reads := s.reads ++ rs }) :
    Triple P (readNode zkpath) (fun _ => P) R := by
  intro s hs
  cases h : s.nodes.lookup zkpath with
  | none => simp only [readNode, h]; exact hs
  | some n => simp only [readNode, h]; exact hP s _ hs

end Primitives

end Treadmill.Zksync
