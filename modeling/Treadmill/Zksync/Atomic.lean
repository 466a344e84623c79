import Treadmill.Zksync.Closure

/-!
# Readers of the mirror never see a partial file

In every filesystem a reader can see, each file `glob('*')` lists holds a whole value read for its
path.
-/

namespace Treadmill.Zksync

/-- A path `glob('*')` lists: its last name does not begin with a dot. -/
def visible (q : FsPath) : Bool := q.getLast?.any fun n => !hidden n

/-- Every listed file of `fs` holds a value read for its path, with that value's modification
time. -/
def Intact (reads : List (ZkPath × ZNode)) (fs : Files) : Prop :=
  ∀ q c m, visible q → fs.lookup q = some (.file c m) → ∃ z, fpath z = q ∧ (z, ⟨c, ⟨m⟩⟩) ∈ reads

theorem Intact.mono {R R' : List (ZkPath × ZNode)} {fs : Files} (h : Intact R fs) (hR : R ⊆ R') :
    Intact R' fs := fun q c m hv hl =>
  let ⟨z, e, hz⟩ := h q c m hv hl
  ⟨z, e, hR hz⟩

theorem visible_append_singleton (dir : FsPath) (n : String) : visible (dir ++ [n]) = !hidden n := by
  simp [visible]

theorem isTemp_not_visible {q : FsPath} (h : IsTemp q) : visible q = false := by
  obtain ⟨dir, x, rfl⟩ := h
  rw [visible_append_singleton]
  simp [hidden, String.toList, String.append]

/-- The operations that put bytes or a time only into hidden names, and move nothing. -/
def FsOp.Hidden : FsOp → Prop
  | .create p _ | .write p _ | .utime p _ | .touch p _ => visible p = false
  | .chmod _ | .unlink _ | .mkdir _ => True
  | .rename .. => False

/-- The operations that fill a file fill one under a hidden name. -/
def FsOp.FillsHidden : FsOp → Prop
  | .create p _ | .write p _ => visible p = false
  | _ => True

theorem FsOp.Hidden.fills {op : FsOp} (h : op.Hidden) : op.FillsHidden := by
  cases op <;> first | exact h | trivial

theorem FsOp.lookup_apply_of_ne {op : FsOp} {fs : Files} {q : FsPath}
    (hr : ∀ src dst, op ≠ .rename src dst) (hq : q ≠ op.path) :
    (op.apply fs).lookup q = fs.lookup q := by
  cases op with
  | rename src dst => exact absurd rfl (hr src dst)
  | chmod => rfl
  | unlink p => exact AList.lookup_erase_ne hq
  | create p _ | mkdir p => exact AList.lookup_insert_ne hq
  | write p _ | utime p _ | touch p _ =>
    replace hq : q ≠ p := hq
    simp only [FsOp.apply]
    split <;> simp [AList.lookup_insert_ne hq]

theorem FsOp.Hidden.intact {op : FsOp} {R : List (ZkPath × ZNode)} {fs : Files} (h : op.Hidden)
    (hi : Intact R fs) : Intact R (op.apply fs) := by
  intro q c m hv hl
  have hr : ∀ src dst, op ≠ .rename src dst := by
    rintro _ _ rfl
    exact h
  by_cases hq : q = op.path
  · subst hq
    cases op with
    | chmod => exact hi _ c m hv hl
    | unlink p | mkdir p => simp [FsOp.apply, FsOp.path] at hl
    | rename => exact h.elim
    | create p _ | write p _ | utime p _ | touch p _ => exact absurd (h.symm.trans hv) (by simp)
  · exact hi q c m hv (by rwa [FsOp.lookup_apply_of_ne hr hq] at hl)

theorem intact_rename {R : List (ZkPath × ZNode)} {fs : Files} {src dst : FsPath} {c : String}
    {m : Nat} (hi : Intact R fs) (hs : fs.lookup src = some (.file c m))
    (hz : ∃ z, fpath z = dst ∧ (z, ⟨c, ⟨m⟩⟩) ∈ R) : Intact R ((FsOp.rename src dst).apply fs) := by
  intro q c' m' hv hl
  simp only [FsOp.apply, hs] at hl
  by_cases hq : q = dst
  · subst hq
    simp only [AList.lookup_insert, Option.some.injEq, Entry.file.injEq] at hl
    obtain ⟨rfl, rfl⟩ := hl
    exact hz
  · rw [AList.lookup_insert_ne hq] at hl
    by_cases hq' : q = src
    · rw [hq', AList.lookup_erase] at hl
      cases hl
    · exact hi q c' m' hv (by rwa [AList.lookup_erase_ne hq'] at hl)

/-- Since the log had `n` operations, every filesystem a reader could see was intact, and every
file filled was under a hidden name. -/
structure IntactSince (n : Nat) (s : World) : Prop where
  start : n ≤ s.fsLog.length
  states : ∀ k, n ≤ k → k ≤ s.fsLog.length → Intact s.reads (replay s.files0 (s.fsLog.take k))
  fills : ∀ op ∈ s.fsLog.drop n, op.FillsHidden

namespace IntactSince

variable {n : Nat} {s : World}

theorem of_eq {t : World} (h : IntactSince n s) (e1 : t.fsLog = s.fsLog) (e2 : t.files0 = s.files0)
    (e3 : t.reads = s.reads) : IntactSince n t := by
  obtain ⟨h1, h2, h3⟩ := h
  exact ⟨e1 ▸ h1, by rwa [e1, e2, e3], by rwa [e1]⟩

theorem files (h : IntactSince n s) : Intact s.reads s.files := by
  simpa [World.files] using h.states _ h.start le_rfl

theorem read (h : IntactSince n s) (r : List (ZkPath × ZNode)) :
    IntactSince n { s with reads := s.reads ++ r } :=
  ⟨h.start, fun k hk hk' => (h.states k hk hk').mono (List.subset_append_left _ _), h.fills⟩

theorem perform {op : FsOp} (h : IntactSince n s) (ho : Intact s.reads (op.apply s.files))
    (hf : op.FillsHidden) : IntactSince n (s.perform op) := by
  have hn := h.start
  refine ⟨by simp [World.perform]; omega, fun k hk hk' => ?_, fun o hop => ?_⟩
  · simp only [World.perform, List.length_append, List.length_singleton] at hk' ⊢
    rcases Nat.lt_or_eq_of_le hk' with hk' | rfl
    · rw [List.take_append_of_le_length (by omega)]
      exact h.states k hk (by omega)
    · rwa [List.take_of_length_le (by simp), replay_append, replay_singleton]
  · simp only [World.perform, List.drop_append_of_le_length hn, List.mem_append,
      List.mem_singleton] at hop
    rcases hop with hop | rfl
    exacts [h.fills o hop, hf]

theorem perform_hidden {op : FsOp} (h : IntactSince n s) (ho : op.Hidden) :
    IntactSince n (s.perform op) :=
  h.perform (ho.intact h.files) ho.fills

theorem append {ops : List FsOp} {r : List (ZkPath × ZNode)} (h : IntactSince n s)
    (hg : ∀ op ∈ ops, op.Hidden) :
    IntactSince n { s with fsLog := s.fsLog ++ ops, reads := s.reads ++ r } := by
  induction ops generalizing s with
  | nil => exact (h.read r).of_eq (by simp) rfl rfl
  | cons op ops ih =>
    have := ih ((h.perform_hidden (hg op (List.mem_cons_self _ _))))
      fun o ho => hg o (List.mem_cons_of_mem _ ho)
    exact this.of_eq (by simp [World.perform]) rfl rfl

end IntactSince

section Calls

variable {α : Type} {P R : World → Prop}

theorem fsCall_triple {op : FsOp} {Q : Unit → World → Prop}
    (hQ : ∀ s, P s → Q () (s.perform op)) (hR : ∀ s, P s → R s) : Triple P (fsCall op) Q R := by
  intro s hs
  cases h : s.fault s.fsLog.length with
  | none => simpa only [fsCall, h] using hQ s hs
  | some _ => simpa only [fsCall, h] using hR s hs

theorem fsWrite_triple {path : FsPath} {data : String} {Q : Unit → World → Prop}
    (hQ : ∀ s, P s → Q () (s.perform (.write path data)))
    (hR : ∀ s k, P s → R (s.perform (.write path ⟨data.toList.take k⟩))) :
    Triple P (fsWrite path data) Q R := by
  intro s hs
  cases h : s.fault s.fsLog.length with
  | none => simpa only [fsWrite, h] using hQ s hs
  | some k => simpa only [fsWrite, h] using hR s k hs

theorem namedTemporaryFile_triple {dir : FsPath} {Q : FsPath → World → Prop}
    (hQ : ∀ s temp, P s → IsTemp temp → temp ∉ s.files → Q temp (s.perform (.create temp s.now)))
    (hR : ∀ s, P s → R s) : Triple P (namedTemporaryFile dir) Q R := by
  intro s hs
  by_cases ht : dir ++ [".tmp" ++ s.tempSuffix s.fsLog.length] ∈ s.files
  · simpa only [namedTemporaryFile, ht, if_true] using hR s hs
  · cases h : s.fault s.fsLog.length with
    | none =>
      simpa only [namedTemporaryFile, ht, if_false, bind_apply, fsCall, h, pure_apply]
        using hQ s _ hs ⟨_, _, rfl⟩ ht
    | some _ => simpa only [namedTemporaryFile, ht, if_false, bind_apply, fsCall, h] using hR s hs

theorem osRename_triple {src dst : FsPath} {Q : Unit → World → Prop}
    (hQ : ∀ s, P s → Q () (s.perform (.rename src dst))) (hR : ∀ s, P s → R s) :
    Triple P (osRename src dst) Q R := by
  intro s hs
  by_cases hd : s.files.lookup dst = some .dir
  · simpa only [osRename, hd, if_true] using hR s hs
  · simpa only [osRename, hd, if_false] using fsCall_triple hQ hR s hs

end Calls

section WriteData

variable {n : Nat} {z : ZkPath} {d : String} {st : Stat}

variable (n z d st) in
/-- Inside `write_data` of a value read for `z`: the temporary file `temp` holds `c`. -/
def Staged (temp : FsPath) (c : String) (s : World) : Prop :=
  (IntactSince n s ∧ (z, ⟨d, st⟩) ∈ s.reads) ∧ IsTemp temp ∧ ∃ m, s.files.lookup temp = some (.file c m)

theorem Staged.perform {temp : FsPath} {c c' : String} {s : World} {op : FsOp}
    (h : Staged n z d st temp c s) (ho : op.Hidden)
    (hl : ∀ m, s.files.lookup temp = some (.file c m) →
      ∃ m', (op.apply s.files).lookup temp = some (.file c' m')) :
    Staged n z d st temp c' (s.perform op) :=
  ⟨⟨h.1.1.perform_hidden ho, h.1.2⟩, h.2.1, by simpa using hl _ h.2.2.choose_spec⟩

/-- `write_data` of a value read for `z` leaves every filesystem a reader can see intact. -/
theorem writeData_intact :
    Triple (fun s => IntactSince n s ∧ (z, ⟨d, st⟩) ∈ s.reads)
      (writeData (fpath z) (some d) st.lastModified true) (fun _ => IntactSince n)
      (IntactSince n) := by
  dsimp only [writeData]
  refine .seq (M := fun temp => Staged n z d st temp "") (namedTemporaryFile_triple
    (fun s temp h ht _ => ⟨⟨h.1.perform_hidden (isTemp_not_visible ht), h.2⟩, ht, s.now,
      by simp [FsOp.apply]⟩) fun _ h => h.1) fun temp => ?_
  refine .seq (M := fun _ => Staged n z d st temp d) ?_ fun _ => ?_
  · refine .cond (fun _ => fsWrite_triple (fun s h => h.perform (isTemp_not_visible h.2.1)
      fun m e => ⟨m, by simp [FsOp.apply, e]⟩) fun s k h => h.1.1.perform_hidden
        (isTemp_not_visible h.2.1)) fun ht => .ret fun s h => ?_
    have hd : d = "" := by simpa [truthy] using ht
    exact ⟨h.1, h.2.1, by rw [hd]; exact h.2.2⟩
  refine .seq (M := fun _ => Staged n z d st temp d)
    (fsCall_triple (fun s h => h.perform (show (FsOp.chmod temp).Hidden from trivial)
      fun m e => ⟨m, by simpa [FsOp.apply]⟩) fun _ h => h.1.1) fun _ => ?_
  refine .seq (M := fun _ s => (IntactSince n s ∧ (z, ⟨d, st⟩) ∈ s.reads) ∧
      s.files.lookup temp = some (.file d st.lastModified))
    (fsCall_triple (fun s h => ⟨⟨h.1.1.perform_hidden (isTemp_not_visible h.2.1), h.1.2⟩, by
      obtain ⟨m, e⟩ := h.2.2
      simp [FsOp.apply, e]⟩) fun _ h => h.1.1) fun _ => ?_
  refine .handle (osRename_triple (fun s h =>
    h.1.1.perform (intact_rename h.1.1.files h.2 ⟨z, rfl, h.1.2⟩) trivial) fun _ h => h.1.1) fun _ => ?_
  exact .cond (fun _ => .raise fun _ h => h) fun _ => .ret fun _ h => h

end WriteData

theorem visible_doneFile (dir : FsPath) : visible (doneFile dir) = false := by
  rw [doneFile, visible_append_singleton]
  decide

theorem visible_modifiedFile : visible modifiedFile = false := by decide

theorem closedAll_intactSince (n : Nat) : ClosedAll (IntactSince n) where
  watches _ _ h := h.of_eq rfl rfl rfl
  processedOnce _ _ h := h.of_eq rfl rfl rfl
  dataWatches _ _ h := h.of_eq rfl rfl rfl
  nextId _ _ h := h.of_eq rfl rfl rfl
  read _ _ _ _ h := h.read _
  writeData _ _ _ := writeData_intact
  rmSafe _ := (rmSafe_footprint _).keeps fun _ _ _ h hg => h.append fun op hop => hg op hop ▸ trivial
  updateLast := updateLast_footprint.keeps fun _ _ _ h hg => h.append fun op hop => by
    obtain ⟨m, rfl | rfl⟩ := hg op hop <;> exact visible_modifiedFile
  registerChildren _ _ _ _ _ h := h.of_eq rfl rfl rfl
  armChildren _ _ h := h.of_eq rfl rfl rfl
  stopChildren _ _ h := h.of_eq rfl rfl rfl

theorem step_intactSince {n : Nat} {t u : World} {l : Label} (h : Step t l u)
    (hI : IntactSince n t) : IntactSince n u :=
  (closedAll_intactSince n).step
    (fun _ => (mkdirSafe_footprint _).keeps fun _ _ _ h hg =>
      h.append fun op hop => hg op hop ▸ trivial)
    (fun _ => (touch_footprint _).keeps fun _ _ _ h hg => h.append fun op hop => by
      obtain ⟨m, rfl⟩ := hg op hop
      exact visible_doneFile _)
    (Triple.seq (M := fun _ => IntactSince n) (.update fun _ h => h.of_eq rfl rfl rfl)
      fun _ => (closedAll_intactSince n).updateLast)
    (fun _ op h => by cases op <;> exact h.of_eq rfl rfl rfl)
    (fun _ _ h => h.of_eq rfl rfl rfl) (fun _ h => h.of_eq rfl rfl rfl) h hI

theorem run_intactSince {n : Nat} {s0 s : World} {steps : List (World × Label)}
    (hr : Run s0 steps s) (h0 : IntactSince n s0) : IntactSince n s := by
  induction hr with
  | nil => exact h0
  | snoc _ hs ih => exact step_intactSince hs ih

/-- Along every run from a mirror whose listed files are intact, in every filesystem a reader
can see, each listed file holds a whole value read for its path, stamped with that value's
modification time; and the run fills files, `write_data`'s temporary files among them, only
under hidden names. -/
theorem mirror_files_never_partial {s0 s : World} {steps : List (World × Label)}
    (hr : Run s0 steps s) (h0 : Intact s0.reads s0.files) :
    (∀ k, s0.fsLog.length ≤ k → k ≤ s.fsLog.length →
        Intact s.reads (replay s.files0 (s.fsLog.take k))) ∧
      ∀ q, ((∃ t, FsOp.create q t ∈ s.fsLog.drop s0.fsLog.length) ∨
        ∃ c, FsOp.write q c ∈ s.fsLog.drop s0.fsLog.length) → visible q = false := by
  have hI := run_intactSince hr ⟨le_rfl, fun k hk hk' => by
    rw [List.take_of_length_le (by omega)]
    exact h0, by simp⟩
  refine ⟨hI.states, fun q hq => ?_⟩
  rcases hq with ⟨t, hq⟩ | ⟨c, hq⟩
  exacts [hI.fills _ hq, hI.fills _ hq]

namespace OneFile

def nodes : AList fun _ : ZkPath => ZNode :=
  (∅ : AList fun _ : ZkPath => ZNode).insert ["p"] ⟨"", ⟨0⟩⟩ |>.insert ["p", "c"] ⟨"v", ⟨1⟩⟩

def temp : FsPath := ["p", ".tmpx"]

/-- After `sync_data('/p/c')`: `fpath(/p/c)` written through a temporary file. -/
def synced : World :=
  { World.start nodes ∅ with
    fsLog := [.create temp 0, .write temp "v", .chmod temp, .utime temp 1, .rename temp ["p", "c"]]
    reads := [(["p", "c"], ⟨"v", ⟨1⟩⟩)] }

theorem sync_step : Step (World.start nodes ∅) (.call (.syncData ["p", "c"])) synced :=
  exec_step rfl

theorem start_intact : Intact (World.start nodes ∅).reads (World.start nodes ∅).files := by
  intro q c m _ h
  simp [World.start, World.files] at h

end OneFile

open OneFile in
theorem mirror_files_never_partial_one_file :
    Run (World.start nodes ∅) [(World.start nodes ∅, .call (.syncData ["p", "c"]))] synced ∧
      Intact (World.start nodes ∅).reads (World.start nodes ∅).files ∧
      (∀ k, (World.start nodes ∅).fsLog.length ≤ k → k ≤ synced.fsLog.length →
        Intact synced.reads (replay synced.files0 (synced.fsLog.take k))) ∧
      ∀ q, ((∃ t, FsOp.create q t ∈ synced.fsLog.drop (World.start nodes ∅).fsLog.length) ∨
        ∃ c, FsOp.write q c ∈ synced.fsLog.drop (World.start nodes ∅).fsLog.length) →
        visible q = false :=
  ⟨.cons sync_step (.nil _), start_intact,
    mirror_files_never_partial (.cons sync_step (.nil _)) start_intact⟩

end Treadmill.Zksync
