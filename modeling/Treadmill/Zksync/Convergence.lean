import Treadmill.Zksync.Atomic
import Treadmill.Zksync.Pass

/-!
# The listing of a mirrored directory at quiescence
-/

namespace Treadmill.Zksync

/-- An operation that leaves the entry at `x` alone. -/
def FsOp.Spares (x : FsPath) (op : FsOp) : Prop :=
  op.path ≠ x ∧ ∀ src dst, op = .rename src dst → src ≠ x

theorem FsOp.lookup_apply_of_spares {op : FsOp} {fs : Files} {x : FsPath} (h : op.Spares x) :
    (op.apply fs).lookup x = fs.lookup x := by
  cases op with
  | rename src dst =>
    have h1 : dst ≠ x := h.1
    simp only [FsOp.apply]
    split
    · rw [AList.lookup_insert_ne fun e => h1 e.symm, AList.lookup_erase_ne (h.2 src dst rfl).symm]
    · rfl
  | _ => exact FsOp.lookup_apply_of_ne (by simp) (Ne.symm h.1)

theorem replay_lookup_of_spares {fs : Files} {ops : List FsOp} {x : FsPath}
    (h : ∀ op ∈ ops, op.Spares x) : (replay fs ops).lookup x = fs.lookup x := by
  induction ops generalizing fs with
  | nil => rfl
  | cons op ops ih =>
    rw [show op :: ops = [op] ++ ops from rfl, replay_append, replay_singleton,
      ih fun o ho => h o (List.mem_cons_of_mem _ ho),
      FsOp.lookup_apply_of_spares (h op (List.mem_cons_self _ _))]

theorem Footprint.lookup_after {α : Type} {G : FsOp → Prop} {x : Sync α} {q : FsPath}
    (h : Footprint G x) (hG : ∀ op, G op → op.Spares q) (s : World) :
    (after (x s)).files.lookup q = s.files.lookup q := by
  obtain ⟨ops, rs, e, hg⟩ := h s
  rw [e]
  simp only [World.files, replay_append]
  exact replay_lookup_of_spares fun op hop => hG op (hg op hop)

theorem mem_iff_lookup {fs fs' : Files} {x : FsPath} (h : fs'.lookup x = fs.lookup x) :
    x ∈ fs' ↔ x ∈ fs := by
  rw [← AList.lookup_isSome, ← AList.lookup_isSome, h]

theorem rmSafe_files {q x : FsPath} {s t : World} (h : rmSafe q s = .ok () t) :
    t.files.lookup x = if x = q then none else s.files.lookup x := by
  unfold rmSafe at h
  split at h
  · cases h
    split
    · subst x
      assumption
    · rfl
  · cases h
  · unfold fsCall at h
    split at h <;> cases h
    by_cases hx : x = q
    · subst hx
      simp [FsOp.apply]
    · simp [hx, FsOp.apply, AList.lookup_erase_ne hx]

/-- `write_data` leaves `fpath` holding the data stamped `modified`, and every other entry as it
was. -/
theorem writeData_files {fpath : FsPath} {d : String} {m : Nat} {s t : World}
    (h : writeData fpath (some d) m true s = .ok () t) (x : FsPath) :
    t.files.lookup x = if x = fpath then some (.file d m) else s.files.lookup x := by
  have hT : Triple (fun u => u.files = s.files) (writeData fpath (some d) m true)
      (fun _ u => ∀ x, u.files.lookup x = if x = fpath then some (.file d m) else s.files.lookup x)
      fun _ => True := by
    dsimp only [writeData]
    refine .seq (M := fun temp u => temp ∉ s.files ∧ ∃ t, u.files = s.files.insert temp (.file "" t))
      (namedTemporaryFile_triple (fun u temp hu _ hn => ⟨hu ▸ hn, u.now, by simp [FsOp.apply, hu]⟩)
        fun _ _ => trivial) fun temp => ?_
    refine .seq (M := fun _ u => temp ∉ s.files ∧ ∃ t, u.files = s.files.insert temp (.file d t))
      ?_ fun _ => ?_
    · refine .cond (fun _ => fsWrite_triple (fun u ⟨hn, t, e⟩ => ⟨hn, t, by
        simp [FsOp.apply, e, AList.insert_insert]⟩) fun _ _ _ => trivial) fun hd => .ret fun u hu => ?_
      have hd : d = "" := by simpa [truthy] using hd
      exact hd ▸ hu
    refine .seq (M := fun _ u => temp ∉ s.files ∧ ∃ t, u.files = s.files.insert temp (.file d t))
      (fsCall_triple (fun u hu => by simpa [FsOp.apply] using hu) fun _ _ => trivial) fun _ => ?_
    refine .seq (M := fun _ u => temp ∉ s.files ∧ u.files = s.files.insert temp (.file d m))
      (fsCall_triple (fun u ⟨hn, t, e⟩ => ⟨hn, by simp [FsOp.apply, e, AList.insert_insert]⟩)
        fun _ _ => trivial) fun _ => ?_
    refine .handle (osRename_triple (fun u ⟨hn, e⟩ x => ?_) fun _ _ => trivial) fun _ =>
      .cond (fun _ => .raise fun _ _ => trivial) fun h => absurd rfl h
    simp only [World.files_perform, FsOp.apply, e, AList.lookup_insert]
    by_cases hx : x = fpath
    · subst hx
      simp
    · rw [if_neg hx, AList.lookup_insert_ne hx]
      by_cases ht : x = temp
      · subst ht
        rw [AList.lookup_erase, AList.lookup_eq_none.mpr hn]
      · rw [AList.lookup_erase_ne ht, AList.lookup_insert_ne ht]
  exact hT.ok_post rfl h x

theorem rmSafe_mem {q x : FsPath} {s t : World} (h : rmSafe q s = .ok () t) :
    x ∈ t.files ↔ x ≠ q ∧ x ∈ s.files := by
  rw [← AList.lookup_isSome, ← AList.lookup_isSome, rmSafe_files h]
  split <;> simp_all

theorem writeData_mem {fpath x : FsPath} {d : String} {m : Nat} {s t : World}
    (h : writeData fpath (some d) m true s = .ok () t) : x ∈ t.files ↔ x = fpath ∨ x ∈ s.files := by
  rw [← AList.lookup_isSome, ← AList.lookup_isSome, writeData_files h]
  split <;> simp_all

theorem updateLast_mem {x : FsPath} {s t : World} (hx : visible x = true)
    (h : updateLast s = .ok () t) : x ∈ t.files ↔ x ∈ s.files := by
  refine mem_iff_lookup ?_
  have := updateLast_footprint.lookup_after (q := x) (fun op ⟨m, hm⟩ => ?_) s
  · rwa [h, after_ok] at this
  · have hne : modifiedFile ≠ x := fun e => by simp [← e, visible_modifiedFile] at hx
    rcases hm with rfl | rfl <;> exact ⟨hne, by simp⟩

/-- No path is in `watches` and no data watch is installed. -/
def Bare (s : World) : Prop := s.watches = [] ∧ s.dataWatches = []

section Pass

variable (p : ZkPath)

/-- The visible names under `fpath(p)` are those `Φ` holds of. -/
def Shows (Φ : String → Prop) (s : World) : Prop :=
  Bare s ∧ ∀ n, hidden n = false → (p ++ [n] ∈ s.files ↔ Φ n)

theorem Shows.mono {p : ZkPath} {Φ Ψ : String → Prop} {s : World} (h : Shows p Φ s)
    (hΦ : ∀ n, hidden n = false → (Φ n ↔ Ψ n)) : Shows p Ψ s :=
  ⟨h.1, fun n hn => (h.2 n hn).trans (hΦ n hn)⟩

theorem Shows.log {p : ZkPath} {Φ : String → Prop} {s t : World} (h : Shows p Φ s)
    (hw : t.watches = s.watches) (hd : t.dataWatches = s.dataWatches)
    (hf : ∀ n, hidden n = false → (p ++ [n] ∈ t.files ↔ p ++ [n] ∈ s.files)) :
    Shows p Φ t :=
  ⟨⟨hw ▸ h.1.1, hd ▸ h.1.2⟩, fun n hn => (hf n hn).trans (h.2 n hn)⟩

theorem visible_child {n : String} (hn : hidden n = false) : visible (p ++ [n]) = true := by
  simp [visible_append_singleton, hn]

theorem delNode_shows (Φ : String → Prop) (a : String) :
    Triple (Shows p Φ) (delNode p defaultOnDel a) (fun _ => Shows p fun n => Φ n ∧ n ≠ a)
      fun _ => True := by
  refine .seq (M := fun _ => Shows p Φ) (.update fun s h => ⟨⟨by simp [h.1.1, discard], h.1.2⟩, h.2⟩)
    fun _ s hs => ?_
  unfold defaultOnDel joinZookeeperPath fpath
  cases hr : rmSafe (p ++ [a]) s with
  | ok _ t =>
    obtain ⟨ops, rs, e, -⟩ := rmSafe_logOnly (p ++ [a]) s
    rw [hr, after_ok] at e
    refine ⟨by rw [e]; exact hs.1, fun n hn => ?_⟩
    rw [rmSafe_mem hr, hs.2 n hn, Ne, List.append_cancel_left_eq, List.singleton_inj, and_comm]
  | error => trivial

theorem updateLast_shows (Φ : String → Prop) :
    Triple (Shows p Φ) updateLast (fun _ => Shows p Φ) fun _ => True := by
  intro s hs
  cases hu : updateLast s with
  | error => trivial
  | ok _ t =>
    obtain ⟨ops, rs, e, -⟩ := updateLast_logOnly s
    rw [hu, after_ok] at e
    exact hs.log (by rw [e]) (by rw [e]) fun n hn => updateLast_mem (visible_child p hn) hu

theorem syncData_shows (Φ : String → Prop) (c : String) :
    Triple (Shows p Φ) (syncData (p ++ [c])) (fun _ => Shows p fun n => Φ n ∨ n = c)
      fun _ => True := by
  refine .seq_read fun u => .cond (fun hw => ?_) fun _ => ?_
  · intro s hs
    rw [← hs.2, hs.1.1.1] at hw
    cases hw
  refine .seq (M := fun _ => Shows p Φ) (fun s hs => ?_) fun ⟨d, st⟩ =>
    .seq (M := fun _ => Shows p fun n => Φ n ∨ n = c) (fun s hs => ?_) fun _ => updateLast_shows p _
  · cases h : s.nodes.lookup (p ++ [c]) with
    | none => simp only [zkGet, h]
    | some n => simpa only [zkGet, h] using hs.1
  · unfold fpath
    cases hw : writeStat (p ++ [c]) (some d) (some st) s with
    | error => trivial
    | ok _ t =>
      obtain ⟨ops, rs, e, -⟩ := writeStat_logOnly (p ++ [c]) (some d) (some st) s
      rw [hw, after_ok] at e
      refine ⟨by rw [e]; exact hs.1, fun n hn => ?_⟩
      rw [writeData_mem hw, hs.2 n hn, List.append_cancel_left_eq, List.singleton_inj, or_comm]

theorem addNode_shows (Φ : String → Prop) (c : String) :
    Triple (Shows p Φ) (addNode p false defaultOnAdd c) (fun _ => Shows p fun n => Φ n ∨ n = c)
      fun _ => True :=
  .seq (M := fun _ => Shows p Φ) (.ret fun _ h => h) fun _ => syncData_shows p Φ c

theorem not_mem_of_suffix {l rest : List String} {a : String} (hl : l.Nodup)
    (hs : (a :: rest) <:+ l) : a ∉ rest :=
  (List.nodup_cons.mp (hl.sublist hs.sublist)).1

section Lists

variable {children ls : List String} {w : Bool} {onAdd onDel : ZkPath → Sync Unit}
  (L : (String → Prop) → World → Prop)
  (hL : ∀ {Φ Ψ : String → Prop} {s}, L Φ s → (∀ n, hidden n = false → (Φ n ↔ Ψ n)) → L Ψ s)
include hL

theorem removeLoop_lists (hl : ls.Nodup)
    (hdel : ∀ Φ a, Triple (L Φ) (delNode p onDel a) (fun _ => L fun n => Φ n ∧ n ≠ a)
      fun _ => True) :
    Triple (L (· ∈ ls)) ((removedNames children ls).forM (delNode p onDel))
      (fun _ => L fun n => n ∈ ls ∧ n ∈ children) fun _ => True := by
  have hr : (removedNames children ls).Nodup := (sorted_nodup hl).filter _
  refine (Triple.loop (I := fun rest => L fun n => n ∈ ls ∧ (n ∈ children ∨ n ∈ rest))
    fun a rest hs => (hdel _ a).post (fun _ _ h => hL h fun n _ => ?_) fun _ h => h).mono
      (fun _ h => hL h fun n _ => ?_) (fun _ _ h => hL h fun n _ => ?_) fun _ h => h
  · have ha : a ∈ removedNames children ls := hs.subset (List.mem_cons_self _ _)
    have hna := not_mem_of_suffix hr hs
    simp only [mem_removedNames] at ha
    by_cases e : n = a
    · subst e
      simp [ha.2, hna]
    · simp [e]
  · simp only [mem_removedNames]
    tauto
  · simp

theorem commonLoop_lists
    (hadd : ∀ Φ c, c ∈ children → Triple (L Φ) (addNode p w onAdd c)
      (fun _ => L fun n => Φ n ∨ n = c) fun _ => True) :
    Triple (L fun n => n ∈ ls ∧ n ∈ children) ((commonNames children ls).forM (addNode p w onAdd))
      (fun _ => L fun n => n ∈ ls ∧ n ∈ children) fun _ => True := by
  refine Triple.loop (I := fun _ => L fun n => n ∈ ls ∧ n ∈ children) fun c rest hs => ?_
  have hc : c ∈ commonNames children ls := hs.subset (List.mem_cons_self _ _)
  simp only [mem_commonNames] at hc
  refine (hadd _ c hc.1).post (fun _ _ h => hL h fun n _ => ⟨?_, .inl⟩) fun _ h => h
  rintro (h | rfl)
  exacts [h, hc.symm]

theorem addLoop_lists (hc : children.Nodup)
    (hadd : ∀ Φ c, c ∈ children → Triple (L Φ) (addNode p w onAdd c)
      (fun _ => L fun n => Φ n ∨ n = c) fun _ => True) :
    Triple (L fun n => n ∈ ls ∧ n ∈ children) ((addedNames children ls).forM (addNode p w onAdd))
      (fun _ => L (· ∈ children)) fun _ => True := by
  have ha : (addedNames children ls).Nodup := (sorted_nodup hc).filter _
  refine (Triple.loop (I := fun rest => L fun n =>
    (n ∈ ls ∧ n ∈ children) ∨ (n ∈ addedNames children ls ∧ n ∉ rest))
    fun c rest hs => ?_).mono (fun _ h => hL h fun n _ => ?_)
      (fun _ _ h => hL h fun n _ => ?_) fun _ h => h
  · have hc' : c ∈ addedNames children ls := hs.subset (List.mem_cons_self _ _)
    have hnc := not_mem_of_suffix ha hs
    refine (hadd _ c (mem_addedNames.mp hc').1).post (fun _ _ h => hL h fun n _ => ?_)
      fun _ h => h
    by_cases e : n = c
    · subst e
      simp [hc', hnc]
    · simp [e]
  · simp
  · simp only [mem_addedNames, List.not_mem_nil, not_false_eq_true, and_true]
    tauto

/-- A pass over a listing `ls` whose `on_del` takes a name out of what `L` lists and whose
`on_add` on a child puts it in: afterwards `L` lists the children. -/
theorem reconcile_lists {pred : Option (ZkPath → List String → Bool)}
    (hp : ∀ {Φ} s, L Φ s → L Φ { s with processedOnce := s.processedOnce.insert p })
    (hdel : ∀ Φ a, Triple (L Φ) (delNode p onDel a) (fun _ => L fun n => Φ n ∧ n ≠ a)
      fun _ => True)
    (hadd : ∀ Φ c, c ∈ children → Triple (L Φ) (addNode p w onAdd c)
      (fun _ => L fun n => Φ n ∨ n = c) fun _ => True)
    (hc : children.Nodup) (hl : ls.Nodup) :
    Triple (L (· ∈ ls)) (reconcile p children ls w onAdd onDel pred) (fun _ => L (· ∈ children))
      fun _ => True :=
  .seq (removeLoop_lists p L hL hl hdel) fun _ => .seq_get fun _ =>
    .seq (M := fun _ => L fun n => n ∈ ls ∧ n ∈ children)
      (.cond (fun _ => .seq (.update fun s h => hp s h) fun _ => commonLoop_lists p L hL hadd)
        fun _ => .ret fun _ h => h)
      fun _ => .seq (addLoop_lists p L hL hc hadd) fun _ => .ret fun _ h => h

end Lists

theorem reconcile_shows {children ls : List String} (hc : children.Nodup) (hl : ls.Nodup) :
    Triple (Shows p (· ∈ ls)) (reconcile p children ls false defaultOnAdd defaultOnDel none)
      (fun _ => Shows p (· ∈ children)) fun _ => True :=
  reconcile_lists p (Shows p) (fun h e => h.mono e) (fun _ h => h) (delNode_shows p)
    (fun Φ c _ => addNode_shows p Φ c) hc hl

/-- A pass over the children the client read, with `watch_data=False`: afterwards the visible
names under `fpath(p)` are the children, and the pass asks to renew. -/
theorem childrenWatch_shows {children : List String} (hc : children.Nodup) :
    Triple Bare (childrenWatch p children false defaultOnAdd defaultOnDel none)
      (fun r s => Shows p (· ∈ children) s ∧ r = true) fun _ => True := by
  have hr := closed_true.childrenWatchWith closed_true.keeps_defaultOnAdd
    closed_true.keeps_defaultOnDel p children false none
  intro s hs
  have hl := reconcile_shows p hc (glob_nodup s.files (fpath p)) s
    ⟨hs, fun n hn => by show _ ↔ n ∈ glob _ _; rw [mem_glob]; exact ⟨fun h => ⟨hn, h⟩, fun h => h.2⟩⟩
  have hv := hr s trivial
  rw [← childrenWatch_eq_reconcile p hc] at hl
  cases h : childrenWatch p children false defaultOnAdd defaultOnDel none s with
  | ok r t =>
    rw [h] at hl hv
    exact ⟨hl, hv.2⟩
  | error => trivial

theorem childrenCallback_shows {children : List String} (hc : children.Nodup)
    (I : World → Prop) (hI : Closed I) :
    Triple (fun s => Bare s ∧ I s) (childrenCallback p false none children)
      (fun r s => (Shows p (· ∈ children) s ∧ r = true) ∧ I s) fun _ => True := by
  refine ((Triple.handle (M := fun _ => True) (.seq (childrenWatch_shows p hc) fun r =>
      .seq (M := fun _ s => Shows p (· ∈ children) s ∧ r = true)
        ((updateLast_shows p _).const.post (fun _ _ h => h) fun _ _ => trivial)
        fun _ => .ret fun _ h => h) fun _ => .raise fun _ _ => trivial).conj
    (hI.childrenCallbackWith hI.keeps_defaultOnAdd hI.keeps_defaultOnDel p false none children)).mono (fun _ h => ⟨h.1, h.2⟩)
      (fun _ _ h => ⟨h.1, h.2.1⟩) fun _ _ => trivial

end Pass

def RemoteOp.zkpath : RemoteOp → ZkPath
  | .create z _ | .delete z | .setData z _ => z

/-- What the run takes after its one call: a remote change to a child of `p`, a delivery, or the
loss of the session. -/
def Label.AfterSync (p : ZkPath) : Label → Prop
  | .remote op => ∃ c, op.zkpath = p ++ [c]
  | .deliver | .sessionLost => True
  | .call _ => False

/-- The visible names under `fpath(p)` are the children of `p`. -/
def Lists (p : ZkPath) (s : World) : Prop :=
  ∀ n, hidden n = false → (p ++ [n] ∈ s.files ↔ n ∈ childrenOf s.nodes p)

/-- `sync_children(p, watch_data=False)` while its process lives: `p` exists, no data is watched,
and the one children watch on `p` is armed with nothing queued and the listing right, or has
fired with its notification the only one queued. -/
structure Synced (p : ZkPath) (s : World) : Prop where
  parent : p ∈ s.nodes
  bare : Bare s
  watch : ∃ id armed, s.childWatches = [⟨id, p, false, none, armed⟩] ∧
    (armed = true → s.queue = [] ∧ Lists p s) ∧ (armed = false → s.queue = [.children id])

theorem fireData_bare {s : World} (h : s.dataWatches = []) (z : ZkPath) (e : EventType) :
    fireData z e s = s := by
  cases s
  simp_all [fireData]

theorem fireChildren_of_ne {s : World} {z : ZkPath} (h : ∀ w ∈ s.childWatches, w.path ≠ z) :
    fireChildren z s = s := by
  have hm : s.childWatches.map (fun w => if w.path = z then { w with armed := false } else w) =
      s.childWatches := by
    conv_rhs => rw [← List.map_id s.childWatches]
    exact List.map_congr_left fun w hw => if_neg (h w hw)
  have hf : s.childWatches.filter (fun w => w.path = z && w.armed) = [] :=
    List.filter_eq_nil_iff.mpr fun w hw => by simp [h w hw]
  simp only [fireChildren, hm, hf, List.map_nil, List.append_nil]

theorem Synced.fire {p : ZkPath} {t : World} (h : Synced p t) {N : AList fun _ : ZkPath => ZNode}
    (hp : p ∈ N) : Synced p (fireChildren p { t with nodes := N }) := by
  obtain ⟨id, armed, hw, ht, hf⟩ := h.watch
  refine ⟨hp, h.bare, id, false, by simp [fireChildren, hw], nofun, fun _ => ?_⟩
  cases armed
  · simp [fireChildren, hw, hf rfl]
  · simp [fireChildren, hw, (ht rfl).1]

theorem childrenCallback_error {p : ZkPath} {w : Bool} {cw : Option (ZkPath → List String → Bool)}
    {children : List String} {s t : World} {e : Err}
    (h : childrenCallback p w cw children s = .error e t) : e = .exit := by
  unfold childrenCallback childrenCallbackWith exitOnUnhandled at h
  rw [tryCatch_apply] at h
  split at h
  · cases h
  · cases h
    rfl

theorem Synced.remote {p : ZkPath} {c : String} {t : World} (hs : Synced p t) {op : RemoteOp}
    (hen : op.enabled t) (hc : op.zkpath = p ++ [c]) : Synced p (op.apply t) := by
  have hne : p ≠ p ++ [c] := fun e => by simpa using congrArg List.length e
  have hfd : ∀ N z e, fireData z e { t with nodes := N } = { t with nodes := N } :=
    fun N => fireData_bare (s := { t with nodes := N }) hs.bare.2
  obtain ⟨i, armed, hw, ht, hf⟩ := hs.watch
  cases op with
  | create z n =>
    obtain rfl : z = p ++ [c] := hc
    rw [RemoteOp.apply, List.dropLast_concat, hfd]
    exact hs.fire ((AList.mem_insert _).mpr (.inr hs.parent))
  | delete z =>
    obtain rfl : z = p ++ [c] := hc
    rw [RemoteOp.apply, List.dropLast_concat, hfd, fireChildren_of_ne (z := p ++ [c]) (by simp [hw, hne])]
    exact hs.fire (AList.mem_erase.mpr ⟨hne, hs.parent⟩)
  | setData z n =>
    obtain rfl : z = p ++ [c] := hc
    have hz : p ++ [c] ∈ t.nodes := by simpa [RemoteOp.enabled] using hen
    rw [RemoteOp.apply, hfd]
    refine ⟨(AList.mem_insert _).mpr (.inr hs.parent), hs.bare, i, armed, hw,
      fun ha => ⟨(ht ha).1, fun m hm => ((ht ha).2 m hm).trans ?_⟩, hf⟩
    rw [mem_childrenOf, mem_childrenOf, AList.mem_insert]
    exact ⟨.inr, fun h => h.elim (· ▸ hz) id⟩

/-- Delivering the queued children notification lists `p` again and re-arms its watch. -/
theorem Synced.of_deliver {p : ZkPath} {t : World} {n : Notification} {q : List Notification}
    (hs : Synced p t) (ha : t.alive) (hq : t.queue = n :: q) :
    (settle (deliver n { t with queue := q })).alive →
      Synced p (settle (deliver n { t with queue := q })) := by
  obtain ⟨i, armed, hw, ht, hf⟩ := hs.watch
  cases armed
  case true => exact absurd ((ht rfl).1 ▸ hq) (List.cons_ne_nil n q).symm
  case false =>
  rw [hf rfl] at hq
  obtain ⟨rfl, rfl⟩ := List.cons.inj hq.symm
  have hI : Closed fun s => s.nodes = t.nodes ∧ s.queue = [] ∧
      s.childWatches = [⟨i, p, false, none, true⟩] ∧ s.alive = true :=
    Closed.of_log (fun _ _ h => h) (fun _ _ h => h) (fun _ _ h => h) (fun _ _ h => h)
      fun _ _ _ h => h
  have hcb := childrenCallback_shows p (childrenOf_nodup t.nodes p) _ hI
  simp only [deliver, bind_apply, get_apply, hw, List.find?, beq_self_eq_true, listChildren,
    if_pos hs.parent, modify_apply]
  split
  · next r v hr =>
    obtain ⟨⟨hv, rfl⟩, hN, hQ, hW, -⟩ :=
      hcb.ok_post (s := armChildrenWatch i
        { t with childWatches := [⟨i, p, false, none, false⟩], queue := [] })
        ⟨hs.bare, rfl, rfl, by simp [armChildrenWatch], ha⟩ hr
    simp only [↓reduceIte, pure_apply, settle]
    intro _
    refine ⟨hN ▸ hs.parent, hv.1, i, true, hW, fun _ => ⟨hQ, fun m hm => ?_⟩, nofun⟩
    rw [hv.2 m hm, hN]
  · next e v hr =>
    rw [childrenCallback_error hr]
    intro h
    simp [settle] at h

theorem step_synced {p : ZkPath} {t u : World} {l : Label} (h : Step t l u) (hl : l.AfterSync p)
    (hm : t.alive → Synced p t) : u.alive → Synced p u := by
  cases h with
  | call c _ => exact hl.elim
  | remote op hen =>
    obtain ⟨c, hc⟩ := hl
    exact fun hu => (hm (by cases op <;> exact hu)).remote hen hc
  | @deliver n q ha hq => exact (hm ha).of_deliver ha hq
  | sessionLost => exact fun h => by cases h

/-- `sync_children(p, watch_data=False)` that returns on a new process with `p` present and no
`.done` marker leaves it in step with `p`. -/
theorem syncChildren_synced {p : ZkPath} {s0 s1 : World} (h0 : Fresh s0) (hp : p ∈ s0.nodes)
    (hd : doneFile (fpath p) ∉ s0.files) (hc : syncChildren p false none none s0 = .ok () s1) :
    Synced p s1 := by
  simp only [syncChildren, syncChildrenWith] at hc
  obtain ⟨_, t1, hm, hc⟩ := bind_apply_eq_ok.mp hc
  have hd1 : doneFile (fpath p) ∉ t1.files :=
    ((mkdirSafe_absent (J := fun _ => True) (fun _ _ _ _ => trivial) (doneFile_ne _)).ok_post
      ⟨trivial, hd⟩ hm).2
  obtain ⟨ops, rs, e, -⟩ := mkdirSafe_logOnly (fpath p) s0
  rw [hm, after_ok] at e
  subst e
  simp only [get_apply, hd1, if_false, needWatch, if_true, makeChildrenWatchWith, bind_apply,
    listChildren, if_pos hp, newWatchId, modify_apply] at hc
  split at hc
  · next r v hr =>
    have hI : Closed fun s => s.nodes = s0.nodes ∧ s.queue = [] ∧
        s.childWatches = [⟨s0.nextId, p, false, none, true⟩] :=
      Closed.of_log (fun _ _ h => h) (fun _ _ h => h) (fun _ _ h => h) (fun _ _ h => h)
        fun _ _ _ h => h
    obtain ⟨⟨hv, rfl⟩, hN, hQ, hW⟩ :=
      (childrenCallback_shows p (childrenOf_nodup s0.nodes p) _ hI).ok_post
        (s := registerChildrenWatch s0.nextId p false none
          { s0 with nextId := s0.nextId + 1, fsLog := s0.fsLog ++ ops, reads := s0.reads ++ rs })
        ⟨⟨h0.watches, h0.dataWatches⟩, rfl, h0.queue, by simp [registerChildrenWatch, h0.childWatches]⟩
        hr
    simp only [↓reduceIte, pure_apply, EStateM.Result.ok.injEq, true_and] at hc
    subst hc
    exact ⟨hN ▸ hp, hv.1, s0.nextId, true, hW, fun _ => ⟨hQ, fun n hn => by rw [hv.2 n hn, hN]⟩,
      nofun⟩
  · cases hc

theorem run_synced {p : ZkPath} {s1 s : World} {steps : List (World × Label)} (hr : Run s1 steps s)
    (hl : ∀ x ∈ steps, x.2.AfterSync p) (h1 : s1.alive → Synced p s1) : s.alive → Synced p s := by
  induction hr with
  | nil => exact h1
  | snoc _ hs ih =>
    exact step_synced hs (hl _ (List.mem_append_right _ (List.mem_singleton_self _)))
      (ih fun x hx => hl x (List.mem_append_left _ hx))

/-- With `watch_data=False`, on a new process whose mirror has no `.done` marker for a plain `p`:
after a `sync_children(p)` that returns, any remote changes to the children of `p` and any
deliveries, whenever the process is alive with no notification pending, `glob('*')` of `fpath(p)`
lists exactly the children of `p` whose names do not begin with a dot. -/
theorem unwatched_listing_converges {s0 s1 s : World} {steps : List (World × Label)} (p : ZkPath)
    (_ : Plain (fpath p)) (h0 : Fresh s0) (hp : p ∈ s0.nodes) (hd : doneFile (fpath p) ∉ s0.files)
    (hc : syncChildren p false none none s0 = .ok () s1) (hr : Run s1 steps s)
    (hl : ∀ x ∈ steps, x.2.AfterSync p) (ha : s.alive) (hq : s.queue = []) :
    ∀ n, hidden n = false → (n ∈ glob s.files (fpath p) ↔ n ∈ childrenOf s.nodes p) := by
  obtain ⟨-, -, id, armed, -, ht, hf⟩ := run_synced hr hl (fun _ => syncChildren_synced h0 hp hd hc) ha
  cases armed
  · cases hq.symm.trans (hf rfl)
  · intro n hn
    simp only [mem_glob, hn, true_and]
    exact (ht rfl).2 n hn

namespace VisibleChild

def nodes : AList fun _ : ZkPath => ZNode :=
  (∅ : AList fun _ : ZkPath => ZNode).insert ["p"] ⟨"", ⟨0⟩⟩ |>.insert ["p", "c"] ⟨"v", ⟨1⟩⟩

/-- After `sync_children('/p', watch_data=False)`. -/
def synced : World := after (syncChildren ["p"] false none none (World.start nodes ∅))

/-- `/p/d` created and its notification delivered, then `/p/c` deleted and its notification
delivered. -/
def labels : List Label :=
  [.remote (.create ["p", "d"] ⟨"w", ⟨2⟩⟩), .deliver, .remote (.delete ["p", "c"]), .deliver]

def trace : List (World × Label) × World := (execAll synced labels).getD ([], synced)

theorem trace_exec : execAll synced labels = some trace := rfl

theorem labels_afterSync : ∀ l ∈ labels, l.AfterSync ["p"] := by
  simp only [labels, List.mem_cons, List.not_mem_nil, or_false]
  rintro l (rfl | rfl | rfl | rfl)
  exacts [⟨"d", rfl⟩, trivial, ⟨"c", rfl⟩, trivial]

end VisibleChild

namespace DotChild

def nodes : AList fun _ : ZkPath => ZNode :=
  (∅ : AList fun _ : ZkPath => ZNode).insert ["p"] ⟨"", ⟨0⟩⟩ |>.insert ["p", ".x"] ⟨"v", ⟨1⟩⟩

def temp : FsPath := ["p", ".tmpx"]

def synced : World :=
  { World.start nodes ∅ with
    childWatches := [⟨0, ["p"], false, none, true⟩]
    nextId := 1
    fsLog := [.mkdir ["p"], .create temp 0, .write temp "v", .chmod temp, .utime temp 1,
      .rename temp ["p", ".x"]]
    reads := [(["p", ".x"], ⟨"v", ⟨1⟩⟩)]
    processedOnce := [["p"]] }

theorem sync_step : Step (World.start nodes ∅) (.call (.syncChildren ["p"] false none none)) synced :=
  exec_step rfl

def deleted : World :=
  { synced with
    nodes := nodes.erase ["p", ".x"]
    childWatches := [⟨0, ["p"], false, none, false⟩]
    queue := [.children 0] }

/-- The notification is delivered: the pass lists no file, since `.x` begins with a dot. -/
def delivered : World :=
  { deleted with
    childWatches := [⟨0, ["p"], false, none, true⟩]
    queue := [] }

theorem delete_step : Step synced (.remote (.delete ["p", ".x"])) deleted := exec_step rfl

theorem deliver_step : Step deleted .deliver delivered := exec_step rfl

end DotChild

open DotChild in
/-- A child whose name begins with a dot stays mirrored after it is deleted: with nothing
pending, `fpath(/p)` holds `.x`, which is neither marker nor temporary file, and `/p` has no
child `.x`. -/
theorem deleted_dot_child_stays_mirrored :
    Run (World.start nodes ∅) [(World.start nodes ∅, .call (.syncChildren ["p"] false none none)),
        (synced, .remote (.delete ["p", ".x"])), (deleted, .deliver)] delivered ∧
      delivered.alive ∧ delivered.queue = [] ∧ fpath ["p"] ++ [".x"] ∈ delivered.files ∧
      ".x" ∉ childrenOf delivered.nodes ["p"] :=
  ⟨.cons sync_step (.cons delete_step (.cons deliver_step (.nil _))), rfl, rfl, by decide,
    by decide⟩

open VisibleChild in
/-- After the sync mirrors `c`, `d` is created and `c` deleted: the listing follows both. -/
theorem unwatched_listing_converges_visible :
    Plain (fpath ["p"]) ∧ syncChildren ["p"] false none none (World.start nodes ∅) = .ok () synced ∧
      Run synced trace.1 trace.2 ∧ trace.2.alive ∧ trace.2.queue = [] ∧
      glob synced.files (fpath ["p"]) = ["c"] ∧ glob trace.2.files (fpath ["p"]) = ["d"] ∧
      childrenOf trace.2.nodes ["p"] = ["d"] ∧
      ∀ n, hidden n = false →
        (n ∈ glob trace.2.files (fpath ["p"]) ↔ n ∈ childrenOf trace.2.nodes ["p"]) :=
  have hc : syncChildren ["p"] false none none (World.start nodes ∅) = .ok () synced := rfl
  ⟨by decide, hc, execAll_run trace_exec, rfl, rfl, rfl, rfl, rfl,
    unwatched_listing_converges ["p"] (by decide) (World.start_fresh nodes ∅) (by decide)
      (by decide) hc (execAll_run trace_exec)
      (fun x hx => labels_afterSync x.2 (execAll_labels trace_exec ▸ List.mem_map_of_mem _ hx))
      rfl rfl⟩

end Treadmill.Zksync
