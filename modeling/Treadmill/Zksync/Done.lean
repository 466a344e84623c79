import Treadmill.Zksync.Subscriptions

/-!
# The `.done` marker
-/

namespace Treadmill.Zksync

/-- The operations that can make an entry appear at their path. -/
def FsOp.creates : FsOp → Bool
  | .create .. | .rename .. | .touch .. | .mkdir _ => true
  | _ => false

theorem mem_insert_of_lookup {fs : Files} {p q : FsPath} {e e' : Entry} (he : fs.lookup p = some e')
    (h : q ∈ fs.insert p e) : q ∈ fs := by
  rcases (AList.mem_insert _).mp h with rfl | h
  · exact AList.lookup_isSome.mp (by rw [he]; rfl)
  · exact h

theorem mem_apply {fs : Files} {op : FsOp} {q : FsPath} (h : q ∈ op.apply fs) :
    q ∈ fs ∨ op.creates ∧ op.path = q := by
  cases op with
  | write p c | utime p c =>
    simp only [FsOp.apply] at h
    split at h
    · exact .inl (mem_insert_of_lookup ‹_› h)
    · exact .inl h
  | chmod p => exact .inl h
  | unlink p => exact .inl (AList.mem_erase.mp h).2
  | rename src dst =>
    simp only [FsOp.apply] at h
    split at h
    · rcases (AList.mem_insert _).mp h with rfl | h
      · exact .inr ⟨rfl, rfl⟩
      · exact .inl (AList.mem_erase.mp h).2
    · exact .inl h
  | create p t | touch p t | mkdir p =>
    simp only [FsOp.apply] at h
    (try split at h) <;>
    rcases (AList.mem_insert _).mp h with rfl | h
    all_goals first | exact .inr ⟨rfl, rfl⟩ | exact .inl h

theorem mem_replay {fs : Files} {ops : List FsOp} {q : FsPath} (h : q ∈ replay fs ops) :
    q ∈ fs ∨ ∃ op ∈ ops, op.creates ∧ op.path = q := by
  induction ops generalizing fs with
  | nil => exact .inl h
  | cons op ops ih =>
    rcases ih (show q ∈ replay (op.apply fs) ops from h) with h | ⟨op', hop', hc⟩
    · exact (mem_apply h).imp_right fun hc => ⟨op, List.mem_cons_self _ _, hc⟩
    · exact .inr ⟨op', List.mem_cons_of_mem _ hop', hc⟩

theorem modifiedFile_ne_doneFile (dir : FsPath) : modifiedFile ≠ doneFile dir := by
  intro h
  have := congrArg List.getLast? h
  simp [modifiedFile, doneFile] at this

section Marker

variable {p : ZkPath}

variable (p) in
/-- Since the log `L`, the reads `R` and the filesystem `F`: the logs only grew, and every
operation that made `fpath(p)/.done` appear is the mirror of a node `p/.done` that was read,
or is allowed by `E`. -/
def DoneInv (L : List FsOp) (R : List (ZkPath × ZNode)) (F : Files) (E : Prop) (s : World) : Prop :=
  (∃ ops, s.fsLog = L ++ ops ∧ ∀ op ∈ ops, op.creates → op.path = doneFile (fpath p) →
      (∃ n, (p ++ [".done"], n) ∈ s.reads) ∨ E) ∧
    (∃ rs, s.reads = R ++ rs) ∧ s.files0 = F

variable {L : List FsOp} {R : List (ZkPath × ZNode)} {F : Files} {E : Prop}

theorem DoneInv.of_eq {s : World} (hl : s.fsLog = L) (hr : s.reads = R) (hf : s.files0 = F) :
    DoneInv p L R F E s :=
  ⟨⟨[], by simp [hl], by simp⟩, ⟨[], by simp [hr]⟩, hf⟩

theorem DoneInv.mono {E' : Prop} {s : World} (h : DoneInv p L R F E s) (hE : E → E') :
    DoneInv p L R F E' s :=
  ⟨let ⟨ops, e, ho⟩ := h.1; ⟨ops, e, fun op hop hc hd => (ho op hop hc hd).imp_right hE⟩, h.2⟩

theorem DoneInv.append {s : World} {o : List FsOp} {r : List (ZkPath × ZNode)}
    (h : DoneInv p L R F E s) (hg : ∀ op ∈ o, op.creates → op.path = doneFile (fpath p) →
      (∃ n, (p ++ [".done"], n) ∈ s.reads) ∨ E) :
    DoneInv p L R F E { s with fsLog := s.fsLog ++ o, reads := s.reads ++ r } := by
  obtain ⟨⟨ops, hops, ho⟩, ⟨rs0, hrs⟩, hF⟩ := h
  have hw : (∃ n, (p ++ [".done"], n) ∈ s.reads) ∨ E →
      (∃ n, (p ++ [".done"], n) ∈ s.reads ++ r) ∨ E :=
    Or.imp_left fun ⟨n, hn⟩ => ⟨n, List.mem_append_left _ hn⟩
  refine ⟨⟨ops ++ o, by rw [hops, List.append_assoc], fun op hop hc hd => ?_⟩,
    ⟨rs0 ++ r, by rw [hrs, List.append_assoc]⟩, hF⟩
  rcases List.mem_append.mp hop with hop | hop
  exacts [hw (ho op hop hc hd), hw (hg op hop hc hd)]

theorem DoneInv.trans {E' : Prop} {t u : World} (ht : DoneInv p L R F E t)
    (hu : DoneInv p t.fsLog t.reads t.files0 E' u) : DoneInv p L R F (E ∨ E') u := by
  obtain ⟨⟨ops, hops, ho⟩, ⟨rs, hrs⟩, hF⟩ := ht
  obtain ⟨⟨ops', hops', ho'⟩, ⟨rs', hrs'⟩, hF'⟩ := hu
  refine ⟨⟨ops ++ ops', by rw [hops', hops, List.append_assoc], fun op hop hc hd => ?_⟩,
    ⟨rs ++ rs', by rw [hrs', hrs, List.append_assoc]⟩, hF'.trans hF⟩
  rcases List.mem_append.mp hop with hop | hop
  · rcases ho op hop hc hd with ⟨n, hn⟩ | he
    · exact .inl ⟨n, hrs' ▸ List.mem_append_left _ hn⟩
    · exact .inr (.inl he)
  · exact (ho' op hop hc hd).imp_right .inr

theorem doneInv_footprint {α : Type} {x : Sync α} {G : FsOp → Prop} {P : World → Prop}
    (h : Footprint G x) (hg : ∀ s, P s → ∀ op, G op → op.creates → op.path = doneFile (fpath p) →
      (∃ n, (p ++ [".done"], n) ∈ s.reads) ∨ E) :
    Triple (fun s => DoneInv p L R F E s ∧ P s) x (fun _ => DoneInv p L R F E) (DoneInv p L R F E) :=
  .of_after fun s ⟨hs, hP⟩ => by
    obtain ⟨ops, rs, e, hG⟩ := h s
    rw [e]
    exact hs.append fun op hop => hg s hP op (hG op hop)

/-- Every callback keeps the invariant: the marker appears there only as the mirror of a node
`p/.done` just read. -/
theorem closedAll_doneInv : ClosedAll (DoneInv p L R F E) where
  watches _ _ h := h
  processedOnce _ _ h := h
  dataWatches _ _ h := h
  nextId _ _ h := h
  read s z n _ h := by simpa using h.append (o := []) (r := [(z, n)]) (by simp)
  writeData z d st := doneInv_footprint (writeData_footprint _ _ _ _) fun s hz op hop _ hd => by
    rcases hop with ⟨ht, -⟩ | ⟨temp, -, rfl⟩
    · exact absurd (hd ▸ ht) (not_isTemp_doneFile _)
    · obtain rfl : z = p ++ [".done"] := hd
      exact .inl ⟨_, hz⟩
  rmSafe _ := (doneInv_footprint (P := fun _ => True) (rmSafe_footprint _) fun _ _ op e hc _ => by
    subst e; cases hc).pre (fun _ h => ⟨h, trivial⟩)
  updateLast := (doneInv_footprint (P := fun _ => True) updateLast_footprint
    fun _ _ op ⟨_, e⟩ hc hd => by
      rcases e with rfl | rfl
      · exact absurd hd (modifiedFile_ne_doneFile _)
      · cases hc).pre (fun _ h => ⟨h, trivial⟩)
  registerChildren _ _ _ _ _ h := h
  armChildren _ _ h := h
  stopChildren _ _ h := h

end Marker

/-- `sync_children(q)` in `t` evaluates both predicates to false, on the children it lists. -/
def Decided (t : World) (q : ZkPath) (nw : Option (ZkPath → Bool))
    (cw : Option (ZkPath → List String → Bool)) : Prop :=
  needWatch nw q = false ∧
    contWatch cw q (sorted (if q ∈ t.nodes then childrenOf t.nodes q else [])) = false

theorem zkGetChildren_listing {P : World → Prop} (zkpath : ZkPath) (t : World)
    (hP : ∀ s, P s → s.nodes = t.nodes) :
    Triple P (zkGetChildren zkpath)
      (fun c s => P s ∧ c = if zkpath ∈ t.nodes then childrenOf t.nodes zkpath else [])
      fun s => P s ∧ zkpath ∉ t.nodes := by
  intro s hs
  by_cases h : zkpath ∈ t.nodes <;> simp [zkGetChildren, hP s hs, h, hs]

section SyncChildren

variable (p : ZkPath) (t : World) (q : ZkPath) (w : Bool) (nw : Option (ZkPath → Bool))
  (cw : Option (ZkPath → List String → Bool))

/-- `sync_children(q)` from `t`: the marker appears by its own `mkdir_safe` when `q = p/.done`,
by its touch when `q = p` once both predicates said no, or as the mirror of a node `p/.done`
read; and when both predicates say no, it installs no children watch. -/
theorem syncChildren_done :
    Triple (· = t) (syncChildren q w nw cw)
      (fun _ s => DoneInv p t.fsLog t.reads t.files0 (q = p ++ [".done"] ∨ q = p ∧ Decided t q nw cw) s ∧
        (Decided t q nw cw → s.childWatches = t.childWatches))
      fun s => DoneInv p t.fsLog t.reads t.files0 (q = p ++ [".done"] ∨ q = p ∧ Decided t q nw cw) s ∧
        (Decided t q nw cw → s.childWatches = t.childWatches) := by
  have hI := closedAll_doneInv (p := p) (L := t.fsLog) (R := t.reads) (F := t.files0)
    (E := q = p ++ [".done"])
  have hJ := hI.toClosed.and (Closed.of_log (I := fun s => s.nodes = t.nodes ∧
    s.childWatches = t.childWatches) (fun _ _ h => h) (fun _ _ h => h) (fun _ _ h => h)
    (fun _ _ h => h) fun _ _ _ h => h)
  have post_of : ∀ s, DoneInv p t.fsLog t.reads t.files0 (q = p ++ [".done"]) s →
      ¬ Decided t q nw cw → DoneInv p t.fsLog t.reads t.files0
        (q = p ++ [".done"] ∨ q = p ∧ Decided t q nw cw) s ∧
        (Decided t q nw cw → s.childWatches = t.childWatches) :=
    fun _ h hn => ⟨h.mono .inl, fun hd => (hn hd).elim⟩
  have post_fr : ∀ s, DoneInv p t.fsLog t.reads t.files0 (q = p ++ [".done"]) s ∧
      (s.nodes = t.nodes ∧ s.childWatches = t.childWatches) → DoneInv p t.fsLog t.reads t.files0
        (q = p ++ [".done"] ∨ q = p ∧ Decided t q nw cw) s ∧
        (Decided t q nw cw → s.childWatches = t.childWatches) :=
    fun _ h => ⟨h.1.mono .inl, fun _ => h.2.2⟩
  dsimp only [syncChildren, syncChildrenWith]
  refine .seq (M := fun _ s => DoneInv p t.fsLog t.reads t.files0 (q = p ++ [".done"]) s ∧
      (s.nodes = t.nodes ∧ s.childWatches = t.childWatches))
    (((doneInv_footprint (P := fun _ => True) (mkdirSafe_footprint _)
      fun _ _ op e _ hd => .inr (by subst e; exact hd)).conj
        ((mkdirSafe_footprint _).keeps fun _ _ _ h _ => h)).mono
      (fun s e => by subst e; exact ⟨⟨.of_eq rfl rfl rfl, trivial⟩, rfl, rfl⟩) (fun _ _ h => h)
      fun s h => post_fr s h) fun _ => .seq_get fun _ => ?_
  refine .cond (fun _ => .ret post_fr) fun _ => .cond (fun hn =>
    (hI.makeChildrenWatchWith hI.keeps_defaultOnAdd hI.keeps_defaultOnDel _ _ _).mono (fun _ h => h.1)
      (fun _ s h => post_of s h fun hd => by simp [hd.1] at hn)
      fun s h => post_of s h fun hd => by simp [hd.1] at hn) fun hn => ?_
  have hnw : needWatch nw q = false := by simpa using hn
  refine .seq (.handle (zkGetChildren_listing q t fun _ h => h.2.1) fun e => ?_)
    fun children => .assume fun hc => ?_
  · cases e
    case noNode => exact .ret fun s h => ⟨h.1, by simp [h.2]⟩
    all_goals exact .raise fun s h => post_fr s h.1
  subst hc
  refine .seq ((hJ.childrenWatchWith hJ.keeps_defaultOnAdd hJ.keeps_defaultOnDel _ _ _ _).post (fun _ _ h => h) post_fr)
    fun r => .assume fun hr => ?_
  refine .seq (M := fun _ s => DoneInv p t.fsLog t.reads t.files0 (q = p ++ [".done"]) s ∧
      (r = false → s.childWatches = t.childWatches))
    (.cond (fun hr1 => (hI.makeChildrenWatchWith hI.keeps_defaultOnAdd hI.keeps_defaultOnDel _ _ _).mono (fun _ h => h.1)
      (fun _ _ h => ⟨h, fun e => by simp [e] at hr1⟩)
      fun s h => post_of s h fun hd => by simp [hr1, hd.2] at hr)
      fun _ => .ret fun _ h => ⟨h.1, fun _ => h.2.2⟩) fun _ => ?_
  refine .seq (M := fun _ s => DoneInv p t.fsLog t.reads t.files0 (q = p ++ [".done"]) s ∧
      (r = false → s.childWatches = t.childWatches))
    ((hI.updateLast.conj (updateLast_logOnly.keeps
      (I := fun s => r = false → s.childWatches = t.childWatches) fun _ _ _ h => h)).post
      (fun _ _ h => h) fun s h => ⟨h.1.mono .inl, fun hd => h.2 (hr.trans hd.2)⟩)
    fun _ => ?_
  refine .cond (fun hr1 => .ret fun s h => ⟨h.1.mono .inl, fun hd => by simp [hr1, hd.2] at hr⟩)
    fun hr1 => ?_
  have hrf : r = false := by simpa using hr1
  exact ((doneInv_footprint (E := q = p ++ [".done"] ∨ q = p ∧ Decided t q nw cw)
    (P := fun _ => True) (touch_footprint _) fun _ _ op ⟨_, e⟩ _ hd => .inr (.inr
      ⟨by subst e; simpa [FsOp.path, doneFile, fpath] using hd, hnw, hr.symm.trans hrf⟩)).conj
    ((touch_footprint _).keeps (I := fun s => s.childWatches = t.childWatches) fun _ _ _ h _ => h)).mono
    (fun s h => ⟨⟨h.1.mono .inl, trivial⟩, h.2 hrf⟩) (fun _ _ h => ⟨h.1, fun _ => h.2⟩)
    fun _ h => ⟨h.1, fun _ => h.2⟩

end SyncChildren

/-- What makes the marker appear in a step: a `sync_children(p/.done)` call, or a
`sync_children(p)` call that evaluated both predicates to false and installed no children
watch. -/
def DoneCause (p : ZkPath) (t : World) : Label → Prop
  | .call (.syncChildren q w nw cw) =>
    q = p ++ [".done"] ∨ q = p ∧ Decided t q nw cw ∧
      (settle (syncChildren q w nw cw t)).childWatches = t.childWatches
  | _ => False

theorem DoneInv.settle {p : ZkPath} {L : List FsOp} {R : List (ZkPath × ZNode)} {F : Files}
    {E : Prop} {r : EStateM.Result Err World Unit} (h : DoneInv p L R F E (after r)) :
    DoneInv p L R F E (settle r) := by
  cases r with
  | ok _ s => exact h
  | error e s =>
    simp only [Zksync.settle]
    split
    · exact h
    · exact h

theorem step_done (p : ZkPath) {t u : World} {l : Label} (h : Step t l u) :
    DoneInv p t.fsLog t.reads t.files0 (DoneCause p t l) u := by
  have hI := closedAll_doneInv (p := p) (L := t.fsLog) (R := t.reads) (F := t.files0) (E := False)
  have hE : ∀ {s}, DoneInv p t.fsLog t.reads t.files0 False s →
      DoneInv p t.fsLog t.reads t.files0 (DoneCause p t l) s := fun h => h.mono False.elim
  cases h with
  | call c _ =>
    apply DoneInv.settle
    cases c with
    | syncData z => exact hE ((hI.toDataClosed.syncData z).after (.of_eq rfl rfl rfl))
    | markReady =>
      exact hE ((Keeps.seq (.update fun _ h => h) fun _ => hI.updateLast).after (.of_eq rfl rfl rfl))
    | syncChildren q w nw cw =>
      have h := (syncChildren_done p t q w nw cw).after_post rfl
      exact h.1.mono fun hc => hc.imp_right fun ⟨hq, hd⟩ =>
        ⟨hq, hd, (settle_childWatches _).trans (h.2 hd)⟩
  | remote op _ => exact .of_eq (by cases op <;> rfl) (by cases op <;> rfl) (by cases op <;> rfl)
  | deliver _ _ => exact .settle (hE ((hI.deliver _).after (.of_eq rfl rfl rfl)))
  | sessionLost => exact .of_eq rfl rfl rfl

theorem run_done (p : ZkPath) {s0 s : World} {steps : List (World × Label)} (hr : Run s0 steps s) :
    DoneInv p s0.fsLog s0.reads s0.files0 (∃ t l, (t, l) ∈ steps ∧ DoneCause p t l) s := by
  induction hr with
  | nil => exact .of_eq rfl rfl rfl
  | snoc _ hst ih =>
    exact (ih.trans (step_done p hst)).mono fun h => h.elim
      (fun ⟨t, l, hm, hc⟩ => ⟨t, l, List.mem_append_left _ hm, hc⟩)
      fun hc => ⟨_, _, List.mem_append_right _ (List.mem_singleton_self _), hc⟩

namespace DotDone

def nodes : AList fun _ : ZkPath => ZNode :=
  (∅ : AList fun _ : ZkPath => ZNode).insert ["p"] ⟨"", ⟨0⟩⟩ |>.insert ["p", ".done"] ⟨"x", ⟨1⟩⟩

def temp : FsPath := ["p", ".tmpx"]

/-- After `sync_children('/p')`: `/p` watched, and the child `.done` mirrored. -/
def synced : World :=
  { World.start nodes ∅ with
    childWatches := [⟨0, ["p"], false, none, true⟩]
    nextId := 1
    fsLog := [.mkdir ["p"], .create temp 0, .write temp "x", .chmod temp, .utime temp 1,
      .rename temp ["p", ".done"]]
    reads := [(["p", ".done"], ⟨"x", ⟨1⟩⟩)]
    processedOnce := [["p"]] }

theorem sync_step : Step (World.start nodes ∅) (.call (.syncChildren ["p"] false none none)) synced :=
  exec_step rfl

end DotDone

open DotDone in
/-- A child named `.done` is mirrored as `fpath(p)/.done` by a `sync_children(p)` call with no
predicates, which sets a children watch on `p`. -/
theorem done_child_mirrored_as_marker :
    Run (World.start nodes ∅) [(World.start nodes ∅, .call (.syncChildren ["p"] false none none))]
        synced ∧
      doneFile (fpath ["p"]) ∉ (World.start nodes ∅).files ∧ doneFile (fpath ["p"]) ∈ synced.files ∧
      synced.childWatches.any (·.path == ["p"]) ∧
      ¬ ∃ (t : World) (w : Bool) (f : ZkPath → Bool) (g : ZkPath → List String → Bool),
        (t, Label.call (.syncChildren ["p"] w (some f) (some g))) ∈
          [(World.start nodes ∅, Label.call (.syncChildren ["p"] false none none))] :=
  ⟨.cons sync_step (.nil _), by decide, by decide, rfl, fun ⟨_, _, _, _, h⟩ => by simp at h⟩

/-- The marker's provenance: along a run of a new process whose mirror has no `fpath(p)/.done`,
the marker exists only after a `sync_children(p)` call that evaluated both predicates to false
on the children it listed and installed no children watch, after a node `p/.done` was read (and
mirrored), or after a `sync_children(p/.done)` call. -/
theorem done_marker_provenance {s0 s : World} {steps : List (World × Label)} (p : ZkPath)
    (h0 : Fresh s0) (hd0 : doneFile (fpath p) ∉ s0.files) (hr : Run s0 steps s)
    (hd : doneFile (fpath p) ∈ s.files) :
    (∃ t w f g, (t, .call (.syncChildren p w (some f) (some g))) ∈ steps ∧ f p = false ∧
        g p (sorted (if p ∈ t.nodes then childrenOf t.nodes p else [])) = false ∧
        (settle (syncChildren p w (some f) (some g) t)).childWatches = t.childWatches) ∨
      (∃ n, (p ++ [".done"], n) ∈ s.reads) ∨
      ∃ t w nw cw, (t, .call (.syncChildren (p ++ [".done"]) w nw cw)) ∈ steps := by
  obtain ⟨⟨ops, hops, ho⟩, -, hF⟩ := run_done p hr
  have h0f : s0.files = s0.files0 := by rw [World.files, h0.fsLog]; rfl
  rw [World.files, hops, hF, h0.fsLog, List.nil_append] at hd
  rcases mem_replay hd with h | ⟨op, hop, hc, hpath⟩
  · exact absurd (h0f ▸ h) hd0
  rcases ho op hop hc hpath with hn | ⟨t, l, hm, hcause⟩
  · exact .inr (.inl hn)
  cases l with
  | call c =>
    cases c with
    | syncChildren q w nw cw =>
      rcases hcause with rfl | ⟨rfl, ⟨hn, hcw⟩, hw⟩
      · exact .inr (.inr ⟨t, w, nw, cw, hm⟩)
      · cases nw with
        | none => cases hn
        | some f =>
          cases cw with
          | none => cases hcw
          | some g => exact .inl ⟨t, w, f, g, hm, hn, hcw, hw⟩
    | _ => exact hcause.elim
  | _ => exact hcause.elim

open DotDone in
theorem done_marker_provenance_dot_child :
    (∃ t w f g, (t, Label.call (.syncChildren ["p"] w (some f) (some g))) ∈
          [(World.start nodes ∅, Label.call (.syncChildren ["p"] false none none))] ∧ f ["p"] = false ∧
        g ["p"] (sorted (if ["p"] ∈ t.nodes then childrenOf t.nodes ["p"] else [])) = false ∧
        (settle (syncChildren ["p"] w (some f) (some g) t)).childWatches = t.childWatches) ∨
      (∃ n, (["p"] ++ [".done"], n) ∈ synced.reads) ∨
      ∃ t w nw cw, (t, Label.call (.syncChildren (["p"] ++ [".done"]) w nw cw)) ∈
        [(World.start nodes ∅, Label.call (.syncChildren ["p"] false none none))] :=
  done_marker_provenance ["p"] (World.start_fresh _ _) (by decide) (.cons sync_step (.nil _))
    (by decide)

end Treadmill.Zksync
