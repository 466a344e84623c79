import Treadmill.S6.Services

/-!
# Writing and loading service definitions

Each `write` is computed once as the files it leaves (`afterWrite`), with the check that may
refuse it.
-/

namespace Treadmill.S6

def Files.mkdir (s : Files) (p : List String) : Files :=
  if s p = none then Function.update s p (some .dir) else s

/-- The files after `if x is not None: <write>(p, x)`, where the writer leaves `e x`. -/
def Files.putSome {α : Type} (s : Files) (p : List String) (x : Option α) (e : α → Entry) :
    Files :=
  fun q => if q = p ∧ x.isSome then x.map e else s q

@[simp] theorem Files.putSome_none {α : Type} (s : Files) (p : List String) (e : α → Entry) :
    s.putSome p none e = s :=
  funext fun q => by simp [Files.putSome]

@[simp] theorem Files.putSome_some {α : Type} (s : Files) (p : List String) (a : α) (e : α → Entry) :
    s.putSome p (some a) e = Function.update s p (some (e a)) :=
  funext fun q => by simp [Files.putSome, Function.update_apply]

theorem Files.putSome_apply_ne {α : Type} (s : Files) {p q : List String} (x : Option α)
    (e : α → Entry) (h : q ≠ p) : s.putSome p x e q = s q := by
  simp [Files.putSome, h]

theorem Files.mkdir_apply_ne (s : Files) {p q : List String} (h : q ≠ p) : s.mkdir p q = s q := by
  unfold Files.mkdir
  split <;> simp [Function.update_apply, h]

@[simp] theorem Files.mkdir_of_ne_none {s : Files} {p : List String} (h : s p ≠ none) :
    s.mkdir p = s :=
  if_neg h

@[simp] theorem run_bind {α β : Type} (x : Io α) (f : α → Io β) (s : Files) :
    (x >>= f).run s = match x.run s with
      | .ok a s' => (f a).run s'
      | .error e s' => .error e s' := by
  show EStateM.bind x f s = match x s with
    | .ok a s' => f a s'
    | .error e s' => .error e s'
  cases h : x s <;> simp only [EStateM.bind, h]

@[simp] theorem run_pure {α : Type} (a : α) (s : Files) : (pure a : Io α).run s = .ok a s := rfl

@[simp] theorem get_run (s : Files) : (get : Io Files).run s = .ok s s := rfl

@[simp] theorem put_run (p : List String) (e : Option Entry) (s : Files) :
    (put p e).run s = .ok () (Function.update s p e) := rfl

@[simp] theorem dataWrite_run (p : List String) (v : Option String) (s : Files) :
    (dataWrite p v).run s = .ok () (Function.update s p (some (.data v))) := rfl

@[simp] theorem rmSafe_run (p : List String) (s : Files) :
    (rmSafe p).run s = .ok () (Function.update s p none) := rfl

@[simp] theorem mkdirSafe_run (p : List String) (s : Files) :
    (mkdirSafe p).run s = .ok () (s.mkdir p) := by
  simp only [mkdirSafe, Files.mkdir, run_bind, get_run]
  split <;> rfl

theorem writeSome_put_run {α : Type} (p : List String) (e : α → Entry) (x : Option α) (s : Files) :
    (writeSome (fun a => put p (some (e a))) x).run s = .ok () (s.putSome p x e) := by
  cases x <;> simp only [writeSome, run_pure, put_run, Files.putSome_none, Files.putSome_some]

@[simp] theorem writeSome_setListWrite_run (p : List String) (x : Option (List String)) (s : Files) :
    (writeSome (setListWrite p) x).run s = .ok () (s.putSome p x .setList) :=
  writeSome_put_run p _ x s

@[simp] theorem writeSome_environDirWrite_run (p : List String) (x : Option (List (String × String)))
    (s : Files) : (writeSome (environDirWrite p) x).run s = .ok () (s.putSome p x .environ) :=
  writeSome_put_run p _ x s

@[simp] theorem writeSome_valueWrite_run (p : List String) (x : Option Int) (s : Files) :
    (writeSome (valueWrite p) x).run s = .ok () (s.putSome p x .value) :=
  writeSome_put_run p _ x s

@[simp] theorem writeSome_scriptWrite_run (p : List String) (x : Option String) (s : Files) :
    (writeSome (scriptWrite p) x).run s = .ok () (s.putSome p x .script) :=
  writeSome_put_run p _ x s

@[simp] theorem writeSome_dataWrite_run (p : List String) (x : Option String) (s : Files) :
    (writeSome (fun v => dataWrite p (some v)) x).run s = .ok () (s.putSome p x (.data ∘ some)) :=
  writeSome_put_run p _ x s

def serviceAfterWrite (dir : List String) (type : ServiceType) (s : Files) : Files :=
  Function.update (s.mkdir dir) (dir ++ ["type"]) (some (.data (some type.value)))

theorem serviceWrite_run (dir : List String) (type : ServiceType) (s : Files) :
    (serviceWrite dir type).run s = .ok () (serviceAfterWrite dir type s) := by
  simp only [serviceWrite, serviceAfterWrite, run_bind, mkdirSafe_run, dataWrite_run]

def AtomicService.afterWrite (svc : AtomicService) (type : ServiceType) (s : Files) : Files :=
  let s : Files := Files.mkdir (Files.mkdir (serviceAfterWrite svc.dir type s) svc.envDir) svc.dataDir
  let s : Files := s.putSome svc.dependenciesFile svc.dependencies .setList
  let s : Files := s.putSome svc.envDir svc.env .environ
  let s : Files := s.putSome (svc.dir ++ ["timeout-up"]) svc.timeoutUp .value
  s.putSome (svc.dir ++ ["timeout-down"]) svc.timeoutDown .value

theorem AtomicService.write_run (svc : AtomicService) (type : ServiceType) (s : Files) :
    (svc.write type).run s = .ok () (svc.afterWrite type s) := by
  simp only [write, afterWrite, run_bind, serviceWrite_run, mkdirSafe_run,
    writeSome_setListWrite_run, writeSome_environDirWrite_run, writeSome_valueWrite_run]

/-- The files `LongrunService.write` leaves when it is not refused. -/
def LongrunService.afterWrite (svc : LongrunService) (s : Files) : Files :=
  let s := svc.toAtomicService.afterWrite .longRun s
  let s : Files := s.putSome svc.runFile svc.runScript .script
  let s : Files := s.putSome svc.finishFile svc.finishScript .script
  let s : Files := Files.putSome (if svc.logRunScript.isSome then s.mkdir svc.loggerDir else s)
    svc.logRunFile svc.logRunScript .script
  let s : Files := Function.update s svc.downFile
    (if svc.defaultDown = some true then some (.data none) else none)
  let s : Files := s.putSome (svc.dir ++ ["timeout-finish"]) svc.timeoutFinish .value
  let s : Files := s.putSome (svc.dir ++ ["notification-fd"]) svc.notificationFd .value
  let s : Files := s.putSome svc.pipelineNameFile svc.pipelineName (.data ∘ some)
  let s : Files := s.putSome svc.producerForFile svc.producerFor (.data ∘ some)
  s.putSome svc.consumerForFile svc.consumerFor (.data ∘ some)

theorem LongrunService.write_run (svc : LongrunService) (s : Files) :
    svc.write.run s =
      if svc.runScript.isNone && !pathExists (svc.toAtomicService.afterWrite .longRun s) svc.runFile
      then .error (.valueError "Invalid LongRun service: not run script")
        (svc.toAtomicService.afterWrite .longRun s)
      else .ok () (svc.afterWrite s) := by
  simp only [write, run_bind, AtomicService.write_run, get_run]
  split
  · rfl
  · have hlog : ∀ (x : Option String) (s : Files),
        (writeSome (fun t => do mkdirSafe svc.loggerDir; scriptWrite svc.logRunFile t) x).run s =
          .ok () (Files.putSome (if x.isSome then s.mkdir svc.loggerDir else s) svc.logRunFile x
            .script) := by
      intro x s
      cases x <;> simp only [writeSome, run_pure, run_bind, mkdirSafe_run, scriptWrite, put_run,
        Option.isSome, if_true, Bool.false_eq_true, if_false, Files.putSome_none, Files.putSome_some]
    by_cases hd : svc.defaultDown = some true <;>
      simp only [afterWrite, hd, if_true, if_false, run_bind, writeSome_scriptWrite_run, hlog,
        dataWrite_run, rmSafe_run, writeSome_valueWrite_run, writeSome_dataWrite_run]

theorem OneshotService.write_run (svc : OneshotService) (s : Files) :
    svc.write.run s =
      if !truthy svc.up && !pathExists (svc.toAtomicService.afterWrite .oneshot s) svc.upFile then
        .error (.valueError "Invalid Oneshot service: not up script")
          (svc.toAtomicService.afterWrite .oneshot s)
      else .ok () (((svc.toAtomicService.afterWrite .oneshot s).putSome svc.upFile svc.up
        .script).putSome svc.downFile svc.down .script) := by
  simp only [write, run_bind, AtomicService.write_run, get_run]
  split
  · rfl
  · simp only [run_bind, writeSome_scriptWrite_run]

theorem BundleService.write_run (svc : BundleService) (s : Files) :
    svc.write.run s =
      if !(svc.contents.any (!·.isEmpty)) && !pathExists (serviceAfterWrite svc.dir .bundle s)
        svc.contentsFile
      then .error (.valueError "Invalid Bundle: No content") (serviceAfterWrite svc.dir .bundle s)
      else match svc.contents with
        | some contents =>
          if contents.isEmpty then
            .error (.valueError "Invalid Bundle: empty") (serviceAfterWrite svc.dir .bundle s)
          else .ok () (Function.update (serviceAfterWrite svc.dir .bundle s) svc.contentsFile
            (some (.setList contents)))
        | none => .ok () (serviceAfterWrite svc.dir .bundle s) := by
  simp only [write, run_bind, serviceWrite_run, get_run]
  split
  · rfl
  · cases svc.contents with
    | none => rfl
    | some contents =>
      dsimp only
      split <;> rfl

theorem AtomicService.afterWrite_frame (svc : AtomicService) (type : ServiceType) (s : Files)
    (n : String) (hn : n ∉ ["type", "env", "data", "dependencies", "timeout-up", "timeout-down"]) :
    svc.afterWrite type s (svc.dir ++ [n]) = s (svc.dir ++ [n]) := by
  simp only [List.mem_cons, List.mem_singleton, not_or, List.not_mem_nil] at hn
  simp [afterWrite, serviceAfterWrite, Files.mkdir, Files.putSome, Function.update_apply, ite_apply,
    envDir, dataDir, dependenciesFile, hn]

open LongrunService in
/-- A longrun service is refused exactly when it has no run script and the directory has no run
file; the refused write has already written the `type` file. -/
theorem longrun_write_refused_iff (svc : LongrunService) (fs : Files) :
    ((∃ e fs', svc.write.run fs = .error e fs') ↔ svc.runScript = none ∧ fs svc.runFile = none) ∧
      ∀ e fs', svc.write.run fs = .error e fs' →
        e = .valueError "Invalid LongRun service: not run script" ∧
          fs' (svc.dir ++ ["type"]) = some (.data (some "longrun")) := by
  have hrun : pathExists (svc.toAtomicService.afterWrite .longRun fs) svc.runFile =
      pathExists fs svc.runFile := by
    simp only [pathExists, runFile, AtomicService.afterWrite_frame _ _ _ "run" (by decide)]
  rw [write_run, hrun]
  split
  · rename_i hc
    simp only [Bool.and_eq_true, Option.isNone_iff_eq_none, Bool.not_eq_true', pathExists,
      Bool.eq_false_iff, ne_eq, Option.not_isSome_iff_eq_none] at hc
    refine ⟨⟨fun _ => hc, fun _ => ⟨_, _, rfl⟩⟩, fun e fs' h => ?_⟩
    cases h
    exact ⟨rfl, by simp [AtomicService.afterWrite, serviceAfterWrite, Files.putSome,
      Function.update_apply, ite_apply, Files.mkdir, AtomicService.envDir, AtomicService.dataDir,
      AtomicService.dependenciesFile, ServiceType.value]⟩
  · rename_i hc
    refine ⟨⟨fun ⟨_, _, h⟩ => (nomatch h), fun ⟨h1, h2⟩ => absurd ?_ hc⟩, fun _ _ h => nomatch h⟩
    simp [h1, pathExists, h2]

namespace Sample

/-- A longrun service that is down by default. -/
def longrun : LongrunService :=
  { LongrunService.blank ["services"] "app" with runScript := some "exec app", defaultDown := some true }

def longrunFiles : Files := longrun.afterWrite fun _ => none

theorem longrun_write : longrun.write.run (fun _ => none) = .ok () longrunFiles := by
  rw [LongrunService.write_run]
  rfl

/-- A longrun service with each of its thirteen properties set. -/
def full : LongrunService where
  directory := ["services"]
  name := "web"
  dependencies := some ["db"]
  timeoutUp := some 5
  timeoutDown := some 10
  env := some [("HOME", "/srv")]
  consumerFor := some "audit"
  defaultDown := some false
  finishScript := some "exec cleanup"
  logRunScript := some "exec logger"
  notificationFd := some 3
  pipelineName := some "web-pipeline"
  producerFor := some "metrics"
  runScript := some "exec web"
  timeoutFinish := some 7

def fullFiles : Files := full.afterWrite fun _ => none

theorem full_write : full.write.run (fun _ => none) = .ok () fullFiles := by
  rw [LongrunService.write_run]
  rfl

def oneshot : OneshotService := { OneshotService.blank ["services"] "setup" with up := some "exec setup" }

def oneshotFiles : Files :=
  ((oneshot.toAtomicService.afterWrite .oneshot fun _ => none).putSome oneshot.upFile oneshot.up
    .script).putSome oneshot.downFile oneshot.down .script

def bundleFiles : Files :=
  Function.update (serviceAfterWrite ["services", "all"] .bundle fun _ => none)
    ["services", "all", "contents"] (some (.setList ["app"]))

end Sample

/-- A property that is set reads back as it was set. -/
def ReadsBack {α σ : Type} (set : Option α) (get : Except Error (α × σ)) : Prop :=
  ∀ v, set = some v → ∃ cached, get = .ok (v, cached)

def LongrunService.ReadBack (svc : LongrunService) (fs : Files) : Prop :=
  let ld := blank svc.directory svc.name
  ReadsBack svc.dependencies (ld.getDependencies fs) ∧ ReadsBack svc.env (ld.getEnviron fs) ∧
    ReadsBack svc.timeoutUp (ld.getTimeoutUp fs) ∧ ReadsBack svc.timeoutDown (ld.getTimeoutDown fs) ∧
    ReadsBack svc.runScript (ld.getRunScript fs) ∧
    ReadsBack (svc.finishScript.map some) (ld.getFinishScript fs) ∧
    ReadsBack (svc.logRunScript.map some) (ld.getLogRunScript fs) ∧
    ReadsBack svc.defaultDown (ld.getDefaultDown fs) ∧
    ReadsBack svc.timeoutFinish (ld.getTimeoutFinish fs) ∧
    ReadsBack svc.notificationFd (ld.getNotificationFd fs) ∧
    ReadsBack svc.pipelineName (ld.getPipelineName fs) ∧
    ReadsBack svc.producerFor (ld.getProducerFor fs) ∧ ReadsBack svc.consumerFor (ld.getConsumerFor fs)

open LongrunService in
/-- A longrun service that is written and then loaded from its directory: `from_dir` finds a
longrun service there, and every property that was set reads back as it was written. -/
theorem longrun_write_load {svc : LongrunService} {fs fs' : Files}
    (h : svc.write.run fs = .ok () fs') :
    Service.fromDir fs' svc.dir = .ok (some (.longrun (blank svc.directory svc.name))) ∧
      svc.ReadBack fs' := by
  rw [write_run] at h
  split at h
  · cases h
  · cases h
    refine ⟨?_, ?_⟩
    · simp [Service.fromDir, dataRead, readEntry, afterWrite, AtomicService.afterWrite,
        serviceAfterWrite, Files.putSome, Files.mkdir, Function.update_apply, ite_apply,
        AtomicService.dir, AtomicService.envDir, AtomicService.dataDir,
        AtomicService.dependenciesFile, runFile, finishFile, logRunFile, loggerDir, downFile,
        pipelineNameFile, producerForFile, consumerForFile, ServiceType.value, ServiceType.ofValue,
        Service.new]
    · refine ⟨?_, ?_, ?_, ?_, ?_, ?_, ?_, ?_, ?_, ?_, ?_, ?_, ?_⟩ <;> intro v hv <;>
      (try (rw [Option.map_eq_some'] at hv; obtain ⟨v, hv, rfl⟩ := hv)) <;>
      simp only [hv, blank, AtomicService.blank, lazyProperty, Except.map, getDependencies,
        getEnviron, getTimeoutUp, getTimeoutDown, getRunScript, getFinishScript, getLogRunScript,
        optionalScript, getDefaultDown, getTimeoutFinish, getNotificationFd, getPipelineName,
        getProducerFor, getConsumerFor, dataRead, scriptRead, setListRead, environDirRead, valueRead,
        readEntry, pathExists, afterWrite, AtomicService.afterWrite, serviceAfterWrite,
        Files.putSome_apply_ne, Files.mkdir_apply_ne, Function.update_noteq, ite_apply, ite_self,
        Files.putSome_some, Function.update_same, Function.comp_apply, AtomicService.dir,
        AtomicService.envDir, AtomicService.dataDir, AtomicService.dependenciesFile, runFile,
        finishFile, logRunFile, loggerDir, downFile, pipelineNameFile, producerForFile,
        consumerForFile, ne_eq, List.append_assoc, List.singleton_append, List.cons_append,
        List.nil_append, List.append_cancel_left_eq, List.cons.injEq, String.reduceEq, and_false,
        false_and, and_true, not_false_eq_true, Option.some.injEq, Except.ok.injEq, Prod.mk.injEq,
        true_and, exists_eq']
      all_goals cases ‹Bool› <;> exact ⟨_, rfl, rfl⟩

open Sample in
theorem longrun_write_load_full :
    full.write.run (fun _ => none) = .ok () fullFiles ∧
      Service.fromDir fullFiles full.dir =
        .ok (some (.longrun (LongrunService.blank full.directory full.name))) ∧
      full.ReadBack fullFiles :=
  ⟨full_write, longrun_write_load full_write⟩

theorem serviceAfterWrite_of_written {dir : List String} {type : ServiceType} {fs : Files}
    (hdir : fs dir ≠ none) (htype : fs (dir ++ ["type"]) = some (.data (some type.value))) :
    serviceAfterWrite dir type fs = fs := by
  rw [serviceAfterWrite, Files.mkdir_of_ne_none hdir, ← htype, Function.update_eq_self]

theorem AtomicService.afterWrite_blank {directory : List String} {name : String}
    {type : ServiceType} {fs : Files} (hdir : fs (directory ++ [name]) ≠ none)
    (htype : fs (directory ++ [name, "type"]) = some (.data (some type.value)))
    (henv : fs (directory ++ [name, "env"]) ≠ none) (hdata : fs (directory ++ [name, "data"]) ≠ none) :
    (blank directory name).afterWrite type fs = fs := by
  simp only [afterWrite, blank, dir, envDir, dataDir, Files.putSome_none, List.append_assoc,
    List.singleton_append]
  rw [serviceAfterWrite_of_written hdir (by simpa only [List.append_assoc, List.singleton_append]),
    Files.mkdir_of_ne_none henv, Files.mkdir_of_ne_none hdata]

/-- A loaded longrun service with `default_down` cached as `d`, written back over a definition a
write left: only the `down` marker changes, written when `d` is true and removed otherwise. -/
theorem LongrunService.write_loaded {directory : List String} {name : String} {fs : Files}
    (hdir : fs (directory ++ [name]) ≠ none)
    (htype : fs (directory ++ [name, "type"]) = some (.data (some "longrun")))
    (henv : fs (directory ++ [name, "env"]) ≠ none) (hdata : fs (directory ++ [name, "data"]) ≠ none)
    (hrun : fs (directory ++ [name, "run"]) ≠ none) (d : Option Bool) :
    { blank directory name with defaultDown := d }.write.run fs = .ok ()
      (Function.update fs (directory ++ [name, "down"])
        (if d = some true then some (.data none) else none)) := by
  have ha : { blank directory name with defaultDown := d }.toAtomicService.afterWrite .longRun fs =
      fs :=
    AtomicService.afterWrite_blank hdir htype henv hdata
  rw [write_run, ha]
  simp only [afterWrite, ha]
  simp only [blank, AtomicService.blank, pathExists, runFile, downFile, AtomicService.dir,
    Files.putSome_none, Option.isSome_none, Option.isNone_none, Bool.false_eq_true, if_false,
    List.append_assoc, List.singleton_append, Option.isSome_iff_ne_none.mpr hrun, Bool.not_true,
    Bool.and_false]

open LongrunService in
/-- A longrun service loaded from a definition a write left, written back without reading
`default_down`: the write removes the `down` marker and changes nothing else. Read first,
`default_down` is cached, and the write then keeps the marker as it was. -/
theorem longrun_rewrite_drops_down {directory : List String} {name : String}
    {fs : Files} (hdir : fs (directory ++ [name]) ≠ none)
    (htype : fs (directory ++ [name, "type"]) = some (.data (some "longrun")))
    (henv : fs (directory ++ [name, "env"]) ≠ none) (hdata : fs (directory ++ [name, "data"]) ≠ none)
    (hrun : fs (directory ++ [name, "run"]) ≠ none) :
    (blank directory name).write.run fs =
        .ok () (Function.update fs (directory ++ [name, "down"]) none) ∧
      ∀ b svc, (blank directory name).getDefaultDown fs = .ok (b, svc) →
        svc.write.run fs = .ok () (Function.update fs (directory ++ [name, "down"])
          (if b then some (.data none) else none)) := by
  refine ⟨write_loaded hdir htype henv hdata hrun none, fun b svc h => ?_⟩
  simp only [getDefaultDown, lazyProperty, blank, Except.map, Except.ok.injEq, Prod.mk.injEq] at h
  obtain ⟨rfl, rfl⟩ := h
  simpa only [Option.some.injEq] using write_loaded hdir htype henv hdata hrun (some _)

open Sample in
theorem longrun_rewrite_drops_down_app :
    longrunFiles (["services"] ++ ["app"]) ≠ none ∧
      longrunFiles (["services"] ++ ["app", "type"]) = some (.data (some "longrun")) ∧
      longrunFiles (["services"] ++ ["app", "env"]) ≠ none ∧
      longrunFiles (["services"] ++ ["app", "data"]) ≠ none ∧
      longrunFiles (["services"] ++ ["app", "run"]) ≠ none ∧
      (LongrunService.blank ["services"] "app").write.run longrunFiles =
        .ok () (Function.update longrunFiles (["services"] ++ ["app", "down"]) none) ∧
      ∀ b svc, (LongrunService.blank ["services"] "app").getDefaultDown longrunFiles = .ok (b, svc) →
        svc.write.run longrunFiles = .ok () (Function.update longrunFiles
          (["services"] ++ ["app", "down"]) (if b then some (.data none) else none)) :=
  ⟨by decide, by decide, by decide, by decide, by decide,
    longrun_rewrite_drops_down (by decide) (by decide) (by decide) (by decide) (by decide)⟩

open OneshotService in
/-- A oneshot service loaded from a definition a write left, written back: nothing changes. -/
theorem oneshot_rewrite_keeps_files {directory : List String} {name : String}
    {fs : Files} (hdir : fs (directory ++ [name]) ≠ none)
    (htype : fs (directory ++ [name, "type"]) = some (.data (some "oneshot")))
    (henv : fs (directory ++ [name, "env"]) ≠ none) (hdata : fs (directory ++ [name, "data"]) ≠ none)
    (hup : fs (directory ++ [name, "up"]) ≠ none) :
    (blank directory name).write.run fs = .ok () fs := by
  have ha : (blank directory name).toAtomicService.afterWrite .oneshot fs = fs :=
    AtomicService.afterWrite_blank hdir htype henv hdata
  rw [write_run, ha]
  simp only [blank, AtomicService.blank, pathExists, upFile, AtomicService.dir, Files.putSome_none,
    truthy, List.append_assoc, List.singleton_append, Option.isSome_iff_ne_none.mpr hup,
    Bool.not_true, Bool.not_false, Bool.and_false, Bool.false_eq_true, if_false]

open Sample in
theorem oneshot_rewrite_keeps_files_setup :
    oneshotFiles (["services"] ++ ["setup"]) ≠ none ∧
      oneshotFiles (["services"] ++ ["setup", "type"]) = some (.data (some "oneshot")) ∧
      oneshotFiles (["services"] ++ ["setup", "env"]) ≠ none ∧
      oneshotFiles (["services"] ++ ["setup", "data"]) ≠ none ∧
      oneshotFiles (["services"] ++ ["setup", "up"]) ≠ none ∧
      (OneshotService.blank ["services"] "setup").write.run oneshotFiles = .ok () oneshotFiles :=
  ⟨by decide, by decide, by decide, by decide, by decide,
    oneshot_rewrite_keeps_files (by decide) (by decide) (by decide) (by decide) (by decide)⟩

open BundleService in
/-- A bundle loaded from a definition a write left, written back: nothing changes. -/
theorem bundle_rewrite_keeps_files {directory : List String} {name : String}
    {fs : Files} (hdir : fs (directory ++ [name]) ≠ none)
    (htype : fs (directory ++ [name, "type"]) = some (.data (some "bundle")))
    (hcontents : fs (directory ++ [name, "contents"]) ≠ none) :
    (⟨directory, name, none⟩ : BundleService).write.run fs = .ok () fs := by
  have hs : serviceAfterWrite (directory ++ [name]) .bundle fs = fs :=
    serviceAfterWrite_of_written hdir (by simpa only [List.append_assoc, List.singleton_append])
  rw [write_run]
  simp only [dir, contentsFile, hs, pathExists, Option.any_none, List.append_assoc,
    List.singleton_append, Option.isSome_iff_ne_none.mpr hcontents, Bool.not_true, Bool.and_false,
    Bool.false_eq_true, if_false]

open Sample in
theorem bundle_rewrite_keeps_files_all :
    bundleFiles (["services"] ++ ["all"]) ≠ none ∧
      bundleFiles (["services"] ++ ["all", "type"]) = some (.data (some "bundle")) ∧
      bundleFiles (["services"] ++ ["all", "contents"]) ≠ none ∧
      (⟨["services"], "all", none⟩ : BundleService).write.run bundleFiles = .ok () bundleFiles :=
  ⟨by decide, by decide, by decide, bundle_rewrite_keeps_files (by decide) (by decide) (by decide)⟩

open BundleService in
/-- A bundle is refused exactly when its contents are set and empty, or unset with no contents
file in the directory. -/
theorem bundle_write_refused_iff (svc : BundleService) (fs : Files) :
    (∃ e fs', svc.write.run fs = .error e fs') ↔
      svc.contents = some [] ∨ (svc.contents = none ∧ fs svc.contentsFile = none) := by
  have hc : pathExists (serviceAfterWrite svc.dir .bundle fs) svc.contentsFile =
      pathExists fs svc.contentsFile := by
    simp [pathExists, serviceAfterWrite, contentsFile, Files.mkdir_apply_ne, Function.update_noteq]
  rw [write_run, hc]
  rcases hcont : svc.contents with _ | ⟨_ | ⟨a, l⟩⟩ <;>
    simp [pathExists, Option.isSome_iff_ne_none]
  · by_cases h : fs svc.contentsFile = none <;> simp [h]
  · split <;> exact ⟨_, _, rfl⟩

end Treadmill.S6
