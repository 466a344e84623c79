import Treadmill.App.Api

/-!
# App requests that run at once

Requests interleave at their admin calls; however they do, the store's apps keep naming only
features that exist.
-/

namespace Treadmill.App

open Allocation (dictSet)

/-- `create` up to its write: the checks and `_admin_app().create`. -/
def createWrite (env : Env) (rsrcId : String) (rsrc : Rsrc) : Api Unit := do
  validate (env.resourceId rsrcId && env.createRsrc rsrc)
  verifyFeature env (features rsrc)
  Admin.create rsrcId rsrc

def updateWrite (env : Env) (rsrcId : String) (rsrc : Rsrc) : Api Unit := do
  validate (env.resourceId rsrcId && env.updateRsrc rsrc)
  verifyFeature env (features rsrc)
  Admin.replace rsrcId rsrc

/-- `patch` up to its read of the stored app. -/
def patchRead (env : Env) (rsrcId : String) (rsrc : Rsrc) : Api Rsrc := do
  validate (env.resourceId rsrcId && env.patchRsrc rsrc)
  Admin.get rsrcId

def patchWrite (env : Env) (rsrcId : String) (rsrc storedRsrc : Rsrc) : Api Rsrc := do
  verifyFeature env (features rsrc)
  let storedRsrc := storedRsrc.update rsrc
  Admin.replace rsrcId storedRsrc
  pure storedRsrc

section Split

variable (env : Env) (rsrcId : String) (rsrc : Rsrc)

theorem create_eq_write_get :
    create env rsrcId rsrc = createWrite env rsrcId rsrc >>= fun _ => Admin.get rsrcId := by
  simp only [create, createWrite, bind_assoc]

theorem update_eq_write_get :
    update env rsrcId rsrc = updateWrite env rsrcId rsrc >>= fun _ => Admin.get rsrcId := by
  simp only [update, updateWrite, bind_assoc]

theorem patch_eq_read_write :
    patch env rsrcId rsrc = patchRead env rsrcId rsrc >>= patchWrite env rsrcId rsrc := by
  simp only [patch, patchRead, bind_assoc]
  rfl

variable (st : Store)

theorem Admin.after_get : after (Admin.get rsrcId st) = st := by
  unfold Admin.get
  split <;> rfl

theorem patchRead_apply :
    patchRead env rsrcId rsrc st =
      if (env.resourceId rsrcId && env.patchRsrc rsrc) = false then .error .schema st
      else Admin.get rsrcId st := by
  simp only [patchRead, bind_apply, validate_apply]
  cases env.resourceId rsrcId && env.patchRsrc rsrc <;> rfl

theorem patchWrite_apply (storedRsrc : Rsrc) :
    patchWrite env rsrcId rsrc storedRsrc st =
      match (features rsrc).find? (!env.featureExists ·) with
      | some feature => .error (.validation ("Unsupported feature: " ++ feature)) st
      | none => match st.lookup rsrcId with
        | some _ => .ok (storedRsrc.update rsrc) (dictSet st rsrcId (storedRsrc.update rsrc))
        | none => .error (.notFound rsrcId) st := by
  simp only [patchWrite, bind_apply, verifyFeature_apply]
  cases (features rsrc).find? (!env.featureExists ·)
  · cases h : st.lookup rsrcId <;> simp [Admin.replace, h]
  · rfl

end Split

/-- Where a request is among its admin calls, with what it has read: a create or an update that
has written reads the app back next, and a patch that has read the stored app writes it next. -/
inductive Stage where
  | start
  | wrote
  | read (storedRsrc : Rsrc)
  | finished (outcome : Except ApiError Reply)

/-- What a call leaves: its store, and the stage `next` gives its value, or the request finished
with the call's error. -/
def settle {α : Type} (r : EStateM.Result ApiError Store α) (next : α → Stage) : Store × Stage :=
  match r with
  | .ok a st => (st, next a)
  | .error e st => (st, .finished (.error e))

def answered (app : Rsrc) : Stage := .finished (.ok (.app app))

/-- A request's next admin call, with the checks before it. -/
def advance (env : Env) (req : Request) (st : Store) : Stage → Option (Store × Stage)
  | .start => some <| match req with
    | .create rsrcId rsrc => settle (createWrite env rsrcId rsrc st) fun _ => .wrote
    | .update rsrcId rsrc => settle (updateWrite env rsrcId rsrc st) fun _ => .wrote
    | .patch rsrcId rsrc => settle (patchRead env rsrcId rsrc st) .read
    | req => settle (req.handle env st) fun reply => .finished (.ok reply)
  | .wrote => match req with
    | .create rsrcId _ | .update rsrcId _ => some (settle (Admin.get rsrcId st) answered)
    | _ => none
  | .read storedRsrc => match req with
    | .patch rsrcId rsrc => some (settle (patchWrite env rsrcId rsrc storedRsrc st) answered)
    | _ => none
  | .finished _ => none

structure System where
  store : Store
  requests : List (Request × Stage)

/-- A request arrives, or one makes its next admin call. -/
inductive Step (env : Env) : System → System → Prop where
  | arrive (s : System) (req : Request) : Step env s ⟨s.store, s.requests ++ [(req, .start)]⟩
  | call {s : System} {i : Nat} {req : Request} {stage stage' : Stage} {st' : Store}
      (hi : s.requests[i]? = some (req, stage)) (h : advance env req s.store stage = some (st', stage')) :
      Step env s ⟨st', s.requests.set i (req, stage')⟩

inductive Label where
  | arrive (req : Request)
  | call (i : Nat)

def exec (env : Env) (s : System) : Label → Option System
  | .arrive req => some ⟨s.store, s.requests ++ [(req, .start)]⟩
  | .call i => match s.requests[i]? with
    | none => none
    | some (req, stage) =>
      (advance env req s.store stage).map fun x => ⟨x.1, s.requests.set i (req, x.2)⟩

def execAll (env : Env) : System → List Label → Option System
  | s, [] => some s
  | s, l :: ls => (exec env s l).bind fun t => execAll env t ls

theorem execAll_reaches {env : Env} {s t : System} {ls : List Label}
    (h : execAll env s ls = some t) : Relation.ReflTransGen (Step env) s t := by
  induction ls generalizing s with
  | nil =>
    cases h
    exact .refl
  | cons l ls ih =>
    obtain ⟨u, hu, ht⟩ := Option.bind_eq_some.mp h
    refine .head ?_ (ih ht)
    cases l with
    | arrive req =>
      cases hu
      exact .arrive s req
    | call i =>
      simp only [exec] at hu
      split at hu
      · cases hu
      · obtain ⟨⟨st', stage'⟩, hadv, rfl⟩ := Option.map_eq_some'.mp hu
        exact .call ‹_› hadv

namespace Sample

def cpu : Rsrc := ⟨[("cpu", .str "50%")], by decide⟩

/-- Two patches of `proid.web` that both read it before either writes. -/
def race : List Label :=
  [.arrive (.patch "proid.web" memory), .arrive (.patch "proid.web" cpu), .call 0, .call 1, .call 0,
    .call 1]

/-- Where the race ends: both patches answered, and the app has lost its new memory. -/
def raced : System :=
  ⟨[("proid.web", docker.update cpu)],
    [(.patch "proid.web" memory, answered patched), (.patch "proid.web" cpu, answered (docker.update cpu))]⟩

end Sample

def Stage.Reads (env : Env) : Stage → Prop
  | .read storedRsrc => ∀ feature ∈ features storedRsrc, env.featureExists feature = true
  | _ => True

/-- The store's apps, and the apps the patches in flight have read, name only features that
exist. -/
def Sound (env : Env) (s : System) : Prop :=
  Supported env s.store ∧ ∀ x ∈ s.requests, x.2.Reads env

section Safety

variable {env : Env} {st : Store}

theorem after_bind_get {α : Type} (x : Api α) (rsrcId : String) :
    after ((x >>= fun _ => Admin.get rsrcId) st) = after (x st) := by
  rw [bind_apply]
  cases x st
  · exact Admin.after_get _ _
  · rfl

theorem createWrite_supported (h : Supported env st) (rsrcId : String) (rsrc : Rsrc) :
    Supported env (after (createWrite env rsrcId rsrc st)) := by
  have := h.handle (.create rsrcId rsrc)
  rwa [Request.handle, after_bind_pure, create_eq_write_get, after_bind_get] at this

theorem updateWrite_supported (h : Supported env st) (rsrcId : String) (rsrc : Rsrc) :
    Supported env (after (updateWrite env rsrcId rsrc st)) := by
  have := h.handle (.update rsrcId rsrc)
  rwa [Request.handle, after_bind_pure, update_eq_write_get, after_bind_get] at this

theorem patchRead_reads {rsrcId : String} {rsrc : Rsrc} :
    after (patchRead env rsrcId rsrc st) = st ∧
      ∀ storedRsrc st', patchRead env rsrcId rsrc st = .ok storedRsrc st' →
        st.lookup rsrcId = some storedRsrc := by
  rw [patchRead_apply]
  split_ifs
  · exact ⟨rfl, nofun⟩
  · unfold Admin.get
    split
    · exact ⟨rfl, fun _ _ h => by cases h; assumption⟩
    · exact ⟨rfl, nofun⟩

theorem patchWrite_supported {rsrcId : String} {rsrc storedRsrc : Rsrc} (h : Supported env st)
    (hr : ∀ feature ∈ features storedRsrc, env.featureExists feature = true) :
    Supported env (after (patchWrite env rsrcId rsrc storedRsrc st)) := by
  rw [patchWrite_apply]
  split
  · exact h
  · split
    · refine h.dictSet ?_
      rw [features_update]
      split
      · exact featureExists_of_find? ‹_›
      · exact hr
    · exact h

theorem settle_sound {α : Type} {r : EStateM.Result ApiError Store α} {next : α → Stage}
    {st' : Store} {stage' : Stage} (h : settle r next = (st', stage')) (hs : Supported env (after r))
    (hn : ∀ a st₀, r = .ok a st₀ → (next a).Reads env) : Supported env st' ∧ stage'.Reads env := by
  cases r with
  | ok a st₀ =>
    cases h
    exact ⟨hs, hn a _ rfl⟩
  | error e st₀ =>
    cases h
    exact ⟨hs, trivial⟩

/-- One admin call keeps the store's apps, and what its request reads, naming only features that
exist. -/
theorem advance_sound {req : Request} {stage stage' : Stage} {st' : Store}
    (h : advance env req st stage = some (st', stage')) (hs : Supported env st)
    (hr : stage.Reads env) : Supported env st' ∧ stage'.Reads env := by
  cases stage with
  | start =>
    simp only [advance, Option.some.injEq] at h
    cases req with
    | create rsrcId rsrc => exact settle_sound h (createWrite_supported hs _ _) fun _ _ _ => trivial
    | update rsrcId rsrc => exact settle_sound h (updateWrite_supported hs _ _) fun _ _ _ => trivial
    | patch rsrcId rsrc =>
      exact settle_sound h (patchRead_reads.1 ▸ hs) fun _ _ hp => hs.lookup (patchRead_reads.2 _ _ hp)
    | list | get | delete => exact settle_sound h (hs.handle _) fun _ _ _ => trivial
  | wrote =>
    cases req <;> simp only [advance, Option.some.injEq, reduceCtorEq] at h
    all_goals exact settle_sound h ((Admin.after_get _ _).symm ▸ hs) fun _ _ _ => trivial
  | read storedRsrc =>
    cases req <;> simp only [advance, Option.some.injEq, reduceCtorEq] at h
    exact settle_sound h (patchWrite_supported hs hr) fun _ _ _ => trivial
  | finished => cases h

theorem step_sound {s t : System} (h : Step env s t) (hs : Sound env s) : Sound env t := by
  cases h with
  | arrive req =>
    refine ⟨hs.1, fun x hx => ?_⟩
    rcases List.mem_append.mp hx with hx | hx
    · exact hs.2 x hx
    · rw [List.mem_singleton.mp hx]
      trivial
  | call hi h =>
    obtain ⟨hst, hr⟩ := advance_sound h hs.1 (hs.2 _ (List.getElem?_mem hi))
    refine ⟨hst, fun x hx => ?_⟩
    rcases List.mem_or_eq_of_mem_set hx with hx | rfl
    · exact hs.2 x hx
    · exact hr

/-- However requests interleave their admin calls, every store they reach from one whose apps
name only features that exist has its apps naming only features that exist. -/
theorem interleaved_requests_keep_features_supported {s : System} (h0 : Supported env st)
    (hr : Relation.ReflTransGen (Step env) ⟨st, []⟩ s) : Supported env s.store := by
  have : Sound env s := by
    induction hr with
    | refl => exact ⟨h0, fun _ h => nomatch h⟩
    | tail _ hs ih => exact step_sound hs ih
  exact this.1

theorem interleaved_requests_keep_features_supported_race :
    Supported Sample.env Sample.store ∧
      Relation.ReflTransGen (Step Sample.env) ⟨Sample.store, []⟩ Sample.raced ∧
      Supported Sample.env Sample.raced.store :=
  have hr : Relation.ReflTransGen (Step Sample.env) ⟨Sample.store, []⟩ Sample.raced :=
    execAll_reaches (show execAll Sample.env ⟨Sample.store, []⟩ Sample.race = some Sample.raced from rfl)
  ⟨by decide, hr, interleaved_requests_keep_features_supported (by decide) hr⟩

end Safety

def outcome : EStateM.Result ApiError Store Reply → Except ApiError Reply
  | .ok reply _ => .ok reply
  | .error e _ => .error e

section Alone

variable {env : Env}

theorem settle_finished (r : EStateM.Result ApiError Store Reply) :
    settle r (fun reply => .finished (.ok reply)) = (after r, .finished (outcome r)) := by
  cases r <;> rfl

theorem step_last (pre : List (Request × Stage)) {req : Request} {stage stage' : Stage}
    {st st' : Store} (h : advance env req st stage = some (st', stage')) :
    Step env ⟨st, pre ++ [(req, stage)]⟩ ⟨st', pre ++ [(req, stage')]⟩ := by
  have := Step.call (s := ⟨st, pre ++ [(req, stage)]⟩) (List.getElem?_concat_length pre _) h
  rwa [List.set_append_right _ _ le_rfl, Nat.sub_self] at this

/-- Request `req` makes its next admin call, from a store and its stage. -/
def Advances (env : Env) (req : Request) (a b : Store × Stage) : Prop :=
  advance env req a.1 a.2 = some b

/-- A request whose handler is a call `x`, then a call `y` of its value, answering the app `y`
gives: its two calls do what the handler does. -/
theorem two_calls_run_as_handler {α : Type} {req : Request} {x : Api α} {y : α → Api Rsrc}
    {mid : α → Stage} (h₁ : ∀ st, advance env req st .start = some (settle (x st) mid))
    (h₂ : ∀ a st, advance env req st (mid a) = some (settle (y a st) answered))
    (hreq : req.handle env = (x >>= y) >>= fun app => pure (Reply.app app)) (st : Store) :
    Relation.ReflTransGen (Advances env req) (st, .start)
      (after (req.handle env st), .finished (outcome (req.handle env st))) := by
  have h₁ := h₁ st
  rw [hreq, bind_apply, bind_apply]
  cases hx : x st with
  | error e st₁ =>
    rw [hx] at h₁
    exact .single h₁
  | ok a st₁ =>
    rw [hx] at h₁
    have h₂ := h₂ a st₁
    dsimp only
    cases hy : y a st₁ <;> rw [hy] at h₂ <;> exact .tail (.single h₁) h₂

/-- A request's admin calls, made one after another from a store, leave the store its handler
leaves and answer what it answers. -/
theorem advance_runs_as_handler (req : Request) (st : Store) :
    Relation.ReflTransGen (Advances env req) (st, .start)
      (after (req.handle env st), .finished (outcome (req.handle env st))) := by
  cases req with
  | create rsrcId rsrc =>
    apply two_calls_run_as_handler (x := createWrite env rsrcId rsrc) (y := fun _ => Admin.get rsrcId)
    exacts [fun _ => rfl, fun _ _ => rfl, by rw [Request.handle, create_eq_write_get]]
  | update rsrcId rsrc =>
    apply two_calls_run_as_handler (x := updateWrite env rsrcId rsrc) (y := fun _ => Admin.get rsrcId)
    exacts [fun _ => rfl, fun _ _ => rfl, by rw [Request.handle, update_eq_write_get]]
  | patch rsrcId rsrc =>
    apply two_calls_run_as_handler (x := patchRead env rsrcId rsrc) (y := patchWrite env rsrcId rsrc)
    exacts [fun _ => rfl, fun _ _ => rfl, by rw [Request.handle, patch_eq_read_write]]
  | list | get | delete =>
    exact .single (show advance _ _ _ _ = _ by simp only [advance, settle_finished])

end Alone

end Treadmill.App
