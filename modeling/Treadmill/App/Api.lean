import Treadmill.Allocation.Listing

/-!
# Applications: `treadmill.api.app`

The admin store, `appcfg.features` and the schemas are not under src/: which features exist, which
arguments the schemas accept and which ids a pattern matches are parameters.
-/

namespace Treadmill.App

open Allocation (dictSet dictUpdate)

inductive Value where
  | str (s : String)
  | strs (items : List String)
  deriving DecidableEq, Repr

/-- `for feature in value`: the items of a list, the characters of a string. -/
def Value.items : Value → List String
  | .str s => s.toList.map Char.toString
  | .strs items => items

/-- An app's attributes: a dict, each key once. -/
@[ext] structure Rsrc where
  entries : List (String × Value)
  nodup : (entries.map Prod.fst).Nodup

instance : DecidableEq Rsrc := fun a b => decidable_of_iff (a.entries = b.entries) Rsrc.ext_iff.symm

namespace Rsrc

def lookup (rsrc : Rsrc) (key : String) : Option Value := rsrc.entries.lookup key

def set (rsrc : Rsrc) (key : String) (value : Value) : Rsrc :=
  ⟨dictSet rsrc.entries key value, Allocation.nodup_dictSet _ _ _ rsrc.nodup⟩

def update (rsrc other : Rsrc) : Rsrc :=
  ⟨dictUpdate rsrc.entries other.entries, Allocation.nodup_dictUpdate rsrc.nodup _⟩

@[simp] theorem lookup_set (rsrc : Rsrc) (key key' : String) (value : Value) :
    (rsrc.set key value).lookup key' = if key' = key then some value else rsrc.lookup key' :=
  Allocation.lookup_dictSet _ _ _ _

@[simp] theorem lookup_update (rsrc other : Rsrc) (key : String) :
    (rsrc.update other).lookup key = (other.lookup key).or (rsrc.lookup key) :=
  Allocation.lookup_dictUpdate key other.nodup

end Rsrc

/-- `rsrc.get('features', [])`, as `verify_feature` iterates it. -/
def features (rsrc : Rsrc) : List String := ((rsrc.lookup "features").map Value.items).getD []

/-- What a handler raises: the `ValidationError` of `verify_feature`, a schema of `@schema.schema`
that fails (jsonschema's message is not modelled), and the admin store's missing or existing
app. -/
inductive ApiError where
  | validation (message : String)
  | schema
  | notFound (rsrcId : String)
  | alreadyExists (rsrcId : String)
  deriving DecidableEq, Repr

abbrev Store := List (String × Rsrc)

abbrev Api := EStateM ApiError Store

namespace Admin

def get (rsrcId : String) : Api Rsrc := fun st =>
  match st.lookup rsrcId with
  | some rsrc => .ok rsrc st
  | none => .error (.notFound rsrcId) st

def create (rsrcId : String) (rsrc : Rsrc) : Api Unit := fun st =>
  match st.lookup rsrcId with
  | some _ => .error (.alreadyExists rsrcId) st
  | none => .ok () (st ++ [(rsrcId, rsrc)])

def replace (rsrcId : String) (rsrc : Rsrc) : Api Unit := fun st =>
  match st.lookup rsrcId with
  | some _ => .ok () (dictSet st rsrcId rsrc)
  | none => .error (.notFound rsrcId) st

def delete (rsrcId : String) : Api Unit := fun st =>
  match st.lookup rsrcId with
  | some _ => .ok () (st.filter (·.1 != rsrcId))
  | none => .error (.notFound rsrcId) st

/-- `list({'_id': match})`: the apps whose id matches, each with its `_id`. -/
def list (idMatches : String → Bool) : Api (List Rsrc) := fun st =>
  .ok ((st.filter (idMatches ·.1)).map fun app => app.2.set "_id" (.str app.1)) st

end Admin

/-- What the handlers depend on outside src/: `features.feature_exists`, the admin's
`{'_id': match}` filter, and the schemas `app.json#/resource_id` and `app.json#/resource` with
each verb's. -/
structure Env where
  featureExists : String → Bool
  idMatches : String → String → Bool
  resourceId : String → Bool
  createRsrc : Rsrc → Bool
  updateRsrc : Rsrc → Bool
  patchRsrc : Rsrc → Bool

/-- `@schema.schema`: the handler runs only on arguments its schemas accept. -/
def validate (accepted : Bool) : Api Unit := if accepted then pure () else throw .schema

def verifyFeature (env : Env) : List String → Api Unit
  | [] => pure ()
  | feature :: appFeatures =>
    if env.featureExists feature then verifyFeature env appFeatures
    else throw (.validation ("Unsupported feature: " ++ feature))

/-- `item['_id']`; every app `Admin.list` gives has one. -/
def idOf (item : Rsrc) : String :=
  match item.lookup "_id" with
  | some (.str rsrcId) => rsrcId
  | _ => ""

/-- `_list`: `sorted(apps, key=lambda item: item['_id'])`. -/
def list (env : Env) (pattern : String) : Api (List Rsrc) := do
  let apps ← Admin.list (env.idMatches pattern)
  pure (apps.mergeSort fun a b => decide (idOf a ≤ idOf b))

def get (env : Env) (rsrcId : String) : Api Rsrc := do
  validate (env.resourceId rsrcId)
  let result ← Admin.get rsrcId
  pure (result.set "_id" (.str rsrcId))

def create (env : Env) (rsrcId : String) (rsrc : Rsrc) : Api Rsrc := do
  validate (env.resourceId rsrcId && env.createRsrc rsrc)
  verifyFeature env (features rsrc)
  Admin.create rsrcId rsrc
  Admin.get rsrcId

def update (env : Env) (rsrcId : String) (rsrc : Rsrc) : Api Rsrc := do
  validate (env.resourceId rsrcId && env.updateRsrc rsrc)
  verifyFeature env (features rsrc)
  Admin.replace rsrcId rsrc
  Admin.get rsrcId

def patch (env : Env) (rsrcId : String) (rsrc : Rsrc) : Api Rsrc := do
  validate (env.resourceId rsrcId && env.patchRsrc rsrc)
  let storedRsrc ← Admin.get rsrcId
  verifyFeature env (features rsrc)
  let storedRsrc := storedRsrc.update rsrc
  Admin.replace rsrcId storedRsrc
  pure storedRsrc

def delete (env : Env) (rsrcId : String) : Api Unit := do
  validate (env.resourceId rsrcId)
  Admin.delete rsrcId

inductive Request where
  | list (pattern : String)
  | get (rsrcId : String)
  | create (rsrcId : String) (rsrc : Rsrc)
  | update (rsrcId : String) (rsrc : Rsrc)
  | patch (rsrcId : String) (rsrc : Rsrc)
  | delete (rsrcId : String)
  deriving DecidableEq

inductive Reply where
  | apps (apps : List Rsrc)
  | app (app : Rsrc)
  | deleted
  deriving DecidableEq

def Request.handle (env : Env) : Request → Api Reply
  | .list pattern => do pure (.apps (← App.list env pattern))
  | .get rsrcId => do pure (.app (← App.get env rsrcId))
  | .create rsrcId rsrc => do pure (.app (← App.create env rsrcId rsrc))
  | .update rsrcId rsrc => do pure (.app (← App.update env rsrcId rsrc))
  | .patch rsrcId rsrc => do pure (.app (← App.patch env rsrcId rsrc))
  | .delete rsrcId => do App.delete env rsrcId; pure .deleted

/-- The API answering requests one after another: each gets its reply or its error. -/
def serve (env : Env) : List Request → Store → List (Except ApiError Reply) × Store
  | [], st => ([], st)
  | req :: reqs, st =>
    match req.handle env st with
    | .ok reply st' => ((serve env reqs st').1.cons (.ok reply), (serve env reqs st').2)
    | .error e st' => ((serve env reqs st').1.cons (.error e), (serve env reqs st').2)

namespace Sample

/-- Apps may name only the feature `docker`; the schemas accept every request. -/
def env : Env where
  featureExists feature := feature == "docker"
  idMatches _ _ := true
  resourceId _ := true
  createRsrc _ := true
  updateRsrc _ := true
  patchRsrc _ := true

def docker : Rsrc := ⟨[("features", .strs ["docker"]), ("memory", .str "1G")], by decide⟩

def gpu : Rsrc := ⟨[("features", .strs ["docker", "gpu"])], by decide⟩

def memory : Rsrc := ⟨[("memory", .str "2G")], by decide⟩

def patched : Rsrc := docker.update memory

def store : Store := [("proid.web", docker)]

def requests : List Request :=
  [.patch "proid.web" gpu, .patch "proid.web" memory, .create "proid.db" gpu, .create "proid.db" docker,
    .delete "proid.web"]

end Sample

section Spec

variable (env : Env) (st : Store)

@[simp] theorem bind_apply {α β : Type} (x : Api α) (f : α → Api β) :
    (x >>= f) st = match x st with
      | .ok a st' => f a st'
      | .error e st' => .error e st' := by
  show EStateM.bind x f st = _
  cases h : x st <;> simp only [EStateM.bind, h]

@[simp] theorem pure_apply {α : Type} (a : α) : (pure a : Api α) st = .ok a st := rfl

@[simp] theorem validate_apply (accepted : Bool) :
    validate accepted st = if accepted then .ok () st else .error .schema st := by
  unfold validate
  split <;> rfl

theorem verifyFeature_apply (appFeatures : List String) :
    verifyFeature env appFeatures st = match appFeatures.find? (!env.featureExists ·) with
      | none => .ok () st
      | some feature => .error (.validation ("Unsupported feature: " ++ feature)) st := by
  induction appFeatures with
  | nil => rfl
  | cons feature appFeatures ih =>
    by_cases h : env.featureExists feature
    · simp [verifyFeature, h, ih, List.find?_cons]
    · simp [verifyFeature, h, List.find?_cons]
      rfl

theorem create_apply (rsrcId : String) (rsrc : Rsrc) :
    create env rsrcId rsrc st =
      if (env.resourceId rsrcId && env.createRsrc rsrc) = false then .error .schema st else
      match (features rsrc).find? (!env.featureExists ·) with
      | some feature => .error (.validation ("Unsupported feature: " ++ feature)) st
      | none => match st.lookup rsrcId with
        | some _ => .error (.alreadyExists rsrcId) st
        | none => .ok rsrc (st ++ [(rsrcId, rsrc)]) := by
  simp only [create, bind_apply, validate_apply, verifyFeature_apply]
  cases env.resourceId rsrcId && env.createRsrc rsrc
  · rfl
  cases (features rsrc).find? (!env.featureExists ·)
  · cases h : st.lookup rsrcId
    · simp [Admin.create, Admin.get, h, List.lookup_append, List.lookup_cons_self]
    · simp [Admin.create, h]
  · rfl

theorem update_apply (rsrcId : String) (rsrc : Rsrc) :
    update env rsrcId rsrc st =
      if (env.resourceId rsrcId && env.updateRsrc rsrc) = false then .error .schema st else
      match (features rsrc).find? (!env.featureExists ·) with
      | some feature => .error (.validation ("Unsupported feature: " ++ feature)) st
      | none => match st.lookup rsrcId with
        | some _ => .ok rsrc (dictSet st rsrcId rsrc)
        | none => .error (.notFound rsrcId) st := by
  simp only [update, bind_apply, validate_apply, verifyFeature_apply]
  cases env.resourceId rsrcId && env.updateRsrc rsrc
  · rfl
  cases (features rsrc).find? (!env.featureExists ·)
  · cases h : st.lookup rsrcId
    · simp [Admin.replace, h]
    · simp [Admin.replace, Admin.get, h, Allocation.lookup_dictSet_self]
  · rfl

theorem patch_apply (rsrcId : String) (rsrc : Rsrc) :
    patch env rsrcId rsrc st =
      if (env.resourceId rsrcId && env.patchRsrc rsrc) = false then .error .schema st else
      match st.lookup rsrcId with
      | none => .error (.notFound rsrcId) st
      | some storedRsrc => match (features rsrc).find? (!env.featureExists ·) with
        | some feature => .error (.validation ("Unsupported feature: " ++ feature)) st
        | none => .ok (storedRsrc.update rsrc) (dictSet st rsrcId (storedRsrc.update rsrc)) := by
  simp only [patch, bind_apply, validate_apply, verifyFeature_apply]
  cases env.resourceId rsrcId && env.patchRsrc rsrc
  · rfl
  cases h : st.lookup rsrcId
  · simp [Admin.get, h]
  · cases (features rsrc).find? (!env.featureExists ·)
    · simp [Admin.get, Admin.replace, h]
    · simp [Admin.get, h]

theorem get_apply (rsrcId : String) :
    get env rsrcId st =
      if env.resourceId rsrcId = false then .error .schema st else
      match st.lookup rsrcId with
      | some result => .ok (result.set "_id" (.str rsrcId)) st
      | none => .error (.notFound rsrcId) st := by
  simp only [get, bind_apply, validate_apply]
  cases env.resourceId rsrcId
  · rfl
  cases h : st.lookup rsrcId <;> simp [Admin.get, h]

theorem delete_apply (rsrcId : String) :
    delete env rsrcId st =
      if env.resourceId rsrcId = false then .error .schema st else
      match st.lookup rsrcId with
      | some _ => .ok () (st.filter (·.1 != rsrcId))
      | none => .error (.notFound rsrcId) st := by
  simp only [delete, bind_apply, validate_apply]
  cases env.resourceId rsrcId
  · rfl
  cases h : st.lookup rsrcId <;> simp [Admin.delete, h]

theorem list_apply (pattern : String) :
    list env pattern st = .ok ((((st.filter (env.idMatches pattern ·.1)).map fun app =>
      app.2.set "_id" (.str app.1)).mergeSort fun a b => decide (idOf a ≤ idOf b))) st := rfl

end Spec

def after {α : Type} : EStateM.Result ApiError Store α → Store
  | .ok _ st => st
  | .error _ st => st

section Run

variable {env : Env} {st : Store}

theorem after_bind_pure {α β : Type} (x : Api α) (f : α → β) :
    after ((x >>= fun a => pure (f a)) st) = after (x st) := by
  rw [bind_apply]
  cases x st <;> rfl

theorem serve_snd_cons (req : Request) (reqs : List Request) :
    (serve env (req :: reqs) st).2 = (serve env reqs (after (req.handle env st))).2 := by
  simp only [serve]
  split <;> simp only [after, *]

theorem bind_pure_eq_error {α β : Type} (x : Api α) (f : α → β) {e : ApiError} {st' : Store} :
    (x >>= fun a => pure (f a)) st = .error e st' ↔ x st = .error e st' := by
  rw [bind_apply]
  cases x st <;> simp

theorem mem_of_lookup_eq_some {rsrcId : String} {rsrc : Rsrc} (h : st.lookup rsrcId = some rsrc) :
    (rsrcId, rsrc) ∈ st := by
  obtain ⟨l₁, l₂, rfl, -⟩ := List.lookup_eq_some_iff.mp h
  simp

theorem features_update (storedRsrc rsrc : Rsrc) :
    features (storedRsrc.update rsrc) = match rsrc.lookup "features" with
      | some _ => features rsrc
      | none => features storedRsrc := by
  simp only [features, Rsrc.lookup_update]
  cases rsrc.lookup "features" <;> rfl

theorem featureExists_of_find? {appFeatures : List String}
    (h : appFeatures.find? (!env.featureExists ·) = none) :
    ∀ feature ∈ appFeatures, env.featureExists feature = true := by
  simpa using List.find?_eq_none.mp h

end Run

/-- Every app of the store names only features that exist. -/
def Supported (env : Env) (st : Store) : Prop :=
  ∀ app ∈ st, ∀ feature ∈ features app.2, env.featureExists feature = true

instance (env : Env) (st : Store) : Decidable (Supported env st) :=
  inferInstanceAs (Decidable (∀ app ∈ st, ∀ feature ∈ features app.2, env.featureExists feature = true))

namespace Supported

variable {env : Env} {st : Store} {rsrcId : String} {rsrc : Rsrc}

theorem append (h : Supported env st) (hr : ∀ feature ∈ features rsrc, env.featureExists feature = true) :
    Supported env (st ++ [(rsrcId, rsrc)]) := by
  intro app ha
  rcases List.mem_append.mp ha with ha | ha
  · exact h app ha
  · obtain rfl := List.mem_singleton.mp ha
    exact hr

theorem dictSet (h : Supported env st) (hr : ∀ feature ∈ features rsrc, env.featureExists feature = true) :
    Supported env (dictSet st rsrcId rsrc) := fun app ha =>
  (Allocation.mem_dictSet _ _ _ ha).elim (h app) fun e => e ▸ hr

theorem filter (h : Supported env st) (p : String × Rsrc → Bool) : Supported env (st.filter p) :=
  fun app ha => h app (List.mem_filter.mp ha).1

theorem lookup (h : Supported env st) (hl : st.lookup rsrcId = some rsrc) :
    ∀ feature ∈ features rsrc, env.featureExists feature = true :=
  h _ (mem_of_lookup_eq_some hl)

theorem handle (h : Supported env st) (req : Request) : Supported env (after (req.handle env st)) := by
  cases req with
  | list pattern => rw [Request.handle, after_bind_pure, list_apply]; exact h
  | get rsrcId =>
    rw [Request.handle, after_bind_pure, get_apply]
    split_ifs
    · exact h
    · split <;> exact h
  | create rsrcId rsrc =>
    rw [Request.handle, after_bind_pure, create_apply]
    split_ifs
    · exact h
    · split
      · exact h
      · split
        · exact h
        · exact h.append (featureExists_of_find? ‹_›)
  | update rsrcId rsrc =>
    rw [Request.handle, after_bind_pure, update_apply]
    split_ifs
    · exact h
    · split
      · exact h
      · split
        · exact h.dictSet (featureExists_of_find? ‹_›)
        · exact h
  | patch rsrcId rsrc =>
    rw [Request.handle, after_bind_pure, patch_apply]
    split_ifs
    · exact h
    · split
      · exact h
      · rename_i storedRsrc hs
        split
        · exact h
        · refine h.dictSet ?_
          rw [features_update]
          split
          · exact featureExists_of_find? ‹_›
          · exact h.lookup hs
  | delete rsrcId =>
    rw [Request.handle, after_bind_pure, delete_apply]
    split_ifs
    · exact h
    · split
      · exact h.filter _
      · exact h

end Supported

/-- From a store whose apps name only features that exist, every run of requests, whichever of
them fail, leaves a store whose apps name only features that exist. -/
theorem apps_name_only_existing_features (env : Env) (reqs : List Request) {st : Store}
    (h : Supported env st) : Supported env (serve env reqs st).2 := by
  induction reqs generalizing st with
  | nil => exact h
  | cons req reqs ih => rw [serve_snd_cons]; exact ih (h.handle req)

theorem apps_name_only_existing_features_sample :
    Supported Sample.env Sample.store ∧
      Supported Sample.env (serve Sample.env Sample.requests Sample.store).2 :=
  ⟨by decide, apps_name_only_existing_features Sample.env Sample.requests (by decide)⟩

section Replies

variable {env : Env} {st st' : Store}

/-- A request that fails, for whatever reason, leaves the store as it was. -/
theorem failed_request_leaves_store {req : Request} {e : ApiError}
    (h : req.handle env st = .error e st') : st' = st := by
  cases req <;> rw [Request.handle, bind_pure_eq_error] at h <;>
    simp only [list_apply, get_apply, create_apply, update_apply, patch_apply, delete_apply] at h <;>
    repeat' first | (cases h; done) | (cases h; rfl) | split at h

/-- A create, update or patch that the schemas accept, of an app that is stored if it patches it,
whose body names a feature that does not exist, is refused for the first such feature. -/
theorem first_unsupported_feature_refused {req : Request} {rsrcId : String} {rsrc : Rsrc}
    {pre post : List String} {feature : String}
    (hreq : req = .create rsrcId rsrc ∧ (env.resourceId rsrcId && env.createRsrc rsrc) = true ∨
      req = .update rsrcId rsrc ∧ (env.resourceId rsrcId && env.updateRsrc rsrc) = true ∨
      req = .patch rsrcId rsrc ∧ (env.resourceId rsrcId && env.patchRsrc rsrc) = true ∧
        (st.lookup rsrcId).isSome = true)
    (hf : features rsrc = pre ++ feature :: post) (hpre : ∀ f ∈ pre, env.featureExists f = true)
    (hx : env.featureExists feature = false) :
    req.handle env st = .error (.validation ("Unsupported feature: " ++ feature)) st := by
  have hfind : (features rsrc).find? (!env.featureExists ·) = some feature := by
    rw [hf, List.find?_append, List.find?_eq_none.mpr (by simpa using hpre),
      List.find?_cons_of_pos _ (by simp [hx])]
    rfl
  rcases hreq with ⟨rfl, hs⟩ | ⟨rfl, hs⟩ | ⟨rfl, hs, hl⟩
  · simp only [Request.handle, bind_apply, create_apply, hs, hfind]
    rfl
  · simp only [Request.handle, bind_apply, update_apply, hs, hfind]
    rfl
  · obtain ⟨storedRsrc, hst⟩ := Option.isSome_iff_exists.mp hl
    simp only [Request.handle, bind_apply, patch_apply, hs, hst, hfind]
    rfl

end Replies

end Treadmill.App
