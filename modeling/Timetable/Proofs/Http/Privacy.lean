import Timetable.Http.Api
import Timetable.Http.Serve
import Timetable.Proofs.Service.Discretion

/-
  This file shows that requests respect who rows belong to:
  the rows of an owner are changed only for a request that
  carries a valid token of the owner, and are seen only by
  such a request and by administrators who ask for them.

  Key definitions include:
    * `Request.Bears`
    * `Request.BearsOwner`
    * `Site.namedPlan`
    * `Site.ShownToAdministrator`
    * `World.Orderly`
    * `World.concealing`

  Main theorems include:
    * `endpoint_discreet`
    * `serve_discreetAt`
    * `serve_respects_owners`
-/

namespace Timetable

open Store

------------------------------------------------------------
-- Moments
------------------------------------------------------------

/- The instant of a moment is the one it was made of. -/
theorem Timestamp.instant_ofInstant
    (n : Int) :
    (Timestamp.ofInstant n).instant = n := by
  have hDay : (0 : Int) < nanosPerDay := by decide
  have hRest := Int.emod_nonneg n (Int.ne_of_gt hDay)
  have hSplit := Int.mul_ediv_add_emod n nanosPerDay
  unfold Timestamp.ofInstant Timestamp.instant
  rw [Int.fdiv_eq_ediv_of_nonneg n (Int.le_of_lt hDay)]
  simp only
  rw [Int.toNat_of_nonneg]
  · rw [Int.add_comm, Int.sub_add_cancel, Int.zero_mul, Int.sub_zero]
  · rw [Int.mul_comm]
    omega

------------------------------------------------------------
-- Orderly Worlds
------------------------------------------------------------

/-
  Ids are distinct, ids to come are new, and no transaction is
  open.  Statements may fail in any way.
-/
structure World.Orderly (w : World) : Prop where
  planIds : (w.tables.plans.map (·.id)).Nodup
  itemIds : (w.tables.items.map (·.id)).Nodup
  fresh : w.Fresh
  origin : w.database.origin = none
  savepoints : w.database.savepoints = []

/- A world without the rows of an owner, except for a named plan. -/
def World.concealing
    (owner named : String)
    (w : World) : World :=
  { w with
    database :=
      { w.database with
        tables := w.tables.concealing owner named } }

/- The rows of an owner, and what else there is before a request. -/
def World.secret
    (w : World)
    (owner named : String)
    (shown : Bool) : Secret :=
  { owner := owner, rows := w.tables.rowsOf owner, jobs := w.jobs
    named := named, shown := shown }

namespace World.Orderly

variable {w : World}

/- In an orderly world the rows of every owner are guarded. -/
theorem guarded
    (h : w.Orderly)
    (owner named : String)
    (shown : Bool) :
    (w.secret owner named shown).Guarded w where
  store :=
    Secret.covers_of_closed
      (Secret.guards_of_nodup rfl h.planIds h.itemIds) h.origin
      h.savepoints
  fresh := by
    intro n hn
    have hNew := h.fresh n hn
    constructor
    · intro hMem
      rcases List.mem_map.mp hMem with ⟨p, hp, hId⟩
      exact hNew (Or.inl ⟨p, (List.mem_filter.mp hp).1, hId⟩)
    · intro hMem
      rcases List.mem_map.mp hMem with ⟨i, hi, hId⟩
      exact hNew
        (Or.inr (Or.inl ⟨i, (List.mem_filter.mp hi).1, Or.inl hId⟩))
  jobs := ⟨[], by simp [World.secret], by simp⟩

/- What is seen of it is the world without the rows. -/
theorem veiled
    (h : w.Orderly)
    (owner named : String) :
    w.veiled (w.secret owner named false) =
      w.concealing owner named := by
  have hDatabase :
      w.database.veiled (w.secret owner named false) =
        { w.database with
          tables := w.tables.concealing owner named } := by
    unfold Database.veiled
    congr 1
    · rw [h.origin]
      rfl
    · rw [h.savepoints]
      rfl
  unfold World.veiled World.concealing
  rw [hDatabase]

end World.Orderly

/- A job changes rows of the owner that it records only. -/
theorem Service.rowsOf_handleDateJob
    {job : DateJob}
    {w : World}
    (h : w.Orderly)
    {owner : String}
    (hOwner : job.ownerId ≠ owner) :
    ((Service.handleDateJob job).after w).tables.rowsOf owner =
      w.tables.rowsOf owner := by
  have hDiscreet :
      (Service.handleDateJob job).Discreet (w.secret owner "" true)
        (fun _ => True) :=
    Service.discreet_handleDateJob (Or.inl rfl) hOwner
  rcases hDiscreet w (h.guarded owner "" true) _ _
      (Act.runs_outcome_after _ w) with
    ⟨hStill, _⟩
  exact hStill.store.tables.rowsOf

namespace Http

open Act

variable {S : Secret}

------------------------------------------------------------
-- Callers
------------------------------------------------------------

/- A request carries a token that is valid at a moment, with the claims of its bearer. -/
def Request.Bears
    (r : Request)
    (verifier : Token.Verifier)
    (nanos : Int)
    (claims : Token.Claims) : Prop :=
  ∃ token,
    bearerToken? (r.header "Authorization") = some token ∧
      verifier.validate nanos token = .ok claims

/- A request carries a valid token of an owner. -/
def Request.BearsOwner
    (r : Request)
    (verifier : Token.Verifier)
    (nanos : Int)
    (owner : String) : Prop :=
  ∃ claims, r.Bears verifier nanos claims ∧ claims.ownerId = owner

/- A request is made by one bearer only. -/
theorem Request.Bears.unique
    {r : Request}
    {verifier : Token.Verifier}
    {nanos : Int}
    {c d : Token.Claims}
    (hc : r.Bears verifier nanos c)
    (hd : r.Bears verifier nanos d) :
    c = d := by
  rcases hc with ⟨token, hToken, hValid⟩
  rcases hd with ⟨other, hOther, hValidOther⟩
  rw [hToken] at hOther
  cases hOther
  rw [hValid] at hValidOther
  cases hValidOther
  rfl

/- A caller that is required is the bearer of the token. -/
theorem bears_of_requireCaller
    {r : Request}
    {verifier : Token.Verifier}
    {nanos : Int}
    {claims : Token.Claims}
    (h :
      requireCaller verifier nanos (r.header "Authorization") =
        .ok claims) :
    r.Bears verifier nanos claims := by
  unfold requireCaller at h
  split at h
  · cases h
  · split at h
    · cases h
    · rename_i token hToken
      exact ⟨token, hToken, h⟩

/- A route that requires its callers to be known admits bearers only. -/
theorem vet_required
    {route : Route}
    {verifier : Token.Verifier}
    {nanos : Int}
    {e e' : Exchange}
    (hRequired : route.identification = .required)
    (h : route.vet verifier nanos e = .ok e') :
    ∃ claims, e.request.Bears verifier nanos claims ∧
      e' = { e with caller := some claims } ∧
      ∀ a, route.allowance = some a → a.check e' = .ok () := by
  unfold Route.vet at h
  rw [hRequired] at h
  simp only [Identification.caller] at h
  cases hCaller :
      requireCaller verifier nanos (e.request.header "Authorization") with
  | error f =>
      rw [hCaller] at h
      cases h
  | ok claims =>
      rw [hCaller] at h
      have hBears := bears_of_requireCaller hCaller
      cases hAllowance : route.allowance with
      | none =>
          rw [hAllowance] at h
          cases h
          exact ⟨claims, hBears, rfl, fun a ha => by cases ha⟩
      | some a =>
          rw [hAllowance] at h
          cases hCheck :
              a.check { e with caller := some claims } with
          | error f =>
              simp only [Except.map, bind, Except.bind, hCheck] at h
              cases h
          | ok _ =>
              simp only [Except.map, bind, Except.bind, hCheck] at h
              cases h
              refine ⟨claims, hBears, rfl, ?_⟩
              intro b hb
              cases hb
              exact hCheck

------------------------------------------------------------
-- Endpoints
------------------------------------------------------------

section Endpoints

variable {e : Exchange}

theorem discreet_createPlan
    (hCaller : e.callerId ≠ S.owner) :
    (createPlan e).Discreet S (fun _ => True) := by
  apply Discreet.aside_bind (Aside.resume _)
  intro request
  apply (Service.discreet_generate _ hCaller).bind
  intro view _
  exact Discreet.pure trivial

theorem discreet_showPlanOf
    {owner : String}
    (h : S.shown = true ∨ owner ≠ S.owner) :
    (showPlanOf owner).Discreet S (fun _ => True) := by
  apply (Service.discreet_current h).bind
  intro view _
  exact Discreet.pure trivial

/- Dropping the cached lessons does not look at the store. -/
theorem discreet_clearCatalog :
    (clearCatalog e).Discreet S (fun _ => True) := by
  apply Discreet.aside_bind ((Cache.forget_aside _).restating _)
  intro _
  exact Discreet.pure trivial

theorem probeAll_aside
    {dependencies : List Dependency}
    (hProbes : ∀ d ∈ dependencies, d.2.Aside) :
    (probeAll dependencies).Aside := by
  induction dependencies with
  | nil => exact Aside.pure _
  | cons d rest ih =>
      have hRest := ih (fun d hd => hProbes d (by simp [hd]))
      have hEnd :
          ∀ failure : Option Failure,
            (do return (d.1, failure) :: (← probeAll rest) :
              Act (List (String × Option Failure))).Aside := by
        intro failure
        exact hRest.bind (fun _ => Aside.pure _)
      apply (hProbes d (by simp)).attempt.bind
      intro o
      cases o with
      | ok _ => exact (Aside.pure _).bind hEnd
      | error f => exact (Aside.pure _).bind hEnd

/- Probes that leave the store alone tell nothing about its rows. -/
theorem discreet_showReadiness
    {dependencies : List Dependency}
    (hProbes : ∀ d ∈ dependencies, d.2.Aside) :
    (showReadiness dependencies e).Discreet S (fun _ => True) := by
  have hSorted :
      ∀ d ∈ dependencies.mergeSort (fun a b => decide (a.1 ≤ b.1)),
        d.2.Aside :=
    fun d hd => hProbes d (List.mem_mergeSort.mp hd)
  apply Discreet.aside_bind (probeAll_aside hSorted)
  intro outcomes
  exact Discreet.pure trivial

theorem discreet_showMetrics :
    (showMetrics e).Discreet S (fun _ => True) := by
  apply Discreet.get_bind
  · intro w
    rfl
  · intro w
    split
    · exact Discreet.pure trivial
    · exact Discreet.pure trivial

section Plans

variable (hNamed : S.shown = true ∨ e.param "id" = S.named)
variable (hCaller : e.callerId ≠ S.owner)

include hNamed hCaller

theorem discreet_listItems :
    (listItems e).Discreet S (fun _ => True) := by
  apply (Service.discreet_items hNamed hCaller).bind
  intro items _
  exact Discreet.pure trivial

theorem discreet_changeItem :
    (changeItem e).Discreet S (fun _ => True) := by
  apply Discreet.aside_bind (Aside.resume _)
  intro completion
  cases completion with
  | none => exact Discreet.throw _
  | some completed =>
      apply (Service.discreet_completeItem hNamed hCaller _ _).bind
      intro item _
      exact Discreet.pure trivial

theorem discreet_showWeekdays :
    (showWeekdays e).Discreet S (fun _ => True) := by
  apply (Service.discreet_getWeekdays hNamed hCaller).bind
  intro view _
  exact Discreet.pure trivial

theorem discreet_changeWeekdays :
    (changeWeekdays e).Discreet S (fun _ => True) := by
  apply Discreet.aside_bind (Aside.resume _)
  intro weekdays
  apply (Service.discreet_setWeekdays hNamed hCaller _).bind
  intro view _
  exact Discreet.pure trivial

theorem discreet_redate :
    (redate e).Discreet S (fun _ => True) := by
  apply (Service.discreet_recalculateDates hNamed hCaller).bind
  intro view _
  exact Discreet.pure trivial

theorem discreet_download :
    (download e).Discreet S (fun _ => True) := by
  apply (Service.discreet_exportPlan hNamed hCaller _).bind
  intro file _
  exact Discreet.pure trivial

theorem discreet_removePlan :
    (removePlan e).Discreet S (fun _ => True) := by
  apply (Service.discreet_deletePlan hNamed hCaller).bind
  intro _ _
  exact Discreet.pure trivial

end Plans

end Endpoints

------------------------------------------------------------
-- Routes
------------------------------------------------------------

/- What is done for a caller of a guarded route, who is not the owner. -/
theorem discreet_of_required
    {route : Route}
    (hRequired : route.identification = .required)
    (hEndpoint :
      ∀ e : Exchange, e.callerId ≠ S.owner →
        (S.shown = true ∨ e.param "id" = S.named) →
        (route.endpoint e).Discreet S (fun _ => True))
    {verifier : Token.Verifier}
    {nanos : Int}
    {e e' : Exchange}
    (hAdmit : route.vet verifier nanos e = .ok e')
    (hStranger : ¬ e.request.BearsOwner verifier nanos S.owner)
    (hNamed : S.shown = true ∨ e.param "id" = S.named) :
    (route.endpoint e').Discreet S (fun _ => True) := by
  rcases vet_required hRequired hAdmit with
    ⟨claims, hBears, rfl, _⟩
  refine hEndpoint _ ?_ hNamed
  exact fun hOwner => hStranger ⟨claims, hBears, hOwner⟩

/- Only administrators see the plan of somebody else. -/
theorem discreet_ownerRoute
    {base : String}
    {verifier : Token.Verifier}
    {nanos : Int}
    {e e' : Exchange}
    (hAdmit : (ownerRoute base).vet verifier nanos e = .ok e')
    (hStranger : ¬ e.request.BearsOwner verifier nanos S.owner)
    (hReading :
      S.shown = true ∨
        ¬ ∃ claims, e.request.Bears verifier nanos claims ∧
          claims.role = "ADMIN" ∧ e.param "ownerId" = S.owner) :
    ((ownerRoute base).endpoint e').Discreet S (fun _ => True) := by
  rcases vet_required rfl hAdmit with
    ⟨claims, hBears, rfl, hCheck⟩
  refine discreet_showPlanOf ?_
  rcases hReading with hShown | hReading
  · exact Or.inl hShown
  · refine Or.inr ?_
    intro hOwner
    have hParam : e.param "ownerId" = S.owner := hOwner
    have hAllowed := hCheck _ rfl
    unfold Allowance.check at hAllowed
    simp only at hAllowed
    split at hAllowed
    · rename_i hRole
      exact hReading ⟨claims, hBears, by simpa using hRole, hParam⟩
    · split at hAllowed
      · rename_i hSelf
        simp only [Bool.true_and, Bool.and_eq_true, bne_iff_ne,
          beq_iff_eq] at hSelf
        exact hStranger ⟨claims, hBears, hSelf.2.symm.trans hOwner⟩
      · cases hAllowed

/- Every route keeps the secret from callers that are not the owner. -/
theorem endpoint_discreet
    {base : String}
    {dependencies : List Dependency}
    (hProbes : ∀ d ∈ dependencies, d.2.Aside)
    {route : Route}
    (hRoute : route ∈ apiRoutes base dependencies)
    {verifier : Token.Verifier}
    {nanos : Int}
    {e e' : Exchange}
    (hAdmit : route.vet verifier nanos e = .ok e')
    (hStranger : ¬ e.request.BearsOwner verifier nanos S.owner)
    (hNamed : S.shown = true ∨ e.param "id" = S.named)
    (hReading :
      S.shown = true ∨
        ¬ ∃ claims, route = ownerRoute base ∧
          e.request.Bears verifier nanos claims ∧
          claims.role = "ADMIN" ∧ e.param "ownerId" = S.owner) :
    (route.endpoint e').Discreet S (fun _ => True) := by
  rcases List.mem_append.mp hRoute with hOthers | hAdmin
  · rcases List.mem_append.mp hOthers with hService | hPlans
    · simp only [serviceRoutes, List.mem_cons, List.not_mem_nil,
        or_false] at hService
      rcases hService with rfl | rfl | rfl
      · exact Discreet.pure trivial
      · exact discreet_showReadiness (e := e') hProbes
      · exact discreet_showMetrics
    · simp only [planRoutes, List.mem_cons, List.not_mem_nil,
        or_false] at hPlans
      rcases hPlans with
        rfl | rfl | rfl | rfl | rfl | rfl | rfl | rfl | rfl
      · exact discreet_of_required rfl
          (fun _ hCaller _ => discreet_createPlan hCaller)
          hAdmit hStranger hNamed
      · exact discreet_of_required rfl
          (fun _ hCaller _ => discreet_showPlanOf (Or.inr hCaller))
          hAdmit hStranger hNamed
      · exact discreet_of_required rfl
          (fun _ hCaller hId => discreet_listItems hId hCaller)
          hAdmit hStranger hNamed
      · exact discreet_of_required rfl
          (fun _ hCaller hId => discreet_changeItem hId hCaller)
          hAdmit hStranger hNamed
      · exact discreet_of_required rfl
          (fun _ hCaller hId => discreet_showWeekdays hId hCaller)
          hAdmit hStranger hNamed
      · exact discreet_of_required rfl
          (fun _ hCaller hId => discreet_changeWeekdays hId hCaller)
          hAdmit hStranger hNamed
      · exact discreet_of_required rfl
          (fun _ hCaller hId => discreet_redate hId hCaller)
          hAdmit hStranger hNamed
      · exact discreet_of_required rfl
          (fun _ hCaller hId => discreet_download hId hCaller)
          hAdmit hStranger hNamed
      · exact discreet_of_required rfl
          (fun _ hCaller hId => discreet_removePlan hId hCaller)
          hAdmit hStranger hNamed
  · simp only [adminRoutes, List.mem_cons, List.not_mem_nil,
      or_false] at hAdmin
    rcases hAdmin with rfl | rfl
    · refine discreet_ownerRoute hAdmit hStranger ?_
      refine hReading.imp id ?_
      rintro hReading ⟨claims, hClaims⟩
      exact hReading ⟨claims, rfl, hClaims⟩
    · exact discreet_clearCatalog (e := e')

------------------------------------------------------------
-- Serving
------------------------------------------------------------

/- The plan that a request names in its path, if any. -/
def Site.namedPlan
    (site : Site)
    (r : Request) : String :=
  match findRoute? site.routes r.method r.target.path with
  | none => ""
  | some (_, params) => (params.lookup "id").getD ""

/-
  A request of an administrator is taken by the route on which
  the plans of owners are shown, and asks for that of an owner.
-/
def Site.ShownToAdministrator
    (site : Site)
    (base : String)
    (r : Request)
    (nanos : Int)
    (owner : String) : Prop :=
  ∃ params claims,
    findRoute? site.routes r.method r.target.path =
        some (ownerRoute base, params) ∧
      (params.lookup "ownerId").getD "" = owner ∧
      r.Bears site.verifier nanos claims ∧ claims.role = "ADMIN"

/- A route that is found is one of the routes. -/
theorem mem_of_findRoute?
    {routes : List Route}
    {method path : String}
    {route : Route}
    {params : List (String × String)}
    (h : findRoute? routes method path = some (route, params)) :
    route ∈ routes := by
  rcases List.exists_of_findSome?_eq_some h with
    ⟨other, hOther, hFits⟩
  split at hFits
  · rcases Option.map_eq_some_iff.mp hFits with ⟨found, _, hSame⟩
    cases hSame
    exact hOther
  · cases hFits

/- A route is dispatched to when its token is looked at. -/
theorem dispatch_discreetAt
    (site : Site)
    {route : Route}
    {e : Exchange}
    {w : World}
    (hEndpoint :
      ∀ e', route.vet site.verifier w.clock e = .ok e' →
        (route.endpoint e').Discreet S (fun _ => True)) :
    (site.dispatch route e).DiscreetAt S (fun _ => True) w := by
  apply (Discreet.of_aside Aside.stopwatch w).bind
  intro nanos v hStart _
  rcases (runs_stopwatch_iff _ _ _).mp hStart with ⟨hNanos, rfl⟩
  cases hNanos
  rw [Timestamp.instant_ofInstant]
  cases hAdmit : route.vet site.verifier w.clock e with
  | error f => exact Discreet.pure trivial _
  | ok e' =>
      refine Discreet.bind (P := fun _ => True) ?_ ?_ _
      · refine (Discreet.timed (P := fun _ => True) ?_)
        apply (hEndpoint e' hAdmit).attempt.bind
        intro o _
        cases o with
        | ok response => exact Discreet.pure trivial
        | error f => exact Discreet.pure trivial
      · rintro ⟨response, nanos⟩ _
        have hRecord :
            (recordSuccess route e' response.status nanos).Aside := by
          unfold recordSuccess
          split
          · exact Aside.pure ()
          · split
            · exact Aside.pure ()
            · exact Aside.logEntry _
        apply Discreet.aside_bind hRecord
        intro _
        exact Discreet.pure trivial

section Serving

variable {site : Site}
variable {base : String}
variable {dependencies : List Dependency}
variable (hRoutes : site.routes = apiRoutes base dependencies)
variable (hProbes : ∀ d ∈ dependencies, d.2.Aside)
variable (r : Request)
variable (hNamed : S.shown = true ∨ site.namedPlan r = S.named)

include hRoutes hProbes hNamed

/- A request is answered; its token is looked at a tick later. -/
theorem answer_discreetAt
    (requestId : String)
    {w : World}
    (hStranger :
      ¬ r.BearsOwner site.verifier (w.clock + clockTick) S.owner)
    (hReading :
      S.shown = true ∨
        ¬ site.ShownToAdministrator base r (w.clock + clockTick)
          S.owner) :
    (site.answer r requestId).DiscreetAt S (fun _ => True) w := by
  unfold Site.answer
  cases hFound : findRoute? site.routes r.method r.target.path with
  | none =>
      refine Discreet.bind (P := fun _ => True) ?_ ?_ w
      · exact Discreet.timed (P := fun _ => True)
          (Discreet.pure trivial)
      · rintro ⟨response, nanos⟩ _
        apply Discreet.aside_bind (Aside.measure _)
        intro _
        exact Discreet.pure trivial
  | some found =>
      rcases found with ⟨route, params⟩
      have hRoute : route ∈ apiRoutes base dependencies := by
        rw [← hRoutes]
        exact mem_of_findRoute? hFound
      have hName :
          site.namedPlan r = (params.lookup "id").getD "" := by
        unfold Site.namedPlan
        rw [hFound]
      rw [hName] at hNamed
      refine DiscreetAt.bind (P := fun _ => True) ?_ ?_
      · refine DiscreetAt.timed (P := fun _ => True) ?_
        apply dispatch_discreetAt
        intro e' hAdmit
        refine endpoint_discreet hProbes hRoute hAdmit hStranger
          hNamed ?_
        refine hReading.imp id ?_
        rintro hReading ⟨claims, rfl, hBears, hRole, hOwner⟩
        exact hReading ⟨params, claims, hFound, hOwner, hBears, hRole⟩
      · rintro ⟨response, nanos⟩ v _ _
        apply Discreet.aside_bind (Aside.measure _)
        intro _
        exact Discreet.pure trivial

/- A request is answered as its origin allows. -/
theorem answerOrigin_discreetAt
    (requestId : String)
    {w : World}
    (hStranger :
      ¬ r.BearsOwner site.verifier (w.clock + clockTick) S.owner)
    (hReading :
      S.shown = true ∨
        ¬ site.ShownToAdministrator base r (w.clock + clockTick)
          S.owner) :
    (site.answerOrigin r requestId).DiscreetAt S
      (fun _ => True) w := by
  unfold Site.answerOrigin
  simp only
  split
  · exact Discreet.pure trivial w
  · apply (answer_discreetAt hRoutes hProbes r hNamed requestId
      hStranger hReading).bind
    intro response v _ _
    exact Discreet.pure trivial v

/- A request is served; its token is looked at two ticks later. -/
theorem serve_discreetAt
    {w : World}
    (hStranger :
      ¬ r.BearsOwner site.verifier (w.clock + clockTick + clockTick)
        S.owner)
    (hReading :
      S.shown = true ∨
        ¬ site.ShownToAdministrator base r
          (w.clock + clockTick + clockTick) S.owner) :
    (site.serve r).DiscreetAt S (fun _ => True) w := by
  unfold Site.serve
  split
  · exact Discreet.pure trivial w
  have hAssign : (assignRequestId r).Aside := by
    unfold assignRequestId
    split
    · exact Aside.pure _
    · exact Aside.newId
  -- neither numbering nor labelling a request takes time
  have hClock :
      ∀ id v, (assignRequestId r).Runs w (.ok id) v →
        v.clock = w.clock := by
    intro id v hRun
    unfold assignRequestId at hRun
    split at hRun
    · rw [((runs_pure_iff _ _ _ _).mp hRun).2]
    · rw [((runs_newId_iff _ _ _).mp hRun).2]
  apply (Discreet.of_aside hAssign w).bind
  intro requestId v hRun _
  have hTime := hClock requestId v hRun
  apply (Discreet.modify_context
    (fun w => { w.context with requestId := requestId })
    (fun _ => rfl) v).bind
  intro _ u hModify _
  rcases (runs_modify_iff _ _ _ _).mp hModify with ⟨_, rfl⟩
  rw [← hTime] at hStranger hReading
  have hAnswer :=
    answerOrigin_discreetAt hRoutes hProbes r hNamed requestId
      (w := { v with
        context := { v.context with requestId := requestId }
        clock := v.clock + clockTick })
      hStranger hReading
  apply (DiscreetAt.timed hAnswer).bind
  rintro ⟨response, nanos⟩ x _ _
  apply Discreet.aside_bind (Aside.logEntry _)
  intro _
  exact Discreet.pure trivial

end Serving

------------------------------------------------------------
-- Privacy
------------------------------------------------------------

/- When the token of a request is looked at that comes now. -/
def admission (w : World) : Int :=
  w.clock + clockTick + clockTick

/-
  Whatever statements fail while a request is served: the rows
  of an owner change only if the request carries a valid token
  of the owner.  Only then, or if an administrator asks for
  the plan of the owner, does the response differ from the one
  that is given without these rows.  Jobs that the request
  leaves behind are recorded for the bearer of its token, and
  whenever such a job is done, it changes no rows of others.
-/
theorem serve_respects_owners
    (site : Site)
    (base : String)
    (dependencies : List Dependency)
    (hRoutes : site.routes = apiRoutes base dependencies)
    (hProbes : ∀ d ∈ dependencies, d.2.Aside)
    (r : Request)
    (w : World)
    (hOrderly : w.Orderly) :
    (∀ owner,
      ((site.serve r).after w).tables.rowsOf owner ≠
        w.tables.rowsOf owner →
      r.BearsOwner site.verifier (admission w) owner) ∧
    (∀ owner,
      (site.serve r).outcome w ≠
        (site.serve r).outcome
          (w.concealing owner (site.namedPlan r)) →
      r.BearsOwner site.verifier (admission w) owner ∨
        site.ShownToAdministrator base r (admission w) owner) ∧
    ∃ created,
      ((site.serve r).after w).jobs = w.jobs ++ created ∧
      ∀ job ∈ created,
        r.BearsOwner site.verifier (admission w) job.ownerId ∧
        ∀ v : World, v.Orderly → ∀ owner, job.ownerId ≠ owner →
          ((Service.handleDateJob job).after v).tables.rowsOf owner =
            v.tables.rowsOf owner := by
  have hRun := runs_outcome_after (site.serve r) w
  -- rows that may be shown are left alone all the same
  have hGuarded :
      ∀ owner, ¬ r.BearsOwner site.verifier (admission w) owner →
        (w.secret owner "" true).Guarded ((site.serve r).after w) := by
    intro owner hStranger
    have hServe :
        (site.serve r).DiscreetAt (w.secret owner "" true)
          (fun _ => True) w :=
      serve_discreetAt hRoutes hProbes r (Or.inl rfl) hStranger
        (Or.inl rfl)
    exact (hServe (hOrderly.guarded owner "" true) _ _ hRun).1
  refine ⟨?_, ?_, ?_⟩
  · intro owner hChanged
    by_contra hStranger
    exact hChanged (hGuarded owner hStranger).store.tables.rowsOf
  · intro owner hSeen
    by_contra hNeither
    rcases not_or.mp hNeither with ⟨hStranger, hReading⟩
    have hServe :
        (site.serve r).DiscreetAt
          (w.secret owner (site.namedPlan r) false)
          (fun _ => True) w :=
      serve_discreetAt hRoutes hProbes r (Or.inr rfl) hStranger
        (Or.inr hReading)
    rcases hServe (hOrderly.guarded owner _ false) _ _ hRun with
      ⟨_, hVeiled, _⟩
    rw [hOrderly.veiled] at hVeiled
    exact hSeen hVeiled.outcome_eq.symm
  · -- of two owners at least one is not the bearer
    have hSomebody :
        ∃ owner,
          ¬ r.BearsOwner site.verifier (admission w) owner := by
      by_contra hNobody
      have hAll :
          ∀ owner, r.BearsOwner site.verifier (admission w) owner := by
        intro owner
        by_contra hStranger
        exact hNobody ⟨owner, hStranger⟩
      rcases hAll "a" with ⟨c, hc, hOwner⟩
      rcases hAll "b" with ⟨d, hd, hOther⟩
      rw [hc.unique hd, hOther] at hOwner
      exact absurd hOwner (by decide)
    rcases hSomebody with ⟨somebody, hStranger⟩
    rcases (hGuarded somebody hStranger).jobs with
      ⟨created, hJobs, _⟩
    refine ⟨created, hJobs, ?_⟩
    intro job hJob
    constructor
    · by_contra hOther
      rcases (hGuarded job.ownerId hOther).jobs with
        ⟨others, hOthers, hApart⟩
      have hSame : w.jobs ++ created = w.jobs ++ others :=
        hJobs.symm.trans hOthers
      rw [List.append_cancel_left hSame] at hJob
      exact hApart job hJob rfl
    · intro v hv owner hOwner
      exact Service.rowsOf_handleDateJob hv hOwner

/- A site that depends on the cache. -/
def sampleSite : Site :=
  { verifier := { secret := "k", issuer := "" }
    routes := apiRoutes "" [("redis", Cache.ping)] }

/- A request with a token of one owner, to delete the owner's plan. -/
def sampleRemoval : Request :=
  { method := "DELETE"
    target :=
      { path := "/study-plans/" ++ idOfNumber 1
        rawQuery := "", query := [] }
    headers :=
      [("Authorization",
        "Bearer eyJhbGciOiJIUzI1NiJ9." ++ "eyJ1c2VyX2lkIjoiYW5uIn0." ++
          "_ES0TMMNLiI0CslUIQACAQF55AhfjXWN1vEdaigiFCI")] }

/- It changes the rows of this owner, and of no other. -/
theorem serve_respects_owners_removal :
    ((sampleSite.serve sampleRemoval).after
        (Service.sampleWorld [])).tables.rowsOf "ann" ≠
      (Service.sampleWorld []).tables.rowsOf "ann" ∧
    sampleRemoval.BearsOwner sampleSite.verifier
      (admission (Service.sampleWorld [])) "ann" ∧
    ((sampleSite.serve sampleRemoval).after
        (Service.sampleWorld [])).tables.rowsOf "bob" =
      (Service.sampleWorld []).tables.rowsOf "bob" := by
  have hOrderly : (Service.sampleWorld []).Orderly :=
    ⟨by decide, by decide, Service.sampleWorld_fresh [], rfl, rfl⟩
  have hProbes :
      ∀ d ∈ [(("redis", Cache.ping) : Dependency)], d.2.Aside := by
    intro d hd
    rw [List.mem_singleton.mp hd]
    exact Cache.ping_aside
  have hServed :=
    serve_respects_owners sampleSite "" [("redis", Cache.ping)] rfl
      hProbes sampleRemoval (Service.sampleWorld []) hOrderly
  have hChanged :
      ((sampleSite.serve sampleRemoval).after
          (Service.sampleWorld [])).tables.rowsOf "ann" ≠
        (Service.sampleWorld []).tables.rowsOf "ann" := by
    intro hSame
    have hPlans := congrArg (fun rows => rows.plans.length) hSame
    revert hPlans
    decide +kernel
  have hAnn := hServed.1 "ann" hChanged
  refine ⟨hChanged, hAnn, ?_⟩
  by_contra hOther
  rcases hAnn with ⟨c, hc, hOwner⟩
  rcases hServed.1 "bob" hOther with ⟨d, hd, hBob⟩
  rw [hc.unique hd, hBob] at hOwner
  exact absurd hOwner (by decide)

end Http

end Timetable
