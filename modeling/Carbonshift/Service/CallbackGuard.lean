import Carbonshift.Library.AddressBlocks
import Carbonshift.Service.Barrier
import Carbonshift.Service.RecordWrites

/-!
# Where callbacks are sent

The destination of a callback is checked once, when the request is submitted,
and is used when its executor has called back.
-/

namespace Carbonshift

/-! ## Internal addresses -/

/-- The loopback, private, link-local and unspecified addresses. -/
def internalIpv4Blocks : List (AddressBlock 32) :=
  [⟨0x7f000000, 8⟩, ⟨0x0a000000, 8⟩, ⟨0xac100000, 12⟩, ⟨0xc0a80000, 16⟩,
    ⟨0xa9fe0000, 16⟩, ⟨0, 32⟩]

/-- The loopback and the unspecified address. -/
def localIpv6Blocks : List (AddressBlock 128) :=
  [⟨1, 128⟩, ⟨0, 128⟩]

/-- The unique local and the link-local addresses. -/
def siteIpv6Blocks : List (AddressBlock 128) :=
  [⟨0xfc000000000000000000000000000000, 7⟩,
    ⟨0xfe800000000000000000000000000000, 10⟩]

/-- The IPv4 addresses within IPv6. -/
def mappedIpv4Block : AddressBlock 128 :=
  ⟨0xffff00000000, 96⟩

open AddressBlock in
/-- An IPv6 address of this site, or one that stands for an internal IPv4
address. -/
def isSiteIpv6 (address : BitVec 128) : Bool :=
  covers siteIpv6Blocks address ||
    (mappedIpv4Block.contains address &&
      covers internalIpv4Blocks (address.setWidth 32))

namespace UrlHost

open AddressBlock

/-- The host is an address inside the network of the service. -/
def isInternal : UrlHost → Bool
  | .domain _ => false
  | .ipv4 address => covers internalIpv4Blocks address
  | .ipv6 address => covers localIpv6Blocks address || isSiteIpv6 address

/-- The host is an IPv6 address of this site. -/
def isSite : UrlHost → Bool
  | .ipv6 address => isSiteIpv6 address
  | _ => false

end UrlHost

/-! ## The check -/

/-- The octet test agrees with the blocks. -/
theorem isPrivateIpv4_eq_covers (address : BitVec 32) :
    isPrivateIpv4 address =
      AddressBlock.covers internalIpv4Blocks address := by
  have bounded := address.isLt
  have zero : (address == 0) = decide (address.toNat = 0) := by
    rw [Bool.beq_eq_decide_eq, decide_eq_decide, ← BitVec.toNat_inj]
    rfl
  rw [Bool.eq_iff_iff]
  simp only [isPrivateIpv4, octet, zero, internalIpv4Blocks,
    AddressBlock.covers_cons, AddressBlock.covers_nil, AddressBlock.contains,
    AddressBlock.size, Nat.shiftRight_eq_div_pow, Bool.or_eq_true,
    Bool.and_eq_true, beq_iff_eq, decide_eq_true_eq, Bool.false_eq_true,
    BitVec.reduceToNat, Nat.reduceSub, Nat.reduceMul, Nat.reducePow,
    Nat.reduceDiv, Nat.div_one, or_false]
  omega

theorem isPrivateIpv6_eq_covers (address : BitVec 128) :
    isPrivateIpv6 address = AddressBlock.covers localIpv6Blocks address := by
  rw [Bool.eq_iff_iff]
  simp only [isPrivateIpv6, localIpv6Blocks, AddressBlock.covers_cons,
    AddressBlock.covers_nil, Bool.or_eq_true, beq_iff_eq,
    AddressBlock.contains_iff_eq, Bool.false_eq_true, or_false]

/-- The check misses the IPv6 addresses of the site, and no others. -/
theorem UrlHost.isInternal_eq (host : UrlHost) :
    host.isInternal = (host.isPrivate || host.isSite) := by
  cases host with
  | domain name => rfl
  | ipv4 address =>
      simp only [isInternal, isPrivate, isSite, isPrivateIpv4_eq_covers,
        Bool.or_false]
  | ipv6 address =>
      rw [isInternal, isPrivate, isSite, isPrivateIpv6_eq_covers]

theorem UrlHost.isPrivate_of_isSite (host : UrlHost)
    (site : host.isSite = true) : host.isPrivate = false := by
  cases host with
  | domain name => rfl
  | ipv4 address => cases site
  | ipv6 address =>
      rw [isPrivate, isPrivateIpv6, Bool.or_eq_false_iff, beq_eq_false_iff_ne,
        beq_eq_false_iff_ne]
      constructor
      · rintro rfl
        revert site
        decide
      · rintro rfl
        revert site
        decide

/-- A web URL whose host, if it is an address, lies outside. -/
structure Url.LeadsOutside (url : Url) : Prop where
  scheme : url.scheme = "http" ∨ url.scheme = "https"
  host : ∀ host, url.host = some host → host.isInternal = false

/-- A web URL whose host is an IPv6 address of this site. -/
structure Url.NamesSite (url : Url) : Prop where
  scheme : url.scheme = "http" ∨ url.scheme = "https"
  host : ∃ host, url.host = some host ∧ host.isSite = true

/-- The text is such a URL. -/
def LeadsOutside (runtime : ServiceRuntime) (raw : String) : Prop :=
  ∃ url, runtime.parseUrl raw = .ok url ∧ url.LeadsOutside

theorem validateCallbackUrl_eq_ok_iff
    {runtime : ServiceRuntime} {raw : String} :
    validateCallbackUrl runtime raw false = .ok () ↔
      ∃ url, runtime.parseUrl raw = .ok url ∧
        (url.scheme = "http" ∨ url.scheme = "https") ∧
          ∀ host, url.host = some host → host.isPrivate = false := by
  unfold validateCallbackUrl
  cases parsed : runtime.parseUrl raw with
  | error message => simp
  | ok url =>
      have any_iff : url.host.any UrlHost.isPrivate = false ↔
          ∀ host, url.host = some host → host.isPrivate = false := by
        cases url.host with
        | none => simp
        | some host => simp
      simp only [Except.ok.injEq, exists_eq_left', ← any_iff, ne_eq, true_and]
      by_cases web : url.scheme = "http" ∨ url.scheme = "https"
      · rw [if_neg (by tauto)]
        cases url.host.any UrlHost.isPrivate <;> simp [web]
      · rw [if_pos (by tauto)]
        simp [web]

/-- An accepted URL leads outside, or names an address of the site. -/
theorem leadsOutside_of_validateCallbackUrl
    {runtime : ServiceRuntime} {raw : String}
    (accepted : validateCallbackUrl runtime raw false = .ok ())
    (elsewhere : ∀ url, runtime.parseUrl raw = .ok url → ¬ url.NamesSite) :
    LeadsOutside runtime raw := by
  obtain ⟨url, parsed, web, checked⟩ :=
    validateCallbackUrl_eq_ok_iff.mp accepted
  refine ⟨url, parsed, web, fun host named => ?_⟩
  have outside : host.isSite = false := by
    by_contra site
    exact elsewhere url parsed
      ⟨web, host, named, eq_true_of_ne_false site⟩
  rw [UrlHost.isInternal_eq, checked host named, outside]
  rfl

/-- No address of the site is refused. -/
theorem validateCallbackUrl_of_namesSite
    {runtime : ServiceRuntime} {raw : String} {url : Url}
    (parsed : runtime.parseUrl raw = .ok url) (site : url.NamesSite) :
    validateCallbackUrl runtime raw false = .ok () ∧
      ¬ LeadsOutside runtime raw := by
  obtain ⟨host, named, isSite⟩ := site.host
  constructor
  · refine validateCallbackUrl_eq_ok_iff.mpr
      ⟨url, parsed, site.scheme, fun other same => ?_⟩
    rw [named, Option.some.injEq] at same
    rw [← same]
    exact host.isPrivate_of_isSite isSite
  · rintro ⟨other, same, outside⟩
    rw [parsed, Except.ok.injEq] at same
    subst same
    have internal := outside.host host named
    rw [UrlHost.isInternal_eq, isSite, Bool.or_true] at internal
    cases internal

/-- An accepted submission has passed the check of its URL. -/
theorem validateCallbackUrl_of_validateSubmission
    {settings : ServiceSettings} {runtime : ServiceRuntime}
    {registry : QosProfileRegistry} {body : SubmitRequestPayload}
    {profile : QosProfile} {raw : String}
    (validated : validateSubmission settings runtime registry body =
      .ok profile)
    (named : body.callbackUrl = some raw) :
    validateCallbackUrl runtime raw settings.service.allowPrivateCallbacks =
      .ok () := by
  unfold validateSubmission at validated
  rw [named, Option.map_some] at validated
  cases checked : validateCallbackUrl runtime raw
      settings.service.allowPrivateCallbacks with
  | ok done => rfl
  | error message =>
      rw [checked] at validated
      dsimp only at validated
      split at validated <;> cases validated

/-! ## The destinations in a run -/

namespace Service

variable {σ : Type} {settings : ServiceSettings}
variable {numerics : NumericRuntime σ} {runtime : ServiceRuntime}
variable {service next : Service σ} {action : Action}

/-- The callback URL of a submission. -/
def Action.callbackUrl : Action → Option String
  | .submit body => body.callbackUrl
  | _ => none

/-- Every destination that the service knows of meets a condition. -/
structure Destinations (meets : String → Prop) (service : Service σ) :
    Prop where
  submitted : ∀ {handlerId submission phase raw},
    service.handlers.lookup handlerId = some (.submit submission phase) →
    submission.body.callbackUrl = some raw → meets raw
  tracked : ∀ {requestId tracked raw},
    service.app.tracked.lookup requestId = some tracked →
    tracked.callbackUrl = some raw → meets raw
  forwarded : ∀ {handlerId requestId body raw payload},
    service.handlers.lookup handlerId =
      some (.callback requestId body (.answered (.ok (some (raw, payload))))) →
    meets raw

/-- No update of a record changes its destination. -/
theorem callbackUrl_of_recordWrite {tracked after : TrackedRequest}
    (write : RecordWrite settings tracked after) :
    after.callbackUrl = tracked.callbackUrl := by
  cases write with
  | same => rfl
  | marked =>
      rw [TrackedRequest.markScheduled]
      split <;> rfl
  | status status error =>
      rw [TrackedRequest.setStatus]
      split <;> rfl
  | failure now error =>
      unfold TrackedRequest.recordFailure
      dsimp only
      split
      · rfl
      · split <;> rfl

/-- A step of the engine moves no handler. -/
private theorem handlers_of_engineStep {performed : Engine.Action}
    (taken : engineStep settings numerics service performed = some next) :
    next.handlers = service.handlers := by
  obtain ⟨engine, _, rfl⟩ := Option.map_eq_some_iff.mp taken
  rfl

/-- The main loop moves no handler. -/
private theorem handlers_of_loopStep {move : LoopMove}
    (taken : loopStep settings numerics service move = some next) :
    next.handlers = service.handlers := by
  cases move with
  | storeSlot =>
      simp only [loopStep] at taken
      split at taken
      · obtain ⟨stored, acted, rfl⟩ := Option.map_eq_some_iff.mp taken
        have same : stored.handlers = service.handlers :=
          handlers_of_engineStep acted
        exact same
      · cases taken
  | selectProfile flush =>
      simp only [loopStep] at taken
      split at taken
      · exact handlers_of_engineStep taken
      · cases taken
  | _ =>
      simp only [loopStep] at taken
      split at taken <;> cases taken
      rfl

/-- The handler is the one that the action starts. -/
inductive Starts (settings : ServiceSettings) (runtime : ServiceRuntime)
    (registry : QosProfileRegistry) : Action → Handler → Prop where
  | submit {body : SubmitRequestPayload} {profile : QosProfile}
      {submission : Submission}
      (valid : validateSubmission settings runtime registry body = .ok profile)
      (own : submission.body = body) :
      Starts settings runtime registry (.submit body)
        (.submit submission .received)
  | callback {requestId : ℕ} {body : ExecutorCallbackPayload} :
      Starts settings runtime registry (.callback requestId body)
        (.callback requestId body .claimed)
  | advance {body : AdvanceSlotBody} {slot : ℤ} :
      Starts settings runtime registry (.advanceSlot body)
        (.advance body (.received slot))
  | close {body : CloseSlotBody} {engineSlot : ℤ} :
      Starts settings runtime registry (.closeSlot body)
        (.close body (.translated engineSlot))

/-- Everything a step can do to one handler. -/
inductive HandlerEffect (settings : ServiceSettings)
    (runtime : ServiceRuntime) (service : Service σ) (action : Action)
    (handlerId : ℕ) : Handler → Prop where
  | kept {handler : Handler}
      (before : service.handlers.lookup handlerId = some handler) :
      HandlerEffect settings runtime service action handlerId handler
  | moved {earlier handler : Handler} {choice : HandlerChoice}
      {app : AppState σ}
      (before : service.handlers.lookup handlerId = some earlier)
      (performed : handlerStep settings runtime service choice earlier =
        some (handler, app)) :
      HandlerEffect settings runtime service action handlerId handler
  | started {handler : Handler} (fresh : handlerId = service.started)
      (starts : Starts settings runtime service.app.qosProfiles action
        handler) :
      HandlerEffect settings runtime service action handlerId handler

private theorem handlerEffect_of_start {handlerId : ℕ}
    {first handler : Handler} {app : AppState σ}
    (starts : Starts settings runtime service.app.qosProfiles action first)
    (found : (service.start first app).handlers.lookup handlerId =
      some handler) :
    HandlerEffect settings runtime service action handlerId handler := by
  by_cases fresh : handlerId = service.started
  · rw [start, fresh, AList.lookup_insert] at found
    cases found
    exact .started fresh starts
  · rw [start, AList.lookup_insert_ne fresh] at found
    exact .kept found

theorem handlerEffect_of_step
    (taken : Service.step settings numerics runtime service action = some next)
    {handlerId : ℕ} {handler : Handler}
    (found : next.handlers.lookup handlerId = some handler) :
    HandlerEffect settings runtime service action handlerId handler := by
  cases action with
  | registerProfile profile =>
      simp only [Service.step] at taken
      split at taken <;> cases taken <;> exact .kept found
  | replaceCapacityTiers tiers =>
      simp only [Service.step] at taken
      split at taken
      · cases taken
        exact .kept found
      · rw [handlers_of_engineStep taken] at found
        exact .kept found
  | submit body =>
      simp only [Service.step, AppState.receiveSubmission] at taken
      cases validated : validateSubmission settings runtime
          service.app.qosProfiles body with
      | error error =>
          rw [validated] at taken
          cases taken
          exact .kept found
      | ok profile =>
          rw [validated] at taken
          cases taken
          exact handlerEffect_of_start (.submit validated rfl) found
  | callback requestId body =>
      simp only [Service.step] at taken
      split at taken <;> cases taken
      · exact .kept found
      · exact .kept found
      · exact handlerEffect_of_start .callback found
  | advanceSlot body =>
      simp only [Service.step] at taken
      split at taken <;> cases taken
      · exact .kept found
      · exact handlerEffect_of_start .advance found
  | closeSlot body =>
      simp only [Service.step] at taken
      split at taken <;> cases taken
      · exact .kept found
      · exact handlerEffect_of_start .close found
  | handle moving choice =>
      obtain ⟨earlier, before, stepped⟩ := Option.bind_eq_some_iff.mp taken
      obtain ⟨⟨after, app⟩, performed, rfl⟩ := Option.map_eq_some_iff.mp stepped
      by_cases own : handlerId = moving
      · subst own
        rw [AList.lookup_insert] at found
        cases found
        exact .moved before performed
      · rw [AList.lookup_insert_ne own] at found
        exact .kept found
  | loop move =>
      rw [handlers_of_loopStep taken] at found
      exact .kept found
  | claimBatch =>
      rw [handlers_of_engineStep taken] at found
      exact .kept found
  | work workerId move =>
      rw [handlers_of_engineStep taken] at found
      exact .kept found
  | release workerId =>
      rw [handlers_of_engineStep taken] at found
      exact .kept found
  | dispatch choice =>
      cases taken
      exact .kept found

/-- A submission was there before, or has just passed its checks. -/
theorem submission_of_step
    (taken : Service.step settings numerics runtime service action = some next)
    {handlerId : ℕ} {submission : Submission} {phase : SubmitPhase}
    (found : next.handlers.lookup handlerId =
      some (.submit submission phase)) :
    (∃ before, service.handlers.lookup handlerId =
        some (.submit submission before)) ∨
      (action = .submit submission.body ∧
        ∃ profile, validateSubmission settings runtime service.app.qosProfiles
          submission.body = .ok profile) := by
  cases handlerEffect_of_step taken found with
  | kept before => exact Or.inl ⟨phase, before⟩
  | moved before performed =>
      obtain ⟨earlier, _, rfl⟩ := handlerStep_submit_inv performed
      exact Or.inl ⟨earlier, before⟩
  | started _ starts =>
      cases starts with
      | submit valid own =>
          subst own
          exact Or.inr ⟨rfl, _, valid⟩

/-- A callback was there before, or has just arrived. -/
theorem callback_of_step
    (taken : Service.step settings numerics runtime service action = some next)
    {handlerId requestId : ℕ} {body : ExecutorCallbackPayload}
    {phase : CallbackPhase}
    (found : next.handlers.lookup handlerId =
      some (.callback requestId body phase)) :
    (∃ before, service.handlers.lookup handlerId =
        some (.callback requestId body before)) ∨
      (handlerId = service.started ∧ action = .callback requestId body) := by
  cases handlerEffect_of_step taken found with
  | kept before => exact Or.inl ⟨phase, before⟩
  | moved before performed =>
      obtain ⟨earlier, _, rfl⟩ := handlerStep_callback_inv performed
      exact Or.inl ⟨earlier, before⟩
  | started fresh starts =>
      cases starts with
      | callback => exact Or.inr ⟨fresh, rfl⟩

/-- An update that keeps the destination of every record keeps that of each. -/
private theorem callbackUrl_of_adjust
    {table : Dictionary ℕ TrackedRequest} {requestId other : ℕ}
    {update : TrackedRequest → TrackedRequest}
    (keeps : ∀ record, (update record).callbackUrl = record.callbackUrl)
    {tracked : TrackedRequest}
    (found : (table.adjust other update).lookup requestId = some tracked) :
    ∃ before, table.lookup requestId = some before ∧
      tracked.callbackUrl = before.callbackUrl := by
  by_cases here : requestId = other
  · subst here
    rw [Dictionary.lookup_adjust_self] at found
    obtain ⟨before, recorded, rfl⟩ := Option.map_eq_some_iff.mp found
    exact ⟨before, recorded, keeps before⟩
  · rw [Dictionary.lookup_adjust_of_ne here] at found
    exact ⟨tracked, found, rfl⟩

/-- A record has the destination it had, or that of its submission. -/
theorem callbackUrl_of_step
    (effect : StepEffect settings numerics runtime service action next)
    {requestId : ℕ} {tracked : TrackedRequest}
    (found : next.app.tracked.lookup requestId = some tracked) :
    (∃ before, service.app.tracked.lookup requestId = some before ∧
        tracked.callbackUrl = before.callbackUrl) ∨
      ∃ handlerId submission phase,
        service.handlers.lookup handlerId =
            some (.submit submission phase) ∧
          tracked.callbackUrl = submission.body.callbackUrl := by
  cases effect with
  | background _ records =>
      rw [records.tracked_eq] at found
      exact Or.inl ⟨tracked, found, rfl⟩
  | started arrival =>
      cases arrival with
      | callback _ _ =>
          have kept : ∀ record : TrackedRequest,
              record.claimCallback.callbackUrl = record.callbackUrl :=
            fun _ => rfl
          exact Or.inl (callbackUrl_of_adjust kept found)
      | submit => exact Or.inl ⟨tracked, found, rfl⟩
      | advance _ => exact Or.inl ⟨tracked, found, rfl⟩
      | close _ => exact Or.inl ⟨tracked, found, rfl⟩
  | @handled handlerId handler choice moved present taken =>
      cases handler with
      | submit submission phase =>
          obtain ⟨after, stepped, rfl⟩ := Option.map_eq_some_iff.mp taken
          have effect := AppState.submitStep_effect stepped
          generalize after.1 = reached, after.2 = app at effect found
          cases effect with
          | quiet _ records _ =>
              rw [records.tracked_eq] at found
              exact Or.inl ⟨tracked, found, rfl⟩
          | recorded =>
              by_cases own : requestId = submission.requestId
              · rw [own, AList.lookup_insert] at found
                cases found
                exact Or.inr ⟨handlerId, submission, _, present, rfl⟩
              · rw [AList.lookup_insert_ne own] at found
                exact Or.inl ⟨tracked, found, rfl⟩
          | marked =>
              exact Or.inl (callbackUrl_of_adjust
                (fun tracked => callbackUrl_of_recordWrite
                  (.marked : RecordWrite settings tracked _)) found)
          | _ => exact Or.inl ⟨tracked, found, rfl⟩
      | callback calledId body phase =>
          obtain ⟨after, stepped, rfl⟩ := Option.map_eq_some_iff.mp taken
          have effect := AppState.callbackStep_effect stepped
          generalize after.2 = app at effect found
          cases effect with
          | @finished cost baseline =>
              have kept : ∀ record : TrackedRequest,
                  (record.finishCallback body cost baseline).callbackUrl =
                    record.callbackUrl :=
                fun _ => rfl
              exact Or.inl (callbackUrl_of_adjust kept found)
          | _ => exact Or.inl ⟨tracked, found, rfl⟩
      | advance body phase =>
          obtain ⟨after, stepped, rfl⟩ := Option.map_eq_some_iff.mp taken
          rw [(AppState.advanceStep_effect stepped).1.tracked_eq] at found
          exact Or.inl ⟨tracked, found, rfl⟩
      | close body phase =>
          obtain ⟨after, stepped, rfl⟩ := Option.map_eq_some_iff.mp taken
          rw [(AppState.closeStep_effect stepped).keeps.2.1] at found
          exact Or.inl ⟨tracked, found, rfl⟩
  | @dispatched choice =>
      have kept : requestId ∈ service.app.tracked := by
        have member := Dictionary.mem_of_lookup found
        rcases dispatcherStep_tracked settings runtime choice service.app
          service.dispatcher with same | ⟨other, update, _, same⟩
        · rwa [same] at member
        · rwa [same, AppState.adjustTracked, Dictionary.mem_adjust_iff]
            at member
      obtain ⟨before, recorded⟩ := AList.lookup_isSome.mpr kept
        |> Option.isSome_iff_exists.mp
      obtain ⟨after, followed, write⟩ := AppState.dispatcherStep_writes settings
        runtime choice service.app service.dispatcher recorded
      rw [found, Option.some.injEq] at followed
      rw [followed]
      exact Or.inl ⟨before, recorded, callbackUrl_of_recordWrite write⟩

/-- What a callback forwards goes to the destination of its record. -/
theorem callbackUrl_of_forwarded
    (effect : StepEffect settings numerics runtime service action next)
    {handlerId requestId : ℕ} {body : ExecutorCallbackPayload} {raw : String}
    {payload : CallerCallbackPayload}
    (found : next.handlers.lookup handlerId =
      some (.callback requestId body (.answered (.ok (some (raw, payload)))))) :
    service.handlers.lookup handlerId =
        some (.callback requestId body
          (.answered (.ok (some (raw, payload))))) ∨
      ∃ tracked, service.app.tracked.lookup requestId = some tracked ∧
        tracked.callbackUrl = some raw := by
  cases effect.handlerHistory found with
  | arrived fresh arrival => cases arrival
  | waited before => exact Or.inl before
  | moved before taken =>
      obtain ⟨earlier, stepped, rfl⟩ := handlerStep_callback_inv taken
      cases earlier with
      | arrivalRead actualCarbonCost arrivalActual =>
          simp only [AppState.callbackStep] at stepped
          split at stepped
          · cases stepped
          · rename_i tracked recorded
            simp only [Option.some.injEq, Prod.mk.injEq,
              CallbackPhase.answered.injEq, Except.ok.injEq,
              Option.map_eq_some_iff] at stepped
            obtain ⟨⟨url, named, same, _⟩, _⟩ := stepped
            exact Or.inr ⟨tracked, recorded, same ▸ named⟩
      | _ =>
          simp only [AppState.callbackStep] at stepped
          try split at stepped
          all_goals cases stepped

namespace Destinations

variable {meets : String → Prop}

theorem new (settings : ServiceSettings) (carbonForecast : List ℚ)
    (startedAt : ℤ) :
    Destinations meets
      (Service.new settings carbonForecast startedAt : Service σ) := by
  refine ⟨fun found => ?_, fun found => ?_, fun found => ?_⟩
  · exact absurd (found.symm.trans (AList.lookup_empty _)) nofun
  · exact absurd (found.symm.trans (AList.lookup_empty _)) nofun
  · exact absurd (found.symm.trans (AList.lookup_empty _)) nofun

/-- What every accepted submission meets, every destination meets. -/
theorem step
    (destinations : Destinations meets service)
    (accepted : ∀ raw, action.callbackUrl = some raw →
      validateCallbackUrl runtime raw settings.service.allowPrivateCallbacks =
        .ok () → meets raw)
    (taken : Service.step settings numerics runtime service action =
      some next) :
    Destinations meets next := by
  have effect := step_effect taken
  refine ⟨?_, ?_, ?_⟩
  · intro handlerId submission phase raw found named
    rcases submission_of_step taken found with
      ⟨before, there⟩ | ⟨submits, profile, validated⟩
    · exact destinations.submitted there named
    · refine accepted raw (by rw [submits]; exact named) ?_
      exact validateCallbackUrl_of_validateSubmission validated named
  · intro requestId tracked raw found named
    rcases callbackUrl_of_step effect found with
      ⟨before, recorded, same⟩ | ⟨handlerId, submission, phase, there, same⟩
    · exact destinations.tracked recorded (same ▸ named)
    · exact destinations.submitted there (same ▸ named)
  · intro handlerId requestId body raw payload found
    rcases callbackUrl_of_forwarded effect found with
      there | ⟨tracked, recorded, named⟩
    · exact destinations.forwarded there
    · exact destinations.tracked recorded named

end Destinations

/-- The submission names an IPv6 address of the site. -/
def Action.NamesSite (runtime : ServiceRuntime) (action : Action) : Prop :=
  ∃ raw url, action.callbackUrl = some raw ∧
    runtime.parseUrl raw = .ok url ∧ url.NamesSite

/-- No callback leads inside unless a submission names an IPv6 address of the
site. -/
theorem callbacks_lead_outside
    (settings : ServiceSettings) (numerics : NumericRuntime σ)
    (runtime : ServiceRuntime) (carbonForecast : List ℚ) (startedAt : ℤ)
    (actions : List Action) (final : Service σ)
    (guarded : settings.service.allowPrivateCallbacks = false)
    (elsewhere : ∀ action ∈ actions, ¬ action.NamesSite runtime)
    (reached : Transition.run (Service.step settings numerics runtime)
      (Service.new settings carbonForecast startedAt) actions =
        some final) :
    Destinations (LeadsOutside runtime) final := by
  refine Transition.run_induction
    (fun history state => (∀ action ∈ history, action ∈ actions) →
      Destinations (LeadsOutside runtime) state)
    (fun _ => .new settings carbonForecast startedAt) ?_ reached fun _ => id
  intro history state action next before taken within
  refine (before fun earlier member => within earlier
    (List.mem_append_left _ member)).step (fun raw named accepted => ?_) taken
  rw [guarded] at accepted
  refine leadsOutside_of_validateCallbackUrl accepted fun url parsed site => ?_
  have performed : action ∈ actions :=
    within action (List.mem_append_right _ (List.mem_singleton_self action))
  exact elsewhere action performed ⟨raw, url, named, parsed, site⟩

/-! ## Two destinations -/

/-- A runtime that parses the two URLs below. -/
def literalHosts : ServiceRuntime :=
  { AppState.epochOnly with
    parseUrl raw :=
      if raw = "http://93.184.216.34/done" then
        .ok ⟨"http", some (.ipv4 0x5db8d822)⟩
      else if raw = "http://[::ffff:10.0.0.1]/done" then
        .ok ⟨"http", some (.ipv6 0xffff0a000001)⟩
      else
        .error "relative URL without a base" }

/-- A request with a callback URL is admitted and called back. -/
def calledBackAt (raw : String) : List Action :=
  .submit { plainRequest 0 with callbackUrl := some raw } ::
    handleTimes 0 5 ++
      .callback 1 ⟨true, .object [], none⟩ :: handleTimes 1 4

/-- Where the callback of the second handler was forwarded to. -/
def forwardedTo (service : Service σ) : Option String :=
  match service.handlers.lookup 1 with
  | some (.callback _ _ (.answered (.ok (some (raw, _))))) => some raw
  | _ => none

private theorem forwarded_of_forwardedTo {raw : String}
    (forwards : forwardedTo service = some raw) :
    ∃ requestId body payload,
      service.handlers.lookup 1 =
        some (.callback requestId body
          (.answered (.ok (some (raw, payload))))) := by
  unfold forwardedTo at forwards
  split at forwards
  · rename_i requestId body destination payload found
    cases forwards
    exact ⟨requestId, body, payload, found⟩
  · cases forwards

private theorem callbackUrl_of_calledBackAt {raw destination : String}
    (performed : action ∈ calledBackAt raw)
    (named : action.callbackUrl = some destination) : destination = raw := by
  have handles : ∀ handlerId steps, action ∉ handleTimes handlerId steps := by
    intro handlerId steps member
    rw [List.eq_of_mem_replicate member] at named
    cases named
  rcases List.mem_append.mp performed with first | second
  · rcases List.mem_cons.mp first with rfl | member
    · cases named
      rfl
    · exact absurd member (handles 0 5)
  · rcases List.mem_cons.mp second with rfl | member
    · cases named
    · exact absurd member (handles 1 4)

/-- A callback to an outside address is forwarded there. -/
theorem outside_callback_leads_outside :
    ∃ final : Service Unit,
      Transition.run (Service.step executorSettings .least literalHosts)
          (Service.new executorSettings [1, 2, 2, 2] 0)
          (calledBackAt "http://93.184.216.34/done") = some final ∧
        forwardedTo final = some "http://93.184.216.34/done" ∧
        Destinations (LeadsOutside literalHosts) final := by
  have computed :
      (Transition.run (Service.step executorSettings .least literalHosts)
          (Service.new executorSettings [1, 2, 2, 2] 0)
          (calledBackAt "http://93.184.216.34/done")).map forwardedTo =
        some (some "http://93.184.216.34/done") := by
    decide +kernel
  obtain ⟨final, reached, forwards⟩ := Option.map_eq_some_iff.mp computed
  refine ⟨final, reached, forwards, ?_⟩
  refine callbacks_lead_outside executorSettings .least literalHosts
    [1, 2, 2, 2] 0 _ final rfl ?_ reached
  rintro action performed ⟨raw, url, named, parsed, site⟩
  rw [callbackUrl_of_calledBackAt performed named] at parsed
  cases parsed
  obtain ⟨host, same, isSite⟩ := site.host
  cases same
  cases isSite

/-- A callback to a private address in its IPv6 form is forwarded. -/
theorem mapped_callback_leads_inside :
    ¬ ∀ (settings : ServiceSettings) (numerics : NumericRuntime Unit)
        (runtime : ServiceRuntime) (carbonForecast : List ℚ) (startedAt : ℤ)
        (actions : List Action) (final : Service Unit),
      settings.service.allowPrivateCallbacks = false →
      Transition.run (Service.step settings numerics runtime)
          (Service.new settings carbonForecast startedAt) actions =
        some final →
      Destinations (LeadsOutside runtime) final := by
  intro outside
  have computed :
      (Transition.run (Service.step executorSettings .least literalHosts)
          (Service.new executorSettings [1, 2, 2, 2] 0)
          (calledBackAt "http://[::ffff:10.0.0.1]/done")).map forwardedTo =
        some (some "http://[::ffff:10.0.0.1]/done") := by
    decide +kernel
  obtain ⟨final, reached, forwards⟩ := Option.map_eq_some_iff.mp computed
  obtain ⟨requestId, body, payload, found⟩ :=
    forwarded_of_forwardedTo forwards
  obtain ⟨url, parsed, leads⟩ :=
    (outside executorSettings .least literalHosts [1, 2, 2, 2] 0 _ final rfl
      reached).forwarded found
  cases parsed
  have internal := leads.host _ rfl
  revert internal
  decide

end Service

end Carbonshift
