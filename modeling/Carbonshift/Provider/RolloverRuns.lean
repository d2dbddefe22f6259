import Carbonshift.Provider.RolloverAgreement

/-!
# Rollovers in every run

What holds between two posts, for every pattern of lost requests and lost
responses that does not tell a clock twice.
-/

namespace Carbonshift

namespace Provider

namespace Deployment

variable {σ : Type} {setup : Setup}

/-! ## The invariant -/

/-- Where the request that holds the lock is, and what the clocks show. -/
inductive Doing (setup : Setup) (clock : ProviderClock setup.provider.grid)
    (answered : List (ℕ × AdvanceAnswer)) (carbonshift : AppState σ)
    (executor : Executor.VirtualClock) (unheard : Bool) (advance : Advance) :
    Prop where
  | consumers
      (stage : Preparing setup.provider setup.source setup.iso clock advance)
      (named : advance.stage = .announceConsumers)
      (first : clock.localStep = 0)
      (asks : HasExecutor setup.provider →
        executorPeer setup.provider ∈ advance.fanout.pending ∨
          executor.virtualNow =
            setup.provider.grid.slotStart clock.currentSlot)
  | producers (results : List DeliveryResult)
      (stage : Preparing setup.provider setup.source setup.iso clock advance)
      (named : advance.stage = .announceProducers results)
      (first : clock.localStep = 0)
      (there : ExecutorAt setup.provider clock.currentSlot executor)
  | close (results : List DeliveryResult)
      (stage : Preparing setup.provider setup.source setup.iso clock advance)
      (named : advance.stage = .close results)
      (follows : carbonshift.AtSlot clock.currentSlot →
        ExecutorAt setup.provider clock.currentSlot executor)
  | rolling
      (stage : Rolling setup.provider setup.source setup.iso clock advance)
      (listed : ∀ peer ∈ advance.fanout.pending,
        peer ∈ peersFromSettings setup.provider)
      (distinct : advance.fanout.pending.Nodup)
      (entering : Entering setup clock.currentSlot advance.fanout.pending
        unheard carbonshift executor)
      (unreported : ∀ id response, (id, .advanced response) ∈ answered →
        response.currentSlot < clock.currentSlot)

/-- CarbonShift is not ahead of the provider, which starts no earlier than its
offset can count. -/
structure Behind (setup : Setup) (slot : ℤ) (carbonshift : AppState σ)
    (executor : Executor.VirtualClock) : Prop where
  clocked : Clocked setup carbonshift executor
  low : -2 ^ 31 ≤ slot
  unknown : carbonshift.slotEpochOffset = none → carbonshift.currentSlot = 0
  notAhead : ∀ offset, carbonshift.slotEpochOffset = some offset →
    carbonshift.currentSlot ≤ slot - offset

/-- What holds between two posts. -/
structure Coupled (deployment : Deployment setup σ) : Prop where
  behind : Behind setup deployment.slot deployment.carbonshift
    deployment.executor
  reported : ∀ id response,
    (id, .advanced response) ∈ deployment.provider.answered →
      response.currentSlot ≤ deployment.slot
  consistent : deployment.Consistent
  follows : deployment.provider.holder = none →
    deployment.provider.globals.desynced = none →
      deployment.provider.globals.clock.localStep ≠ 0 →
        deployment.carbonshift.AtSlot deployment.slot →
          ExecutorAt setup.provider deployment.slot deployment.executor
  held : ∀ id advance, deployment.provider.holder = some (id, advance) →
    deployment.provider.globals.desynced = none ∧
      advance.request.notifyPeers = true ∧
        Doing setup deployment.provider.globals.clock
          deployment.provider.answered deployment.carbonshift
          deployment.executor deployment.confirmedUnheard advance

section Behind

variable {slot : ℤ} {carbonshift after : AppState σ}
variable {executor : Executor.VirtualClock}

/-- The provider goes on alone. -/
theorem Behind.succ (behind : Behind setup slot carbonshift executor) :
    Behind setup (slot + 1) carbonshift executor where
  clocked := behind.clocked
  low := by
    have low := behind.low
    omega
  unknown := behind.unknown
  notAhead offset known := by
    have notAhead := behind.notAhead offset known
    omega

/-- A clock that is behind is not in the next slot. -/
theorem Behind.not_atSlot_succ
    (behind : Behind setup slot carbonshift executor) :
    ¬ carbonshift.AtSlot (slot + 1) := by
  rintro ⟨offset, known, here⟩
  have notAhead := behind.notAhead offset known
  omega

theorem Behind.of_entering {pending : List Peer} {unheard : Bool}
    (entering : Entering setup slot pending unheard carbonshift executor)
    (clocked : Clocked setup carbonshift executor) (low : -2 ^ 31 ≤ slot) :
    Behind setup slot carbonshift executor := by
  obtain ⟨offset, known, here⟩ := entering.carbonshift
  refine ⟨clocked, low, fun unknown => ?_, fun other same => ?_⟩
  · rw [known] at unknown
    cases unknown
  · rw [known] at same
    cases same
    rw [here, shownSlot]
    split <;> omega

theorem Behind.announced {before deployment : Deployment setup σ}
    (behind : Behind setup slot before.carbonshift before.executor)
    (announced : Announced setup slot before deployment) :
    Behind setup slot deployment.carbonshift deployment.executor := by
  have ticking := behind.clocked.ticking
  have slot_eq := announced.stays.currentSlot_eq
  have range : ∀ offset,
      before.carbonshift.offsetFor slot = offset →
        (-2 ^ 31 ≤ offset ∧ offset < 2 ^ 31) ∧
          before.carbonshift.currentSlot ≤ slot - offset := by
    intro offset learned
    cases known : before.carbonshift.slotEpochOffset with
    | none =>
        have start := behind.unknown known
        rw [AppState.offsetFor, known, Option.getD_none, start,
          sub_zero] at learned
        have bounds := AppState.toI32_range slot
        have below := AppState.toI32_le behind.low
        omega
    | some other =>
        rw [AppState.offsetFor, known, Option.getD_some] at learned
        subst learned
        exact ⟨ticking.offset other known, behind.notAhead other known⟩
  have fixed : ∀ offset,
      deployment.carbonshift.slotEpochOffset = some offset →
        (-2 ^ 31 ≤ offset ∧ offset < 2 ^ 31) ∧
          before.carbonshift.currentSlot ≤ slot - offset := by
    intro offset known
    rcases announced.stays.offset with same | learned
    · rw [same] at known
      exact ⟨ticking.offset offset known, behind.notAhead offset known⟩
    · rw [learned] at known
      exact range offset (Option.some.inj known)
  refine ⟨⟨⟨?_, ?_, ?_, fun offset known => (fixed offset known).1⟩, ?_⟩,
    behind.low, ?_, ?_⟩
  · rw [slot_eq]
    exact ticking.nonneg
  · rw [slot_eq]
    exact ticking.inside
  · rw [announced.stays.elapsed_eq, slot_eq]
    exact ticking.elapsed
  · intro present
    rcases announced.executor with same | ⟨_, length_eq⟩
    · rw [same]
      exact behind.clocked.sameLength present
    · rw [length_eq]
      exact behind.clocked.sameLength present
  · intro unknown
    rw [slot_eq]
    rcases announced.stays.offset with same | learned
    · rw [same] at unknown
      exact behind.unknown unknown
    · rw [learned] at unknown
      cases unknown
  · intro offset known
    rw [slot_eq]
    exact (fixed offset known).2

/-- An announcement leaves clocks that are in step in step. -/
theorem InStep.announced {before deployment : Deployment setup σ}
    (inStep : InStep setup slot before.carbonshift before.executor)
    (announced : Announced setup slot before deployment) :
    InStep setup slot deployment.carbonshift deployment.executor := by
  refine ⟨?_, announced.executorAt inStep.executor⟩
  obtain ⟨offset, known, here⟩ := inStep.carbonshift
  refine ⟨offset, ?_, announced.stays.currentSlot_eq.trans here⟩
  rcases announced.stays.offset with same | learned
  · rw [same, known]
  · rw [learned, AppState.offsetFor, known, Option.getD_some]

end Behind

/-! ## Steps of the provider -/

namespace Coupled

variable {deployment next : Deployment setup σ}

/-- What a handler has to leave behind. -/
theorem of_proceed {service : Service setup.provider.grid} {id : ℕ}
    {handled : Globals setup.provider.grid × Progress}
    {carbonshift : AppState σ} {executor : Executor.VirtualClock}
    {reading : Option ℕ} {unheard : Bool}
    (behind : Behind setup handled.1.clock.currentSlot carbonshift executor)
    (reported : ∀ other response,
      (other, .advanced response) ∈ service.answered →
        response.currentSlot ≤ handled.1.clock.currentSlot)
    (consistent : ∀ other response,
      (other, .advanced response) ∈ service.answered →
        response.allOk = true →
          response.currentSlot = handled.1.clock.currentSlot →
            InStep setup handled.1.clock.currentSlot carbonshift executor)
    (ends : ∀ answer, handled.2 = .answered answer →
      (handled.1.desynced = none → handled.1.clock.localStep ≠ 0 →
        carbonshift.AtSlot handled.1.clock.currentSlot →
          ExecutorAt setup.provider handled.1.clock.currentSlot executor) ∧
      ∀ response, answer = .advanced response →
        response.currentSlot = handled.1.clock.currentSlot ∧
          (response.allOk = true →
            InStep setup handled.1.clock.currentSlot carbonshift executor))
    (goes : ∀ advance, handled.2 = .posting advance →
      handled.1.desynced = none ∧ advance.request.notifyPeers = true ∧
        Doing setup handled.1.clock service.answered carbonshift executor
          unheard advance) :
    Coupled ({
      provider := Service.proceed setup.provider id handled service
      carbonshift := carbonshift
      executor := executor
      loopReading := reading
      confirmedUnheard := unheard } : Deployment setup σ) where
  behind := by
    rw [slot, Service.globals_proceed]
    exact behind
  reported other response member := by
    rw [slot, Service.globals_proceed]
    rcases Service.answered_proceed member with earlier | ⟨_, same⟩
    · exact reported other response earlier
    · exact ((ends _ same).2 response rfl).1.le
  consistent := by
    rintro ⟨other, response, member, ok, here⟩
    rw [slot, Service.globals_proceed] at here ⊢
    rcases Service.answered_proceed member with earlier | ⟨_, same⟩
    · exact consistent other response earlier ok here
    · exact ((ends _ same).2 response rfl).2 ok
  follows none_ := by
    rw [slot, Service.globals_proceed]
    cases progress : handled.2 with
    | posting advance =>
        rw [Service.proceed, progress] at none_
        cases none_
    | answered answer => exact (ends answer progress).1
  held other advance same := by
    obtain ⟨_, posts⟩ := Service.holder_proceed same
    have answered_eq : (Service.proceed setup.provider id handled
        service).answered = service.answered := by
      rw [Service.proceed, posts]
    rw [Service.globals_proceed, answered_eq]
    exact goes advance posts

/-- A quiet handler leaves the clock, and answers without a move. -/
theorem of_quiet {service : Service setup.provider.grid} {id : ℕ}
    {request : AdvanceRequest}
    {handled : Globals setup.provider.grid × Progress}
    {carbonshift : AppState σ} {executor : Executor.VirtualClock}
    {reading : Option ℕ} {unheard : Bool}
    (quiet : Quiet setup.source setup.iso request service.globals handled)
    (behind : Behind setup service.globals.clock.currentSlot carbonshift
      executor)
    (reported : ∀ other response,
      (other, .advanced response) ∈ service.answered →
        response.currentSlot ≤ service.globals.clock.currentSlot)
    (consistent : ∀ other response,
      (other, .advanced response) ∈ service.answered →
        response.allOk = true →
          response.currentSlot = service.globals.clock.currentSlot →
            InStep setup service.globals.clock.currentSlot carbonshift
              executor)
    (follows : service.globals.desynced = none →
      service.globals.clock.localStep ≠ 0 →
        carbonshift.AtSlot service.globals.clock.currentSlot →
          ExecutorAt setup.provider service.globals.clock.currentSlot executor)
    (goes : ∀ advance, handled.2 = .posting advance →
      service.globals.desynced = none ∧ advance.request.notifyPeers = true ∧
        Doing setup service.globals.clock service.answered carbonshift executor
          unheard advance) :
    Coupled ({
      provider := Service.proceed setup.provider id handled service
      carbonshift := carbonshift
      executor := executor
      loopReading := reading
      confirmedUnheard := unheard } : Deployment setup σ) := by
  refine .of_proceed ?_ ?_ ?_ ?_ ?_
  · rw [quiet.clock_eq]
    exact behind
  · rw [quiet.clock_eq]
    exact reported
  · rw [quiet.clock_eq]
    exact consistent
  · intro answer same
    rw [quiet.clock_eq, quiet.desynced_eq]
    refine ⟨follows, ?_⟩
    rintro response rfl
    cases quiet.answered _ same
  · rw [quiet.clock_eq, quiet.desynced_eq]
    exact goes

theorem consistent_answered (coupled : Coupled deployment) :
    ∀ other response,
      (other, .advanced response) ∈ deployment.provider.answered →
        response.allOk = true → response.currentSlot = deployment.slot →
          InStep setup deployment.slot deployment.carbonshift
            deployment.executor :=
  fun other response member ok here =>
    coupled.consistent ⟨other, response, member, ok, here⟩

/-- A new request waits. -/
theorem receive (coupled : Coupled deployment) (id : ℕ)
    (request : AdvanceRequest) :
    Coupled { deployment with
      provider := { deployment.provider with
        waiting := deployment.provider.waiting ++ [(id, request)] } } where
  behind := coupled.behind
  reported := coupled.reported
  consistent := coupled.consistent
  follows := coupled.follows
  held := coupled.held

/-- A request that notifies nobody moves the clock away from CarbonShift. -/
theorem enter_unnotified (coupled : Coupled deployment)
    (free : deployment.provider.holder = none) {id : ℕ}
    {request : AdvanceRequest} (silent : request.notifyPeers = false)
    (waiting : List (ℕ × AdvanceRequest)) (unheard : Bool) :
    Coupled ({
      provider := Service.proceed setup.provider id
        (begin setup.provider setup.source setup.iso request
          deployment.provider.globals)
        { deployment.provider with waiting := waiting }
      carbonshift := deployment.carbonshift
      executor := deployment.executor
      loopReading := deployment.loopReading
      confirmedUnheard := unheard } : Deployment setup σ) := by
  obtain ⟨answer, answered, desynced_eq, moved⟩ :=
    @begin_unnotified setup.provider setup.source setup.iso
      deployment.provider.globals request silent
  rcases moved with ⟨clock_eq, stays⟩ | ⟨clock_eq, response, same, notOk, after⟩
  · refine .of_proceed ?_ ?_ ?_ ?_ ?_
    · rw [clock_eq]
      exact coupled.behind
    · rw [clock_eq]
      exact coupled.reported
    · rw [clock_eq]
      exact coupled.consistent_answered
    · intro other ended
      rw [answered] at ended
      cases ended
      rw [clock_eq, desynced_eq]
      refine ⟨coupled.follows free, ?_⟩
      rintro response rfl
      cases stays
    · intro advance posts
      rw [answered] at posts
      cases posts
  · have behind := coupled.behind.succ
    refine .of_proceed ?_ ?_ ?_ ?_ ?_
    · rw [clock_eq, ProviderClock.currentSlot_advance]
      exact behind
    · intro other earlier member
      rw [clock_eq, ProviderClock.currentSlot_advance]
      have before : earlier.currentSlot ≤
          deployment.provider.globals.clock.currentSlot :=
        coupled.reported other earlier member
      omega
    · intro other earlier member _ here
      rw [clock_eq, ProviderClock.currentSlot_advance] at here
      have before : earlier.currentSlot ≤
          deployment.provider.globals.clock.currentSlot :=
        coupled.reported other earlier member
      omega
    · intro other ended
      rw [answered] at ended
      cases ended
      rw [clock_eq, ProviderClock.currentSlot_advance]
      refine ⟨fun _ _ here => ?_, ?_⟩
      · exact absurd here coupled.behind.not_atSlot_succ
      · intro given reports
        rw [same] at reports
        cases reports
        refine ⟨after, fun ok => ?_⟩
        rw [notOk] at ok
        cases ok
    · intro advance posts
      rw [answered] at posts
      cases posts

/-- A request that notifies the peers takes the lock. -/
theorem enter_notified (coupled : Coupled deployment)
    (free : deployment.provider.holder = none) {id : ℕ}
    {request : AdvanceRequest} (notifies : request.notifyPeers = true)
    (waiting : List (ℕ × AdvanceRequest)) (unheard : Bool) :
    Coupled ({
      provider := Service.proceed setup.provider id
        (begin setup.provider setup.source setup.iso request
          deployment.provider.globals)
        { deployment.provider with waiting := waiting }
      carbonshift := deployment.carbonshift
      executor := deployment.executor
      loopReading := deployment.loopReading
      confirmedUnheard := unheard } : Deployment setup σ) := by
  obtain ⟨quiet, checked⟩ := @begin_spec setup.provider setup.source setup.iso
    deployment.provider.globals request notifies
  have follows := coupled.follows free
  refine .of_quiet quiet coupled.behind coupled.reported
    coupled.consistent_answered follows ?_
  intro advance posts
  obtain ⟨request_eq, preparing⟩ := quiet.posting advance posts
  have synced := (checked advance posts).1
  refine ⟨synced, by rw [request_eq]; exact notifies, ?_⟩
  rcases begin_stage notifies posts with
    ⟨first, stage, pending⟩ | ⟨later, stage⟩
  · refine .consumers preparing stage first fun present => Or.inl ?_
    rw [pending]
    refine (List.perm_insertionSort _ _).mem_iff.mpr ?_
    exact List.mem_filter.mpr ⟨present, rfl⟩
  · exact .close [] preparing stage (follows synced later)

end Coupled

/-! ## Posts -/

/-- What a post leaves behind, apart from what the handler answers. -/
def posted (setup : Setup) (deployment : Deployment setup σ) (id : ℕ)
    (advance : Advance) (peer : Peer) (fate : Fate) : Deployment setup σ :=
  let sent := transmit setup peer advance.message fate deployment
  let provider := Service.proceed setup.provider id
    (resume setup.provider setup.source setup.iso advance sent.1
      deployment.provider.globals) deployment.provider
  { provider := provider
    carbonshift := sent.2.1.carbonshift
    executor := sent.2.1.executor
    loopReading := sent.2.1.loopReading
    confirmedUnheard :=
      retrying provider && (deployment.confirmedUnheard || sent.2.2) }

/-- Inversion of a post. -/
theorem post_cases {deployment next : Deployment setup σ} {fate : Fate}
    (taken : step setup deployment (.post fate) = some next) :
    ∃ id advance peer rest,
      deployment.provider.holder = some (id, advance) ∧
        advance.fanout.pending = peer :: rest ∧
          next = posted setup deployment id advance peer fate := by
  obtain ⟨⟨peer, message⟩, addressed, sent⟩ := Option.bind_eq_some_iff.mp taken
  rw [nextPost] at addressed
  split at addressed
  · cases addressed
  · rename_i id advance holding
    obtain ⟨first, headed, same⟩ := Option.map_eq_some_iff.mp addressed
    cases same
    obtain ⟨rest, pending⟩ := List.head?_eq_some_iff.mp headed
    refine ⟨id, advance, peer, rest, holding, pending, ?_⟩
    obtain ⟨after, moved, rfl⟩ := Option.map_eq_some_iff.mp sent
    obtain ⟨provider, handled, rfl⟩ := Option.map_eq_some_iff.mp moved
    rw [provider_transmit] at handled
    rw [Service.step, holding] at handled
    cases handled
    rfl

theorem nextPost_of_held {deployment : Deployment setup σ} {id : ℕ}
    {advance : Advance} {peer : Peer} {rest : List Peer}
    (holding : deployment.provider.holder = some (id, advance))
    (pending : advance.fanout.pending = peer :: rest) :
    nextPost setup deployment = some (peer, advance.message) := by
  rw [nextPost, holding]
  dsimp only
  rw [pending]
  rfl

/-- The close is posted, whatever becomes of it. -/
theorem transmit_close {deployment : Deployment setup σ}
    {payload : CloseSlotMessage} {fate : Fate}
    (ticking : deployment.carbonshift.Ticking setup.carbonshift) :
    (transmit setup (closePeer (carbonshiftPeer setup.provider))
        (.close payload) fate deployment).2.1 = deployment ∧
      (acknowledges (closePeer (carbonshiftPeer setup.provider))
          (.close payload)
          (transmit setup (closePeer (carbonshiftPeer setup.provider))
            (.close payload) fate deployment).1 = true →
        deployment.carbonshift.AtSlot payload.currentSlot) := by
  cases fate with
  | requestLost text =>
      refine ⟨rfl, fun confirms => ?_⟩
      rw [transmit, acknowledges_requestException] at confirms
      cases confirms
  | responseLost text =>
      refine ⟨(handle_close ticking).1, fun confirms => ?_⟩
      rw [transmit, acknowledges_requestException] at confirms
      cases confirms
  | answered reply => exact handle_close ticking

/-- A request that prepares the close. -/
theorem doing_of_preparing
    {clock : ProviderClock setup.provider.grid}
    {answered : List (ℕ × AdvanceAnswer)} {carbonshift : AppState σ}
    {executor : Executor.VirtualClock} {unheard : Bool} {advance : Advance}
    (stage : Preparing setup.provider setup.source setup.iso clock advance)
    (first : clock.localStep = 0)
    (asks : advance.stage = .announceConsumers → HasExecutor setup.provider →
      executorPeer setup.provider ∈ advance.fanout.pending ∨
        executor.virtualNow = setup.provider.grid.slotStart clock.currentSlot)
    (there : advance.stage ≠ .announceConsumers →
      ExecutorAt setup.provider clock.currentSlot executor) :
    Doing setup clock answered carbonshift executor unheard advance := by
  have copy := stage
  cases copy with
  | consumers open_ => exact .consumers stage rfl first (asks rfl)
  | producers results open_ =>
      refine .producers results stage rfl first (there ?_)
      intro same
      cases same
  | close results counted =>
      refine .close results stage rfl fun _ => there ?_
      intro same
      cases same

namespace Coupled

variable {deployment : Deployment setup σ} {id : ℕ} {advance : Advance}
variable {peer : Peer} {rest : List Peer} {fate : Fate}

/-- An announcement is posted. -/
theorem post_announcement (coupled : Coupled deployment)
    (synced : deployment.provider.globals.desynced = none)
    (notifies : advance.request.notifyPeers = true)
    (stage : Preparing setup.provider setup.source setup.iso
      deployment.provider.globals.clock advance)
    (message : advance.message =
      .tick (announcement setup deployment.provider.globals.clock))
    (first : deployment.provider.globals.clock.localStep = 0)
    (asks : ∀ next,
      (resume setup.provider setup.source setup.iso advance
        (transmit setup peer advance.message fate deployment).1
        deployment.provider.globals).2 = .posting next →
        (next.stage = .announceConsumers → HasExecutor setup.provider →
          executorPeer setup.provider ∈ next.fanout.pending ∨
            (transmit setup peer advance.message fate
              deployment).2.1.executor.virtualNow =
                setup.provider.grid.slotStart deployment.slot) ∧
          (next.stage ≠ .announceConsumers →
            ExecutorAt setup.provider deployment.slot
              (transmit setup peer advance.message fate
                deployment).2.1.executor)) :
    Coupled (posted setup deployment id advance peer fate) := by
  have announced : Announced setup deployment.slot deployment
      (transmit setup peer advance.message fate deployment).2.1 := by
    rw [message]
    exact transmit_announcement peer fate
  rcases @resume_preparing setup.provider setup.source setup.iso
      deployment.provider.globals advance
      (transmit setup peer advance.message fate deployment).1 stage
        notifies with
    quiet | ⟨⟨payload, _, closes, _⟩, _⟩
  · refine .of_quiet quiet (coupled.behind.announced announced)
      coupled.reported ?_ (fun _ later => absurd first later) ?_
    · intro other response member ok here
      exact (coupled.consistent_answered other response member ok
        here).announced announced
    · intro next posts
      obtain ⟨request_eq, preparing⟩ := quiet.posting next posts
      refine ⟨synced, by rw [request_eq]; exact notifies, ?_⟩
      obtain ⟨waits, there⟩ := asks next posts
      exact doing_of_preparing preparing first waits there
  · rw [message] at closes
    cases closes

/-- The first slot is announced to a consumer. -/
theorem post_consumers (coupled : Coupled deployment)
    (pending : advance.fanout.pending = peer :: rest)
    (synced : deployment.provider.globals.desynced = none)
    (notifies : advance.request.notifyPeers = true)
    (stage : Preparing setup.provider setup.source setup.iso
      deployment.provider.globals.clock advance)
    (named : advance.stage = .announceConsumers)
    (first : deployment.provider.globals.clock.localStep = 0)
    (asks : HasExecutor setup.provider →
      executorPeer setup.provider ∈ advance.fanout.pending ∨
        deployment.executor.virtualNow =
          setup.provider.grid.slotStart deployment.slot) :
    Coupled (posted setup deployment id advance peer fate) := by
  have message : advance.message =
      .tick (announcement setup deployment.provider.globals.clock) := by
    cases stage with
    | consumers open_ => rfl
    | producers results open_ => cases named
    | close results counted => cases named
  have open_ : advance.fanout.Open := by
    cases stage with
    | consumers open_ => exact open_
    | producers results open_ => exact open_
    | close results counted => cases named
  have announced : Announced setup deployment.slot deployment
      (transmit setup peer advance.message fate deployment).2.1 := by
    rw [message]
    exact transmit_announcement peer fate
  -- A consumer that is heard leaves the pending ones.
  have heard : acknowledges peer advance.message
      (transmit setup peer advance.message fate deployment).1 = true →
      HasExecutor setup.provider →
        executorPeer setup.provider ∈ rest ∨
          (transmit setup peer advance.message fate
            deployment).2.1.executor.virtualNow =
              setup.provider.grid.slotStart deployment.slot := by
    intro confirms present
    rcases asks present with waits | there
    · rw [pending] at waits
      rcases List.mem_cons.mp waits with same | waits
      · rw [← same, message] at confirms ⊢
        exact Or.inr (executorAt_of_acknowledged confirms present)
      · exact Or.inl waits
    · exact Or.inr (announced.executorAt (fun _ => there) present)
  refine coupled.post_announcement synced notifies stage message first ?_
  intro next posts
  obtain ⟨other, others, split, effect⟩ :=
    resume_consumers named open_ notifies posts
  rw [pending] at split
  obtain ⟨rfl, rfl⟩ := List.cons.inj split
  rcases effect with ⟨stays, same⟩ | ⟨confirms, rfl | ⟨stays, same⟩⟩
  · refine ⟨fun _ present => ?_, fun leaves => absurd stays leaves⟩
    rw [same]
    rcases asks present with waits | there
    · exact Or.inl waits
    · exact Or.inr (announced.executorAt (fun _ => there) present)
  · have there : ExecutorAt setup.provider deployment.slot
        (transmit setup peer advance.message fate deployment).2.1.executor := by
      intro present
      rcases heard confirms present with waits | there
      · exact absurd waits List.not_mem_nil
      · exact there
    exact ⟨fun _ present => Or.inr (there present), fun _ => there⟩
  · refine ⟨fun _ present => ?_, fun leaves => absurd stays leaves⟩
    rw [same]
    exact heard confirms present

/-- The first slot is announced to a client. -/
theorem post_producers (coupled : Coupled deployment)
    (synced : deployment.provider.globals.desynced = none)
    (notifies : advance.request.notifyPeers = true)
    (stage : Preparing setup.provider setup.source setup.iso
      deployment.provider.globals.clock advance)
    {results : List DeliveryResult}
    (named : advance.stage = .announceProducers results)
    (first : deployment.provider.globals.clock.localStep = 0)
    (there : ExecutorAt setup.provider deployment.slot deployment.executor) :
    Coupled (posted setup deployment id advance peer fate) := by
  have message : advance.message =
      .tick (announcement setup deployment.provider.globals.clock) := by
    cases stage with
    | consumers open_ => cases named
    | producers results open_ => rfl
    | close results counted => cases named
  have announced : Announced setup deployment.slot deployment
      (transmit setup peer advance.message fate deployment).2.1 := by
    rw [message]
    exact transmit_announcement peer fate
  refine coupled.post_announcement synced notifies stage message first ?_
  intro next _
  exact ⟨fun _ present => Or.inr (announced.executorAt there present),
    fun _ => announced.executorAt there⟩

end Coupled

end Deployment

end Provider

end Carbonshift
