import Carbonshift.Library.Transition
import Carbonshift.Provider.ClockMessages

/-!
# The clocks during a rollover

While a rollover is under way, every clock that has been told shows the slot
that was entered, and every other clock the slot before it.
-/

namespace Carbonshift

namespace Provider

/-! ## Who has been told -/

/-- The peer has confirmed the slot, heard or unheard. -/
def told (pending : List Peer) (unheard : Bool) (peer : Peer) : Bool :=
  !decide (peer ∈ pending) || (unheard && decide (pending.head? = some peer))

/-- The slot that a clock shows while the others are being told. -/
def shownSlot (slot : ℤ) (pending : List Peer) (unheard : Bool)
    (peer : Peer) : ℤ :=
  if told pending unheard peer then slot else slot - 1

section Shown

variable {slot : ℤ} {pending rest : List Peer} {unheard : Bool}
variable {peer other : Peer}

theorem shownSlot_of_absent (absent : peer ∉ pending) :
    shownSlot slot pending unheard peer = slot := by
  rw [shownSlot, told, decide_eq_false absent]
  rfl

theorem shownSlot_of_waiting (waits : peer ∈ pending) :
    shownSlot slot pending false peer = slot - 1 := by
  rw [shownSlot, told, decide_eq_true waits]
  rfl

theorem shownSlot_head : shownSlot slot (peer :: rest) true peer = slot := by
  rw [shownSlot, told, List.head?_cons, decide_eq_true rfl, Bool.true_and,
    Bool.or_true, if_pos rfl]

/-- The others do not depend on what became of the post in progress. -/
theorem shownSlot_of_ne (another : other ≠ peer) :
    shownSlot slot (peer :: rest) unheard other =
      shownSlot slot rest false other := by
  have behind : ¬ some peer = some other := fun same =>
    another (Option.some.inj same).symm
  have members : decide (other ∈ peer :: rest) = decide (other ∈ rest) := by
    rw [decide_eq_decide, List.mem_cons]
    exact or_iff_right another
  rw [shownSlot, shownSlot, told, told, List.head?_cons,
    decide_eq_false behind, members, Bool.and_false, Bool.false_and]

end Shown

namespace Deployment

variable {σ : Type} {setup : Setup}

/-- The slot of the provider. -/
def slot (deployment : Deployment setup σ) : ℤ :=
  deployment.provider.globals.clock.currentSlot

/-- The provider has reported all peers ok for the rollover into its slot. -/
def ReportedOk (deployment : Deployment setup σ) : Prop :=
  ∃ id response, (id, .advanced response) ∈ deployment.provider.answered ∧
    response.allOk = true ∧ response.currentSlot = deployment.slot

/-- CarbonShift is in the provider's slot, up to the fixed offset, and the
executor's time is the start of that slot. -/
structure InStep (setup : Setup) (slot : ℤ) (carbonshift : AppState σ)
    (executor : Executor.VirtualClock) : Prop where
  carbonshift : carbonshift.AtSlot slot
  executor : ExecutorAt setup.provider slot executor

/-- A rollover that was reported all ok has left the clocks in step. -/
def Consistent (deployment : Deployment setup σ) : Prop :=
  deployment.ReportedOk →
    InStep setup deployment.slot deployment.carbonshift deployment.executor

/-- The main loop is about to store another slot than that of the clock: a
rollover has moved the engine since the loop has read it. -/
def storesStale (deployment : Deployment setup σ) : Bool :=
  deployment.loopReading.any fun elapsedMs =>
    decide (slotOfClock setup.carbonshift elapsedMs ≠
      slotOfClock setup.carbonshift deployment.carbonshift.virtualElapsedMs)

/-- A rollover does not reach a clock that has confirmed it before, nor an
engine without a next slot, and the main loop stores no stale slot. -/
def permits (deployment : Deployment setup σ) : Action σ → Bool
  | .post fate =>
      match nextPost setup deployment with
      | some (peer, .tick body) =>
          if fate.delivers && body.kind ≠ "announce" then
            match peer.destination with
            | .carbonshift =>
                !deployment.confirmedUnheard &&
                  deployment.carbonshift.hasNextSlot setup.carbonshift
            | .executor => !deployment.confirmedUnheard
            | _ => true
          else
            true
      | _ => true
  | .storeSlot => !deployment.storesStale
  | _ => true

/-- The clocks while the peers are told of a slot. -/
structure Entering (setup : Setup) (slot : ℤ) (pending : List Peer)
    (unheard : Bool) (carbonshift : AppState σ)
    (executor : Executor.VirtualClock) : Prop where
  carbonshift : carbonshift.AtSlot
    (shownSlot slot pending unheard (carbonshiftPeer setup.provider))
  executor : ExecutorAt setup.provider
    (shownSlot slot pending unheard (executorPeer setup.provider)) executor

/-- The counter of CarbonShift is at a boundary, and the executor's slots are
as long as the provider's. -/
structure Clocked (setup : Setup) (carbonshift : AppState σ)
    (executor : Executor.VirtualClock) : Prop where
  ticking : carbonshift.Ticking setup.carbonshift
  sameLength : HasExecutor setup.provider →
    timedelta executor.slotMinutes = setup.provider.grid.delta

section Rollover

variable {slot : ℤ} {peer : Peer} {rest : List Peer}
variable {carbonshift : AppState σ} {executor : Executor.VirtualClock}

/-- The peer is heard, so it is the turn of the next one. -/
theorem Entering.heard
    (entering : Entering setup slot (peer :: rest) true carbonshift executor)
    (distinct : (peer :: rest).Nodup) :
    Entering setup slot rest false carbonshift executor := by
  have shown : ∀ other,
      shownSlot slot (peer :: rest) true other =
        shownSlot slot rest false other := by
    intro other
    by_cases same : other = peer
    · rw [same, shownSlot_head,
        shownSlot_of_absent (List.nodup_cons.mp distinct).1]
    · exact shownSlot_of_ne same
  refine ⟨?_, ?_⟩
  · rw [← shown]
    exact entering.carbonshift
  · rw [← shown]
    exact entering.executor

/-- The peers are about to be told. -/
theorem Entering.first (here : carbonshift.AtSlot slot)
    (there : ExecutorAt setup.provider slot executor) {pending : List Peer}
    (everybody : ∀ peer ∈ peersFromSettings setup.provider, peer ∈ pending) :
    Entering setup (slot + 1) pending false carbonshift executor := by
  refine ⟨?_, fun present => ?_⟩
  · rw [shownSlot_of_waiting (everybody _ List.mem_cons_self),
      add_sub_cancel_right]
    exact here
  · rw [shownSlot_of_waiting (everybody _ present), add_sub_cancel_right]
    exact there present

variable {deployment : Deployment setup σ} {body : AdvanceSlotBody}
variable {reply : PostOutcome}

/-- CarbonShift enters the next slot. -/
theorem atSlot_of_accepts {after : AppState σ}
    (ticking : carbonshift.Ticking setup.carbonshift)
    (slots : WholeSlots setup.carbonshift)
    (behind : carbonshift.AtSlot (slot - 1))
    (more : carbonshift.hasNextSlot setup.carbonshift = true)
    {kind : String} (rolls : kind ≠ "announce")
    (accepts : AppState.Accepts setup.carbonshift kind slot carbonshift
      after) :
    after.AtSlot slot ∧ after.Ticking setup.carbonshift := by
  obtain ⟨offset, known, here⟩ := behind
  obtain ⟨slot_eq, elapsed_eq⟩ := accepts.entered rolls
  have nonneg := ticking.nonneg
  have below := of_decide_eq_true ((Bool.and_eq_true _ _).mp more).1
  obtain ⟨boundary, next⟩ := ticking.slotOfClock_nextBoundaryMs slots more
  rw [next] at slot_eq
  rw [boundary] at elapsed_eq
  have fixed : after.slotEpochOffset = some offset := by
    rw [accepts.offset, AppState.offsetFor, known, Option.getD_some]
  refine ⟨⟨offset, fixed, by omega⟩, ?_, ?_, ?_, ?_⟩
  · omega
  · omega
  · rw [slot_eq]
    exact elapsed_eq
  · intro other same
    rw [fixed] at same
    cases same
    exact ticking.offset offset known

/-- A refused rollover leaves CarbonShift where it is. -/
theorem atSlot_of_stays {after : AppState σ} {shown : ℤ}
    (ticking : carbonshift.Ticking setup.carbonshift)
    (here : carbonshift.AtSlot shown) (stays : carbonshift.Stays slot after) :
    after.AtSlot shown ∧ after.Ticking setup.carbonshift := by
  obtain ⟨offset, known, shows⟩ := here
  have fixed : after.slotEpochOffset = some offset := by
    rcases stays.offset with same | learned
    · rw [same, known]
    · rw [learned, AppState.offsetFor, known, Option.getD_some]
  have slot_eq := stays.currentSlot_eq
  refine ⟨⟨offset, fixed, slot_eq.trans shows⟩, ?_, ?_, ?_, ?_⟩
  · rw [slot_eq]
    exact ticking.nonneg
  · rw [slot_eq]
    exact ticking.inside
  · rw [stays.elapsed_eq, slot_eq]
    exact ticking.elapsed
  · intro other same
    rw [fixed] at same
    cases same
    exact ticking.offset offset known

/-- A rollover reaches its peer. -/
theorem Entering.handle
    (entering : Entering setup slot (peer :: rest) deployment.confirmedUnheard
      deployment.carbonshift deployment.executor)
    (clocked : Clocked setup deployment.carbonshift deployment.executor)
    (slots : WholeSlots setup.carbonshift)
    (listed : peer ∈ peersFromSettings setup.provider)
    (named : body.currentSlot = some slot) (rolls : body.kind ≠ "announce")
    (engine : peer.destination = .carbonshift →
      deployment.confirmedUnheard = false ∧
        deployment.carbonshift.hasNextSlot setup.carbonshift = true)
    (timer : peer.destination = .executor →
      deployment.confirmedUnheard = false) :
    (handle setup peer (.tick body) reply deployment).2.provider =
        deployment.provider ∧
      Clocked setup
        (handle setup peer (.tick body) reply deployment).2.carbonshift
        (handle setup peer (.tick body) reply deployment).2.executor ∧
      Entering setup slot (peer :: rest)
        (deployment.confirmedUnheard || acknowledges peer (.tick body)
          (handle setup peer (.tick body) reply deployment).1)
        (handle setup peer (.tick body) reply deployment).2.carbonshift
        (handle setup peer (.tick body) reply deployment).2.executor := by
  rcases mem_peers_cases listed with rfl | ⟨rfl, present⟩ | client
  · obtain ⟨heard, more⟩ := engine (destination_carbonshift _)
    have shown := entering.carbonshift
    rw [heard, shownSlot_of_waiting List.mem_cons_self] at shown
    have others := entering.executor
    rw [shownSlot_of_ne executor_ne_carbonshift] at others
    obtain ⟨after, state_eq, effect⟩ :=
      @handle_carbonshift σ setup deployment body reply slot named
    rw [state_eq, heard, Bool.false_or]
    rcases effect with ⟨silent, stays⟩ | ⟨confirms, accepts⟩
    · obtain ⟨here, ticks⟩ := atSlot_of_stays clocked.ticking shown stays
      refine ⟨rfl, ⟨ticks, clocked.sameLength⟩, ?_, ?_⟩
      · rw [silent, shownSlot_of_waiting List.mem_cons_self]
        exact here
      · rw [shownSlot_of_ne executor_ne_carbonshift]
        exact others
    · obtain ⟨here, ticks⟩ := atSlot_of_accepts clocked.ticking slots shown
        more rolls accepts
      refine ⟨rfl, ⟨ticks, clocked.sameLength⟩, ?_, ?_⟩
      · rw [confirms, shownSlot_head]
        exact here
      · rw [shownSlot_of_ne executor_ne_carbonshift]
        exact others
  · have heard := timer (destination_executor _)
    have shown := entering.executor present
    rw [heard, shownSlot_of_waiting List.mem_cons_self] at shown
    have others := entering.carbonshift
    rw [shownSlot_of_ne executor_ne_carbonshift.symm] at others
    obtain ⟨after, state_eq, length_eq, effect⟩ :=
      @handle_executor σ setup deployment body reply
    rw [state_eq, heard, Bool.false_or]
    refine ⟨rfl, ⟨clocked.ticking, fun _ => ?_⟩, ?_, fun _ => ?_⟩
    · rw [length_eq]
      exact clocked.sameLength present
    · rw [shownSlot_of_ne executor_ne_carbonshift.symm]
      exact others
    · rcases effect with ⟨silent, rfl⟩ | ⟨confirms, _, moves⟩
      · rw [silent, shownSlot_of_waiting List.mem_cons_self]
        exact shown
      · rw [confirms, shownSlot_head, moves rolls, shown,
          clocked.sameLength present, ← SlotGrid.slotStart_succ,
          sub_add_cancel]
  · rw [handle_client client]
    have ne_carbonshift : carbonshiftPeer setup.provider ≠ peer := by
      rintro rfl
      rw [destination_carbonshift] at client
      cases client
    have ne_executor : executorPeer setup.provider ≠ peer := by
      rintro rfl
      rw [destination_executor] at client
      cases client
    refine ⟨rfl, clocked, ?_, ?_⟩
    · have shown := entering.carbonshift
      rw [shownSlot_of_ne ne_carbonshift] at shown ⊢
      exact shown
    · have shown := entering.executor
      rw [shownSlot_of_ne ne_executor] at shown ⊢
      exact shown

/-- What the guard says about a rollover that reaches its peer. -/
theorem permitted_rollover {fate : Fate}
    (next : nextPost setup deployment = some (peer, .tick body))
    (rolls : body.kind ≠ "announce") (delivers : fate.delivers = true)
    (permitted : permits deployment (.post fate) = true) :
    (peer.destination = .carbonshift →
        deployment.confirmedUnheard = false ∧
          deployment.carbonshift.hasNextSlot setup.carbonshift = true) ∧
      (peer.destination = .executor → deployment.confirmedUnheard = false) := by
  rw [permits, next] at permitted
  dsimp only at permitted
  rw [delivers, decide_eq_true rolls, Bool.true_and, if_pos rfl] at permitted
  refine ⟨fun engine => ?_, fun timer => ?_⟩
  · rw [engine] at permitted
    obtain ⟨heard, more⟩ := (Bool.and_eq_true _ _).mp permitted
    exact ⟨by simpa using heard, more⟩
  · rw [timer] at permitted
    simpa using permitted

/-- A rollover is posted, whatever becomes of it. -/
theorem Entering.transmit
    (entering : Entering setup slot (peer :: rest) deployment.confirmedUnheard
      deployment.carbonshift deployment.executor)
    (clocked : Clocked setup deployment.carbonshift deployment.executor)
    (slots : WholeSlots setup.carbonshift)
    (listed : peer ∈ peersFromSettings setup.provider)
    (named : body.currentSlot = some slot) (rolls : body.kind ≠ "announce")
    (next : nextPost setup deployment = some (peer, .tick body)) {fate : Fate}
    (permitted : permits deployment (.post fate) = true) :
    Clocked setup
        (transmit setup peer (.tick body) fate deployment).2.1.carbonshift
        (transmit setup peer (.tick body) fate deployment).2.1.executor ∧
      Entering setup slot (peer :: rest)
        (deployment.confirmedUnheard ||
          (transmit setup peer (.tick body) fate deployment).2.2)
        (transmit setup peer (.tick body) fate deployment).2.1.carbonshift
        (transmit setup peer (.tick body) fate deployment).2.1.executor ∧
      (acknowledges peer (.tick body)
          (transmit setup peer (.tick body) fate deployment).1 = true →
        (transmit setup peer (.tick body) fate deployment).2.2 = true) := by
  cases fate with
  | requestLost text =>
      refine ⟨clocked, ?_, fun confirms => ?_⟩
      · change Entering setup slot (peer :: rest)
          (deployment.confirmedUnheard || false) deployment.carbonshift
            deployment.executor
        rw [Bool.or_false]
        exact entering
      · rw [Deployment.transmit, acknowledges_requestException] at confirms
        cases confirms
  | responseLost text =>
      obtain ⟨engine, timer⟩ := permitted_rollover next rolls rfl permitted
      obtain ⟨_, ticks, enters⟩ :=
        @Entering.handle σ setup slot peer rest deployment body
          (.response 200 (.ok .null)) entering clocked slots listed named rolls
            engine timer
      refine ⟨ticks, enters, fun confirms => ?_⟩
      rw [Deployment.transmit, acknowledges_requestException] at confirms
      cases confirms
  | answered reply =>
      obtain ⟨engine, timer⟩ := permitted_rollover next rolls rfl permitted
      obtain ⟨_, ticks, enters⟩ :=
        @Entering.handle σ setup slot peer rest deployment body reply entering
          clocked slots listed named rolls engine timer
      exact ⟨ticks, enters, fun confirms => confirms⟩

end Rollover

/-! ## Announcements -/

section Announcements

variable {deployment : Deployment setup σ} {reply : PostOutcome}

/-- The provider is not changed by what its peers do. -/
theorem provider_handle {peer : Peer} {message : Message} :
    (handle setup peer message reply deployment).2.provider =
      deployment.provider := by
  unfold handle
  split
  · split <;> rfl
  · split <;> rfl
  · rfl
  · rfl

theorem provider_transmit {peer : Peer} {message : Message} {fate : Fate} :
    (transmit setup peer message fate deployment).2.1.provider =
      deployment.provider := by
  cases fate with
  | requestLost text => rfl
  | responseLost text => exact provider_handle
  | answered reply => exact provider_handle

/-- What a peer does depends on its path only. -/
theorem state_handle_congr {peer other : Peer} {message : Message}
    (same : peer.destination = other.destination) :
    (handle setup peer message reply deployment).2 =
      (handle setup other message reply deployment).2 := by
  unfold handle
  rw [same]

/-- An announcement may set the executor's clock, and CarbonShift may learn its
offset. -/
structure Announced (setup : Setup) (slot : ℤ)
    (before after : Deployment setup σ) : Prop where
  stays : before.carbonshift.Stays slot after.carbonshift
  executor : after.executor = before.executor ∨
    (after.executor.virtualNow = setup.provider.grid.slotStart slot ∧
      after.executor.slotMinutes = before.executor.slotMinutes)

variable {clock : ProviderClock setup.provider.grid}

/-- The announcement of the provider's slot. -/
def announcement (setup : Setup) (clock : ProviderClock setup.provider.grid) :
    AdvanceSlotBody :=
  buildRolloverPayload setup.provider setup.source setup.iso "announce" clock

theorem handle_announcement (peer : Peer) :
    Announced setup clock.currentSlot deployment
      (handle setup peer (.tick (announcement setup clock)) reply
        deployment).2 := by
  cases destination : peer.destination with
  | carbonshift =>
      obtain ⟨after, state_eq, effect⟩ :=
        @handle_carbonshift σ setup deployment (announcement setup clock) reply
          clock.currentSlot rfl
      rw [state_handle_congr (destination.trans
        (destination_carbonshift setup.provider).symm), state_eq]
      refine ⟨?_, Or.inl rfl⟩
      rcases effect with ⟨_, stays⟩ | ⟨_, accepts⟩
      · exact stays
      · obtain ⟨slot_eq, elapsed_eq⟩ := accepts.announced rfl
        exact ⟨slot_eq, elapsed_eq, Or.inr accepts.offset⟩
  | executor =>
      obtain ⟨after, state_eq, length_eq, effect⟩ :=
        @handle_executor σ setup deployment (announcement setup clock) reply
      rw [state_handle_congr (destination.trans
        (destination_executor setup.provider).symm), state_eq]
      refine ⟨.refl _ _, ?_⟩
      rcases effect with ⟨_, same⟩ | ⟨_, sets, _⟩
      · exact Or.inl same
      · exact Or.inr ⟨sets rfl _ rfl, length_eq⟩
  | closing =>
      have same : (handle setup peer (.tick (announcement setup clock)) reply
          deployment).2 = deployment := by
        unfold handle
        rw [destination]
      rw [same]
      exact ⟨.refl _ _, Or.inl rfl⟩
  | client =>
      rw [handle_client destination]
      exact ⟨.refl _ _, Or.inl rfl⟩

theorem transmit_announcement (peer : Peer) (fate : Fate) :
    Announced setup clock.currentSlot deployment
      (transmit setup peer (.tick (announcement setup clock)) fate
        deployment).2.1 := by
  cases fate with
  | requestLost text => exact ⟨.refl _ _, Or.inl rfl⟩
  | responseLost text => exact handle_announcement peer
  | answered reply => exact handle_announcement peer

/-- The executor that is heard shows the slot. -/
theorem executorAt_of_acknowledged {fate : Fate}
    (confirms : acknowledges (executorPeer setup.provider)
      (.tick (announcement setup clock))
      (transmit setup (executorPeer setup.provider)
        (.tick (announcement setup clock)) fate deployment).1 = true) :
    ExecutorAt setup.provider clock.currentSlot
      (transmit setup (executorPeer setup.provider)
        (.tick (announcement setup clock)) fate deployment).2.1.executor := by
  intro _
  cases fate with
  | requestLost text =>
      rw [transmit, acknowledges_requestException] at confirms
      cases confirms
  | responseLost text =>
      rw [transmit, acknowledges_requestException] at confirms
      cases confirms
  | answered reply =>
      obtain ⟨after, state_eq, _, effect⟩ :=
        @handle_executor σ setup deployment (announcement setup clock) reply
      rw [transmit] at confirms ⊢
      dsimp only at confirms ⊢
      rw [state_eq]
      rcases effect with ⟨silent, _⟩ | ⟨_, sets, _⟩
      · rw [silent] at confirms
        cases confirms
      · exact sets rfl _ rfl

/-- The executor keeps the slot that was announced. -/
theorem Announced.executorAt {slot : ℤ} {before after : Deployment setup σ}
    (announced : Announced setup slot before after)
    (there : ExecutorAt setup.provider slot before.executor) :
    ExecutorAt setup.provider slot after.executor := by
  intro present
  rcases announced.executor with same | ⟨sets, _⟩
  · rw [same]
    exact there present
  · exact sets

end Announcements

end Deployment

end Provider

end Carbonshift
