import Carbonshift.Provider.Deployment
import Carbonshift.Provider.HandlerSteps

/-!
# What the clocks do with a message

An announcement may be repeated.  An accepted rollover moves a clock by one
slot each time it arrives, and a close is confirmed only in the right slot.
-/

namespace Carbonshift

namespace Provider

/-! ## The peers of the fan-out -/

section Peers

variable (settings : Settings)

/-- The executor is one of the peers. -/
def HasExecutor : Prop := executorPeer settings ∈ peersFromSettings settings

/-- The executor shows the start of a slot, if there is one. -/
def ExecutorAt (slot : ℤ) (executor : Executor.VirtualClock) : Prop :=
  HasExecutor settings → executor.virtualNow = settings.grid.slotStart slot

theorem destination_carbonshift :
    (carbonshiftPeer settings).destination = .carbonshift := rfl

theorem destination_closing :
    (closePeer (carbonshiftPeer settings)).destination = .closing := rfl

theorem destination_executor :
    (executorPeer settings).destination = .executor := rfl

theorem destination_client (firstOrder index : ℕ) (baseUrl : String) :
    (clientPeer firstOrder index baseUrl).destination = .client := rfl

variable {settings}

theorem executor_ne_carbonshift :
    executorPeer settings ≠ carbonshiftPeer settings := by
  intro same
  have destinations := congrArg Peer.destination same
  rw [destination_executor, destination_carbonshift] at destinations
  cases destinations

theorem mem_peers_cases {peer : Peer}
    (member : peer ∈ peersFromSettings settings) :
    peer = carbonshiftPeer settings ∨
      (peer = executorPeer settings ∧ HasExecutor settings) ∨
        peer.destination = .client := by
  have listed := member
  rw [peersFromSettings] at member
  rcases List.mem_append.mp member with consumer | producer
  · rw [consumersFromSettings] at consumer
    rcases List.mem_cons.mp consumer with same | optional
    · exact Or.inl same
    · split at optional
      · exact absurd optional List.not_mem_nil
      · have same := List.mem_singleton.mp optional
        exact Or.inr (Or.inl ⟨same, by rwa [HasExecutor, ← same]⟩)
  · obtain ⟨index, inside, rfl⟩ := List.mem_mapIdx.mp producer
    exact Or.inr (Or.inr (destination_client _ _ _))

/-- The peers are listed in the order of the policy. -/
theorem peers_increasing (settings : Settings) :
    (peersFromSettings settings).Pairwise fun first second =>
      first.order < second.order := by
  have clients : ∀ firstOrder,
      (settings.clientUrls.mapIdx (clientPeer firstOrder)).Pairwise
        fun first second => first.order < second.order := by
    intro firstOrder
    rw [List.pairwise_iff_getElem]
    intro first second insideFirst insideSecond less
    rw [List.getElem_mapIdx, List.getElem_mapIdx]
    change firstOrder + first * 10 < firstOrder + second * 10
    omega
  rw [peersFromSettings, consumersFromSettings]
  split
  · rw [List.pairwise_append]
    refine ⟨List.pairwise_singleton _ _, clients _, ?_⟩
    intro first consumer second producer
    obtain ⟨index, inside, rfl⟩ := List.mem_mapIdx.mp producer
    rw [List.mem_singleton.mp consumer]
    change 10 < 20 + index * 10
    omega
  · rw [List.pairwise_append]
    refine ⟨?_, clients _, ?_⟩
    · rw [List.pairwise_pair]
      change 10 < 20
      omega
    · intro first consumer second producer
      obtain ⟨index, inside, rfl⟩ := List.mem_mapIdx.mp producer
      rcases List.mem_cons.mp consumer with rfl | last
      · change 10 < 30 + index * 10
        omega
      · rw [List.mem_singleton.mp last]
        change 20 < 30 + index * 10
        omega

/-- Nobody is notified twice in one fan-out. -/
theorem nodup_notifyOrder (settings : Settings) :
    (notifyOrder (peersFromSettings settings)).Nodup := by
  rw [notifyOrder, (List.perm_insertionSort _ _).nodup_iff]
  refine (peers_increasing settings).imp ?_
  rintro first second less rfl
  exact lt_irrefl _ less

end Peers

/-! ## Acknowledgements -/

theorem acknowledges_requestException (peer : Peer) (message : Message)
    (text : String) :
    acknowledges peer message (.requestException text) = false := rfl

/-- An error answer confirms nothing. -/
theorem acknowledges_error {peer : Peer} {message : Message} {status : ℕ}
    {json : Except String Json} (failed : 300 ≤ status) :
    acknowledges peer message (.response status json) = false := by
  rw [acknowledges, decide_eq_false (by omega), Bool.false_and]

/-- Without a field to check, every success confirms. -/
theorem acknowledges_success {peer : Peer} {message : Message}
    {json : Except String Json} (unchecked : peer.ackSlotField = none) :
    acknowledges peer message (.response 200 json) = true := by
  rw [acknowledges, checkAcknowledgement, unchecked]
  rfl

namespace Deployment

variable {σ : Type} {setup : Setup} {deployment : Deployment setup σ}
variable {body : AdvanceSlotBody} {reply : PostOutcome} {slot : ℤ}

theorem acknowledges_carbonshiftError {peer : Peer} {message : Message}
    {error : ApiError} (blames : error.isClientError = true) :
    acknowledges peer message (carbonshiftError error) = false := by
  refine acknowledges_error ?_
  have status := (Bool.and_eq_true _ _).mp blames
  have high := of_decide_eq_true status.1
  omega

/-! ## CarbonShift -/

/-- CarbonShift confirms exactly the messages that it accepts. -/
theorem handle_carbonshift (named : body.currentSlot = some slot) :
    ∃ after,
      (handle setup (carbonshiftPeer setup.provider) (.tick body) reply
        deployment).2 = { deployment with carbonshift := after } ∧
      ((acknowledges (carbonshiftPeer setup.provider) (.tick body)
            (handle setup (carbonshiftPeer setup.provider) (.tick body) reply
              deployment).1 = false ∧
          deployment.carbonshift.Stays slot after) ∨
        (acknowledges (carbonshiftPeer setup.provider) (.tick body)
            (handle setup (carbonshiftPeer setup.provider) (.tick body) reply
              deployment).1 = true ∧
          AppState.Accepts setup.carbonshift body.kind slot
            deployment.carbonshift after)) := by
  unfold handle
  rw [destination_carbonshift]
  dsimp only
  by_cases reads : readable body = true
  · rw [if_pos reads]
    refine ⟨_, rfl, ?_⟩
    rcases @AppState.advanceSlot_cases σ setup.carbonshift setup.runtime body
        deployment.carbonshift slot named with
      ⟨error, refused, blames, stays⟩ | ⟨entered, accepted, accepts⟩
    · dsimp only
      rw [refused]
      exact Or.inl ⟨acknowledges_carbonshiftError blames, stays⟩
    · dsimp only
      rw [accepted]
      exact Or.inr ⟨acknowledges_success rfl, accepts⟩
  · rw [if_neg reads]
    exact ⟨deployment.carbonshift, rfl,
      Or.inl ⟨acknowledges_error (by decide), .refl _ _⟩⟩

/-! ## The executor -/

/-- The executor confirms exactly the messages that it accepts. -/
theorem handle_executor :
    ∃ after,
      (handle setup (executorPeer setup.provider) (.tick body) reply
        deployment).2 = { deployment with executor := after } ∧
      after.slotMinutes = deployment.executor.slotMinutes ∧
      ((acknowledges (executorPeer setup.provider) (.tick body)
            (handle setup (executorPeer setup.provider) (.tick body) reply
              deployment).1 = false ∧ after = deployment.executor) ∨
        (acknowledges (executorPeer setup.provider) (.tick body)
            (handle setup (executorPeer setup.provider) (.tick body) reply
              deployment).1 = true ∧
          (body.kind = "announce" → ∀ instant,
            body.slotStartUtc = some (setup.iso.isoformat instant) →
              after.virtualNow = instant) ∧
          (body.kind ≠ "announce" →
            after.virtualNow = deployment.executor.virtualNow +
              timedelta deployment.executor.slotMinutes))) := by
  unfold handle
  rw [destination_executor]
  dsimp only
  refine ⟨_, rfl, Executor.advanceSlot_slotMinutes, ?_⟩
  cases handled : (Executor.advanceSlot setup.iso setup.showFloat body
      deployment.executor).1 with
  | error error =>
      refine Or.inl ⟨?_, Executor.advanceSlot_refused handled⟩
      have status := Executor.status_of_advanceSlot handled
      exact acknowledges_error status
  | ok newTime =>
      refine Or.inr ⟨acknowledges_success rfl, ?_, ?_⟩
      · intro announces instant start
        exact Executor.virtualNow_of_announce announces start handled
      · intro rolls
        exact Executor.virtualNow_of_rollover rolls handled

/-! ## Clients, and the close of a slot -/

theorem handle_client {peer : Peer} {message : Message}
    (client : peer.destination = .client) :
    (handle setup peer message reply deployment).2 = deployment := by
  unfold handle
  rw [client]

/-- The close is confirmed only in the slot of the provider. -/
theorem handle_close {payload : CloseSlotMessage}
    (ticking : deployment.carbonshift.Ticking setup.carbonshift) :
    (handle setup (closePeer (carbonshiftPeer setup.provider)) (.close payload)
        reply deployment).2 = deployment ∧
      (acknowledges (closePeer (carbonshiftPeer setup.provider))
          (.close payload)
          (handle setup (closePeer (carbonshiftPeer setup.provider))
            (.close payload) reply deployment).1 = true →
        deployment.carbonshift.AtSlot payload.currentSlot) := by
  unfold handle
  rw [destination_closing]
  dsimp only
  by_cases fits : fitsI64 payload.currentSlot = true
  · rw [if_pos fits]
    refine ⟨rfl, fun confirms => ?_⟩
    unfold startsClosing at confirms
    split at confirms
    · rename_i error refused
      split at refused
      · rename_i other closing
        cases refused
        rw [acknowledges_carbonshiftError
          (isClientError_of_closingSlot closing)] at confirms
        cases confirms
      · split at refused
        · cases refused
        · cases refused
          rw [acknowledges_carbonshiftError rfl] at confirms
          cases confirms
    · rename_i started
      split at started
      · cases started
      · rename_i engineSlot closing
        split at started
        · rename_i here
          have bounds := (Bool.and_eq_true _ _).mp fits
          exact AppState.atSlot_of_closingSlot ticking
            ⟨of_decide_eq_true bounds.1, of_decide_eq_true bounds.2⟩ closing
            here
        · cases started
  · rw [if_neg fits]
    refine ⟨rfl, fun confirms => ?_⟩
    rw [unprocessable, acknowledges_error (by decide)] at confirms
    cases confirms

end Deployment

end Provider

end Carbonshift
