import Carbonshift.Provider.AdvanceSlot

/-!
# What the advance handler can do

Up to the acknowledged close, a request leaves the clock alone.  The close of
the slot moves the clock and starts the rollover, and the rollover ends with
an answer, or with a report that is kept.
-/

namespace Carbonshift

namespace Provider

/-! ## Fan-outs -/

/-- A fan-out that has not ended: nobody has failed, somebody is left. -/
structure Fanout.Open (fanout : Fanout) : Prop where
  someone : fanout.pending ≠ []
  counted : 1 ≤ fanout.attempt
  noFailure : ∀ result ∈ fanout.results, result.ok = true

theorem Fanout.Open.again {fanout : Fanout} (open_ : fanout.Open) :
    { fanout with attempt := fanout.attempt + 1 : Fanout }.Open :=
  ⟨open_.someone, Nat.le_add_left 1 fanout.attempt, open_.noFailure⟩

theorem anyFailed_eq_false_iff {deliveries : List DeliveryResult} :
    anyFailed deliveries = false ↔ ∀ result ∈ deliveries, result.ok = true := by
  rw [anyFailed, List.any_eq_false]
  simp

theorem anyFailed_of_mem {deliveries : List DeliveryResult}
    {result : DeliveryResult} (member : result ∈ deliveries)
    (failed : result.ok = false) : anyFailed deliveries = true := by
  rw [anyFailed, List.any_eq_true]
  exact ⟨result, member, by rw [failed]; rfl⟩

/-- The next peer is tried again, has failed, or has confirmed. -/
theorem Fanout.post_cases {fanout : Fanout} (open_ : fanout.Open)
    (maxAttempts : ℕ) (message : Message) (outcome : PostOutcome) :
    ∃ peer rest, fanout.pending = peer :: rest ∧
      ((acknowledges peer message outcome = false ∧
          fanout.post maxAttempts message outcome =
            .posting { fanout with attempt := fanout.attempt + 1 }) ∨
        (acknowledges peer message outcome = false ∧
          ∃ results, fanout.post maxAttempts message outcome =
              .finished results ∧
            anyFailed results = true) ∨
        (acknowledges peer message outcome = true ∧
          ∃ results, fanout.post maxAttempts message outcome =
              Fanout.next rest results ∧
            ∀ result ∈ results, result.ok = true)) := by
  cases pending : fanout.pending with
  | nil => exact absurd pending open_.someone
  | cons peer rest =>
      refine ⟨peer, rest, rfl, ?_⟩
      rw [Fanout.post, pending]
      dsimp only
      rcases judge_cases peer message fanout.attempt outcome with
        ⟨confirms, result, judged, ok⟩ |
          ⟨silent, ⟨result, judged, failed⟩ | ⟨error, judged⟩⟩
      · refine Or.inr (Or.inr ⟨confirms, fanout.results ++ [result], ?_, ?_⟩)
        · rw [judged]
          dsimp only
          rw [if_pos ok]
        · intro other member
          rcases List.mem_append.mp member with earlier | last
          · exact open_.noFailure other earlier
          · rw [List.mem_singleton.mp last]
            exact ok
      · refine Or.inr (Or.inl ⟨silent, fanout.results ++ [result], ?_, ?_⟩)
        · rw [judged]
          dsimp only
          rw [failed, if_neg (by decide)]
        · exact anyFailed_of_mem
            (List.mem_append_right _ List.mem_cons_self) failed
      · rw [judged]
        dsimp only
        by_cases again : fanout.attempt < max 1 maxAttempts
        · rw [if_pos again]
          exact Or.inl ⟨silent, rfl⟩
        · rw [if_neg again]
          exact Or.inr (Or.inl ⟨silent, _, rfl,
            anyFailed_of_mem (List.mem_append_right _ List.mem_cons_self)
              rfl⟩)

theorem Fanout.next_cases (pending : List Peer)
    {results : List DeliveryResult}
    (noFailure : ∀ result ∈ results, result.ok = true) :
    (pending = [] ∧ Fanout.next pending results = .finished results) ∨
      ∃ fanout, Fanout.next pending results = .posting fanout ∧
        fanout.Open ∧ fanout.pending = pending ∧ fanout.attempt = 1 := by
  cases pending with
  | nil => exact Or.inl ⟨rfl, rfl⟩
  | cons peer rest =>
      exact Or.inr ⟨_, rfl, ⟨List.cons_ne_nil peer rest, le_rfl, noFailure⟩,
        rfl, rfl⟩

/-! ## Before the clock moves -/

/-- A request that announces the slot, or asks CarbonShift to close it. -/
inductive Preparing (settings : Settings) (source : CarbonSource)
    (iso : IsoFormat) (clock : ProviderClock settings.grid) :
    Advance → Prop where
  | consumers {request : AdvanceRequest} {fanout : Fanout}
      (open_ : fanout.Open) :
      Preparing settings source iso clock
        ⟨request, .announceConsumers,
          .tick (buildRolloverPayload settings source iso "announce" clock),
          fanout⟩
  | producers {request : AdvanceRequest} {fanout : Fanout}
      (consumers : List DeliveryResult) (open_ : fanout.Open) :
      Preparing settings source iso clock
        ⟨request, .announceProducers consumers,
          .tick (buildRolloverPayload settings source iso "announce" clock),
          fanout⟩
  | close {request : AdvanceRequest} (announcement : List DeliveryResult)
      {attempt : ℕ} (counted : 1 ≤ attempt) :
      Preparing settings source iso clock
        ⟨request, .close announcement,
          .close ⟨clock.currentSlot, settings.grid.slotMinutes⟩,
          ⟨[closePeer (carbonshiftPeer settings)], attempt, []⟩⟩

/-- The answer comes after the clock has moved. -/
def AdvanceAnswer.afterMove : AdvanceAnswer → Bool
  | .advanced _ => true
  | .desynced _ => true
  | _ => false

section Handler

variable {settings : Settings} {source : CarbonSource} {iso : IsoFormat}
variable {state : Globals settings.grid} {request : AdvanceRequest}

@[simp]
theorem clock_takeReading (state : Globals settings.grid) :
    (takeReading settings source state).clock = state.clock := by
  unfold takeReading
  split <;> rfl

@[simp]
theorem desynced_takeReading (state : Globals settings.grid) :
    (takeReading settings source state).desynced = state.desynced := by
  unfold takeReading
  split <;> rfl

/-- The clock and the latch are as before, and the request goes on or is
answered. -/
structure Quiet (source : CarbonSource) (iso : IsoFormat)
    (request : AdvanceRequest) (state : Globals settings.grid)
    (handled : Globals settings.grid × Progress) : Prop where
  clock_eq : handled.1.clock = state.clock
  desynced_eq : handled.1.desynced = state.desynced
  answered : ∀ answer, handled.2 = .answered answer →
    answer.afterMove = false
  posting : ∀ advance, handled.2 = .posting advance →
    advance.request = request ∧
      Preparing settings source iso state.clock advance

private theorem Quiet.of_answered {answer : AdvanceAnswer}
    (before : answer.afterMove = false) :
    Quiet source iso request state (state, .answered answer) := by
  refine ⟨rfl, rfl, fun other same => ?_, fun advance same => ?_⟩
  · cases same
    exact before
  · cases same

private theorem Quiet.of_posting {advance : Advance}
    (request_eq : advance.request = request)
    (preparing : Preparing settings source iso state.clock advance) :
    Quiet source iso request state (state, .posting advance) := by
  refine ⟨rfl, rfl, fun other same => ?_, fun other same => ?_⟩
  · cases same
  · cases same
    exact ⟨request_eq, preparing⟩

private theorem Quiet.of_reading {handled : Globals settings.grid × Progress}
    (quiet : Quiet source iso request (takeReading settings source state)
      handled) :
    Quiet source iso request state handled := by
  refine ⟨quiet.clock_eq.trans (clock_takeReading state),
    quiet.desynced_eq.trans (desynced_takeReading state), quiet.answered,
    fun advance same => ?_⟩
  have goes := quiet.posting advance same
  rwa [clock_takeReading] at goes

theorem quiet_closeCurrentSlot (notifies : request.notifyPeers = true)
    (announcement : List DeliveryResult) :
    Quiet source iso request state
      (closeCurrentSlot settings source iso request announcement state) := by
  have found : (peersFromSettings settings).find? (·.name = "carbonshift") =
      some (carbonshiftPeer settings) :=
    List.find?_cons_of_pos rfl
  unfold closeCurrentSlot
  rw [if_pos notifies, found]
  exact .of_posting rfl (.close announcement le_rfl)

theorem quiet_finishAnnounce (notifies : request.notifyPeers = true)
    (announcement : List DeliveryResult) :
    Quiet source iso request state
      (finishAnnounce settings source iso request announcement state) := by
  unfold finishAnnounce
  split
  · exact .of_answered rfl
  · exact quiet_closeCurrentSlot notifies announcement

theorem quiet_announceProducers (notifies : request.notifyPeers = true)
    (consumers : List DeliveryResult) :
    Quiet source iso request state
      (announceProducers settings source iso request consumers state) := by
  unfold announceProducers
  split
  · split
    · rename_i fanout started
      refine .of_posting rfl (.producers consumers ?_)
      rcases Fanout.next_cases (notifyOrder (peersOf settings .producer))
          (fun _ member => absurd member List.not_mem_nil) with
        ⟨_, ended⟩ | ⟨other, posts, open_, _, _⟩
      · rw [notifyPeers, ended] at started
        cases started
      · rw [notifyPeers, posts] at started
        cases started
        exact open_
    · exact quiet_finishAnnounce notifies _
  · exact quiet_finishAnnounce notifies _

theorem quiet_announce (notifies : request.notifyPeers = true) :
    Quiet source iso request state
      (announce settings source iso request state) := by
  unfold announce
  rw [if_pos notifies]
  split
  · rename_i fanout started
    refine Quiet.of_reading (.of_posting rfl (.consumers ?_))
    rcases Fanout.next_cases (notifyOrder (peersOf settings .consumer))
        (fun _ member => absurd member List.not_mem_nil) with
      ⟨_, ended⟩ | ⟨other, posts, open_, _, _⟩
    · rw [notifyPeers, ended] at started
      cases started
    · rw [notifyPeers, posts] at started
      cases started
      exact open_
  · exact Quiet.of_reading (quiet_announceProducers notifies _)

/-- The checks let a request through only while nothing has failed, and only
in the slot that it expects. -/
theorem begin_spec (notifies : request.notifyPeers = true) :
    Quiet source iso request state (begin settings source iso request state) ∧
      ∀ advance,
        (begin settings source iso request state).2 = .posting advance →
          state.desynced = none ∧
            ∀ slot, request.expectSlot = some slot →
              slot = state.clock.currentSlot := by
  unfold begin
  split
  · exact ⟨.of_answered rfl, fun advance same => by cases same⟩
  · split
    · exact ⟨.of_answered rfl, fun advance same => by cases same⟩
    · rename_i synced
      split
      · rename_i expected
        have expects : ∀ slot, request.expectSlot = some slot →
            slot = state.clock.currentSlot := by
          intro slot named
          rw [named] at expected
          simpa using expected
        split
        · exact ⟨quiet_announce notifies, fun _ _ => ⟨synced, expects⟩⟩
        · exact ⟨quiet_closeCurrentSlot notifies [],
            fun _ _ => ⟨synced, expects⟩⟩
      · exact ⟨.of_answered rfl, fun advance same => by cases same⟩

/-- The first advance announces its slot to all consumers; every later one
begins with the close. -/
theorem begin_stage (notifies : request.notifyPeers = true)
    {advance : Advance}
    (posts : (begin settings source iso request state).2 = .posting advance) :
    (state.clock.localStep = 0 ∧ advance.stage = .announceConsumers ∧
        advance.fanout.pending = notifyOrder (peersOf settings .consumer)) ∨
      (state.clock.localStep ≠ 0 ∧ advance.stage = .close []) := by
  unfold begin at posts
  split at posts
  · cases posts
  · split at posts
    · cases posts
    · split at posts
      · split at posts
        · rename_i first
          have someone : notifyOrder (peersOf settings .consumer) ≠ [] := by
            intro empty
            have members := (List.perm_insertionSort
              (fun left right : Peer => left.order ≤ right.order)
              (peersOf settings .consumer)).mem_iff.mpr
                (List.mem_filter.mpr ⟨List.mem_cons_self, rfl⟩ :
                  carbonshiftPeer settings ∈ peersOf settings .consumer)
            rw [notifyOrder] at empty
            rw [empty] at members
            exact List.not_mem_nil members
          unfold announce at posts
          rw [if_pos notifies] at posts
          rcases Fanout.next_cases (notifyOrder (peersOf settings .consumer))
              (fun _ member => absurd member List.not_mem_nil) with
            ⟨empty, _⟩ | ⟨fanout, started, _, pending, _⟩
          · exact absurd empty someone
          · rw [notifyPeers, started] at posts
            cases posts
            exact Or.inl ⟨first, rfl, pending⟩
        · rename_i later
          have found :
              (peersFromSettings settings).find? (·.name = "carbonshift") =
                some (carbonshiftPeer settings) :=
            List.find?_cons_of_pos rfl
          unfold closeCurrentSlot at posts
          rw [if_pos notifies, found] at posts
          cases posts
          exact Or.inr ⟨later, rfl⟩
      · cases posts

/-- An advance that notifies nobody, and never reports that all is well. -/
structure Unnotified (state : Globals settings.grid)
    (handled : Globals settings.grid × Progress) (answer : AdvanceAnswer) :
    Prop where
  answered : handled.2 = .answered answer
  desynced_eq : handled.1.desynced = state.desynced
  moved : (handled.1.clock = state.clock ∧ answer.afterMove = false) ∨
    (handled.1.clock = state.clock.advance.2 ∧
      ∃ response, answer = .advanced response ∧ response.allOk = false ∧
        response.currentSlot = state.clock.currentSlot + 1)

theorem begin_unnotified (silent : request.notifyPeers = false) :
    ∃ answer, Unnotified state (begin settings source iso request state)
      answer := by
  have closes : ∀ before : Globals settings.grid,
      before.clock = state.clock → before.desynced = state.desynced →
      ∃ answer, Unnotified state
        (closeCurrentSlot settings source iso request [] before) answer := by
    intro before clock_eq desynced_eq
    simp only [closeCurrentSlot, finishClose, rollover, finishRollover, silent,
      Bool.false_and, Bool.false_eq_true, if_false]
    refine ⟨_, ⟨rfl, ?_, Or.inr ⟨?_, _, rfl, rfl, ?_⟩⟩⟩
    · rw [desynced_takeReading]
      exact desynced_eq
    · rw [clock_takeReading, clock_eq]
    · rw [ProviderClock.globalSlot_advance, clock_eq]
  unfold begin
  split
  · exact ⟨_, rfl, rfl, Or.inl ⟨rfl, rfl⟩⟩
  · split
    · exact ⟨_, rfl, rfl, Or.inl ⟨rfl, rfl⟩⟩
    · split
      · split
        · unfold announce finishAnnounce
          rw [silent]
          exact closes _ (clock_takeReading state) (desynced_takeReading state)
        · exact closes state rfl rfl
      · exact ⟨_, rfl, rfl, Or.inl ⟨rfl, rfl⟩⟩

/-! ## The rollover -/

/-- A request that notifies the peers of the slot that was entered. -/
inductive Rolling (settings : Settings) (source : CarbonSource)
    (iso : IsoFormat) (clock : ProviderClock settings.grid) :
    Advance → Prop where
  | rollover {request : AdvanceRequest} {fanout : Fanout}
      (announcement close : List DeliveryResult) (tick : SlotTick)
      (entered : tick.globalSlot = clock.currentSlot)
      (open_ : fanout.Open) :
      Rolling settings source iso clock
        ⟨request, .rollover announcement close tick,
          .tick (buildRolloverPayload settings source iso "rollover" clock),
          fanout⟩

/-- The clock has moved by one slot, and the peers are being notified. -/
structure Moves (source : CarbonSource) (iso : IsoFormat)
    (request : AdvanceRequest) (state : Globals settings.grid)
    (handled : Globals settings.grid × Progress) : Prop where
  clock_eq : handled.1.clock = state.clock.advance.2
  desynced_eq : handled.1.desynced = state.desynced
  rolls : ∃ advance, handled.2 = .posting advance ∧
    advance.request = request ∧
      Rolling settings source iso state.clock.advance.2 advance ∧
        advance.fanout.pending = notifyOrder (peersFromSettings settings) ∧
          advance.fanout.attempt = 1

theorem moves_rollover (notifies : request.notifyPeers = true)
    (announcement close : List DeliveryResult) :
    Moves source iso request state
      (rollover settings source iso request announcement close state) := by
  have someone : notifyOrder (peersFromSettings settings) ≠ [] := by
    intro empty
    have members := List.perm_insertionSort
      (fun left right : Peer => left.order ≤ right.order)
      (peersFromSettings settings)
    rw [notifyOrder] at empty
    rw [empty] at members
    exact List.cons_ne_nil _ _ members.nil_eq.symm
  rcases Fanout.next_cases (notifyOrder (peersFromSettings settings))
      (fun _ member => absurd member List.not_mem_nil) with
    ⟨empty, _⟩ | ⟨fanout, posts, open_, pending, first⟩
  · exact absurd empty someone
  · unfold rollover
    rw [if_pos notifies, notifyPeers, posts]
    dsimp only
    refine ⟨?_, ?_, ⟨_, rfl, rfl, ?_, pending, first⟩⟩
    · exact clock_takeReading _
    · exact desynced_takeReading _
    · exact .rollover announcement close _ rfl open_

/-! ## After a post -/

variable {advance : Advance} {outcome : PostOutcome}

/-- CarbonShift confirms that the current slot is closed. -/
def ClosesBy (settings : Settings) (slot : ℤ) (advance : Advance)
    (outcome : PostOutcome) : Prop :=
  ∃ payload,
    advance.fanout.pending = [closePeer (carbonshiftPeer settings)] ∧
      advance.message = .close payload ∧ payload.currentSlot = slot ∧
        acknowledges (closePeer (carbonshiftPeer settings)) advance.message
          outcome = true

private theorem quiet_finish_of_failed
    (preparing : Preparing settings source iso state.clock advance)
    (notifies : advance.request.notifyPeers = true)
    {results : List DeliveryResult} (failed : anyFailed results = true) :
    Quiet source iso advance.request state
      (finish settings source iso advance results state) := by
  have notAll : results.all DeliveryResult.ok = false := by
    obtain ⟨result, member, ko⟩ := List.any_eq_true.mp failed
    rw [List.all_eq_false]
    exact ⟨result, member, by simpa using ko⟩
  cases preparing with
  | consumers open_ =>
      unfold finish announceProducers
      dsimp only
      rw [notAll, if_neg (by decide)]
      exact quiet_finishAnnounce notifies results
  | producers consumers open_ => exact quiet_finishAnnounce notifies _
  | close announcement counted =>
      unfold finish finishClose
      dsimp only at notifies ⊢
      rw [notifies, failed, if_pos (by decide)]
      exact .of_answered rfl

/-- Before the clock moves, a post changes nothing but the request, unless
CarbonShift confirms the close. -/
theorem resume_preparing
    (preparing : Preparing settings source iso state.clock advance)
    (notifies : advance.request.notifyPeers = true) :
    Quiet source iso advance.request state
        (resume settings source iso advance outcome state) ∨
      (ClosesBy settings state.clock.currentSlot advance outcome ∧
        Moves source iso advance.request state
          (resume settings source iso advance outcome state)) := by
  have open_ : advance.fanout.Open := by
    cases preparing with
    | consumers open_ => exact open_
    | producers consumers open_ => exact open_
    | close announcement counted =>
        exact ⟨List.cons_ne_nil _ _, counted, fun _ member =>
          absurd member List.not_mem_nil⟩
  obtain ⟨peer, rest, pending, posted⟩ := Fanout.post_cases open_
    settings.notifyMaxAttempts advance.message outcome
  unfold resume
  rcases posted with ⟨_, again⟩ | ⟨_, results, ended, failed⟩ |
    ⟨confirms, results, goes, noFailure⟩
  · rw [again]
    refine Or.inl (.of_posting rfl ?_)
    cases preparing with
    | consumers open_ => exact .consumers open_.again
    | producers consumers open_ =>
        exact .producers consumers open_.again
    | close announcement counted =>
        exact .close announcement (Nat.le_add_left 1 _)
  · rw [ended]
    exact Or.inl (quiet_finish_of_failed preparing notifies failed)
  · rw [goes]
    cases preparing with
    | consumers open_ =>
        refine Or.inl ?_
        rcases Fanout.next_cases rest noFailure with
          ⟨_, ended⟩ | ⟨fanout, posts, nextOpen, _, _⟩
        · rw [ended]
          exact quiet_announceProducers notifies results
        · rw [posts]
          exact .of_posting rfl (.consumers nextOpen)
    | producers consumers open_ =>
        refine Or.inl ?_
        rcases Fanout.next_cases rest noFailure with
          ⟨_, ended⟩ | ⟨fanout, posts, nextOpen, _, _⟩
        · rw [ended]
          exact quiet_finishAnnounce notifies _
        · rw [posts]
          exact .of_posting rfl (.producers consumers nextOpen)
    | close announcement counted =>
        obtain ⟨rfl, rfl⟩ := List.cons.inj pending
        refine Or.inr ⟨⟨_, rfl, rfl, rfl, confirms⟩, ?_⟩
        have synced := anyFailed_eq_false_iff.mpr noFailure
        dsimp only [Fanout.next, List.isEmpty_nil, finish]
        rw [if_pos rfl]
        dsimp only
        rw [finishClose, synced, Bool.and_false, if_neg (by decide)]
        exact moves_rollover notifies announcement results

/-- The announcement goes on to the next consumer when the one before it has
confirmed. -/
theorem resume_consumers (stage : advance.stage = .announceConsumers)
    (open_ : advance.fanout.Open)
    (notifies : advance.request.notifyPeers = true) {next : Advance}
    (posts : (resume settings source iso advance outcome state).2 =
      .posting next) :
    ∃ peer rest, advance.fanout.pending = peer :: rest ∧
      ((next.stage = .announceConsumers ∧
          next.fanout.pending = advance.fanout.pending) ∨
        (acknowledges peer advance.message outcome = true ∧
          (rest = [] ∨
            (next.stage = .announceConsumers ∧
              next.fanout.pending = rest)))) := by
  obtain ⟨peer, rest, pending, posted⟩ := Fanout.post_cases open_
    settings.notifyMaxAttempts advance.message outcome
  refine ⟨peer, rest, pending, ?_⟩
  unfold resume at posts
  rcases posted with ⟨_, again⟩ | ⟨_, results, ended, failed⟩ |
    ⟨confirms, results, goes, noFailure⟩
  · rw [again] at posts
    cases posts
    exact Or.inl ⟨stage, rfl⟩
  · have notAll : results.all DeliveryResult.ok = false := by
      obtain ⟨result, member, ko⟩ := List.any_eq_true.mp failed
      rw [List.all_eq_false]
      exact ⟨result, member, by simpa using ko⟩
    rw [ended] at posts
    dsimp only at posts
    rw [finish, stage] at posts
    dsimp only at posts
    rw [announceProducers, notAll, if_neg (by decide), finishAnnounce, notifies,
      failed, if_pos (by decide)] at posts
    cases posts
  · refine Or.inr ⟨confirms, ?_⟩
    rcases Fanout.next_cases rest noFailure with
      ⟨empty, _⟩ | ⟨fanout, started, _, nextPending, _⟩
    · exact Or.inl empty
    · rw [goes, started] at posts
      cases posts
      exact Or.inr ⟨stage, nextPending⟩

/-- The close is asked for again, or the rollover starts. -/
theorem resume_close
    (preparing : Preparing settings source iso state.clock advance)
    {announcement : List DeliveryResult}
    (stage : advance.stage = .close announcement)
    (notifies : advance.request.notifyPeers = true) {next : Advance}
    (posts : (resume settings source iso advance outcome state).2 =
      .posting next) :
    next.stage = advance.stage ∨
      Rolling settings source iso state.clock.advance.2 next := by
  cases preparing with
  | consumers open_ => cases stage
  | producers consumers open_ => cases stage
  | close other counted =>
      have open_ : Fanout.Open
          ⟨[closePeer (carbonshiftPeer settings)], _, []⟩ :=
        ⟨List.cons_ne_nil _ _, counted, fun _ member =>
          absurd member List.not_mem_nil⟩
      obtain ⟨peer, rest, pending, posted⟩ := Fanout.post_cases open_
        settings.notifyMaxAttempts (.close _) outcome
      unfold resume at posts
      dsimp only at posts notifies
      rcases posted with ⟨_, again⟩ | ⟨_, results, ended, failed⟩ |
        ⟨_, results, goes, noFailure⟩
      · rw [again] at posts
        cases posts
        exact Or.inl rfl
      · rw [ended] at posts
        dsimp only [finish] at posts
        rw [finishClose, notifies, failed, if_pos (by decide)] at posts
        cases posts
      · obtain ⟨rfl, rfl⟩ := List.cons.inj pending
        have synced := anyFailed_eq_false_iff.mpr noFailure
        rw [goes] at posts
        dsimp only [Fanout.next, List.isEmpty_nil, finish] at posts
        rw [if_pos rfl] at posts
        dsimp only at posts
        rw [finishClose, synced, Bool.and_false, if_neg (by decide)] at posts
        obtain ⟨rolling, started, _, stage, _⟩ :=
          (@moves_rollover settings source iso state _ notifies other
            results).rolls
        rw [started] at posts
        cases posts
        exact Or.inr stage

/-- How a rollover goes on with the answer of the next peer. -/
inductive RollingEffect (source : CarbonSource) (iso : IsoFormat)
    (advance : Advance) (outcome : PostOutcome)
    (state : Globals settings.grid) :
    Globals settings.grid × Progress → Prop where
  | retried (silent : ∀ peer rest, advance.fanout.pending = peer :: rest →
        acknowledges peer advance.message outcome = false)
      {next : Advance} (request_eq : next.request = advance.request)
      (rolling : Rolling settings source iso state.clock next)
      (pending_eq : next.fanout.pending = advance.fanout.pending)
      (again : 1 < next.fanout.attempt) :
      RollingEffect source iso advance outcome state (state, .posting next)
  | failed (silent : ∀ peer rest, advance.fanout.pending = peer :: rest →
        acknowledges peer advance.message outcome = false)
      (report : RolloverReport) :
      RollingEffect source iso advance outcome state
        (markDesynced settings report state, .answered (.desynced report))
  | confirmed {peer : Peer} {rest : List Peer}
      (pending : advance.fanout.pending = peer :: rest)
      (confirms : acknowledges peer advance.message outcome = true)
      {next : Advance} (request_eq : next.request = advance.request)
      (rolling : Rolling settings source iso state.clock next)
      (pending_eq : next.fanout.pending = rest)
      (first : next.fanout.attempt = 1) :
      RollingEffect source iso advance outcome state (state, .posting next)
  | completed {peer : Peer}
      (pending : advance.fanout.pending = [peer])
      (confirms : acknowledges peer advance.message outcome = true)
      {response : AdvanceResponse}
      (entered : response.currentSlot = state.clock.currentSlot) :
      RollingEffect source iso advance outcome state
        (state, .answered (.advanced response))

theorem RollingEffect.clock_eq {handled : Globals settings.grid × Progress}
    (effect : RollingEffect source iso advance outcome state handled) :
    handled.1.clock = state.clock := by
  cases effect <;> rfl

theorem resume_rolling
    (rolling : Rolling settings source iso state.clock advance)
    (notifies : advance.request.notifyPeers = true) :
    RollingEffect source iso advance outcome state
      (resume settings source iso advance outcome state) := by
  cases rolling with
  | rollover announcement close tick entered open_ =>
      obtain ⟨peer, rest, pending, posted⟩ := Fanout.post_cases open_
        settings.notifyMaxAttempts (.tick _) outcome
      have next : ∀ other others, other :: others = peer :: rest →
          other = peer := fun _ _ same => (List.cons.inj same).1
      unfold resume
      rcases posted with ⟨silent, again⟩ | ⟨silent, results, ended, failed⟩ |
        ⟨confirms, results, goes, noFailure⟩
      · dsimp only
        rw [again]
        refine .retried ?_ rfl
          (.rollover announcement close tick entered open_.again) rfl
          (Nat.lt_add_of_pos_left open_.counted)
        intro other others named
        rw [next other others (named.symm.trans pending)]
        exact silent
      · dsimp only
        rw [ended]
        dsimp only [finish, finishRollover]
        dsimp only at notifies
        rw [notifies, failed, if_pos (by decide)]
        refine .failed ?_ _
        intro other others named
        rw [next other others (named.symm.trans pending)]
        exact silent
      · dsimp only
        rw [goes]
        rcases Fanout.next_cases rest noFailure with
          ⟨rfl, ended⟩ | ⟨fanout, posts, nextOpen, nextPending, first⟩
        · have synced := anyFailed_eq_false_iff.mpr noFailure
          rw [ended]
          dsimp only [finish, finishRollover]
          rw [synced, Bool.and_false, if_neg (by decide)]
          exact .completed pending confirms entered
        · rw [posts]
          exact .confirmed pending confirms rfl
            (.rollover announcement close tick entered nextOpen) nextPending
            first

end Handler

/-! ## After a handler -/

namespace Service

variable {settings : Settings} {id : ℕ} {service : Service settings.grid}
variable {handled : Globals settings.grid × Progress}

@[simp]
theorem waiting_proceed : (proceed settings id handled service).waiting =
    service.waiting := by
  unfold proceed
  split <;> rfl

@[simp]
theorem globals_proceed : (proceed settings id handled service).globals =
    handled.1 := by
  unfold proceed
  split <;> rfl

theorem holder_proceed {other : ℕ} {advance : Advance}
    (held : (proceed settings id handled service).holder =
      some (other, advance)) :
    other = id ∧ handled.2 = .posting advance := by
  unfold proceed at held
  split at held
  · rename_i next goes
    cases held
    exact ⟨rfl, goes⟩
  · cases held

/-- An answer is an earlier one, or the handler's. -/
theorem answered_proceed {other : ℕ} {answer : AdvanceAnswer}
    (member : (other, answer) ∈
      (proceed settings id handled service).answered) :
    (other, answer) ∈ service.answered ∨
      (other = id ∧ handled.2 = .answered answer) := by
  unfold proceed at member
  split at member
  · exact Or.inl member
  · rename_i final ends
    rcases List.mem_append.mp member with earlier | last
    · exact Or.inl earlier
    · cases List.mem_singleton.mp last
      exact Or.inr ⟨rfl, ends⟩

end Service

end Provider

end Carbonshift
