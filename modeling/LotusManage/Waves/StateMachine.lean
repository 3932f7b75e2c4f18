import LotusManage.Waves.Aggregate
import Mathlib.Data.List.Chain

/-!
# The wave state machine

`src/core/waves/state_machine.py`, with the event builders of
`src/api/services/wave_event_evidence.py` and
`src/api/services/wave_event_append.py`.

A wave changes its state only through `applyWaveTransition`, which checks the
transition and the event that records it; an item selection records an event
without a state change.  Either way the event is appended and the version grows
by one.

`EventsSound` is what the event log of a wave says about its state: each event
starts where the one before it ended, each state change is an allowed one, and
the last event ends in the wave's state.
-/

namespace LotusManage.Waves

/-- The errors that leave a wave command. -/
inductive WaveError where
  | validation (code message : String)
  | lookup (code message : String)
  | invalidTransition (message : String)
  | raised (name : String)
  deriving DecidableEq

/-! ## Transitions -/

/-- `ALLOWED_WAVE_TRANSITIONS` -/
def allowedWaveTransitions : WaveState → List WaveState
  | .draft => [.previewed, .cancelled]
  | .previewed => [.created, .cancelled]
  | .created => [.sourceChecked, .cancelled]
  | .sourceChecked => [.simulating, .reviewRequired, .blocked, .cancelled]
  | .simulating => [.simulated, .partiallySimulated, .simulationFailed]
  | .simulated => [.reviewRequired, .approved, .cancelled]
  | .partiallySimulated => [.reviewRequired, .approvedWithExceptions, .cancelled]
  | .reviewRequired => [.approved, .approvedWithExceptions, .rejected, .cancelled]
  | .approved => [.staged, .cancelled]
  | .approvedWithExceptions => [.staged, .cancelled]
  | .staged => [.handoffReady, .handoffBlocked, .cancelled]
  | .handoffReady => [.handoffAcknowledged, .closed]
  | .handoffBlocked => [.sourceChecked, .cancelled]
  | .simulationFailed => [.sourceChecked, .cancelled]
  | .blocked => [.sourceChecked, .cancelled]
  | .rejected => [.closed]
  | .cancelled => [.closed]
  | .handoffAcknowledged => [.closed]
  | .closed => []

/-- `validate_wave_transition` -/
def validateWaveTransition (fromState toState : WaveState) : Except WaveError Unit :=
  if toState ∈ allowedWaveTransitions fromState then .ok ()
  else
    .error (.invalidTransition
      ("DPM_WAVE_INVALID_TRANSITION:" ++ fromState.code ++ "->" ++ toState.code))

/-- `apply_wave_transition` -/
def applyWaveTransition (wave : RebalanceWave) (toState : WaveState)
    (event : RebalanceWaveEvent) : Except WaveError RebalanceWave :=
  match validateWaveTransition wave.state toState with
  | .error e => .error e
  | .ok _ =>
    if event.waveId ≠ wave.waveId then .error (.invalidTransition "DPM_WAVE_EVENT_WAVE_MISMATCH")
    else if event.fromState ≠ some wave.state then
      .error (.invalidTransition "DPM_WAVE_EVENT_FROM_STATE_MISMATCH")
    else if event.toState ≠ toState then
      .error (.invalidTransition "DPM_WAVE_EVENT_TO_STATE_MISMATCH")
    else
      .ok { wave with
        state := toState
        version := wave.version + 1
        events := wave.events ++ [event] }

/-- `append_same_state_event` -/
def appendSameStateEvent (wave : RebalanceWave) (event : RebalanceWaveEvent) :
    Except WaveError RebalanceWave :=
  if event.waveId ≠ wave.waveId then
    .error (.validation "DPM_WAVE_EVENT_WAVE_MISMATCH" "Wave event mismatch.")
  else if event.fromState ≠ some wave.state ∨ event.toState ≠ wave.state then
    .error (.validation "DPM_WAVE_EVENT_STATE_MISMATCH" "Wave event state mismatch.")
  else
    .ok { wave with
      version := wave.version + 1
      events := wave.events ++ [event] }

/-! ## Events -/

/-- What an event draws when it is built: a `uuid4` value and the time. -/
structure EventStamp where
  uuid4Hex : String
  createdAt : Int

/-- The first characters of a text, `text[:n]`. -/
def takeText (n : Nat) (text : String) : String := String.ofList (text.toList.take n)

/-- `build_wave_event` -/
def buildWaveEvent (stamp : EventStamp) (waveId : String) (fromState toState : WaveState)
    (actorId correlationId reasonCode : String) (metadata : Dict String DiagnosticValue)
    (eventType : String) : RebalanceWaveEvent :=
  { eventId := "dwe_" ++ takeText 12 stamp.uuid4Hex
    waveId := waveId
    fromState := some fromState
    toState := toState
    eventType := eventType
    actorId := actorId
    reasonCode := reasonCode
    correlationId := correlationId
    createdAt := stamp.createdAt
    metadata := metadata }

/-! ## What a transition does -/

/-- An event that records a legal step from one state to another. -/
def RebalanceWaveEvent.Legal (event : RebalanceWaveEvent) : Prop :=
  ∃ fromState, event.fromState = some fromState ∧
    (event.toState = fromState ∨ event.toState ∈ allowedWaveTransitions fromState)

/-- The wave after one event. -/
structure Appended (wave wave' : RebalanceWave) (event : RebalanceWaveEvent) : Prop where
  fromState : event.fromState = some wave.state
  legal : event.toState = wave.state ∨ event.toState ∈ allowedWaveTransitions wave.state
  eq : wave' = { wave with
    state := event.toState
    version := wave.version + 1
    events := wave.events ++ [event] }

variable {wave wave' : RebalanceWave} {event : RebalanceWaveEvent}

theorem applyWaveTransition_eq_ok {toState : WaveState}
    (h : applyWaveTransition wave toState event = .ok wave') :
    toState ∈ allowedWaveTransitions wave.state ∧ event.toState = toState ∧
      Appended wave wave' event := by
  unfold applyWaveTransition validateWaveTransition at h
  by_cases hallowed : toState ∈ allowedWaveTransitions wave.state
  · rw [if_pos hallowed] at h
    dsimp only at h
    split at h
    · cases h
    split at h
    · cases h
    split at h
    · cases h
    rename_i hfrom hto
    simp only [ne_eq, not_not] at hfrom hto
    cases h
    refine ⟨hallowed, hto, hfrom, Or.inr (hto ▸ hallowed), ?_⟩
    rw [hto]
  · rw [if_neg hallowed] at h
    cases h

theorem applyWaveTransition_of_event (wave : RebalanceWave) (toState : WaveState)
    (event : RebalanceWaveEvent) (hid : event.waveId = wave.waveId)
    (hfrom : event.fromState = some wave.state) (hto : event.toState = toState) :
    applyWaveTransition wave toState event =
      if toState ∈ allowedWaveTransitions wave.state then
        .ok { wave with
          state := toState, version := wave.version + 1, events := wave.events ++ [event] }
      else
        .error (.invalidTransition
          ("DPM_WAVE_INVALID_TRANSITION:" ++ wave.state.code ++ "->" ++ toState.code)) := by
  unfold applyWaveTransition validateWaveTransition
  by_cases hallowed : toState ∈ allowedWaveTransitions wave.state
  · simp [hallowed, hid, hfrom, hto]
  · simp [hallowed]

theorem appendSameStateEvent_eq_ok (h : appendSameStateEvent wave event = .ok wave') :
    event.toState = wave.state ∧ Appended wave wave' event := by
  unfold appendSameStateEvent at h
  split at h
  · cases h
  split at h
  · cases h
  rename_i hstates
  simp only [ne_eq, not_or, not_not] at hstates
  cases h
  refine ⟨hstates.2, hstates.1, Or.inl hstates.2, ?_⟩
  rw [hstates.2]

/-! ## The event log -/

/-- The event log of a wave leads to its state by legal steps. -/
structure EventsSound (wave : RebalanceWave) : Prop where
  linked : wave.events.IsChain (fun earlier later => later.fromState = some earlier.toState)
  legal : ∀ event ∈ wave.events, event.Legal
  last : ∃ event, wave.events.getLast? = some event ∧ event.toState = wave.state

theorem EventsSound.of_appended (h : EventsSound wave) (happend : Appended wave wave' event) :
    EventsSound wave' := by
  obtain ⟨last, hlast, hstate⟩ := h.last
  rw [happend.eq]
  refine ⟨?_, ?_, event, by simp, rfl⟩
  · refine List.isChain_append.mpr ⟨h.linked, List.isChain_singleton event, ?_⟩
    intro x hx y hy
    rw [hlast] at hx
    cases hx
    simp only [List.head?_cons, Option.mem_def, Option.some.injEq] at hy
    rw [← hy, happend.fromState, hstate]
  · intro e he
    rcases List.mem_append.mp he with hold | hnew
    · exact h.legal e hold
    · rw [List.mem_singleton] at hnew
      rw [hnew]
      exact ⟨wave.state, happend.fromState, happend.legal⟩

end LotusManage.Waves
