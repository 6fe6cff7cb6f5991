import LicensingServer.Server.HandOff
import Mathlib.Data.List.Induction

/-!
Owns what the loop makes of a message that is not a greeting when it reads one
from its first frame: exactly which of them it drops whole.

Does not own messages that arrive in the middle of a handshake.
-/

set_option autoImplicit false

namespace LicensingServer.ReceiveLoop

open LicensingServer.Foundations

variable {Peer : Type}

/-- The message that opens a handshake. -/
def WellFormedGreeting (message : Message Peer) : Prop :=
  ∃ spub epub, message.payload = [greeting, spub, epub]

/-- The requests among the effects. -/
def pushedRequests (effects : List (Effect Peer)) : List LoginRequest :=
  effects.filterMap fun
    | .pushed request _ _ => some request
    | .sentKeys _ => none

/-- The identities that keys are sent to. -/
def keyedIdentities (effects : List (Effect Peer)) : List Bytes :=
  effects.filterMap fun
    | .sentKeys clientIdentity => some clientIdentity
    | .pushed _ _ _ => none

@[simp] theorem pushedRequests_append (left right : List (Effect Peer)) :
    pushedRequests (left ++ right) = pushedRequests left ++ pushedRequests right :=
  List.filterMap_append

@[simp] theorem keyedIdentities_append (left right : List (Effect Peer)) :
    keyedIdentities (left ++ right) = keyedIdentities left ++ keyedIdentities right :=
  List.filterMap_append

theorem eq_nil_of_projections {effects : List (Effect Peer)}
    (requests : pushedRequests effects = []) (identities : keyedIdentities effects = []) :
    effects = [] := by
  cases effects with
  | nil => rfl
  | cons effect rest => cases effect <;> simp [pushedRequests, keyedIdentities] at requests identities

variable (network : Network Peer) (keyExchange : Nat → Bytes → Bytes → Bool)

/-- Deleting the message changes neither list, whatever follows, and the loop
goes on with the next message. -/
def DroppedWhole (before : List (Message Peer)) (message : Message Peer) : Prop :=
  (∀ rest,
    pushedRequests (effects network keyExchange (before ++ message :: rest)) =
        pushedRequests (effects network keyExchange (before ++ rest)) ∧
      keyedIdentities (effects network keyExchange (before ++ message :: rest)) =
        keyedIdentities (effects network keyExchange (before ++ rest))) ∧
    (afterMessages network keyExchange (before ++ [message])).AtStart

/-- An odd number of frames, with no greeting at an odd place. -/
def PassedOver (payload : List Bytes) : Prop :=
  payload.length % 2 = 1 ∧ ∀ position, payload[2 * position]? ≠ some greeting

/-! ### Reading the frames of one message -/

theorem passedOver_singleton {workload : Bytes} :
    PassedOver [workload] ↔ workload ≠ greeting := by
  constructor
  · intro passed same
    rcases passed with ⟨-, places⟩
    exact places 0 (by simp [same])
  · intro different
    refine ⟨rfl, fun position => ?_⟩
    cases position with
    | zero => simpa using different
    | succ position => simp [Nat.mul_succ]

theorem passedOver_cons_cons {workload clientIdentity : Bytes} {rest : List Bytes} :
    PassedOver (workload :: clientIdentity :: rest) ↔ workload ≠ greeting ∧ PassedOver rest := by
  constructor
  · intro passed
    rcases passed with ⟨odd, places⟩
    rw [List.length_cons, List.length_cons] at odd
    refine ⟨fun same => places 0 (by simp [same]), by omega, fun position => ?_⟩
    simpa [Nat.mul_succ] using places (position + 1)
  · intro both
    rcases both with ⟨different, odd, places⟩
    refine ⟨by rw [List.length_cons, List.length_cons]; omega, fun position => ?_⟩
    cases position with
    | zero => simpa using different
    | succ position => simpa [Nat.mul_succ] using places position

/-- Frames that are passed over leave the loop where it reads an identity. -/
theorem read_passedOver (sender : Peer) {payload : List Bytes} (passed : PassedOver payload)
    (clientIdentity : Frame Peer) (handshakes : Nat) :
    (waitRequest network keyExchange).after ⟨.workload clientIdentity, handshakes⟩
        (payload.map (.payload sender)) = ⟨.clientIdentity, handshakes⟩ ∧
      (waitRequest network keyExchange).outputs ⟨.workload clientIdentity, handshakes⟩
        (payload.map (.payload sender)) = [] := by
  induction payload using List.twoStepInduction generalizing clientIdentity with
  | nil => exact absurd passed.1 (by simp)
  | singleton workload =>
      have different := passedOver_singleton.mp passed
      simp [waitRequest, next, emit, Frame.data, different]
  | cons_cons workload identity rest inductionHypothesis _ =>
      obtain ⟨different, passedRest⟩ := passedOver_cons_cons.mp passed
      have tail := inductionHypothesis passedRest (.payload sender identity)
      simpa [waitRequest, next, emit, Frame.data, different] using tail

/-- In a handshake, or after it has failed. -/
def Engaged (loop : ReceiveLoop Peer) : Prop :=
  match loop.awaiting with
  | .clientIdentity | .workload _ => False
  | _ => True

/-- A handshake leaves a trace before the loop reads an identity again. -/
theorem traced_of_engaged {loop : ReceiveLoop Peer} (engaged : Engaged loop)
    (frames : List (Frame Peer))
    (ends : ((waitRequest network keyExchange).after loop frames).AtStart) :
    (waitRequest network keyExchange).outputs loop frames ≠ [] := by
  induction frames generalizing loop with
  | nil =>
      rcases loop with ⟨awaiting, handshakes⟩
      obtain rfl : awaiting = .clientIdentity := ends
      exact engaged.elim
  | cons frame rest inductionHypothesis =>
      have step : Engaged (next network keyExchange loop frame) ∨
          emit network keyExchange loop frame ≠ [] := by
        rcases loop with ⟨awaiting, handshakes⟩
        cases awaiting with
        | clientIdentity => exact engaged.elim
        | workload clientIdentity => exact engaged.elim
        | epub clientIdentity workload spub =>
            left
            unfold next
            by_cases agreed : keyExchange handshakes (spub.data network) (frame.data network) = true
            · simp [agreed, Engaged]
            · simp [agreed, Engaged]
        | clientID clientIdentity workload => right; simp [emit]
        | _ => left; trivial
      rw [Transducer.outputs_cons]
      intro silent
      obtain ⟨now, later⟩ := List.append_eq_nil_iff.mp silent
      rcases step with stays | emits
      · exact inductionHypothesis stays ends later
      · exact emits now

theorem passedOver_of_silent (sender : Peer) {payload : List Bytes}
    (clientIdentity : Frame Peer) (handshakes : Nat)
    (ends : ((waitRequest network keyExchange).after ⟨.workload clientIdentity, handshakes⟩
      (payload.map (.payload sender))).AtStart)
    (silent : (waitRequest network keyExchange).outputs ⟨.workload clientIdentity, handshakes⟩
      (payload.map (.payload sender)) = []) :
    PassedOver payload := by
  induction payload using List.twoStepInduction generalizing clientIdentity with
  | nil => cases ends
  | singleton workload =>
      apply passedOver_singleton.mpr
      intro same
      simp [waitRequest, next, Frame.data, same, AtStart] at ends
  | cons_cons workload identity rest inductionHypothesis _ =>
      have different : workload ≠ greeting := by
        intro same
        have engaged : Engaged (⟨.spub clientIdentity (.payload sender workload), handshakes⟩ :
            ReceiveLoop Peer) := trivial
        refine traced_of_engaged network keyExchange engaged
          ((identity :: rest).map (.payload sender)) ?_ ?_
        · simpa [waitRequest, next, Frame.data, same] using ends
        · simpa [waitRequest, next, emit, Frame.data, same] using silent
      refine passedOver_cons_cons.mpr ⟨different,
        inductionHypothesis (.payload sender identity) ?_ ?_⟩
      · simpa [waitRequest, next, Frame.data, different] using ends
      · simpa [waitRequest, next, emit, Frame.data, different] using silent

/-! ### Dropping messages -/

variable {network keyExchange}

/-- Messages that are passed over change nothing. -/
theorem passed_over {before : List (Message Peer)}
    (ready : (afterMessages network keyExchange before).AtStart) {message : Message Peer}
    (passed : PassedOver message.payload) :
    afterMessages network keyExchange (before ++ [message]) =
        afterMessages network keyExchange before ∧
      effects network keyExchange (before ++ [message]) = effects network keyExchange before := by
  obtain ⟨after, silent⟩ := read_passedOver network keyExchange message.sender passed
    (.identity message.sender) (afterMessages network keyExchange before).handshakes
  rw [afterMessages_append, effects_append, atStart_iff.mp ready]
  constructor
  · simpa [Message.frames, waitRequest, next] using after
  · simpa [Message.frames, waitRequest, next, emit] using silent

/-- A message that is not a greeting, read from its first frame on, is dropped
whole exactly when it is passed over. -/
theorem droppedWhole_iff {before : List (Message Peer)}
    (ready : (afterMessages network keyExchange before).AtStart) (message : Message Peer) :
    (¬ WellFormedGreeting message → DroppedWhole network keyExchange before message) ↔
      (WellFormedGreeting message ∨ PassedOver message.payload) := by
  constructor
  · intro dropped
    by_cases wellFormed : WellFormedGreeting message
    · exact .inl wellFormed
    · obtain ⟨unchanged, resumes⟩ := dropped wellFormed
      right
      obtain ⟨requests, identities⟩ := unchanged []
      rw [List.append_nil, effects_append] at requests identities
      rw [pushedRequests_append, List.append_right_eq_self] at requests
      rw [keyedIdentities_append, List.append_right_eq_self] at identities
      have silent := eq_nil_of_projections requests identities
      rw [afterMessages_append, atStart_iff.mp ready] at resumes
      rw [atStart_iff.mp ready] at silent
      exact passedOver_of_silent network keyExchange message.sender (.identity message.sender)
        (afterMessages network keyExchange before).handshakes
        (by simpa [Message.frames, waitRequest, next] using resumes)
        (by simpa [Message.frames, waitRequest, next, emit] using silent)
  · intro harmless malformed
    rcases harmless with wellFormed | passed
    · exact absurd wellFormed malformed
    · obtain ⟨after, silent⟩ := passed_over ready passed
      have same : ∀ rest, effects network keyExchange (before ++ message :: rest) =
          effects network keyExchange (before ++ rest) := by
        intro rest
        have split : before ++ message :: rest = (before ++ [message]) ++ rest := by simp
        rw [split, effects_append _ _ (before ++ [message]), after, silent, ← effects_append]
      refine ⟨fun rest => by rw [same]; exact ⟨rfl, rfl⟩, ?_⟩
      rw [after]
      exact ready

/-- A message of peer B that is no greeting. -/
def junk (more : List Bytes) : Message Bool where
  sender := true
  payload := ascii "junk" :: more
  nonempty := List.cons_ne_nil _ _

/-- A message of three frames after a handshake that has come to its end. -/
theorem droppedWhole_iff_after_handshake :
    (¬ WellFormedGreeting (junk [ascii "x", ascii "y"]) →
        DroppedWhole twoPeers (Server.keyExchange Server.sampleConfig)
          [Server.greetingMessage false, Server.clientIDMessage false]
          (junk [ascii "x", ascii "y"])) ↔
      (WellFormedGreeting (junk [ascii "x", ascii "y"]) ∨
        PassedOver [ascii "junk", ascii "x", ascii "y"]) := by
  have ready : (afterMessages twoPeers (Server.keyExchange Server.sampleConfig)
      [Server.greetingMessage false, Server.clientIDMessage false]).AtStart := by decide +kernel
  exact droppedWhole_iff ready (junk [ascii "x", ascii "y"])

/-- A message of two frames makes the loop miss the greeting that follows. -/
theorem greeting_missed_after_two_frames :
    (afterMessages twoPeers (Server.keyExchange Server.sampleConfig) []).AtStart ∧
      ¬ WellFormedGreeting (junk [ascii "x"]) ∧
      keyedIdentities (effects twoPeers (Server.keyExchange Server.sampleConfig)
        [junk [ascii "x"], Server.greetingMessage false]) = [] ∧
      keyedIdentities (effects twoPeers (Server.keyExchange Server.sampleConfig)
        [Server.greetingMessage false]) = [ascii "peer A"] := by
  refine ⟨rfl, ?_, by decide +kernel, by decide +kernel⟩
  rintro ⟨spub, epub, same⟩
  simp [junk] at same

end LicensingServer.ReceiveLoop
