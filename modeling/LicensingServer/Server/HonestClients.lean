import LicensingServer.Server.HandOff
import Mathlib.Data.List.FinRange
import Mathlib.Data.List.Induction
import Mathlib.Data.List.Perm.Basic

/-!
Owns the arrivals of any number of honest clients at the receive loop: all are
served exactly when nobody's messages come between the two of another client
and every key exchange returns.

Does not own the clients' side of the exchange.
-/

set_option autoImplicit false

namespace LicensingServer

open LicensingServer.Foundations

/-- Clients of a server, with the keys they present and their client IDs. -/
structure Clients (n : Nat) extends Network (Fin n) where
  spub : Fin n → Bytes
  epub : Fin n → Bytes
  clientID : Fin n → Bytes

/-- One of a client's two messages arrives. -/
inductive Arrival (n : Nat)
  | greeting (client : Fin n)
  | clientID (client : Fin n)
deriving DecidableEq, Repr

namespace Clients

variable {n : Nat} (clients : Clients n) (keyExchange : Nat → Bytes → Bytes → Bool)

def message : Arrival n → Message (Fin n)
  | .greeting client => ⟨client, [greeting, clients.spub client, clients.epub client], by simp⟩
  | .clientID client => ⟨client, [clients.clientID client], by simp⟩

def loopAfter (order : List (Arrival n)) : ReceiveLoop (Fin n) :=
  ReceiveLoop.afterMessages clients.toNetwork keyExchange (order.map clients.message)

def effectsOf (order : List (Arrival n)) : List (Effect (Fin n)) :=
  ReceiveLoop.effects clients.toNetwork keyExchange (order.map clients.message)

/-- The pushed requests among the effects, with the frames they come from. -/
def pushes (effects : List (Effect (Fin n))) : List (Effect (Fin n)) :=
  effects.filter fun
    | .pushed _ _ _ => true
    | .sentKeys _ => false

/-- The orders in which the messages can arrive: everybody greets, before
sending the client ID, and whoever receives keys sends the client ID. -/
structure Arrives (order : List (Arrival n)) : Prop where
  once : order.Nodup
  greeted : ∀ client, .greeting client ∈ order
  greetingFirst : ∀ before client rest, order = before ++ .clientID client :: rest →
    .greeting client ∈ before
  answered : ∀ client, .sentKeys (clients.identity client) ∈ clients.effectsOf keyExchange order →
    .clientID client ∈ order

/-- The request of a client, made of nothing but the client's own frames. -/
def ownRequest (client : Fin n) : Effect (Fin n) :=
  .pushed ⟨clients.identity client, clients.clientID client, clients.address client⟩
    (.payload client greeting) (.payload client (clients.clientID client))

/-- One request for each client, and the loop at the start of a message after
each client's second one. -/
def Served (order : List (Arrival n)) : Prop :=
  (pushes (clients.effectsOf keyExchange order)).Perm ((List.finRange n).map clients.ownRequest) ∧
    ∀ before client rest, order = before ++ .clientID client :: rest →
      (clients.loopAfter keyExchange (before ++ [.clientID client])).AtStart

/-- The arrivals of clients that take turns. -/
def inTurns (turns : List (Fin n)) : List (Arrival n) :=
  turns.flatMap fun client => [.greeting client, .clientID client]

/-- Every client in turn gets through the key exchange. -/
def Agrees (turns : List (Fin n)) : Prop :=
  ∀ turn client, turns[turn]? = some client →
    keyExchange turn (clients.spub client) (clients.epub client) = true

/-- The clients take turns, and every key exchange returns. -/
def OneAtATime (order : List (Arrival n)) : Prop :=
  ∃ turns, turns.Perm (List.finRange n) ∧ order = inTurns turns ∧ clients.Agrees keyExchange turns

/-! ### Arrivals one after the other -/

theorem loopAfter_append (before after : List (Arrival n)) :
    clients.loopAfter keyExchange (before ++ after) =
      (ReceiveLoop.waitRequest clients.toNetwork keyExchange).after
        (clients.loopAfter keyExchange before) (wire (after.map clients.message)) := by
  rw [loopAfter, List.map_append, ReceiveLoop.afterMessages_append]
  rfl

theorem effectsOf_append (before after : List (Arrival n)) :
    clients.effectsOf keyExchange (before ++ after) =
      clients.effectsOf keyExchange before ++
        (ReceiveLoop.waitRequest clients.toNetwork keyExchange).outputs
          (clients.loopAfter keyExchange before) (wire (after.map clients.message)) := by
  rw [effectsOf, List.map_append, ReceiveLoop.effects_append]
  rfl

theorem pushes_append (left right : List (Effect (Fin n))) :
    pushes (left ++ right) = pushes left ++ pushes right := List.filter_append ..

@[simp] theorem inTurns_nil : inTurns ([] : List (Fin n)) = [] := rfl

@[simp] theorem inTurns_cons (client : Fin n) (rest : List (Fin n)) :
    inTurns (client :: rest) = .greeting client :: .clientID client :: inTurns rest := rfl

theorem inTurns_append (left right : List (Fin n)) :
    inTurns (left ++ right) = inTurns left ++ inTurns right := List.flatMap_append

theorem greeting_mem_inTurns {turns : List (Fin n)} {client : Fin n} :
    .greeting client ∈ inTurns turns ↔ client ∈ turns := by
  simp [inTurns]

theorem clientID_mem_inTurns {turns : List (Fin n)} {client : Fin n} :
    .clientID client ∈ inTurns turns ↔ client ∈ turns := by
  simp [inTurns]

theorem nodup_inTurns {turns : List (Fin n)} : (inTurns turns).Nodup ↔ turns.Nodup := by
  rw [inTurns, List.nodup_flatMap]
  constructor
  · rintro ⟨-, apart⟩
    refine apart.imp fun {left right} disjoint same => ?_
    exact disjoint (show Arrival.greeting left ∈ _ by simp) (by simp [same])
  · intro distinct
    refine ⟨fun client _ => by simp, distinct.imp ?_⟩
    intro left right different
    simp [Function.onFun, List.Disjoint, different]

variable {clients keyExchange}

theorem Agrees.append {turns : List (Fin n)} (agrees : clients.Agrees keyExchange turns)
    {client : Fin n}
    (agreed : keyExchange turns.length (clients.spub client) (clients.epub client) = true) :
    clients.Agrees keyExchange (turns ++ [client]) := by
  intro turn other found
  rcases Nat.lt_trichotomy turn turns.length with below | same | above
  · rw [List.getElem?_append_left below] at found
    exact agrees turn other found
  · subst same
    obtain rfl : client = other := by simpa using found
    exact agreed
  · rw [List.getElem?_eq_none (by simp; omega)] at found
    cases found

theorem Agrees.of_append {left right : List (Fin n)}
    (agrees : clients.Agrees keyExchange (left ++ right)) : clients.Agrees keyExchange left := by
  intro turn client found
  obtain ⟨below, -⟩ := List.getElem?_eq_some_iff.mp found
  exact agrees turn client (by rw [List.getElem?_append_left below]; exact found)

/-! ### Clients that take turns -/

theorem after_greeting (client : Fin n) (handshakes : Nat) :
    (ReceiveLoop.waitRequest clients.toNetwork keyExchange).after ⟨.clientIdentity, handshakes⟩
        (clients.message (.greeting client)).frames =
      if keyExchange handshakes (clients.spub client) (clients.epub client) then
        ⟨.dummyIdentity (.identity client) (.payload client greeting), handshakes + 1⟩
      else ⟨.terminated, handshakes + 1⟩ := rfl

theorem outputs_greeting (client : Fin n) (handshakes : Nat) :
    (ReceiveLoop.waitRequest clients.toNetwork keyExchange).outputs ⟨.clientIdentity, handshakes⟩
        (clients.message (.greeting client)).frames =
      if keyExchange handshakes (clients.spub client) (clients.epub client) then
        [.sentKeys (clients.identity client)]
      else [] := List.append_nil _

theorem serve_turns {turns : List (Fin n)} (agrees : clients.Agrees keyExchange turns) :
    clients.loopAfter keyExchange (inTurns turns) = ⟨.clientIdentity, turns.length⟩ ∧
      pushes (clients.effectsOf keyExchange (inTurns turns)) = turns.map clients.ownRequest := by
  induction turns using List.reverseRecOn with
  | nil => exact ⟨rfl, rfl⟩
  | append_singleton turns client inductionHypothesis =>
      obtain ⟨loop, requests⟩ := inductionHypothesis agrees.of_append
      have agreed := agrees turns.length client (by simp)
      rw [inTurns_append, loopAfter_append, effectsOf_append, pushes_append, loop, requests]
      constructor
      · simp [ReceiveLoop.waitRequest, ReceiveLoop.next, Message.frames, message, Frame.data, agreed]
      · simp [ReceiveLoop.waitRequest, ReceiveLoop.next, ReceiveLoop.emit, Message.frames, message,
          Frame.data, Frame.peerAddress, Frame.sender, agreed, pushes, ownRequest]

theorem turns_end_with_clientID {turns : List (Fin n)} {before rest : List (Arrival n)}
    {client : Fin n} (split : inTurns turns = before ++ .clientID client :: rest) :
    ∃ left right, turns = left ++ right ∧ before ++ [.clientID client] = inTurns left := by
  induction turns generalizing before with
  | nil => simp at split
  | cons first more inductionHypothesis =>
      rw [inTurns_cons] at split
      match before, split with
      | [], split => simp at split
      | [greets], split =>
          simp only [List.cons_append, List.nil_append, List.cons.injEq, Arrival.clientID.injEq]
            at split
          rcases split with ⟨rfl, rfl, -⟩
          exact ⟨[first], more, rfl, rfl⟩
      | greets :: names :: others, split =>
          simp only [List.cons_append, List.cons.injEq] at split
          rcases split with ⟨rfl, rfl, tail⟩
          obtain ⟨left, right, rfl, same⟩ := inductionHypothesis tail
          exact ⟨first :: left, right, rfl, by simp [same]⟩

theorem served_of_oneAtATime {order : List (Arrival n)}
    (turnwise : clients.OneAtATime keyExchange order) : clients.Served keyExchange order := by
  rcases turnwise with ⟨turns, all, rfl, agrees⟩
  obtain ⟨loop, requests⟩ := serve_turns agrees
  refine ⟨by rw [requests]; exact all.map _, ?_⟩
  intro before client rest split
  obtain ⟨left, right, rfl, same⟩ := turns_end_with_clientID split
  rw [same, (serve_turns agrees.of_append).1]
  rfl

/-! ### Anything else -/

/-- After turns taken in order, a served run goes on with a whole turn. -/
theorem turn_of_served {order : List (Arrival n)} (arrives : clients.Arrives keyExchange order)
    (served : clients.Served keyExchange order) {turns : List (Fin n)}
    (agrees : clients.Agrees keyExchange turns) {first : Arrival n} {rest : List (Arrival n)}
    (split : order = inTurns turns ++ first :: rest) :
    ∃ client more, first = .greeting client ∧ rest = .clientID client :: more ∧
      keyExchange turns.length (clients.spub client) (clients.epub client) = true := by
  obtain ⟨loop, requests⟩ := serve_turns agrees
  have once := arrives.once
  rw [split, List.nodup_append] at once
  rcases once with ⟨-, onceRest, apart⟩
  cases first with
  | clientID client =>
      -- its greeting would be in an earlier turn, and so would this message
      have turn := greeting_mem_inTurns.mp (arrives.greetingFirst _ client rest split)
      exact absurd rfl (apart _ (clientID_mem_inTurns.mpr turn) (.clientID client) (by simp))
  | greeting client =>
      have fresh : client ∉ turns := fun turn =>
        apart _ (greeting_mem_inTurns.mpr turn) (.greeting client) (by simp) rfl
      have total := clients.effectsOf_append keyExchange (inTurns turns) (.greeting client :: rest)
      rw [← split, loop, List.map_cons, wire_cons, Transducer.outputs_append,
        after_greeting, outputs_greeting] at total
      have wanted : clients.ownRequest client ∈ pushes (clients.effectsOf keyExchange order) :=
        served.1.symm.subset (List.mem_map_of_mem (List.mem_finRange client))
      by_cases agreed :
          keyExchange turns.length (clients.spub client) (clients.epub client) = true
      · simp only [agreed, if_true] at total
        cases rest with
        | nil =>
            have keyed : .sentKeys (clients.identity client) ∈
                clients.effectsOf keyExchange order := by
              rw [total]
              simp
            have answer := arrives.answered client keyed
            rw [split] at answer
            simp only [List.mem_append, List.mem_singleton, reduceCtorEq, or_false] at answer
            exact absurd (clientID_mem_inTurns.mp answer) fresh
        | cons second more =>
            by_cases own : second = .clientID client
            · exact ⟨client, more, rfl, by rw [own], agreed⟩
            · exfalso
              -- the next message is another client's, and is credited to this one
              have other : (clients.message second).sender ≠ client := by
                intro same
                cases second with
                | greeting sender =>
                    obtain rfl : sender = client := same
                    exact (List.nodup_cons.mp onceRest).1 (by simp)
                | clientID sender => exact own (congrArg Arrival.clientID same)
              obtain ⟨data, others, payload⟩ :=
                List.exists_cons_of_ne_nil (clients.message second).nonempty
              rw [List.map_cons, wire_cons, Transducer.outputs_append, Message.frames, payload]
                at total
              have mixed : Effect.pushed ⟨clients.identity client, data,
                  clients.address (clients.message second).sender⟩ (.payload client greeting)
                  (.payload (clients.message second).sender data) ∈
                  pushes (clients.effectsOf keyExchange order) := by
                rw [total]
                simp [pushes, ReceiveLoop.waitRequest, ReceiveLoop.next, ReceiveLoop.emit,
                  Frame.data, Frame.peerAddress, Frame.sender]
              obtain ⟨owner, -, same⟩ := List.mem_map.mp (served.1.subset mixed)
              injection same with _ greeted named
              injection greeted with isClient
              injection named with isSender
              exact other (isSender.symm.trans isClient)
      · simp only [agreed, Bool.false_eq_true, if_false, List.nil_append] at total
        have ended := (Transducer.stopped
          (ReceiveLoop.waitRequest clients.toNetwork keyExchange)
          (⟨.terminated, turns.length + 1⟩ : ReceiveLoop (Fin n)) (fun _ => rfl) (fun _ => rfl)
          (wire (rest.map clients.message))).2
        rw [ended, List.append_nil] at total
        rw [total, requests] at wanted
        obtain ⟨owner, turn, same⟩ := List.mem_map.mp wanted
        injection same with _ greeted _
        injection greeted with isOwner
        exact absurd (isOwner ▸ turn) fresh

theorem turns_of_served {order : List (Arrival n)} (arrives : clients.Arrives keyExchange order)
    (served : clients.Served keyExchange order) (size : Nat) :
    ∀ (turns : List (Fin n)) (rest : List (Arrival n)), rest.length ≤ size →
      clients.Agrees keyExchange turns → order = inTurns turns ++ rest →
      ∃ all, order = inTurns all ∧ clients.Agrees keyExchange all := by
  induction size with
  | zero =>
      intro turns rest short agrees split
      obtain rfl := List.eq_nil_of_length_eq_zero (Nat.le_zero.mp short)
      exact ⟨turns, by rw [split, List.append_nil], agrees⟩
  | succ size inductionHypothesis =>
      intro turns rest short agrees split
      cases rest with
      | nil => exact ⟨turns, by rw [split, List.append_nil], agrees⟩
      | cons first rest =>
          obtain ⟨client, more, rfl, rfl, agreed⟩ := turn_of_served arrives served agrees split
          refine inductionHypothesis (turns ++ [client]) more ?_ (agrees.append agreed) ?_
          · simp only [List.length_cons] at short
            omega
          · rw [split, inTurns_append, List.append_assoc]
            rfl

/-- Turns are among the orders that can arise. -/
theorem arrives_inTurns {turns : List (Fin n)} (all : turns.Perm (List.finRange n)) :
    clients.Arrives keyExchange (inTurns turns) where
  once := nodup_inTurns.mpr (all.nodup_iff.mpr (List.nodup_finRange n))
  greeted client := greeting_mem_inTurns.mpr (all.mem_iff.mpr (List.mem_finRange client))
  greetingFirst before client rest split := by
    obtain ⟨left, right, -, same⟩ := turns_end_with_clientID split
    have turn : client ∈ left := by
      rw [← clientID_mem_inTurns, ← same]
      simp
    have greets := greeting_mem_inTurns.mpr turn
    rw [← same] at greets
    simpa using greets
  answered client _ := clientID_mem_inTurns.mpr (all.mem_iff.mpr (List.mem_finRange client))

/-- Honest clients are all served exactly when they come one at a time and
their key exchanges return. -/
theorem served_iff_oneAtATime {order : List (Arrival n)}
    (arrives : clients.Arrives keyExchange order) :
    clients.Served keyExchange order ↔ clients.OneAtATime keyExchange order := by
  refine ⟨fun served => ?_, served_of_oneAtATime⟩
  obtain ⟨turns, isTurns, agrees⟩ := turns_of_served arrives served order.length [] order
    (Nat.le_refl _) (by intro turn client found; simp at found) rfl
  refine ⟨turns, ?_, isTurns, agrees⟩
  have distinct : turns.Nodup := by
    rw [← nodup_inTurns, ← isTurns]
    exact arrives.once
  rw [List.perm_ext_iff_of_nodup distinct (List.nodup_finRange n)]
  intro client
  have greets := arrives.greeted client
  rw [isTurns, greeting_mem_inTurns] at greets
  exact ⟨fun _ => List.mem_finRange client, fun _ => greets⟩

/-! ### Two clients -/

def pair : Clients 2 where
  identity client := if client.val = 0 then ascii "client A" else ascii "client B"
  address _ := ascii "127.0.0.1"
  identity_injective := by
    intro left right
    revert left right
    decide
  spub client := Reference.keyText (if client.val = 0 then 4 else 1)
  epub client := Reference.keyText (if client.val = 0 then 8 else 2)
  clientID client := if client.val = 0 then ascii "CLIENT_A" else ascii "CLIENT_B"

/-- The criterion for two clients that take turns. -/
theorem served_iff_oneAtATime_pair :
    pair.Served (Server.keyExchange Server.sampleConfig) (inTurns [0, 1]) ↔
      pair.OneAtATime (Server.keyExchange Server.sampleConfig) (inTurns [0, 1]) :=
  served_iff_oneAtATime (arrives_inTurns (by decide))

/-- When the second greeting arrives before the first client has answered, the
second client never gets any keys and no request carries its identity; the
first client's answer, which it sends after it got its keys, is read as a
message of its own. -/
theorem overlapping_clients_not_served :
    pair.Arrives (Server.keyExchange Server.sampleConfig) [.greeting 0, .greeting 1, .clientID 0] ∧
      .sentKeys (ascii "client A") ∈
        pair.effectsOf (Server.keyExchange Server.sampleConfig) [.greeting 0, .greeting 1] ∧
      ¬ pair.Served (Server.keyExchange Server.sampleConfig)
        [.greeting 0, .greeting 1, .clientID 0] := by
  refine ⟨⟨by decide, by decide, ?_, by decide +kernel⟩, by decide +kernel, ?_⟩
  · intro before client rest split
    match before, split with
    | [], split => simp at split
    | [first], split => simp at split
    | [first, second], split =>
        simp only [List.cons_append, List.nil_append, List.cons.injEq, Arrival.clientID.injEq]
          at split
        rcases split with ⟨rfl, rfl, rfl, -⟩
        simp
    | first :: second :: third :: more, split => simp at split
  · intro served
    exact absurd served.1 (by decide +kernel)

end Clients

end LicensingServer
