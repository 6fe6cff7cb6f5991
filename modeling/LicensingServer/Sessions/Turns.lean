import LicensingServer.Sessions.ClientState

/-!
Owns how far a session has come: where the receive thread stands, what it has
read, which requests it has pushed, and which clients have sent what.

Does not own the frames that the clients get.
-/

set_option autoImplicit false

namespace LicensingServer

open LicensingServer.Foundations

namespace Parties

variable {n : Nat}

/-- What is made for the clients whose turns come first. -/
def before {Item : Type} (make : Fin n → Item) (turns : Nat) : List Item :=
  ((List.finRange n).take turns).map make

theorem before_length {Item : Type} (make : Fin n → Item) {turns : Nat} (within : turns ≤ n) :
    (before make turns).length = turns := by
  rw [before, List.length_map, List.length_take, List.length_finRange, Nat.min_eq_left within]

theorem before_succ {Item : Type} (make : Fin n → Item) (i : Fin n) :
    before make (i + 1) = before make i ++ [make i] := by
  have within : i.val < (List.finRange n).length := by
    rw [List.length_finRange]
    exact i.isLt
  rw [before, List.take_succ_eq_append_getElem within, List.map_append, List.getElem_finRange]
  rfl

variable (parties : Parties n)

/-- The handshake with a client, and the request at its end. -/
def session (i : Fin n) : Session (Fin n) where
  clientIdentity := .identity i
  workload := .payload i greeting
  spub := .payload i (Crypto.blockHexStr parties.config.lib (parties.draw i).staticPublic)
  epub := .payload i (Crypto.blockHexStr parties.config.lib (parties.draw i).ephemeralPublic)
  number := i

def queued (i : Fin n) : Queued := ⟨parties.request i, i⟩

/-- Where the receive thread stands in the session with a client: the statement,
the frames that wait for it, and how many of the client IDs, handshakes and
requests of this session there are. -/
inductive Stands (i : Fin n) :
    WaitThread (Fin n) → List (Frame (Fin n)) → Nat → Nat → Nat → Prop
  | greeted : Stands i .recvIdentity (parties.greetingMessage i).frames 0 0 0
  | identity :
      Stands i (.recvWorkload (.identity i)) ((parties.greetingMessage i).frames.drop 1) 0 0 0
  | workload :
      Stands i (.recvSpub (.identity i) (.payload i greeting))
        ((parties.greetingMessage i).frames.drop 2) 0 0 0
  | spub :
      Stands i (.recvEpub (.identity i) (.payload i greeting) (parties.session i).spub)
        ((parties.greetingMessage i).frames.drop 3) 0 0 0
  | initKeys (remaining) : Stands i (.initKeys (parties.session i) remaining) [] 0 1 0
  | genXport (locals remaining) :
      Stands i (.genXport (parties.session i) locals remaining) [] 0 1 0
  | sendIdentity : Stands i (.sendIdentity (parties.session i)) [] 0 1 0
  | sendSpub : Stands i (.sendSpub (parties.session i)) [] 0 1 0
  | sendEpub : Stands i (.sendEpub (parties.session i)) [] 0 1 0
  | sendXport : Stands i (.sendXport (parties.session i)) [] 0 1 0
  | asked : Stands i (.recvDummy (parties.session i)) [] 0 1 0
  | identified : Stands i (.recvDummy (parties.session i)) (parties.idMessage i).frames 1 1 0
  | dummy :
      Stands i (.recvClientID (parties.session i)) ((parties.idMessage i).frames.drop 1) 1 1 0
  | testFlag : Stands i (.testFlag (parties.session i) (.payload i (parties.clientID i))) [] 1 1 0
  | push : Stands i (.push (parties.session i) (.payload i (parties.clientID i))) [] 1 1 0
  | setFlag : Stands i (.setFlag (parties.session i) (.payload i (parties.clientID i))) [] 1 1 1
  | pushed : Stands i .recvIdentity [] 1 1 1

/-- The session with a client is under way. -/
structure During (world : World n) (i : Fin n) (inbox : List (Frame (Fin n)))
    (identified begun asked : Nat) : Prop where
  stands : parties.Stands i world.server.wait inbox identified begun asked
  inbox : world.server.inbox = inbox
  replied : world.server.replied.length = i
  sessions : world.server.sessions = before parties.session (i + begun)
  pushed : world.server.pushed = before parties.queued (i + asked)
  greeted : ∀ j, (world.clients j).thread.HasGreeted ↔ j.val < i + 1
  identified : ∀ j, (world.clients j).thread.HasIdentified ↔ j.val < i + identified

/-- Every session begun is over. -/
structure Between (world : World n) : Prop where
  stands : world.server.wait = .recvIdentity
  inbox : world.server.inbox = []
  within : world.server.replied.length ≤ n
  sessions : world.server.sessions = before parties.session world.server.replied.length
  pushed : world.server.pushed = before parties.queued world.server.replied.length
  greeted : ∀ j, (world.clients j).thread.HasGreeted ↔ j.val < world.server.replied.length
  identified : ∀ j, (world.clients j).thread.HasIdentified ↔ j.val < world.server.replied.length

/-- At most one session is under way. -/
def InTurn (world : World n) : Prop :=
  parties.Between world ∨
    ∃ i inbox identified begun asked, parties.During world i inbox identified begun asked

variable {parties}

/-! ### The receive thread -/

theorem During.moved {world : World n} {i : Fin n} {inbox rest : List (Frame (Fin n))}
    {identified begun begunNow asked askedNow : Nat}
    (during : parties.During world i inbox identified begun asked) {next : Server (Fin n)}
    (stands : parties.Stands i next.wait rest identified begunNow askedNow)
    (waiting : next.inbox = rest) (replied : next.replied = world.server.replied)
    (sessions : next.sessions = before parties.session (i + begunNow))
    (pushed : next.pushed = before parties.queued (i + askedNow)) :
    parties.InTurn { world with server := next } :=
  .inr ⟨i, rest, identified, begunNow, askedNow, stands, waiting, by rw [replied, during.replied],
    sessions, pushed, during.greeted, during.identified⟩

/-- A statement of a session that neither begins a handshake nor pushes a
request. -/
theorem During.step {world : World n} {i : Fin n} {inbox rest : List (Frame (Fin n))}
    {identified begun asked : Nat}
    (during : parties.During world i inbox identified begun asked) {next : Server (Fin n)}
    (stands : parties.Stands i next.wait rest identified begun asked)
    (waiting : next.inbox = rest) (replied : next.replied = world.server.replied)
    (sessions : next.sessions = world.server.sessions)
    (pushed : next.pushed = world.server.pushed) :
    parties.InTurn { world with server := next } :=
  during.moved stands waiting replied (sessions.trans during.sessions)
    (pushed.trans during.pushed)

/-- Honest clients greet. -/
theorem InTurn.greets {world : World n} (inTurn : parties.InTurn world)
    {clientIdentity frame : Frame (Fin n)} {rest : List (Frame (Fin n))}
    (place : world.server.wait = .recvWorkload clientIdentity)
    (waiting : world.server.inbox = frame :: rest) :
    frame.data parties.config.network = greeting := by
  rcases inTurn with between | ⟨i, inbox, identified, begun, asked, during⟩
  · cases between.stands.symm.trans place
  · have stands := during.stands
    have arrived := during.inbox
    rw [place] at stands
    rw [waiting] at arrived
    cases stands
    obtain ⟨rfl, rfl⟩ := List.cons.inj arrived
    rfl

theorem InTurn.waitMoves {world : World n} (inTurn : parties.InTurn world)
    {next : Server (Fin n)} (moves : Server.WaitMoves parties.config world.server next)
    (alive : next.terminated = none) : parties.InTurn { world with server := next } := by
  have greets := @inTurn.greets
  rcases inTurn with between | ⟨i, inbox, identified, begun, asked, during⟩
  · have stands := between.stands
    have empty := between.inbox
    cases moves with
    | recvIdentity place waiting =>
        rw [empty] at waiting
        cases waiting
    | initFails | xportFails => cases alive
    | _ place => cases stands.symm.trans place
  · have stands := during.stands
    have arrived := during.inbox
    cases moves with
    | initFails | xportFails => cases alive
    | spin => exact .inr ⟨i, inbox, identified, begun, asked, during⟩
    | recvIdentity place waiting =>
        rw [place] at stands
        rw [waiting] at arrived
        cases stands with
        | greeted =>
            obtain ⟨rfl, rfl⟩ := List.cons.inj arrived
            exact during.step .identity rfl rfl rfl rfl
        | pushed => cases arrived
    | refuse place waiting other => exact absurd (greets place waiting) other
    | greet place waiting | recvSpub place waiting | recvClientID place waiting =>
        rw [place] at stands
        rw [waiting] at arrived
        cases stands
        obtain ⟨rfl, rfl⟩ := List.cons.inj arrived
        exact during.step (by constructor) rfl rfl rfl rfl
    | recvEpub place waiting =>
        rw [place] at stands
        rw [waiting] at arrived
        cases stands
        obtain ⟨rfl, rfl⟩ := List.cons.inj arrived
        have number : world.server.sessions.length = i := by
          rw [during.sessions, Nat.add_zero, before_length _ (Nat.le_of_lt i.isLt)]
        have begins : world.server.sessions ++ [parties.session i] =
            before parties.session (i + 1) := by
          rw [during.sessions, before_succ]
          rfl
        rw [number]
        exact during.moved (.initKeys _) rfl rfl begins during.pushed
    | initKeys place | callGenXport place | genXport place | returnXport place
    | sendIdentity place | sendSpub place | sendEpub place | sendXport place | seeClear place
    | setFlag place =>
        rw [place] at stands
        cases stands
        exact during.step (by constructor) arrived rfl rfl rfl
    | recvDummy place waiting =>
        rw [place] at stands
        rw [waiting] at arrived
        cases stands with
        | asked => cases arrived
        | identified =>
            obtain ⟨rfl, rfl⟩ := List.cons.inj arrived
            exact during.step .dummy rfl rfl rfl rfl
    | push place =>
        rw [place] at stands
        cases stands
        have pushes : world.server.pushed ++ [parties.queued i] =
            before parties.queued (i + 1) := by
          rw [during.pushed, before_succ]
          rfl
        exact during.moved .setFlag arrived rfl during.sessions pushes

/-! ### The processing thread -/

theorem Stands.asked_eq {i : Fin n} {wait : WaitThread (Fin n)} {inbox : List (Frame (Fin n))}
    {identified begun asked : Nat} (stands : parties.Stands i wait inbox identified begun asked) :
    asked = wait.unannounced ∨
      wait = .recvIdentity ∧ inbox = [] ∧ identified = 1 ∧ begun = 1 ∧ asked = 1 := by
  cases stands with
  | pushed => exact .inr ⟨rfl, rfl, rfl, rfl, rfl⟩
  | _ => exact .inl rfl

theorem Stands.le_one {i : Fin n} {wait : WaitThread (Fin n)} {inbox : List (Frame (Fin n))}
    {identified begun asked : Nat} (stands : parties.Stands i wait inbox identified begun asked) :
    begun ≤ 1 ∧ asked ≤ 1 := by
  cases stands <;> decide

theorem Stands.unsent_le {i : Fin n} {wait : WaitThread (Fin n)} {inbox : List (Frame (Fin n))}
    {identified begun asked : Nat} (stands : parties.Stands i wait inbox identified begun asked) :
    wait.unsent ≤ begun := by
  cases stands <;> first | exact Nat.le_refl _ | exact Nat.zero_le _

theorem During.pushed_length {world : World n} {i : Fin n} {inbox : List (Frame (Fin n))}
    {identified begun asked : Nat}
    (during : parties.During world i inbox identified begun asked) :
    world.server.pushed.length = i + asked := by
  have few := during.stands.le_one.2
  rw [during.pushed, before_length _ (by omega)]

theorem During.sessions_length {world : World n} {i : Fin n} {inbox : List (Frame (Fin n))}
    {identified begun asked : Nat}
    (during : parties.During world i inbox identified begun asked) :
    world.server.sessions.length = i + begun := by
  have few := during.stands.le_one.1
  rw [during.sessions, before_length _ (by omega)]

/-- A request waits to be served only when the receive thread is done with its
session. -/
theorem InTurn.idle {world : World n} (inTurn : parties.InTurn world)
    (handOff : world.server.HandOff) :
    (world.server.process = .testFlag ∧ world.server.isAddingQueue = false) ∨
      ∃ i, world.server.wait = .recvIdentity ∧ parties.During world i [] 1 1 1 := by
  rcases inTurn with between | ⟨i, inbox, identified, begun, asked, during⟩
  · refine .inl (handOff.idle ?_)
    rw [between.pushed, before_length _ between.within, between.stands]
    rfl
  · rcases during.stands.asked_eq with same | ⟨stands, rfl, rfl, rfl, rfl⟩
    · refine .inl (handOff.idle ?_)
      rw [during.pushed_length, during.replied, same]
    · exact .inr ⟨i, stands, during⟩

/-- The request of a client is served. -/
structure Serving (parties : Parties n) (world : World n) (i : Fin n) (req : Queued) : Prop where
  during : parties.During world i [] 1 1 1
  stands : world.server.wait = .recvIdentity
  request : req = parties.queued i
  popped : world.server.popped = before parties.queued i ++ [parties.queued i]

theorem InTurn.serving {world : World n} (inTurn : parties.InTurn world)
    (handOff : world.server.HandOff) {req : Queued}
    (hand : world.server.process.inHand = [req]) : ∃ i, parties.Serving world i req := by
  rcases inTurn.idle handOff with ⟨idle, -⟩ | ⟨i, stands, during⟩
  · rw [idle] at hand
    cases hand
  · have pushed := handOff.pushed
    have popped := handOff.popped
    rw [hand] at popped
    have count := congrArg List.length pushed
    rw [during.pushed_length, popped, List.length_append, List.length_append, List.length_map,
      during.replied, List.length_singleton] at count
    have none : world.server.clientIdentityQueue = [] := List.length_eq_zero_iff.mp (by omega)
    rw [none, List.append_nil, during.pushed, before_succ] at pushed
    obtain ⟨-, last⟩ := List.append_inj' (pushed.trans popped) rfl
    exact ⟨i, during, stands, (List.cons.inj last).1.symm, pushed.symm⟩

theorem InTurn.leavesReceive {world : World n} (inTurn : parties.InTurn world)
    {next : Server (Fin n)} (leaves : Server.LeavesReceive world.server next)
    (replied : next.replied = world.server.replied) :
    parties.InTurn { world with server := next } := by
  rcases inTurn with between | ⟨i, inbox, identified, begun, asked, during⟩
  · refine .inl ⟨leaves.wait.trans between.stands, leaves.inbox.trans between.inbox, ?_, ?_, ?_, ?_, ?_⟩
    · rw [replied]
      exact between.within
    · rw [leaves.sessions, replied]
      exact between.sessions
    · rw [leaves.pushed, replied]
      exact between.pushed
    · rw [replied]
      exact between.greeted
    · rw [replied]
      exact between.identified
  · exact during.step (by rw [leaves.wait]; exact during.stands) (leaves.inbox.trans during.inbox)
      replied leaves.sessions leaves.pushed

/-- The reply ends the session. -/
theorem Serving.replies {world : World n} {i : Fin n} {reply : Sealed}
    (serving : parties.Serving world i reply.queued) {next : Server (Fin n)}
    (leaves : Server.LeavesReceive world.server next)
    (replied : next.replied = world.server.replied ++ [reply]) :
    parties.InTurn { world with server := next } := by
  have during := serving.during
  have count : next.replied.length = i + 1 := by
    rw [replied, List.length_append, during.replied]
    rfl
  refine .inl ⟨leaves.wait.trans serving.stands, leaves.inbox.trans during.inbox, ?_, ?_, ?_, ?_, ?_⟩
  · rw [count]
    exact i.isLt
  · rw [leaves.sessions, count]
    exact during.sessions
  · rw [leaves.pushed, count]
    exact during.pushed
  · rw [count]
    exact during.greeted
  · rw [count]
    exact during.identified

theorem InTurn.processMoves {world : World n} (inTurn : parties.InTurn world)
    (handOff : world.server.HandOff) {next : Server (Fin n)}
    (moves : Server.ProcessMoves parties.config world.server next) :
    parties.InTurn { world with server := next } := by
  have leaves := moves.leavesReceive
  cases moves with
  | sendResult place =>
      obtain ⟨i, serving⟩ := inTurn.serving handOff (by rw [place]; rfl)
      exact serving.replies leaves rfl
  | _ => exact inTurn.leavesReceive leaves rfl

/-! ### The clients -/

/-- A statement of a client that sends nothing. -/
theorem InTurn.quiet {world : World n} (inTurn : parties.InTurn world) {i : Fin n}
    {client : Client}
    (greeted : client.thread.HasGreeted ↔ (world.clients i).thread.HasGreeted)
    (identified : client.thread.HasIdentified ↔ (world.clients i).thread.HasIdentified) :
    parties.InTurn { world with clients := Function.update world.clients i client } := by
  have sameGreeted {bound : Nat}
      (holds : ∀ j, (world.clients j).thread.HasGreeted ↔ j.val < bound) :
      ∀ j, (Function.update world.clients i client j).thread.HasGreeted ↔ j.val < bound :=
    (Function.forall_update_iff world.clients fun j other =>
      other.thread.HasGreeted ↔ j.val < bound).mpr
        ⟨greeted.trans (holds i), fun j _ => holds j⟩
  have sameIdentified {bound : Nat}
      (holds : ∀ j, (world.clients j).thread.HasIdentified ↔ j.val < bound) :
      ∀ j, (Function.update world.clients i client j).thread.HasIdentified ↔ j.val < bound :=
    (Function.forall_update_iff world.clients fun j other =>
      other.thread.HasIdentified ↔ j.val < bound).mpr
        ⟨identified.trans (holds i), fun j _ => holds j⟩
  rcases inTurn with between | ⟨j, inbox, identified, begun, asked, during⟩
  · exact .inl ⟨between.stands, between.inbox, between.within, between.sessions, between.pushed,
      sameGreeted between.greeted, sameIdentified between.identified⟩
  · exact .inr ⟨j, inbox, identified, begun, asked, during.stands, during.inbox, during.replied,
      during.sessions, during.pushed, sameGreeted during.greeted,
      sameIdentified during.identified⟩

/-- A greeting begins a session, as its client waits for its turn. -/
theorem InTurn.sendGreeting {world : World n} (inTurn : parties.InTurn world) {i : Fin n}
    {client : Client} (place : (world.clients i).thread = .sendGreeting)
    (mayGreet : i.val ≤ world.server.replied.length)
    (remaining : client.thread.remaining = 8) :
    parties.InTurn ⟨world.server.arrive (parties.greetingMessage i),
      Function.update world.clients i client⟩ := by
  have silent : ¬ (world.clients i).thread.HasGreeted := by
    rw [place]
    exact Nat.not_succ_le_self 8
  rcases inTurn with between | ⟨j, inbox, identified, begun, asked, during⟩
  · rw [between.greeted] at silent
    have turn : world.server.replied.length = i := by omega
    refine .inr ⟨i, (parties.greetingMessage i).frames, 0, 0, 0, ?_, ?_, turn, ?_, ?_, ?_, ?_⟩
    · change parties.Stands i world.server.wait _ 0 0 0
      rw [between.stands]
      exact .greeted
    · change world.server.inbox ++ _ = _
      rw [between.inbox]
      rfl
    · exact between.sessions.trans (by rw [turn]; rfl)
    · exact between.pushed.trans (by rw [turn]; rfl)
    · refine (Function.forall_update_iff world.clients fun j other =>
        other.thread.HasGreeted ↔ j.val < i + 1).mpr ⟨?_, fun j different => ?_⟩
      · exact iff_of_true (Nat.le_of_eq remaining) (Nat.lt_succ_self _)
      · rw [between.greeted, turn]
        have apart : j.val ≠ i.val := fun same => different (Fin.ext same)
        omega
    · refine (Function.forall_update_iff world.clients fun j other =>
        other.thread.HasIdentified ↔ j.val < i + 0).mpr ⟨?_, fun j _ => ?_⟩
      · rw [ClientThread.HasIdentified, remaining]
        omega
      · rw [between.identified, turn]
        rfl
  · rw [during.greeted] at silent
    rw [during.replied] at mayGreet
    omega

/-- After the wrapped key and before the client ID the receive thread waits for
a message. -/
theorem Stands.awaitsID {i : Fin n} {wait : WaitThread (Fin n)} {inbox : List (Frame (Fin n))}
    {begun asked : Nat} (stands : parties.Stands i wait inbox 0 begun asked)
    (sent : wait.unsent < begun) :
    wait = .recvDummy (parties.session i) ∧ inbox = [] ∧ begun = 1 ∧ asked = 0 := by
  cases stands with
  | asked => exact ⟨rfl, rfl, rfl, rfl⟩
  | _ => exact absurd sent (Nat.lt_irrefl _)

/-- A client has its keys before it sends its ID. -/
theorem InTurn.sendID {world : World n} (inTurn : parties.InTurn world)
    (numbered : world.server.Numbered) {i : Fin n} {client : Client}
    (place : (world.clients i).thread = .sendID) (sent : i.val < world.server.xports.length)
    (remaining : client.thread.remaining = 2) :
    parties.InTurn ⟨world.server.arrive (parties.idMessage i),
      Function.update world.clients i client⟩ := by
  have hasGreeted : (world.clients i).thread.HasGreeted := by
    rw [place, ClientThread.HasGreeted]
    decide
  have unidentified : ¬ (world.clients i).thread.HasIdentified := by
    rw [place]
    exact Nat.not_succ_le_self 2
  rcases inTurn with between | ⟨j, inbox, identified, begun, asked, during⟩
  · rw [between.greeted] at hasGreeted
    rw [between.identified] at unidentified
    exact absurd hasGreeted unidentified
  · rw [during.greeted] at hasGreeted
    rw [during.identified] at unidentified
    obtain rfl : i = j := Fin.ext (by omega)
    have none : identified = 0 := by omega
    have count := numbered.count
    rw [during.sessions_length] at count
    rw [none] at during
    obtain ⟨stands, rfl, rfl, rfl⟩ := during.stands.awaitsID (by omega)
    refine .inr ⟨i, (parties.idMessage i).frames, 1, 1, 0, ?_, ?_, during.replied, during.sessions,
      during.pushed, ?_, ?_⟩
    · change parties.Stands i world.server.wait _ 1 1 0
      rw [stands]
      exact .identified
    · change world.server.inbox ++ _ = _
      rw [during.inbox]
      rfl
    · refine (Function.forall_update_iff world.clients fun j other =>
        other.thread.HasGreeted ↔ j.val < i + 1).mpr ⟨?_, fun j _ => during.greeted j⟩
      refine iff_of_true ?_ (Nat.lt_succ_self _)
      rw [ClientThread.HasGreeted, remaining]
      decide
    · refine (Function.forall_update_iff world.clients fun j other =>
        other.thread.HasIdentified ↔ j.val < i + 1).mpr ⟨?_, fun j different => ?_⟩
      · exact iff_of_true (Nat.le_of_eq remaining) (Nat.lt_succ_self _)
      · rw [during.identified]
        have apart : j.val ≠ i.val := fun same => different (Fin.ext same)
        omega

end Parties

end LicensingServer
