import LicensingServer.Sessions.Turns
import LicensingServer.Server.ReplyKeys

/-!
Owns what holds in every reachable state of a server and clients that take
turns: nothing fails, and every client is delivered a front part of the frames
of its own session, in order.

Does not own that the sessions end.
-/

set_option autoImplicit false

namespace LicensingServer

open LicensingServer.Foundations

namespace Parties

variable {n : Nat} (parties : Parties n) (answer : Fin n → Bool)

/-- No handshake overwrites a key in use, and no thread sends in the middle of a
message. -/
def Calm (server : Server (Fin n)) (who : Step (Fin n)) : Prop :=
  Server.KeyNotInUse server who ∧ Server.SendsAlone parties.config server who

/-- The number of frames that a client has been sent. -/
def frameCount (server : Server (Fin n)) (i : Fin n) : Nat :=
  if i.val < server.replied.length then 4 else if i.val < server.xports.length then 3 else 0

/-- The result on its way is the answer to its request. -/
def ResultInPlace (process : ProcessThread) : Prop :=
  match process with
  | .encrypt req isValid => ∀ i, req = parties.queued i → isValid = answer i
  | .sendIdentity reply | .sendResult reply =>
      ∀ i, reply.queued = parties.queued i → reply.isValid = answer i
  | _ => True

structure Orderly (world : World n) : Prop where
  reached : (Server.system parties.config).ReachableUnder parties.Calm world.server
  alive : world.server.terminated = none
  inTurn : parties.InTurn world
  result : parties.ResultInPlace answer world.server.process
  delivered : ∀ i, parties.delivered world i =
    (parties.frames i (answer i)).take (frameCount world.server i)
  clients : ∀ i, parties.ClientInPlace i (answer i) (world.clients i)
  got : ∀ i, (world.clients i).got ≤ frameCount world.server i

variable {parties} {answer}

theorem frameCount_le (server : Server (Fin n)) (i : Fin n) : frameCount server i ≤ 4 := by
  unfold frameCount
  split_ifs <;> omega

theorem frameCount_mono {server next : Server (Fin n)}
    (replied : server.replied.length ≤ next.replied.length)
    (xports : server.xports.length ≤ next.xports.length) (i : Fin n) :
    frameCount server i ≤ frameCount next i := by
  unfold frameCount
  split_ifs <;> omega

/-! ### What the server's own invariants give -/

theorem Orderly.handOff {world : World n} (orderly : parties.Orderly answer world) :
    world.server.HandOff :=
  Server.handOff_of_reachable orderly.reached.reachable orderly.alive

theorem Orderly.sending (regular : parties.Regular answer) {world : World n}
    (orderly : parties.Orderly answer world) : Server.Sending parties.config world.server :=
  Server.sending_of_reachable regular.lawful
    (orderly.reached.mono fun _ _ calm => calm.2)

theorem Orderly.calm {world : World n} (orderly : parties.Orderly answer world)
    (who : Step (Fin n)) : parties.Calm world.server who := by
  have idle := orderly.inTurn.idle orderly.handOff
  cases who with
  | arrive message => exact ⟨trivial, trivial⟩
  | waitRequest =>
      rcases idle with ⟨stands, isClear⟩ | ⟨i, stands, -⟩
      · have queue := (orderly.handOff.clear isClear).2
        refine ⟨fun overwrites => ?_, fun _ => by rw [stands]; rfl⟩
        have unannounced : world.server.wait.unannounced = 0 := by
          cases place : world.server.wait <;> rw [place] at overwrites <;>
            first | rfl | cases overwrites
        rw [unannounced] at queue
        rw [Server.pending, stands, List.length_eq_zero_iff.mp queue]
        rfl
      · refine ⟨fun overwrites => ?_, fun begins => ?_⟩
        · rw [stands] at overwrites
          cases overwrites
        · rw [stands] at begins
          cases begins
  | processRequest =>
      refine ⟨trivial, fun begins => ?_⟩
      rcases idle with ⟨stands, -⟩ | ⟨i, stands, -⟩
      · rw [stands] at begins
        cases begins
      · rw [stands]
        rfl

/-! ### The receive thread -/

/-- The secret that the server shares with a client. -/
theorem agreedValue_session (regular : parties.Regular answer) {i : Fin n} {shared : Bytes}
    (secret : parties.SharedSecret i shared) :
    Crypto.agreedValue parties.config.lib
        ((parties.session i).spub.data parties.config.network)
        ((parties.session i).epub.data parties.config.network)
        (Crypto.initial.withKeys (parties.config.draws (parties.session i).number)) =
      .ok shared := by
  have full := regular.fullBlocks i
  exact (Crypto.agreedValue_blockHexStr regular.lawful _ (parties.draw i) _ secret.server).trans
    (if_neg (not_or.mpr ⟨full.clientStatic, full.clientEphemeral⟩))

theorem Orderly.alive_waitMoves (regular : parties.Regular answer) {world : World n}
    (orderly : parties.Orderly answer world) {next : Server (Fin n)}
    (moves : Server.WaitMoves parties.config world.server next) : next.terminated = none := by
  have inPlace := Server.cryptoInPlace_of_reachable orderly.reached.reachable
  cases moves with
  | initFails place failed =>
      simp only [Server.CryptoInPlace, place] at inPlace
      obtain ⟨-, invalid⟩ := inPlace.fails_iff.mp ⟨_, failed⟩
      rcases orderly.inTurn with between | ⟨i, inbox, identified, begun, asked, during⟩
      · cases between.stands.symm.trans place
      · have stands := during.stands
        rw [place] at stands
        cases stands
        cases (regular.serverGroup i).symm.trans invalid
  | xportFails place failed =>
      simp only [Server.CryptoInPlace, place] at inPlace
      obtain ⟨-, never⟩ := (inPlace.fails_iff regular.lawful).mp ⟨_, failed⟩
      rcases orderly.inTurn with between | ⟨i, inbox, identified, begun, asked, during⟩
      · cases between.stands.symm.trans place
      · have stands := during.stands
        rw [place] at stands
        cases stands
        obtain ⟨shared, secret⟩ := exists_sharedSecret regular i
        exact absurd (agreedValue_session regular secret) (never shared)
  | _ => exact orderly.alive

theorem deliveredTo_concat (identity : Bytes) (messages : List (List OutFrame))
    (message : List OutFrame) :
    deliveredTo identity (messages ++ [message]) =
      deliveredTo identity messages ++ deliveredTo identity [message] :=
  List.flatMap_append

/-- Only the client that a message is meant for is delivered it. -/
theorem deliveredTo_other {identity : Bytes} {first : OutFrame} (rest : List OutFrame)
    (other : first.data ≠ identity) : deliveredTo identity [first :: rest] = [] := by
  simp only [deliveredTo, List.flatMap_cons, List.flatMap_nil, if_neg other, List.append_nil]

theorem deliveredTo_self {identity : Bytes} {first : OutFrame} (rest : List OutFrame)
    (same : first.data = identity) :
    deliveredTo identity [first :: rest] = rest.map OutFrame.data := by
  simp only [deliveredTo, List.flatMap_cons, List.flatMap_nil, if_pos same, List.append_nil]

/-- The message of a handshake brings its client the first three frames. -/
theorem Orderly.delivered_waitMoves (regular : parties.Regular answer) {world : World n}
    (orderly : parties.Orderly answer world) {next : Server (Fin n)}
    (moves : Server.WaitMoves parties.config world.server next) (j : Fin n) :
    parties.delivered { world with server := next } j =
      (parties.frames j (answer j)).take (frameCount next j) := by
  have replied := moves.leavesProcess.replied
  have before := orderly.delivered j
  unfold Parties.delivered at before ⊢
  rcases moves.completes (orderly.sending regular) with
    ⟨xports, complete⟩ | ⟨session, sent, place, rfl, xports, complete⟩
  · rw [complete, before, frameCount, frameCount, replied, xports]
  · have inPlace := Server.cryptoInPlace_of_reachable orderly.reached.reachable
    have count := (Server.numbered_of_reachable orderly.reached.reachable).count
    simp only [Server.CryptoInPlace, place] at inPlace
    rcases orderly.inTurn with between | ⟨i, inbox, identified, begun, asked, during⟩
    · cases between.stands.symm.trans place
    · have stands := during.stands
      rw [place] at stands
      cases stands
      obtain ⟨shared, secret⟩ := exists_sharedSecret regular i
      obtain ⟨value, met, -, -, xport, -⟩ := inPlace.keys regular.lawful
      obtain rfl : shared = value :=
        Except.ok.inj ((agreedValue_session regular secret).symm.trans met)
      rw [during.sessions_length, place] at count
      have sent : world.server.xports.length = i := (Nat.succ.inj count).symm
      have turn := during.replied
      rw [complete, deliveredTo_concat, before]
      by_cases same : j = i
      · subst same
        have none : frameCount world.server j = 0 := by
          unfold frameCount
          split_ifs <;> omega
        have keys : frameCount next j = 3 := by
          unfold frameCount
          rw [replied, xports, List.length_append, List.length_singleton]
          split_ifs <;> omega
        rw [none, keys, frames, secret.sentXport]
        apply (deliveredTo_self _ rfl).trans
        rw [xport]
        rfl
      · have apart : j.val ≠ i.val := fun equal => same (Fin.ext equal)
        have unchanged : frameCount next j = frameCount world.server j := by
          unfold frameCount
          rw [replied, xports, List.length_append, List.length_singleton]
          split_ifs <;> omega
        rw [unchanged]
        refine (congrArg _ (deliveredTo_other _ ?_)).trans (List.append_nil _)
        exact fun equal => same (parties.config.network.identity_injective equal).symm

theorem Orderly.waitRequest (regular : parties.Regular answer) {world : World n}
    (orderly : parties.Orderly answer world) {next : Server (Fin n)}
    (taken : (Server.system parties.config).step world.server .waitRequest = some next)
    (moves : Server.WaitMoves parties.config world.server next) :
    parties.Orderly answer { world with server := next } := by
  have leaves := moves.leavesProcess
  have alive := orderly.alive_waitMoves regular moves
  have more : world.server.xports.length ≤ next.xports.length := by
    rcases moves.completes (orderly.sending regular) with ⟨same, -⟩ | ⟨_, _, -, -, more, -⟩
    · rw [same]
    · rw [more, List.length_append]
      exact Nat.le_add_right _ _
  exact {
    reached := .step orderly.reached (orderly.calm .waitRequest) taken
    alive := alive
    inTurn := orderly.inTurn.waitMoves moves alive
    result := by rw [leaves.process]; exact orderly.result
    delivered := orderly.delivered_waitMoves regular moves
    clients := orderly.clients
    got := fun i => (orderly.got i).trans
      (frameCount_mono (by rw [leaves.replied]) more i) }

/-! ### The processing thread -/

theorem queued_injective {i j : Fin n} (same : parties.queued i = parties.queued j) : i = j :=
  Fin.ext (congrArg Queued.handshake same)

/-- The request of a client is checked after the requests of the earlier ones. -/
theorem Serving.check (regular : parties.Regular answer) {world : World n} {i : Fin n}
    {req : Queued} (serving : parties.Serving world i req) (handOff : world.server.HandOff)
    (place : world.server.process = .check req) :
    parties.config.check (world.server.checked.map Queued.login) req.login = .ok (answer i) := by
  have checked := handOff.checked
  rw [serving.popped, place] at checked
  obtain ⟨earlier, -⟩ := List.append_inj' checked rfl
  rw [← earlier, serving.request, before, List.map_map]
  exact regular.answers i

theorem Orderly.alive_processMoves (regular : parties.Regular answer) {world : World n}
    (orderly : parties.Orderly answer world) {next : Server (Fin n)}
    (moves : Server.ProcessMoves parties.config world.server next) : next.terminated = none := by
  have handOff := orderly.handOff
  cases moves with
  | frontOfEmpty place empty | popOfEmpty place empty =>
      exact absurd empty (handOff.queue_ne_nil (by rw [place]; trivial) (by rw [place]; rfl))
  | checkFails place failed =>
      obtain ⟨i, serving⟩ := orderly.inTurn.serving handOff (by rw [place]; rfl)
      cases (serving.check regular handOff place).symm.trans failed
  | encryptFails place failed =>
      obtain ⟨result, done⟩ :=
        Server.exists_encrypt_reply regular.lawful orderly.reached.reachable place
      cases failed.symm.trans done
  | _ => exact orderly.alive

theorem Orderly.result_processMoves (regular : parties.Regular answer) {world : World n}
    (orderly : parties.Orderly answer world) {next : Server (Fin n)}
    (moves : Server.ProcessMoves parties.config world.server next) :
    parties.ResultInPlace answer next.process := by
  have result := orderly.result
  cases moves with
  | spin => exact result
  | check place done =>
      obtain ⟨i, serving⟩ := orderly.inTurn.serving orderly.handOff (by rw [place]; rfl)
      intro j same
      obtain rfl := queued_injective (serving.request.symm.trans same)
      exact Except.ok.inj (done.symm.trans (serving.check regular orderly.handOff place))
  | encrypt place | sendIdentity place =>
      rw [place] at result
      exact result
  | frontOfEmpty | popOfEmpty | checkFails | encryptFails => exact result
  | _ => trivial

/-- The result is the frame that is meant for its client. -/
theorem Orderly.result_eq (regular : parties.Regular answer) {world : World n}
    (orderly : parties.Orderly answer world) {reply : Sealed}
    (place : world.server.process = .sendResult reply) {i : Fin n}
    (serving : parties.Serving world i reply.queued) :
    reply.result = CipherMode.encryptMessage parties.config.lib.aes
      (parties.config.draws i).contentKey Crypto.iv (Server.reply (answer i)) := by
  have result := orderly.result
  rw [place] at result
  have reached := orderly.reached.reachable
  have bound := (Server.keysBound_of_reachable regular.lawful
    (orderly.reached.mono fun _ _ calm => calm.1)).encrypted reply (by
      rw [Server.encrypted_of_reachable reached, place]
      exact List.mem_append_right _ (List.mem_singleton.mpr rfl))
  have key := bound.key regular.lawful reached
  rcases bound with ⟨-, -, -, -, -, cipherText⟩
  rw [cipherText, key, result i serving.request, serving.request]
  rfl

/-- The reply brings its client the last frame. -/
theorem Orderly.delivered_processMoves (regular : parties.Regular answer) {world : World n}
    (orderly : parties.Orderly answer world) {next : Server (Fin n)}
    (moves : Server.ProcessMoves parties.config world.server next) (j : Fin n) :
    parties.delivered { world with server := next } j =
      (parties.frames j (answer j)).take (frameCount next j) := by
  have xports := moves.leavesReceive.xports
  have before := orderly.delivered j
  unfold Parties.delivered at before ⊢
  rcases moves.completes (orderly.sending regular) with
    ⟨replied, complete⟩ | ⟨reply, place, replied, complete⟩
  · rw [complete, before, frameCount, frameCount, replied, xports]
  · have count := (Server.numbered_of_reachable orderly.reached.reachable).count
    obtain ⟨i, serving⟩ := orderly.inTurn.serving orderly.handOff (by rw [place]; rfl)
    have result := orderly.result_eq regular place serving
    rw [serving.during.sessions_length, serving.stands] at count
    have sent : world.server.xports.length = i + 1 := count.symm
    have turn := serving.during.replied
    have identity : reply.queued.login.clientIdentity = parties.config.network.identity i := by
      rw [serving.request]
      rfl
    rw [complete, deliveredTo_concat, before]
    by_cases same : j = i
    · subst same
      have keys : frameCount world.server j = 3 := by
        unfold frameCount
        split_ifs <;> omega
      have all : frameCount next j = 4 := by
        unfold frameCount
        rw [replied, xports, List.length_append, List.length_singleton]
        split_ifs <;> omega
      rw [keys, all, frames, ← result]
      exact congrArg _ (deliveredTo_self _ identity)
    · have apart : j.val ≠ i.val := fun equal => same (Fin.ext equal)
      have unchanged : frameCount next j = frameCount world.server j := by
        unfold frameCount
        rw [replied, xports, List.length_append, List.length_singleton]
        split_ifs <;> omega
      rw [unchanged]
      refine (congrArg _ (deliveredTo_other _ ?_)).trans (List.append_nil _)
      intro equal
      exact same (parties.config.network.identity_injective (identity.symm.trans equal)).symm

theorem Orderly.processRequest (regular : parties.Regular answer) {world : World n}
    (orderly : parties.Orderly answer world) {next : Server (Fin n)}
    (taken : (Server.system parties.config).step world.server .processRequest = some next)
    (moves : Server.ProcessMoves parties.config world.server next) :
    parties.Orderly answer { world with server := next } := by
  have leaves := moves.leavesReceive
  have more : world.server.replied.length ≤ next.replied.length := by
    rcases moves.completes (orderly.sending regular) with ⟨same, -⟩ | ⟨_, -, more, -⟩
    · rw [same]
    · rw [more, List.length_append]
      exact Nat.le_add_right _ _
  exact {
    reached := .step orderly.reached (orderly.calm .processRequest) taken
    alive := orderly.alive_processMoves regular moves
    inTurn := orderly.inTurn.processMoves orderly.handOff moves
    result := orderly.result_processMoves regular moves
    delivered := orderly.delivered_processMoves regular moves
    clients := orderly.clients
    got := fun i => (orderly.got i).trans
      (frameCount_mono more (by rw [leaves.xports]) i) }

/-! ### The clients -/

theorem clientStep_eq_some {world next : World n} {i : Fin n}
    (taken : parties.clientStep world i = some next) :
    MayGreet world i ∧ ∃ client message,
      (world.clients i).connectAndGetAuthToken i (parties.draw i) (parties.clientID i)
        (parties.delivered world i) = some (client, message) ∧
      ((message = none ∧ next = { world with clients := Function.update world.clients i client }) ∨
        ∃ sent, message = some sent ∧
          next = ⟨world.server.arrive sent, Function.update world.clients i client⟩) := by
  unfold clientStep at taken
  split_ifs at taken with mayGreet
  refine ⟨mayGreet, ?_⟩
  split at taken
  case h_1 => cases taken
  case h_2 client moved =>
      exact ⟨client, none, moved, .inl ⟨rfl, (Option.some.inj taken).symm⟩⟩
  case h_3 client sent moved =>
      obtain ⟨server, arrived, rfl⟩ := Option.map_eq_some_iff.mp taken
      rcases Server.step_cases arrived with ⟨-, ⟨message, same, rfl⟩ | ⟨same, -⟩ | ⟨same, -⟩⟩
      · cases same
        exact ⟨client, some sent, moved, .inr ⟨sent, rfl, rfl⟩⟩
      · cases same
      · cases same

theorem sends_eq_some {i : Fin n} {thread : ClientThread} {message : Message (Fin n)}
    (sends : parties.sends i thread = some message) :
    (thread = .sendGreeting ∧ message = parties.greetingMessage i) ∨
      (thread = .sendID ∧ message = parties.idMessage i) := by
  cases thread with
  | sendGreeting => exact .inl ⟨rfl, (Option.some.inj sends).symm⟩
  | sendID => exact .inr ⟨rfl, (Option.some.inj sends).symm⟩
  | _ => cases sends

/-- Who sends nothing passes neither of the two sends. -/
theorem remaining_of_sends_none {i : Fin n} {thread : ClientThread}
    (quiet : parties.sends i thread = none) : thread.remaining ≠ 9 ∧ thread.remaining ≠ 3 := by
  cases thread with
  | sendGreeting | sendID => cases quiet
  | _ => exact ⟨by rintro ⟨⟩, by rintro ⟨⟩⟩

theorem Orderly.goesOn (regular : parties.Regular answer) {world : World n}
    (orderly : parties.Orderly answer world) {i : Fin n} {client : Client}
    {message : Option (Message (Fin n))}
    (moved : (world.clients i).connectAndGetAuthToken i (parties.draw i) (parties.clientID i)
      (parties.delivered world i) = some (client, message)) :
    parties.GoesOn i (answer i) (parties.delivered world i) (world.clients i) client message := by
  refine (orderly.clients i).goesOn regular ?_ moved
  rw [orderly.delivered]
  exact List.take_prefix _ _

/-- A client whose next statement sends its ID has got the wrapped key. -/
theorem Orderly.sent_of_sendID {world : World n} (orderly : parties.Orderly answer world)
    {i : Fin n} (place : (world.clients i).thread = .sendID) :
    i.val < world.server.xports.length := by
  have inPlace := orderly.clients i
  have got := orderly.got i
  have count := (Server.numbered_of_reachable orderly.reached.reachable).count
  simp only [ClientInPlace, place] at inPlace
  rw [inPlace.2, frameCount] at got
  rcases orderly.inTurn with between | ⟨j, inbox, identified, begun, asked, during⟩
  · rw [between.sessions, before_length _ between.within, between.stands] at count
    have count : world.server.replied.length = world.server.xports.length := count
    split_ifs at got <;> omega
  · have unsent := during.stands.unsent_le
    rw [during.sessions_length] at count
    have turn := during.replied
    split_ifs at got <;> omega

theorem Orderly.client (regular : parties.Regular answer) {world next : World n}
    (orderly : parties.Orderly answer world) {i : Fin n}
    (taken : parties.clientStep world i = some next) : parties.Orderly answer next := by
  obtain ⟨mayGreet, client, message, moved, after⟩ := clientStep_eq_some taken
  have goesOn := orderly.goesOn regular moved
  have remaining := goesOn.remaining
  have sends := goesOn.message
  have clients : ∀ j, parties.ClientInPlace j (answer j)
      (Function.update world.clients i client j) :=
    (Function.forall_update_iff world.clients fun j other =>
      parties.ClientInPlace j (answer j) other).mpr
        ⟨goesOn.inPlace, fun j _ => orderly.clients j⟩
  have got : ∀ j, (Function.update world.clients i client j).got ≤ frameCount world.server j := by
    refine (Function.forall_update_iff world.clients fun j other =>
      other.got ≤ frameCount world.server j).mpr ⟨?_, fun j _ => orderly.got j⟩
    rcases goesOn.got with same | within
    · rw [same]
      exact orderly.got i
    · rw [orderly.delivered, List.length_take] at within
      exact within.trans (Nat.min_le_left _ _)
  rcases after with ⟨rfl, rfl⟩ | ⟨sent, rfl, rfl⟩
  · obtain ⟨notGreeting, notID⟩ := remaining_of_sends_none sends.symm
    have greeted : client.thread.HasGreeted ↔ (world.clients i).thread.HasGreeted := by
      unfold ClientThread.HasGreeted
      omega
    have identified : client.thread.HasIdentified ↔ (world.clients i).thread.HasIdentified := by
      unfold ClientThread.HasIdentified
      omega
    exact { orderly with inTurn := orderly.inTurn.quiet greeted identified, clients, got }
  · have inTurn : parties.InTurn
        ⟨world.server.arrive sent, Function.update world.clients i client⟩ := by
      rcases sends_eq_some sends.symm with ⟨place, rfl⟩ | ⟨place, rfl⟩
      · rw [place] at remaining
        exact orderly.inTurn.sendGreeting place (mayGreet place) (Nat.succ.inj remaining)
      · rw [place] at remaining
        exact orderly.inTurn.sendID (Server.numbered_of_reachable orderly.reached.reachable) place
          (orderly.sent_of_sendID place) (Nat.succ.inj remaining)
    have arrives : (Server.system parties.config).step world.server (.arrive sent) =
        some (world.server.arrive sent) := by
      simp only [Server.system, orderly.alive, Option.isSome_none, Bool.false_eq_true, if_false]
    exact {
      reached := .step orderly.reached (orderly.calm _) arrives
      alive := orderly.alive
      inTurn := inTurn
      result := orderly.result
      delivered := orderly.delivered
      clients := clients
      got := got }

/-! ### Every run -/

theorem orderly_initial {world : World n}
    (initially : parties.system.initial world) : parties.Orderly answer world := by
  rcases initially with ⟨crypto, rfl⟩
  exact {
    reached := .initial ⟨crypto, rfl⟩
    alive := rfl
    inTurn := .inl ⟨rfl, rfl, Nat.zero_le n, rfl, rfl,
      fun j => iff_of_false (show ¬ 10 ≤ 8 by decide) (Nat.not_lt_zero _),
      fun j => iff_of_false (show ¬ 10 ≤ 2 by decide) (Nat.not_lt_zero _)⟩
    result := trivial
    delivered := fun _ => rfl
    clients := fun _ => ⟨rfl, rfl⟩
    got := fun _ => Nat.zero_le _ }

theorem Orderly.next (regular : parties.Regular answer) {world next : World n}
    (orderly : parties.Orderly answer world) {turn : Turn n}
    (taken : parties.system.step world turn = some next) : parties.Orderly answer next := by
  cases turn with
  | waitRequest =>
      obtain ⟨server, moved, rfl⟩ := Option.map_eq_some_iff.mp taken
      rcases Server.step_cases moved with ⟨-, ⟨message, same, -⟩ | ⟨-, moves⟩ | ⟨same, -⟩⟩
      · cases same
      · exact orderly.waitRequest regular moved moves
      · cases same
  | processRequest =>
      obtain ⟨server, moved, rfl⟩ := Option.map_eq_some_iff.mp taken
      rcases Server.step_cases moved with ⟨-, ⟨message, same, -⟩ | ⟨same, -⟩ | ⟨-, moves⟩⟩
      · cases same
      · cases same
      · exact orderly.processRequest regular moved moves
  | client i => exact orderly.client regular taken

theorem orderly_of_reachable (regular : parties.Regular answer) {world : World n}
    (reached : parties.system.Reachable world) : parties.Orderly answer world :=
  reached.invariant (parties.Orderly answer) (fun _ => orderly_initial)
    fun _ _ _ orderly taken => orderly.next regular taken

end Parties

end LicensingServer
