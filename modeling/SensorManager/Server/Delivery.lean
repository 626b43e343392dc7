import SensorManager.Server.Answers
import SensorManager.Server.Snapshots
import SensorManager.Server.Turns

/-!
# From the executor to the socket

As long as every answer is given while its slot is free or still held by the
connection that asked, a live connection is sent the answers to its own
questions, in their order and once each.
-/

namespace SensorManager

open Function

variable {δ κ α : Type}

namespace Side

open Server

/-- A connection keeps the slot that its questions name, and was sent the
answers to them. -/
structure Delivering (channel : Channel) (serialize : α → ByteString) (clientIn : κ → Int)
    (side : Side δ κ α) (server : Server δ) : Prop where
  asked : ∀ stamped ∈ side.asked, stamped.conn < server.connections ∧
    ∀ slot, server.holder channel slot = some stamped.conn →
      slot = clientIn stamped.request
  sent : ∀ slot conn, server.holder channel slot = some conn →
    server.sentTo channel conn =
      (side.handed.filter (·.conn = conn)).map fun response => serialize response.request

/-- Every answer is one to a question that was asked, of the same connection and
slot, and the answers handed out are among them. -/
structure Traced (lane : Lane δ κ α) (clientIn : κ → Int) (side : Side δ κ α) : Prop where
  origin : ∀ response ∈ (Pipeline.answered side.finished).map Prod.snd,
    ∃ stamped ∈ side.asked, response.conn = stamped.conn ∧
      lane.clientId response.request = clientIn stamped.request
  handed : side.handed ⊆ (Pipeline.answered side.finished).map Prod.snd

variable {lane : Lane δ κ α} {channel : Channel} {serialize : α → ByteString}
  {clientIn : κ → Int} {side after : Side δ κ α} {server changed : Server δ}

theorem Sound.traced {η : Type} {programs : κ → Pass δ α → Prop} {keyIn : κ → Int × η}
    {keyOf : α → Int × η}
    (keyed : ∀ stamped response, Computed programs stamped response →
      keyOf response.request = keyIn stamped.request)
    (client : ∀ response, lane.clientId response = (keyOf response).1)
    (sound : Sound lane programs keyIn keyOf side server) :
    Traced lane (fun request => (keyIn request).1) side := by
  have answers := sound.coherent.answers
  change side.handed ++ side.sender.toList ++ lane.responses server =
    (Pipeline.answered side.finished).map Prod.snd at answers
  refine ⟨?_, ?_⟩
  · intro response member
    obtain ⟨⟨stamped, other⟩, isAnswered, rfl⟩ := List.mem_map.mp member
    have ended := mem_answered.mp isAnswered
    have computed := sound.finished stamped other ended
    refine ⟨stamped, ?_, computed.1, ?_⟩
    · have questions := sound.coherent.questions
      change _ = side.asked at questions
      rw [← questions]
      refine List.mem_append_left _ (List.mem_append_left _ ?_)
      exact List.mem_map.mpr ⟨_, ended, rfl⟩
    · rw [client, keyed stamped other computed]
  · intro response member
    rw [← answers]
    exact List.mem_append_left _ (List.mem_append_left _ member)

theorem Delivering.fewer (delivering : Delivering channel serialize clientIn side server)
    (asked : after.asked = side.asked) (handed : after.handed = side.handed)
    (fewer : Fewer channel server changed) :
    Delivering channel serialize clientIn after changed := by
  refine ⟨?_, ?_⟩
  · rw [asked]
    intro stamped member
    obtain ⟨below, home⟩ := delivering.asked stamped member
    exact ⟨below.trans_le fewer.connections,
      fun slot held => home slot (fewer.holders slot _ held)⟩
  · intro slot conn held
    rw [handed, fewer.sentTo]
    exact delivering.sent slot conn (fewer.holders slot conn held)

/-- A connection that is new has asked nothing and was sent nothing. -/
theorem Delivering.accept (delivering : Delivering channel serialize clientIn side server)
    (traced : Traced lane clientIn side) (buffered : server.Buffered) {slot socket : Int}
    (range : (server.handler channel).inRange slot = true) (bound : socket > -1)
    (service : SockAddr) :
    Delivering channel serialize clientIn side (server.accept channel slot socket service) := by
  have holders : (server.accept channel slot socket service).holder channel =
      update (server.holder channel) slot (some server.connections) := by
    funext other
    rw [holder, handler_accept, ClientsHandler.holder_bindHandler range bound]
    rfl
  refine ⟨?_, ?_⟩
  · intro stamped member
    obtain ⟨below, home⟩ := delivering.asked stamped member
    refine ⟨Nat.lt_succ_of_lt below, ?_⟩
    intro other held
    rw [holders] at held
    by_cases same : other = slot
    · obtain new : server.connections = stamped.conn := by simpa [same] using held
      omega
    · rw [update_of_ne same] at held
      exact home other held
  · intro other conn held
    rw [holders] at held
    by_cases same : other = slot
    · obtain rfl : server.connections = conn := by simpa [same] using held
      have unused : server.sentTo channel server.connections = [] :=
        ((buffered channel).unused _ le_rfl).1
      have unasked : side.handed.filter (·.conn = server.connections) = [] := by
        rw [List.filter_eq_nil_iff]
        intro response member
        obtain ⟨stamped, isAsked, conn, -⟩ := traced.origin response (traced.handed member)
        have := (delivering.asked stamped isAsked).1
        simp only [decide_eq_true_eq]
        omega
      rw [unasked]
      exact unused
    · rw [update_of_ne same] at held
      exact delivering.sent other conn held

/-- The answer reaches the live connection that asked, and no other. -/
theorem Delivering.hand (delivering : Delivering channel serialize clientIn side server)
    (traced : Traced lane clientIn side) {response : Stamped α}
    (answers : response ∈ (Pipeline.answered side.finished).map Prod.snd)
    (free : server.FreeOrHeldBy channel (lane.clientId response.request) response.conn)
    (nonempty : serialize response.request ≠ []) (sent : Int)
    (asked : after.asked = side.asked) (handed : after.handed = side.handed ++ [response]) :
    Delivering channel serialize clientIn after
      (server.send channel (lane.clientId response.request) (serialize response.request) sent) := by
  obtain ⟨stamped, isAsked, sameConn, sameSlot⟩ := traced.origin response answers
  have home := (delivering.asked stamped isAsked).2
  refine ⟨?_, ?_⟩
  · rw [asked, connections_send, holder_send]
    exact delivering.asked
  · intro slot conn held
    rw [holder_send] at held
    have before := delivering.sent slot conn held
    rw [sentTo_send _ _ nonempty, handed, List.filter_append, List.map_append, ← before]
    by_cases isAsker : response.conn = conn
    · -- A live connection that asked still has the slot that its question names.
      have isSlot : slot = lane.clientId response.request := by
        rw [sameSlot]
        apply home slot
        rw [← sameConn, isAsker]
        exact held
      subst isSlot
      rw [ClientsHandler.sentWith, ClientsHandler.addTo_self _ held]
      simp [isAsker]
    · have other : (server.handler channel).holder (lane.clientId response.request) ≠
          some conn := fun holds => isAsker (free conn holds).symm
      rw [ClientsHandler.sentWith, ClientsHandler.addTo_other _ other]
      simp [isAsker]

theorem Delivering.turn (delivering : Delivering channel serialize clientIn side server)
    (traced : Traced lane clientIn side) (buffered : server.Buffered)
    (nonempty : ∀ response, serialize response ≠ [])
    (free : ∀ response, after.handed = side.handed ++ [response] →
      server.FreeOrHeldBy channel (lane.clientId response.request) response.conn)
    (turns : Turns lane channel serialize clientIn side server after changed) :
    Delivering channel serialize clientIn after changed := by
  cases turns with
  | fewer asked handed fewer => exact delivering.fewer asked handed fewer
  | accept asked handed range bound accepted =>
      subst accepted
      exact (delivering.accept traced buffered range bound _).fewer asked handed (.refl _ _)
  | ask asked handed held fewer =>
      have kept := delivering.fewer rfl rfl fewer
      refine ⟨?_, ?_⟩
      · rw [asked]
        intro stamped member
        rcases List.mem_append.mp member with old | new
        · exact kept.asked stamped old
        · obtain rfl := List.mem_singleton.mp new
          refine ⟨((buffered channel).below _ _ held).trans_le fewer.connections, ?_⟩
          intro slot holds
          exact (buffered channel).apart slot _ _ (fewer.holders slot _ holds) held
      · rw [handed]
        exact kept.sent
  | hand _ asked handed answers sends =>
      subst sends
      exact delivering.hand traced answers (free _ handed) (nonempty _) _ asked handed

theorem delivering_start (requests : side.asked = [])
    (free : ∀ slot, server.holder channel slot = none) :
    Delivering channel serialize clientIn side server := by
  refine ⟨by simp [requests], ?_⟩
  intro slot conn held
  cases (free slot).symm.trans held

/-- The questions of a connection, without those whose execution threw. -/
def questionsOf (side : Side δ κ α) (conn : Nat) : List (Stamped κ) :=
  side.remaining.filter (·.conn = conn)

theorem questionsOf_sublist (side : Side δ κ α) (conn : Nat) :
    (side.questionsOf conn).Sublist (side.asked.filter (·.conn = conn)) := by
  apply List.Sublist.filter
  exact Pipeline.remaining_sublist _ _

/-- Questions with their answers: the first of those a connection has asked, in
their order, and each with what the executor's pass over it has returned. -/
structure Answers
    (executed : List (Stamped κ × Except SQLException (Stamped α)) → Stamped κ → α → Prop)
    (side : Side δ κ α) (conn : Nat) (served : List (Stamped κ × Stamped α)) : Prop where
  first : served.map Prod.fst <+: side.questionsOf conn
  answered : served.Sublist (Pipeline.answered side.finished)
  conn : ∀ pair ∈ served, pair.2.conn = pair.1.conn
  computed : ∀ pair ∈ served, ∀ earlier later,
    side.finished = earlier ++ (pair.1, .ok pair.2) :: later →
    executed earlier pair.1 pair.2.request

section Answers

variable {side : Side δ κ α} {conn : Nat} {served first : List (Stamped κ × Stamped α)}
  {executed : List (Stamped κ × Except SQLException (Stamped α)) → Stamped κ → α → Prop}

/-- The first of the answers are answers, too. -/
theorem Answers.front (answers : Answers executed side conn served)
    (front : first <+: served) : Answers executed side conn first :=
  ⟨(front.map _).trans answers.first, front.sublist.trans answers.answered,
    fun pair member => answers.conn pair (front.subset member),
    fun pair member => answers.computed pair (front.subset member)⟩

theorem Answers.of_conn (answers : Answers executed side conn served)
    {pair : Stamped κ × Stamped α} (member : pair ∈ served) : pair.2.conn = conn := by
  rw [answers.conn pair member]
  have isQuestion := answers.first.subset (List.mem_map_of_mem member)
  simpa using (List.mem_filter.mp isQuestion).2

/-- An answer has its place among what has become of the questions. -/
theorem Answers.split (answers : Answers executed side conn served)
    {pair : Stamped κ × Stamped α} (member : pair ∈ served) :
    ∃ earlier later, side.finished = earlier ++ (pair.1, .ok pair.2) :: later ∧
      executed earlier pair.1 pair.2.request := by
  obtain ⟨earlier, later, split⟩ :=
    List.append_of_mem (mem_answered.mp (answers.answered.subset member))
  exact ⟨earlier, later, split, answers.computed pair member earlier later split⟩

end Answers

/-- The answers handed out to a live connection are those to the first of its
questions, and to all of them once the lane is drained. -/
theorem Delivering.served {lane : Lane δ κ α} {channel : Channel} {serialize : α → ByteString}
    {clientIn : κ → Int} {side : Side δ κ α} {server : Server δ} {η : Type}
    {programs : κ → Pass δ α → Prop} {keyIn : κ → Int × η} {keyOf : α → Int × η}
    {executed : List (Stamped κ × Except SQLException (Stamped α)) → Stamped κ → α → Prop}
    (delivering : Delivering channel serialize clientIn side server)
    (sound : Sound lane programs keyIn keyOf side server)
    (own : ∀ earlier stamped response later,
      side.finished = earlier ++ (stamped, .ok response) :: later →
      executed earlier stamped response.request) {slot : Int} {conn : Nat}
    (held : server.holder channel slot = some conn) :
    ∃ served, Answers executed side conn served ∧
      served.map Prod.snd ⊆ side.handed ∧
      server.sentTo channel conn = served.map (fun pair => serialize pair.2.request) ∧
      (side.Drained lane server → served.map Prod.fst = side.questionsOf conn) := by
  obtain ⟨served, answered, handed, first, all⟩ := sound.coherent.in_order
  change side.handed = served.map Prod.snd at handed
  change served.map Prod.fst <+: side.remaining at first
  have computed : ∀ pair ∈ served, Computed programs pair.1 pair.2 := fun pair member =>
    sound.finished pair.1 pair.2 (mem_answered.mp (answered.subset member))
  -- Question and answer are of the same connection.
  have asker : served.filter (fun pair => pair.1.conn = conn) =
      served.filter (fun pair => pair.2.conn = conn) := by
    apply List.filter_congr
    intro pair member
    rw [(computed pair member).1]
  have questions : (served.filter (fun pair => pair.1.conn = conn)).map Prod.fst =
      (served.map Prod.fst).filter (·.conn = conn) := by
    rw [List.filter_map]
    rfl
  refine ⟨served.filter (fun pair => pair.1.conn = conn), ⟨?_, ?_, ?_, ?_⟩, ?_, ?_, ?_⟩
  · rw [questions]
    exact first.filter _
  · exact List.filter_sublist.trans answered.sublist
  · exact fun pair member => (computed pair (List.mem_of_mem_filter member)).1
  · exact fun pair _ earlier later split => own earlier pair.1 pair.2 later split
  · rw [handed]
    exact List.map_subset _ (List.filter_subset_self _)
  · rw [delivering.sent slot conn held, handed, List.filter_map, List.map_map, asker]
    rfl
  · rintro ⟨requests, executor, responses, sender⟩
    rw [questions, questionsOf]
    exact congrArg _ (all ⟨requests, by simp [pipeline, executor], responses, sender⟩)

end Side

namespace Threads

open Side Server

variable {database : IDatabaseConnection δ} {threads after : Threads δ}

/-- If the step hands out an answer, its slot is free or held by the connection
that asked. -/
structure HandsToAsker (before after : Threads δ) : Prop where
  administrators : ∀ response,
    after.administrators.handed = before.administrators.handed ++ [response] →
    before.server.FreeOrHeldBy .administrator response.request.clientId response.conn
  monitoring : ∀ response, after.monitoring.handed = before.monitoring.handed ++ [response] →
    before.server.FreeOrHeldBy .monitoring response.request.clientId response.conn

/-- Both channels deliver. -/
structure Delivers (threads : Threads δ) : Prop where
  administrators : Delivering .administrator
    SerializerAdministratorMessage.serializeResponseMessage
    (fun request => (administratorKey request).1) threads.administrators threads.server
  monitoring : Delivering .monitoring SerializerMonitoringMessage.serializeResponseMessage
    (fun request => (monitoringKey request).1) threads.monitoring threads.server

theorem delivers_start (content : δ) : Delivers (start content) := by
  have free : ∀ channel slot, (Server.start content).holder channel slot = none := by
    simp [Server.start, holder, handler, ClientsHandler.holder, ClientsHandler.create,
      Client.unbound, Client.reset, Client.isConnected]
  exact ⟨delivering_start rfl (free _), delivering_start rfl (free _)⟩

theorem Delivers.step {label : OutLabel} (delivers : Delivers threads)
    (outbound : threads.Outbound database) (hands : HandsToAsker threads after)
    (stepped : outStep database label threads = some after) : Delivers after := by
  have turned := turned_of_step outbound.sound outbound.atWork stepped
  have sound := outbound.sound
  refine ⟨?_, ?_⟩
  · exact delivers.administrators.turn
      (sound.administrators.traced administrator_keyed fun _ => rfl) outbound.buffered
      SerializerAdministratorMessage.serializeResponseMessage_ne_nil
      hands.administrators turned.administrators
  · exact delivers.monitoring.turn (sound.monitoring.traced monitoring_keyed fun _ => rfl)
      outbound.buffered SerializerMonitoringMessage.serializeResponseMessage_ne_nil
      hands.monitoring turned.monitoring

theorem OutRun.delivers {content : δ}
    (run : OutRun database HandsToAsker (Threads.start content) threads) : Delivers threads := by
  induction run with
  | start => exact delivers_start content
  | next label before stepped hands ih => exact ih.step before.outbound hands stepped

/-- The slots of the answers that the senders have in hand are held by the
connections that asked. -/
def askersHold (threads : Threads δ) : Bool :=
  (threads.administrators.sender.all fun response =>
    (threads.server.holder .administrator response.request.clientId).all fun holder =>
      holder = response.conn) &&
  threads.monitoring.sender.all fun response =>
    (threads.server.holder .monitoring response.request.clientId).all fun holder =>
      holder = response.conn

theorem handsToAsker_of_askersHold {label : OutLabel} (outbound : threads.Outbound database)
    (hold : askersHold threads = true)
    (stepped : outStep database label threads = some after) : HandsToAsker threads after := by
  have turned := turned_of_step outbound.sound outbound.atWork stepped
  simp only [askersHold, Bool.and_eq_true] at hold
  refine ⟨?_, ?_⟩
  · intro response hands holder held
    have busy := turned.administrators.sender_of_handed hands
    simpa [busy, held] using hold.1
  · intro response hands holder held
    have busy := turned.monitoring.sender_of_handed hands
    simpa [busy, held] using hold.2

/-- The moment at which an answer was read lies between two parts of the run. -/
theorem HasRead.outRuns {database : IDatabaseConnection δ}
    {meets : Threads δ → Threads δ → Prop} {side : Threads δ → Side δ κ α}
    {gives : κ → δ → α → Prop} {initial threads : Threads δ}
    {earlier : List (Stamped κ × Except SQLException (Stamped α))} {stamped : Stamped κ}
    {response : α}
    (hasRead : HasRead (OutGoes database meets) side gives initial threads earlier stamped
      response) :
    ∃ moment, OutRun database meets initial moment ∧ OutRun database meets moment threads ∧
      moment.Reads side gives earlier stamped response := by
  obtain ⟨moment, called, reached, moved, goesOn, reads, -⟩ := hasRead
  exact ⟨moment, .of_goes reached, .of_goes (goesOn.head moved), reads⟩

end Threads

end SensorManager
