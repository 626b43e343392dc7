import SensorManager.Server.Executors
import SensorManager.Server.Passes

/-!
# Answers in the order of the questions

The administrators and the monitors do not match answers with questions, so
they rely on the order in which the server answers.  A channel of the server is
a `Pipeline`, whatever the calls of its executor do to the rest of the server.
-/

namespace SensorManager

open Process

variable {δ κ α : Type}

namespace Pass

open Server

variable {database : IDatabaseConnection δ}

theorem always_callDatabase (call : DatabaseCall δ α) :
    Always SameQueues (Process.call (callDatabase call)) := by
  apply always_call
  intro before result after ran
  obtain ⟨changed, -, rfl⟩ := Exec.runOn_zoom_eq_some.mp ran
  exact ⟨rfl, rfl, rfl, rfl⟩

/-- No call of an administrator's request touches the queues. -/
theorem sameQueues_executeAdministratorRequest (request : AdministratorRequest)
    (rands : List (Vector Nat 15)) (sent : Int) :
    Always SameQueues (executeAdministratorRequest database request rands sent) := by
  by_cases command : request.commandType = .generateToken
  · unfold executeAdministratorRequest
    rw [command]
    have drawn : Always SameQueues (generateFreshToken database rands) :=
      (always_generateFreshToken rands).mono fun _ _ acts => acts.sameQueues
    refine always_bind drawn fun token => ?_
    exact always_bind (always_callDatabase _) fun _ => always_pure _
  · exact (always_executeAdministratorRequest command rands sent).mono
      fun _ _ acts => acts.sameQueues

/-- The answer names the client and the command of the request. -/
theorem computes_executeAdministratorRequest {request : AdministratorRequest}
    {rands : List (Vector Nat 15)} {sent : Int} {response : AdministratorResponse}
    (computes : (executeAdministratorRequest database request rands sent).Computes
      (.ok response)) :
    response.clientId = request.clientId ∧ response.commandType = request.commandType := by
  unfold executeAdministratorRequest at computes
  cases command : request.commandType with
  | getAllSensors | updateSensorName =>
      rw [command] at computes
      obtain ⟨_, -, computes⟩ := computes.of_bind
      rw [computes.of_pure]
      exact ⟨rfl, rfl⟩
  | revokeSensor | disconnectSensor | generateToken =>
      rw [command] at computes
      obtain ⟨_, -, computes⟩ := computes.of_bind
      obtain ⟨_, -, computes⟩ := computes.of_bind
      rw [computes.of_pure]
      exact ⟨rfl, rfl⟩

theorem computes_executeMonitoringRequest {request : MonitoringRequest}
    {response : MonitoringResponse}
    (computes : (executeMonitoringRequest database request).Computes (.ok response)) :
    response.clientId = request.clientId ∧ response.commandType = request.commandType := by
  unfold executeMonitoringRequest at computes
  cases command : request.commandType with
  | getAllSensorsMonitoring | getSetOfMeasurements =>
      rw [command] at computes
      obtain ⟨_, -, computes⟩ := computes.of_bind
      rw [computes.of_pure]
      exact ⟨rfl, rfl⟩

end Pass

/-- The queues of the lane are the same. -/
def Lane.Same (lane : Lane δ κ α) (before after : Server δ) : Prop :=
  lane.requests after = lane.requests before ∧ lane.responses after = lane.responses before

/-- The queues of the lane are among those that the calls of an executor
leave. -/
def Lane.Keeps (lane : Lane δ κ α) : Prop :=
  ∀ before after, Server.SameQueues before after → lane.Same before after

/-- What the threads of a lane do to its queues leaves those of the other. -/
structure Lane.Apart {μ ν : Type} (lane : Lane δ κ α) (other : Lane δ μ ν) : Prop where
  setRequests : ∀ server queue, other.Same server (lane.setRequests server queue)
  setResponses : ∀ server queue, other.Same server (lane.setResponses server queue)
  hand : ∀ server response sent, other.Same server (lane.hand server response sent)

namespace Side

/-- The channel as a line of questions and answers. -/
def pipeline (lane : Lane δ κ α) (side : Side δ κ α) (server : Server δ) :
    Pipeline SQLException (Stamped κ) (Stamped α) :=
  { asked := side.asked
    questions := lane.requests server
    working := side.executor.map Prod.fst
    finished := side.finished
    answers := lane.responses server
    sending := side.sender
    handed := side.handed }

/-- A pass over the request could have computed the response. -/
def Computed (programs : κ → Pass δ α → Prop) (stamped : Stamped κ) (response : Stamped α) :
    Prop :=
  response.conn = stamped.conn ∧
    ∃ program, programs stamped.request program ∧ program.Computes (.ok response.request)

/-- `programs` are the passes that the executor may make over a request, and
`keyOf` and `keyIn` what a response and its request have in common, with the
client first. -/
structure Sound {η : Type} (lane : Lane δ κ α) (programs : κ → Pass δ α → Prop)
    (keyIn : κ → Int × η) (keyOf : α → Int × η) (side : Side δ κ α) (server : Server δ) :
    Prop where
  coherent : (side.pipeline lane server).Coherent
  asked : ∀ stamped ∈ side.asked, (keyIn stamped.request).1 ≠ -1
  finished : ∀ stamped response, (stamped, .ok response) ∈ side.finished →
    Computed programs stamped response
  executor : ∀ stamped process, side.executor = some (stamped, process) →
    process.Safe (fun _ _ => True) Server.SameQueues server ∧
      ∃ program, programs stamped.request program ∧
        ∀ result, process.Computes result → program.Computes result

/-- The requests that were pushed without those whose execution threw. -/
def remaining (side : Side δ κ α) : List (Stamped κ) :=
  Pipeline.remaining side.asked (side.finished.map Prod.snd)

/-- The executor and the sender wait in front of empty queues. -/
structure Drained (lane : Lane δ κ α) (side : Side δ κ α) (server : Server δ) : Prop where
  requests : lane.requests server = []
  executor : side.executor = none
  responses : lane.responses server = []
  sender : side.sender = none

/-- What the channel promises at every moment.  `executed` tells what the pass over
a question has returned that the executor made behind the earlier ones. -/
structure InOrder {η : Type} (lane : Lane δ κ α)
    (executed : List (Stamped κ × Except SQLException (Stamped α)) → Stamped κ → α → Prop)
    (keyIn : κ → Int × η) (keyOf : α → Int × η) (side : Side δ κ α) (server : Server δ) :
    Prop where
  finished : side.finished.map Prod.fst <+: side.asked
  handed : side.handed.map (fun response => keyOf response.request) <+:
    side.remaining.map fun stamped => keyIn stamped.request
  drained : side.Drained lane server →
    side.handed.map (fun response => keyOf response.request) =
      side.remaining.map fun stamped => keyIn stamped.request
  computed : ∀ (index : Nat) (response : Stamped α), side.handed[index]? = some response →
    ∃ earlier stamped later, side.remaining[index]? = some stamped ∧
      side.finished = earlier ++ (stamped, .ok response) :: later ∧
      (Pipeline.answered earlier).length = index ∧
      response.conn = stamped.conn ∧ executed earlier stamped response.request

section Moves

variable {η : Type} {lane : Lane δ κ α} {programs : κ → Pass δ α → Prop}
  {keyIn : κ → Int × η} {keyOf : α → Int × η} {side after : Side δ κ α}
  {server changed : Server δ}

/-- A step of another thread leaves the side as it is. -/
theorem Sound.of_same (sound : Sound lane programs keyIn keyOf side server)
    (same : lane.Same server changed) : Sound lane programs keyIn keyOf side changed := by
  obtain ⟨requests, responses⟩ := same
  refine ⟨?_, sound.asked, sound.finished, ?_⟩
  · have coherent := sound.coherent
    unfold pipeline at coherent ⊢
    rwa [requests, responses]
  · intro stamped process busy
    obtain ⟨safe, program⟩ := sound.executor stamped process busy
    exact ⟨safe.of_rely trivial, program⟩

theorem Sound.take {execute : Stamped κ → Pass δ α}
    (sound : Sound lane programs keyIn keyOf side server)
    (always : ∀ stamped, (execute stamped).Always Server.SameQueues)
    (program : ∀ stamped, programs stamped.request (execute stamped))
    (taken : side.take lane execute server = some (after, changed)) :
    Sound lane programs keyIn keyOf after changed := by
  unfold Side.take at taken
  split at taken
  · next stamped queue idle queued =>
      cases taken
      refine ⟨?_, sound.asked, sound.finished, ?_⟩
      · have moved := sound.coherent.move
          (.take (side.pipeline lane server) (by simp [pipeline, idle]) queued)
        unfold pipeline at moved ⊢
        rw [lane.requests_setRequests, lane.responses_setRequests]
        exact moved
      · intro other process busy
        cases busy
        exact ⟨(always stamped).safe _, _, program stamped, fun _ computes => computes⟩
  · cases taken

theorem Sound.pick (sound : Sound lane programs keyIn keyOf side server)
    (picked : side.pick lane server = some (after, changed)) :
    Sound lane programs keyIn keyOf after changed := by
  unfold Side.pick at picked
  split at picked
  · next response queue idle queued =>
      cases picked
      refine ⟨?_, sound.asked, sound.finished, ?_⟩
      · have moved := sound.coherent.move
          (.pick (side.pipeline lane server) (by simp [pipeline, idle]) queued)
        unfold pipeline at moved ⊢
        rw [lane.requests_setResponses, lane.responses_setResponses]
        exact moved
      · intro stamped process busy
        obtain ⟨safe, program⟩ := sound.executor stamped process busy
        exact ⟨safe.of_rely trivial, program⟩
  · cases picked

/-- The end of a pass whose response is pushed. -/
theorem Sound.returned {stamped : Stamped κ} {value : α}
    (sound : Sound lane programs keyIn keyOf side server)
    (busy : side.executor = some (stamped, .ended (.ok value))) :
    Sound lane programs keyIn keyOf
      { side with
        executor := none
        finished := side.finished ++ [(stamped, .ok { stamped with request := value })] }
      (lane.setResponses server
        (lane.responses server ++ [{ stamped with request := value }])) := by
  refine ⟨?_, sound.asked, ?_, by simp⟩
  · have working : (side.pipeline lane server).working = some stamped := by
      simp [pipeline, busy]
    have moved := sound.coherent.move (.finish _ { stamped with request := value } working)
    unfold pipeline at moved ⊢
    rw [lane.requests_setResponses, lane.responses_setResponses]
    exact moved
  · intro other response member
    rcases List.mem_append.mp member with earlier | last
    · exact sound.finished other response earlier
    · cases List.mem_singleton.mp last
      obtain ⟨-, program, allowed, computes⟩ := sound.executor stamped _ busy
      exact ⟨rfl, program, allowed, computes _ (.ended _)⟩

/-- The end of a pass that has thrown. -/
theorem Sound.threw {stamped : Stamped κ} {error : SQLException}
    (sound : Sound lane programs keyIn keyOf side server)
    (busy : side.executor = some (stamped, .ended (.error error))) :
    Sound lane programs keyIn keyOf
      { side with
        executor := none
        finished := side.finished ++ [(stamped, .error error)] } server := by
  refine ⟨?_, sound.asked, ?_, by simp⟩
  · have working : (side.pipeline lane server).working = some stamped := by
      simp [pipeline, busy]
    exact sound.coherent.move (.throw _ error working)
  · intro other response member
    rcases List.mem_append.mp member with earlier | last
    · exact sound.finished other response earlier
    · cases List.mem_singleton.mp last

theorem Sound.execute (keeps : lane.Keeps)
    (sound : Sound lane programs keyIn keyOf side server)
    (executed : side.execute lane server = some (after, changed)) :
    Sound lane programs keyIn keyOf after changed := by
  unfold Side.execute at executed
  split at executed
  · cases executed
  · next stamped value busy =>
      cases executed
      exact sound.returned busy
  · next stamped error busy =>
      cases executed
      exact sound.threw busy
  · next stamped process _ _ busy =>
      obtain ⟨⟨later, reached⟩, stepped, same⟩ := Option.map_eq_some_iff.mp executed
      cases same
      obtain ⟨safe, program, allowed, computes⟩ := sound.executor stamped process busy
      obtain ⟨kept, goesOn⟩ := safe.of_step stepped
      have stays := sound.of_same (keeps server reached kept)
      refine ⟨?_, sound.asked, sound.finished, ?_⟩
      · have coherent := stays.coherent
        unfold pipeline at coherent ⊢
        rw [busy] at coherent
        exact coherent
      · intro other next working
        cases working
        exact ⟨goesOn, program, allowed, fun result ended => computes result (ended.of_step stepped)⟩

theorem mem_answered {finished : List (Stamped κ × Except SQLException (Stamped α))}
    {stamped : Stamped κ} {response : Stamped α} :
    (stamped, response) ∈ Pipeline.answered finished ↔ (stamped, .ok response) ∈ finished := by
  unfold Pipeline.answered
  rw [List.mem_filterMap]
  constructor
  · rintro ⟨⟨other, outcome⟩, member, same⟩
    cases outcome with
    | error error => cases same
    | ok value =>
        cases same
        exact member
  · exact fun member => ⟨_, member, rfl⟩

/-- The response that the sender has is for a client. -/
theorem Sound.sender_ne {response : Stamped α}
    (keyed : ∀ stamped response, Computed programs stamped response →
      keyOf response.request = keyIn stamped.request)
    (client : ∀ response, lane.clientId response = (keyOf response).1)
    (sound : Sound lane programs keyIn keyOf side server)
    (busy : side.sender = some response) : lane.clientId response.request ≠ -1 := by
  have answers := sound.coherent.answers
  have member : response ∈ (Pipeline.answered side.finished).map Prod.snd := by
    change _ = (Pipeline.answered side.finished).map Prod.snd at answers
    rw [← answers]
    simp [pipeline, busy]
  obtain ⟨⟨stamped, _⟩, finished, rfl⟩ := List.mem_map.mp member
  have ended := mem_answered.mp finished
  have asked : stamped ∈ side.asked := by
    have questions := sound.coherent.questions
    change _ = side.asked at questions
    rw [← questions]
    refine List.mem_append_left _ (List.mem_append_left _ ?_)
    exact List.mem_map.mpr ⟨_, ended, rfl⟩
  rw [client, keyed stamped _ (sound.finished _ _ ended)]
  exact sound.asked stamped asked

/-- The sender hands its response, which is for a client. -/
theorem Sound.hand {sent : Int}
    (keyed : ∀ stamped response, Computed programs stamped response →
      keyOf response.request = keyIn stamped.request)
    (client : ∀ response, lane.clientId response = (keyOf response).1)
    (sound : Sound lane programs keyIn keyOf side server)
    (handed : side.hand lane sent server = some (after, changed)) :
    Sound lane programs keyIn keyOf after changed := by
  unfold Side.hand at handed
  split at handed
  · cases handed
  · next response busy =>
      have named := sound.sender_ne keyed client busy
      rw [if_pos named] at handed
      cases handed
      refine ⟨?_, sound.asked, sound.finished, ?_⟩
      · have moved := sound.coherent.move (.hand (side.pipeline lane server) busy)
        unfold pipeline at moved ⊢
        rw [lane.requests_hand, lane.responses_hand]
        exact moved
      · intro stamped process working
        obtain ⟨safe, program⟩ := sound.executor stamped process working
        exact ⟨safe.of_rely trivial, program⟩

/-- Another thread has pushed nothing to the lane. -/
theorem Sound.pushed_none (sound : Sound lane programs keyIn keyOf side server)
    (same : lane.Same server changed) :
    Sound lane programs keyIn keyOf (side.pushed lane server changed) changed := by
  have nothing : side.pushed lane server changed = side := by
    simp [Side.pushed, same.1]
  rw [nothing]
  exact sound.of_same same

/-- The network thread has pushed a request of a client. -/
theorem Sound.pushed_one {stamped : Stamped κ}
    (sound : Sound lane programs keyIn keyOf side server)
    (named : (keyIn stamped.request).1 ≠ -1)
    (requests : lane.requests changed = lane.requests server ++ [stamped])
    (responses : lane.responses changed = lane.responses server) :
    Sound lane programs keyIn keyOf (side.pushed lane server changed) changed := by
  have one : side.pushed lane server changed = { side with asked := side.asked ++ [stamped] } := by
    simp [Side.pushed, requests]
  rw [one]
  refine ⟨?_, ?_, sound.finished, ?_⟩
  · have moved := sound.coherent.move (.ask (side.pipeline lane server) stamped)
    unfold pipeline at moved ⊢
    rw [requests, responses]
    exact moved
  · intro other member
    rcases List.mem_append.mp member with earlier | last
    · exact sound.asked other earlier
    · obtain rfl := List.mem_singleton.mp last
      exact named
  · intro other process busy
    obtain ⟨safe, program⟩ := sound.executor other process busy
    exact ⟨safe.of_rely trivial, program⟩

section Apart

variable {μ ν : Type} {other : Lane δ μ ν}

theorem take_apart {execute : Stamped κ → Pass δ α} (apart : lane.Apart other)
    (taken : side.take lane execute server = some (after, changed)) :
    other.Same server changed := by
  unfold Side.take at taken
  split at taken
  · cases taken
    exact apart.setRequests _ _
  · cases taken

theorem pick_apart (apart : lane.Apart other)
    (picked : side.pick lane server = some (after, changed)) : other.Same server changed := by
  unfold Side.pick at picked
  split at picked
  · cases picked
    exact apart.setResponses _ _
  · cases picked

theorem hand_apart {sent : Int} (apart : lane.Apart other)
    (handed : side.hand lane sent server = some (after, changed)) :
    other.Same server changed := by
  unfold Side.hand at handed
  split at handed
  · cases handed
  · split at handed
    · cases handed
      exact apart.hand _ _ _
    · cases handed
      exact ⟨rfl, rfl⟩

theorem execute_apart (apart : lane.Apart other) (keeps : other.Keeps)
    (sound : Sound lane programs keyIn keyOf side server)
    (executed : side.execute lane server = some (after, changed)) :
    other.Same server changed := by
  unfold Side.execute at executed
  split at executed
  · cases executed
  · cases executed
    exact apart.setResponses _ _
  · cases executed
    exact ⟨rfl, rfl⟩
  · next stamped process _ _ busy =>
      obtain ⟨⟨later, reached⟩, stepped, same⟩ := Option.map_eq_some_iff.mp executed
      cases same
      exact keeps _ _ ((sound.executor stamped process busy).1.of_step stepped).1

end Apart

theorem sound_start (requests : lane.requests server = []) (responses : lane.responses server = []) :
    Sound lane programs keyIn keyOf ({} : Side δ κ α) server := by
  refine ⟨?_, by simp, by simp, by simp⟩
  unfold pipeline
  rw [requests, responses]
  exact Pipeline.coherent_empty

/-- What is sound is in order, and gives the answers of its own passes. -/
theorem Sound.inOrder
    {executed : List (Stamped κ × Except SQLException (Stamped α)) → Stamped κ → α → Prop}
    (keyed : ∀ stamped response, Computed programs stamped response →
      keyOf response.request = keyIn stamped.request)
    (sound : Sound lane programs keyIn keyOf side server)
    (own : ∀ earlier stamped response later,
      side.finished = earlier ++ (stamped, .ok response) :: later →
      executed earlier stamped response.request) :
    InOrder lane executed keyIn keyOf side server := by
  obtain ⟨served, answered, handed, first, all⟩ := sound.coherent.in_order
  have computed : ∀ pair ∈ served, Computed programs pair.1 pair.2 := fun pair member =>
    sound.finished pair.1 pair.2 (mem_answered.mp (answered.subset member))
  have keys : side.handed.map (fun response => keyOf response.request) =
      (served.map Prod.fst).map fun stamped => keyIn stamped.request := by
    change side.handed = served.map Prod.snd at handed
    rw [handed, List.map_map, List.map_map]
    exact List.map_congr_left fun pair member => keyed pair.1 pair.2 (computed pair member)
  refine ⟨?_, ?_, ?_, ?_⟩
  · have questions := sound.coherent.questions
    change _ = side.asked at questions
    rw [← questions, List.append_assoc]
    exact List.prefix_append _ _
  · rw [keys]
    exact first.map _
  · rintro ⟨requests, executor, responses, sender⟩
    rw [keys]
    exact congrArg _ (all ⟨requests, by simp [pipeline, executor], responses, sender⟩)
  · intro index response handed_at
    change side.handed = served.map Prod.snd at handed
    rw [handed, List.getElem?_map, Option.map_eq_some_iff] at handed_at
    obtain ⟨⟨stamped, response⟩, served_at, rfl⟩ := handed_at
    have inside := (List.getElem?_eq_some_iff.mp served_at).1
    have atAnswer : (Pipeline.answered side.finished)[index]? = some (stamped, response) := by
      obtain ⟨rest, split⟩ := answered
      change served ++ rest = Pipeline.answered side.finished at split
      rw [← split, List.getElem?_append_left inside, served_at]
    obtain ⟨earlier, later, split, length⟩ := Pipeline.answered_split atAnswer
    refine ⟨earlier, stamped, later, ?_, split, length, ?_, own earlier stamped response later split⟩
    · obtain ⟨rest, split⟩ := first
      change served.map Prod.fst ++ rest = side.remaining at split
      rw [← split, List.getElem?_append_left (by rwa [List.length_map]), List.getElem?_map,
        served_at]
      rfl
    · exact (computed _ (List.mem_of_getElem? served_at)).1

end Moves

end Side

namespace Threads

open Side

variable {database : IDatabaseConnection δ} {threads after : Threads δ}

/-- The client and the command of a request, or of a response. -/
def administratorKey (request : AdministratorRequest) : Int × AdministratorCommandTypes :=
  (request.clientId, request.commandType)

def administratorResponseKey (response : AdministratorResponse) :
    Int × AdministratorCommandTypes :=
  (response.clientId, response.commandType)

def monitoringKey (request : MonitoringRequest) : Int × MonitoringCommandTypes :=
  (request.clientId, request.commandType)

def monitoringResponseKey (response : MonitoringResponse) : Int × MonitoringCommandTypes :=
  (response.clientId, response.commandType)

/-- Both channels are sound, and the calls of the sensor executor leave them. -/
structure Sound (database : IDatabaseConnection δ) (threads : Threads δ) : Prop where
  administrators : Side.Sound (administratorLane δ) (administratorPrograms database)
    administratorKey administratorResponseKey threads.administrators threads.server
  monitoring : Side.Sound (monitoringLane δ) (monitoringPrograms database) monitoringKey
    monitoringResponseKey threads.monitoring threads.server
  sensorExecutor : ∀ process, threads.sensorExecutor = some process →
    process.Safe (fun _ _ => True) Server.SameQueues threads.server

theorem administratorLane_keeps : (administratorLane δ).Keeps :=
  fun _ _ same => ⟨same.administratorRequests, same.administratorResponses⟩

theorem monitoringLane_keeps : (monitoringLane δ).Keeps :=
  fun _ _ same => ⟨same.monitoringRequests, same.monitoringResponses⟩

theorem administratorLane_apart : (administratorLane δ).Apart (monitoringLane δ) :=
  ⟨fun _ _ => ⟨rfl, rfl⟩, fun _ _ => ⟨rfl, rfl⟩,
    fun _ _ _ => monitoringLane_keeps _ _ (Server.quiet_send ..).toSameQueues⟩

theorem monitoringLane_apart : (monitoringLane δ).Apart (administratorLane δ) :=
  ⟨fun _ _ => ⟨rfl, rfl⟩, fun _ _ => ⟨rfl, rfl⟩,
    fun _ _ _ => administratorLane_keeps _ _ (Server.quiet_send ..).toSameQueues⟩

theorem administrator_keyed (stamped : Stamped AdministratorRequest)
    (response : Stamped AdministratorResponse)
    (computed : Computed (administratorPrograms database) stamped response) :
    administratorResponseKey response.request = administratorKey stamped.request := by
  obtain ⟨-, _, ⟨rands, sent, rfl⟩, computes⟩ := computed
  obtain ⟨client, command⟩ := Pass.computes_executeAdministratorRequest computes
  rw [administratorResponseKey, client, command]
  rfl

theorem monitoring_keyed (stamped : Stamped MonitoringRequest)
    (response : Stamped MonitoringResponse)
    (computed : Computed (monitoringPrograms database) stamped response) :
    monitoringResponseKey response.request = monitoringKey stamped.request := by
  obtain ⟨-, _, rfl, computes⟩ := computed
  obtain ⟨client, command⟩ := Pass.computes_executeMonitoringRequest computes
  rw [monitoringResponseKey, client, command]
  rfl

/-- A step that leaves the queues of both channels. -/
theorem Sound.of_same (sound : threads.Sound database) {server : Server δ}
    {executor : Option (Pass δ Unit)} (same : Server.SameQueues threads.server server)
    (safe : ∀ process, executor = some process →
      process.Safe (fun _ _ => True) Server.SameQueues server) :
    Sound database { threads with server := server, sensorExecutor := executor } :=
  ⟨sound.administrators.of_same (administratorLane_keeps _ _ same),
    sound.monitoring.of_same (monitoringLane_keeps _ _ same), safe⟩

theorem Sound.network {label : Label} (sound : threads.Sound database)
    (stepped : network database label threads = some after) : after.Sound database := by
  unfold Threads.network at stepped
  split at stepped
  · next isNetwork =>
      split at stepped
      · next server ran =>
          cases stepped
          have safe : ∀ process, threads.sensorExecutor = some process →
              process.Safe (fun _ _ => True) Server.SameQueues server := fun process busy =>
            (sound.sensorExecutor process busy).of_rely trivial
          rcases Server.network_queues isNetwork ran with
            quiet | ⟨stamped, named, rfl⟩ | ⟨stamped, named, rfl⟩
          · have same := quiet.toSameQueues
            exact ⟨sound.administrators.pushed_none (administratorLane_keeps _ _ same),
              sound.monitoring.pushed_none (monitoringLane_keeps _ _ same), safe⟩
          · exact ⟨sound.administrators.pushed_one named rfl rfl,
              sound.monitoring.pushed_none ⟨rfl, rfl⟩, safe⟩
          · exact ⟨sound.administrators.pushed_none ⟨rfl, rfl⟩,
              sound.monitoring.pushed_one named rfl rfl, safe⟩
      · cases stepped
  · cases stepped

theorem Sound.takeSensor {serverTime sent : Int} (sound : threads.Sound database)
    (stepped : takeSensor database serverTime sent threads = some after) :
    after.Sound database := by
  unfold Threads.takeSensor at stepped
  split at stepped
  · next stamped queue _ _ =>
      cases stepped
      refine sound.of_same ⟨rfl, rfl, rfl, rfl⟩ ?_
      intro process busy
      cases busy
      exact ((Pass.always_executeSensorRequest stamped serverTime sent).mono
        fun _ _ acts => acts.sameQueues).safe _
  · cases stepped

theorem Sound.executeSensor (sound : threads.Sound database)
    (stepped : executeSensor threads = some after) : after.Sound database := by
  unfold Threads.executeSensor at stepped
  split at stepped
  · cases stepped
  · cases stepped
    exact sound.of_same ⟨rfl, rfl, rfl, rfl⟩ (by simp)
  · next process _ busy =>
      obtain ⟨⟨later, server⟩, moved, rfl⟩ := Option.map_eq_some_iff.mp stepped
      obtain ⟨same, goesOn⟩ := (sound.sensorExecutor process busy).of_step moved
      refine sound.of_same same ?_
      intro next working
      cases working
      exact goesOn

theorem Sound.onAdministrators
    {change : Side δ AdministratorRequest AdministratorResponse → Server δ →
      Option (Side δ AdministratorRequest AdministratorResponse × Server δ)}
    (sound : threads.Sound database)
    (keeps : ∀ side server, change threads.administrators threads.server = some (side, server) →
      Side.Sound (administratorLane δ) (administratorPrograms database) administratorKey
        administratorResponseKey side server ∧
      (monitoringLane δ).Same threads.server server)
    (stepped : onAdministrators change threads = some after) : after.Sound database := by
  obtain ⟨⟨side, server⟩, changed, rfl⟩ := Option.map_eq_some_iff.mp stepped
  obtain ⟨administrators, same⟩ := keeps side server changed
  exact ⟨administrators, sound.monitoring.of_same same,
    fun process busy => (sound.sensorExecutor process busy).of_rely trivial⟩

theorem Sound.onMonitoring
    {change : Side δ MonitoringRequest MonitoringResponse → Server δ →
      Option (Side δ MonitoringRequest MonitoringResponse × Server δ)}
    (sound : threads.Sound database)
    (keeps : ∀ side server, change threads.monitoring threads.server = some (side, server) →
      Side.Sound (monitoringLane δ) (monitoringPrograms database) monitoringKey
        monitoringResponseKey side server ∧
      (administratorLane δ).Same threads.server server)
    (stepped : onMonitoring change threads = some after) : after.Sound database := by
  obtain ⟨⟨side, server⟩, changed, rfl⟩ := Option.map_eq_some_iff.mp stepped
  obtain ⟨monitoring, same⟩ := keeps side server changed
  exact ⟨sound.administrators.of_same same, monitoring,
    fun process busy => (sound.sensorExecutor process busy).of_rely trivial⟩

theorem Sound.step {label : ThreadLabel} (sound : threads.Sound database)
    (stepped : step database label threads = some after) : after.Sound database := by
  have administrators := sound.administrators
  have monitoring := sound.monitoring
  cases label with
  | network label => exact sound.network stepped
  | takeSensor serverTime sent => exact sound.takeSensor stepped
  | executeSensor => exact sound.executeSensor stepped
  | takeAdministrator rands sent =>
      refine sound.onAdministrators (fun side server taken => ⟨?_, ?_⟩) stepped
      · exact administrators.take
          (fun stamped => Pass.sameQueues_executeAdministratorRequest stamped.request rands sent)
          (fun stamped => ⟨rands, sent, rfl⟩) taken
      · exact take_apart administratorLane_apart taken
  | executeAdministrator =>
      refine sound.onAdministrators (fun side server executed => ⟨?_, ?_⟩) stepped
      · exact administrators.execute administratorLane_keeps executed
      · exact execute_apart administratorLane_apart monitoringLane_keeps administrators executed
  | pickAdministrator =>
      refine sound.onAdministrators (fun side server picked => ⟨?_, ?_⟩) stepped
      · exact administrators.pick picked
      · exact pick_apart administratorLane_apart picked
  | handAdministrator sent =>
      refine sound.onAdministrators (fun side server handed => ⟨?_, ?_⟩) stepped
      · exact administrators.hand administrator_keyed (fun _ => rfl) handed
      · exact hand_apart administratorLane_apart handed
  | takeMonitoring =>
      refine sound.onMonitoring (fun side server taken => ⟨?_, ?_⟩) stepped
      · exact monitoring.take
          (fun stamped => (Pass.always_executeMonitoringRequest stamped.request).mono
            fun _ _ acts => acts.sameQueues)
          (fun stamped => rfl) taken
      · exact take_apart monitoringLane_apart taken
  | executeMonitoring =>
      refine sound.onMonitoring (fun side server executed => ⟨?_, ?_⟩) stepped
      · exact monitoring.execute monitoringLane_keeps executed
      · exact execute_apart monitoringLane_apart administratorLane_keeps monitoring executed
  | pickMonitoring =>
      refine sound.onMonitoring (fun side server picked => ⟨?_, ?_⟩) stepped
      · exact monitoring.pick picked
      · exact pick_apart monitoringLane_apart picked
  | handMonitoring sent =>
      refine sound.onMonitoring (fun side server handed => ⟨?_, ?_⟩) stepped
      · exact monitoring.hand monitoring_keyed (fun _ => rfl) handed
      · exact hand_apart monitoringLane_apart handed

theorem sound_start (content : δ) : Sound database (start content) :=
  ⟨Side.sound_start rfl rfl, Side.sound_start rfl rfl, by simp [start]⟩

end Threads

end SensorManager
