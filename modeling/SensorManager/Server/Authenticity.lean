import SensorManager.Server.Orderly
import SensorManager.Server.Outcome

/-!
# Where stored measurements come from

Every measurement that the server passes to the database was received in a
frame of its own, from a connection whose last acceptance was for the sensor it
is stored for.
-/

namespace SensorManager

/-- The frame that an entry of the log goes back to. -/
def Effect.cause : Effect → Option Nat
  | .accepted _ _ cause => some cause
  | .addMeasurement _ _ _ cause => some cause
  | _ => none

/-- The frame that a measurement was stored for. -/
def Effect.measureCause : Effect → Option Nat
  | .addMeasurement _ _ _ cause => some cause
  | _ => none

/-- The measurement comes from the 'm' frame at `cause` in the log, received on
a connection whose last accepted init frame, received earlier, was for the
sensor. -/
def Authentic (log : List Effect) (sensorId measure timestamp : Int) (cause : Nat) : Prop :=
  ∃ conn msg beyond token initCause,
    log[cause]? = some (.received conn msg) ∧ msg.head? = some 109 ∧
    measure = SensorListener.measureValue msg beyond ∧
    timestamp =
      Server.toInt32 ((SensorListener.measureTimestamp msg beyond).tdiv 1000) ∧
    lastAccepted log conn = some (sensorId, initCause) ∧ initCause < cause ∧
    log[initCause]? = some (.received conn (105 :: token))

theorem getElem?_log_append {log : List Effect} {index : Nat} {effect : Effect}
    (found : log[index]? = some effect) (effects : List Effect) :
    (log ++ effects)[index]? = some effect := by
  obtain ⟨below, -⟩ := List.getElem?_eq_some_iff.mp found
  rwa [List.getElem?_append_left below]

theorem Effect.plain_cause {effect : Effect} (plain : effect.plain = true) :
    effect.cause = none ∧ effect.measureCause = none := by
  cases effect <;> simp_all [Effect.plain, Effect.cause, Effect.measureCause]

theorem Effect.cause_of_measureCause {effect : Effect} {cause : Nat}
    (isCause : effect.measureCause = some cause) : effect.cause = some cause := by
  cases effect <;> simp_all [Effect.measureCause, Effect.cause]

theorem filterMap_plain {effects : List Effect}
    (plain : ∀ effect ∈ effects, effect.plain = true) :
    effects.filterMap Effect.measureCause = [] :=
  List.filterMap_eq_nil_iff.mpr fun effect member =>
    (Effect.plain_cause (plain effect member)).2

namespace Sessions

/-- The log accounts for the queue, and for what has been taken from it. -/
structure Traced (sessions : Sessions) : Prop where
  increasing : (sessions.queue.map (·.cause)).Pairwise (· < ·)
  below : ∀ item ∈ sessions.queue, item.cause < sessions.log.length
  carried : ∀ item ∈ sessions.queue, item.request.isOnDisconnected = false →
    ∃ msg, sessions.log[item.cause]? = some (.received item.conn msg) ∧
      item.request.Carries msg
  handled : ∀ effect ∈ sessions.log, ∀ cause, effect.cause = some cause →
    (∀ item ∈ sessions.queue, cause < item.cause) ∧ cause < sessions.log.length
  sorted : (sessions.log.filterMap Effect.measureCause).Pairwise (· < ·)
  accepted : ∀ conn sensorId cause, .accepted conn sensorId cause ∈ sessions.log →
    ∃ token, sessions.log[cause]? = some (.received conn (105 :: token))
  authentic : ∀ index sensorId measure timestamp cause,
    sessions.log[index]? = some (.addMeasurement sensorId measure timestamp cause) →
    Authentic (sessions.log.take index) sensorId measure timestamp cause

variable {sessions : Sessions}

/-- An earlier entry is found in the same place, after the same entries. -/
theorem Traced.authentic_append (traced : sessions.Traced) {effects : List Effect}
    {index : Nat} {sensorId measure timestamp : Int} {cause : Nat}
    (found : (sessions.log ++ effects)[index]? =
      some (.addMeasurement sensorId measure timestamp cause))
    (old : index < sessions.log.length) :
    Authentic ((sessions.log ++ effects).take index) sensorId measure timestamp cause := by
  rw [List.getElem?_append_left old] at found
  rw [List.take_append_of_le_length (Nat.le_of_lt old)]
  exact traced.authentic index sensorId measure timestamp cause found

/-- Plain entries are logged, and requests may be taken from the queue. -/
theorem Traced.extend (traced : sessions.Traced) {queue : List (Stamped SensorRequest)}
    {effects : List Effect} (fewer : queue.Sublist sessions.queue)
    (plain : ∀ effect ∈ effects, effect.plain = true) :
    ({ sessions with queue := queue, log := sessions.log ++ effects } : Sessions).Traced := by
  have member_queue : ∀ item ∈ queue, item ∈ sessions.queue := fun item member => fewer.subset member
  refine ⟨?_, ?_, ?_, ?_, ?_, ?_, ?_⟩
  · exact traced.increasing.sublist (fewer.map _)
  · intro item member
    have before := traced.below item (member_queue item member)
    simp only [List.length_append]
    omega
  · intro item member opens
    obtain ⟨msg, received, carries⟩ := traced.carried item (member_queue item member) opens
    exact ⟨msg, getElem?_log_append received effects, carries⟩
  · intro effect member cause isCause
    rcases List.mem_append.mp member with old | new
    · obtain ⟨first, before⟩ := traced.handled effect old cause isCause
      refine ⟨fun item queued => first item (member_queue item queued), ?_⟩
      simp only [List.length_append]
      omega
    · rw [(Effect.plain_cause (plain effect new)).1] at isCause
      simp at isCause
  · simpa [List.filterMap_append, filterMap_plain plain] using traced.sorted
  · intro conn sensorId cause member
    rcases List.mem_append.mp member with old | new
    · obtain ⟨token, received⟩ := traced.accepted conn sensorId cause old
      exact ⟨token, getElem?_log_append received effects⟩
    · simpa [Effect.plain] using plain _ new
  · intro index sensorId measure timestamp cause found
    by_cases old : index < sessions.log.length
    · exact traced.authentic_append found old
    · rw [List.getElem?_append_right (Nat.le_of_not_lt old)] at found
      simpa [Effect.plain] using plain _ (List.mem_of_getElem? found)

/-- A frame, or the end of a connection, is logged and queued. -/
theorem Traced.push (traced : sessions.Traced) {item : Stamped SensorRequest}
    {first : Effect} {effects : List Effect} (cause : item.cause = sessions.log.length)
    (plain : ∀ effect ∈ first :: effects, effect.plain = true)
    (carried : item.request.isOnDisconnected = false →
      ∃ msg, first = .received item.conn msg ∧ item.request.Carries msg) :
    ({ sessions with
        queue := sessions.queue ++ [item]
        log := sessions.log ++ first :: effects } : Sessions).Traced := by
  have extended := traced.extend (List.Sublist.refl sessions.queue) plain
  refine ⟨?_, ?_, ?_, ?_, extended.sorted, extended.accepted, extended.authentic⟩
  · rw [List.map_append, List.pairwise_append]
    refine ⟨traced.increasing, by simp, ?_⟩
    intro old member new isItem
    obtain ⟨queued, queuedMember, rfl⟩ := List.mem_map.mp member
    obtain rfl : new = item.cause := by simpa using isItem
    rw [cause]
    exact traced.below queued queuedMember
  · intro other member
    rcases List.mem_append.mp member with old | new
    · exact extended.below other old
    · obtain rfl := List.mem_singleton.mp new
      simp [cause]
  · intro other member opens
    rcases List.mem_append.mp member with old | new
    · exact extended.carried other old opens
    · obtain rfl := List.mem_singleton.mp new
      obtain ⟨msg, rfl, carries⟩ := carried opens
      exact ⟨msg, by simp [cause], carries⟩
  · intro effect member handledCause isCause
    obtain ⟨before, below⟩ := extended.handled effect member handledCause isCause
    refine ⟨?_, below⟩
    intro other otherMember
    rcases List.mem_append.mp otherMember with old | new
    · exact before other old
    · obtain rfl := List.mem_singleton.mp new
      rcases List.mem_append.mp member with oldEffect | newEffect
      · rw [cause]
        exact (traced.handled effect oldEffect handledCause isCause).2
      · rw [(Effect.plain_cause (plain effect newEffect)).1] at isCause
        simp at isCause

/-- What is logged for a request stands after what was logged for earlier ones. -/
theorem Traced.logHandled (traced : sessions.Traced) {effect : Effect} {cause : Nat}
    (isCause : effect.cause = some cause)
    (first : ∀ item ∈ sessions.queue, cause < item.cause)
    (below : cause < sessions.log.length)
    (latest : ∀ earlier ∈ sessions.log.filterMap Effect.measureCause, earlier < cause)
    (acceptance : ∀ conn sensorId cause, effect = .accepted conn sensorId cause →
      ∃ token, sessions.log[cause]? = some (.received conn (105 :: token)))
    (measurement : ∀ sensorId measure timestamp cause,
      effect = .addMeasurement sensorId measure timestamp cause →
      Authentic sessions.log sensorId measure timestamp cause) :
    ({ sessions with log := sessions.log ++ [effect] } : Sessions).Traced := by
  have longer : ∀ {index}, index < sessions.log.length →
      index < (sessions.log ++ [effect]).length := by
    intro index inside
    simp only [List.length_append]
    omega
  refine ⟨traced.increasing, ?_, ?_, ?_, ?_, ?_, ?_⟩
  · intro item member
    exact longer (traced.below item member)
  · intro item member opens
    obtain ⟨msg, received, carries⟩ := traced.carried item member opens
    exact ⟨msg, getElem?_log_append received [effect], carries⟩
  · intro other member otherCause isOther
    rcases List.mem_append.mp member with old | new
    · obtain ⟨before, inside⟩ := traced.handled other old otherCause isOther
      exact ⟨before, longer inside⟩
    · obtain rfl := List.mem_singleton.mp new
      obtain rfl : cause = otherCause := Option.some.inj (isCause.symm.trans isOther)
      exact ⟨first, longer below⟩
  · rw [List.filterMap_append, List.pairwise_append]
    refine ⟨traced.sorted, ?_, ?_⟩
    · simp only [List.filterMap_cons, List.filterMap_nil]
      split <;> simp
    · intro earlier member later isLater
      obtain ⟨new, newMember, newCause⟩ := List.mem_filterMap.mp isLater
      obtain rfl := List.mem_singleton.mp newMember
      obtain rfl : cause = later :=
        Option.some.inj (isCause.symm.trans (Effect.cause_of_measureCause newCause))
      exact latest earlier member
  · intro conn sensorId cause member
    rcases List.mem_append.mp member with old | new
    · obtain ⟨token, received⟩ := traced.accepted conn sensorId cause old
      exact ⟨token, getElem?_log_append received [effect]⟩
    · obtain ⟨token, received⟩ :=
        acceptance conn sensorId cause (List.mem_singleton.mp new).symm
      exact ⟨token, getElem?_log_append received [effect]⟩
  · intro index sensorId measure timestamp cause found
    by_cases old : index < sessions.log.length
    · exact traced.authentic_append found old
    · rw [List.getElem?_append_right (Nat.le_of_not_lt old)] at found
      have isEffect := List.mem_singleton.mp (List.mem_of_getElem? found)
      have isIndex : index = sessions.log.length := by
        have inside := (List.getElem?_eq_some_iff.mp found).1
        simp at inside
        omega
      rw [isIndex, List.take_left]
      exact measurement sensorId measure timestamp cause isEffect.symm

/-- The request at the head of the queue is handled, and the handling logged. -/
theorem Traced.handle (traced : sessions.Traced) {head : Stamped SensorRequest}
    {queue : List (Stamped SensorRequest)} (queued : sessions.queue = head :: queue)
    {effect : Effect} (isCause : effect.cause = some head.cause)
    (acceptance : ∀ conn sensorId cause, effect = .accepted conn sensorId cause →
      ∃ token, sessions.log[cause]? = some (.received conn (105 :: token)))
    (measurement : ∀ sensorId measure timestamp cause,
      effect = .addMeasurement sensorId measure timestamp cause →
      Authentic sessions.log sensorId measure timestamp cause) :
    ({ sessions with queue := queue, log := sessions.log ++ [effect] } : Sessions).Traced := by
  have headMember : head ∈ sessions.queue := by simp [queued]
  have fewer : queue.Sublist sessions.queue := by
    rw [queued]
    exact List.sublist_cons_self head queue
  have headFirst : ∀ item ∈ queue, head.cause < item.cause := by
    intro item member
    have increasing := traced.increasing
    rw [queued, List.map_cons, List.pairwise_cons] at increasing
    exact increasing.1 item.cause (List.mem_map_of_mem member)
  have latest : ∀ earlier ∈ sessions.log.filterMap Effect.measureCause,
      earlier < head.cause := by
    intro earlier member
    obtain ⟨old, oldMember, oldCause⟩ := List.mem_filterMap.mp member
    have isOld := Effect.cause_of_measureCause oldCause
    exact (traced.handled old oldMember earlier isOld).1 head headMember
  have popped := @Traced.extend sessions traced queue [] fewer (by simp)
  simp only [List.append_nil] at popped
  exact popped.logHandled isCause headFirst (traced.below head headMember) latest acceptance
    measurement

/-- A measurement at the head of the queue belongs to the connection that its
slot is mapped for. -/
theorem Traced.authentic_head (traced : sessions.Traced) (orderly : sessions.Orderly)
    {slot value time sensorId : Int} {conn cause : Nat}
    {queue : List (Stamped SensorRequest)}
    (queued : sessions.queue = ⟨.measurement slot value time, conn, cause⟩ :: queue)
    (mapped : sessions.clientToSensorId slot = some sensorId) :
    Authentic sessions.log sensorId value (Server.toInt32 time) cause := by
  obtain ⟨owner, initCause, next, accepted⟩ := orderly.owned slot sensorId mapped
  have isConn : conn = owner := Option.some.inj ((next_head queued).symm.trans next)
  subst isConn
  have headMember : (⟨.measurement slot value time, conn, cause⟩ :
      Stamped SensorRequest) ∈ sessions.queue := by simp [queued]
  obtain ⟨msg, received, isMeasure, beyond, rfl, rfl⟩ := traced.carried _ headMember rfl
  have inLog := mem_of_lastAccepted accepted
  obtain ⟨token, init⟩ := traced.accepted conn sensorId initCause inLog
  exact ⟨conn, msg, beyond, token, initCause, received, isMeasure, rfl, rfl, accepted,
    (traced.handled _ inLog initCause rfl).1 _ headMember, init⟩

/-- Only the queue and the log play a part. -/
theorem Traced.of_eq (traced : sessions.Traced) {other : Sessions}
    (queue : other.queue = sessions.queue) (log : other.log = sessions.log) :
    other.Traced := by
  cases other
  dsimp only at queue log
  subst queue log
  exact ⟨traced.increasing, traced.below, traced.carried, traced.handled, traced.sorted,
    traced.accepted, traced.authentic⟩

/-- Every action keeps the account. -/
theorem Traced.act (traced : sessions.Traced) (orderly : sessions.Orderly)
    {action : Action} (permitted : sessions.Permits action) :
    (sessions.act action).Traced := by
  have nothing : ∀ effect ∈ ([] : List Effect), effect.plain = true := by simp
  have same := traced.extend (List.Sublist.refl sessions.queue) nothing
  have popped := traced.extend (List.tail_sublist sessions.queue) nothing
  simp only [List.append_nil] at same popped
  cases action with
  | note effect =>
      have plain : ∀ other ∈ [effect], other.plain = true := by
        simpa [Permits] using permitted
      exact traced.extend (List.Sublist.refl sessions.queue) plain
  | connect => exact same.of_eq rfl rfl
  | bind slot => exact same.of_eq rfl rfl
  | release slot conn =>
      have pushed := @Traced.push sessions traced (closing slot conn sessions.log.length)
        (.closed .sensor conn) [] rfl (by simp [Effect.plain])
        (by simp [closing, SensorRequest.isOnDisconnected])
      exact pushed.of_eq rfl rfl
  | receive conn msg request answers =>
      obtain ⟨-, carries, plain⟩ := permitted
      refine @Traced.push sessions traced ⟨request, conn, sessions.log.length⟩
        (.received conn msg) answers rfl ?_ (fun _ => ⟨msg, rfl, carries⟩)
      intro effect member
      rcases List.mem_cons.mp member with rfl | member
      · rfl
      · exact plain effect member
  | discard => exact popped
  | measure sensorId value timestamp cause =>
      obtain ⟨slot, time, conn, queue, queued, mapped, rfl⟩ := permitted
      simp only [Sessions.act, queued, List.tail_cons]
      refine traced.handle queued rfl (by simp) ?_
      intro _ _ _ _ equality
      cases equality
      exact traced.authentic_head orderly queued mapped
  | accept slot sensorId conn cause =>
      obtain ⟨ip, port, token, queue, queued⟩ := permitted
      have headMember : (⟨.onConnected slot ip port token, conn, cause⟩ :
          Stamped SensorRequest) ∈ sessions.queue := by simp [queued]
      obtain ⟨msg, received, rfl⟩ := traced.carried _ headMember rfl
      have isInit : ∀ other otherSensor otherCause,
          Effect.accepted conn sensorId cause = .accepted other otherSensor otherCause →
          ∃ token, sessions.log[otherCause]? = some (.received other (105 :: token)) := by
        intro _ _ _ equality
        cases equality
        exact ⟨token, received⟩
      simp only [Sessions.act, queued, List.tail_cons]
      exact (traced.handle queued rfl isInit (by simp)).of_eq rfl rfl
  | unmap slot sensorId =>
      exact popped.of_eq rfl rfl
  | abandon => exact popped
  | eraseSensor sensorId => exact same.of_eq rfl rfl

end Sessions

namespace Server

variable {δ : Type} {database : IDatabaseConnection δ}

theorem orderly_start (initial : δ) : (start initial).sessions.Orderly := by
  have free : ∀ slot, (start initial).sessions.holder slot = none := by
    intro slot
    simp [sessions, start, holder, handler, ClientsHandler.holder, ClientsHandler.create,
      Client.unbound, Client.reset, Client.isConnected]
  refine ⟨fun slot => trivial, ⟨fun _ => 0, by simp [sessions, start], ?_⟩,
    by simp [sessions, start], ?_, by simp [sessions, start], ?_, ?_⟩
  · intro slot conn held
    simp [free] at held
  · intro slot conn held
    simp [free] at held
  · intro slot sensorId mapped
    simp [sessions, start, IntMap.empty] at mapped
  · intro slot conn accepted held
    simp [free] at held

theorem traced_start (initial : δ) : (start initial).sessions.Traced := by
  constructor <;> simp [sessions, start]

/-- A step that abandons no disconnect request keeps the sessions orderly and
traced. -/
theorem Outcome.orderly_traced {label : Label} {server : Server δ}
    {result : Except SQLException Unit} {actions : List Action} {changed : δ}
    (outcome : Outcome database server label result actions changed)
    (kept : .abandon ∉ actions)
    (holds : server.sessions.Orderly ∧ server.sessions.Traced) :
    (server.sessions.perform actions).Orderly ∧
      (server.sessions.perform actions).Traced := by
  have permitted : server.sessions.Permitted (fun _ action => action ≠ .abandon)
      actions := by
    refine outcome.permitted ?_ (by simp) ?_ (by simp)
    · rintro _ _ calm rfl
      simp [Action.calm] at calm
    · exact fun abandons => absurd abandons kept
  have keeps : ∀ sessions action, Sessions.Orderly sessions ∧ sessions.Traced →
      sessions.Permits action → action ≠ .abandon →
      (sessions.act action).Orderly ∧ (sessions.act action).Traced := by
    rintro sessions action ⟨orderly, traced⟩ permits kept
    exact ⟨orderly.act permits kept, traced.act orderly permits⟩
  exact permitted.keeps keeps holds

theorem Steps.orderly_traced {label : Label} {before after : Server δ}
    (steps : Steps database label before (.ok ()) after)
    (holds : before.sessions.Orderly ∧ before.sessions.Traced) :
    after.sessions.Orderly ∧ after.sessions.Traced := by
  obtain ⟨actions, outcome, sessions_eq⟩ := steps.outcome
  rw [sessions_eq]
  exact outcome.orderly_traced outcome.not_abandon holds

/-- The sessions stay orderly and traced in a run without database
exceptions. -/
theorem Runs.orderly_traced {initial : δ} {server : Server δ}
    (runs : Runs database Undisturbed (start initial) server) :
    server.sessions.Orderly ∧ server.sessions.Traced := by
  refine runs.keeps (fun server => server.sessions.Orderly ∧ server.sessions.Traced)
    ⟨orderly_start initial, traced_start initial⟩ ?_
  rintro label result before after steps rfl holds
  exact steps.orderly_traced holds

/-- In a run without database exceptions every measurement is authentic, and
measurements are stored in the order their frames were received, each frame's
once at most. -/
theorem measurements_authentic {initial : δ} {server : Server δ}
    (runs : Runs database Undisturbed (start initial) server) :
    (∀ index sensorId measure timestamp cause,
      server.log[index]? = some (.addMeasurement sensorId measure timestamp cause) →
      Authentic (server.log.take index) sensorId measure timestamp cause) ∧
    (server.log.filterMap Effect.measureCause).Pairwise (· < ·) := by
  obtain ⟨-, traced⟩ := runs.orderly_traced
  exact ⟨traced.authentic, traced.sorted⟩

/-- Slot 0 is already taken by another sensor when the measurement of its
former connection is handled. -/
def reusedSlot : List Label :=
  [.accept .sensor 0 5 .zero, .sensorFrame 0 [105, 84] (fun _ => 0) 0, .executeSensor 0 0,
    .sensorFrame 0 [109, 208, 7, 0, 0, 0, 0, 0, 0, 21, 0, 0, 0] (fun _ => 0) 0,
    .lost .sensor 0, .accept .sensor 0 6 .zero, .sensorFrame 0 [105, 85] (fun _ => 0) 0,
    .executeSensor 0 0]

theorem measurements_authentic_reusedSlot :
    ∃ server, Runs DatabaseConnection.sample Undisturbed (start Database.sample) server ∧
      server.holder .sensor 0 = some 1 ∧
      Authentic (server.log.take 7) 1 21 2 3 := by
  let played := play DatabaseConnection.sample reusedSlot (start Database.sample)
  have finished : played.isSome = true := by decide +kernel
  obtain ⟨server, reached⟩ := Option.isSome_iff_exists.mp finished
  have stored : played.map (fun server => (server.holder .sensor 0, server.log[7]?)) =
      some (some 1, some (.addMeasurement 1 21 2 3)) := by decide +kernel
  rw [reached] at stored
  simp only [Option.map_some, Option.some.injEq, Prod.mk.injEq] at stored
  have runs := Runs.of_play reached
  exact ⟨server, runs, stored.1, (measurements_authentic runs).1 7 1 21 2 3 stored.2⟩

end Server

end SensorManager
