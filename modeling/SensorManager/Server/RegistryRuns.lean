import Mathlib.Data.List.Forall2
import SensorManager.Server.Passes
import SensorManager.Server.Registry
import SensorManager.Server.SensorTable

/-!
# What the threads make of the table of the sensors

Only the executor of the administrators' requests inserts rows, and it has seen
that the token does not exist before it inserts it.  Between the two calls the
sensor executor may change rows, but it inserts none.
-/

namespace SensorManager

open Process

/-- What may become of a row. -/
structure RowLater (row later : SensorRow) : Prop where
  id : later.id = row.id
  token : later.token = row.token
  revoked : row.columns.status = .revoked → later.columns.status = .revoked

theorem RowLater.refl (row : SensorRow) : RowLater row row :=
  ⟨rfl, rfl, fun revoked => revoked⟩

theorem RowLater.trans {first second third : SensorRow} (left : RowLater first second)
    (right : RowLater second third) : RowLater first third :=
  ⟨right.id.trans left.id, right.token.trans left.token,
    fun revoked => right.revoked (left.revoked revoked)⟩

/-- The same rows, each of them a later one. -/
abbrev Retains : List SensorRow → List SensorRow → Prop :=
  List.Forall₂ RowLater

theorem Retains.refl (rows : List SensorRow) : Retains rows rows :=
  List.forall₂_same.mpr fun row _ => .refl row

theorem Retains.trans {first second third : List SensorRow} (left : Retains first second)
    (right : Retains second third) : Retains first third := by
  induction left generalizing third with
  | nil => exact right
  | cons head _ ih =>
      cases right with
      | cons next rest => exact .cons (head.trans next) (ih rest)

theorem Retains.tokens {rows later : List SensorRow} (retains : Retains rows later) :
    later.map (·.token) = rows.map (·.token) := by
  induction retains with
  | nil => rfl
  | cons head _ ih => rw [List.map_cons, List.map_cons, head.token, ih]

theorem Retains.ids {rows later : List SensorRow} (retains : Retains rows later) :
    later.map (·.id) = rows.map (·.id) := by
  induction retains with
  | nil => rfl
  | cons head _ ih => rw [List.map_cons, List.map_cons, head.id, ih]

/-- The rows are still there, and new ones may be behind them. -/
def Grows (rows later : List SensorRow) : Prop :=
  Retains rows (later.take rows.length)

theorem Grows.refl (rows : List SensorRow) : Grows rows rows := by
  unfold Grows
  rw [List.take_length]
  exact .refl rows

theorem Grows.trans {first second third : List SensorRow} (left : Grows first second)
    (right : Grows second third) : Grows first third := by
  have shorter : first.length ≤ second.length := by
    rw [left.length_eq, List.length_take]
    exact Nat.min_le_right ..
  have taken := List.forall₂_take first.length right
  rw [List.take_take, Nat.min_eq_left shorter] at taken
  exact Retains.trans left taken

/-- One row is added, with a token and an id that no row had. -/
def Adds (rows later : List SensorRow) : Prop :=
  ∃ row, later = rows ++ [row] ∧ row.token ∉ rows.map (·.token) ∧ row.id ∉ rows.map (·.id)

namespace Registry

variable {α : Type} {select : SensorRow → Bool} {change : SensorColumns → SensorColumns}
  {rows : List SensorRow}

/-- The call keeps whatever the rows come from. -/
def KeepsRows (call : DatabaseCall Registry α) : Prop :=
  ∀ rows, call.Keeps fun registry => Retains rows registry.rows

theorem retains_update (registry : Registry)
    (final : ∀ row, select row = true → row.columns.status = .revoked →
      (change row.columns).status = .revoked) :
    Retains registry.rows (registry.update select change).rows := by
  apply List.forall₂_map_right_iff.mpr
  apply List.forall₂_same.mpr
  intro row _
  refine ⟨rfl, rfl, ?_⟩
  intro revoked
  dsimp only
  split
  · next selected => exact final row selected revoked
  · exact revoked

section Statements

variable {inv : List SensorRow → Prop}

theorem keeps_nextFault : nextFault.Keeps fun registry => inv registry.rows := by
  refine Exec.keeps_get_bind fun registry holds => ?_
  cases registry.faults with
  | nil => exact Exec.keeps_pure none
  | cons fault faults =>
      exact Exec.keeps_bind (Exec.keeps_modify fun _ holds => holds) fun _ => Exec.keeps_pure fault

/-- A query does not touch the rows. -/
theorem keeps_executeQuery (query : Registry → α) :
    (executeQuery query).Keeps fun registry => inv registry.rows := by
  refine Exec.keeps_bind keeps_nextFault fun fault => ?_
  cases fault with
  | none => exact Exec.keeps_get_bind fun registry _ => Exec.keeps_pure _
  | some fault => exact Exec.keeps_throw _

theorem keeps_firstRow (select : SensorRow → Bool) :
    (firstRow select).Keeps fun registry => inv registry.rows := by
  refine Exec.keeps_bind (keeps_executeQuery _) fun found => ?_
  cases found with
  | none => exact Exec.keeps_throw _
  | some row => exact Exec.keeps_pure row

theorem keeps_executeUpdate {change : Registry → Registry}
    (keeps : ∀ registry, inv registry.rows → inv (change registry).rows) :
    (executeUpdate change).Keeps fun registry => inv registry.rows := by
  have changes : Exec.Keeps (fun registry => inv registry.rows)
      (modify change : DatabaseCall Registry PUnit) := Exec.keeps_modify keeps
  refine Exec.keeps_bind keeps_nextFault fun fault => ?_
  cases fault with
  | none => exact changes
  | some fault =>
      refine Exec.keeps_ite (fun _ => ?_) fun _ => Exec.keeps_throw _
      exact Exec.keeps_bind changes fun _ => Exec.keeps_throw _

end Statements

theorem keepsRows_executeQuery (query : Registry → α) : KeepsRows (executeQuery query) :=
  fun _ => keeps_executeQuery query

theorem keepsRows_firstRow (select : SensorRow → Bool) : KeepsRows (firstRow select) :=
  fun _ => keeps_firstRow select

theorem keepsRows_executeUpdate {change : Registry → Registry}
    (retains : ∀ registry, Retains registry.rows (change registry).rows) :
    KeepsRows (executeUpdate change) :=
  fun _ => keeps_executeUpdate fun registry kept => kept.trans (retains registry)

theorem keepsRows_map {β : Type} {call : DatabaseCall Registry α} (keeps : KeepsRows call)
    (result : α → β) : KeepsRows (do return result (← call)) :=
  fun rows => Exec.keeps_bind (keeps rows) fun _ => Exec.keeps_pure _

/-- An update and a query behind it. -/
theorem keepsRows_update {query : DatabaseCall Registry α}
    (final : ∀ row, select row = true → row.columns.status = .revoked →
      (change row.columns).status = .revoked) (keeps : KeepsRows query) :
    KeepsRows (do executeUpdate (update select change); query) := fun rows =>
  Exec.keeps_bind (keepsRows_executeUpdate (fun registry => retains_update registry final) rows)
    fun _ => keeps rows

theorem keepsRows_getSensor (id : Int) : KeepsRows (getSensor id) :=
  keepsRows_map (keepsRows_firstRow _) _

/-- A selected row that must not be revoked is not. -/
theorem final_of_notRevoked {select : SensorRow → Bool} {row : SensorRow} {status : Status}
    (selected : (select row && row.notRevoked) = true)
    (revoked : row.columns.status = .revoked) : status = .revoked := by
  simp [SensorRow.notRevoked, revoked] at selected

theorem keepsRows_addSensor (ip : ByteString) (port : Int) (token : ByteString) :
    KeepsRows (addSensor ip port token) :=
  keepsRows_update (fun _ selected revoked => final_of_notRevoked selected revoked)
    (keepsRows_map (keepsRows_firstRow _) _)

theorem keepsRows_revokeSensor (id : Int) : KeepsRows (revokeSensor id) :=
  keepsRows_update (fun _ _ _ => rfl) (keepsRows_getSensor id)

theorem keepsRows_disconnectSensor (id : Int) : KeepsRows (disconnectSensor id) :=
  keepsRows_update (fun _ selected revoked => final_of_notRevoked selected revoked)
    (keepsRows_getSensor id)

theorem keepsRows_editSensor (id : Int) (name : ByteString) : KeepsRows (editSensor id name) :=
  keepsRows_update (fun _ _ revoked => revoked) (keepsRows_getSensor id)

theorem keepsRows_addMeasurement (sensorId measure timestamp : Int) :
    KeepsRows (addMeasurement sensorId measure timestamp) :=
  keepsRows_executeUpdate fun registry => .refl registry.rows

theorem keepsRows_getReport (report : Registry → Int → List Measurement) (id : Int) :
    KeepsRows (getReport report id) :=
  keepsRows_map (keepsRows_executeQuery _) _

/-- Every call that keeps the rows retains them. -/
theorem KeepsRows.retains {call : DatabaseCall Registry α} (keeps : KeepsRows call)
    {before after : Registry} {result : Except SQLException α}
    (ran : call.runOn before = some (result, after)) : Retains before.rows after.rows :=
  keeps before.rows before result after (.refl before.rows) ran

theorem runOn_nextFault (registry : Registry) :
    ∃ fault faults, nextFault.runOn registry =
      some (.ok fault, { registry with faults := faults }) := by
  obtain ⟨rows, measurements, faults⟩ := registry
  cases faults with
  | nil => exact ⟨none, [], rfl⟩
  | cons fault faults => exact ⟨fault, faults, rfl⟩

/-- An update makes its change at most once. -/
theorem executeUpdate_cases {change : Registry → Registry} {before after : Registry}
    {result : Except SQLException Unit}
    (ran : (executeUpdate change).runOn before = some (result, after)) :
    ∃ faults, after = { before with faults := faults } ∨
      after = change { before with faults := faults } := by
  obtain ⟨fault, faults, taken⟩ := runOn_nextFault before
  refine ⟨faults, ?_⟩
  unfold executeUpdate at ran
  rw [Exec.runOn_bind, taken, Option.bind_some] at ran
  cases fault with
  | none =>
      cases ran
      exact .inr rfl
  | some fault =>
      dsimp only at ran
      cases committed : fault.committed with
      | true =>
          simp only [committed] at ran
          cases ran
          exact .inr rfl
      | false =>
          simp only [committed] at ran
          cases ran
          exact .inl rfl

/-- A row with the token is added where no row has it. -/
theorem adds_initializeSensor {ids : IdSource} {token : ByteString} {before after : Registry}
    {result : Except SQLException Int} (fresh : token ∉ before.rows.map (·.token))
    (ran : (initializeSensor ids token).runOn before = some (result, after)) :
    Retains before.rows after.rows ∨ Adds before.rows after.rows := by
  have inserted : ∀ {middle : Registry} {outcome : Except SQLException Unit},
      (executeUpdate (insert ids token)).runOn before = some (outcome, middle) →
      middle.rows = before.rows ∨ Adds before.rows middle.rows := by
    intro middle outcome updated
    obtain ⟨faults, rfl | rfl⟩ := executeUpdate_cases updated
    · exact .inl rfl
    · exact .inr ⟨_, rfl, fresh, ids.fresh before.rows⟩
  rcases Exec.runOn_bind_eq_some.mp ran with
    ⟨_, middle, updated, queried⟩ | ⟨error, updated, rfl⟩
  · have kept : middle.rows = after.rows :=
      Exec.keeps_bind (keeps_firstRow (·.hasToken token))
        (fun row => Exec.keeps_pure row.id) middle result after rfl queried
    rw [← kept]
    rcases inserted updated with same | adds
    · rw [same]
      exact .inl (.refl before.rows)
    · exact .inr adds
  · rcases inserted updated with same | adds
    · rw [same]
      exact .inl (.refl before.rows)
    · exact .inr adds

/-- A query reads the tables and leaves them. -/
theorem executeQuery_returns {query : Registry → α} {before after : Registry} {value : α}
    (ran : (executeQuery query).runOn before = some (.ok value, after)) :
    ∃ faults, after = { before with faults := faults } ∧ value = query after := by
  obtain ⟨fault, faults, taken⟩ := runOn_nextFault before
  unfold executeQuery at ran
  rw [Exec.runOn_bind, taken, Option.bind_some] at ran
  cases fault with
  | none =>
      cases ran
      exact ⟨faults, rfl, rfl⟩
  | some fault => cases ran

/-- No call but `initializeSensor` adds a row. -/
theorem keepsRows_sends {ids : IdSource} {readings : Readings} {call : DatabaseCall Registry α}
    (sends : (connection ids readings).Sends call) : KeepsRows call := by
  cases sends with
  | getAllSensors => exact keepsRows_executeQuery _
  | getAllSensorsWithMeasurements => exact keepsRows_executeQuery _
  | getLastHour id => exact keepsRows_getReport _ id
  | getLastDay id => exact keepsRows_getReport _ id
  | getLastMonth id => exact keepsRows_getReport _ id
  | addSensor ip port token => exact keepsRows_addSensor ip port token
  | getSensorId token => exact keepsRows_map (keepsRows_firstRow _) _
  | checkIfTokenExists token => exact keepsRows_executeQuery _
  | checkIfTokenIsWhitelisted token => exact keepsRows_map (keepsRows_firstRow _) _
  | revokeSensor id => exact keepsRows_revokeSensor id
  | disconnectSensor id => exact keepsRows_disconnectSensor id
  | editSensor id name => exact keepsRows_editSensor id name
  | addMeasurement sensorId measure timestamp =>
      exact keepsRows_addMeasurement sensorId measure timestamp

end Registry

namespace Pass

open Registry Server

variable {ids : IdSource} {readings : Readings}

/-- The rows stay, each with its id and its token. -/
def RetainsRows (before after : Server Registry) : Prop :=
  Retains before.database.rows after.database.rows

/-- A request of an administrator may have a row added if it is for a token. -/
def RetainsOrAdds (request : AdministratorRequest) (before after : Server Registry) : Prop :=
  RetainsRows before after ∨
    request.commandType = .generateToken ∧ Adds before.database.rows after.database.rows

/-- No row has the token. -/
def Unused (token : ByteString) (server : Server Registry) : Prop :=
  token ∉ server.database.rows.map (·.token)

theorem retainsRows_of_eq {before after : Server Registry}
    (same : after.database = before.database) : RetainsRows before after := by
  unfold RetainsRows
  rw [same]
  exact .refl _

theorem retainsRows_of_acts {before after : Server Registry}
    (acts : Acts (connection ids readings) before after) : RetainsRows before after := by
  cases acts with
  | quiet quiet => exact retainsRows_of_eq quiet.database
  | sends sends ran _ => exact (keepsRows_sends sends).retains ran

/-- Whoever adds no row leaves an unused token unused. -/
theorem stable_unused (token : ByteString) : Stable RetainsRows (Unused token) := by
  intro before after unused retains
  unfold Unused
  rw [retains.tokens]
  exact unused

theorem generateToken_ne_nil (rands : Vector Nat 15) : generateToken rands ≠ [] := by
  intro empty
  have length := congrArg List.length empty
  simp [generateToken] at length

/-- The token that is found does not exist, and it does not come to exist
before the next call of the executor. -/
theorem guarded_generateFreshToken (request : AdministratorRequest)
    (rands : List (Vector Nat 15)) :
    Guarded RetainsRows (RetainsOrAdds request) Unused (fun _ => True)
      (generateFreshToken (connection ids readings) rands) := by
  induction rands with
  | nil =>
      refine .act Unused ?_ ?_ stable_unused fun token => .returned fun _ unused => unused
      · rintro before result after - ⟨⟩
      · rintro before token after - ⟨⟩
  | cons first rands ih =>
      refine .act (fun found server => found = false → Unused (generateToken first) server)
        ?_ ?_ ?_ ?_
      · intro before result after _ ran
        obtain ⟨changed, queried, rfl⟩ := Exec.runOn_zoom_eq_some.mp ran
        exact .inl ((keepsRows_executeQuery _).retains queried)
      · intro before found after _ ran absent member
        obtain ⟨changed, queried, rfl⟩ := Exec.runOn_zoom_eq_some.mp ran
        obtain ⟨_, -, read⟩ := executeQuery_returns queried
        rw [absent] at read
        obtain ⟨row, isRow, isToken⟩ := List.mem_map.mp member
        have other := List.any_eq_false.mp read.symm row isRow
        exact other (SensorRow.hasToken_iff.mpr ⟨generateToken_ne_nil first, isToken⟩)
      · intro found before after holds retains absent
        exact stable_unused _ before after (holds absent) retains
      · intro found
        cases found with
        | true => exact ih.of_pre fun _ _ => trivial
        | false => exact .returned fun server holds => holds rfl

/-- The executor of the administrators' requests relies on nobody else adding
rows. -/
theorem safe_executeAdministratorRequest (request : AdministratorRequest)
    (rands : List (Vector Nat 15)) (sent : Int) (server : Server Registry) :
    (executeAdministratorRequest (connection ids readings) request rands sent).Safe
      RetainsRows (RetainsOrAdds request) server := by
  refine ⟨fun _ => True, trivial, fun _ _ _ _ => trivial, ?_⟩
  by_cases command : request.commandType = .generateToken
  · unfold executeAdministratorRequest
    rw [command]
    refine (guarded_generateFreshToken request rands).bind fun token => ?_
    refine .bind (.call ?_) fun _ => .returned fun _ _ => trivial
    intro before result after unused ran
    obtain ⟨changed, inserted, rfl⟩ := Exec.runOn_zoom_eq_some.mp ran
    rcases adds_initializeSensor unused inserted with retains | adds
    · exact .inl retains
    · exact .inr ⟨command, adds⟩
  · refine Guarded.mono (always_executeAdministratorRequest command rands sent) ?_ ?_
    · exact fun _ _ _ => trivial
    · exact fun _ _ acts => .inl (retainsRows_of_acts acts)

end Pass

/-- What the threads of a lane do to its queues leaves the database. -/
structure Lane.Spares {δ κ α : Type} (lane : Lane δ κ α) : Prop where
  setRequests : ∀ server queue, (lane.setRequests server queue).database = server.database
  setResponses : ∀ server queue, (lane.setResponses server queue).database = server.database
  hand : ∀ server response sent, (lane.hand server response sent).database = server.database

theorem administratorLane_spares {δ : Type} : (administratorLane δ).Spares :=
  ⟨fun _ _ => rfl, fun _ _ => rfl, fun _ _ _ => (Server.quiet_send ..).database⟩

theorem monitoringLane_spares {δ : Type} : (monitoringLane δ).Spares :=
  ⟨fun _ _ => rfl, fun _ _ => rfl, fun _ _ _ => (Server.quiet_send ..).database⟩

namespace Side

variable {δ κ α : Type} {lane : Lane δ κ α} {rely : Server δ → Server δ → Prop}
  {guar : κ → Server δ → Server δ → Prop} {side after : Side δ κ α} {server changed : Server δ}

/-- The pass of the executor is safe among the other threads. -/
def Guards (rely : Server δ → Server δ → Prop) (guar : κ → Server δ → Server δ → Prop)
    (side : Side δ κ α) (server : Server δ) : Prop :=
  ∀ stamped process, side.executor = some (stamped, process) →
    process.Safe rely (guar stamped.request) server

theorem Guards.of_rely (guards : side.Guards rely guar server) (relies : rely server changed) :
    side.Guards rely guar changed :=
  fun stamped process busy => (guards stamped process busy).of_rely relies

theorem guards_take {execute : Stamped κ → Pass δ α}
    (safe : ∀ stamped server, (execute stamped).Safe rely (guar stamped.request) server)
    (spares : lane.Spares) (taken : side.take lane execute server = some (after, changed)) :
    after.Guards rely guar changed ∧ changed.database = server.database := by
  unfold Side.take at taken
  split at taken
  · next first queue _ _ =>
      cases taken
      refine ⟨?_, spares.setRequests _ _⟩
      intro stamped process busy
      cases busy
      exact safe first _
  · cases taken

/-- A step of the executor: only a call of the pass touches the database. -/
theorem Guards.execute (guards : side.Guards rely guar server) (spares : lane.Spares)
    (executed : side.execute lane server = some (after, changed)) :
    after.Guards rely guar changed ∧ (changed.database = server.database ∨
      ∃ stamped process, side.executor = some (stamped, process) ∧
        guar stamped.request server changed) := by
  unfold Side.execute at executed
  split at executed
  · cases executed
  · cases executed
    exact ⟨by simp [Guards], .inl (spares.setResponses _ _)⟩
  · cases executed
    exact ⟨by simp [Guards], .inl rfl⟩
  · next stamped process _ _ busy =>
      obtain ⟨⟨later, reached⟩, stepped, same⟩ := Option.map_eq_some_iff.mp executed
      cases same
      obtain ⟨guarantees, goesOn⟩ := (guards stamped process busy).of_step stepped
      refine ⟨?_, .inr ⟨stamped, process, busy, guarantees⟩⟩
      intro other next working
      cases working
      exact goesOn

theorem pick_executor (spares : lane.Spares)
    (picked : side.pick lane server = some (after, changed)) :
    after.executor = side.executor ∧ changed.database = server.database := by
  unfold Side.pick at picked
  split at picked
  · cases picked
    exact ⟨rfl, spares.setResponses _ _⟩
  · cases picked

theorem hand_executor {sent : Int} (spares : lane.Spares)
    (handed : side.hand lane sent server = some (after, changed)) :
    after.executor = side.executor ∧ changed.database = server.database := by
  unfold Side.hand at handed
  split at handed
  · cases handed
  · split at handed
    · cases handed
      exact ⟨rfl, spares.hand _ _ _⟩
    · cases handed
      exact ⟨rfl, rfl⟩

end Side

namespace Threads

open Pass

variable {ids : IdSource} {readings : Readings} {threads after : Threads Registry}

def rows (threads : Threads Registry) : List SensorRow :=
  threads.server.database.rows

/-- The passes under way are safe among each other. -/
structure Guards (threads : Threads Registry) : Prop where
  sensorExecutor : ∀ process, threads.sensorExecutor = some process →
    process.Safe (fun _ _ => True) RetainsRows threads.server
  administrators : threads.administrators.Guards RetainsRows RetainsOrAdds threads.server
  monitoring : threads.monitoring.Guards (fun _ _ => True) (fun _ => RetainsRows) threads.server

/-- What a step may do to the rows. -/
def RowsStep (label : ThreadLabel) (before after : Threads Registry) : Prop :=
  Retains before.rows after.rows ∨
    ∃ stamped process, label = .executeAdministrator ∧
      before.administrators.executor = some (stamped, process) ∧
      stamped.request.commandType = .generateToken ∧ Adds before.rows after.rows

/-- A step of a thread that is no executor. -/
theorem Guards.of_database (guards : threads.Guards)
    (sensorExecutor : after.sensorExecutor = threads.sensorExecutor)
    (administrators : after.administrators.executor = threads.administrators.executor)
    (monitoring : after.monitoring.executor = threads.monitoring.executor)
    (same : after.server.database = threads.server.database) :
    after.Guards ∧ Retains threads.rows after.rows := by
  have retains : RetainsRows threads.server after.server := retainsRows_of_eq same
  refine ⟨⟨?_, ?_, ?_⟩, retains⟩
  · intro process busy
    rw [sensorExecutor] at busy
    exact (guards.sensorExecutor process busy).of_rely trivial
  · intro stamped process busy
    rw [administrators] at busy
    exact (guards.administrators stamped process busy).of_rely retains
  · intro stamped process busy
    rw [monitoring] at busy
    exact (guards.monitoring stamped process busy).of_rely trivial

theorem Guards.network {label : Label} {database : IDatabaseConnection Registry}
    (guards : threads.Guards) (stepped : network database label threads = some after) :
    after.Guards ∧ Retains threads.rows after.rows := by
  unfold Threads.network at stepped
  split at stepped
  · next isNetwork =>
      split at stepped
      · next server ran =>
          cases stepped
          refine guards.of_database rfl rfl rfl ?_
          rcases Server.network_queues isNetwork ran with
            quiet | ⟨stamped, -, rfl⟩ | ⟨stamped, -, rfl⟩
          · exact quiet.database
          · rfl
          · rfl
      · cases stepped
  · cases stepped

theorem Guards.takeSensor {serverTime sent : Int} (guards : threads.Guards)
    (stepped : takeSensor (Registry.connection ids readings) serverTime sent threads =
      some after) : after.Guards ∧ Retains threads.rows after.rows := by
  unfold Threads.takeSensor at stepped
  split at stepped
  · next stamped queue _ _ =>
      cases stepped
      refine ⟨⟨?_, ?_, ?_⟩, .refl _⟩
      · intro process busy
        cases busy
        exact ((always_executeSensorRequest stamped serverTime sent).mono
          fun _ _ acts => retainsRows_of_acts acts).safe _
      · exact guards.administrators.of_rely (retainsRows_of_eq rfl)
      · exact guards.monitoring.of_rely trivial
  · cases stepped

theorem Guards.executeSensor (guards : threads.Guards)
    (stepped : executeSensor threads = some after) :
    after.Guards ∧ Retains threads.rows after.rows := by
  unfold Threads.executeSensor at stepped
  split at stepped
  · cases stepped
  · cases stepped
    exact ⟨⟨by simp, guards.administrators, guards.monitoring⟩, .refl _⟩
  · next process _ busy =>
      obtain ⟨⟨later, server⟩, moved, rfl⟩ := Option.map_eq_some_iff.mp stepped
      obtain ⟨retains, goesOn⟩ := (guards.sensorExecutor process busy).of_step moved
      refine ⟨⟨?_, ?_, ?_⟩, retains⟩
      · intro next working
        cases working
        exact goesOn
      · exact guards.administrators.of_rely retains
      · exact guards.monitoring.of_rely trivial

theorem Guards.takeAdministrator {rands : List (Vector Nat 15)} {sent : Int}
    (guards : threads.Guards)
    (stepped : step (Registry.connection ids readings) (.takeAdministrator rands sent) threads =
      some after) : after.Guards ∧ Retains threads.rows after.rows := by
  obtain ⟨⟨side, server⟩, taken, rfl⟩ := Option.map_eq_some_iff.mp stepped
  obtain ⟨administrators, same⟩ := Side.guards_take
    (fun stamped => safe_executeAdministratorRequest stamped.request rands sent)
    administratorLane_spares taken
  refine ⟨⟨?_, administrators, guards.monitoring.of_rely trivial⟩, retainsRows_of_eq same⟩
  exact fun process busy => (guards.sensorExecutor process busy).of_rely trivial

theorem Guards.executeAdministrator {database : IDatabaseConnection Registry}
    (guards : threads.Guards) (stepped : step database .executeAdministrator threads = some after) :
    after.Guards ∧ RowsStep .executeAdministrator threads after := by
  obtain ⟨⟨side, server⟩, executed, rfl⟩ := Option.map_eq_some_iff.mp stepped
  obtain ⟨administrators, changed⟩ :=
    guards.administrators.execute administratorLane_spares executed
  refine ⟨⟨?_, administrators, guards.monitoring.of_rely trivial⟩, ?_⟩
  · exact fun process busy => (guards.sensorExecutor process busy).of_rely trivial
  · rcases changed with same | ⟨stamped, process, busy, retains | ⟨command, adds⟩⟩
    · exact .inl (retainsRows_of_eq same)
    · exact .inl retains
    · exact .inr ⟨stamped, process, rfl, busy, command, adds⟩

theorem Guards.takeMonitoring (guards : threads.Guards)
    (stepped : step (Registry.connection ids readings) .takeMonitoring threads = some after) :
    after.Guards ∧ Retains threads.rows after.rows := by
  obtain ⟨⟨side, server⟩, taken, rfl⟩ := Option.map_eq_some_iff.mp stepped
  have kept : side.Guards (fun _ _ => True) (fun _ => RetainsRows) server ∧
      server.database = threads.server.database :=
    Side.guards_take (fun stamped => ((always_executeMonitoringRequest stamped.request).mono
      fun _ _ acts => retainsRows_of_acts acts).safe) monitoringLane_spares taken
  obtain ⟨monitoring, same⟩ := kept
  have retains : RetainsRows threads.server server := retainsRows_of_eq same
  refine ⟨⟨?_, guards.administrators.of_rely retains, monitoring⟩, retains⟩
  exact fun process busy => (guards.sensorExecutor process busy).of_rely trivial

theorem Guards.executeMonitoring {database : IDatabaseConnection Registry}
    (guards : threads.Guards) (stepped : step database .executeMonitoring threads = some after) :
    after.Guards ∧ Retains threads.rows after.rows := by
  obtain ⟨⟨side, server⟩, executed, rfl⟩ := Option.map_eq_some_iff.mp stepped
  obtain ⟨monitoring, changed⟩ := guards.monitoring.execute monitoringLane_spares executed
  have retains : RetainsRows threads.server server := by
    rcases changed with same | ⟨stamped, process, busy, retains⟩
    · exact retainsRows_of_eq same
    · exact retains
  refine ⟨⟨?_, guards.administrators.of_rely retains, monitoring⟩, retains⟩
  exact fun process busy => (guards.sensorExecutor process busy).of_rely trivial

/-- Every step keeps the passes safe, and only a pass for a token adds a row. -/
theorem Guards.step {label : ThreadLabel} (guards : threads.Guards)
    (stepped : step (Registry.connection ids readings) label threads = some after) :
    after.Guards ∧ RowsStep label threads after := by
  have retained : after.Guards ∧ Retains threads.rows after.rows →
      after.Guards ∧ RowsStep label threads after := fun ⟨kept, retains⟩ => ⟨kept, .inl retains⟩
  cases label with
  | network label => exact retained (guards.network stepped)
  | takeSensor serverTime sent => exact retained (guards.takeSensor stepped)
  | executeSensor => exact retained (guards.executeSensor stepped)
  | takeAdministrator rands sent => exact retained (guards.takeAdministrator stepped)
  | executeAdministrator => exact guards.executeAdministrator stepped
  | pickAdministrator =>
      obtain ⟨⟨side, server⟩, picked, rfl⟩ := Option.map_eq_some_iff.mp stepped
      obtain ⟨executor, same⟩ := Side.pick_executor administratorLane_spares picked
      exact retained (guards.of_database rfl executor rfl same)
  | handAdministrator sent =>
      obtain ⟨⟨side, server⟩, handed, rfl⟩ := Option.map_eq_some_iff.mp stepped
      obtain ⟨executor, same⟩ := Side.hand_executor administratorLane_spares handed
      exact retained (guards.of_database rfl executor rfl same)
  | takeMonitoring => exact retained (guards.takeMonitoring stepped)
  | executeMonitoring => exact retained (guards.executeMonitoring stepped)
  | pickMonitoring =>
      obtain ⟨⟨side, server⟩, picked, rfl⟩ := Option.map_eq_some_iff.mp stepped
      obtain ⟨executor, same⟩ := Side.pick_executor monitoringLane_spares picked
      exact retained (guards.of_database rfl rfl executor same)
  | handMonitoring sent =>
      obtain ⟨⟨side, server⟩, handed, rfl⟩ := Option.map_eq_some_iff.mp stepped
      obtain ⟨executor, same⟩ := Side.hand_executor monitoringLane_spares handed
      exact retained (guards.of_database rfl rfl executor same)

theorem guards_start (content : Registry) : (start content).Guards :=
  ⟨by simp [start], by simp [start, Side.Guards], by simp [start, Side.Guards]⟩

theorem guards_of_reachable {content : Registry}
    (reachable : Reachable (Registry.connection ids readings) (start content) threads) :
    threads.Guards :=
  reachable.keeps Guards (guards_start content) fun _ _ _ stepped guards => (guards.step stepped).1

/-- The tokens stay distinct, since only an unused one is added. -/
theorem RowsStep.tokens_nodup {label : ThreadLabel} (rowsStep : RowsStep label threads after)
    (distinct : (threads.rows.map (·.token)).Nodup) : (after.rows.map (·.token)).Nodup := by
  rcases rowsStep with retains | ⟨_, _, _, _, _, row, rows, fresh, _⟩
  · rw [retains.tokens]
    exact distinct
  · rw [rows, List.map_append, List.nodup_append]
    refine ⟨distinct, by simp, ?_⟩
    rintro token member _ last rfl
    obtain rfl := List.mem_singleton.mp last
    exact fresh member

theorem RowsStep.grows {label : ThreadLabel} (rowsStep : RowsStep label threads after) :
    Grows threads.rows after.rows := by
  rcases rowsStep with retains | ⟨_, _, _, _, _, row, rows, _⟩
  · unfold Grows
    rw [retains.length_eq, List.take_length]
    exact retains
  · unfold Grows
    rw [rows, List.take_left]
    exact .refl _

/-- Whatever the order of the calls, the random numbers and the failures:
tokens are distinct, rows stay with their ids and tokens, revoked ones stay
revoked, and only a request for a token adds a row, with a token of its own. -/
theorem registry_invariant {content : Registry} {earlier later : Threads Registry}
    (distinct : (content.rows.map (·.token)).Nodup)
    (reachable : Reachable (Registry.connection ids readings) (start content) earlier)
    (goesOn : Reachable (Registry.connection ids readings) earlier later) :
    (later.rows.map (·.token)).Nodup ∧ Grows earlier.rows later.rows ∧
      ∀ label after, step (Registry.connection ids readings) label later = some after →
        RowsStep label later after := by
  have guards := guards_of_reachable reachable
  have tokens : earlier.Guards ∧ (earlier.rows.map (·.token)).Nodup := by
    refine reachable.keeps (fun threads => threads.Guards ∧ (threads.rows.map (·.token)).Nodup)
      ⟨guards_start content, distinct⟩ ?_
    intro label before after stepped holds
    obtain ⟨kept, rowsStep⟩ := holds.1.step stepped
    exact ⟨kept, rowsStep.tokens_nodup holds.2⟩
  have run : later.Guards ∧ (later.rows.map (·.token)).Nodup ∧ Grows earlier.rows later.rows := by
    refine goesOn.keeps (fun threads => threads.Guards ∧ (threads.rows.map (·.token)).Nodup ∧
      Grows earlier.rows threads.rows) ⟨tokens.1, tokens.2, .refl _⟩ ?_
    intro label before after stepped holds
    obtain ⟨kept, rowsStep⟩ := holds.1.step stepped
    exact ⟨kept, rowsStep.tokens_nodup holds.2.1, holds.2.2.trans rowsStep.grows⟩
  exact ⟨run.2.1, run.2.2, fun label after stepped => (run.1.step stepped).2⟩

/-- One sensor, whose token the generator draws again. -/
def oneSensor : Registry :=
  { rows := [{ id := 1, token := Server.generateToken (.replicate 15 0), columns := {} }] }

/-- An administrator asks for a token, and the sensor connects while the
executor has found one that does not exist and has not inserted it. -/
def tokenWhileConnecting : List ThreadLabel :=
  [.network (.accept .administrator 0 5 .zero),
    .network (.administratorFrame 0 { clientId := 0, commandType := .generateToken }),
    .network (.accept .sensor 0 6 .zero),
    .network (.sensorFrame 0 (105 :: Server.generateToken (.replicate 15 0)) (fun _ => 0) 0),
    .takeAdministrator [.replicate 15 0, .replicate 15 1] 0,
    .executeAdministrator, .executeAdministrator,
    .takeSensor 0 0, .executeSensor, .executeSensor, .executeSensor, .executeSensor,
    .executeAdministrator]

theorem registry_invariant_tokenWhileConnecting :
    ∃ later, Reachable (Registry.connection .counting .nothing) (start oneSensor) later ∧
      later.rows.map (fun row => (row.id, row.columns.status)) =
        [(1, .active), (2, .initial)] ∧
      (later.rows.map (·.token)).Nodup ∧ Grows oneSensor.rows later.rows := by
  have played : (play (Registry.connection .counting .nothing) tokenWhileConnecting
      (start oneSensor)).map
        (fun threads => threads.rows.map fun row => (row.id, row.columns.status)) =
          some [(1, .active), (2, .initial)] := by decide +kernel
  obtain ⟨later, reached, rows⟩ := Option.map_eq_some_iff.mp played
  have reachable := Reachable.start.of_play reached
  obtain ⟨distinct, grows, -⟩ := registry_invariant (by decide) .start reachable
  exact ⟨later, reachable, rows, distinct, grows⟩

end Threads

end SensorManager
