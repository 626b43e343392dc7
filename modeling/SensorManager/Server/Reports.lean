import SensorManager.Lib.Calendar
import SensorManager.Lib.GroupBy
import SensorManager.Server.Snapshots

/-!
# The reports of the monitors

`getLastHour`, `getLastDay` and `getLastMonth` round the dates of a sensor's
measurements down to minutes, hours and days and list the averages.  Meanwhile
the other executors go on, and measurements are stored.
-/

namespace SensorManager

open Process Server

namespace Registry

/-- The seconds of the date that `addMeasurement` makes of a timestamp. -/
def storedTime (timestamp : Int) : Int :=
  timestamp + 2 * 60 * 60

/-- The column `t` of a report. -/
def timeLabel (resolution : Resolution) (row : Int × Int × Int) : ByteString :=
  resolution.toChar (storedTime row.2.2)

/-- `FLOOR(AVG(measure))`. -/
def floorAverage (rows : List (Int × Int × Int)) : Int :=
  (rows.map (·.2.1)).sum / rows.length

/-- The measurements of a sensor from a moment on. -/
def since (registry : Registry) (sensorId moment : Int) : List (Int × Int × Int) :=
  registry.measurements.filter fun row =>
    row.1 = sensorId && moment ≤ storedTime row.2.2

/-- The rows of a report from a moment on. -/
def averages (resolution : Resolution) (moment : Int) (registry : Registry) (sensorId : Int) :
    List Measurement :=
  (groupBy (· ≤ ·) (timeLabel resolution) (registry.since sensorId moment)).map fun group =>
    { value := floorAverage group.2, label := group.1 }

def lastHour (sysdate : Int) : Registry → Int → List Measurement :=
  averages .minute (sysdate - 60 * 60)

def lastDay (sysdate : Int) : Registry → Int → List Measurement :=
  averages .hour (sysdate - 24 * 60 * 60)

def lastMonth (sysdate : Int) : Registry → Int → List Measurement :=
  averages .day (sysdate - 31 * 24 * 60 * 60)

end Registry

/-- The queries at the time that the clock of the database shows. -/
def Readings.now (latest : Registry → List Sensor) : Readings :=
  { latest := latest
    lastHour := fun registry => Registry.lastHour registry.sysdate registry
    lastDay := fun registry => Registry.lastDay registry.sysdate registry
    lastMonth := fun registry => Registry.lastMonth registry.sysdate registry }

/-- The report that a request asks for: its resolution and the seconds that it
goes back. -/
inductive MonitoringRequest.Asks (request : MonitoringRequest) : Resolution → Int → Prop
  | lastHour (command : request.commandType = .getSetOfMeasurements) (type : request.type = 0) :
      Asks request .minute 3600
  | lastDay (command : request.commandType = .getSetOfMeasurements) (type : request.type = 1) :
      Asks request .hour 86400
  | lastMonth (command : request.commandType = .getSetOfMeasurements) (type : request.type = 2) :
      Asks request .day 2678400

theorem MonitoringRequest.Asks.command {request : MonitoringRequest} {resolution : Resolution}
    {length : Int} (asks : request.Asks resolution length) :
    request.commandType = .getSetOfMeasurements := by
  cases asks with
  | lastHour command => exact command
  | lastDay command => exact command
  | lastMonth command => exact command

namespace Registry

/-- An entry for the measurements of one minute, hour or day. -/
structure EntryOf (resolution : Resolution) (entry : Measurement)
    (group : List (Int × Int × Int)) : Prop where
  nonempty : group ≠ []
  value : entry.value = floorAverage group
  label : ∀ row ∈ group, entry.label = timeLabel resolution row

def Earlier (resolution : Resolution) (first second : List (Int × Int × Int)) : Prop :=
  ∀ row ∈ first, ∀ other ∈ second,
    resolution.period (storedTime row.2.2) < resolution.period (storedTime other.2.2)

/-- Every measurement counts for one entry, and the entries are in the order of
time.  If none is of the future, there is at most one entry for each period. -/
structure Summarizes (resolution : Resolution) (length sysdate : Int)
    (rows : List (Int × Int × Int)) (entries : List Measurement) : Prop where
  parted : ∃ groups : List (List (Int × Int × Int)), groups.flatten.Perm rows ∧
    List.Forall₂ (EntryOf resolution) entries groups ∧ groups.Pairwise (Earlier resolution)
  ascending : (entries.map (·.label)).Pairwise (· < ·)
  within : ∀ entry ∈ entries, (∃ row ∈ rows, row.2.1 ≤ entry.value) ∧
    ∃ row ∈ rows, entry.value ≤ row.2.1
  count : (∀ row ∈ rows, storedTime row.2.2 ≤ sysdate) →
    (entries.length : Int) ≤ length / resolution.seconds + 1

variable {resolution : Resolution} {registry : Registry} {sensorId moment sysdate length : Int}

theorem near_storedTime {timestamp : Int} (isInt : IsInt timestamp) :
    Resolution.Near (storedTime timestamp) := by
  unfold IsInt at isInt
  unfold Resolution.Near Date.Near storedTime
  omega

theorem mem_since {row : Int × Int × Int} :
    row ∈ registry.since sensorId moment ↔
      row ∈ registry.measurements ∧ row.1 = sensorId ∧ moment ≤ storedTime row.2.2 := by
  simp [since]

theorem sum_const (rows : List (Int × Int × Int)) (value : Int) :
    (rows.map fun _ => value).sum = rows.length * value := by
  rw [List.map_const', List.sum_replicate, nsmul_eq_mul]

/-- An average is not below the least measure and not above the greatest. -/
theorem floorAverage_within {rows : List (Int × Int × Int)} (nonempty : rows ≠ []) :
    (∃ row ∈ rows, row.2.1 ≤ floorAverage rows) ∧ ∃ row ∈ rows, floorAverage rows ≤ row.2.1 := by
  have positive : (0 : Int) < rows.length := by
    have length := List.length_pos_of_ne_nil nonempty
    omega
  have divided : (rows.length : Int) * floorAverage rows +
      (rows.map (·.2.1)).sum % rows.length = (rows.map (·.2.1)).sum :=
    Int.mul_ediv_add_emod _ _
  have lower := Int.emod_nonneg (rows.map (·.2.1)).sum positive.ne'
  have upper := Int.emod_lt_of_pos (rows.map (·.2.1)).sum positive
  constructor
  · have less : (rows.map (·.2.1)).sum < (rows.map fun _ => floorAverage rows + 1).sum := by
      rw [sum_const, mul_add, mul_one]
      omega
    obtain ⟨row, member, isLess⟩ := List.exists_lt_of_sum_lt _ _ less
    exact ⟨row, member, Int.lt_add_one_iff.mp isLess⟩
  · have notLess : (rows.map fun _ => floorAverage rows).sum ≤ (rows.map (·.2.1)).sum := by
      rw [sum_const]
      omega
    exact List.exists_le_of_sum_le nonempty _ _ notLess

theorem labels_ascending (rows : List (Int × Int × Int)) :
    ((groupBy (· ≤ ·) (timeLabel resolution) rows).map Prod.fst).Pairwise (· < ·) := by
  have ascending : ((groupBy (· ≤ ·) (timeLabel resolution) rows).map Prod.fst).Pairwise
      fun first second => first ≤ second ∧ first ≠ second := groupBy_ascending
  apply ascending.imp
  rintro first second ⟨notGreater, different⟩
  exact (List.le_iff_lt_or_eq.mp notGreater).resolve_right different

/-- The groups are in the order of time. -/
theorem pairwise_earlier {rows : List (Int × Int × Int)}
    (near : ∀ row ∈ rows, Resolution.Near (storedTime row.2.2)) :
    ((groupBy (· ≤ ·) (timeLabel resolution) rows).map Prod.snd).Pairwise
      (Earlier resolution) := by
  apply List.pairwise_map.mpr
  refine (List.pairwise_map.mp (labels_ascending rows)).imp_of_mem ?_
  intro first second isFirst isSecond less row member other otherMember
  obtain ⟨inRows, isKey⟩ := (of_mem_groupBy isFirst).2 row member
  obtain ⟨otherInRows, isOtherKey⟩ := (of_mem_groupBy isSecond).2 other otherMember
  apply (Resolution.toChar_lt_iff (near row inRows) (near other otherInRows)).mp
  change timeLabel resolution row < timeLabel resolution other
  rw [isKey, isOtherKey]
  exact less

theorem near_since (timed : registry.Timed) :
    ∀ row ∈ registry.since sensorId moment, Resolution.Near (storedTime row.2.2) :=
  fun row member => near_storedTime (timed row (mem_since.mp member).1)

/-- What a report is. -/
theorem summarizes_averages (timed : registry.Timed) (nonneg : 0 ≤ length)
    (whole : resolution.seconds ∣ length) :
    Summarizes resolution length sysdate (registry.since sensorId (sysdate - length))
      (averages resolution (sysdate - length) registry sensorId) where
  parted := by
    refine ⟨(groupBy (· ≤ ·) (timeLabel resolution)
      (registry.since sensorId (sysdate - length))).map Prod.snd, ?_, ?_,
      pairwise_earlier (near_since timed)⟩
    · rw [← List.flatMap_def]
      exact groupBy_perm
    · apply List.forall₂_map_left_iff.mpr
      apply List.forall₂_map_right_iff.mpr
      apply List.forall₂_same.mpr
      intro group member
      obtain ⟨nonempty, rows⟩ := of_mem_groupBy member
      exact ⟨nonempty, rfl, fun row inGroup => (rows row inGroup).2.symm⟩
  ascending := by
    unfold averages
    rw [List.map_map]
    exact labels_ascending _
  within := by
    intro entry member
    obtain ⟨group, isGroup, rfl⟩ := List.mem_map.mp member
    obtain ⟨nonempty, rows⟩ := of_mem_groupBy isGroup
    obtain ⟨⟨least, inGroup, notGreater⟩, greatest, alsoInGroup, notLess⟩ :=
      floorAverage_within nonempty
    exact ⟨⟨least, (rows least inGroup).1, notGreater⟩,
      greatest, (rows greatest alsoInGroup).1, notLess⟩
  count := by
    intro past
    obtain ⟨periods, rfl⟩ := whole
    have positive := resolution.seconds_pos
    have periodsNonneg : 0 ≤ periods := nonneg_of_mul_nonneg_right nonneg positive
    have bounded : (groupBy (· ≤ ·) (timeLabel resolution) (registry.since sensorId
        (sysdate - resolution.seconds * periods))).length ≤
          (resolution.period sysdate + 1 -
            resolution.period (sysdate - resolution.seconds * periods)).toNat := by
      apply length_groupBy_le fun row => resolution.period (storedTime row.2.2)
      · intro row _ other _ same
        exact Resolution.toChar_eq same
      · intro row member
        exact ⟨Int.ediv_le_ediv positive (mem_since.mp member).2.2,
          Int.ediv_le_ediv positive (past row member)⟩
    have first : resolution.period (sysdate - resolution.seconds * periods) =
        resolution.period sysdate - periods := by
      unfold Resolution.period
      rw [Int.sub_mul_ediv_left _ _ positive.ne']
    rw [first] at bounded
    rw [Int.mul_ediv_cancel_left _ positive.ne', averages, List.length_map]
    omega

/-- The measurements that an entry is made from. -/
def rowsOf (resolution : Resolution) (moment : Int) (registry : Registry) (sensorId : Int)
    (label : ByteString) : List (Int × Int × Int) :=
  groupOf (timeLabel resolution) (registry.since sensorId moment) label

theorem mem_averages {entry : Measurement} :
    entry ∈ averages resolution moment registry sensorId ↔
      rowsOf resolution moment registry sensorId entry.label ≠ [] ∧
        entry.value = floorAverage (rowsOf resolution moment registry sensorId entry.label) := by
  unfold averages rowsOf
  rw [List.mem_map]
  constructor
  · rintro ⟨group, member, rfl⟩
    obtain ⟨same, nonempty⟩ := mem_groupBy.mp member
    rw [← same]
    exact ⟨nonempty, rfl⟩
  · rintro ⟨nonempty, value⟩
    refine ⟨(entry.label, groupOf _ _ entry.label), mem_groupBy.mpr ⟨rfl, nonempty⟩, ?_⟩
    dsimp only
    rw [← value]

/-- A label behind that of a moment is of rows behind that moment. -/
theorem lt_of_label {row : Int × Int × Int} (near : Resolution.Near moment)
    (isInt : IsInt row.2.2) (later : resolution.toChar moment < timeLabel resolution row) :
    moment < storedTime row.2.2 := by
  have periods := (Resolution.toChar_lt_iff near (near_storedTime isInt)).mp later
  by_contra notLess
  have notGreater := Int.ediv_le_ediv resolution.seconds_pos (not_lt.mp notLess)
  exact absurd periods (not_lt.mpr notGreater)

/-- All measurements of a period behind the moment belong to the report. -/
theorem rowsOf_eq {bound : Int} {label : ByteString} (timed : registry.Timed)
    (near : Resolution.Near bound) (begins : moment ≤ bound)
    (later : resolution.toChar bound < label) :
    rowsOf resolution moment registry sensorId label =
      registry.measurements.filter fun row =>
        row.1 = sensorId && timeLabel resolution row = label := by
  unfold rowsOf groupOf since
  rw [List.filter_filter]
  apply List.filter_congr
  intro row member
  by_cases same : timeLabel resolution row = label
  · rw [← same] at later
    have after : moment ≤ storedTime row.2.2 :=
      begins.trans (lt_of_label near (timed row member) later).le
    simp [same, after]
  · simp [same]

/-- The average of a period that both reports cover stays what it is if no
measurement of that period comes after the first report. -/
theorem mem_averages_later {before after : Registry} {added : List (Int × Int × Int)}
    {other bound : Int} {entry : Measurement} (timed : after.Timed)
    (stores : after.measurements = before.measurements ++ added)
    (near : Resolution.Near bound) (begins : moment ≤ bound) (otherBegins : other ≤ bound)
    (later : resolution.toChar bound < entry.label)
    (none : ∀ row ∈ added, row.1 = sensorId → timeLabel resolution row ≠ entry.label) :
    entry ∈ averages resolution other after sensorId ↔
      entry ∈ averages resolution moment before sensorId := by
  have beforeTimed : before.Timed := by
    intro row member
    apply timed row
    rw [stores]
    exact List.mem_append_left _ member
  have noRow : (added.filter fun row =>
      row.1 = sensorId && timeLabel resolution row = entry.label) = [] := by
    apply List.filter_eq_nil_iff.mpr
    intro row member
    by_cases isSensor : row.1 = sensorId
    · simp [none row member isSensor]
    · simp [isSensor]
  have same : rowsOf resolution other after sensorId entry.label =
      rowsOf resolution moment before sensorId entry.label := by
    rw [rowsOf_eq timed near otherBegins later, rowsOf_eq beforeTimed near begins later, stores,
      List.filter_append, noRow, List.append_nil]
  rw [mem_averages, mem_averages, same]

end Registry

namespace MonitoringRequest.Asks

variable {ids : IdSource} {latest : Registry → List Sensor} {request : MonitoringRequest}
  {resolution : Resolution} {length : Int}

theorem nonneg (asks : request.Asks resolution length) : 0 ≤ length := by
  cases asks <;> decide

theorem whole (asks : request.Asks resolution length) : resolution.seconds ∣ length := by
  cases asks <;> decide

/-- The query for the report. -/
theorem report (asks : request.Asks resolution length) (other : MonitoringRequest)
    (sameType : other.type = request.type) :
    Pass.getSetOfMeasurements (Registry.connection ids (.now latest)) other =
      call (callDatabase (Registry.getReport (fun registry =>
        Registry.averages resolution (registry.sysdate - length) registry) other.sensorId)) := by
  unfold Pass.getSetOfMeasurements
  cases asks with
  | lastHour _ type =>
      rw [sameType, type]
      rfl
  | lastDay _ type =>
      rw [sameType, type]
      rfl
  | lastMonth _ type =>
      rw [sameType, type]
      rfl

end MonitoringRequest.Asks

namespace Threads

open Pass Registry Relation

variable {ids : IdSource} {latest : Registry → List Sensor}

/-- The clock of the database shows another time. -/
def atTime (sysdate : Int) (threads : Threads Registry) : Threads Registry :=
  { threads with
    server := { threads.server with
      database := { threads.server.database with sysdate := sysdate } } }

/-- Some thread makes a call, or the clock of the database goes on. -/
inductive Ticks (ids : IdSource) (latest : Registry → List Sensor) (before : Threads Registry) :
    Threads Registry → Prop
  | tick (sysdate : Int) : Ticks ids latest before (before.atTime sysdate)
  | call {after : Threads Registry} (label : ThreadLabel)
      (stepped : step (connection ids (.now latest)) label before = some after) :
      Ticks ids latest before after

/-- The calls of all threads in any order, while the clock of the database goes
on. -/
abbrev Clocked (ids : IdSource) (latest : Registry → List Sensor) :
    Threads Registry → Threads Registry → Prop :=
  ReflTransGen (Ticks ids latest)

variable {before later : Threads Registry} {content : Registry}

theorem Ticks.keeping (ticks : Ticks ids latest before later) (keeping : before.Keeping) :
    later.Keeping ∧ Storing before.server later.server := by
  cases ticks with
  | tick sysdate => exact ⟨keeping.of_executors rfl rfl rfl, Stores.of_eq rfl⟩
  | call label stepped => exact keeping.step stepped

theorem Clocked.keeping (goesOn : Clocked ids latest before later) (keeping : before.Keeping) :
    later.Keeping ∧ Storing before.server later.server := by
  induction goesOn with
  | refl => exact ⟨keeping, .of_database rfl⟩
  | tail _ ticks ih =>
      obtain ⟨keeps, stores⟩ := ticks.keeping ih.1
      exact ⟨keeps, Stores.trans ih.2 stores⟩

theorem Clocked.keeping_start (reached : Clocked ids latest (Threads.start content) before) :
    before.Keeping ∧ Storing (Threads.start content).server before.server :=
  reached.keeping (Threads.keeping_start content)

theorem Ticks.executor (ticks : Ticks ids latest before later) :
    MonitoringExecutor (connection ids (.now latest)) before later := by
  cases ticks with
  | tick sysdate => exact .same rfl rfl
  | call label stepped => exact (executors_of_threadStep stepped).2

theorem measurements_getReport {report : Registry → Int → List Measurement} {sensorId : Int}
    {registry changed : Registry} {found : SensorMeasurement}
    (queried : (getReport report sensorId).runOn registry = some (.ok found, changed)) :
    ∃ faults, found.measurements = report { registry with faults := faults } sensorId := by
  rcases Exec.runOn_bind_eq_some.mp queried with
    ⟨measurements, middle, read, returned⟩ | ⟨error, -, failed⟩
  · obtain ⟨faults, rfl, rfl⟩ := executeQuery_returns read
    cases returned
    exact ⟨faults, rfl⟩
  · cases failed

/-- An answer that was added in the run has been read at one moment of it. -/
theorem Clocked.hasRead (goesOn : Clocked ids latest before later)
    (idle : before.monitoring.executor = none) {stamped : Stamped MonitoringRequest}
    {response : Stamped MonitoringResponse}
    (finished : (stamped, .ok response) ∈
      later.monitoring.finished.drop before.monitoring.finished.length)
    {resolution : Resolution} {length : Int} (asks : stamped.request.Asks resolution length) :
    ∃ earlier, HasRead (Ticks ids latest) (·.monitoring)
      (fun request content response => response.sensorId = request.sensorId ∧ ∃ found changed,
        (getReport (fun registry => averages resolution (registry.sysdate - length) registry)
          request.sensorId).runOn content = some (.ok found, changed) ∧
          response.measurements = found.measurements) before later earlier stamped
      response.request := by
  obtain ⟨added, rest, split⟩ := List.append_of_mem finished
  have all := later.monitoring.finished.take_append_drop before.monitoring.finished.length
  rw [split, ← List.append_assoc] at all
  have reaches : before.monitoring.finished.length ≤ later.monitoring.finished.length := by
    have nonempty := List.length_drop (l := later.monitoring.finished)
      (i := before.monitoring.finished.length)
    rw [split, List.length_append, List.length_cons] at nonempty
    omega
  have passes : OwnPasses (Ticks ids latest) (·.monitoring)
      (monitoringPrograms (connection ids (.now latest))) before later :=
    ownPasses_of_run (fun _ _ ticks => ticks.executor) idle goesOn
  have executed := passes.finished _ stamped response rest all.symm <| by
    rw [List.length_append, List.length_take_of_le reaches]
    exact Nat.le_add_right _ _
  exact ⟨_, monitoringReports asks.report ⟨asks.command, rfl⟩ executed⟩

/-- Whatever the order of the calls: a report that was made since a moment when
the executor of the monitors' requests was between two requests has everything
that was stored when its query ran, and nothing else, and goes back from what the
clock of the database showed then. -/
theorem reports_summarize (timed : content.Timed)
    (reached : Clocked ids latest (start content) before)
    (idle : before.monitoring.executor = none) (goesOn : Clocked ids latest before later)
    {stamped : Stamped MonitoringRequest} {response : Stamped MonitoringResponse}
    (finished : (stamped, .ok response) ∈
      later.monitoring.finished.drop before.monitoring.finished.length)
    {resolution : Resolution} {length : Int} (asks : stamped.request.Asks resolution length) :
    response.request.sensorId = stamped.request.sensorId ∧ ∃ asking called,
      Clocked ids latest before asking ∧ Ticks ids latest asking called ∧
        Clocked ids latest called later ∧
      (∃ process, asking.monitoring.executor = some (stamped, process)) ∧
      called.monitoring.executor = some (stamped, .ended (.ok response.request)) ∧
      before.server.database.Stores asking.server.database ∧
      asking.server.database.Stores later.server.database ∧
      Summarizes resolution length asking.server.database.sysdate
        (asking.server.database.since stamped.request.sensorId
          (asking.server.database.sysdate - length))
        response.request.measurements := by
  obtain ⟨_, asking, called, asked, ticks, ends, reads, answer⟩ :=
    goesOn.hasRead idle finished asks
  obtain ⟨isSensor, found, changed, queried, same⟩ := reads.gives
  obtain ⟨keeping, stored⟩ := reached.keeping_start
  obtain ⟨keepsAsking, storedAsking⟩ := Clocked.keeping asked keeping
  obtain ⟨-, storedLater⟩ := Clocked.keeping (ends.head ticks) keepsAsking
  have timedAsking : asking.server.database.Timed :=
    (timed.of_stores stored).of_stores storedAsking
  refine ⟨isSensor, asking, called, asked, ticks, ends, reads.executor, answer, storedAsking,
    storedLater, ?_⟩
  obtain ⟨faults, read⟩ := measurements_getReport queried
  rw [same, read]
  exact summarizes_averages timedAsking asks.nonneg asks.whole

/-- The calls are made one after the other, each at a time of the database. -/
def playAt (ids : IdSource) (latest : Registry → List Sensor) :
    List (ThreadLabel × Int) → Threads Registry → Option (Threads Registry)
  | [], threads => some threads
  | (label, sysdate) :: labels, threads =>
      (step (connection ids (.now latest)) label (threads.atTime sysdate)).bind
        (playAt ids latest labels)

theorem Clocked.of_playAt {labels : List (ThreadLabel × Int)} {threads after : Threads Registry}
    (reached : Clocked ids latest before threads)
    (played : playAt ids latest labels threads = some after) :
    Clocked ids latest before after := by
  induction labels generalizing threads with
  | nil =>
      cases played
      exact reached
  | cons first labels ih =>
      obtain ⟨middle, stepped, goesOn⟩ := Option.bind_eq_some_iff.mp played
      exact ih ((reached.tail (.tick first.2)).tail (.call first.1 stepped)) goesOn

/-- Two minutes of a sensor, with a measurement of another one in between. -/
def twoMinutes : Registry :=
  { rows := [{ id := 1, token := [116], columns := { ip := [49], port := 7 } }]
    measurements := [(1, 20, 1000), (1, 23, 1010), (2, 90, 1020), (1, 30, 1070)]
    sysdate := 9000 }

theorem timed_twoMinutes : twoMinutes.Timed := by
  unfold Timed IsInt twoMinutes
  decide

def askLastHour : MonitoringRequest :=
  { clientId := 0, commandType := .getSetOfMeasurements, sensorId := 1, type := 0 }

def monitorAsks : List (ThreadLabel × Int) :=
  [(.network (.accept .monitoring 0 5 .zero), 9000),
    (.network (.monitoringFrame 0 askLastHour), 9001),
    (.takeMonitoring, 9001), (.executeMonitoring, 9001), (.executeMonitoring, 9002)]

theorem reports_summarize_monitorAsks :
    ∃ (later asking : Threads Registry) (response : MonitoringResponse),
      Clocked .counting (fun _ => []) (start twoMinutes) asking ∧
        Clocked .counting (fun _ => []) asking later ∧
        response.measurements.map (·.value) = [21, 30] ∧
        Summarizes .minute 3600 asking.server.database.sysdate
          (asking.server.database.since 1 (asking.server.database.sysdate - 3600))
          response.measurements := by
  have played : (playAt .counting (fun _ => []) monitorAsks (start twoMinutes)).map
      (fun threads => threads.monitoring.finished.map fun finished =>
        (finished.1.request, finished.2.toOption.map
          fun response => response.request.measurements.map (·.value))) =
      some [(askLastHour, some [21, 30])] := by decide +kernel
  obtain ⟨later, reached, finished⟩ := Option.map_eq_some_iff.mp played
  have goesOn := Clocked.of_playAt .refl reached
  obtain ⟨⟨stamped, result⟩, single, same⟩ := List.map_eq_singleton_iff.mp finished
  obtain ⟨isRequest, isResult⟩ := Prod.mk.inj same
  cases result with
  | error error => cases isResult
  | ok response =>
      have member : (stamped, .ok response) ∈ later.monitoring.finished.drop
          (start twoMinutes).monitoring.finished.length := by
        rw [single]
        exact List.mem_singleton_self _
      have asks : stamped.request.Asks .minute 3600 := by
        dsimp only at isRequest
        rw [isRequest]
        exact .lastHour rfl rfl
      obtain ⟨-, asking, called, asked, ticks, ends, -, -, -, -, summarizes⟩ :=
        reports_summarize timed_twoMinutes .refl rfl goesOn member asks
      dsimp only at isRequest
      rw [isRequest] at summarizes
      exact ⟨later, asking, response.request, asked, ends.head ticks, Option.some.inj isResult,
        summarizes⟩

/-- Whatever the order of the calls: two reports agree on the periods that they
both cover as a whole, but for those of measurements stored in between. -/
theorem reports_agree (timed : content.Timed)
    (reached : Clocked ids latest (start content) before)
    (goesOn : Clocked ids latest before later) :
    ∃ added, later.server.database.measurements =
        before.server.database.measurements ++ added ∧
      ∀ resolution sensorId moment other bound, moment ≤ bound → other ≤ bound →
        Resolution.Near bound →
        ∀ entry : Measurement, Resolution.toChar resolution bound < entry.label →
          (∀ row ∈ added, row.1 = sensorId → timeLabel resolution row ≠ entry.label) →
          (entry ∈ averages resolution other later.server.database sensorId ↔
            entry ∈ averages resolution moment before.server.database sensorId) := by
  obtain ⟨keeping, stored⟩ := reached.keeping_start
  obtain ⟨-, stores⟩ := Clocked.keeping goesOn keeping
  have timedLater : later.server.database.Timed := (timed.of_stores stored).of_stores stores
  obtain ⟨added, same, -⟩ := stores
  exact ⟨added, same,
    fun resolution sensorId moment other bound begins otherBegins near entry behind none =>
      mem_averages_later timedLater same near begins otherBegins behind none⟩

/-- A measurement of a later minute, 40 at the timestamp 1100. -/
def sensorMeasures : List (ThreadLabel × Int) :=
  [(.network (.accept .sensor 0 6 .zero), 9000),
    (.network (.sensorFrame 0 [105, 116] (fun _ => 0) 0), 9000),
    (.takeSensor 0 0, 9000), (.executeSensor, 9000), (.executeSensor, 9000),
    (.executeSensor, 9000), (.executeSensor, 9001), (.executeSensor, 9001),
    (.executeSensor, 9001), (.executeSensor, 9001),
    (.network (.sensorFrame 0 [109, 224, 200, 16, 0, 0, 0, 0, 0, 40, 0, 0, 0] (fun _ => 0) 0),
      9002),
    (.takeSensor 0 0, 9002), (.executeSensor, 9002), (.executeSensor, 9002)]

theorem reports_agree_sensorMeasures :
    ∃ later : Threads Registry, Clocked .counting (fun _ => []) (start twoMinutes) later ∧
      later.server.database.measurements = twoMinutes.measurements ++ [(1, 40, 1100)] ∧
      { value := 21, label := Resolution.minute.toChar 8160 } ∈
        averages .minute 5402 later.server.database 1 := by
  have played : (playAt .counting (fun _ => []) sensorMeasures (start twoMinutes)).map
      (fun threads => threads.server.database.measurements) =
      some (twoMinutes.measurements ++ [(1, 40, 1100)]) := by decide +kernel
  obtain ⟨later, reached, stored⟩ := Option.map_eq_some_iff.mp played
  have goesOn := Clocked.of_playAt .refl reached
  refine ⟨later, goesOn, stored, ?_⟩
  obtain ⟨added, same, agree⟩ := reports_agree timed_twoMinutes .refl goesOn
  rw [stored] at same
  have isAdded : added = [(1, 40, 1100)] := (List.append_cancel_left same).symm
  apply (agree .minute 1 5400 5402 5402 (by decide) le_rfl ?_ _ ?_ ?_).mpr
  · decide +kernel
  · unfold Resolution.Near Date.Near
    decide
  · decide +kernel
  · rw [isAdded]
    decide +kernel

end Threads

end SensorManager
