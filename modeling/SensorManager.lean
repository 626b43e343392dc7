import SensorManager.Common.RecvFraming
import SensorManager.Server.Authenticity
import SensorManager.Server.Agreement
import SensorManager.Server.Answers
import SensorManager.Server.Revocation
import SensorManager.Server.Failures
import SensorManager.Common.Containment
import SensorManager.JavaClient.Dispatch
import SensorManager.Common.SlotRuns
import SensorManager.Common.Dropping
import SensorManager.SensorClient.InitFirst
import SensorManager.JavaClient.Administrator
import SensorManager.JavaClient.Monitoring
import SensorManager.JavaClient.SensorName
import SensorManager.Server.Listeners
import SensorManager.Server.Acknowledged
import SensorManager.Common.Gating
import SensorManager.JavaClient.Selection
import SensorManager.Server.Measurements
import SensorManager.Server.ResponseOrder
import SensorManager.Server.Overview
import SensorManager.Server.Statements
import SensorManager.Server.Databases
import SensorManager.Server.Queue
import SensorManager.JavaClient.CommunicationManager
import SensorManager.Common.PrefsRuns
import SensorManager.JavaClient.Answered
import SensorManager.Server.Shutdown
import SensorManager.Server.SensorChannel
import SensorManager.Server.Reports
import SensorManager.JavaClient.AdministratorTable
import SensorManager.JavaClient.MonitoringApp
