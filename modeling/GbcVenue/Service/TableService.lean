import GbcVenue.Backend.Actions

/-!
# The table service

`backend/internal/service/table_service.go`. A state transition is a write of the cache followed by
a send on the MQTT command channel; no lock spans the two.
-/

namespace GbcVenue.TableService

open Interleaving

/-- Go `sendMqttCommand` (`table_service.go:106-117`). -/
def sendMqttCommand (tableID : Int) (lightState : LightState) : Go Unit := do
  let now ← timeNow
  Prog.call (Op.sendMqtt
    ⟨"cmd_" ++ toString (GoTime.unixMilli now) ++ "_" ++ toString tableID, tableID, lightState⟩)

/-- Go `ActivateTable` (`table_service.go:37-41`). -/
def activateTable (tableID : Int) (booking : CurrentBooking) : Go Unit := do
  TableCache.activateTable tableID booking
  sendMqttCommand tableID .on

/-- Go `DeactivateTable` (`table_service.go:44-48`). -/
def deactivateTable (tableID : Int) : Go Unit := do
  TableCache.deactivateTable tableID
  sendMqttCommand tableID .off

/-- Go `SetLightStatus` (`table_service.go:51-69`); table 0 stands for all. -/
def setLightStatus (tableID : Int) (targetState : LightStatus) : Go Unit := do
  if tableID = 0 then TableCache.setAllLightStatuses targetState
  else TableCache.setLightStatus tableID targetState
  sendMqttCommand tableID (if targetState = .on then .on else .off)

/-- Go `UpdateCurrentBooking` (`table_service.go:72-74`). -/
def updateCurrentBooking (tableID : Int) (partialBooking : CurrentBooking) : Go Unit :=
  TableCache.updateCurrentBooking tableID partialBooking

/-- Go `ConfirmLightStatus` (`table_service.go:79-85`). -/
def confirmLightStatus (tableID : Int) (state : LightStatus) : Go Unit :=
  if tableID = 0 then TableCache.confirmAllLightStatuses state
  else TableCache.confirmLightStatus tableID state

/-- Go `ConfirmFullSync` (`table_service.go:88-90`). -/
def confirmFullSync : Go Unit := TableCache.confirmFullSync

/-- Go `GetCacheSnapshot` (`table_service.go:93-95`). -/
def getCacheSnapshot : Go (List TableState) := TableCache.getAll

/-- Go `GetTable` (`table_service.go:100-102`). -/
def getTable (tableID : Int) : Go (TableState × Bool) := TableCache.getTable tableID

end GbcVenue.TableService
