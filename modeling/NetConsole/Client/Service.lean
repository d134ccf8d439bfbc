import NetConsole.Settings.Field
import NetConsole.Bus.Error
import NetConsole.Log

/-! The NetworkManager service as the client sees it on the bus: property reads and a few method
calls, each of which may fail, together with the log records the client leaves and a clock that
waiting moves on and from which a cancellation holds. -/

namespace NetConsole.Client

open NetConsole.Bus (Value BusError)

inductive Interface where
  | manager
  | settings
  | connection
  | device
  | wireless
  | accessPoint
  | active
  deriving DecidableEq, Repr

def Interface.name : Interface → String
  | .manager => "org.freedesktop.NetworkManager"
  | .settings => "org.freedesktop.NetworkManager.Settings"
  | .connection => "org.freedesktop.NetworkManager.Settings.Connection"
  | .device => "org.freedesktop.NetworkManager.Device"
  | .wireless => "org.freedesktop.NetworkManager.Device.Wireless"
  | .accessPoint => "org.freedesktop.NetworkManager.AccessPoint"
  | .active => "org.freedesktop.NetworkManager.Connection.Active"

def managerPath : String := "/org/freedesktop/NetworkManager"

def noObject : String := "/"

class NetworkService (σ : Type) where
  property : String → Interface → String → EStateM BusError σ Value
  getDevices : EStateM BusError σ (List String)
  deviceByIpIface : String → EStateM BusError σ String
  activateConnection : String → String → String → EStateM BusError σ String
  listConnections : EStateM BusError σ (List String)
  connectionByUuid : String → EStateM BusError σ String
  reloadConnections : EStateM BusError σ Bool
  getSettings : String → EStateM BusError σ RawSettings
  getSecrets : String → String → EStateM BusError σ RawSettings
  update2 : String → RawSettings → UInt32 → EStateM BusError σ Unit
  requestScan : String → EStateM BusError σ Unit
  note : LogRecord → σ → σ
  journal : σ → List LogRecord
  wait : Nat → σ → σ
  cancelled : σ → Bool

def invalidConnectionError : String := "org.freedesktop.NetworkManager.Settings.InvalidConnection"

def unknownDeviceError : String := "org.freedesktop.NetworkManager.UnknownDevice"

end NetConsole.Client
