import NetConsole.Daemon.Basic
import NetConsole.Client.Service
import NetConsole.Bus.Encoding

/-! The daemon on the bus: how it answers the client's calls. What crosses the bus obeys its wire
format (`Bus.Encoding`), so a reply nested too deep fails as the daemon encodes it and a text
with a NUL character as the client decodes it. -/

namespace NetConsole.Daemon

open NetConsole.Bus (Value BusError Signature)
open NetConsole.Client (Interface NetworkService managerPath noObject)

def unknownObject (path : String) : BusError :=
  .reply "org.freedesktop.DBus.Error.UnknownObject" ("Unknown object '" ++ path ++ "'")

def unknownInterface (iface : Interface) : BusError :=
  .reply "org.freedesktop.DBus.Error.UnknownInterface" ("Unknown interface '" ++ iface.name ++ "'")

def unknownProperty (name : String) : BusError :=
  .standard "org.freedesktop.DBus.Error.UnknownProperty" ("Unknown property '" ++ name ++ "'")

def unavailable (text : String) : BusError := .standard "org.freedesktop.DBus.Error.Failed" text

def noSecrets (setting : String) : BusError :=
  .reply "org.freedesktop.NetworkManager.Settings.PermissionDenied"
    ("No secrets for " ++ setting ++ " available")

def managerFailure (call : String) : BusError :=
  .reply "org.freedesktop.NetworkManager.Failed" (call ++ " failed")

def settingsFailure (call : String) : BusError :=
  .reply "org.freedesktop.NetworkManager.Settings.Failed" (call ++ " failed")

def pathsValue (paths : List String) : Value := .array .objectPath (paths.map .objectPath)

def undecodable : BusError := .reply "org.freedesktop.zbus.Error" "no details"

/-- The first depth limit that settings pass as the `a{sa{sv}}` of a message, inside
`structures` structures. -/
def settingsDepthFault? (structures : Nat) (s : RawSettings) : Option Bus.DepthLimit :=
  (s.flatMap fun (_, sec) => sec.map (·.2)).findSome? fun v =>
    (Value.variant v).depthFault? { structures, arrays := 2 }

def settingsHaveNul (s : RawSettings) : Bool :=
  s.any fun (name, sec) => name.contains '\x00' || sec.any fun (key, v) => key.contains '\x00' || v.hasNul

def replySettings (s : RawSettings) : Except BusError RawSettings :=
  match settingsDepthFault? 0 s with
  | some limit => .error (.reply "org.freedesktop.DBus.Error.Failed" limit.message)
  | none => if settingsHaveNul s then .error (.encoding Bus.nulRefusal) else .ok s

def codeValue (n : Nat) : Value := .uint32 n.toUInt32

def Connection.garbled (c : Connection) : Bool := c.profileMeta.filename.contains '\x00'

def DeviceObject.garbled (d : DeviceObject) : Bool :=
  [d.interface, d.ipInterface, d.driver, d.driverVersion, d.firmwareVersion, d.hwAddress].any
    (·.contains '\x00')

def Connection.property (c : Connection) : String → Option Value
  | "Unsaved" => some (.bool c.profileMeta.unsaved)
  | "Flags" => some (codeValue c.profileMeta.flags)
  | "Filename" => some (.string c.profileMeta.filename)
  | _ => none

def DeviceObject.property (d : DeviceObject) : String → Option Value
  | "Interface" => some (.string d.interface)
  | "IpInterface" => some (.string d.ipInterface)
  | "Driver" => some (.string d.driver)
  | "DriverVersion" => some (.string d.driverVersion)
  | "FirmwareVersion" => some (.string d.firmwareVersion)
  | "Capabilities" => some (codeValue d.capabilities)
  | "StateReason" => some (.struct [codeValue d.state, codeValue d.reason])
  | "Managed" => some (.bool d.managed)
  | "Autoconnect" => some (.bool d.autoconnect)
  | "FirmwareMissing" => some (.bool d.firmwareMissing)
  | "NmPluginMissing" => some (.bool d.nmPluginMissing)
  | "DeviceType" => some (codeValue d.deviceType)
  | "Ip4Connectivity" => some (codeValue d.ip4Connectivity)
  | "Ip6Connectivity" => some (codeValue d.ip6Connectivity)
  | "InterfaceFlags" => some (codeValue d.interfaceFlags)
  | "HwAddress" => some (.string d.hwAddress)
  | _ => none

def Radio.property (r : Radio) : String → Option Value
  | "AccessPoints" => some (pathsValue (r.accessPoints.map (pathAt accessPointPrefix)))
  | "ActiveAccessPoint" =>
    some (.objectPath ((r.activeAccessPoint.map (pathAt accessPointPrefix)).getD noObject))
  | "Mode" => some (codeValue r.mode)
  | "WirelessCapabilities" => some (codeValue r.capabilities)
  | "LastScan" => some (.int64 (Int64.ofInt r.lastScan))
  | _ => none

def AccessPointObject.property (ap : AccessPointObject) : String → Option Value
  | "Ssid" => some (.array .byte (ap.ssid.map .byte))
  | "Frequency" => some (codeValue ap.frequency)
  | "Strength" => some (.byte ap.strength.toUInt8)
  | "LastSeen" => some (.int32 (Int32.ofInt ap.lastSeen))
  | "Mode" => some (codeValue ap.mode)
  | "RsnFlags" => some (codeValue ap.rsnFlags)
  | _ => none

def ActiveObject.garbled (a : ActiveObject) : Bool :=
  [a.id, a.uuid, a.connType].any (·.contains '\x00')

def ActiveObject.property (a : ActiveObject) : String → Option Value
  | "Id" => some (.string a.id)
  | "Uuid" => some (.string a.uuid)
  | "Type" => some (.string a.connType)
  | "State" => some (codeValue a.state)
  | "StateFlags" => some (codeValue a.stateFlags)
  | "Default" => some (.bool a.default4)
  | "Default6" => some (.bool a.default6)
  | "Vpn" => some (.bool a.vpn)
  | "Devices" => some (pathsValue (a.devices.map (pathAt devicesPrefix)))
  | _ => none

inductive Object where
  | manager
  | connection (c : Connection)
  | device (d : DeviceObject)
  | accessPoint (ap : AccessPointObject)
  | active (a : ActiveObject)

def objectFor? (d : Daemon) (path : String) : Option Object :=
  if path == managerPath then some .manager
  else ((present? (·.missing) (objectAt? settingsPrefix d.connections path)).map
      fun (_, c) => .connection c) <|>
    ((present? (·.missing) (objectAt? devicesPrefix d.devices path)).map fun (_, x) => .device x) <|>
    ((present? (·.missing) (objectAt? accessPointPrefix d.accessPoints path)).map
      fun (_, ap) => .accessPoint ap) <|>
    ((present? (·.missing) (objectAt? activePrefix d.active path)).map fun (_, a) => .active a)

/-- A property of one of the object's interfaces; `failing` are the calls the object fails, and
`garbled` says whether a text property of the interface holds a NUL character. -/
def readProperty (path : String) (iface : Interface) (name : String) (failing : List String)
    (garbled : Bool) (ok : Interface) (value : String → Option Value) : Except BusError Value :=
  if iface != ok then .error (unknownInterface iface)
  else if failing.contains "properties" then
    .error (unavailable ("properties of " ++ path ++ " are not available"))
  else if garbled then .error (.encoding Bus.nulRefusal)
  else
    match value name with
    | some v => .ok v
    | none => .error (unknownProperty name)

def Object.property (d : Daemon) (path : String) (iface : Interface) (name : String) :
    Object → Except BusError Value
  | .manager =>
    if iface != .manager then .error (unknownInterface iface)
    else if name != "ActiveConnections" then .error (unknownProperty name)
    else if d.failing.contains "ActiveConnections" then
      .error (unavailable "ActiveConnections is not available")
    else .ok (pathsValue (paths activePrefix d.active))
  | .connection c => readProperty path iface name c.failing c.garbled .connection c.property
  | .device x =>
    match iface, x.radio with
    | .wireless, none => .error (unknownInterface iface)
    | .wireless, some r =>
      if x.failing.contains "wireless_properties" then
        .error (unavailable ("wireless properties of " ++ path ++ " are not available"))
      else
        match r.property name with
        | some v => .ok v
        | none => .error (unknownProperty name)
    | _, _ => readProperty path iface name x.failing x.garbled .device x.property
  | .accessPoint ap => readProperty path iface name ap.failing false .accessPoint ap.property
  | .active a => readProperty path iface name a.failing a.garbled .active a.property

def liftExcept {α : Type} : Except BusError α → EStateM BusError Daemon α
  | .ok a => pure a
  | .error e => throw e

def connectionFor (path call : String) (garbledArguments : Bool := false) :
    EStateM BusError Daemon (Nat × Connection) := do
  match present? (·.missing) (objectAt? settingsPrefix (← get).connections path) with
  | none => throw (unknownObject path)
  | some (i, c) =>
    if garbledArguments then throw undecodable
    else if c.failing.contains call then throw (settingsFailure call)
    else pure (i, c)

def failIfListed (failure : String → BusError) (call : String) : EStateM BusError Daemon Unit := do
  if (← get).failing.contains call then throw (failure call)

def Radio.completed (r : Radio) : Int := r.scanTo.getD (Int64.ofInt (r.lastScan + 1000)).toInt

def requestScan (path : String) : EStateM BusError Daemon Unit := do
  let d ← get
  match present? (·.missing) (objectAt? devicesPrefix d.devices path) with
  | none => throw (unknownObject path)
  | some (i, x) =>
    match x.radio with
    | none => throw (unknownInterface .wireless)
    | some r =>
      set { d with scanRequests := d.scanRequests + 1 }
      match r.scan with
      | .refuse =>
        throw (.reply "org.freedesktop.NetworkManager.Failed" "Scanning not allowed at this time")
      | .interrupt => modify fun d => { d with cancelAt := some d.clock }
      | .never => pure ()
      | .complete =>
        let x' := { x with radio := some { r with lastScan := r.completed } }
        modify fun d => { d with devices := d.devices.set i x' }
      | .completeInterrupted =>
        let x' := { x with radio := some { r with lastScan := r.completed } }
        modify fun d => { d with devices := d.devices.set i x', cancelAt := some d.clock }

instance : NetworkService Daemon where
  property path iface name := do
    match objectFor? (← get) path with
    | none => throw (unknownObject path)
    | some o => liftExcept (o.property (← get) path iface name)
  getDevices := do
    failIfListed managerFailure "GetDevices"
    return paths devicesPrefix (← get).devices
  deviceByIpIface iface := do
    if iface.contains '\x00' then throw undecodable
    failIfListed managerFailure "GetDeviceByIpIface"
    let d ← get
    match (List.range d.devices.length).find? fun i => (d.devices[i]?.map (·.ipIface)) == some iface with
    | some i => pure (pathAt devicesPrefix i)
    | none => throw (.reply Client.unknownDeviceError "No device found for the requested iface.")
  activateConnection conn device specific := do
    failIfListed managerFailure "ActivateConnection"
    match present? (·.missing) (objectAt? settingsPrefix (← get).connections conn) with
    | none => throw (.reply "org.freedesktop.NetworkManager.UnknownConnection"
        ("Connection '" ++ conn ++ "' is not available"))
    | some _ =>
      modify fun d => { d with activations := d.activations ++ [(conn, device, specific)] }
      return activePrefix ++ toString (100 + (← get).activations.length)
  listConnections := do
    failIfListed settingsFailure "ListConnections"
    return paths settingsPrefix (← get).connections
  connectionByUuid uuid := do
    failIfListed settingsFailure "GetConnectionByUuid"
    let d ← get
    let wanted := (Uuid.parse uuid).toOption
    match (List.range d.connections.length).find? fun i =>
        wanted.isSome && (d.connections[i]?.bind (·.lookupUuid)) == wanted with
    | some i => pure (pathAt settingsPrefix i)
    | none => throw (.reply Client.invalidConnectionError "No connection with the UUID was found.")
  reloadConnections := do
    failIfListed settingsFailure "ReloadConnections"
    return (← get).reloadAnswer
  getSettings path := do
    let (_, c) ← connectionFor path "GetSettings"
    liftExcept (replySettings c.settings)
  getSecrets path setting := do
    match present? (·.missing) (objectAt? settingsPrefix (← get).connections path) with
    | none => throw (unknownObject path)
    | some (_, c) =>
      match c.secrets with
      | some secrets =>
        if c.failing.contains "GetSecrets" then throw (noSecrets setting)
        else liftExcept (replySettings secrets)
      | none => throw (noSecrets setting)
  update2 path settings flags := do
    if let some limit := settingsDepthFault? 1 settings then throw (.encoding limit.message)
    let (i, c) ← connectionFor path "Update2" (settingsHaveNul settings)
    modify fun d => { d with
      connections := d.connections.set i { c with settings := settings }
      updates := d.updates ++ [(path, flags, settings)] }
  requestScan := requestScan
  note r d := { d with journal := d.journal ++ [r] }
  journal d := d.journal
  wait ms d := { d with clock := d.clock + ms }
  cancelled := Daemon.cancelled

end NetConsole.Daemon
