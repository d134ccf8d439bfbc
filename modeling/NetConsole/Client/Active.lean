import NetConsole.Client.Call
import NetConsole.Active.Basic

namespace NetConsole.Client

open NetConsole.Bus (Value)

variable {σ : Type} [NetworkService σ]

def activeTarget : String := "nmconsole::core::active"

def insertActive (a : ActiveConn) : List ActiveConn → List ActiveConn
  | [] => [a]
  | b :: rest =>
    if a.uuid.bits.toNat < b.uuid.bits.toNat then a :: b :: rest
    else if a.uuid == b.uuid then a :: rest
    else b :: insertActive a rest

def deviceInterfaces (paths : List String) : EStateM Error σ (List String) := do
  let names ← paths.mapM fun path => do
    let ip ← readAs path .device "IpInterface" ("couldn't query for data interface of " ++ path)
      Value.asString?
    if ip.isEmpty then
      readAs path .device "Interface" ("couldn't query for control interface of " ++ path)
        Value.asString?
    else pure ip
  return names.mergeSort fun a b => decide (a ≤ b)

def readActive (path : String) : EStateM Error σ ActiveConn := do
  debug activeTarget ("Reading active connection " ++ path)
  let prop := fun {α : Type} (name what : String) (as? : Value → Option α) =>
    readAs path .active name ("couldn't query for " ++ what) as?
  let rawUuid ← prop "Uuid" "connection UUID" Value.asString?
  let uuid ← match Uuid.parse rawUuid with
    | .ok u => pure u
    | .error e => throw (.invalidUuid rawUuid e)
  let devices ← prop "Devices" "devices" Value.asObjectPaths?
  let deviceInterfaces ← within "couldn't query for interface names of devices"
    (deviceInterfaces devices)
  let id ← prop "Id" "connection ID" Value.asString?
  let connType ← prop "Type" "connection type" Value.asString?
  let state ← prop "State" "connection state" Value.asUInt32?
  let stateFlags ← prop "StateFlags" "connection activation state flags" Value.asUInt32?
  let isIpv4Default ← prop "Default" "ownership of default IPv4 route" Value.asBool?
  let isIpv6Default ← prop "Default6" "ownership of default IPv6 route" Value.asBool?
  let isVpn ← prop "Vpn" "VPN" Value.asBool?
  return {
    id
    uuid
    connType
    deviceInterfaces
    state := ActiveState.ofCode state
    stateFlags := ⟨stateFlags.toUInt32⟩
    isIpv4Default
    isIpv6Default
    isVpn }

def listActive : EStateM Error σ (List ActiveConn) := do
  let paths ← readAs managerPath .manager "ActiveConnections"
    "couldn't query for active connections" Value.asObjectPaths?
  let conns ← paths.mapM fun path => within ("couldn't dump active connection " ++ path)
    (readActive path)
  return conns.foldl (fun acc a => insertActive a acc) []

end NetConsole.Client
