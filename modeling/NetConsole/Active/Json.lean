import NetConsole.Active.Basic
import NetConsole.Device.Json

namespace NetConsole

def ActiveState.name? : ActiveState → Option String
  | .unknown => some "Unknown"
  | .activating => some "Activating"
  | .activated => some "Activated"
  | .deactivating => some "Deactivating"
  | .deactivated => some "Deactivated"
  | .other _ => none

def ActiveConn.toJson (a : ActiveConn) : Json :=
  .obj [("id", .str a.id), ("uuid", .str a.uuid.text), ("conn_type", .str a.connType),
    ("device_interfaces", Json.strs a.deviceInterfaces),
    ("state", variantJson a.state.name? a.state.code),
    ("state_flags", .str (Flags.text ActivationFlags.names a.stateFlags.bits)),
    ("is_ipv4_default", .bool a.isIpv4Default), ("is_ipv6_default", .bool a.isIpv6Default),
    ("is_vpn", .bool a.isVpn)]

def activeJson (conns : List ActiveConn) : Json :=
  .obj (conns.map fun a => (a.uuid.text, a.toJson))

end NetConsole
