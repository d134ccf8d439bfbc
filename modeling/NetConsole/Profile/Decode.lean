import NetConsole.Profile.Basic
import NetConsole.Settings.Field
import NetConsole.Settings.Key
import NetConsole.Bus.Text
import NetConsole.Log

namespace NetConsole

open NetConsole.Bus (Value)
open RawSection (required optional)

namespace ProfileSettings

def maxTimestamp : Nat := Nat.pow 2 63 - 1

def timestampOf (secs : Nat) : Option Nat :=
  if secs > maxTimestamp then none else if secs = 0 then none else some secs

structure ConnHead where
  uuid : Uuid
  rawType : String
  authRetries : Int
  autoconnect : Bool
  autoconnectPriority : Int
  autoconnectRetries : Int
  id : String
  interfaceName : String
  stableId : String

def decodeConnHead (s : Option RawSection) : Except Error ConnHead := do
  let rawUuid ← required s "uuid" (some "UUID") Value.asString?
  let uuid ← match Uuid.parse rawUuid with
    | .ok u => pure u
    | .error e => throw (.invalidUuid rawUuid e)
  let rawType ← required s "type" none Value.asString?
  let authRetries ← optional s "auth-retries" none Value.asInt32? (-1)
  let autoconnect ← optional s "autoconnect" none Value.asBool? true
  let autoconnectPriority ← optional s "autoconnect-priority" none Value.asInt32? 0
  let autoconnectRetries ← optional s "autoconnect-retries" none Value.asInt32? (-1)
  let id ← required s "id" (some "ID") Value.asString?
  let interfaceName ← required s "interface-name" none Value.asString?
  let stableId ← optional s "stable-id" (some "stable ID") Value.asString? ""
  return ⟨uuid, rawType, authRetries, autoconnect, autoconnectPriority, autoconnectRetries, id,
    interfaceName, stableId⟩

def readTimestamp (s : Option RawSection) : Except Error Nat :=
  optional s "timestamp" none Value.asUInt64? 0

def decodeConn (s : Option RawSection) : Except Error ConnSettings := do
  let head ← decodeConnHead s
  let secs ← readTimestamp s
  let zone ← optional s "zone" none Value.asString? ""
  return {
    authRetries := head.authRetries
    autoconnect := head.autoconnect
    autoconnectPriority := head.autoconnectPriority
    autoconnectRetries := head.autoconnectRetries
    id := head.id
    interfaceName := head.interfaceName
    stableId := head.stableId
    timestamp := timestampOf secs
    connType := ConnType.ofRaw head.rawType
    uuid := head.uuid
    zone := zone }

def decodeWifi (s : Option RawSection) : Except Error WifiSettings := do
  let band ← optional s "band" none Value.asString? ""
  let mode ← optional s "mode" none Value.asString? ""
  let channel ← optional s "channel" none Value.asUInt32? 0
  let hidden ← optional s "hidden" none Value.asBool? false
  let ssid ← optional s "ssid" (some "SSID") Value.asBytes? []
  return {
    band := TextChoice.ofRaw band
    channel := channel
    hidden := hidden
    mode := TextChoice.ofRaw mode
    ssid := ssid }

def decodeWifiSecFields (s : Option RawSection) : Except Error WifiSecSettings := do
  let group ← optional s "group" (some "group/broadcast encryption algorithms whitelist")
    Value.asStrings? []
  let keyMgmt ← optional s "key-mgmt" (some "key management method") Value.asString? ""
  let pairwise ← optional s "pairwise" (some "pairwise encryption algorithms whitelist")
    Value.asStrings? []
  let proto ← optional s "proto" (some "WPA protocol versions whitelist") Value.asStrings? []
  let pskFlags ← optional s "psk-flags" none Value.asUInt32? 0
  return {
    group := ChoiceSet.ofRaws group
    keyMgmt := TextChoice.ofRaw keyMgmt
    pairwise := ChoiceSet.ofRaws pairwise
    proto := ChoiceSet.ofRaws proto
    pskFlags := ⟨pskFlags.toUInt32⟩ }

def readPsk (secrets : Option RawSection) : Except Error String :=
  optional secrets "psk" (some "PSK") Value.asString? ""

def decodePsk (secrets : Option RawSection) : String :=
  match readPsk secrets with
  | .ok psk => psk
  | .error _ => ""

def decodeWifiSec (s secrets : Option RawSection) : Except Error WifiSecSettings := do
  let fields ← decodeWifiSecFields s
  return { fields with psk := decodePsk secrets }

def decodeAddresses (s : Option RawSection) : Except Error (List IpAddress) := do
  let entries ← optional s "address-data" none Value.asSections? []
  entries.mapM IpAddress.ofEntry
where
  IpAddress.ofEntry (entry : RawSection) : Except Error IpAddress := do
    let rawAddr ← required (some entry) "address" none Value.asString?
    let len ← required (some entry) "prefix" none Value.asUInt32?
    let addr ← match IpAddr.parse? rawAddr with
      | some a => pure a
      | none => throw (.invalidAddress rawAddr)
    let maxLen := if addr.isV4 then 32 else 128
    if len > 255 || len > maxLen then throw (.invalidAddress (rawAddr ++ "/" ++ toString len))
    let attributes := (entry.filter fun (k, _) => k != "address" && k != "prefix").map
      fun (k, v) => (k, v.plainText)
    return ⟨⟨addr, len⟩, attributes.mergeSort fun a b => decide (a.1 ≤ b.1)⟩

def decodeIpv4 (s : Option RawSection) : Except Error Ipv4Settings := do
  let addresses ← decodeAddresses s
  let method ← optional s "method" none Value.asString? ""
  let neverDefault ← optional s "never-default" none Value.asBool? false
  return { addresses, method, neverDefault }

def decodeIpv6 (s : Option RawSection) : Except Error Ipv6Settings := do
  let addresses ← decodeAddresses s
  let addrGenMode ← optional s "addr-gen-mode" none Value.asInt32? 0
  let method ← optional s "method" none Value.asString? ""
  return { addresses, addrGenMode, method }

def sectionContext (name : String) : String := "couldn't parse '" ++ name ++ "' section"

def inSection {α : Type} (name : String) (r : Except Error α) : Except Error α :=
  r.mapError (.context (sectionContext name))

/-- The profile settings that the raw settings hold, with the PSK from the secrets' security
section when there are secrets. -/
def decode (raw : RawSettings) (secrets : Option RawSettings) : Except Error ProfileSettings := do
  let conn ← inSection Setting.connection (decodeConn (raw.get? Setting.connection))
  let (wifi, wifiSec) ← if conn.connType.isWifi then do
      let wifi ← inSection Setting.wifi (decodeWifi (raw.get? Setting.wifi))
      let wifiSec ← inSection Setting.wifiSecurity (decodeWifiSec (raw.get? Setting.wifiSecurity)
        (secrets.bind (·.get? Setting.wifiSecurity)))
      pure (wifi, wifiSec)
    else pure ({}, {})
  let ipv4 ← inSection Setting.ipv4 (decodeIpv4 (raw.get? Setting.ipv4))
  let ipv6 ← inSection Setting.ipv6 (decodeIpv6 (raw.get? Setting.ipv6))
  return { conn, wifi, wifiSec, ipv4, ipv6 }

/-- The raw settings are of a Wi-Fi profile, their type read leniently: a type of another bus
type counts as no Wi-Fi. -/
def isWifiProfile (raw : RawSettings) : Bool :=
  match optional (raw.get? Setting.connection) "type" none Value.asString? "" with
  | .ok t => (ConnType.ofRaw t).isWifi
  | .error _ => false

def logTarget : String := "nmconsole::core::decode"

/-- The warnings of decoding: a time stamp beyond range, if decoding reaches it, and a PSK that
cannot be read, if decoding reaches the PSK. -/
def decodeNotes (raw : RawSettings) (secrets : Option RawSettings) : List LogRecord :=
  let conn := raw.get? Setting.connection
  let stampNote :=
    match decodeConnHead conn, readTimestamp conn with
    | .ok _, .ok secs =>
      if secs > maxTimestamp then
        [⟨.warn, logTarget, "Ignoring out-of-range connection timestamp " ++ toString secs⟩]
      else []
    | _, _ => []
  let pskNote :=
    match decodeConn conn with
    | .ok c =>
      if c.connType.isWifi then
        match decodeWifi (raw.get? Setting.wifi), decodeWifiSecFields (raw.get? Setting.wifiSecurity),
            readPsk (secrets.bind (·.get? Setting.wifiSecurity)) with
        | .ok _, .ok _, .error e => [⟨.warn, logTarget, "Ignoring unreadable PSK: " ++ e.message⟩]
        | _, _, _ => []
      else []
    | .error _ => []
  stampNote ++ pskNote

end ProfileSettings

end NetConsole
