import NetConsole.Settings.Update
import NetConsole.Settings.Field
import NetConsole.Log

/-! Merging typed updates into a profile's raw settings: the legacy `addresses` and `routes` keys
leave the IP sections, each update writes its key (the "any" band removes the band key instead),
and the Wi-Fi security section goes when the key management in effect is open. -/

namespace NetConsole

namespace RawSettings

open NetConsole.Bus (Value)

def legacyKeys : List String := ["addresses", "routes"]

def stripLegacy (raw : RawSettings) : RawSettings :=
  raw.map fun (name, s) =>
    if name == Setting.ipv4 || name == Setting.ipv6 then (name, s.filter fun (k, _) => !legacyKeys.contains k)
    else (name, s)

def applyUpdate (raw : RawSettings) (u : Update) : RawSettings :=
  match u with
  | .band b =>
    if (TextChoice.raw b).isEmpty then Table.modify Setting.wifi (Table.erase "band") raw
    else Table.insert Setting.wifi (Table.insert "band" u.toValue ((raw.get? Setting.wifi).getD [])) raw
  | u => Table.insert u.key.setting (Table.insert u.key.key u.toValue ((raw.get? u.key.setting).getD [])) raw

def resolvesToOpen (raw : RawSettings) (us : Updates) : Bool :=
  match us.find? Setting.wifiSecurity "key-mgmt" with
  | some (.keyMgmt k) => (TextChoice.raw k).isEmpty
  | _ =>
    match (raw.get? Setting.wifiSecurity).bind (·.get? "key-mgmt") with
    | some (.string s) => s.isEmpty
    | _ => false

def merge (raw : RawSettings) (us : Updates) : RawSettings :=
  let written := us.items.foldl applyUpdate (stripLegacy raw)
  if resolvesToOpen written us then Table.erase Setting.wifiSecurity written else written

def logTarget : String := "nmconsole::core::update"

def mergeNotes (raw : RawSettings) (us : Updates) : List LogRecord :=
  if resolvesToOpen (us.items.foldl applyUpdate (stripLegacy raw)) us then
    [⟨.debug, logTarget, "Removing " ++ Setting.wifiSecurity ++ " section of open network"⟩]
  else []

end RawSettings

end NetConsole
