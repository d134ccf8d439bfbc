import NetConsole.Settings.Update
import NetConsole.Settings.Field
import NetConsole.Bus.Notation

namespace NetConsole

open NetConsole.Bus (Value)

def RawSettings.toJson (raw : RawSettings) : Json :=
  .obj (raw.map fun (name, s) => (name, .obj (s.map fun (k, v) => (k, v.toJson))))

def namedFields (fields : List (String × Json)) : List (String × Json) :=
  (fields.foldl (fun acc (k, v) => Table.insert k v acc) []).mergeSort fun a b => decide (a.1 ≤ b.1)

def RawSection.ofJson (name : String) : Json → Except String RawSection
  | .obj fields =>
    (namedFields fields).mapM fun (k, vj) => do
      let v ← Value.ofJson (name ++ "." ++ k) vj
      pure (k, v)
  | _ => .error (name ++ ": expected an object of keys")

def RawSettings.ofJson : Json → Except String RawSettings
  | .obj fields =>
    (namedFields fields).mapM fun (name, sj) => do
      let s ← RawSection.ofJson name sj
      pure (name, s)
  | _ => .error "settings must be an object of settings"

def RawSettings.ofJson? (j : Json) : Option RawSettings := (RawSettings.ofJson j).toOption

namespace Update

def fieldName : Update → String
  | .autoconnect _ => "Conn.Autoconnect"
  | .autoconnectPriority _ => "Conn.AutoconnectPriority"
  | .band _ => "Wifi.Band"
  | .channel _ => "Wifi.Channel"
  | .hidden _ => "Wifi.Hidden"
  | .mode _ => "Wifi.Mode"
  | .ssid _ => "Wifi.Ssid"
  | .group _ => "WifiSec.Group"
  | .keyMgmt _ => "WifiSec.KeyMgmt"
  | .pairwise _ => "WifiSec.Pairwise"
  | .proto _ => "WifiSec.Proto"
  | .psk _ => "WifiSec.Psk"

def toJson (u : Update) : Json :=
  .obj [("key", .str u.key.text), ("update_key", .str u.key.text), ("variant", .str u.fieldName),
    ("dbus", u.toValue.toJson)]

end Update

def Updates.toJson (us : Updates) : Json := .arr (us.items.map Update.toJson)

end NetConsole
