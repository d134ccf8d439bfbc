import NetConsole.Uuid
import NetConsole.Number.Integer
import NetConsole.Bus.Error

namespace NetConsole

open NetConsole.Bus (BusError)

inductive ErrorKind where
  | notFound
  | decode
  | validation
  | remote
  | cancelled
  deriving DecidableEq, Repr

def ErrorKind.name : ErrorKind → String
  | .notFound => "NotFound"
  | .decode => "Decode"
  | .validation => "Validation"
  | .remote => "Remote"
  | .cancelled => "Cancelled"

inductive Error where
  | bus (source : BusError)
  | busCall (context : String) (source : BusError)
  | profileNotFound (uuid : Uuid)
  | deviceNotFound (name : String)
  | missingField (name : String)
  | unexpectedType (field signature : String)
  | invalidUuid (raw : String) (source : UuidError)
  | invalidAddress (text : String)
  | invalidSettingsKey (raw : String)
  | invalidEnum (details : String)
  | outOfRange (value min max : Int)
  | invalidInteger (raw : String) (source : IntError)
  | invalidCheckbox (value on off : String)
  | ssidTooLong (length : Nat)
  | channelWithoutBand (channel : Nat)
  | unknownUpdateKind (raw : String)
  | invalidSetting (key value : String) (source : Error)
  | context (context : String) (source : Error)
  | reloadFailed
  | cancelled
  deriving Repr, Inhabited, DecidableEq

namespace Error

open NetConsole.Text (debugQuote)

def message : Error → String
  | .bus e => "D-Bus error: " ++ e.message
  | .busCall c e => c ++ ": " ++ e.message
  | .profileNotFound u => "couldn't find connection profile with UUID " ++ u.text
  | .deviceNotFound n => "couldn't find device " ++ n
  | .missingField n => "no " ++ n
  | .unexpectedType f s => f ++ " has unexpected type " ++ s
  | .invalidUuid raw e => "couldn't parse UUID " ++ raw ++ ": " ++ e.message
  | .invalidAddress t => "couldn't parse IP address " ++ t
  | .invalidSettingsKey raw => "key " ++ raw ++ " doesn't have a section"
  | .invalidEnum details => details
  | .outOfRange v lo hi => s!"{v} is outside the allowed range [{lo}, {hi}]"
  | .invalidInteger raw e => "couldn't parse " ++ debugQuote raw ++ " as an integer: " ++ e.message
  | .invalidCheckbox v on off =>
    "checkbox value " ++ debugQuote v ++ " must be either " ++ debugQuote on ++ " or " ++
      debugQuote off
  | .ssidTooLong n => s!"SSID is {n} bytes long, but it may be at most 32 bytes"
  | .channelWithoutBand n => s!"Wi-Fi channel {n} can only be set together with a Wi-Fi band"
  | .unknownUpdateKind raw => "unknown update type " ++ debugQuote raw
  | .invalidSetting k v e => "invalid value " ++ debugQuote v ++ " for " ++ k ++ ": " ++ e.message
  | .context c e => c ++ ": " ++ e.message
  | .reloadFailed => "reload of connection profiles encountered an unexpected failure"
  | .cancelled => "operation was cancelled"

def causes : Error → List String
  | .bus e => e.message :: e.causes
  | .busCall _ e => e.message :: e.causes
  | .invalidUuid _ e => [e.message]
  | .invalidInteger _ e => [e.message]
  | .invalidSetting _ _ e => e.message :: e.causes
  | .context _ e => e.message :: e.causes
  | _ => []

def root : Error → Error
  | .invalidSetting _ _ e => e.root
  | .context _ e => e.root
  | e => e

def kind : Error → ErrorKind
  | .context _ e => e.kind
  | .invalidSetting .. => .validation
  | .profileNotFound _ | .deviceNotFound _ => .notFound
  | .missingField _ | .unexpectedType .. | .invalidUuid .. | .invalidAddress _ => .decode
  | .invalidSettingsKey _ | .invalidEnum _ | .outOfRange .. | .invalidInteger .. |
    .invalidCheckbox .. | .ssidTooLong _ | .channelWithoutBand _ | .unknownUpdateKind _ =>
    .validation
  | .bus _ | .busCall .. | .reloadFailed => .remote
  | .cancelled => .cancelled

def variantName : Error → String
  | .bus _ => "Dbus"
  | .busCall .. => "DbusOperation"
  | .profileNotFound _ => "ProfileNotFound"
  | .deviceNotFound _ => "DeviceNotFound"
  | .missingField _ => "MissingField"
  | .unexpectedType .. => "UnexpectedType"
  | .invalidUuid .. => "InvalidUuid"
  | .invalidAddress _ => "InvalidAddress"
  | .invalidSettingsKey _ => "InvalidSettingsKey"
  | .invalidEnum _ => "InvalidEnum"
  | .outOfRange .. => "OutOfRange"
  | .invalidInteger .. => "InvalidInteger"
  | .invalidCheckbox .. => "InvalidCheckbox"
  | .ssidTooLong _ => "SsidTooLong"
  | .channelWithoutBand _ => "ChannelWithoutBand"
  | .unknownUpdateKind _ => "UnknownUpdateKind"
  | .invalidSetting .. => "InvalidSetting"
  | .context .. => "Context"
  | .reloadFailed => "ReloadFailed"
  | .cancelled => "Cancelled"

end Error

end NetConsole
