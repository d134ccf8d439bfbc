import NetConsole.Form.Values
import NetConsole.Settings.Update
import NetConsole.Number.Integer
import NetConsole.Log

/-! Translating a form submission into typed updates. Keys are taken in byte order, a later key
naming a field replacing an earlier one, and the first refused field stops the translation. A
blank PSK is then dropped unless the key management needs none, and a channel other than 0
needs a band other than "any". -/

namespace NetConsole

namespace Form

def checkbox (value on off : String) : Except Error Bool :=
  if value == on then .ok true
  else if value == off then .ok false
  else .error (.invalidCheckbox value on off)

def priorityMin : Int := -999
def priorityMax : Int := 999

def bounded (raw : String) : Except Error Int :=
  match IntRange.i64.parse raw with
  | .error e => .error (.invalidInteger raw e)
  | .ok v => if priorityMin ≤ v ∧ v ≤ priorityMax then .ok v else .error (.outOfRange v priorityMin priorityMax)

def channel (raw : String) : Except Error Nat := do
  let v ← bounded raw
  if v < 0 then throw (.outOfRange v 0 priorityMax)
  return v.toNat

def ssidMaxBytes : Nat := 32

def ssid (value : String) : Except Error (List UInt8) :=
  let bytes := value.toUTF8.toList
  if bytes.length > ssidMaxBytes then .error (.ssidTooLong bytes.length) else .ok bytes

def checked {α : Type} [TextChoice α] (raw : String) : Except Error α := do
  let a : α := TextChoice.ofRaw raw
  TextChoice.check a
  return a

def choiceSet {α : Type} [TextChoice α] (values : List String) : Except Error (ChoiceSet α) := do
  let s : ChoiceSet α := ChoiceSet.ofRaws (values.filter (· != ""))
  s.check
  return s.normalize

def isMultiValued (key : SettingsKey) : Bool :=
  key.setting == Setting.wifiSecurity && (key.key == "group" || key.key == "pairwise" || key.key == "proto")

/-- The value shown when a field is refused: the last value, or for a set the non-blank values
joined by commas. -/
def shownValue (key : SettingsKey) (values : List String) : String :=
  if isMultiValued key then ",".intercalate (values.filter (· != ""))
  else values.getLast?.getD ""

def parseField (key : SettingsKey) (values : List String) : Except Error (Option Update) :=
  let last := values.getLast?.getD ""
  if key.setting == Setting.connection then
    if key.key == "autoconnect" then (some ∘ .autoconnect) <$> checkbox last "on" "off"
    else if key.key == "autoconnect-priority" then (some ∘ .autoconnectPriority) <$> bounded last
    else .ok none
  else if key.setting == Setting.wifi then
    if key.key == "band" then (some ∘ .band) <$> checked last
    else if key.key == "channel" then (some ∘ .channel) <$> channel last
    else if key.key == "hidden" then (some ∘ .hidden) <$> checkbox last "true" "false"
    else if key.key == "mode" then (some ∘ .mode) <$> checked last
    else if key.key == "ssid" then (some ∘ .ssid) <$> ssid last
    else .ok none
  else if key.setting == Setting.wifiSecurity then
    if key.key == "group" then (some ∘ .group) <$> choiceSet values
    else if key.key == "key-mgmt" then (some ∘ .keyMgmt) <$> checked last
    else if key.key == "pairwise" then (some ∘ .pairwise) <$> choiceSet values
    else if key.key == "proto" then (some ∘ .proto) <$> choiceSet values
    else if key.key == "psk" then .ok (some (.psk last))
    else .ok none
  else .ok none

inductive FieldOutcome where
  | skipped
  | ignored (key : SettingsKey)
  | update (u : Update)
  | failed (e : Error)

def fieldOutcome (raw : String) (values : List String) : FieldOutcome :=
  match SettingsKey.parse raw with
  | .error _ => .skipped
  | .ok key =>
    match parseField key values with
    | .error e => .failed (.invalidSetting key.text (shownValue key values) e)
    | .ok none => .ignored key
    | .ok (some u) => .update u

def translateFields : List (String × List String) → Updates → Except Error Updates
  | [], us => .ok us
  | (raw, values) :: rest, us =>
    match fieldOutcome raw values with
    | .failed e => .error e
    | .update u => translateFields rest (us.insert u)
    | .skipped | .ignored _ => translateFields rest us

def dropsBlankPsk (us : Updates) : Bool :=
  match us.find? Setting.wifiSecurity "psk" with
  | some (.psk "") =>
    match us.find? Setting.wifiSecurity "key-mgmt" with
    | some (.keyMgmt k) => k.requiresPsk
    | _ => true
  | _ => false

def retainStoredPsk (us : Updates) : Updates :=
  if dropsBlankPsk us then us.erase Setting.wifiSecurity "psk" else us

def checkChannelBand (us : Updates) : Except Error Unit :=
  match us.find? Setting.wifi "channel" with
  | some (.channel c) =>
    if c == 0 then .ok ()
    else match us.find? Setting.wifi "band" with
      | some (.band b) => if b == .any then .error (failure c) else .ok ()
      | _ => .error (failure c)
  | _ => .ok ()
where
  failure (c : Nat) : Error :=
    .invalidSetting (SettingsKey.text ⟨Setting.wifi, "channel", none⟩) (toString c) (.channelWithoutBand c)

def translate (form : Form) : Except Error Updates := do
  let us ← translateFields form.fields .empty
  let us := retainStoredPsk us
  checkChannelBand us
  return us

/-- The kind and updates of a form submitted under an update selector; the selector is read
first, so a bad selector wins over bad fields. -/
def translateAs (selector : String) (form : Form) : Except Error (UpdateKind × Updates) := do
  let kind ← UpdateKind.parse selector
  let us ← form.translate
  return (kind, us)

def logTarget : String := "nmconsole::core::form"

def fieldNotes : List (String × List String) → List LogRecord
  | [] => []
  | (raw, values) :: rest =>
    match fieldOutcome raw values with
    | .failed _ => []
    | .skipped => ⟨.debug, logTarget, "Skipping form field " ++ raw⟩ :: fieldNotes rest
    | .ignored key =>
      ⟨.debug, logTarget, "Ignoring form field " ++ key.text ++ ", which isn't an editable setting"⟩ ::
        fieldNotes rest
    | .update _ => fieldNotes rest

def translationNotes (form : Form) : List LogRecord :=
  fieldNotes form.fields ++
    match translateFields form.fields .empty with
    | .ok us => if dropsBlankPsk us then [⟨.debug, logTarget, "Keeping stored PSK: blank PSK submitted"⟩] else []
    | .error _ => []

end Form

end NetConsole
