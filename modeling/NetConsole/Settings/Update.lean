import NetConsole.Settings.Key
import NetConsole.Profile.Kinds
import NetConsole.Bus.Value
import NetConsole.Flags
import NetConsole.Text.Blank
import NetConsole.Text.Lowercase

namespace NetConsole

inductive Update where
  | autoconnect (on : Bool)
  | autoconnectPriority (priority : Int)
  | band (band : WifiBand)
  | channel (channel : Nat)
  | hidden (hidden : Bool)
  | mode (mode : WifiMode)
  | ssid (bytes : List UInt8)
  | group (ciphers : ChoiceSet GroupCipher)
  | keyMgmt (keyMgmt : KeyMgmt)
  | pairwise (ciphers : ChoiceSet PairwiseCipher)
  | proto (versions : ChoiceSet WpaProto)
  | psk (psk : String)
  deriving Inhabited, DecidableEq

namespace Update

open NetConsole.Bus (Value Signature)

def key : Update → SettingsKey
  | .autoconnect _ => ⟨Setting.connection, "autoconnect", none⟩
  | .autoconnectPriority _ => ⟨Setting.connection, "autoconnect-priority", none⟩
  | .band _ => ⟨Setting.wifi, "band", none⟩
  | .channel _ => ⟨Setting.wifi, "channel", none⟩
  | .hidden _ => ⟨Setting.wifi, "hidden", none⟩
  | .mode _ => ⟨Setting.wifi, "mode", none⟩
  | .ssid _ => ⟨Setting.wifi, "ssid", none⟩
  | .group _ => ⟨Setting.wifiSecurity, "group", none⟩
  | .keyMgmt _ => ⟨Setting.wifiSecurity, "key-mgmt", none⟩
  | .pairwise _ => ⟨Setting.wifiSecurity, "pairwise", none⟩
  | .proto _ => ⟨Setting.wifiSecurity, "proto", none⟩
  | .psk _ => ⟨Setting.wifiSecurity, "psk", none⟩

def textArray (texts : List String) : Value := .array .string (texts.map .string)

def toValue : Update → Value
  | .autoconnect b => .bool b
  | .autoconnectPriority n => .int32 (Int32.ofInt n)
  | .band b => .string (TextChoice.raw b)
  | .channel n => .uint32 n.toUInt32
  | .hidden b => .bool b
  | .mode m => .string (TextChoice.raw m)
  | .ssid bytes => .array .byte (bytes.map .byte)
  | .group s => textArray s.strings
  | .keyMgmt k => .string (TextChoice.raw k)
  | .pairwise s => textArray s.strings
  | .proto s => textArray s.strings
  | .psk p => .string p

end Update

def KeyOrdered (items : List Update) : Prop :=
  items.Pairwise fun a b => SettingsKey.lt a.key b.key

structure Updates where
  items : List Update
  ordered : KeyOrdered items
  deriving DecidableEq

def Updates.empty : Updates := ⟨[], List.Pairwise.nil⟩

instance : Inhabited Updates := ⟨Updates.empty⟩

namespace Updates

def insertItem (u : Update) : List Update → List Update
  | [] => [u]
  | v :: rest =>
    if u.key.setting == v.key.setting && u.key.key == v.key.key then u :: rest
    else if SettingsKey.lt u.key v.key then u :: v :: rest
    else v :: insertItem u rest

theorem mem_insertItem {u w : Update} {l : List Update} (member : w ∈ insertItem u l) :
    w = u ∨ w ∈ l := by
  induction l with
  | nil => simpa [insertItem] using member
  | cons v rest ih =>
    simp only [insertItem] at member
    split at member
    · rcases List.mem_cons.mp member with rfl | member
      · exact .inl rfl
      · exact .inr (List.mem_cons_of_mem v member)
    · split at member
      · rcases List.mem_cons.mp member with rfl | member
        · exact .inl rfl
        · exact .inr member
      · rcases List.mem_cons.mp member with rfl | member
        · exact .inr List.mem_cons_self
        · rcases ih member with rfl | member
          · exact .inl rfl
          · exact .inr (List.mem_cons_of_mem v member)

theorem insertItem_ordered (u : Update) {l : List Update} (ordered : KeyOrdered l) :
    KeyOrdered (insertItem u l) := by
  induction l with
  | nil => simp [KeyOrdered, insertItem]
  | cons v rest ih =>
    simp only [KeyOrdered, List.pairwise_cons] at ordered
    obtain ⟨head, tail⟩ := ordered
    simp only [insertItem]
    split
    · -- `u` takes the place of `v`, whose setting and key it shares
      rename_i same
      simp only [Bool.and_eq_true, beq_iff_eq] at same
      refine List.pairwise_cons.mpr ⟨fun w member => ?_, tail⟩
      rw [SettingsKey.lt_of_same same.1 same.2]
      exact head w member
    · split
      · rename_i below
        refine List.pairwise_cons.mpr ⟨fun w member => ?_, List.pairwise_cons.mpr ⟨head, tail⟩⟩
        rcases List.mem_cons.mp member with rfl | member
        · exact below
        · exact SettingsKey.lt_trans below (head w member)
      · rename_i differ notBelow
        have above : SettingsKey.lt v.key u.key = true := by
          simp only [Bool.and_eq_true, beq_iff_eq] at differ
          rcases SettingsKey.lt_trichotomy u.key v.key with below | same | above
          · exact absurd below notBelow
          · exact absurd ⟨same.1, same.2⟩ differ
          · exact above
        refine List.pairwise_cons.mpr ⟨fun w member => ?_, ih tail⟩
        rcases mem_insertItem member with rfl | member
        · exact above
        · exact head w member

def insert (us : Updates) (u : Update) : Updates := ⟨insertItem u us.items, insertItem_ordered u us.ordered⟩

def ofList (us : List Update) : Updates := us.foldl insert .empty

def find? (us : Updates) (setting key : String) : Option Update :=
  us.items.find? fun u => u.key.setting == setting && u.key.key == key

def contains (us : Updates) (setting key : String) : Bool := (us.find? setting key).isSome

def erase (us : Updates) (setting key : String) : Updates :=
  ⟨us.items.filter fun u => !(u.key.setting == setting && u.key.key == key), us.ordered.filter _⟩

def size (us : Updates) : Nat := us.items.length

def keys (us : Updates) : List SettingsKey := us.items.map Update.key

end Updates

structure UpdateFlags where
  bits : UInt32
  deriving DecidableEq, Repr

namespace UpdateFlags

def names : List (String × UInt32) :=
  [("TO_DISK", 0x1), ("IN_MEMORY", 0x2), ("IN_MEMORY_DETACHED", 0x4), ("IN_MEMORY_ONLY", 0x8),
    ("VOLATILE", 0x10), ("BLOCK_AUTOCONNECT", 0x20), ("NO_REAPPLY", 0x40)]

def toDisk (f : UpdateFlags) : Bool := Flags.has f.bits 0x1
def inMemory (f : UpdateFlags) : Bool := Flags.has f.bits 0x2

end UpdateFlags

inductive UpdateKind where
  | apply
  | save
  deriving DecidableEq, Repr, Inhabited

namespace UpdateKind

def flags : UpdateKind → UpdateFlags
  | .apply => ⟨0x2⟩
  | .save => ⟨0x1⟩

def text : UpdateKind → String
  | .apply => "apply"
  | .save => "save"

/-- Reads a selector: without surrounding blanks and lowercased, `apply temporarily` or `apply`
applies, `save and apply` or `save` saves. The error quotes the selector as given. -/
def parse (raw : String) : Except Error UpdateKind :=
  let selector := Text.toLowercase (Text.trimBlanks raw)
  if selector == "apply temporarily" || selector == "apply" then .ok .apply
  else if selector == "save and apply" || selector == "save" then .ok .save
  else .error (.unknownUpdateKind raw)

end UpdateKind

end NetConsole
