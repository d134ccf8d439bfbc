import NetConsole.Description
import NetConsole.Flags

namespace NetConsole

inductive ActiveState where
  | unknown
  | activating
  | activated
  | deactivating
  | deactivated
  | other (code : Nat)
  deriving DecidableEq, Repr, Inhabited

namespace ActiveState

def ofCode : Nat → ActiveState
  | 0 => .unknown
  | 1 => .activating
  | 2 => .activated
  | 3 => .deactivating
  | 4 => .deactivated
  | n => .other n

def code : ActiveState → Nat
  | .unknown => 0
  | .activating => 1
  | .activated => 2
  | .deactivating => 3
  | .deactivated => 4
  | .other n => n

def describe : ActiveState → Description
  | .unknown => ⟨"unknown", "", .warning⟩
  | .activating => ⟨"activating", "network connection is being prepared", .info⟩
  | .activated => ⟨"activated", "there is a connection to the network", .success⟩
  | .deactivating => ⟨"deactivating", "network connection is being torn down and cleaned up", .info⟩
  | .deactivated => ⟨"deactivated", "network connection is disconnected and will be removed", .info⟩
  | .other n => .unknown s!"state ({n}) was reported but could not be determined"

end ActiveState

structure ActivationFlags where
  bits : UInt32
  deriving DecidableEq, Repr, Inhabited

namespace ActivationFlags

def names : List (String × UInt32) :=
  [("IS_CONTROLLER", 0x1), ("IS_PORT", 0x2), ("LAYER2_READY", 0x4), ("IP4_READY", 0x8),
    ("IP6_READY", 0x10), ("CONTROLLER_HAS_PORTS", 0x20),
    ("LIFETIME_BOUND_TO_PROFILE_VISIBILITY", 0x40), ("EXTERNAL", 0x80)]

def hasNone (f : ActivationFlags) : Bool := f.bits == 0
def isController (f : ActivationFlags) : Bool := Flags.has f.bits 0x1
def isPort (f : ActivationFlags) : Bool := Flags.has f.bits 0x2
def layer2Ready (f : ActivationFlags) : Bool := Flags.has f.bits 0x4
def ipv4Ready (f : ActivationFlags) : Bool := Flags.has f.bits 0x8
def ipv6Ready (f : ActivationFlags) : Bool := Flags.has f.bits 0x10
def controllerHasPorts (f : ActivationFlags) : Bool := Flags.has f.bits 0x20
def lifetimeBoundToProfileVisibility (f : ActivationFlags) : Bool := Flags.has f.bits 0x40
def external (f : ActivationFlags) : Bool := Flags.has f.bits 0x80

end ActivationFlags

end NetConsole
