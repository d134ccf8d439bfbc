import NetConsole.Flags

namespace NetConsole

structure ProfileFlags where
  bits : UInt32
  deriving DecidableEq, Repr, Inhabited

namespace ProfileFlags

def names : List (String × UInt32) :=
  [("UNSAVED", 0x1), ("GENERATED_BY_NM", 0x2), ("VOLATILE", 0x4), ("EXTERNAL", 0x8)]

def hasNone (f : ProfileFlags) : Bool := f.bits == 0
def unsaved (f : ProfileFlags) : Bool := Flags.has f.bits 0x1
def generatedByNm (f : ProfileFlags) : Bool := Flags.has f.bits 0x2
def volatile (f : ProfileFlags) : Bool := Flags.has f.bits 0x4
def external (f : ProfileFlags) : Bool := Flags.has f.bits 0x8

end ProfileFlags

structure PskFlags where
  bits : UInt32
  deriving DecidableEq, Repr, Inhabited

namespace PskFlags

def names : List (String × UInt32) :=
  [("AGENT_OWNED", 0x1), ("NOT_SAVED", 0x2), ("NOT_REQUIRED", 0x4)]

def agentOwned (f : PskFlags) : Bool := Flags.has f.bits 0x1
def notSaved (f : PskFlags) : Bool := Flags.has f.bits 0x2
def notRequired (f : PskFlags) : Bool := Flags.has f.bits 0x4

end PskFlags

end NetConsole
