import NetConsole.Description

namespace NetConsole

class TextChoice (α : Type) where
  ofRaw : String → α
  raw : α → String
  describe : α → Description
  known : List String

namespace TextChoice

variable {α : Type} [TextChoice α]

def check (a : α) : Except Error Unit := (describe a).check

end TextChoice

structure ChoiceSet (α : Type) where
  members : List α
  deriving Inhabited, DecidableEq, Repr

namespace ChoiceSet

variable {α : Type} [TextChoice α]

def ofRaws (raws : List String) : ChoiceSet α := ⟨raws.map TextChoice.ofRaw⟩

def strings (s : ChoiceSet α) : List String := s.members.map TextChoice.raw

def all : ChoiceSet α := ofRaws (TextChoice.known α)

def check (s : ChoiceSet α) : Except Error Unit :=
  s.members.forM TextChoice.check

def coversAllKnown (s : ChoiceSet α) : Bool :=
  (TextChoice.known α).all fun k => s.strings.contains k

def normalize (s : ChoiceSet α) : ChoiceSet α := if s.coversAllKnown then ⟨[]⟩ else s

def text (s : ChoiceSet α) : String := ",".intercalate s.strings

end ChoiceSet

end NetConsole
