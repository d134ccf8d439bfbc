import NetConsole.Active.Kinds
import NetConsole.Uuid

namespace NetConsole

structure ActiveConn where
  id : String
  uuid : Uuid
  connType : String
  deviceInterfaces : List String
  state : ActiveState
  stateFlags : ActivationFlags
  isIpv4Default : Bool
  isIpv6Default : Bool
  isVpn : Bool
  deriving Repr, Inhabited

end NetConsole
