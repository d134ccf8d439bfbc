namespace NetConsole

structure ClientConfig where
  wifiInterface : String := "wlan0"
  scanPollInterval : Nat := 1000  -- milliseconds
  deriving DecidableEq, Repr, Inhabited

namespace ClientConfig

def withWifiInterface (c : ClientConfig) (iface : String) : ClientConfig := { c with wifiInterface := iface }

def withScanPollInterval (c : ClientConfig) (ms : Nat) : ClientConfig := { c with scanPollInterval := ms }

end ClientConfig

end NetConsole
