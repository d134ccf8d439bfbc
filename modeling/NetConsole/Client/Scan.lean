import NetConsole.Client.Devices

/-! Listing the networks a Wi-Fi device sees, and rescans. A rescan is awaited by checking the
time of last scan every poll interval, at most `pollLimit` times, and a cancellation is honoured
before the device is looked up and around every wait. -/

namespace NetConsole.Client

open NetConsole.Bus (Value)

variable {σ : Type} [NetworkService σ]

def scanTarget : String := "nmconsole::core::scan"

abbrev Networks := List (String × List AccessPoint)

def addToNetworks (ap : AccessPoint) : Networks → Networks
  | [] => [(ap.ssid, [ap])]
  | (ssid, aps) :: rest =>
    if ap.ssid < ssid then (ap.ssid, [ap]) :: (ssid, aps) :: rest
    else if ap.ssid == ssid then (ssid, aps ++ [ap]) :: rest
    else (ssid, aps) :: addToNetworks ap rest

def strongestFirst (aps : List AccessPoint) : List AccessPoint :=
  aps.mergeSort fun a b => decide (b.strength ≤ a.strength)

def scanNetworks (iface : String) : EStateM Error σ Networks := do
  let path ← findDevice iface
  let apPaths ← readAs path .wireless "AccessPoints"
    ("couldn't query for access points found by " ++ iface) Value.asObjectPaths?
  let aps ← apPaths.mapM fun apPath =>
    within ("couldn't query for access point " ++ apPath) (readAccessPoint apPath)
  let networks := aps.foldl (fun acc ap => addToNetworks ap acc) []
  return networks.map fun (ssid, group) => (ssid, strongestFirst group)

def pollLimit : Nat := 100000

/-- Checks `readLastScan` every `interval` until it differs from `previous`, at most `fuel`
times. -/
def waitForScanChange (previous : Int) (interval : Nat) (readLastScan : EStateM Error σ Int) :
    Nat → EStateM Error σ Unit
  | 0 => throw .cancelled
  | fuel + 1 => do
    if ← isCancelled then throw .cancelled
    modify (NetworkService.wait interval)
    if ← isCancelled then throw .cancelled
    let current ← readLastScan
    if current != previous then
      debug scanTarget ("Scan finished at " ++ toString current)
    else
      waitForScanChange previous interval readLastScan fuel

def rescanNetworks (iface : String) (interval : Nat) : EStateM Error σ Unit := do
  if ← isCancelled then throw .cancelled
  let path ← findDevice iface
  let previous ← readAs path .wireless "LastScan"
    "couldn't query for time of last scan of access points" Value.asInt64?
  call ("couldn't request a re-scan of access points with " ++ iface)
    (NetworkService.requestScan path)
  debug scanTarget ("Requested rescan on " ++ iface ++ ", last scan was at " ++ toString previous)
  waitForScanChange previous interval
    (readAs path .wireless "LastScan"
      ("couldn't check status of access point re-scan with " ++ iface) Value.asInt64?)
    pollLimit

end NetConsole.Client
