import TcpCanUds.Core.Types
import Mathlib.Data.List.Infix

/-!
# DidDatabase — the data identifiers of the server (`core/did_database.cpp`)

The table filled by `initializeDefaultDatabase`, the dynamic identifiers, and the readers behind
them.  `setValue` has no caller, so the table is the one the constructor builds.  What the readers
find in the operating system is a parameter (`DidSources`), taken after the text has been parsed.
-/

namespace TcpCanUds
namespace Server

/-- The `QVariant` values the database can hold or return.  No entry and no reader makes a
`Double`. -/
inductive QVariant
  | invalid
  | string (s : String)
  | int (v : Int32)
  | uint (v : UInt32)
  | float (bits : UInt32)
  | byteArray (b : QByteArray)
  deriving DecidableEq, Repr

namespace QVariant

def toUtf8 (s : String) : QByteArray :=
  s.toUTF8.data.toList

/-- `toString()`, as far as it is called: on values that are neither text, `Int`, `Float` nor
`QByteArray`. -/
def toString : QVariant → String
  | .uint v => Nat.repr v.toNat
  | _ => ""

end QVariant

/-! ## The readers -/

/-- What the readers find in the operating system; `none` stands for a file that does not open. -/
structure DidSources where
  /-- `/sys/class/thermal/thermal_zone0/temp`, after `toInt()`. -/
  thermalZone : Option Int32 := none
  /-- First number of `/proc/loadavg`, after `toFloat()`: its bit pattern. -/
  loadAvg : Option UInt32 := none
  /-- `MemTotal` and `MemAvailable` of `/proc/meminfo`, `0` for a missing line. -/
  memInfo : Option (Int64 × Int64) := none
  /-- First number of `/proc/uptime`, after `toFloat()` and the cast to `uint32_t`. -/
  uptime : Option UInt32 := none
  /-- The output of `ip -details link show can0`. -/
  ipLink : String := ""
  deriving DecidableEq, Repr

namespace DidDatabase

abbrev didCpuTemperature : UInt16 := 0xCC90
abbrev didCpuLoad : UInt16 := 0xCC91
abbrev didMemoryUsage : UInt16 := 0xCC92
abbrev didSystemUptime : UInt16 := 0xCC93
abbrev didCanStatus : UInt16 := 0xCC94

def readCpuTemperature (src : DidSources) : QVariant :=
  match src.thermalZone with
  | some t => .int (t / 1000)
  | none => .int 0

def readCpuLoad (src : DidSources) : QVariant :=
  match src.loadAvg with
  | some bits => .float bits
  | none => .float 0

def readMemoryUsage (src : DidSources) : QVariant :=
  match src.memInfo with
  | some (total, available) =>
      if 0 < total then .int ((total - available) * 100 / total).toInt32 else .int 0
  | none => .int 0

def readSystemUptime (src : DidSources) : QVariant :=
  match src.uptime with
  | some seconds => .uint seconds
  | none => .int 0

def outputContains (src : DidSources) (text : String) : Bool :=
  text.toList <:+: src.ipLink.toList

def readCanStatus (src : DidSources) : QVariant :=
  .string <|
    if outputContains src "ERROR-ACTIVE" then "ACTIVE"
    else if outputContains src "ERROR-PASSIVE" then "PASSIVE"
    else if outputContains src "BUS-OFF" then "BUS_OFF"
    else if outputContains src "STOPPED" then "STOPPED"
    else "UNKNOWN"

def readDynamicValue (src : DidSources) (did : UInt16) : QVariant :=
  if did = didCpuTemperature then readCpuTemperature src
  else if did = didCpuLoad then readCpuLoad src
  else if did = didMemoryUsage then readMemoryUsage src
  else if did = didSystemUptime then readSystemUptime src
  else if did = didCanStatus then readCanStatus src
  else .invalid

/-! ## The tables -/

/-- `initializeDynamicDIDs`. -/
def dynamicDIDs : List UInt16 :=
  [didCpuTemperature, didCpuLoad, didMemoryUsage, didSystemUptime, didCanStatus]

/-- `initializeDefaultDatabase`; `0x41466666` is the pattern of `12.4f`. -/
def database : List (UInt16 × QVariant) :=
  [ (DataIdentifier.vehicleManufacturerSparePartNumber, .string "ABCD123456789")
  , (DataIdentifier.vehicleManufacturerEcuSoftwareVersionNumber, .string "V1.2.3")
  , (DataIdentifier.applicationSoftwareIdentification, .string "v1.0")
  , (DataIdentifier.currentVolumeLevel, .int 15)
  , (DataIdentifier.maxVolumeLevel, .int 30)
  , (DataIdentifier.batteryVoltage, .float 0x41466666)
  , (DataIdentifier.currentTemperature, .int 24)
  , (DataIdentifier.engineRpm, .int 0)
  , (DataIdentifier.vehicleSpeed, .int 0)
  , (DataIdentifier.supportedDiagnosticServices, .string "10 22 27 28 2E 31 3E") ]

def databaseValue (did : UInt16) : QVariant :=
  match database.find? (fun entry => entry.1 = did) with
  | some entry => entry.2
  | none => .invalid

def getValue (src : DidSources) (did : UInt16) : QVariant :=
  if did ∈ dynamicDIDs then readDynamicValue src did else databaseValue did

def contains (did : UInt16) : Bool :=
  did ∈ database.map Prod.fst ∨ did ∈ dynamicDIDs

/-- `requiresAuthentication`; the read handler compares with `0xF1A0` instead of asking this. -/
def requiresAuthentication (did : UInt16) : Bool :=
  0xF100 ≤ did ∧ did ≤ 0xF1FF

end DidDatabase
end Server
end TcpCanUds
