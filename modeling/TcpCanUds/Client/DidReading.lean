import TcpCanUds.Core.Types

/-!
# DidReading — what the client reads out of a `0x62` response (`client/client.cpp`)

The branch of `onUdsMessageReceived` for read data.  The client takes the identifier with its two
bytes swapped against the server, which is why the cases carry the swapped numbers.
-/

namespace TcpCanUds
namespace Client

open Lib QByteArray

/-- What the client decodes and shows: the load by its bit pattern, the time since the start by the
seconds behind the displayed hours and minutes. -/
inductive DidReading
  | cpuTemperature (temp : Int32)
  | cpuLoad (load : UInt32)
  | memoryUsage (usage : Int32)
  | systemUptime (uptime : UInt32)
  | canStatus (statusStr : String)
  deriving DecidableEq, Repr

/-- The texts of the CAN status. -/
def canStatusText (code : UInt8) : String :=
  if code = 0x01 then "正常 (ERROR-ACTIVE)"
  else if code = 0x02 then "错误被动 (ERROR-PASSIVE)"
  else if code = 0x03 then "总线关闭 (BUS-OFF)"
  else if code = 0x04 then "已停止 (STOPPED)"
  else "未知"

/-- The `switch` on the identifier.  The cases `0x0320`, `0x0420` and `0x90F1` show nothing. -/
def decodeDid (did : UInt16) (actualData : QByteArray) : Option DidReading :=
  if did = 0x90CC then
    if 4 ≤ actualData.length then some (.cpuTemperature (actualData.word32At 0).toInt32) else none
  else if did = 0x91CC then
    if 4 ≤ actualData.length then some (.cpuLoad (actualData.word32At 0)) else none
  else if did = 0x92CC then
    if 4 ≤ actualData.length then some (.memoryUsage (actualData.word32At 0).toInt32) else none
  else if did = 0x93CC then
    if 4 ≤ actualData.length then some (.systemUptime (actualData.word32At 0)) else none
  else if did = 0x94CC then
    if 1 ≤ actualData.length then some (.canStatus (canStatusText (actualData.byteAt 0))) else none
  else none

/-- `client::onUdsMessageReceived` on read data: the value shown, if one is. -/
def shownReading (msg : UDSMessage) : Option DidReading :=
  if msg.serviceId = 0 ∨ msg.isNegativeResponse = true then none
  else if msg.serviceId = 0x62 then
    if msg.payload.length < 2 then none
    else
      let did := (msg.payload.byteAt 0).toUInt16 <<< 8 ||| (msg.payload.byteAt 1).toUInt16
      decodeDid did (msg.payload.midFrom 2)
  else none

end Client
end TcpCanUds
