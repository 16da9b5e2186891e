import TcpCanUds.Core.UdsHelper
import TcpCanUds.Server.DidDatabase

/-!
# UdsHandler — the UDS services of the server (`core/uds_handler.cpp`)

`processRequest` and the service handlers as pure functions from the session state and a request to
the next session state and the response.  What a request reads from outside the session (the clock,
the hash behind a new seed, the memory under a declared message, the operating system behind a
dynamic identifier) is collected in `HandlerEnv` and quantified over in the theorems.
-/

namespace TcpCanUds
namespace Server

/-- `UDS_handler::SessionState`. -/
structure SessionState where
  currentSession : UInt8 := DiagnosticSession.defaultSession
  isAuthenticated : Bool := false
  securityLevel : UInt8 := 0
  seed : UInt32 := 0
  deriving DecidableEq, Repr

/-- What one request reads from outside the session state. -/
structure HandlerEnv where
  /-- The memory under the `UDSMessage msg;` of the response. -/
  mem : UDSMessage.Memory := {}
  /-- `currentMSecsSinceEpoch()` where the response is stamped. -/
  now : Int64 := 0
  /-- `currentMSecsSinceEpoch()` where `handleECUReset` takes the start-up time. -/
  startupNow : Int64 := 0
  /-- The first four bytes of the MD5 hash in `generateSecuritySeed`. -/
  digest : UInt32 := 0
  sources : DidSources := {}
  deriving DecidableEq, Repr

namespace UdsHandler

/-! ## Helpers -/

def makeNegativeResponse (env : HandlerEnv) (sid nrc : UInt8) : UDSMessage :=
  { UDSMessage.declare env.mem with
    serviceId := UdsSid.negativeResponse
    subFunction := sid
    negativeCode := nrc
    isNegativeResponse := true
    isResponse := true
    timetemp := env.now }

/-- The positive response each handler builds in place: `isNegativeResponse` and `negativeCode`
keep what the memory held.  (`makePositiveResponse`, which would clear the flag, has no caller.) -/
def positiveResponse (env : HandlerEnv) (sid subFunction : UInt8) (payload : QByteArray) :
    UDSMessage :=
  { UDSMessage.declare env.mem with
    serviceId := sid + UdsSid.positiveResponseMask
    subFunction := subFunction
    payload := payload
    isResponse := true
    timetemp := env.now }

def convertVariantToBytes : QVariant → QByteArray
  | .string s => QVariant.toUtf8 s
  | .int val => Lib.bytes32 val.toUInt32
  | .float bits => Lib.bytes32 bits
  | .byteArray b => b
  | value => QVariant.toUtf8 value.toString

/-- `generateSecuritySeed`: a hash that comes out as zero is replaced. -/
def generateSecuritySeed (env : HandlerEnv) : UInt32 :=
  if env.digest = 0 then 0x12345678 else env.digest

def validateSecurityKey (seed key : UInt32) : Bool :=
  key = seed ^^^ 0xABCDEF00

/-! ## Services -/

def handleDiagnosticSessionControl (env : HandlerEnv) (m_session : SessionState)
    (req : UDSMessage) : SessionState × UDSMessage :=
  let done := positiveResponse env UdsSid.diagnosticSessionControl req.subFunction [0x00]
  let refuse := makeNegativeResponse env UdsSid.diagnosticSessionControl
  if req.subFunction = DiagnosticSession.defaultSession then
    -- the stored seed is not among the fields that are reset
    ({ m_session with
        currentSession := DiagnosticSession.defaultSession
        isAuthenticated := false
        securityLevel := 0 }, done)
  else if req.subFunction = DiagnosticSession.programmingSession then
    if m_session.isAuthenticated then
      ({ m_session with currentSession := DiagnosticSession.programmingSession }, done)
    else (m_session, refuse NegativeResponseCode.securityAccessDenied)
  else if req.subFunction = DiagnosticSession.extendedDiagnostic then
    if m_session.isAuthenticated then
      ({ m_session with currentSession := DiagnosticSession.extendedDiagnostic }, done)
    else (m_session, refuse NegativeResponseCode.securityAccessDenied)
  else (m_session, refuse NegativeResponseCode.subFunctionNotSupported)

/-- The identifier a read request asks for: its first two payload bytes, little-endian. -/
def requestedDid (req : UDSMessage) : UInt16 :=
  QByteArray.word16At req.payload 0

def handleReadDataByIdentifier (env : HandlerEnv) (m_session : SessionState)
    (req : UDSMessage) : SessionState × UDSMessage :=
  let refuse := makeNegativeResponse env UdsSid.readDataByIdentifier
  if req.payload.length < 2 then
    (m_session, refuse NegativeResponseCode.incorrectMessageLength)
  else
    let did := requestedDid req
    if ¬ DidDatabase.contains did then
      (m_session, refuse NegativeResponseCode.requestOutOfRange)
    -- the limit is written into the handler; `requiresAuthentication` is not asked
    else if 0xF1A0 ≤ did ∧ ¬ m_session.isAuthenticated then
      (m_session, refuse NegativeResponseCode.securityAccessDenied)
    else
      let dataBytes := convertVariantToBytes (DidDatabase.getValue env.sources did)
      (m_session, positiveResponse env UdsSid.readDataByIdentifier 0x00
        (Lib.bytes16 did ++ dataBytes))

def handleTesterPresent (env : HandlerEnv) (m_session : SessionState) (req : UDSMessage) :
    SessionState × UDSMessage :=
  if req.subFunction ≠ 0x00 then
    (m_session, makeNegativeResponse env UdsSid.testerPresent
      NegativeResponseCode.subFunctionNotSupported)
  else (m_session, positiveResponse env UdsSid.testerPresent 0x00 [])

/-- The key of a sendKey request: its first four payload bytes, little-endian. -/
def providedKey (req : UDSMessage) : UInt32 :=
  QByteArray.word32At req.payload 0

def handleSecurityAccess (env : HandlerEnv) (m_session : SessionState) (req : UDSMessage) :
    SessionState × UDSMessage :=
  -- odd sub-functions ask for a seed, even ones bring a key
  if req.subFunction % 2 = 1 then
    let seed := generateSecuritySeed env
    ({ m_session with seed := seed, securityLevel := req.subFunction / 2 + 1 },
      positiveResponse env UdsSid.securityAccess req.subFunction (Lib.bytes32 seed))
  else if req.payload.length < 4 then
    (m_session, makeNegativeResponse env UdsSid.securityAccess
      NegativeResponseCode.incorrectMessageLength)
  -- the key is compared with whatever seed is stored, and the seed stays
  else if validateSecurityKey m_session.seed (providedKey req) then
    ({ m_session with isAuthenticated := true },
      positiveResponse env UdsSid.securityAccess req.subFunction [])
  else
    (m_session, makeNegativeResponse env UdsSid.securityAccess NegativeResponseCode.invalidKey)

def handleECUReset (env : HandlerEnv) (m_session : SessionState) (req : UDSMessage) :
    SessionState × UDSMessage :=
  if req.subFunction ≠ 0x01 ∧ req.subFunction ≠ 0x02 ∧ req.subFunction ≠ 0x03 then
    (m_session, makeNegativeResponse env UdsSid.ecuReset
      NegativeResponseCode.subFunctionNotSupported)
  else
    let startupTimeMs := (env.startupNow.toUInt64 &&& 0xFFFFFFFF).toUInt32
    (m_session, positiveResponse env UdsSid.ecuReset req.subFunction
      (Lib.bytes32 startupTimeMs))

/-! ## Dispatch -/

/-- The services refused in the default session. -/
def needsSession (sid : UInt8) : Bool :=
  sid = UdsSid.readDataByIdentifier ∨ sid = UdsSid.writeDataByIdentifier ∨
    sid = UdsSid.routineControl

/-- The session test at the head of `processRequest`. -/
def refusedInSession (m_session : SessionState) (sid : UInt8) : Bool :=
  sid ≠ UdsSid.diagnosticSessionControl ∧ sid ≠ UdsSid.testerPresent ∧
    sid ≠ UdsSid.securityAccess ∧
    m_session.currentSession = DiagnosticSession.defaultSession ∧ needsSession sid

def processRequest (env : HandlerEnv) (m_session : SessionState) (req : UDSMessage) :
    SessionState × UDSMessage :=
  let sid := req.serviceId
  if refusedInSession m_session sid then
    (m_session, makeNegativeResponse env sid
      NegativeResponseCode.subFunctionNotSupportedInActiveSession)
  else if sid = UdsSid.diagnosticSessionControl then
    handleDiagnosticSessionControl env m_session req
  else if sid = UdsSid.readDataByIdentifier then handleReadDataByIdentifier env m_session req
  else if sid = UdsSid.testerPresent then handleTesterPresent env m_session req
  else if sid = UdsSid.securityAccess then handleSecurityAccess env m_session req
  else if sid = UdsSid.ecuReset then handleECUReset env m_session req
  else (m_session, makeNegativeResponse env sid NegativeResponseCode.serviceNotSupported)

end UdsHandler
end Server
end TcpCanUds
