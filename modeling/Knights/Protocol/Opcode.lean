import Mathlib.Data.Nat.Notation

namespace Knights.Protocol

/-!
# Protocol — opcodes and their policies

The message ids, their names and the policy of each (`core/protocol/system_opcodes.hpp` and
`protocol/game_opcodes.hpp`, both generated).  A receive path takes the tables as parameters, so
that its theorems hold for every generated table; the tables of the source are here too.
-/

/-- The session status a message needs. -/
inductive SessionStatus where
  | kAny
  | kAuthenticated
  | kInRoom
  | kAdmin
  deriving DecidableEq, Repr

/-- Where a message is processed. -/
inductive ProcessingPlace where
  | kInline
  | kWorker
  | kRoomStrand
  deriving DecidableEq, Repr

/-- The transports that may carry a message. -/
inductive TransportMask where
  | kNone
  | kTcp
  | kUdp
  | kBoth
  deriving DecidableEq, Repr

/-- How a message is delivered. -/
inductive DeliveryClass where
  | kReliableOrdered
  | kReliable
  | kUnreliableSequenced
  deriving DecidableEq, Repr

/-- The transport a message came by. -/
inductive TransportKind where
  | kTcp
  | kUdp
  deriving DecidableEq, Repr

/-- The policy of an opcode; the defaults are those of `default_opcode_policy`. -/
structure OpcodePolicy where
  requiredState : SessionStatus := .kAny
  processingPlace : ProcessingPlace := .kInline
  transport : TransportMask := .kTcp
  delivery : DeliveryClass := .kReliableOrdered
  channel : UInt8 := 0
  deriving DecidableEq, Repr

/-- Whether a mask lets a transport through. -/
def transportAllows (mask : TransportMask) (transport : TransportKind) : Bool :=
  if mask = .kBoth then true
  else if mask = .kNone then false
  else if transport = .kTcp then mask = .kTcp
  else mask = .kUdp

/-- A generated table: `opcode_name`, empty for an unknown id, and `opcode_policy`. -/
structure OpcodeTable where
  opcodeName : UInt16 → String
  opcodePolicy : UInt16 → OpcodePolicy

/-- Heartbeat. -/
def MSG_PING : UInt16 := 0x0002

/-- Answer to a heartbeat. -/
def MSG_PONG : UInt16 := 0x0003

/-- Login request, the first message of a client. -/
def MSG_LOGIN_REQ : UInt16 := 0x0010

/-- Request to bind a UDP endpoint to a session. -/
def MSG_UDP_BIND_REQ : UInt16 := 0x0012

/-- The table of system messages. -/
def systemOpcodes : OpcodeTable where
  opcodeName
    | 0x0001 => "MSG_HELLO"
    | 0x0002 => "MSG_PING"
    | 0x0003 => "MSG_PONG"
    | 0x0004 => "MSG_ERR"
    | _ => ""
  -- all four have the default policy
  opcodePolicy := fun _ => {}

/-- The table of game messages. -/
def gameOpcodes : OpcodeTable where
  opcodeName
    | 0x0010 => "MSG_LOGIN_REQ"
    | 0x0011 => "MSG_LOGIN_RES"
    | 0x0012 => "MSG_UDP_BIND_REQ"
    | 0x0013 => "MSG_UDP_BIND_RES"
    | 0x0100 => "MSG_CHAT_SEND"
    | 0x0101 => "MSG_CHAT_BROADCAST"
    | 0x0102 => "MSG_JOIN_ROOM"
    | 0x0103 => "MSG_LEAVE_ROOM"
    | 0x0104 => "MSG_WHISPER_REQ"
    | 0x0105 => "MSG_WHISPER_RES"
    | 0x0106 => "MSG_WHISPER_BROADCAST"
    | 0x0200 => "MSG_STATE_SNAPSHOT"
    | 0x0201 => "MSG_ROOM_USERS"
    | 0x0202 => "MSG_ROOMS_REQ"
    | 0x0203 => "MSG_ROOM_USERS_REQ"
    | 0x0204 => "MSG_REFRESH_REQ"
    | 0x0205 => "MSG_REFRESH_NOTIFY"
    | _ => ""
  opcodePolicy
    | 0x0012 => { transport := .kUdp, delivery := .kReliable }
    | 0x0013 => { transport := .kBoth, delivery := .kReliable }
    | 0x0100 => { requiredState := .kAuthenticated }
    | 0x0102 => { requiredState := .kAuthenticated }
    | 0x0103 => { requiredState := .kAuthenticated }
    | 0x0104 => { requiredState := .kAuthenticated }
    | 0x0202 => { requiredState := .kAuthenticated }
    | 0x0203 => { requiredState := .kAuthenticated }
    | 0x0204 => { requiredState := .kAuthenticated }
    -- the other messages of the table have the default policy
    | _ => {}

end Knights.Protocol
