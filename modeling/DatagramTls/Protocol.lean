/-!
Protocol versions, the modes of a handshake, and lengths of time.
-/

namespace DatagramTls

inductive Version where
  | dtls10
  | dtls12
  | dtls13
  | unknown (code : UInt16)
  deriving DecidableEq

namespace Version

def code : Version → UInt16
  | .dtls10 => 0xFEFF
  | .dtls12 => 0xFEFD
  | .dtls13 => 0xFEFC
  | .unknown code => code

def label : Version → String
  | .dtls10 => "DTLS1_0"
  | .dtls12 => "DTLS1_2"
  | .dtls13 => "DTLS1_3"
  | .unknown code => "Unknown(" ++ toString code.toNat ++ ")"

end Version

inductive MasterSecretMode where
  | none
  | optional
  | enabled
  | required
  deriving DecidableEq

inductive HandshakeMode where
  | auto
  | none
  deriving DecidableEq

namespace HandshakeMode

def ofName? : String → Option HandshakeMode
  | "auto" => some .auto
  | "none" => some .none
  | _ => Option.none

end HandshakeMode

structure Duration where
  seconds : UInt64
  nanoseconds : Nat
  nanoseconds_lt : nanoseconds < 1000000000
  deriving DecidableEq

namespace Duration

def ofSeconds (seconds : UInt64) : Duration :=
  ⟨seconds, 0, by decide⟩

def oneMillisecond : Duration :=
  ⟨0, 1000000, by decide⟩

def inNanoseconds (duration : Duration) : Nat :=
  1000000000 * duration.seconds.toNat + duration.nanoseconds

def inMilliseconds (duration : Duration) : Nat :=
  duration.inNanoseconds / 1000000

end Duration

end DatagramTls
