import DatagramTls.Credential

/-!
Resuming sessions, verifying client addresses and filtering replays. A server answers the first
flight of a handshake with a HELLO_VERIFY_REQUEST unless that is switched off, for all handshakes or
for those with pre-shared keys. A window that is extended downwards cannot filter replays.
-/

namespace DatagramTls.Config

@[ext]
structure Resumption where
  autoTimeout : Option Duration
  serverSessionId : Bool
  verifier : Option Handle
  verifyThreshold : UInt8
  deriving DecidableEq

namespace Resumption

def defaultVerifyThreshold : UInt8 := 30

structure Options where
  autoTimeout : Option Duration := none
  serverSessionId : Option Bool := none
  verifier : Option Handle := none
  verifyThreshold : Option UInt8 := none

inductive Setting where
  | autoTimeout (timeout : Duration)
  | serverSessionId (enabled : Bool)
  | verifier (verifier : Handle)
  | verifyThreshold (percent : UInt8)

namespace Options

def store (options : Options) : Setting → Options
  | .autoTimeout timeout => { options with autoTimeout := some timeout }
  | .serverSessionId enabled => { options with serverSessionId := some enabled }
  | .verifier verifier => { options with verifier := some verifier }
  | .verifyThreshold percent => { options with verifyThreshold := some percent }

/-- The threshold matters only where addresses are verified. -/
def resolve (options : Options) (helloVerify : Bool) : Resumption where
  autoTimeout := options.autoTimeout
  serverSessionId := options.serverSessionId.getD true
  verifier := options.verifier
  verifyThreshold :=
    if helloVerify then options.verifyThreshold.getD defaultVerifyThreshold else 0

end Options

end Resumption

@[ext]
structure HelloVerify where
  enabled : Bool
  enabledForPsk : Bool
  version : Option Version
  deriving DecidableEq

namespace HelloVerify

structure Options where
  enabled : Option Bool := none
  enabledForPsk : Option Bool := none
  version : Option Version := none

inductive Setting where
  | enabled (enabled : Bool)
  | enabledForPsk (enabled : Bool)
  | version (version : Version)

namespace Options

def store (options : Options) : Setting → Options
  | .enabled enabled => { options with enabled := some enabled }
  | .enabledForPsk enabled => { options with enabledForPsk := some enabled }
  | .version version => { options with version := some version }

/-- Handshakes with pre-shared keys are treated like the others, unless chosen otherwise. -/
def resolve (options : Options) : HelloVerify :=
  let enabled := options.enabled.getD true
  { enabled
    enabledForPsk := options.enabledForPsk.getD enabled
    version := options.version }

end Options

end HelloVerify

structure Replay where
  antiReplay : Bool
  /-- How far the window is extended: 0 for not at all, -1 for down to the first record. -/
  extendedWindow : Int32
  cidGenerator : Option Handle
  cidNewerOnly : Bool
  deriving DecidableEq

namespace Replay

structure Options where
  antiReplay : Option Bool := none
  extendedWindow : Option Int32 := none
  cidGenerator : Option Handle := none
  cidNewerOnly : Option Bool := none

inductive Setting where
  | antiReplay (enabled : Bool)
  | extendedWindow (level : Int32)
  | cidGenerator (generator : Handle)
  | cidNewerOnly (enabled : Bool)

namespace Options

def objection? (options : Options) : Setting → Option OptionError
  | .antiReplay enabled =>
      if enabled && options.extendedWindow.any (· ≠ 0) then
        some (.conflict .antiReplay .extendedWindow)
      else none
  | .extendedWindow level =>
      if level ≠ 0 ∧ options.antiReplay = some true then
        some (.conflict .extendedWindow .antiReplay)
      else none
  | .cidGenerator _ | .cidNewerOnly _ => none

def store (options : Options) : Setting → Options
  | .antiReplay enabled => { options with antiReplay := some enabled }
  | .extendedWindow level => { options with extendedWindow := some level }
  | .cidGenerator generator => { options with cidGenerator := some generator }
  | .cidNewerOnly enabled => { options with cidNewerOnly := some enabled }

/-- Replays are filtered unless the window is extended. -/
def resolve (options : Options) : Replay :=
  let extendedWindow := options.extendedWindow.getD 0
  { antiReplay := options.antiReplay.getD (extendedWindow == 0)
    extendedWindow
    cidGenerator := options.cidGenerator
    cidNewerOnly := options.cidNewerOnly.getD true }

end Options

def reopen (replay : Replay) : Options where
  antiReplay := some replay.antiReplay
  extendedWindow := some replay.extendedWindow
  cidGenerator := replay.cidGenerator
  cidNewerOnly := some replay.cidNewerOnly

end Replay

end DatagramTls.Config
