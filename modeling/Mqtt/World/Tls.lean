/-
# Settings of transport security

Certificates and keys are opaque bytes handed to whatever performs the
handshake.  Without a name of its own, the handshake uses the host's.
-/

namespace Mqtt

/-- How strictly the certificate of the broker is checked. -/
inductive Verification where
  | off
  | optional
  | required
  deriving DecidableEq

/-- The name shown for a strictness. -/
def Verification.text : Verification → String
  | off => "None"
  | optional => "Optional"
  | required => "Required"

/-- What a handshake is given. -/
structure TlsSettings where
  /-- The certificates that the broker's is checked against. -/
  authority : Option (List UInt8) := none
  certificate : Option (List UInt8) := none
  key : Option (List UInt8) := none
  verification : Verification := .required
  /-- Takes the place of the host's name. -/
  serverName : Option String := none
  deriving DecidableEq

/-- The name that a handshake with a host uses. -/
def TlsSettings.nameFor (settings : TlsSettings) (host : String) : String :=
  settings.serverName.getD host

end Mqtt
