import Gateway.Text.Quoted
/-!
Station credentials: an SSID and a password, both non-empty and both strictly shorter than the
radio's fields of 32 and 64 bytes. Their log text names the SSID and hides the password.
-/
namespace Gateway.Network

/-- Ways a pair fails to be credentials, checked in this order. -/
inductive CredentialsError where
  | emptySsid
  | emptyPassword
  | ssidTooLong
  | passwordTooLong
  deriving DecidableEq, Repr

def CredentialsError.message : CredentialsError → String
  | .emptySsid => "SSID cannot be empty"
  | .emptyPassword => "password cannot be empty"
  | .ssidTooLong => "SSID is too long"
  | .passwordTooLong => "password is too long"

def CredentialsError.tag : CredentialsError → String
  | .emptySsid => "EmptySsid"
  | .emptyPassword => "EmptyPassword"
  | .ssidTooLong => "SsidTooLong"
  | .passwordTooLong => "PasswordTooLong"

def ssidField : Nat := 32

def passwordField : Nat := 64

structure Credentials where
  ssid : String
  password : String
  deriving DecidableEq, Repr

def Credentials.new (ssid password : String) : Except CredentialsError Credentials :=
  if ssid.isEmpty then .error .emptySsid
  else if password.isEmpty then .error .emptyPassword
  else if ssid.utf8ByteSize ≥ ssidField then .error .ssidTooLong
  else if password.utf8ByteSize ≥ passwordField then .error .passwordTooLong
  else .ok ⟨ssid, password⟩

def Credentials.redacted (c : Credentials) : String :=
  "Credentials \x7b ssid: " ++ Text.quoted c.ssid ++ ", .. \x7d"

end Gateway.Network
