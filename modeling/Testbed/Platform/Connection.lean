import Testbed.Secret
import Testbed.Space.Wire

/-!
# Connections and sessions

Where and how a node is reached, what a remote command answers, and how sessions fail.
-/
namespace Testbed

def defaultPort : UInt16 := 22

/-- Where and how to reach a node. -/
structure ConnectionInfo where
  address : String
  port : UInt16 := defaultPort
  username : String
  password : Option Secret := none
  privateKeyFile : Option String := none
  deriving DecidableEq

namespace ConnectionInfo

/-- An address and a user name, the rest at its defaults. -/
def new (address username : String) : ConnectionInfo := { address, username }

def withPort (c : ConnectionInfo) (port : UInt16) : ConnectionInfo := { c with port }

def withPassword (c : ConnectionInfo) (password : String) : ConnectionInfo :=
  { c with password := some ⟨password⟩ }

def endpoint (c : ConnectionInfo) : String := c.address ++ ":" ++ toString c.port.toNat

instance : Wire ConnectionInfo where
  encode c := .object (Json.present [
    always "address" c.address, always "port" c.port, always "username" c.username,
    whenPresent "password" c.password, whenPresent "private_key_file" c.privateKeyFile])
  decode j := do
    let r ← Record.ofJson? ["address", "port", "username", "password", "private_key_file"] j
    return { address := ← r.required "address"
             port := ← r.defaulted "port" defaultPort
             username := ← r.required "username"
             password := ← r.defaulted "password" none
             privateKeyFile := ← r.defaulted "private_key_file" none }

end ConnectionInfo

/-- What a remote command answered. -/
structure ExecuteResult where
  exitCode : Int32
  stdout : String
  deriving DecidableEq

namespace ExecuteResult

def success (r : ExecuteResult) : Bool := r.exitCode = 0

instance : Wire ExecuteResult where
  encode r := .object [("exit_code", encode r.exitCode), ("stdout", encode r.stdout)]
  decode j := do
    let r ← Record.ofJson? ["exit_code", "stdout"] j
    return { exitCode := ← r.required "exit_code", stdout := ← r.required "stdout" }

end ExecuteResult

/-- How opening or using a session fails. -/
inductive SessionError where
  | connect (endpoint reason : String)
  | execute (command reason : String)
  deriving DecidableEq

/-- The wording of a session error. -/
def SessionError.message : SessionError → String
  | connect endpoint reason => s!"failed to connect to {endpoint}: {reason}"
  | execute command reason => s!"command `{command}` failed: {reason}"

/-- The kind of a session error, as reports name it. -/
def SessionError.kind : SessionError → String
  | connect .. => "Connect"
  | execute .. => "Execute"

end Testbed
