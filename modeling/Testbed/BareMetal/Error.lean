import Testbed.Files
import Testbed.Platform.Error

/-!
# Bare-metal errors

How deploying to physical machines fails, from the configuration to the machines themselves.
-/
namespace Testbed.BareMetal

/-- What a runbook names by type. -/
inductive Kind where
  | platform | cluster | readyChecker | ipGetter
  /-- Anything else that is registered by type. -/
  | other (name : String)
  deriving DecidableEq

def Kind.name : Kind → String
  | platform => "platform"
  | cluster => "cluster"
  | readyChecker => "ready_checker"
  | ipGetter => "ip_getter"
  | other name => name

inductive BareMetalError where
  | noCluster
  | noClient (cluster : String)
  | notEnoughClients (cluster : String) (clients nodes : Nat)
  | unknownType (kind : Kind) (typeName : String)
  | duplicateType (kind : Kind) (typeName : String)
  | invalidSettings (kind : Kind) (typeName : String)
  | missingManagementPort (index : Nat)
  | commandFailed (command : String) (exitCode : Int32) (output : String)
  | notReady (node : String) (timeoutSecs : Nat)
  /-- The time to wait is too long for the clock. This breaks off everything. -/
  | noDeadline
  | ipNotFound (path : String)
  | emptyAddress (node : String)
  | io (path : String) (cause : FileError)
  | session (cause : SessionError)
  deriving DecidableEq

namespace BareMetalError

/-- The wording of a bare-metal error. Of invalid settings it names the type and leaves out what is
wrong with them. -/
def message : BareMetalError → String
  | noCluster => "no cluster is specified in the runbook"
  | noClient cluster => s!"no client is specified for {cluster} cluster"
  | notEnoughClients cluster clients nodes =>
    s!"{cluster} cluster has {clients} client(s), environment needs {nodes}"
  | unknownType kind typeName => s!"unknown {kind.name} type: {typeName}"
  | duplicateType kind typeName => s!"{kind.name} type {typeName} is already registered"
  | invalidSettings kind typeName => s!"invalid {kind.name} settings for {typeName}: "
  | missingManagementPort index =>
    s!"management_port is required for rackmanager client {index}"
  | commandFailed command exitCode output =>
    s!"`{command}` exited with {exitCode.toInt}: {output}"
  | notReady node timeoutSecs => s!"{node} is not ready after {timeoutSecs}s"
  | noDeadline => noDeadlineMessage
  | ipNotFound path => s!"could not get ip from content of file {path}"
  | emptyAddress node => s!"ip address of {node} is empty"
  | io path cause => s!"{path}: {cause.message}"
  | session cause => cause.message

/-- The kind of a bare-metal error, as reports name it. -/
def kind : BareMetalError → String
  | noCluster => "NoCluster"
  | noClient _ => "NoClient"
  | notEnoughClients .. => "NotEnoughClients"
  | unknownType .. => "UnknownType"
  | duplicateType .. => "DuplicateType"
  | invalidSettings .. => "InvalidSettings"
  | missingManagementPort _ => "MissingManagementPort"
  | commandFailed .. => "CommandFailed"
  | notReady .. => "NotReady"
  | noDeadline => "Panic"
  | ipNotFound _ => "IpNotFound"
  | emptyAddress _ => "EmptyAddress"
  | io .. => "Io"
  | session _ => "Session"

/-- The error as one of a platform. -/
def toPlatform : BareMetalError → PlatformError
  | session cause => .session cause
  | error => .deployment error.message

end BareMetalError

end Testbed.BareMetal
