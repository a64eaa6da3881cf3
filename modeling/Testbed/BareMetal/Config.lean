import Testbed.Platform.Connection

/-!
# Bare-metal configuration

The platform section of a runbook: clusters with their clients, and for each cluster optionally a
ready checker and an address getter. Every block names its type; members that the block itself does
not know are settings for that type and stay untyped until the type reads them.
-/
namespace Testbed.BareMetal

/-- Settings of a typed block, by name. -/
abbrev Settings := Dict String Json

structure ReadyCheckerConfig where
  typeName : String := "file_single"
  /-- Seconds to wait for a node to come up. -/
  timeout : UInt64 := 300
  settings : Settings := ∅

structure IpGetterConfig where
  typeName : String := "file_single"
  settings : Settings := ∅

/-- One machine behind a cluster. -/
structure ClientConfig where
  managementPort : Option UInt32 := none
  isoHttpUrl : String := ""
  connection : ConnectionInfo
  deriving DecidableEq

structure ClusterConfig where
  typeName : String := "rackmanager"
  readyChecker : Option ReadyCheckerConfig := none
  ipGetter : Option IpGetterConfig := none
  client : List ClientConfig := []
  settings : Settings := ∅

structure PlatformConfig where
  cluster : List ClusterConfig := []

/-- A record whose unknown members are settings: its fields and the settings. -/
def openRecord? (names : List String) : Json → Option (Record × Settings)
  | .object members => do
    let r ← Record.ofMembers? names members
    let settings ← decode (.object (members.filter (fun member => member.1 ∉ names)))
    return (r, settings)
  | _ => none

instance : Wire ReadyCheckerConfig where
  encode c := .object ([("type", encode c.typeName), ("timeout", encode c.timeout)] ++
    c.settings.entries)
  decode j := do
    let (r, settings) ← openRecord? ["type", "timeout"] j
    return { typeName := ← r.defaulted "type" "file_single"
             timeout := ← r.defaulted "timeout" 300
             settings }

instance : Wire IpGetterConfig where
  encode c := .object (("type", encode c.typeName) :: c.settings.entries)
  decode j := do
    let (r, settings) ← openRecord? ["type"] j
    return { typeName := ← r.defaulted "type" "file_single", settings }

instance : Wire ClientConfig where
  encode c := .object (Json.present [
    whenPresent "management_port" c.managementPort, always "iso_http_url" c.isoHttpUrl,
    always "connection" c.connection])
  decode j := do
    let r ← Record.ofJson? ["management_port", "iso_http_url", "connection"] j
    return { managementPort := ← r.defaulted "management_port" none
             isoHttpUrl := ← r.defaulted "iso_http_url" ""
             connection := ← r.required "connection" }

instance : Wire ClusterConfig where
  encode c := .object (Json.present [
    always "type" c.typeName, whenPresent "ready_checker" c.readyChecker,
    whenPresent "ip_getter" c.ipGetter, always "client" c.client] ++ c.settings.entries)
  decode j := do
    let (r, settings) ← openRecord? ["type", "ready_checker", "ip_getter", "client"] j
    return { typeName := ← r.defaulted "type" "rackmanager"
             readyChecker := ← r.defaulted "ready_checker" none
             ipGetter := ← r.defaulted "ip_getter" none
             client := ← r.defaulted "client" []
             settings }

instance : Wire PlatformConfig where
  encode c := .object [("cluster", encode c.cluster)]
  decode j := do
    let r ← Record.ofJson? ["cluster"] j
    return { cluster := ← r.defaulted "cluster" [] }

/-- The platform section of a runbook; a missing one is an empty configuration. -/
def PlatformConfig.ofSection? : Option Json → Option PlatformConfig
  | none => some {}
  | some .null => some {}
  | some j => decode j

/-- Settings of the types that take a single file. -/
def Settings.file? (settings : Settings) : Option String := do
  let r ← Record.ofJson? ["file"] (.object settings.entries)
  r.required "file"

/-- Settings of the types that hold a connection of their own. -/
def Settings.connection? (settings : Settings) : Option ConnectionInfo := do
  let r ← Record.ofJson? ["connection"] (.object settings.entries)
  r.required "connection"

end Testbed.BareMetal
