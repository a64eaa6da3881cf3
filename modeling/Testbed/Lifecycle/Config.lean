import Testbed.Json.Record

/-!
# Lifecycle configuration

How connections are retried and whether released environments are handed out again.
-/
namespace Testbed

/-- The policy for opening the sessions of nodes. -/
structure ConnectPolicy where
  /-- The longest that one attempt may take, in milliseconds. -/
  timeoutMs : UInt64 := 30000
  /-- Attempts after the first one. -/
  maxRetries : UInt32 := 3
  /-- The pause before the first retry, in milliseconds; each later one is twice as long. -/
  backoffBaseMs : UInt64 := 1000
  deriving DecidableEq

structure LifecycleConfig where
  connect : ConnectPolicy := {}
  /-- Hand released, clean environments to later requirements that they satisfy. -/
  reuseEnvironments : Bool := false
  deriving DecidableEq

instance : Wire ConnectPolicy where
  encode p := .object [("timeout_ms", encode p.timeoutMs), ("max_retries", encode p.maxRetries),
    ("backoff_base_ms", encode p.backoffBaseMs)]
  decode j := do
    let r ← Record.ofJson? ["timeout_ms", "max_retries", "backoff_base_ms"] j
    return { timeoutMs := ← r.required "timeout_ms"
             maxRetries := ← r.required "max_retries"
             backoffBaseMs := ← r.required "backoff_base_ms" }

instance : Wire LifecycleConfig where
  encode c := .object [("connect", encode c.connect),
    ("reuse_environments", encode c.reuseEnvironments)]
  decode j := do
    let r ← Record.ofJson? ["connect", "reuse_environments"] j
    return { connect := ← r.defaulted "connect" {}
             reuseEnvironments := ← r.defaulted "reuse_environments" false }

end Testbed
