import BearerClient.Store

/-!
# Renewal in the background

A task that keeps a credential from expiring: it sleeps until the credential falls due, renews it
and starts over.  Without a credential it looks again after a while, and it never obtains a first
one.  The task is an endless repetition of one iteration, which hands on the least time that the
next one has to sleep.
-/

namespace BearerClient

/-- How the task is paced. -/
structure Renewal where
  /-- the sleep while there is no credential -/
  idlePoll : Duration := .ofMillis 60000
  /-- the sleep after a renewal that failed -/
  retryDelay : Duration := .ofMillis 60000
  /-- the least time between two renewals -/
  minInterval : Duration := .ofMillis 1000
  /-- how long the end of the task is waited for -/
  joinTimeout : Duration := .ofMillis 5000

namespace Renewal

/-- How long to sleep before the credential is looked at. -/
def pause (renewal : Renewal) (floor : Duration) : Option Duration → Duration
  | some untilRefresh => untilRefresh.atLeast floor
  | none => renewal.idlePoll

def sleep (time : Duration) : Program Unit := Program.query (.wait time)

/-- Renews the credential, and sleeps for a while if that fails. -/
def renew (renewal : Renewal) (config : Config) (floor : Duration) : Program Duration := do
  match ← (Store.getToken config).run with
  | .ok _ => return renewal.minInterval
  | .error _ =>
    sleep renewal.retryDelay
    return floor

/-- One iteration, which sleeps for `floor` at least if a credential is held.  An iteration that
has not slept and finds nothing to do sleeps at its end. -/
def iteration (renewal : Renewal) (config : Config) (floor : Duration) : Program Duration := do
  let pause := renewal.pause floor (← Store.untilRefresh config)
  unless pause.isZero do sleep pause
  let due ← if ← Store.authenticated then Store.needsRenewal config else pure false
  if due then renewal.renew config floor
  else
    if pause.isZero then sleep renewal.minInterval
    return floor

end Renewal
end BearerClient
