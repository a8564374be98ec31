import Timetable.Json.Decode
import Timetable.World.Act

/-
  This file reads and writes JSON snapshots in the cache.
  The first half talks to the server and reports what went
  wrong; the second half is what the service uses, which
  keeps figures and does nothing when caching is off.

  Key definitions include:
    * `fullKey`
    * `fetchSnapshot`
    * `anySnapshot`
    * `storeSnapshot`
    * `storeValue`
    * `Removal`
    * `Removal.dropSnapshots`
    * `byCommands`
    * `dropSnapshots`
    * `ping`
    * `lookUp`
    * `remember`
    * `rememberValue`
    * `forget`
-/

namespace Timetable.Cache

------------------------------------------------------------
-- Talking to the Server
------------------------------------------------------------

/- The key under which a value stands on the server. -/
def fullKey (keySpace key : String) : String :=
  if keySpace == "" then key else keySpace ++ ":" ++ key

/- There is a connection to the server. -/
def isConnected : Act Bool := do
  return (← Act.settings).cacheMode == .connected

/- Send a command: a request that has ended sends nothing, and the server may refuse. -/
def command (c : Command) : Act Unit := do
  Act.checkContext
  match (← get).cache.refusal? c with
  | some text => throw (.plain text)
  | none => return ()

/- The snapshot under a key, decoded; a decoder that refuses says why. -/
def fetchSnapshot
    {α : Type}
    (key : String)
    (decode : Json → Except String α) : Act α := do
  unless ← isConnected do
    throw (.problem .cacheMiss)
  Act.restating (.during ("redis get " ++ key)) (command .get)
  let w ← get
  match w.cache.get? (fullKey w.settings.keySpace key) with
  | none => throw (.problem .cacheMiss)
  | some text =>
      let label := "unmarshal cache value for " ++ key
      match Json.whole text with
      | .error fault => throw (.during label (.plain fault.message))
      | .ok v =>
          match decode v with
          | .ok a => return a
          | .error reason => throw (.during label (.plain reason))

/- Any snapshot at all. -/
def anySnapshot (v : Json) : Except String Json :=
  (Json.floats v).mapError (·.message)

/- Store the text of a snapshot under a key. -/
def storeSnapshot
    (key : String)
    (text : String)
    (ttl : Int) : Act Unit := do
  if ← isConnected then
    Act.restating (.during ("redis set " ++ key)) (command .set)
    modify (fun w =>
      { w with
        cache := w.cache.put (fullKey w.settings.keySpace key) text (.ofNanos ttl) })

/- Store a value under a key; one that cannot be written is not sent. -/
def storeValue
    (key : String)
    (v : Json)
    (ttl : Int) : Act Unit := do
  if ← isConnected then
    match v.refusal? with
    | some reason => throw (.during ("marshal cache value for " ++ key) (.plain reason))
    | none => storeSnapshot key v.render ttl

/- How keys are found, and how one is deleted. -/
structure Removal where
  scan : String → Act (List String)
  del : String → Act Unit

/- Delete keys one by one, until one is refused. -/
def Removal.deleteKeys (r : Removal) : List String → Act Unit
| [] => return ()
| key :: rest => do
    Act.restating (.during ("redis delete " ++ key)) (r.del key)
    r.deleteKeys rest

/- Delete the snapshots whose key matches a pattern. -/
def Removal.dropSnapshots
    (r : Removal)
    (pattern : String) : Act Unit := do
  if ← isConnected then
    let settings ← Act.settings
    let keys ← Act.restating (.during ("redis scan pattern " ++ pattern))
      (r.scan (fullKey settings.keySpace pattern))
    r.deleteKeys keys
    Act.log .debug "cache entries removed"

/- Keys are found with one command to the server, and each is deleted with another one. -/
def byCommands : Removal where
  scan pattern := do
    command .scan
    return (← get).cache.scan pattern
  del key := do
    command .del
    modify (fun w => { w with cache := w.cache.delete key })

/- Delete the snapshots on the server whose key matches a pattern. -/
def dropSnapshots (pattern : String) : Act Unit :=
  byCommands.dropSnapshots pattern

/- Ask the server for a sign of life. -/
def ping : Act Unit := do
  if ← isConnected then
    command .ping

------------------------------------------------------------
-- The Cache of the Service
------------------------------------------------------------

/- The service uses its cache. -/
def isEnabled : Act Bool := do
  let mode := (← Act.settings).cacheMode
  return mode == .connected || mode == .unconnected

/- The value under a key, if there is one.  A failure is logged and passed on. -/
def lookUp
    {α : Type}
    (key : String)
    (decode : Json → Except String α) : Act (Option α) := do
  if ← isEnabled then
    let (outcome, nanos) ← Act.timed (Act.attempt (fetchSnapshot key decode))
    Act.measure (·.recordCacheRead outcome.isOk nanos)
    match outcome with
    | .ok a => return some a
    | .error f =>
        if f.hasCode Problem.cacheMiss.code then
          return none
        Act.log .warn "cache get failed"
        throw f
  else
    return none

/- Values live ten minutes unless the settings say otherwise. -/
def defaultTtl : Act Int := do
  let ttl := (← Act.settings).cacheTtl
  return if 0 < ttl then ttl else 600000000000

/- Store something and keep figures about it.  A failure is logged and passed on. -/
def storeMeasured (store : Act Unit) : Act Unit := do
  let (outcome, nanos) ← Act.timed (Act.attempt store)
  Act.measure (·.observeCacheWrite nanos)
  match outcome with
  | .ok () => return ()
  | .error f =>
      Act.log .warn "cache set failed"
      throw f

/- Store for a time to live; one that is not positive is the usual one. -/
def storeFor
    (ttl : Int)
    (store : Int → Act Unit) : Act Unit := do
  if ← isEnabled then
    let ttl ← if 0 < ttl then pure ttl else defaultTtl
    storeMeasured (store ttl)

/- Keep the text of a value under a key. -/
def remember
    (key : String)
    (text : String)
    (ttl : Int) : Act Unit :=
  storeFor ttl (storeSnapshot key text)

/- Keep a value under a key. -/
def rememberValue
    (key : String)
    (v : Json)
    (ttl : Int) : Act Unit :=
  storeFor ttl (storeValue key v)

/-
  Forget the values whose key matches a pattern.  A failure is
  logged and passed on.
-/
def Removal.forget
    (r : Removal)
    (pattern : String) : Act Unit := do
  if ← isEnabled then
    match ← Act.attempt (r.dropSnapshots pattern) with
    | .ok () => return ()
    | .error f =>
        Act.log .warn "cache invalidate failed"
        throw f

/- Forget the values whose key matches a pattern, by commands to the server. -/
def forget (pattern : String) : Act Unit :=
  byCommands.forget pattern

end Timetable.Cache
