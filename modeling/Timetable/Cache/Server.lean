import Timetable.Cache.Glob

/-
  This file defines the cache server: keys with their values
  and times to live, and the commands that it refuses.

  Key definitions include:
    * `Lifetime`
    * `Lifetime.ofNanos`
    * `Server`
    * `Server.get?`
    * `Server.put`
    * `Server.delete`
    * `Server.scan`
-/

namespace Timetable.Cache

------------------------------------------------------------
-- Times to Live
------------------------------------------------------------

/- How long a value lives. -/
inductive Lifetime where
| forever : Lifetime
/- As long as the value that stood there. -/
| inherited : Lifetime
| millis (n : Nat) : Lifetime
deriving DecidableEq, Repr

/-
  The lifetime of a duration: whole seconds and whole
  milliseconds are kept, and less than a millisecond counts
  as one.  A duration that is not positive sets no limit, but
  minus one nanosecond keeps the limit that stood.
-/
def Lifetime.ofNanos (nanos : Int) : Lifetime :=
  if nanos = -1 then .inherited
  else if nanos ≤ 0 then .forever
  else .millis (max 1 (nanos.toNat / 1000000))

------------------------------------------------------------
-- The Server
------------------------------------------------------------

/- A stored value; no limit is `none`. -/
structure Entry where
  key : String
  value : String
  millis : Option Nat
deriving DecidableEq, Repr

/- The commands of the server. -/
inductive Command where
| get : Command
| set : Command
| scan : Command
| del : Command
| ping : Command
deriving DecidableEq, Repr

/- The name of a command. -/
def Command.name : Command → String
| .get => "get"
| .set => "set"
| .scan => "scan"
| .del => "del"
| .ping => "ping"

/- The server: its entries by ascending key, and the texts it refuses commands with. -/
structure Server where
  entries : List Entry := []
  refusals : List (String × String) := []
deriving Repr, Inhabited

namespace Server

/- The text a command is refused with. -/
def refusal?
    (c : Command)
    (s : Server) : Option String :=
  (s.refusals.lookup c.name).map ("ERR " ++ ·)

/- Put an entry in its place among ascending keys. -/
def insertEntry
    (e : Entry) : List Entry → List Entry
| [] => [e]
| old :: rest =>
    if e.key == old.key then e :: rest
    else if e.key < old.key then e :: old :: rest
    else old :: insertEntry e rest

/- The entry with a key. -/
def find?
    (key : String)
    (s : Server) : Option Entry :=
  s.entries.find? (fun e => e.key == key)

/- The value under a key. -/
def get?
    (key : String)
    (s : Server) : Option String :=
  (s.find? key).map (·.value)

/- Store a value under a key. -/
def put
    (key value : String)
    (lifetime : Lifetime)
    (s : Server) : Server :=
  let millis :=
    match lifetime with
    | .forever => none
    | .inherited => (s.find? key).bind (·.millis)
    | .millis n => some n
  { s with entries := insertEntry ⟨key, value, millis⟩ s.entries }

/- Remove a key. -/
def delete
    (key : String)
    (s : Server) : Server :=
  { s with entries := s.entries.filter (fun e => e.key != key) }

/- The keys that match a pattern. -/
def scan
    (pattern : String)
    (s : Server) : List String :=
  (s.entries.map (·.key)).filter (Glob.matchesKey pattern)

end Server

end Timetable.Cache
