import Timetable.Http.Route

/-
  This file arranges the patterns of routes in a tree by the
  beginnings that they share.  The tree tells which paths
  miss a route, and of these, which ones are thought to miss
  it only by the slash at their end.

  A path is followed down the tree.  Fixed texts are tried
  before named segments, and a named segment is fallen back
  on when the fixed way comes to a dead end.  Some ends are
  final: a lone slash is never fallen back from, and neither
  is the end of a named segment.

  Key definitions include:
    * `Tree`
    * `Tree.grow`
    * `Tree.add`
    * `Finding`
    * `Tree.search`
    * `missesBySlash`
-/

namespace Timetable.Http

------------------------------------------------------------
-- Trees
------------------------------------------------------------

/-
  A tree of patterns.  A stem is a fixed text with the
  branches that go on with fixed texts, no two of which start
  alike, and maybe a named segment; a named segment may go on
  with a stem.  A route may end at either.
-/
inductive Tree where
| stem (text : List Char) (ends : Bool) (branches : List Tree) (named : Option Tree) : Tree
| segment (ends : Bool) (next : Option Tree) : Tree
deriving Inhabited

namespace Tree

/- A tree is a stem that starts with a character. -/
def startsWith
    (c : Char) : Tree → Bool
| .stem text _ _ _ => text.head? == some c
| .segment _ _ => false

/- A tree is a slash at which a route ends. -/
def isSlash : Tree → Bool
| .stem text ends _ _ => text == ['/'] && ends
| .segment _ _ => false

/- What follows a named segment. -/
private def afterSegment (path : List Char) : List Char :=
  path.dropWhile (· != '/')

/-
  The tree of what is left of a pattern behind a fixed text
  or a named segment.
-/
def grow : Nat → List Char → Tree
| 0, rest => .stem rest true [] none
| fuel + 1, rest =>
    let text := rest.takeWhile (· != ':')
    match rest.dropWhile (· != ':') with
    | [] => .stem text true [] none
    | named =>
        match afterSegment named with
        | [] => .stem text false [] (some (.segment true none))
        | later => .stem text false [] (some (.segment false (some (grow fuel later))))

/- The beginning that two texts share. -/
def sharedStart : List Char → List Char → List Char
| a :: as, b :: bs => if a == b then a :: sharedStart as bs else []
| _, _ => []

/- A stem cut in two, unless the cut is at its end. -/
def cut
    (size : Nat) : Tree → Tree
| .stem text ends branches named =>
    if size < text.length then
      .stem (text.take size) false [.stem (text.drop size) ends branches named] none
    else .stem text ends branches named
| t => t

/- Add what is left of a pattern to a tree. -/
def add : Nat → List Char → Tree → Tree
| 0, _, t => t
| fuel + 1, rest, .segment ends next =>
    match rest, next with
    | [], _ => .segment true next
    | rest, none => .segment ends (some (grow fuel rest))
    | rest, some t => .segment ends (some (add fuel rest t))
| fuel + 1, rest, .stem text ends branches named =>
    let size := (sharedStart rest text).length
    match cut size (.stem text ends branches named), rest.drop size with
    | .stem text _ branches named, [] => .stem text true branches named
    | .stem text ends branches named, ':' :: name =>
        let later := afterSegment name
        let blank : Tree := .segment false none
        .stem text ends branches (some (add fuel later (named.getD blank)))
    | .stem text ends branches named, c :: later =>
        if branches.any (startsWith c) then
          let step (b : Tree) : Tree := if b.startsWith c then add fuel (c :: later) b else b
          .stem text ends (branches.map step) named
        else
          .stem text ends (branches ++ [grow fuel (c :: later)]) named
    | t, _ => t

/- The tree of patterns, if there are any. -/
def ofPatterns? : List Pattern → Option Tree
| [] => none
| first :: others =>
    let texts := others.map (fun p => p.render.toList)
    let start := first.render.toList
    some (texts.foldl (fun t text => add (text.length + 1) text t) (grow (start.length + 1) start))

------------------------------------------------------------
-- Following Paths
------------------------------------------------------------

end Tree

/-
  What comes of following a path: a route, or an end with the
  advice to try the other slash or not.  From a dead end one
  may go back, from a final one not.
-/
inductive Finding where
| route : Finding
| final (advised : Bool) : Finding
| deadEnd (advised : Bool) : Finding
deriving DecidableEq, Repr

namespace Tree

/-
  Follow what is left of a path.  The stem that all patterns
  share is the root of the tree.
-/
def search : Nat → Bool → List Char → Tree → Finding
| 0, _, _, _ => .final false
| fuel + 1, _, path, .segment ends next =>
    match afterSegment path, next with
    | [], _ => if ends then .route else .final (next.any isSlash)
    | rest, none => .final (rest.length == 1)
    | rest, some t => search fuel false rest t
| fuel + 1, isRoot, path, .stem text ends branches named =>
    match Text.afterStart? text path with
    | none =>
        if path == ['/'] || (ends && text == path ++ ['/']) then .final true
        else .deadEnd false
    | some [] =>
        if ends then .route
        else if path == ['/'] then .final (!isRoot || branches.any isSlash)
        else .deadEnd (branches.any isSlash)
    | some (c :: rest) =>
        let fixed := (branches.find? (startsWith c)).map (search fuel false (c :: rest))
        let fallback := named.map (search fuel false (c :: rest))
        match fixed, fallback with
        | some (.deadEnd _), some finding => finding
        | some finding, _ => finding
        | none, some finding => finding
        | none, none => if c == '/' && rest.isEmpty then .final ends else .deadEnd false

end Tree

/- A path misses the routes of a method, but is thought to miss one only by its last slash. -/
def missesBySlash
    (patterns : List Pattern)
    (path : String) : Bool :=
  match Tree.ofPatterns? patterns with
  | none => false
  | some t =>
      match t.search (2 * path.length + 2) true path.toList with
      | .route => false
      | .final advised => advised
      | .deadEnd advised => advised

end Timetable.Http
