import RoleGraph.Text.Basic

/-!
# Locations

A location is a slash-separated path or a `scheme://host/path` address. Cleaning removes empty and
`.` segments and resolves `..` without looking at any file, so two spellings of one place have one
cleaned form. Addresses are never cleaned: only local `file` addresses are turned into paths.
-/

namespace RoleGraph

namespace Location

open Text (slash)

/-- The segment that names the current directory. -/
def here : Text := "."

/-- The segment that names the parent directory. -/
def up : Text := ".."

/-- Whether a path starts at the root. -/
def isRooted (p : Text) : Bool := p.head? == some slash

/-- Add one segment to the segments already resolved, the last one first. -/
def push (rooted : Bool) (stack : List Text) (segment : Text) : List Text :=
  if segment = [] ∨ segment = here then stack
  else if segment = up then
    match stack with
    | [] => if rooted then [] else [up]
    | top :: rest => if top = up then up :: stack else rest
  else segment :: stack

/-- The resolved segments of a path. -/
def segments (p : Text) : List Text :=
  ((Text.splitAt slash p).foldl (push (isRooted p)) []).reverse

/-- The cleaned form of a path: the shortest path that resolves to the same place. -/
def clean (p : Text) : Text :=
  let joined := Text.joinWith [slash] (segments p)
  if isRooted p then slash :: joined
  else if joined = [] then here
  else joined

/-- Join two paths and clean the result; an empty part is left out. -/
def join (a b : Text) : Text :=
  if a = [] then if b = [] then [] else clean b
  else if b = [] then clean a
  else clean (a ++ slash :: b)

/-- The last segment of a path: `.` for the empty path and `/` for slashes only. -/
def base (p : Text) : Text :=
  if p = [] then here
  else
    let trimmed := Text.dropRightWhile (· == slash) p
    if trimmed = [] then [slash]
    else (trimmed.reverse.takeWhile (· != slash)).reverse

/-- The extension of the last segment, with its dot; empty when there is none. -/
def extension (p : Text) : Text :=
  let name := (p.reverse.takeWhile (· != slash)).reverse
  let tail := (name.reverse.takeWhile (· != Text.byte '.')).reverse
  if tail.length < name.length then Text.byte '.' :: tail else []

/-- The path without its last segment, cleaned. -/
def parent (p : Text) : Text :=
  clean (Text.dropRightWhile (· != slash) p)

/-- Make a path absolute against a working directory and clean it. -/
def absolute (cwd p : Text) : Text :=
  if isRooted p then clean p else join cwd p

/-- The mark between the scheme and the host of an address. -/
def schemeMark : Text := "://"

/-- Whether a location is an address. -/
def isAddress (l : Text) : Bool := Text.has schemeMark l

/-- The parts before and after the first scheme mark. -/
def splitScheme? : Text → Option (Text × Text)
  | [] => none
  | b :: rest =>
    if schemeMark.isPrefixOf (b :: rest) then some ([], rest.drop 2)
    else (splitScheme? rest).map fun (before, after) => (b :: before, after)

/-- The scheme of local files. -/
def localScheme : Text := "file"

/-- The scheme of a location, which no slash is part of; a plain path is a local file. -/
def scheme (l : Text) : Text :=
  match splitScheme? l with
  | some (s, _) => (s.reverse.takeWhile (· != slash)).reverse
  | none => localScheme

/-- The path of a location: an address loses its scheme and host. -/
def path (l : Text) : Text :=
  match splitScheme? l with
  | some (_, rest) => rest.dropWhile (· != slash)
  | none => l

/-- The host of an address that names none. -/
def localHost : Text := "localhost"

/-- Append an element: one trailing slash of the base and all outer slashes of the element go. An
address without a host gets one. -/
def append (b element : Text) : Text :=
  let b := if schemeMark.isSuffixOf b then b ++ localHost else Text.dropTrailing [slash] b
  b ++ slash :: Text.trimSlashes element

/-- Make a local path absolute; the empty location and addresses are kept. -/
def normalize (cwd l : Text) : Text :=
  if l = [] then l
  else if isAddress l then l
  else absolute cwd l

/-- The plain cleaned path of a local location; other addresses only lose trailing slashes. -/
def plain (l : Text) : Text :=
  if !isAddress l then clean l
  else if scheme l = localScheme then clean (path l)
  else Text.dropRightWhile (· == slash) l

/-- The path of `target` seen from its ancestor `root`, both cleaned and absolute. -/
def relative (root target : Text) : Text :=
  let rest := (segments target).drop (segments root).length
  if rest.isEmpty then here else Text.joinWith [slash] rest

end Location

end RoleGraph
