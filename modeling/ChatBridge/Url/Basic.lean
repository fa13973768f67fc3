import ChatBridge.Text.Basic
import ChatBridge.Url.Host
import ChatBridge.Url.Path

/-!
# Addresses

Absolute addresses, read leniently: blanks around are dropped, the scheme is written in lower case,
the host in its own form, the socket number that goes without saying is left out, dot segments are
resolved, and what may not stand in an address is written in percent codes.
-/

namespace ChatBridge

structure Url.User where
  name : String
  secret : Option String
deriving DecidableEq, Repr, Inhabited

structure Url.Authority where
  user : Option Url.User
  host : Option String
  socket : Option Nat
deriving DecidableEq, Repr, Inhabited

structure Url where
  scheme : String
  authority : Option Url.Authority
  path : String
  query : Option String
  fragment : Option String
deriving DecidableEq, Repr, Inhabited

namespace Url

def host (u : Url) : Option String := u.authority.bind (·.host)

def socket (u : Url) : Option Nat := u.authority.bind (·.socket)

/-- An address that tells nobody's name. A name that is no text stays, and so does a secret alone
that is none. -/
def withoutUser (u : Url) : Url :=
  let hides (user : User) : Bool :=
    match decode? user.name with
    | some name => name ≠ "" || (user.secret.bind decode?).isSome
    | none => false
  let strip (a : Authority) : Authority := { a with user := a.user.filter (!hides ·) }
  { u with authority := u.authority.map strip }

/-! ## Writing -/

def User.render (u : User) : String := u.name ++ u.secret.elim "" (":" ++ ·) ++ "@"

def Authority.render (a : Authority) : String :=
  "//" ++ a.user.elim "" User.render ++ a.host.getD "" ++ a.socket.elim "" (":" ++ toString ·)

/-- A path that begins like an authority is told apart by a dot segment. -/
def renderPlace (u : Url) : String :=
  match u.authority with
  | some a => a.render ++ u.path
  | none => (if u.path.startsWith "//" then "/." else "") ++ u.path

def render (u : Url) : String :=
  u.scheme ++ ":" ++ u.renderPlace ++ u.query.elim "" ("?" ++ ·) ++ u.fragment.elim "" ("#" ++ ·)

/-! ## Schemes -/

def usualSocket? : String → Option Nat
  | "http" | "ws" => some 80
  | "https" | "wss" => some 443
  | "ftp" => some 21
  | _ => none

def namesMachine (scheme : String) : Bool := (usualSocket? scheme).isSome

def isSpecial (scheme : String) : Bool := scheme == "file" || namesMachine scheme

def isSlashIn (scheme : String) (c : Char) : Bool := c = '/' || (isSpecial scheme && c = '\\')

def isSchemeChar (c : Char) : Bool := c.isAlphanum || "+-.".contains c

def splitScheme? : List Char → Option (String × List Char)
  | c :: cs =>
    match c.isAlpha, cs.dropWhile isSchemeChar with
    | true, ':' :: rest =>
      some (String.ofList ((c :: cs.takeWhile isSchemeChar).map Char.toLower), rest)
    | _, _ => none
  | [] => none

/-! ## Authorities -/

def readSocket? (usual? : Option Nat) (ds : List Char) : Option (Option Nat) :=
  if ds.isEmpty then some none
  else if ds.all Char.isDigit then
    let socket := numberIn 10 ds
    if 65535 < socket then none else some (if usual? = some socket then none else some socket)
  else none

def splitSocket : Bool → List Char → List Char × Option (List Char)
  | _, [] => ([], none)
  | isInside, c :: cs =>
    if c = ':' && !isInside then ([], some cs)
    else
      let (host, socket) := splitSocket (if c = '[' then true else if c = ']' then false else isInside) cs
      (c :: host, socket)

def readUser (cs : List Char) : Option User :=
  let (name, secret) := Text.cutAt ':' cs
  let secret := secret.filter (!·.isEmpty)
  if name.isEmpty && secret.isNone then none
  else some ⟨encode keepsUser name, secret.map (encode keepsUser)⟩

def splitUser (cs : List Char) : List Char × Option (List Char) :=
  let host := (cs.reverse.takeWhile (· ≠ '@')).reverse
  if host.length = cs.length then (cs, none)
  else (host, some (cs.take (cs.length - host.length - 1)))

def readHost? (scheme : String) (cs : List Char) : Option (Option String) :=
  if namesMachine scheme then
    if cs.isEmpty then none else (readNetworkHost? cs).map some
  else (readOpaqueHost? cs).map fun host => if host = "" then none else some host

/-- Without a host there is no user, not even a nameless one, and no socket number. -/
def readAuthority? (scheme : String) (hasMore : Bool) (cs : List Char) : Option Authority := do
  let (place, user) := splitUser cs
  let (host, socket) := splitSocket false place
  let host ← readHost? scheme host
  guard (host.isSome || (socket.isNone && !(user = some [] && hasMore)))
  let user := user.bind readUser
  guard (host.isSome || user.isNone)
  return ⟨user, host, ← readSocket? (usualSocket? scheme) (socket.getD [])⟩

/-! ## Files -/

def noAuthority : Authority := ⟨none, none, none⟩

def readFileHost? (cs : List Char) : Option (Option String) :=
  if cs.isEmpty then some none
  else (readNetworkHost? cs).map fun host => if host = "localhost" then none else some host

def readFilePlace? (cs : List Char) : Option (Authority × String) := do
  let isSlash := isSlashIn "file"
  let bare (cs : List Char) : Authority × String :=
    (noAuthority, renderPath (dropEmptyFront (fileSegments isSlash cs)))
  match cs with
  | a :: b :: rest =>
    if !(isSlash a && isSlash b) then return bare cs
    let host := rest.takeWhile (!isSlash ·)
    if isDrive host then return bare rest
    let host ← readFileHost? host
    let segments := fileSegments isSlash (rest.dropWhile (!isSlash ·))
    let host := if segments.head?.any isDrive then none else host
    return (⟨none, host, none⟩, renderPath (dropEmptyFront segments))
  | _ => return bare cs

/-! ## Whole addresses -/

def tidy (s : String) : List Char :=
  let isAround (c : Char) : Bool := c.toNat ≤ 0x20
  let cs := Text.dropEndWhile isAround (s.toList.dropWhile isAround)
  cs.filter fun c => c ≠ '\t' && c ≠ '\n' && c ≠ '\r'

def splitPath (isSlash : Char → Bool) (cs : List Char) : List Char × List Char :=
  let front := cs.takeWhile (!isSlash ·)
  let (place, _) := splitUser front
  match (splitSocket false place).2 with
  | some socket =>
    let behind := socket.dropWhile (· ≠ '\\')
    (front.take (front.length - behind.length), behind ++ cs.dropWhile (!isSlash ·))
  | none => (front, cs.dropWhile (!isSlash ·))

def readNetworkPlace? (scheme : String) (hasMore : Bool) (cs : List Char) :
    Option (Option Authority × String) := do
  let isSlash := isSlashIn scheme
  let (front, path) := splitPath isSlash cs
  let authority ← readAuthority? scheme (hasMore || !path.isEmpty) front
  return (authority, if path.isEmpty && !isSpecial scheme then ""
    else renderPath (segmentsOf isSlash path))

/-- Authority and path of what follows the scheme; `hasMore` says that a query or a fragment comes
after it. -/
def readPlace? (scheme : String) (hasMore : Bool) (cs : List Char) :
    Option (Option Authority × String) :=
  if scheme = "file" then (readFilePlace? cs).map fun (authority, path) => (some authority, path)
  else if namesMachine scheme then
    readNetworkPlace? scheme hasMore (cs.dropWhile (isSlashIn scheme))
  else
    match cs with
    | '/' :: '/' :: cs => readNetworkPlace? scheme hasMore cs
    | '/' :: cs => some (none, renderPath (segmentsOf (isSlashIn scheme) ('/' :: cs)))
    | cs => some (none, encode isPlain cs)

def ofText? (s : String) : Option Url := do
  let (scheme, rest) ← splitScheme? (tidy s)
  let (rest, fragment) := Text.cutAt '#' rest
  let (place, query) := Text.cutAt '?' rest
  let (authority, path) ← readPlace? scheme (query.isSome || fragment.isSome) place
  return ⟨scheme, authority, path, query.map (encode (keepsQuery (isSpecial scheme))),
    fragment.map (encode keepsFragment)⟩

end Url
end ChatBridge
