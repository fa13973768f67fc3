import ChatBridge.Service.Http
import ChatBridge.Text.Basic

/-!
# Requests and responses as text

How a request is written on a connection that serves no other, and how the response is read once the
other side has closed it.
-/

namespace ChatBridge

namespace HttpRequest

def target (r : HttpRequest) : String :=
  (if r.url.path.isEmpty then "/" else r.url.path) ++ r.url.query.elim "" ("?" ++ ·)

def hostName (r : HttpRequest) : String :=
  r.url.host.getD "" ++ r.url.socket.elim "" (":" ++ toString ·)

def headLines (r : HttpRequest) : List String :=
  ["POST " ++ r.target ++ " HTTP/1.1", "host: " ++ r.hostName, "content-type: application/json",
    "content-length: " ++ toString r.body.utf8ByteSize, "connection: close"]
    ++ (r.authorization.map ("authorization: " ++ ·)).toList

def encode (r : HttpRequest) : ByteArray :=
  (String.join (r.headLines.map (· ++ "\r\n")) ++ "\r\n" ++ r.body).toUTF8

end HttpRequest

namespace HttpResponse

def cutLine : List UInt8 → Option (List UInt8 × List UInt8)
  | [] => none
  | 13 :: 10 :: bytes => some ([], bytes)
  | b :: bytes => (cutLine bytes).map fun (line, rest) => (b :: line, rest)

def cutHead : Nat → List UInt8 → Option (List String × List UInt8)
  | 0, _ => none
  | fuel + 1, bytes =>
    match cutLine bytes with
    | none => none
    | some ([], rest) => some ([], rest)
    | some (line, rest) =>
      (cutHead fuel rest).map fun (lines, rest) => (Text.ofBytes line :: lines, rest)

def header? (name : String) (lines : List String) : Option String :=
  lines.findSome? fun line =>
    match Text.cutAt ':' line.toList with
    | (key, some value) =>
      if String.ofList (key.map Char.toLower) = name then some (Text.trim (String.ofList value))
      else none
    | (_, none) => none

def status? : List String → Option Nat
  | line :: _ => ((line.splitOn " ")[1]?).bind String.toNat?
  | [] => none

/-- The length of a chunk, up to the first character that is no hexadecimal digit. -/
def chunkLength (line : String) : Nat :=
  ofHexDigits (line.toList.takeWhile fun c => (hexValue? c).isSome)

def joinChunks : Nat → List UInt8 → Option (List UInt8)
  | 0, _ => none
  | fuel + 1, bytes =>
    match cutLine bytes with
    | none => none
    | some (line, rest) =>
      match chunkLength (Text.ofBytes line) with
      | 0 => some []
      | n => (joinChunks fuel (rest.drop (n + 2))).map (rest.take n ++ ·)

def body? (lines : List String) (bytes : List UInt8) : Option (List UInt8) :=
  if header? "transfer-encoding" lines = some "chunked" then joinChunks bytes.length bytes
  else
    match (header? "content-length" lines).bind String.toNat? with
    | some n => if n ≤ bytes.length then some (bytes.take n) else none
    | none => some bytes

def decode? (bytes : List UInt8) : Option HttpResponse := do
  let (lines, rest) ← cutHead bytes.length bytes
  return ⟨← status? lines, ← body? (lines.drop 1) rest⟩

end HttpResponse
end ChatBridge
