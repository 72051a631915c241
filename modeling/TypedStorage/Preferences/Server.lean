/-
Preferences on a server that several applications share. Each has a namespace, and every name goes to the
server behind the namespace and a colon. The server is named by a URL, which the client of the server reads;
opening looks at the URL only, and nothing is sent. The addresses below are for running: a host with a port and a
database number as its path, or the path of a socket. What is said of preferences holds for every client.
-/
import TypedStorage.Preferences.Manager
import TypedStorage.Text.Quoted
import TypedStorage.Text.Digits
import TypedStorage.Text.Pieces

namespace TypedStorage

/-! ## Addresses -/

/-- A URL in its parts; the host is empty where there is none. -/
structure ServerUrl where
  scheme : List Char
  host : List Char
  path : List Char
  parameters : List (List Char × List Char)

namespace ServerUrl

def isSchemePart (c : Char) : Bool := c.isAlphanum || c = '+' || c = '-' || c = '.'

/-- The part up to the first character that passes the test, and the rest from it on. -/
def upTo (stop : Char → Bool) (cs : List Char) : List Char × List Char :=
  (cs.takeWhile fun c => !stop c, cs.dropWhile fun c => !stop c)

/-- Characters that a host may not have. -/
def isForbidden (c : Char) : Bool := c = '\x00' || "\t\n\r #/:<>?@[\\]^|".toList.contains c

/-- What stands after the last `@`. -/
def afterUser (cs : List Char) : List Char := (cs.reverse.takeWhile (· ≠ '@')).reverse

/-- A port is empty or a number of 16 bits. -/
def isPort (cs : List Char) : Bool :=
  match Text.readNat? cs with
  | some n => n < 65536
  | none => cs.isEmpty

/-- The host in front of the port. -/
def host? (authority : List Char) : Option (List Char) :=
  let cs := afterUser authority
  let (host, port) := match cs with
    | '[' :: rest =>
      let (inner, rest) := upTo (· = ']') rest
      ('[' :: inner ++ [']'], rest.drop 1)
    | cs => upTo (· = ':') cs
  let portFits := match port with
    | [] => true
    | ':' :: digits => isPort digits && !host.isEmpty
    | _ => false
  let hostFits := host.head? = some '[' || !host.any isForbidden
  if portFits && hostFits && !(host.isEmpty && authority ≠ cs) then some host else none

def pair (cs : List Char) : List Char × List Char :=
  let (key, value) := upTo (· = '=') cs
  (key, value.drop 1)

/-- The parts of a URL; blanks around it and line breaks in it do not count. -/
def ofChars? (cs : List Char) : Option ServerUrl := do
  let isEdge (c : Char) : Bool := c.toNat ≤ 0x20
  let cs := (((cs.dropWhile isEdge).reverse.dropWhile isEdge).reverse).filter fun c => !"\t\n\r".toList.contains c
  guard ((cs.head?.map Char.isAlpha).getD false)
  let (scheme, rest) := upTo (fun c => !isSchemePart c) cs
  guard (rest.head? = some ':')
  let (front, _) := upTo (· = '#') (rest.drop 1)
  let (place, query) := upTo (· = '?') front
  let (authority, path) := match place with
    | '/' :: '/' :: place => upTo (· = '/') place
    | place => ([], place)
  let host ← if authority.isEmpty then some [] else host? authority
  let parameters := ((Text.pieces '&' (query.drop 1)).filter (· ≠ [])).map pair
  return ⟨scheme.map Char.toLower, host, path, parameters⟩

/-- The last value of a parameter. -/
def parameter? (u : ServerUrl) (name : String) : Option (List Char) := u.parameters.reverse.lookup name.toList

def isDatabaseNumber (cs : List Char) : Bool :=
  match Text.readInt? cs with
  | some i => -0x8000000000000000 ≤ i && i < 0x8000000000000000
  | none => false

def trimSlashes (cs : List Char) : List Char :=
  ((cs.dropWhile (· = '/')).reverse.dropWhile (· = '/')).reverse

def protocolFault? (u : ServerUrl) : Option ServerFault :=
  match u.parameter? "protocol" with
  | none => none
  | some v => if ["2", "resp2", "3", "resp3"].contains (String.ofList v) then none else some .badProtocol

/-- What is wrong with a URL as the address of a server. -/
def fault? (u : ServerUrl) : Option ServerFault :=
  let scheme := String.ofList u.scheme
  if ["redis", "rediss", "valkey", "valkeys"].contains scheme then
    let database := trimSlashes u.path
    if u.host.isEmpty then some .missingHost
    else if ["rediss", "valkeys"].contains scheme then some .noTls
    else if !database.isEmpty && !isDatabaseNumber database then some .badDatabaseNumber
    else u.protocolFault?
  else if ["unix", "redis+unix", "valkey+unix"].contains scheme then
    let database := u.parameter? "db"
    if u.path.head? ≠ some '/' || !(["", "localhost"].contains (String.ofList u.host)) then some .missingPath
    else if !(database.map isDatabaseNumber).getD true then some .badDatabaseNumber
    else u.protocolFault?
  else some .badUrl

/-- What is wrong with a text as the address of a server. -/
def refusal? (url : String) : Option ServerFault :=
  match ofChars? url.toList with
  | none => some .badUrl
  | some u => u.fault?

end ServerUrl

/-! ## Preferences in a namespace -/

structure ServerPreferences where
  url : String
  ns : String

namespace ServerPreferences

/-- Opens preferences with a client that refuses some URLs. -/
def open? (refusal? : String → Option ServerFault) (url ns : String) : Except PreferencesError ServerPreferences :=
  if ns = "" then .error (.configuration "preferences namespace cannot be empty")
  else match refusal? url with
    | some fault => .error (.server fault)
    | none => .ok ⟨url, ns⟩

def of? (url ns : String) : Except PreferencesError ServerPreferences := open? ServerUrl.refusal? url ns

/-- The name that a key has on the server. -/
def buildKey (p : ServerPreferences) (key : String) : String := p.ns ++ ":" ++ key

/-- The namespace as a manager of its own on a server that keeps bytes under names. -/
def onServer {σ : Type} (p : ServerPreferences) (server : PreferencesManager σ) : PreferencesManager σ where
  put key value := server.put (p.buildKey key) value
  get key := server.get (p.buildKey key)
  remove key := server.remove (p.buildKey key)
  contains key := server.contains (p.buildKey key)

/-- A server that is not there. -/
def unreachable (text : String) : PreferencesManager Unit :=
  let fails {α : Type} : PreferencesAccess Unit α := throw (.server (.unreachable text))
  ⟨fun _ _ => fails, fun _ => fails, fun _ => fails, fun _ => fails⟩

/-- How the preferences are shown while no connection has been made. -/
def debugText (p : ServerPreferences) : String :=
  "RedisPreferences \x7b namespace: " ++ Text.quoted p.ns ++ ", connected: \"no_connection\" \x7d"

end ServerPreferences

end TypedStorage
