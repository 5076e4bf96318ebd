import RudpAgentStack.Common.Errors

/-!
# The interpreter and the operating system

What the agent takes from outside the repository: the `json` and
`hashlib` modules and the file operations of the operating system.  The world
is the state behind these operations; they may do anything to it and fail in
any way.
-/

namespace RudpAgentStack

open Foundation

/-- The parts of the interpreter and of the operating system the agent
uses. -/
structure Host (World : Type) where
  /-- `json.loads` -/
  jsonLoads : Text → Except PyError Json
  /-- `json.dumps` -/
  jsonDumps : JsonStyle → Json → Except PyError Text
  /-- Text of the `UnicodeDecodeError` for a byte string. -/
  decodeErrorMessage : Bytes → Text
  /-- Text of the `UnicodeEncodeError` for a string. -/
  encodeErrorMessage : Text → Text
  /-- `repr` of a list or dictionary. -/
  repr : Json → Text
  /-- `str` of a generator over the file of a path. -/
  streamRepr : Text → Text
  /-- A member of a string enumeration in an f-string, given its qualified
  name and its value.  The result differs between versions. -/
  formatMember : (name value : Text) → Text
  /-- `hashlib.sha256(data).hexdigest()` -/
  sha256 : Bytes → Text
  /-- `str(uuid.uuid4())` -/
  uuid4 : Action World Text
  /-- `os.path.exists` -/
  pathExists : Text → World → Bool
  /-- `os.path.getsize` -/
  getsize : Text → Action World Int
  /-- `os.listdir` -/
  listdir : Text → Action World (List Text)
  /-- `st_size` and `st_mtime` of `os.stat` -/
  stat : Text → Action World (Int × Json)
  /-- `os.makedirs(path, exist_ok=True)` -/
  makedirs : Text → Action World Unit
  /-- Open a file for reading and read all of it. -/
  readFile : Text → Action World Bytes
  /-- Open a file with mode `wb` and truncate it. -/
  createEmpty : Text → Action World Unit
  /-- Open a file with mode `ab` and write to it. -/
  appendFile : Text → Bytes → Action World Unit
  /-- Open a file with mode `r+b` and close it again. -/
  openUpdate : Text → Action World Unit
  /-- Open a file with mode `r+b`, seek to an offset and write. -/
  writeAt : Text → Int → Bytes → Action World Unit
  /-- Create a named temporary file in a directory; returns its name. -/
  createTemporary : (directory : Text) → Action World Text
  /-- Write to the temporary file of a name. -/
  writeTemporary : (name : Text) → Bytes → Action World Unit
  /-- Flush the temporary file of a name. -/
  flushTemporary : (name : Text) → Action World Unit
  /-- `os.fsync` of the temporary file of a name. -/
  syncTemporary : (name : Text) → Action World Unit
  /-- Close the temporary file of a name. -/
  closeTemporary : (name : Text) → Action World Unit
  /-- `os.replace` -/
  replace : (source target : Text) → Action World Unit
  /-- `os.remove` -/
  remove : Text → Action World Unit

namespace Host

variable {World : Type}

/-- `os.path.exists` as a computation. -/
def exists? (host : Host World) (path : Text) : Action World Bool := do
  return host.pathExists path (← get)

theorem exists?_run (host : Host World) (path : Text) (world : World) :
    (host.exists? path).run world = (.ok (host.pathExists path world), world) :=
  rfl

/-- `str(value)` -/
def str (host : Host World) : Json → Text
  | .null => "None"
  | .bool true => "True"
  | .bool false => "False"
  | .int value => Text.ofInt value
  | .float repr _ => repr
  | .string value => value
  | value => host.repr value

/-- `bytes.decode('utf-8')` -/
def decode (host : Host World) (bytes : Bytes) : Except PyError Text :=
  match Text.decodeUtf8 bytes with
  | some text => .ok text
  | none => .error ⟨.unicodeDecodeError, host.decodeErrorMessage bytes⟩

/-- `str.encode('utf-8')` -/
def encode (host : Host World) (text : Text) : Except PyError Bytes :=
  match Text.encodeUtf8 text with
  | some bytes => .ok bytes
  | none => .error ⟨.unicodeEncodeError, host.encodeErrorMessage text⟩

/-- `json.loads(bytes.decode('utf-8'))` -/
def loadBytes (host : Host World) (bytes : Bytes) : Except PyError Json :=
  host.decode bytes >>= host.jsonLoads

/-- `json.dumps(value).encode("utf-8")` -/
def dumpBytes (host : Host World) (value : Json) : Except PyError Bytes :=
  host.jsonDumps {} value >>= host.encode

end Host

end RudpAgentStack
