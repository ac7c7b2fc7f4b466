import Flowgraph.Http.Host

/-! Addresses of resources. Reading is as forgiving as browsers are: blanks at the ends, tabs and
line ends are dropped, backslashes count as slashes, dot segments are resolved, and characters that
may not stand in an address are written as percent escapes. Addresses of the web, of files and of
any other kind differ in what must follow the scheme. -/

namespace Flowgraph

structure Url where
  scheme : String
  user : String
  password : Option String
  host : Option Host
  portNumber : Option Nat
  path : String
  query : Option String
  fragment : Option String
  deriving DecidableEq, Repr, Inhabited

/-- The kinds of schemes: those of the web, files, and all others. -/
inductive UrlKind where
  | web
  | file
  | other
  deriving DecidableEq, Repr

namespace Url

def defaultPort : String → Option Nat
  | "http" | "ws" => some 80
  | "https" | "wss" => some 443
  | "ftp" => some 21
  | _ => none

def kind (scheme : String) : UrlKind :=
  if scheme = "file" then .file else if (defaultPort scheme).isSome then .web else .other

def isControl (c : Char) : Bool := c.toNat < 0x20 || c.toNat = 0x7f

/-- What separates the segments of a path. -/
def isSlash (kind : UrlKind) (c : Char) : Bool := c == '/' || (c == '\\' && kind != .other)

def isMark (c : Char) : Bool := c == '?' || c == '#'

private def hexDigit (n : Nat) : Char := if n < 10 then .ofNat (n + 48) else .ofNat (n + 55)

/-- Writes control characters, characters beyond ASCII and those listed as percent escapes. -/
def escape (special : String) (s : List Char) : List Char :=
  s.flatMap fun c =>
    if isControl c || 0x7f < c.toNat || special.contains c then
      (Text.utf8Bytes c.toNat).flatMap fun b => ['%', hexDigit (b / 16), hexDigit (b % 16)]
    else [c]

def escapeUser (s : List Char) : String := .ofList (escape " \"#<>?`\x7b\x7d/:;=@[\\]^|" s)
def escapeQuery (kind : UrlKind) (s : List Char) : String :=
  .ofList (escape (if kind = .other then " \"#<>" else " \"#<>'") s)

/-- Drops what may stand around and inside an address without belonging to it. -/
def cleaned (s : List Char) : List Char :=
  let atEnd (c : Char) : Bool := c.toNat ≤ 0x20
  let inner := ((s.dropWhile atEnd).reverse.dropWhile atEnd).reverse
  inner.filter fun c => c != '\t' && c != '\n' && c != '\r'

/-- The scheme in lower case, and what follows its colon. -/
def scheme? (s : List Char) : Option (String × List Char) :=
  let isPart (c : Char) : Bool := c.isAlphanum || "+-.".contains c
  match s.takeWhile isPart, s.dropWhile isPart with
  | c :: name, ':' :: rest => if c.isAlpha then some (.ofList ((c :: name).map Char.toLower), rest) else none
  | _, _ => none

/-- The part up to the last `@`, if there is one, and what follows it. -/
def userHost (s : List Char) : Option (List Char) × List Char :=
  if s.contains '@' then
    let back := s.reverse
    (some ((back.dropWhile (· != '@')).drop 1).reverse, (back.takeWhile (· != '@')).reverse)
  else (none, s)

/-- The host of an authority up to a colon outside brackets, and the rest. -/
def splitHost (bracketed : Bool) : List Char → List Char × List Char
  | [] => ([], [])
  | c :: rest =>
    if c == ':' && !bracketed then ([], c :: rest)
    else
      let (host, rest) := splitHost (if c == '[' then true else if c == ']' then false else bracketed) rest
      (c :: host, rest)

/-- Characters that no host outside the web has. -/
def isForbidden (c : Char) : Bool := c.toNat = 0 || " #/:<>?@[\\]^|".contains c

def readHost (kind : UrlKind) (s : List Char) : Except UrlFault Host :=
  if kind != .other then if s.isEmpty then .error .emptyHost else Host.read s
  else match Host.bracketed? s with
    | some result => result
    | none => if s.any isForbidden then .error .badHostCharacter else .ok (.name (.ofList (escape "" s)))

/-- The number of a port and what follows it; the default number is left out. -/
def readPort (scheme : String) (s : List Char) : Except UrlFault (Option Nat × List Char) :=
  let ds := s.takeWhile Char.isDigit
  let rest := s.dropWhile Char.isDigit
  if 65535 < Literal.ofDigits ds || rest.head?.any (· != '\\') then .error .badPort
  else .ok (if ds.isEmpty || some (Literal.ofDigits ds) = defaultPort scheme then none else some (Literal.ofDigits ds), rest)

/-- The segments between slashes. -/
def segments (kind : UrlKind) : List Char → List (List Char)
  | [] => [[]]
  | c :: rest => match segments kind rest with
    | first :: more => if isSlash kind c then [] :: first :: more else (c :: first) :: more
    | [] => [[c]]

def isDot (s : List Char) : Bool := [".", "%2e"].contains (String.ofList (s.map Char.toLower))
def isDotDot (s : List Char) : Bool := ["..", ".%2e", "%2e.", "%2e%2e"].contains (String.ofList (s.map Char.toLower))

/-- A letter that names a drive, with its colon or bar. -/
def isDrive (s : List Char) : Bool :=
  match s with
  | [letter, c] => letter.isAlpha && (c == ':' || c == '|')
  | _ => false

/-- The segments, from the last to the first, without the last one; what looks like a drive stays. -/
def shortened : List (List Char) → List (List Char)
  | [] => []
  | s :: done => if isDrive s then s :: done else done

/-- Resolves dot segments, `done` being the earlier segments backwards. -/
def resolved (done : List (List Char)) : List (List Char) → List (List Char)
  | [] => done.reverse
  | [s] =>
    if isDotDot s then ([] :: shortened done).reverse
    else if isDot s then ([] :: done).reverse
    else (s :: done).reverse
  | s :: rest =>
    if isDotDot s then resolved (shortened done) rest
    else if isDot s then resolved done rest
    else resolved (s :: done) rest

/-- The segments of a file without empty ones in front, and with a colon behind the drive. -/
def fileSegments (segments : List (List Char)) : List (List Char) :=
  match segments.dropWhile (·.isEmpty) with
  | [] => [[]]
  | [letter, c] :: rest => (if isDrive [letter, c] then [letter, ':'] else [letter, c]) :: rest
  | rest => rest

/-- The path of the segments; it is never empty. -/
def normalPath (kind : UrlKind) (segments : List (List Char)) : String :=
  let segments := resolved [] segments
  match if kind = .file then fileSegments segments else segments with
  | [] => "/"
  | segments => .ofList (segments.flatMap fun s => '/' :: escape " \"#<>?`\x7b\x7d" s)

/-- The path, query and fragment of the rest of an address. -/
def parts (s : List Char) : List Char × Option (List Char) × Option (List Char) :=
  let path := s.takeWhile (!isMark ·)
  match s.dropWhile (!isMark ·) with
  | '?' :: rest =>
    let query := rest.takeWhile (· != '#')
    match rest.dropWhile (· != '#') with
    | _ :: fragment => (path, some query, some fragment)
    | [] => (path, some query, none)
  | _ :: fragment => (path, none, some fragment)
  | [] => (path, none, none)

/-- The address with a path, and with the query and the fragment behind it. -/
def withRest (base : Url) (path : String) (query fragment : Option (List Char)) : Url :=
  { base with
    path := path
    query := query.map (escapeQuery (kind base.scheme))
    fragment := fragment.map fun f => .ofList (escape " \"<>`" f) }

def withPath (base : Url) (s : List Char) : Url :=
  let kind := kind base.scheme
  let (path, query, fragment) := parts s
  let path := match path with
    | [] => if kind = .other then "" else "/"
    | c :: rest => normalPath kind (segments kind (if isSlash kind c then rest else c :: rest))
  withRest base path query fragment

/-- An address after its scheme and two slashes. -/
def afterSlashes (scheme : String) (s : List Char) : Except UrlFault Url := do
  let kind := kind scheme
  let isEnd (c : Char) : Bool := isSlash kind c || isMark c
  let rest := s.dropWhile (!isEnd ·)
  let (user, s) := userHost (s.takeWhile (!isEnd ·))
  if user = some [] && s.isEmpty && !rest.isEmpty then throw .emptyHost
  let (hostText, s) := splitHost false s
  let found ← readHost kind hostText
  if found = .name "" && !s.isEmpty then throw .emptyHost
  let (number, more) ← readPort scheme (s.drop 1)
  let user := user.getD []
  let password := (user.dropWhile (· != ':')).drop 1
  let name := user.takeWhile (· != ':')
  if found = .name "" && !(name.isEmpty && password.isEmpty) then throw .emptyHost
  return withPath ⟨scheme, escapeUser name, if password.isEmpty then none else some (escapeUser password),
    some found, number, "", none, none⟩ (more ++ rest)

def file (host : Host) : Url := ⟨"file", "", none, some host, none, "", none, none⟩

def ofFile (s : List Char) : Except UrlFault Url :=
  match s with
  | a :: b :: rest =>
    if isSlash .file a && isSlash .file b then do
      let isEnd (c : Char) : Bool := isSlash .file c || isMark c
      let name := rest.takeWhile (!isEnd ·)
      if name.isEmpty || isDrive name then return withPath (file (.name "")) rest
      let host ← Host.read name
      let rest := rest.dropWhile (!isEnd ·)
      let host := if host = .name "localhost" || isDrive ((rest.drop 1).takeWhile (!isEnd ·)) then .name "" else host
      return withPath (file host) rest
    else return withPath (file (.name "")) s
  | s => return withPath (file (.name "")) s

/-- An address of another kind after its scheme: with an authority, with a path alone, or opaque. -/
def ofOther (scheme : String) (s : List Char) : Except UrlFault Url :=
  let base : Url := ⟨scheme, "", none, none, none, "", none, none⟩
  match s with
  | '/' :: '/' :: rest => afterSlashes scheme rest
  | '/' :: _ => return withPath base s
  | s =>
    let (path, query, fragment) := parts s
    return withRest base (.ofList (escape "" path)) query fragment

def read (text : String) : Except UrlFault Url :=
  match scheme? (cleaned text.toList) with
  | none => .error .relative
  | some (scheme, rest) => match kind scheme with
    | .web => afterSlashes scheme (rest.dropWhile (isSlash .web))
    | .file => ofFile rest
    | .other => ofOther scheme rest

/-- An address given in relation to one of the web. -/
def join? (base : Url) (text : String) : Option Url :=
  let s := cleaned text.toList
  match scheme? s with
  | some (scheme, rest) =>
    if scheme = base.scheme && (rest.takeWhile (isSlash .web)).length < 2 then some (relative rest)
    else (read text).toOption
  | none => match s with
    | a :: b :: rest =>
      if isSlash .web a && isSlash .web b then (afterSlashes base.scheme (rest.dropWhile (isSlash .web))).toOption
      else some (relative s)
    | s => some (relative s)
where
  relative (s : List Char) : Url :=
    let (path, query, fragment) := parts s
    let own := (segments .web base.path.toList).drop 1
    if path.isEmpty then
      let u := withRest base base.path query fragment
      if query.isSome then u else { u with query := base.query }
    else if path.head?.any (isSlash .web) then withRest base (normalPath .web ((segments .web path).drop 1)) query fragment
    else withRest base (normalPath .web (own.dropLast ++ segments .web path)) query fragment

def target (u : Url) : String := u.path ++ match u.query with
  | some q => "?" ++ q
  | none => ""

def userText (u : Url) : String :=
  match u.password with
  | some p => u.user ++ ":" ++ p ++ "@"
  | none => if u.user = "" then "" else u.user ++ "@"

/-- The text of an address. A path alone that begins with two slashes is kept apart from an authority. -/
def text (u : Url) : String :=
  u.scheme ++ ":" ++
    (match u.host with
      | some host => "//" ++ u.userText ++ host.text
      | none => if u.path.startsWith "//" then "/." else "") ++
    (match u.portNumber with
      | some p => s!":{p}"
      | none => "") ++ u.target ++
    match u.fragment with
    | some f => "#" ++ f
    | none => ""

def hasHost (u : Url) : Bool :=
  match u.host with
  | some host => host != .name ""
  | none => false

/-- The address without its user and password, unless they are no text. -/
def withoutUser (u : Url) : Url :=
  let isText (s : String) : Bool := (Text.strictText (Host.unescaped s.toList)).toOption.isSome
  if isText u.user && (u.user != "" || u.password.any isText) then { u with user := "", password := none } else u

end Url
end Flowgraph
