import Flowgraph.Http.Url
import Flowgraph.Store.Fault
import Flowgraph.Text.Quoted

/-! Addresses of databases, as far as they can be told to be none: they are read like any address,
their parts must be text, and the parameters behind them must have values that make sense. -/

namespace Flowgraph.DatabaseAddress

/-- The bytes of a part of a query, where a plus stands for a blank. -/
def formBytes (s : List Char) : List Nat := Host.unescaped (s.map fun c => if c == '+' then ' ' else c)

def parameters (query : String) : List (String × String) :=
  ((Text.pieces '&' query.toList).filter (!·.isEmpty)).map fun p =>
    (Text.lossyText (formBytes (p.takeWhile (· != '='))), Text.lossyText (formBytes ((p.dropWhile (· != '=')).drop 1)))

/-- What is wrong with a count below `limit`. -/
def countFault? (limit : Nat) (s : String) : Option String :=
  let ds := match s.toList with
    | '+' :: rest => if rest.isEmpty then ['+'] else rest
    | ds => ds
  if ds.isEmpty then some "cannot parse integer from empty string"
  else if !ds.all Char.isDigit then some "invalid digit found in string"
  else if limit ≤ Literal.ofDigits ds then some "number too large to fit in target type"
  else none

def securityModes : List String := ["disable", "allow", "prefer", "require", "verify-ca", "verify-full"]

def parameterFault? : String × String → Option String
  | ("sslmode", v) | ("ssl-mode", v) =>
    if securityModes.contains (.ofList (v.toList.map Char.toLower)) then none
    else some s!"error with configuration: unknown value {Text.quoted v} for `ssl_mode`"
  | ("statement-cache-capacity", v) => countFault? 0x10000000000000000 v
  | ("port", v) => countFault? 0x10000 v
  | ("hostaddr", v) =>
    if (Host.dotted? v.toList).isSome || (Host.six? v.toList).isSome then none else some "invalid IP address syntax"
  | _ => none

/-- What is wrong with a part as text. -/
def textFault? (s : List Char) : Option String :=
  match Text.strictText (Host.unescaped s) with
  | .ok _ => none
  | .error broken => some broken.message

def urlFault? (u : Url) : Option String :=
  [(u.host.map Host.text).getD "", u.user, u.password.getD "",
    String.ofList (u.path.toList.dropWhile (· == '/'))].findSome? (textFault? ·.toList) <|>
    (parameters (u.query.getD "")).findSome? parameterFault?

def fault? (url : String) : Option DatabaseFault :=
  match Url.read url with
  | .error e => some (.configuration e.message)
  | .ok u => (urlFault? u).map .configuration

end Flowgraph.DatabaseAddress
