import BuildLog.Attributes
import BuildLog.Json.Value
import BuildLog.Text.Search
import BuildLog.Text.Utf8

/-! Requests to the service and the routes that they take. -/
namespace BuildLog.Service

open Text

structure Request where
  method : String
  /-- The path and the query behind it, as they stand in the request, with escapes. -/
  target : String
  /-- Parameters in place of the query. -/
  parameters : Option Attributes := none
  body : Option Json.Value := none

structure Response where
  status : Nat
  /-- None if the answer is not JSON. -/
  body : Option Json.Value

inductive Route where
  | health
  | formats
  | detect
  | parse
  | diagnose
  | parsers
  | parser (name : String)
deriving DecidableEq

def hexValue? (c : Char) : Option Nat :=
  if c.isDigit then some (c.toNat - 48)
  else if 'a' ≤ c && c ≤ 'f' then some (c.toNat - 87)
  else if 'A' ≤ c && c ≤ 'F' then some (c.toNat - 55)
  else none

/-- Bytes in which escapes of two hexadecimal digits are resolved. -/
def unescapedBytes : List Char → List UInt8
  | [] => []
  | '%' :: a :: b :: rest =>
    match hexValue? a, hexValue? b with
    | some high, some low => (16 * high + low).toUInt8 :: unescapedBytes rest
    | _, _ => '%'.toNat.toUInt8 :: unescapedBytes (a :: b :: rest)
  | c :: rest => (String.singleton c).toUTF8.toList ++ unescapedBytes rest

def unescaped (cs : List Char) : List Char := (Utf8.decode (unescapedBytes cs)).toList

namespace Request

def path (r : Request) : List Char := r.target.toList.takeWhile fun c => c != '?' && c != '#'

/-- A parameter of a query, in which a plus sign stands for a space. -/
def parameter (text : String) : String × String :=
  let plain (cs : List Char) : String :=
    String.ofList (unescaped (cs.map fun c => if c == '+' then ' ' else c))
  let cs := text.toList
  (plain (cs.takeWhile (· != '=')), plain ((cs.dropWhile (· != '=')).drop 1))

/-- The parameters of the query; of two with one name the later counts. -/
def query (r : Request) : Attributes :=
  match r.parameters with
  | some parameters => parameters
  | none =>
    let behind := (r.target.toList.takeWhile (· != '#')).dropWhile (· != '?')
    ((pieces '&' (String.ofList (behind.drop 1))).map parameter).foldl
      (fun found (name, value) => found.set name value) []

end Request

namespace Route

/-- The method by which a route is taken. -/
def method : Route → String
  | health | formats => "GET"
  | detect | parse | diagnose | parsers => "POST"
  | parser _ => "DELETE"

def fixed : List (String × Route) :=
  [("/health", health), ("/formats", formats), ("/detect", detect), ("/parse", parse),
    ("/diagnose", diagnose), ("/parsers", parsers)]

/-- The route of a path without escapes. A name holds no slash. -/
def ofPlain? (path : String) : Option Route :=
  match fixed.lookup path with
  | some route => some route
  | none =>
    match dropStart? "/parsers/".toList path.toList with
    | none | some [] => none
    | some name => if name.contains '/' then none else some (parser (String.ofList name))

def withoutSlashes (path : String) : String :=
  String.ofList (path.toList.reverse.dropWhile (· == '/')).reverse

/-- The steps of a path from which single and double points are taken out; `seen` holds the steps
before, last first, and begins with the empty step in front of the path. -/
def withoutPoints (seen : List String) : List String → List String
  | [] => seen.reverse
  | step :: rest =>
    if step == "." then withoutPoints seen rest
    else if step == ".." then
      withoutPoints (if seen.length ≤ 1 then seen else seen.drop 1) rest
    else withoutPoints (step :: seen) rest

/-- The path from the root on, without escapes. These are resolved twice, by the sender's side
and by the receiver's. -/
def plainPath (cs : List Char) : String :=
  let steps := pieces '/' (String.ofList (if cs.head? == some '/' then cs else '/' :: cs))
  String.ofList (unescaped (unescaped (joined "/" (withoutPoints [] steps)).toList))

/-- The route of a path; slashes at its end are passed over if it leads nowhere with them. -/
def ofPath? (cs : List Char) : Option Route :=
  let path := plainPath cs
  match ofPlain? path with
  | some route => some route
  | none => if endsWith path "/" then ofPlain? (withoutSlashes path) else none

end Route

end BuildLog.Service
