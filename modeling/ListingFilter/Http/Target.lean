import ListingFilter.Text.Percent
/-!
# Targets of requests

The target of a request is a reference to a resource: a scheme and an authority, which are both left
out of account, a path, a query after a question mark, and a fragment after a number sign, which is
left out of account too.
-/

namespace ListingFilter.Http

/-- The path, percent-encoded, and the query of a target. -/
structure Target where
  path : String
  query : String
  deriving DecidableEq, Repr

namespace Target

/-- Control characters and spaces are dropped at the start of a target, line ends and tabs
everywhere. -/
def printed (cs : List Char) : List Char :=
  (cs.dropWhile fun c => c.toNat ≤ 0x20).filter fun c => !(c == '\t' || c == '\n' || c == '\r')

/-- The characters after a scheme, if there is one. -/
def afterScheme (cs : List Char) : List Char :=
  let name := cs.takeWhile (· != ':')
  let isScheme :=
    match name with
    | [] => false
    | c :: _ => c.isAlpha &&
      name.all fun c => c.isAlphanum || c == '+' || c == '-' || c == '.'
  if isScheme && cs.contains ':' then cs.drop (name.length + 1) else cs

/-- The characters after an authority, if there is one. -/
def afterAuthority : List Char → List Char
  | '/' :: '/' :: rest => rest.dropWhile fun c => !(c == '/' || c == '?' || c == '#')
  | cs => cs

/-- The path and the query of a reference. -/
def ofReference (text : String) : Target :=
  let cs := afterAuthority (afterScheme (printed text.toList))
  let (path, query) := Text.cutAt '?' (String.ofList (cs.takeWhile (· != '#')))
  ⟨path, query.getD ""⟩

/-- A target as a reference without scheme and authority. -/
def reference (target : Target) : String :=
  if target.query = "" then target.path else target.path ++ "?" ++ target.query

/-- The target that a text holds. What is left of it without its scheme and its authority is taken
as a reference once more, so that a path with two slashes at its start loses its first name. -/
def ofText (text : String) : Target := ofReference (ofReference text).reference

/-- The path of a target, decoded, with exactly one slash at its start. -/
def decodedPath (target : Target) : String :=
  String.ofList ('/' :: (Text.Percent.decode target.path).toList.dropWhile (· == '/'))

end Target

end ListingFilter.Http
