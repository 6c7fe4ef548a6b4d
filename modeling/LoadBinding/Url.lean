import LoadBinding.Text.Blank
import LoadBinding.Text.Search

/-!
# Endpoint URLs

The endpoints of a deployment are given as one text, separated by `|`.  An endpoint may carry
credentials before an `@`; those of the first endpoint that has any are shared with the endpoints
that have none.  For display, the credentials are replaced by the user name and a row of crosses.

Credentials are read off the text of the URL alone: from behind the first `//`, or from the start
when there is none, up to the first `@`, split at the first `:`.
-/

namespace LoadBinding

open LoadBinding.Text

/-- A user name with its password. -/
structure Credentials where
  username : String
  password : String
  deriving DecidableEq, Repr

/-- The part of a URL that carries credentials, `user[:password]@`; empty without a user name. -/
def Credentials.authority (c : Credentials) : String :=
  if c.username.isEmpty then ""
  else c.username ++ (if c.password.isEmpty then "" else ":" ++ c.password) ++ "@"

namespace Url

/-- The endpoints of a `|`-separated list, stripped of blanks; blank entries are dropped. -/
def endpoints (urls : String) : List String :=
  ((splitOn '|' urls.toList).map (trim isBlank)).filterMap fun entry =>
    if entry.isEmpty then none else some (String.ofList entry)

/-- The number of characters before the user name: those up to the end of the first `//`. -/
def userStart (url : List Char) : Nat :=
  match cut? ['/', '/'] url with
  | some (before, _) => before.length + 2
  | none => 0

/-- The credentials of a URL as one text, if it holds an `@`. -/
def userInfo? (url : List Char) : Option (List Char) :=
  if url.contains '@' then some ((url.takeWhile (· != '@')).drop (userStart url)) else none

/-- The credentials that a URL carries. -/
def credentials? (url : String) : Option Credentials :=
  (userInfo? url.toList).map fun info =>
    { username := String.ofList (info.takeWhile (· != ':'))
      password := String.ofList ((info.dropWhile (· != ':')).drop 1) }

/-- The credentials of the first endpoint of a list that carries any. -/
def firstCredentials? (urls : String) : Option Credentials :=
  (endpoints urls).findSome? credentials?

/-- Writes credentials behind the first `://` of a URL that carries none of its own. -/
def embed (url authority : String) : String :=
  if url.toList.contains '@' || authority.isEmpty then url
  else
    match cut? [':', '/', '/'] url.toList with
    | some (before, after) =>
      String.ofList (before ++ [':', '/', '/'] ++ authority.toList ++ after)
    | none => url

/-- A URL for display: wherever the credentials occur, the password is replaced. -/
def mask (url username authority : String) : String :=
  if authority.isEmpty then url
  else
    String.ofList
      (replaceAll authority.toList (username ++ ":XXXXXX@").toList url.toList)

/-- The scheme of a database URL, put in front of a text that does not begin with its name. -/
def withScheme (url : String) : String :=
  if "mongodb".toList.isPrefixOf url.toList then url else "mongodb://" ++ url

/-- Whether a text is a full database URL and not only a host. -/
def isFull (url : String) : Bool :=
  "mongodb://".toList.isPrefixOf url.toList || "mongodb+srv://".toList.isPrefixOf url.toList

end Url

end LoadBinding
