import LoadBinding.Log.Entry
import LoadBinding.Number.Real
import LoadBinding.Settings.Basic
import LoadBinding.Settings.Problem
import LoadBinding.Text.Keyword

/-!
# Resolving a property bag

A property bag gives values to properties by name.  Each setting has two names, the name of its
property and a short name; the value under the property name wins.  Unknown names are ignored, and a
setting without a value keeps its default.

Values are mostly texts, and every setting converts what it finds: a number may be written as a
text, a flag holds for the word `true` alone, a choice is made by a word in any case.  All settings
are converted before a bag is refused, so the report lists every setting that is wrong, in order of
declaration.  Only when all are right, the rules that join several settings are checked, and the
first broken rule is reported.

Credentials that an endpoint carries take the place of those given as properties.
-/

namespace LoadBinding

open LoadBinding.Number LoadBinding.Text

/-- The values given to properties by name. -/
abbrev Bag := Mapping Value

/-! ## Converting one value -/

namespace Convert

/-- A text stands for itself, and nothing else does. -/
def text : Value → Except Flaw String
  | .text s => .ok s
  | _ => .error .notText

/-- A truth value stands for itself; anything else is true only as the word `true`. -/
def flag : Value → Except Flaw Bool
  | .bool b => .ok b
  | .text s => .ok (keyword s == "true")
  | _ => .ok false

/-- A word selects a member of a choice, in any case. -/
def choice {α : Type} (word : α → String) (members : List α) : Value → Except Flaw α
  | .text s =>
    match choose? (fun member => keyword (word member)) members (keyword s) with
    | some member => .ok member
    | none => .error (.unknownChoice (members.map word))
  | _ => .error (.unknownChoice (members.map word))

/-- The integer of a double without fractional part, strictly between the ends of the signed 64-bit
range, which are powers of two. -/
def integerOfDouble (x : Float) : Except Flaw Int :=
  match decode x with
  | .finite negative mantissa exponent =>
    if isIntegral mantissa exponent then
      let n := floorScaled negative mantissa exponent
      if -Int.pow 2 63 < n && n < Int.pow 2 63 then .ok n else .error .oversizedInteger
    else .error .fractional
  | _ => .error .notFinite

/-- An integer may be given as such, as a truth value, as a double or as a text. -/
def integer : Value → Except Flaw Int
  | .bool b => .ok (if b then 1 else 0)
  | .int n => .ok n
  | .int64 n => .ok n
  | .double x => integerOfDouble x
  | .text s =>
    match readProperty s with
    | .ok n => .ok n
    | .error (.malformed _) => .error .unreadableInteger
    | .error (.tooLong _) => .error .oversizedInteger
  | _ => .error .notInteger

/-- An integer that is not below a bound. -/
def integerFrom (bound : Int) (v : Value) : Except Flaw Int :=
  match integer v with
  | .ok n => if n < bound then .error (.below bound) else .ok n
  | .error flaw => .error flaw

/-- The double nearest to an integer, unless the integer is beyond all doubles. -/
def doubleOfInteger (n : Int) : Except Flaw Float :=
  let x := ofInt n
  if x.isInf then .error .notNumber else .ok x

/-- A real number may be given as any number, as a truth value or as a text. -/
def real : Value → Except Flaw Float
  | .bool b => .ok (if b then 1.0 else 0.0)
  | .int n => doubleOfInteger n
  | .int64 n => doubleOfInteger n
  | .double x => .ok x
  | .text s =>
    match readReal? s with
    | some x => .ok x
    | none => .error .unreadableNumber
  | _ => .error .notNumber

/-- A real number greater than zero. -/
def positiveReal (v : Value) : Except Flaw Float :=
  match real v with
  | .ok x => if 0.0 < x then .ok x else .error (.notGreaterThan 0)
  | .error flaw => .error flaw

end Convert

/-! ## Reading one setting -/

/-- What was read from a bag, or everything that is wrong with it. -/
inductive Reading (α : Type)
  | ok (value : α)
  | refused (problems : List Problem)

namespace Reading

/-- Applies a reading to another; the problems of both are kept. -/
def and {α β : Type} : Reading (α → β) → Reading α → Reading β
  | .ok f, .ok a => .ok (f a)
  | .ok _, .refused problems => .refused problems
  | .refused problems, .ok _ => .refused problems
  | .refused first, .refused second => .refused (first ++ second)

/-- The name under which a setting is found in a bag, and its value there. -/
def find? (bag : Bag) (property short : String) : Option (String × Value) :=
  match bag.get? property with
  | some v => some (property, v)
  | none => (bag.get? short).map fun v => (short, v)

/-- Reads a setting by converting its value. -/
def scalar {α : Type} (convert : Value → Except Flaw α) (missing : α) (bag : Bag)
    (property short : String) : Reading α :=
  match find? bag property short with
  | none => .ok missing
  | some (name, v) =>
    match convert v with
    | .ok a => .ok a
    | .error flaw => .refused [⟨some name, none, flaw⟩]

/-- Converts the elements of a list of integers from the index `start` on. -/
def elements (name : String) (start : Nat) : List Value → Reading (List Int)
  | [] => .ok []
  | v :: vs =>
    let head : Reading Int :=
      match Convert.integer v with
      | .ok n => .ok n
      | .error flaw => .refused [⟨some name, some start, flaw⟩]
    (Reading.ok List.cons).and head |>.and (elements name (start + 1) vs)

/-- Reads a list of integers, which may be given as a text; `missing` stands for its blank
entries. -/
def integers (missing : Int) (bag : Bag) (property short : String) : Reading (List Int) :=
  match find? bag property short with
  | none => .ok []
  | some (name, .text s) =>
    match readList s missing with
    | .ok ns => .ok ns
    | .error e => .refused [⟨some name, none, .refused e.message⟩]
  | some (name, .array vs) => elements name 0 vs
  | some (name, _) => .refused [⟨some name, none, .notList⟩]

end Reading

/-! ## Reading all settings -/

namespace Settings

open Reading in
/-- Reads every setting of a bag. -/
def read (bag : Bag) : Reading Settings :=
  let default : Settings := {}
  ((Reading.ok Settings.mk)
    |>.and (scalar Convert.text default.url bag "mongodb.url" "url")
    |>.and (scalar Convert.text default.database bag "mongodb.database" "database")
    |>.and (scalar Convert.text default.collection bag "mongodb.collection" "collection")
    |>.and (scalar Convert.text default.shardKey bag "mongodb.shardKey" "shard_key")
    |>.and (scalar Convert.text default.location bag "mongodb.location" "location")
    |>.and
      (scalar Convert.text default.locationField bag "mongodb.locationField" "location_field")
    |>.and (scalar Convert.text default.username bag "mongodb.username" "username")
    |>.and (scalar Convert.text default.password bag "mongodb.password" "password")
    |>.and
      (scalar (Convert.choice WriteConcern.word WriteConcern.all) default.writeConcern bag
        "mongodb.writeConcern" "write_concern")
    |>.and
      (scalar (Convert.choice ReadPreference.word ReadPreference.all) default.readPreference bag
        "mongodb.readPreference" "read_preference")
    |>.and (scalar (Convert.integerFrom 1) default.batchSize bag "batchsize" "batch_size")
    |>.and
      (scalar (Convert.choice Encoding.word Encoding.all) default.encoding bag "datatype"
        "datatype")
    |>.and
      (scalar Convert.positiveReal default.compressibility bag "compressibility"
        "compressibility")
    |>.and (scalar (Convert.integerFrom 1) default.threadCount bag "threadcount" "thread_count")
    |>.and (scalar Convert.flag default.sharded bag "mongodb.sharded" "sharded")
    |>.and (scalar Convert.flag default.useLegacy bag "mongodb.fle" "use_fle")
    |>.and (scalar Convert.flag default.useQueryable bag "mongodb.qe" "use_qe")
    |>.and (scalar Convert.flag default.remoteSchema bag "mongodb.remote_schema" "remote_schema")
    |>.and
      (scalar (Convert.integerFrom 0) default.encryptedFields bag "mongodb.numFleFields"
        "num_encrypted_fields")
    |>.and (integers (-1) bag "mongodb.contentionFactors" "contention_factors")
    |>.and (integers 0 bag "mongodb.cardinalities" "cardinalities")
    |>.and
      (scalar Convert.flag default.useSharedLibrary bag "mongodb.useCryptSharedLib"
        "use_crypt_shared_lib")
    |>.and
      (scalar Convert.text default.sharedLibraryPath bag "mongodb.cryptSharedLibPath"
        "crypt_shared_lib_path"))

/-- The first rule that settings, right one by one, break together. -/
def conflict? (s : Settings) : Option String :=
  if s.useLegacy && s.useQueryable then
    some "mongodb.fle and mongodb.qe cannot both be true"
  else if s.useSharedLibrary && s.sharedLibraryPath.isEmpty then
    some "mongodb.cryptSharedLibPath must be non-empty if mongodb.useCryptSharedLib is true"
  else if s.endpoints.isEmpty then some "mongodb.url does not contain any endpoint"
  else none

/-- Reads every setting of a bag and checks the rules that join them. -/
def validate (bag : Bag) : Reading Settings :=
  match read bag with
  | .refused problems => .refused problems
  | .ok s =>
    match s.conflict? with
    | none => .ok s
    | some reason => .refused [⟨none, none, .refused reason⟩]

/-! ## Credentials of the endpoints -/

/-- The name under which the resolution of settings writes to the log. -/
def logSource : String := "mongobench.config"

/-- The warning that credentials given as properties are not used. -/
def credentialsIgnored : Log.Entry :=
  { level := .warning
    source := logSource
    text :=
      "Username/Password provided in the properties does not match what is present in the URI, " ++
        "defaulting to the URI" }

/-- The credentials carried by the endpoints of a bag, which are looked for under the name of the
property alone. -/
def endpointCredentials? (bag : Bag) : Option Credentials :=
  match bag.get? "mongodb.url" with
  | none => Url.firstCredentials? ({} : Settings).url
  | some (.text url) => Url.firstCredentials? url
  | some _ => none

/-- Whether a bag has both a user name and a password, and not the given ones. -/
def contradicts (bag : Bag) (c : Credentials) : Bool :=
  match bag.get? "mongodb.username", bag.get? "mongodb.password" with
  | some username, some password =>
    !(username.same (.text c.username) && password.same (.text c.password))
  | _, _ => false

/-- A bag with the credentials of its endpoints, and what there is to say about it. -/
def withEndpointCredentials (bag : Bag) : Bag × List Log.Entry :=
  match endpointCredentials? bag with
  | none => (bag, [])
  | some c =>
    ((bag.set "mongodb.username" (.text c.username)).set "mongodb.password" (.text c.password),
      if contradicts bag c then [credentialsIgnored] else [])

/-- Resolves a bag into settings, with the log entries of doing so. -/
def resolve (bag : Bag) : Reading Settings × List Log.Entry :=
  let (bag, entries) := withEndpointCredentials bag
  (validate bag, entries)

end Settings

end LoadBinding
