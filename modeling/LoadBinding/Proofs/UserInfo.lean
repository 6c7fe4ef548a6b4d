import LoadBinding.Proofs.SharedCredentials

/-!
# The user info of a URL with a scheme

In a URL `scheme://host` the user info begins behind the `://`, because the first `//` of the URL is
the one behind its scheme (`userStart_of_scheme`).  Two results rest on this.

Credentials that are written into such a URL are read off it again exactly when they can be told
apart there (`Credentials.Separable`): a colon in the user name, or an `@` in one of the two, is
taken for the character that ends it.  Nothing is escaped on the way in, so nothing else could be
read on the way out (`credentials?_embed_iff`).

Off a URL that has all its parts (`Url.Parts`) exactly the user info is read, whatever path and
query follow the host (`credentials?_url`).  Only where a URL has no user info, an `@` behind the
host is taken for the end of one (`credentials_read_off_query`).
-/

namespace LoadBinding.Url

open LoadBinding.Text

/-! ## Behind the scheme -/

/-- The first `//` of a URL is the one behind its scheme. -/
lemma userStart_of_scheme {scheme : List Char} (hslash : '/' ∉ scheme) (tail : List Char) :
    userStart ((scheme ++ [':', '/', '/']) ++ tail) = scheme.length + 3 := by
  have hsplit : (scheme ++ [':', '/', '/']) ++ tail =
      (scheme ++ [':']) ++ (['/', '/'] ++ tail) := by simp
  have hbefore : '/' ∉ scheme ++ [':'] := by simp [hslash]
  have hcut : cut? ['/', '/'] ((scheme ++ [':']) ++ (['/', '/'] ++ tail)) =
      some (scheme ++ [':'], tail) :=
    cut?_append (by simp) fun n hn => not_found_before (by simp) hbefore hn
  unfold userStart
  rw [hsplit, hcut]
  simp

/-- The first `://` of a URL is the one behind its scheme. -/
lemma cut?_of_scheme {scheme : List Char} (hslash : '/' ∉ scheme) (tail : List Char) :
    cut? [':', '/', '/'] ((scheme ++ [':', '/', '/']) ++ tail) = some (scheme, tail) := by
  rw [List.append_assoc]
  exact cut?_append (by simp) fun n hn => not_found_before (by simp) hslash hn

lemma toList_scheme_append (scheme tail : String) :
    (scheme ++ "://" ++ tail).toList = (scheme.toList ++ [':', '/', '/']) ++ tail.toList := by
  rw [String.toList_append, String.toList_append]
  rfl

/-! ## Writing credentials into a URL -/

/-- Credentials with a user name that are written into a URL `scheme://host` are read off it again
if and only if the user name has neither a colon nor an `@`, and the password has no `@`. -/
theorem credentials?_embed_iff (scheme host : String) (c : Credentials)
    (hscheme : '/' ∉ scheme.toList ∧ '@' ∉ scheme.toList)
    (hhost : '/' ∉ host.toList ∧ '@' ∉ host.toList) (hu : c.username ≠ "") :
    credentials? (embed (scheme ++ "://" ++ host) c.authority) = some c ↔
      ':' ∉ c.username.toList ∧ '@' ∉ c.username.toList ∧ '@' ∉ c.password.toList := by
  have hurl := toList_scheme_append scheme host
  have hat : '@' ∉ (scheme ++ "://" ++ host).toList := by
    rw [hurl]
    simp [hscheme.2, hhost.2]
  have hcut : cut? [':', '/', '/'] (scheme ++ "://" ++ host).toList =
      some (scheme.toList, host.toList) := by
    rw [hurl]
    exact cut?_of_scheme hscheme.1 _
  have hstart : userStart (scheme ++ "://" ++ host).toList = scheme.toList.length + 3 := by
    rw [hurl]
    exact userStart_of_scheme hscheme.1 _
  have hcarries : Carries (embed (scheme ++ "://" ++ host) c.authority) c :=
    carries_embed hat hu hcut hstart
  constructor
  · intro hread
    have hseparable := separable_of_credentials? hread
    exact ⟨hseparable.colon, hseparable.username, hseparable.password⟩
  · rintro ⟨hcolon, husername, hpassword⟩
    exact credentials?_of_carries hcarries ⟨hcolon, husername, hpassword⟩ hu

/-- A password may well hold colons and slashes. -/
theorem credentials?_embed_iff_colonsAndSlashes :
    ("bench" : String) ≠ "" ∧
      credentials? (embed ("mongodb" ++ "://" ++ "h1:27017")
        (⟨"bench", "p:/q//"⟩ : Credentials).authority) = some ⟨"bench", "p:/q//"⟩ :=
  ⟨by decide, (credentials?_embed_iff "mongodb" "h1:27017" ⟨"bench", "p:/q//"⟩ (by decide)
    (by decide) (by decide)).mpr (by decide)⟩

/-- A password with an `@` does not survive: the user info ends at its first `@`. -/
theorem password_cut_at_sign :
    credentials? (embed "mongodb://h" (⟨"u", "p@q"⟩ : Credentials).authority) =
      some ⟨"u", "p"⟩ := by
  decide

/-! ## Reading the parts of a URL -/

/-- Whether a text has none of the characters that delimit the parts of a URL. -/
def IsPlain (part : String) : Prop :=
  ∀ c ∈ part.toList, c ∉ ['/', '?', '#', '@']

instance (part : String) : Decidable (IsPlain part) :=
  List.decidableBAll _ part.toList

lemma IsPlain.not_mem {part : String} (h : IsPlain part) {c : Char}
    (hc : c ∈ ['/', '?', '#', '@']) :
    c ∉ part.toList :=
  fun hmem => h c hmem hc

/-- A URL in its parts. -/
structure Parts where
  scheme : String
  userInfo : Option String
  host : String
  /-- The path and the query. -/
  rest : String
  scheme_plain : IsPlain scheme
  userInfo_plain : ∀ info ∈ userInfo, IsPlain info
  host_plain : IsPlain host
  rest_begins : rest.toList.head? ∈ [none, some '/', some '?']

namespace Parts

/-- The user info with its `@`, where there is one. -/
def userPart (p : Parts) : String :=
  match p.userInfo with
  | none => ""
  | some info => info ++ "@"

/-- The text of a URL. -/
def url (p : Parts) : String :=
  p.scheme ++ "://" ++ (p.userPart ++ p.host ++ p.rest)

variable {p : Parts}

/-- The user info is read from behind the scheme to the first `@`. -/
lemma userInfo?_url (hat : '@' ∈ (p.userPart ++ p.host ++ p.rest).toList) :
    userInfo? p.url.toList =
      some ((p.userPart ++ p.host ++ p.rest).toList.takeWhile (· != '@')) := by
  have hslash : '/' ∉ p.scheme.toList := p.scheme_plain.not_mem (by simp)
  have hplain : '@' ∉ p.scheme.toList := p.scheme_plain.not_mem (by simp)
  have hscheme : '@' ∉ p.scheme.toList ++ [':', '/', '/'] := by simp [hplain]
  have hstart := userStart_of_scheme hslash (p.userPart ++ p.host ++ p.rest).toList
  unfold url
  rw [toList_scheme_append]
  exact userInfo?_append (by rw [hstart]; simp) hscheme hat

/-- The `@` of a URL is the one behind its user info, or stands behind the host. -/
lemma mem_url_iff : '@' ∈ p.url.toList ↔ p.userInfo.isSome ∨ '@' ∈ p.rest.toList := by
  have hscheme : '@' ∉ p.scheme.toList := p.scheme_plain.not_mem (by simp)
  have hhost : '@' ∉ p.host.toList := p.host_plain.not_mem (by simp)
  unfold url userPart
  rw [toList_scheme_append, String.toList_append, String.toList_append]
  cases p.userInfo with
  | none => simp [hscheme, hhost]
  | some info => simp

/-- Off a URL with user info exactly this is read, split at its first colon; and nothing is read off
a URL without, unless an `@` stands behind its host. -/
theorem credentials?_url (p : Parts) :
    (∀ info, p.userInfo = some info →
      (∀ username password, info = username ++ ":" ++ password → ':' ∉ username.toList →
        credentials? p.url = some ⟨username, password⟩) ∧
      (':' ∉ info.toList → credentials? p.url = some ⟨info, ""⟩)) ∧
    (p.userInfo = none → (credentials? p.url = none ↔ '@' ∉ p.rest.toList)) := by
  refine ⟨fun info hinfo => ?_, fun hnone => ?_⟩
  · have hplain : '@' ∉ info.toList := (p.userInfo_plain info hinfo).not_mem (by simp)
    have htail : (p.userPart ++ p.host ++ p.rest).toList =
        info.toList ++ '@' :: (p.host ++ p.rest).toList := by
      unfold userPart
      rw [hinfo]
      simp [String.toList_append]
    have hread : userInfo? p.url.toList = some info.toList := by
      rw [userInfo?_url (by rw [htail]; simp), htail, takeWhile_append_of_not_mem hplain]
      simp
    refine ⟨fun username password hsplit hcolon => ?_, fun hcolon => ?_⟩
    · have hlist : info.toList = username.toList ++ ':' :: password.toList := by
        rw [hsplit]
        simp [String.toList_append]
      rw [hlist] at hread
      rw [credentials?_of_userInfo? hread hcolon, String.ofList_toList, String.ofList_toList]
    · rw [credentials?_of_userInfo?_username hread hcolon, String.ofList_toList]
  · rw [credentials?_eq_none_iff, mem_url_iff, hnone]
    simp

/-- A URL with user info whose path holds what looks like credentials as well. -/
def crowded : Parts where
  scheme := "mongodb"
  userInfo := some "u:p:q"
  host := "h1:27017"
  rest := "/db?a=//v:w@x"
  scheme_plain := by decide
  userInfo_plain := by
    rintro _ ⟨⟩
    decide
  host_plain := by decide
  rest_begins := by decide

/-- The same URL without user info, and without an `@` in its query. -/
def bare : Parts :=
  { crowded with
    userInfo := none
    rest := "/db?a=//v:w"
    userInfo_plain := nofun
    rest_begins := by decide }

/-- The password goes on behind the first colon and ends before the first `@`, and nothing is read
off the path. -/
theorem credentials?_url_crowded :
    credentials? crowded.url = some ⟨"u", "p:q"⟩ ∧ credentials? bare.url = none :=
  ⟨((credentials?_url crowded).1 "u:p:q" rfl).1 "u" "p:q" (by decide) (by decide),
    ((credentials?_url bare).2 rfl).mpr (by decide)⟩

/-- A URL without user info whose query holds an `@`. -/
def withAddress : Parts where
  scheme := "mongodb"
  userInfo := none
  host := "h"
  rest := "/?a=b@c"
  scheme_plain := by decide
  userInfo_plain := nofun
  host_plain := by decide
  rest_begins := by decide

/-- The host and the query up to the `@` are taken for a user name. -/
theorem credentials_read_off_query :
    withAddress.userInfo = none ∧ credentials? withAddress.url = some ⟨"h/?a=b", ""⟩ := by
  decide

end Parts

end LoadBinding.Url
