import LoadBinding.Proofs.Mappings
import LoadBinding.Proofs.Resolution

/-!
# The credentials of resolved settings

Settings that were resolved from a bag have the credentials of the first endpoint that carries any;
where no endpoint does, they have what the bag gives as user name and password, or nothing
(`Settings.credentials_of_url`).

The credentials of the endpoints are looked for under the property name of the URL alone.  So the
settings have them if the URL is given under that name or under neither name.  A URL under its short
name is used as well, but its credentials are not (`Settings.credentials_of_short_url_missed`).
-/

namespace LoadBinding

namespace Reading

variable {bag : Bag} {property short : String}

/-- The text that a bag gives under one of two names, or nothing. -/
def given (bag : Bag) (property short : String) : String :=
  match find? bag property short with
  | some (_, .text s) => s
  | _ => ""

/-- A text that was read is one of the bag, or the default where the bag has none. -/
lemma scalar_text_eq_ok {missing x : String}
    (h : scalar Convert.text missing bag property short = .ok x) :
    (find? bag property short = none ∧ x = missing) ∨
      ∃ name, find? bag property short = some (name, .text x) := by
  unfold scalar at h
  split at h
  · rename_i hnone
    cases h
    exact .inl ⟨hnone, rfl⟩
  · rename_i name v hsome
    cases v with
    | text s =>
      cases h
      exact .inr ⟨name, hsome⟩
    | _ => cases h

/-- A text that is empty by default is what the bag gives. -/
lemma eq_given {x : String} (h : scalar Convert.text "" bag property short = .ok x) :
    x = given bag property short := by
  unfold given
  rcases scalar_text_eq_ok h with ⟨hnone, rfl⟩ | ⟨name, hsome⟩
  · rw [hnone]
  · rw [hsome]

/-- What a bag gives under the property name wins. -/
lemma find?_of_get? {v : Value} (h : bag.get? property = some v) (short : String) :
    find? bag property short = some (property, v) := by
  unfold find?
  rw [h]

lemma find?_of_get?_eq_none (h : bag.get? property = none) :
    find? bag property short = (bag.get? short).map fun v => (short, v) := by
  unfold find?
  rw [h]

lemma given_of_get? {s : String} (h : bag.get? property = some (.text s)) :
    given bag property short = s := by
  unfold given
  rw [find?_of_get? h short]

end Reading

namespace Settings

open Reading

variable {bag : Bag} {s : Settings} {c : Credentials}

/-- The URL and the credentials of settings are read under their two names each. -/
lemma yields_read_texts : Yields (fun s : Settings =>
    scalar Convert.text ({} : Settings).url bag "mongodb.url" "url" = .ok s.url ∧
      scalar Convert.text "" bag "mongodb.username" "username" = .ok s.username ∧
      scalar Convert.text "" bag "mongodb.password" "password" = .ok s.password) (read bag) := by
  have hread {property short missing : String} :
      Yields (fun x => scalar Convert.text missing bag property short = .ok x)
        (scalar Convert.text missing bag property short) := fun _ h => h
  unfold read
  -- The settings are read in order: five stand between the URL and the user name, and fifteen come
  -- after the password.
  iterate 15 refine yields_and_left ?_
  refine yields_and ?_ hread
  refine yields_and ?_ hread
  iterate 5 refine yields_and_left ?_
  refine yields_and ?_ hread
  rintro _ ⟨⟩ url hurl _ _ _ _ _ username husername password hpassword
  intros
  exact ⟨hurl, husername, hpassword⟩

/-- The bag from which settings are read has the given URL, and the credentials of the endpoints if
there are any. -/
lemma texts_of_resolve (h : (resolve bag).1 = .ok s) :
    scalar Convert.text ({} : Settings).url bag "mongodb.url" "url" = .ok s.url ∧
      s.credentials = (endpointCredentials? bag).getD
        ⟨given bag "mongodb.username" "username", given bag "mongodb.password" "password"⟩ := by
  have hvalidate : validate (withEndpointCredentials bag).1 = .ok s := h
  obtain ⟨hurl, husername, hpassword⟩ := yields_read_texts s (of_validate hvalidate).1
  unfold withEndpointCredentials at hurl husername hpassword
  cases hfound : endpointCredentials? bag with
  | none =>
    rw [hfound] at hurl husername hpassword
    refine ⟨hurl, ?_⟩
    unfold credentials
    rw [eq_given husername, eq_given hpassword]
    rfl
  | some c =>
    rw [hfound] at hurl husername hpassword
    have hget (key : String) : (((bag.set "mongodb.username" (.text c.username)).set
        "mongodb.password" (.text c.password)).get? key) =
          if key = "mongodb.password" then some (.text c.password)
          else if key = "mongodb.username" then some (.text c.username) else bag.get? key := by
      rw [Mapping.get?_set, Mapping.get?_set]
    have hfind : find? ((bag.set "mongodb.username" (.text c.username)).set
        "mongodb.password" (.text c.password)) "mongodb.url" "url" =
          find? bag "mongodb.url" "url" := by
      unfold find?
      rw [hget, hget]
      rfl
    refine ⟨?_, ?_⟩
    · unfold scalar at hurl ⊢
      rwa [hfind] at hurl
    · unfold credentials
      rw [eq_given husername, eq_given hpassword, given_of_get? (hget _), given_of_get? (hget _)]
      rfl

/-- The URL of a bag under the name of its property is the URL in use. -/
lemma url_of_get? (h : (resolve bag).1 = .ok s) {v : Value}
    (hget : bag.get? "mongodb.url" = some v) :
    v = .text s.url := by
  have hfind := find?_of_get? hget "url"
  rcases scalar_text_eq_ok (texts_of_resolve h).1 with ⟨hnone, -⟩ | ⟨name, hsome⟩
  · rw [hfind] at hnone
    cases hnone
  · rw [hfind] at hsome
    exact congrArg Prod.snd (Option.some.inj hsome)

/-- The credentials of the endpoints are those of the URL in use, if it is given under the name of
its property or not at all. -/
lemma endpointCredentials?_eq (h : (resolve bag).1 = .ok s)
    (hname : bag.get? "mongodb.url" ≠ none ∨ bag.get? "url" = none) :
    endpointCredentials? bag = Url.firstCredentials? s.url := by
  unfold endpointCredentials?
  cases hget : bag.get? "mongodb.url" with
  | none =>
    have hshort : bag.get? "url" = none := hname.resolve_left (not_not.mpr hget)
    rcases scalar_text_eq_ok (texts_of_resolve h).1 with ⟨-, hdefault⟩ | ⟨name, hsome⟩
    · rw [hdefault]
    · rw [find?_of_get?_eq_none hget, hshort] at hsome
      cases hsome
  | some v =>
    obtain rfl := url_of_get? h hget
    rfl

/-- Settings have the credentials of the first endpoint of the URL in use that carries any, and what
the bag gives if none does, as long as the URL is given under the name of its property or not at
all.  If it is not given under this name, they have what the bag gives. -/
theorem credentials_of_url (h : (resolve bag).1 = .ok s) :
    (bag.get? "mongodb.url" ≠ none ∨ bag.get? "url" = none →
      (∀ before server after c, s.endpoints = before ++ server :: after →
        (∀ other ∈ before, Url.credentials? other = none) → Url.credentials? server = some c →
        s.username = c.username ∧ s.password = c.password) ∧
      ((∀ server ∈ s.endpoints, Url.credentials? server = none) →
        s.username = given bag "mongodb.username" "username" ∧
          s.password = given bag "mongodb.password" "password")) ∧
    (bag.get? "mongodb.url" = none →
      s.username = given bag "mongodb.username" "username" ∧
        s.password = given bag "mongodb.password" "password") := by
  obtain ⟨-, hcredentials⟩ := texts_of_resolve h
  refine ⟨fun hname => ⟨fun before server after c hsplit hbefore hserver => ?_, fun hnone => ?_⟩,
    fun hname => ?_⟩
  · have hfirst : endpointCredentials? bag = some c := by
      rw [endpointCredentials?_eq h hname]
      exact List.findSome?_eq_some_iff.mpr ⟨before, server, after, hsplit, hserver, hbefore⟩
    rw [hfirst] at hcredentials
    exact ⟨congrArg Credentials.username hcredentials, congrArg Credentials.password hcredentials⟩
  · have hnothing : endpointCredentials? bag = none := by
      rw [endpointCredentials?_eq h hname]
      exact List.findSome?_eq_none_iff.mpr hnone
    rw [hnothing] at hcredentials
    exact ⟨congrArg Credentials.username hcredentials, congrArg Credentials.password hcredentials⟩
  · have hnothing : endpointCredentials? bag = none := by
      unfold endpointCredentials?
      rw [hname]
      decide +kernel
    rw [hnothing] at hcredentials
    exact ⟨congrArg Credentials.username hcredentials, congrArg Credentials.password hcredentials⟩

/-- Three endpoints, two of them with credentials, and other credentials besides. -/
def crowdedBag : Bag :=
  [("username", .text "w"), ("mongodb.password", .text "z"), ("url", .text "n:o@h0"),
    ("mongodb.url", .text "h1 | mongodb://u:p:q@h2 | x:y@h3")]

/-- Of all the credentials those of the second endpoint are used. -/
theorem credentials_of_url_crowdedBag :
    ∃ s, (resolve crowdedBag).1 = .ok s ∧
      s.endpoints = ["h1", "mongodb://u:p:q@h2", "x:y@h3"] ∧
      s.username = "u" ∧ s.password = "p:q" := by
  have hendpoints : (resolve crowdedBag).1.value?.map endpoints =
      some (["h1"] ++ "mongodb://u:p:q@h2" :: ["x:y@h3"]) := by
    decide +kernel
  cases hs : (resolve crowdedBag).1 with
  | refused problems =>
    rw [hs] at hendpoints
    cases hendpoints
  | ok s =>
    rw [hs] at hendpoints
    have hsplit := Option.some.inj hendpoints
    have hname : crowdedBag.get? "mongodb.url" ≠ none ∨ crowdedBag.get? "url" = none :=
      .inl (Option.isSome_iff_ne_none.mp (by decide))
    have hfirst := ((credentials_of_url hs).1 hname).1 _ _ _ ⟨"u", "p:q"⟩ hsplit (by decide)
      (by decide)
    exact ⟨s, rfl, hsplit, hfirst⟩

/-- The credentials of an endpoint are missed if the URL is given under its short name. -/
theorem credentials_of_short_url_missed :
    (resolve [("url", .text "mongodb://u:p@h")]).1.value?.map (fun s =>
      (s.endpoints.map Url.credentials?, s.username, s.password)) =
        some ([some ⟨"u", "p"⟩], "", "") := by
  decide +kernel

end Settings

end LoadBinding
