import LoadBinding.Proofs.Opening
import LoadBinding.Proofs.Searching

/-!
# Passwords in URLs for display

A pool shows the URL of an endpoint with the shared credentials replaced by the user name and a row
of crosses.  Whoever reads the credentials off the URL for display should find the crosses in place
of the password.

`Url.Carries` says that the shared credentials stand where the user info of a URL begins.  They do
when the endpoint carries these credentials itself (`carries_of_credentials?`), and when the pool
has written them into it (`carries_embed`).  Then masking hides the password (`credentials?_mask`):
the occurrence at the user info is the first one, since its `@` is the first of the URL, and what is
put in its place does not move the beginning of the user info.

The main result says this for the endpoints of a pool that share its credentials
(`Settings.SharesCredentials`).  What is excluded there does happen: an endpoint with credentials of
its own, other than the shared ones, is displayed with its password, and so is one without a user
name.
-/

namespace LoadBinding

open LoadBinding.Text LoadBinding.Action World

namespace Url

/-! ## The user info of a URL -/

/-- The beginning of the user info does not depend on what follows a `//`. -/
lemma userStart_append {start tail : List Char} (h : userStart (start ++ tail) = start.length)
    (hne : start ≠ []) (tail' : List Char) : userStart (start ++ tail') = start.length := by
  unfold userStart at h
  cases hcut : cut? ['/', '/'] (start ++ tail) with
  | none =>
    rw [hcut] at h
    exact absurd (List.length_eq_zero_iff.mp h.symm) hne
  | some pair =>
    obtain ⟨before, after⟩ := pair
    rw [hcut] at h
    dsimp only at h
    have hlength : start.length = (before ++ ['/', '/']).length := by simp [← h]
    obtain ⟨hstart, -⟩ := List.append_inj (eq_of_cut? hcut) hlength
    unfold userStart
    rw [hstart, cut?_append_of_cut? (by simp) hcut]
    simp

/-- Without a `//` the user info begins with the URL. -/
lemma userStart_eq_zero {url : List Char} :
    userStart url = 0 ↔ url.IsChain fun c d => ¬ (c = '/' ∧ d = '/') := by
  rw [← cut?_pair_eq_none_iff]
  unfold userStart
  cases cut? ['/', '/'] url <;> simp

/-- The user info reaches from its beginning to the first `@`. -/
lemma userInfo?_append {start tail : List Char} (hs : userStart (start ++ tail) = start.length)
    (hat : '@' ∉ start) (hmem : '@' ∈ tail) :
    userInfo? (start ++ tail) = some (tail.takeWhile (· != '@')) := by
  have hcontains : (start ++ tail).contains '@' = true := by simp [hmem]
  unfold userInfo?
  rw [if_pos hcontains, hs, takeWhile_append_of_not_mem hat, List.drop_left]

/-- A user name and a password are told apart by the first colon. -/
lemma credentials?_of_userInfo? {url : String} {username password : List Char}
    (h : userInfo? url.toList = some (username ++ ':' :: password)) (hcolon : ':' ∉ username) :
    credentials? url = some ⟨String.ofList username, String.ofList password⟩ := by
  have hall := bne_of_not_mem hcolon
  unfold credentials?
  rw [h, Option.map_some, List.takeWhile_append_of_pos hall, List.dropWhile_append_of_pos hall]
  simp

/-- A password that is not empty is read behind a colon. -/
lemma userInfo?_of_credentials? {url : String} {c : Credentials}
    (h : credentials? url = some c) (hp : c.password ≠ "") :
    userInfo? url.toList = some (c.username.toList ++ ':' :: c.password.toList) ∧
      ':' ∉ c.username.toList := by
  unfold credentials? at h
  obtain ⟨info, hinfo, rfl⟩ := Option.map_eq_some_iff.mp h
  dsimp only at hp ⊢
  rw [String.toList_ofList, String.toList_ofList]
  constructor
  · cases hrest : info.dropWhile (· != ':') with
    | nil =>
      rw [hrest] at hp
      exact absurd rfl hp
    | cons c rest =>
      have hcolon := List.head?_dropWhile_not (· != ':') info
      rw [hrest] at hcolon
      obtain rfl : c = ':' := by simpa using hcolon
      rw [List.drop_one, List.tail_cons, ← hrest, List.takeWhile_append_dropWhile]
      exact hinfo
  · exact not_mem_takeWhile ':' info

/-- A URL with user info is made of what stands before it, the user info, and what stands behind
its `@`. -/
lemma exists_split_of_userInfo? {url info : List Char} (h : userInfo? url = some info)
    (hne : info ≠ []) :
    ∃ start rest, url = start ++ (info ++ '@' :: rest) ∧ userStart url = start.length ∧
      '@' ∉ start ∧ '@' ∉ info := by
  unfold userInfo? at h
  split at h
  · rename_i hcontains
    obtain rfl : (url.takeWhile (· != '@')).drop (userStart url) = info := Option.some.inj h
    generalize hfront : url.takeWhile (· != '@') = front at hne ⊢
    have hat : '@' ∉ front := by
      rw [← hfront]
      exact not_mem_takeWhile '@' url
    have hrest : ∃ rest, url = front ++ '@' :: rest := by
      cases hdrop : url.dropWhile (· != '@') with
      | nil =>
        have hall := dropWhile_eq_nil.mp hdrop '@' (by simpa using hcontains)
        simp at hall
      | cons c rest =>
        have hhead := List.head?_dropWhile_not (· != '@') url
        rw [hdrop] at hhead
        obtain rfl : c = '@' := by simpa using hhead
        exact ⟨rest, by rw [← hfront, ← hdrop, List.takeWhile_append_dropWhile]⟩
    obtain ⟨rest, hrest⟩ := hrest
    have hle : userStart url ≤ front.length := by
      by_contra hlt
      exact hne (List.drop_eq_nil_of_le (by omega))
    refine ⟨front.take (userStart url), rest, ?_, ?_, fun hm => hat (List.mem_of_mem_take hm),
      fun hm => hat (List.mem_of_mem_drop hm)⟩
    · rw [← List.append_assoc, List.take_append_drop]
      exact hrest
    · rw [List.length_take, Nat.min_eq_left hle]
  · cases h

/-! ## Shared credentials in a URL -/

/-- Credentials stand where the user info of a URL begins. -/
def Carries (url : String) (c : Credentials) : Prop :=
  ∃ start rest, url.toList = start ++ (c.authority.toList ++ rest) ∧
    userStart url.toList = start.length ∧ '@' ∉ start

lemma authority_eq {c : Credentials} (hu : c.username ≠ "") (hp : c.password ≠ "") :
    c.authority.toList = c.username.toList ++ ':' :: (c.password.toList ++ ['@']) := by
  unfold Credentials.authority
  rw [if_neg (by simpa using hu), if_neg (by simpa using hp)]
  simp [String.toList_append]

/-- Credentials that a URL carries itself stand where its user info begins. -/
lemma carries_of_credentials? {url : String} {c : Credentials} (h : credentials? url = some c)
    (hu : c.username ≠ "") (hp : c.password ≠ "") : Carries url c := by
  obtain ⟨hinfo, -⟩ := userInfo?_of_credentials? h hp
  obtain ⟨start, rest, hurl, hstart, hat, -⟩ := exists_split_of_userInfo? hinfo (by simp)
  exact ⟨start, rest, by rw [hurl, authority_eq hu hp]; simp, hstart, hat⟩

/-- Credentials that are written into a URL stand where its user info begins, provided that no `//`
stands before the `://` behind which they are written. -/
lemma carries_embed {url : String} {c : Credentials} (hat : '@' ∉ url.toList) (hu : c.username ≠ "")
    {before after : List Char} (hcut : cut? [':', '/', '/'] url.toList = some (before, after))
    (hscheme : userStart url.toList = before.length + 3) : Carries (embed url c.authority) c := by
  have hurl := eq_of_cut? hcut
  have hne : c.authority.isEmpty = false := by
    unfold Credentials.authority
    rw [if_neg (by simpa using hu)]
    simp [String.isEmpty_eq_false_iff]
  have hstart : userStart ((before ++ [':', '/', '/']) ++ after) =
      (before ++ [':', '/', '/']).length := by
    rw [← hurl, hscheme]
    simp
  unfold embed
  rw [if_neg (by simp [hat, hne]), hcut]
  refine ⟨before ++ [':', '/', '/'], after, by simp, ?_, fun hm => hat ?_⟩
  · rw [String.toList_ofList, List.append_assoc]
    exact userStart_append hstart (by simp) _
  · rw [hurl]
    exact List.mem_append_left _ hm

/-- Behind what stands before the shared credentials, a masked URL goes on with the user name and
the crosses. -/
lemma exists_toList_mask {url : String} {c : Credentials} {start rest : List Char}
    (hurl : url.toList = start ++ (c.authority.toList ++ rest)) (hat : '@' ∉ start)
    (hu : c.username ≠ "") (hp : c.password ≠ "") :
    (mask url c.username c.authority).toList =
      start ++ (c.username.toList ++ ':' :: ("XXXXXX".toList ++ '@' ::
        replaceFrom c.authority.toList (c.username ++ ":XXXXXX@").toList 0 rest)) := by
  have hauthority := authority_eq hu hp
  have hne : c.authority.toList ≠ [] := by
    rw [hauthority]
    simp
  have hmem : '@' ∈ c.authority.toList := by
    rw [hauthority]
    simp
  unfold mask replaceAll
  rw [if_neg (by simpa using hne), String.toList_ofList, hurl,
    replaceFrom_append fun n hn => not_found_before hmem hat hn, replaceFrom_pattern hne]
  simp

/-- The user info of a masked URL begins where that of the URL did. -/
lemma userStart_mask {url : String} {c : Credentials} {start rest : List Char}
    (hurl : url.toList = start ++ (c.authority.toList ++ rest))
    (hstart : userStart url.toList = start.length) (hat : '@' ∉ start) (hu : c.username ≠ "")
    (hp : c.password ≠ "") :
    userStart (mask url c.username c.authority).toList = start.length := by
  by_cases hnil : start = []
  · -- The URL has no `//`, and masking does not bring one about.
    subst hnil
    rw [List.length_nil] at hstart ⊢
    have hauthority := authority_eq hu hp
    have hne : c.authority.toList ≠ [] := by
      rw [hauthority]
      simp
    rw [userStart_eq_zero] at hstart ⊢
    unfold mask replaceAll
    rw [if_neg (by simpa using hne), String.toList_ofList]
    have hshown : (c.username ++ ":XXXXXX@").toList = c.username.toList ++ ":XXXXXX@".toList :=
      String.toList_append
    obtain ⟨u, us, husername⟩ := List.exists_cons_of_ne_nil (mt String.toList_eq_nil_iff.mp hu)
    have hpair : c.username.toList.IsChain fun d e => ¬ (d = '/' ∧ e = '/') := by
      rw [hurl, List.nil_append, hauthority] at hstart
      exact hstart.left_of_append.left_of_append
    refine isChain_replaceFrom hne ?_ ?_ ?_ hstart 0
    · rw [hshown, hauthority, husername]
      rfl
    · rw [hshown]
      simp
    · rw [hshown, List.isChain_append]
      refine ⟨hpair, by decide, fun d _ e he heq => ?_⟩
      obtain rfl : ':' = e := by simpa using he
      exact absurd heq.2 (by decide)
  · rw [exists_toList_mask hurl hat hu hp]
    rw [hurl] at hstart
    exact userStart_append hstart hnil _

/-- Masking the shared credentials of a URL hides their password. -/
lemma credentials?_mask {url : String} {c : Credentials} (h : Carries url c) (hu : c.username ≠ "")
    (hp : c.password ≠ "") (hat : '@' ∉ c.username.toList) (hcolon : ':' ∉ c.username.toList) :
    credentials? (mask url c.username c.authority) = some ⟨c.username, "XXXXXX"⟩ := by
  obtain ⟨start, rest, hurl, hstart, hat'⟩ := h
  have hlist := exists_toList_mask hurl hat' hu hp
  have hinfo : userInfo? (mask url c.username c.authority).toList =
      some (c.username.toList ++ ':' :: "XXXXXX".toList) := by
    have hstart' := userStart_mask hurl hstart hat' hu hp
    rw [hlist] at hstart' ⊢
    rw [userInfo?_append hstart' hat' (by simp), takeWhile_append_of_not_mem hat]
    simp
  rw [credentials?_of_userInfo? hinfo hcolon, String.ofList_toList, String.ofList_toList]

/-- What is read off a URL that carries shared credentials ends with them, if not before. -/
lemma userInfo?_of_carries {url : String} {c : Credentials} (h : Carries url c)
    (hu : c.username ≠ "") :
    userInfo? url.toList = some (c.authority.toList.takeWhile (· != '@')) := by
  obtain ⟨start, rest, hurl, hstart, hat⟩ := h
  have hmem : '@' ∈ c.authority.toList := by
    unfold Credentials.authority
    rw [if_neg (by simpa using hu)]
    simp
  rw [hurl] at hstart ⊢
  rw [userInfo?_append hstart hat (List.mem_append_left _ hmem), takeWhile_append_of_mem hmem]

/-- Shared credentials by which a URL is read to have a password have one themselves, and a user
name without `@`. -/
lemma shared_of_carries {url : String} {c cr : Credentials} (h : Carries url c)
    (hu : c.username ≠ "") (hcolon : ':' ∉ c.username.toList) (hcr : credentials? url = some cr)
    (hp : cr.password ≠ "") : c.password ≠ "" ∧ '@' ∉ c.username.toList := by
  obtain ⟨hinfo, -⟩ := userInfo?_of_credentials? hcr hp
  have hmem : ':' ∈ c.authority.toList.takeWhile (· != '@') := by
    rw [userInfo?_of_carries h hu, Option.some.injEq] at hinfo
    simp [hinfo]
  unfold Credentials.authority at hmem
  rw [if_neg (by simpa using hu)] at hmem
  constructor
  · intro hempty
    have := (List.takeWhile_prefix _).mem hmem
    simp [hempty, hcolon] at this
  · intro hat
    rw [String.toList_append, String.toList_append, List.append_assoc,
      takeWhile_append_of_mem hat] at hmem
    exact hcolon ((List.takeWhile_prefix _).mem hmem)

/-- Credentials are read off a URL exactly when it has an `@`. -/
lemma credentials?_eq_none_iff {url : String} : credentials? url = none ↔ '@' ∉ url.toList := by
  unfold credentials? userInfo?
  simp

lemma embed_of_mem {url authority : String} (hat : '@' ∈ url.toList) :
    embed url authority = url := by
  unfold embed
  rw [if_pos (by simp [hat])]

end Url

/-! ## Endpoints -/

/-- An endpoint as a pool opens it: its client is connected with the URL into which the shared
credentials are written, and it is displayed with their password masked. -/
structure Endpoint.OpenedAt (s : Settings) (server : String) (e : Endpoint) : Prop where
  url : e.client.url = Url.embed server s.credentials.authority
  display : e.display = Url.mask e.client.url s.username s.credentials.authority

section Opening

variable {s : Settings} {encryption : Option (String → Action Value)} {w w' : World}

lemma openedAt_of_openEndpoint {server : String} {e : Endpoint}
    (h : exec (Pool.openEndpoint s encryption server) w = (.ok e, w')) : e.OpenedAt s server := by
  rw [openEndpoint_eq] at h
  obtain ⟨options, w₁, -, h⟩ := exec_bind_eq_ok h
  obtain ⟨client, w₂, hconnect, h⟩ := exec_bind_eq_ok h
  have hurl : client.url = Url.embed server s.credentials.authority := by
    rcases exec_connect (Url.embed server s.credentials.authority) options w₁ with
      ⟨f, -, hf⟩ | ⟨-, hok⟩
    · rw [hf] at hconnect
      cases hconnect
    · rw [hok] at hconnect
      cases hconnect
      rfl
  obtain rfl := Except.ok.inj (announce_eq h)
  exact ⟨hurl, by rw [hurl]⟩

/-- The endpoints of a pool are those of its settings, one for one. -/
lemma openedAt_of_openFrom {servers : List String} {opened endpoints : List Endpoint}
    (h : exec (Pool.openFrom s encryption opened servers) w = (.ok endpoints, w')) :
    ∃ made, endpoints = opened ++ made ∧
      List.Forall₂ (fun server e => Endpoint.OpenedAt s server e) servers made := by
  induction servers generalizing opened w with
  | nil =>
    cases h
    exact ⟨[], by simp, .nil⟩
  | cons server rest ih =>
    obtain ⟨e, w₁, hopen, hrest⟩ := openFrom_cons_eq_ok h
    obtain ⟨made, rfl, hmade⟩ := ih hrest
    exact ⟨e :: made, by simp, .cons (openedAt_of_openEndpoint hopen) hmade⟩

end Opening

/-- Some settings share their credentials with an endpoint.  Either the endpoint carries these
credentials, with a user name; or it carries none, and the place where they are written into it is
the one where the credentials of a URL are read, as far as their first colon. -/
def Settings.SharesCredentials (s : Settings) (server : String) : Prop :=
  (Url.credentials? server = some s.credentials ∧ s.username ≠ "") ∨
    ('@' ∉ server.toList ∧ ':' ∉ s.username.toList ∧
      ∀ before after, cut? [':', '/', '/'] server.toList = some (before, after) →
        Url.userStart server.toList = before.length + 3)

/-- The connected URL of an endpoint that shares the credentials of its settings carries them, if it
is read to have a password at all. -/
lemma Endpoint.OpenedAt.carries {s : Settings} {server : String} {e : Endpoint}
    (h : e.OpenedAt s server) (hs : s.SharesCredentials server) {cr : Credentials}
    (hcr : Url.credentials? e.client.url = some cr) (hp : cr.password ≠ "") :
    s.username ≠ "" ∧ ':' ∉ s.username.toList ∧ Url.Carries e.client.url s.credentials := by
  have hsome : '@' ∈ e.client.url.toList := by
    by_contra hat
    rw [Url.credentials?_eq_none_iff.mpr hat] at hcr
    cases hcr
  rcases hs with ⟨hown, hu⟩ | ⟨hat, hcolon, hscheme⟩
  · have hmem : '@' ∈ server.toList := by
      by_contra hat
      rw [Url.credentials?_eq_none_iff.mpr hat] at hown
      cases hown
    rw [h.url, Url.embed_of_mem hmem] at hcr ⊢
    obtain rfl : s.credentials = cr := Option.some.inj (hown.symm.trans hcr)
    exact ⟨hu, (Url.userInfo?_of_credentials? hown hp).2, Url.carries_of_credentials? hown hu hp⟩
  · -- Without a user name, or without a place for it, nothing would be written into the URL.
    have hu : s.username ≠ "" := by
      intro hempty
      have hnone : s.credentials.authority = "" := by
        simp [Credentials.authority, Settings.credentials, hempty]
      rw [h.url, hnone] at hsome
      simp [Url.embed, hat] at hsome
    cases hcut : cut? [':', '/', '/'] server.toList with
    | none =>
      rw [h.url, Url.embed, hcut] at hsome
      exact absurd hsome (by split <;> exact hat)
    | some pair =>
      obtain ⟨before, after⟩ := pair
      rw [h.url]
      exact ⟨hu, hcolon, Url.carries_embed hat hu hcut (hscheme before after hcut)⟩

namespace Pool

/-- Whatever the settings, the encryption and the faults of the store: a pool that was opened has an
endpoint for every server of its settings, and where the server shares the credentials of the
settings, the URL for display shows no password. -/
theorem password_masked {s : Settings} {encryption : Option (String → Action Value)} {w w' : World}
    {p : Pool} (h : exec (Pool.create s encryption) w = (.ok p, w')) :
    p.endpoints.length = s.endpoints.length ∧
      ∀ server e, (server, e) ∈ s.endpoints.zip p.endpoints → s.SharesCredentials server →
        ∀ cr, Url.credentials? e.client.url = some cr → cr.password ≠ "" →
          Url.credentials? e.display = some ⟨s.username, "XXXXXX"⟩ := by
  unfold Pool.create at h
  obtain ⟨endpoints, w₁, hopen, h⟩ := exec_bind_eq_ok h
  cases h
  obtain ⟨made, rfl, hmade⟩ := openedAt_of_openFrom hopen
  obtain ⟨hlength, hzip⟩ := List.forall₂_iff_zip.mp hmade
  refine ⟨hlength.symm, fun server e he hs cr hcr hp => ?_⟩
  have hopened := hzip he
  obtain ⟨hu, hcolon, hcarries⟩ := hopened.carries hs hcr hp
  obtain ⟨hpassword, hat⟩ := Url.shared_of_carries hcarries hu hcolon hcr hp
  rw [hopened.display]
  exact Url.credentials?_mask hcarries hu hpassword hat hcolon

/-- Settings of which the first server carries the credentials and the second none. -/
def sharedPair : Settings :=
  { url := "mongodb://u:p@h1|mongodb://h2", username := "u", password := "p" }

/-- The second endpoint is connected with the password of the first, and does not show it. -/
theorem password_masked_sharedPair :
    ∃ p w' e, exec (create sharedPair none) {} = (.ok p, w') ∧ p.endpoints[1]? = some e ∧
      Url.credentials? e.client.url = some ⟨"u", "p"⟩ ∧
      Url.credentials? e.display = some ⟨"u", "XXXXXX"⟩ := by
  have hurls : (exec (create sharedPair none) {}).1.toOption.map
      (fun p => p.endpoints.map fun e => e.client.url) =
        some ["mongodb://u:p@h1", "mongodb://u:p@h2"] := by decide +kernel
  have hservers : sharedPair.endpoints = ["mongodb://u:p@h1", "mongodb://h2"] := by decide +kernel
  have hcut : cut? [':', '/', '/'] "mongodb://h2".toList =
      some ("mongodb".toList, "h2".toList) := by
    decide +kernel
  have hstart : Url.userStart "mongodb://h2".toList = 10 := by decide +kernel
  have hshares : sharedPair.SharesCredentials "mongodb://h2" := by
    refine .inr ⟨by decide +kernel, by decide +kernel, fun before after h => ?_⟩
    rw [hcut] at h
    cases h
    exact hstart
  have hread : Url.credentials? "mongodb://u:p@h2" = some ⟨"u", "p"⟩ := by decide +kernel
  cases hmade : exec (create sharedPair none) {} with
  | mk r w' =>
    rw [hmade] at hurls
    cases r with
    | error f => cases hurls
    | ok p =>
      have hurls' : p.endpoints.map (fun e => e.client.url) =
          ["mongodb://u:p@h1", "mongodb://u:p@h2"] := Option.some.inj hurls
      obtain ⟨e₁, rest, hp, -, hrest⟩ := List.map_eq_cons_iff.mp hurls'
      obtain ⟨e₂, rest', rfl, hurl, -⟩ := List.map_eq_cons_iff.mp hrest
      have hcr : Url.credentials? e₂.client.url = some ⟨"u", "p"⟩ := hurl ▸ hread
      refine ⟨p, w', e₂, rfl, by rw [hp]; rfl, hcr, ?_⟩
      exact (password_masked hmade).2 "mongodb://h2" e₂ (by rw [hservers, hp]; simp) hshares
        ⟨"u", "p"⟩ hcr (by decide)

/-- The credentials read off the URLs with which the endpoints of a pool are connected, and off
those that it displays. -/
def shownCredentials (p : Pool) : List (Option Credentials × Option Credentials) :=
  p.endpoints.map fun e => (Url.credentials? e.client.url, Url.credentials? e.display)

/-- An endpoint with credentials of its own, other than those of the first one, shows its password,
and so do endpoints without a user name. -/
theorem password_shown_of_other_credentials :
    (({} : Harness).acquire "p" [("mongodb.url",
        .text "mongodb://u1:p1@h1|mongodb://u2:p2@h2|mongodb://:p3@h3")]).2.contexts.map
          (fun c => shownCredentials c.pool) =
      [[(some ⟨"u1", "p1"⟩, some ⟨"u1", "XXXXXX"⟩), (some ⟨"u2", "p2"⟩, some ⟨"u2", "p2"⟩),
        (some ⟨"", "p3"⟩, some ⟨"", "p3"⟩)]] := by
  decide +kernel

end Pool

end LoadBinding
