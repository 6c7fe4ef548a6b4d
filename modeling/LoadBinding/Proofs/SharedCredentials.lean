import LoadBinding.Proofs.Calls
import LoadBinding.Proofs.Credentials
import LoadBinding.Proofs.Masking

/-!
# Credentials shared among endpoints

The credentials of the first endpoint that carries any are shared with the endpoints that carry
none.  Sharing writes them into a URL and does not change them: what is read off the URL with which
such an endpoint is connected are the credentials of the first endpoint, with an empty password as
with one that holds colons.  Endpoints with credentials of their own are connected with their URL as
it is (`Pool.credentials_shared`).

The credentials that are read off a URL can be told apart again once they are written down
(`Credentials.Separable`): the user name ends at the first colon, and both end before the first `@`.
This is what the round trip rests on.
-/

namespace LoadBinding

open LoadBinding.Text LoadBinding.Action World

/-! ## Reading back what was written -/

/-- Credentials that can be told apart in the text that is written for them. -/
structure Credentials.Separable (c : Credentials) : Prop where
  colon : ':' ∉ c.username.toList
  username : '@' ∉ c.username.toList
  password : '@' ∉ c.password.toList

namespace Url

variable {url : String} {c : Credentials}

/-- What is read off a URL can be told apart. -/
lemma separable_of_credentials? (h : credentials? url = some c) : c.Separable := by
  unfold credentials? at h
  obtain ⟨info, hinfo, rfl⟩ := Option.map_eq_some_iff.mp h
  have hat : '@' ∉ info := by
    unfold userInfo? at hinfo
    split at hinfo
    · cases hinfo
      exact fun hmem => not_mem_takeWhile '@' url.toList (List.mem_of_mem_drop hmem)
    · cases hinfo
  refine ⟨?_, ?_, ?_⟩
  · rw [String.toList_ofList]
    exact not_mem_takeWhile ':' info
  · rw [String.toList_ofList]
    exact fun hmem => hat ((List.takeWhile_prefix _).mem hmem)
  · rw [String.toList_ofList]
    exact fun hmem => hat ((List.dropWhile_suffix _).mem (List.mem_of_mem_drop hmem))

/-- The text that is written for credentials ends with its first `@`. -/
lemma takeWhile_authority (hc : c.Separable) (hu : c.username ≠ "") :
    c.authority.toList.takeWhile (· != '@') =
      c.username.toList ++ if c.password.isEmpty then [] else ':' :: c.password.toList := by
  have hnone : '@' ∉ c.username.toList ++
      if c.password.isEmpty then [] else ':' :: c.password.toList := by
    split
    · simpa using hc.username
    · simpa using ⟨hc.username, hc.password⟩
  have hauthority : c.authority.toList = (c.username.toList ++
      if c.password.isEmpty then [] else ':' :: c.password.toList) ++ ['@'] := by
    unfold Credentials.authority
    rw [if_neg (by simpa using hu)]
    split <;> simp [String.toList_append]
  rw [hauthority, takeWhile_append_of_not_mem hnone]
  simp

/-- A user name without a password is read up to its end. -/
lemma credentials?_of_userInfo?_username {username : List Char}
    (h : userInfo? url.toList = some username) (hcolon : ':' ∉ username) :
    credentials? url = some ⟨String.ofList username, ""⟩ := by
  have hall := bne_of_not_mem hcolon
  unfold credentials?
  rw [h, Option.map_some, List.takeWhile_eq_self_iff.mpr hall, List.dropWhile_eq_nil_iff.mpr hall]
  rfl

/-- Credentials that can be told apart are read off a URL that carries them. -/
lemma credentials?_of_carries (h : Carries url c) (hc : c.Separable) (hu : c.username ≠ "") :
    credentials? url = some c := by
  have hinfo := userInfo?_of_carries h hu
  rw [takeWhile_authority hc hu] at hinfo
  obtain ⟨username, password⟩ := c
  cases hempty : password.isEmpty with
  | true =>
    rw [hempty, if_pos rfl, List.append_nil] at hinfo
    obtain rfl : password = "" := by simpa using hempty
    rw [credentials?_of_userInfo?_username hinfo hc.colon, String.ofList_toList]
  | false =>
    rw [hempty, if_neg (by decide)] at hinfo
    rw [credentials?_of_userInfo? hinfo hc.colon, String.ofList_toList, String.ofList_toList]

/-- Credentials that were read off one URL and written into another are read off it again. -/
lemma credentials?_embed {server : String} (h : credentials? server = some c)
    (hu : c.username ≠ "") (hat : '@' ∉ url.toList) {before after : List Char}
    (hcut : cut? [':', '/', '/'] url.toList = some (before, after))
    (hscheme : userStart url.toList = before.length + 3) :
    credentials? (embed url c.authority) = some c :=
  credentials?_of_carries (carries_embed hat hu hcut hscheme) (separable_of_credentials? h) hu

/-- A URL with credentials of its own stays as it is. -/
lemma embed_of_credentials? (h : credentials? url ≠ none) (authority : String) :
    embed url authority = url := by
  refine embed_of_mem ?_
  by_contra hat
  exact h (credentials?_eq_none_iff.mpr hat)

end Url

/-! ## Opening a pool without faults -/

/-- Without faults the options of the encryption can be provided, and no faults come up. -/
def ProvidesOptions (encryption : Option (String → Action Value)) : Prop :=
  ∀ build, encryption = some build → ∀ url w, w.faults = [] →
    ∃ v w', exec (build url) w = (.ok v, w') ∧ w'.faults = []

section Opening

variable {s : Settings} {encryption : Option (String → Action Value)} {w : World}

lemma providesOptions_none : ProvidesOptions none :=
  nofun

lemma exists_endpointOptions (he : ProvidesOptions encryption) (url : String)
    (hf : w.faults = []) :
    ∃ options w', exec (endpointOptions s encryption url) w = (.ok options, w') ∧
      w'.faults = [] := by
  cases encryption with
  | none => exact ⟨_, _, rfl, hf⟩
  | some build =>
    obtain ⟨v, w', hbuild, hf'⟩ := he build rfl url w hf
    exact ⟨_, w', exec_bind_of_ok hbuild _, hf'⟩

lemma exists_connect (url : String) (options : Document) (hf : w.faults = []) :
    ∃ client w', exec (Client.connect url options) w = (.ok client, w') ∧ w'.faults = [] := by
  rcases exec_connect url options w with ⟨f, hfault, -⟩ | ⟨-, hok⟩
  · rw [hf] at hfault
    cases hfault
  · exact ⟨_, _, hok, hf⟩

lemma exists_announce (url : String) (client : Client) (hf : w.faults = []) :
    ∃ e w', exec (announce s url client) w = (.ok e, w') ∧ w'.faults = [] := by
  unfold announce
  dsimp only
  split
  · exact ⟨_, _, rfl, hf⟩
  · exact ⟨_, _, rfl, hf⟩

lemma exists_openEndpoint (he : ProvidesOptions encryption) (server : String) (hf : w.faults = []) :
    ∃ e w', exec (Pool.openEndpoint s encryption server) w = (.ok e, w') ∧ w'.faults = [] := by
  set url := Url.embed server s.credentials.authority with hurl
  obtain ⟨options, w₁, hoptions, hf₁⟩ := exists_endpointOptions (s := s) he url hf
  obtain ⟨client, w₂, hconnect, hf₂⟩ := exists_connect url options hf₁
  obtain ⟨e, w₃, hannounce, hf₃⟩ := exists_announce (s := s) url client hf₂
  refine ⟨e, w₃, ?_, hf₃⟩
  rw [openEndpoint_eq]
  dsimp only
  rw [exec_bind_of_ok hoptions, exec_bind_of_ok hconnect, hannounce]

lemma exists_openFrom (he : ProvidesOptions encryption) (opened : List Endpoint)
    (servers : List String) (hf : w.faults = []) :
    ∃ endpoints w', exec (Pool.openFrom s encryption opened servers) w = (.ok endpoints, w') := by
  induction servers generalizing opened w with
  | nil => exact ⟨opened, w, rfl⟩
  | cons server rest ih =>
    have hoptions : ProvidesOptions (if opened.isEmpty then encryption else none) := by
      split
      · exact he
      · exact providesOptions_none
    obtain ⟨e, w₁, hopen, hf₁⟩ := exists_openEndpoint (s := s) hoptions server hf
    obtain ⟨endpoints, w', hrest⟩ := ih (opened ++ [e]) hf₁
    exact ⟨endpoints, w', (openFrom_of_ok hopen rest).trans hrest⟩

/-- Without faults a pool is opened. -/
lemma exists_create (he : ProvidesOptions encryption) (hf : w.faults = []) :
    ∃ p w', exec (Pool.create s encryption) w = (.ok p, w') := by
  obtain ⟨endpoints, w', hopen⟩ := exists_openFrom (s := s) he [] s.endpoints hf
  exact ⟨_, w', exec_bind_of_ok hopen _⟩

end Opening

/-! ## Sharing credentials -/

/-- An endpoint with credentials of its own is connected with its URL as it is; and an endpoint
without any, which has a `://` and no `//` before it, is connected with a URL off which the shared
credentials are read. -/
structure Endpoint.Shares (c : Credentials) (server : String) (e : Endpoint) : Prop where
  own : Url.credentials? server ≠ none → e.client.url = server
  shared : '@' ∉ server.toList → ∀ before after,
    cut? [':', '/', '/'] server.toList = some (before, after) →
      Url.userStart server.toList = before.length + 3 → Url.credentials? e.client.url = some c

namespace Pool

variable {bag : Bag} {s : Settings} {urls : String} {c : Credentials}

/-- Settings whose URL has an endpoint with credentials and a user name share these with every
endpoint that has none, and as they are: the pool that is opened on the settings has one endpoint
for each one of the URL, in their order, and without faults it is opened. -/
theorem credentials_shared (hs : (Settings.resolve bag).1 = .ok s)
    (hurl : bag.get? "mongodb.url" = some (.text urls))
    (hfirst : Url.firstCredentials? urls = some c) (hu : c.username ≠ "")
    (encryption : Option (String → Action Value)) (w : World) :
    (ProvidesOptions encryption → w.faults = [] →
      ∃ p w', exec (create s encryption) w = (.ok p, w')) ∧
    ∀ p w', exec (create s encryption) w = (.ok p, w') →
      List.Forall₂ (Endpoint.Shares c) (Url.endpoints urls) p.endpoints := by
  have hused : s.url = urls := (Value.text.inj (Settings.url_of_get? hs hurl)).symm
  have hcredentials : s.credentials = c := by
    have hname : bag.get? "mongodb.url" ≠ none := by
      rw [hurl]
      exact Option.some_ne_none _
    have hgiven := Settings.endpointCredentials?_eq hs (.inl hname)
    rw [(Settings.texts_of_resolve hs).2, hgiven, hused, hfirst]
    rfl
  obtain ⟨server₀, -, hserver₀⟩ := List.exists_of_findSome?_eq_some hfirst
  refine ⟨exists_create, fun p w' h => ?_⟩
  unfold create at h
  obtain ⟨endpoints, w₁, hopen, h⟩ := exec_bind_eq_ok h
  cases h
  obtain ⟨made, rfl, hmade⟩ := openedAt_of_openFrom hopen
  rw [Settings.endpoints, hused] at hmade
  refine hmade.imp fun server e he => ⟨fun hown => ?_, fun hat before after hcut hscheme => ?_⟩
  · rw [he.url, Url.embed_of_credentials? hown]
  · rw [he.url, hcredentials]
    exact Url.credentials?_embed hserver₀ hu hat hcut hscheme

/-- Three endpoints, the second and the third with credentials; the password of the second holds a
colon. -/
def mixedUrls : String :=
  "mongodb://h1| mongodb://u:p:q@h2 |x:y@h3"

/-- The first endpoint is connected with the credentials of the second, and the others with their
own. -/
theorem credentials_shared_mixedUrls :
    ∃ s p w' e₁ e₂ e₃, (Settings.resolve [("mongodb.url", .text mixedUrls)]).1 = .ok s ∧
      exec (create s none) {} = (.ok p, w') ∧ p.endpoints = [e₁, e₂, e₃] ∧
      Url.credentials? e₁.client.url = some ⟨"u", "p:q"⟩ ∧
      e₂.client.url = "mongodb://u:p:q@h2" ∧ e₃.client.url = "x:y@h3" := by
  have hsome : (Settings.resolve [("mongodb.url", .text mixedUrls)]).1.value?.isSome = true := by
    decide +kernel
  cases hs : (Settings.resolve [("mongodb.url", .text mixedUrls)]).1 with
  | refused problems =>
    rw [hs] at hsome
    cases hsome
  | ok s =>
    obtain ⟨hopens, hshares⟩ := credentials_shared (c := ⟨"u", "p:q"⟩) hs rfl (by decide +kernel)
      (by decide) none {}
    obtain ⟨p, w', hp⟩ := hopens providesOptions_none rfl
    have hall := hshares p w' hp
    have hendpoints : Url.endpoints mixedUrls =
        ["mongodb://h1", "mongodb://u:p:q@h2", "x:y@h3"] := by
      decide +kernel
    rw [hendpoints] at hall
    obtain ⟨e₁, rest₁, h₁, hall₁, hpool⟩ := List.forall₂_cons_left_iff.mp hall
    obtain ⟨e₂, rest₂, h₂, hall₂, rfl⟩ := List.forall₂_cons_left_iff.mp hall₁
    obtain ⟨e₃, rest₃, h₃, hall₃, rfl⟩ := List.forall₂_cons_left_iff.mp hall₂
    obtain rfl := List.forall₂_nil_left_iff.mp hall₃
    have hshared := h₁.shared (by decide) "mongodb".toList "h1".toList (by decide +kernel)
      (by decide +kernel)
    exact ⟨s, p, w', e₁, e₂, e₃, rfl, hp, hpool, hshared, h₂.own (by decide +kernel),
      h₃.own (by decide +kernel)⟩

end Pool

end LoadBinding
