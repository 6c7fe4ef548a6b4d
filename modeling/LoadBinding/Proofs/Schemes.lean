import LoadBinding.Proofs.UserInfo

/-!
# Endpoints with and without a scheme

An endpoint is a full URL with one of two schemes, or else a host.  A pool looks at the scheme with
its `://` (`Url.isFull`); the client of the key vault is given a URL that is made full by a look at
the first letters alone (`Url.withScheme`).

Both look at the endpoint with its credentials written into it.  This changes neither answer: the
scheme of a URL is what stands before its first `://` (`Url.scheme?`), and credentials are written
behind it (`scheme?_embed`, `prefix_embed_iff`).  So whether the two agree can be told from the
endpoint as it was configured, whatever the credentials are (`withScheme_embed_iff`).  They agree
unless a host begins with the name of the scheme.
-/

namespace LoadBinding.Url

open LoadBinding.Text

/-! ## The scheme of a URL -/

/-- What stands before the first `://` of a URL, if there is one. -/
def scheme? (url : List Char) : Option (List Char) :=
  (cut? [':', '/', '/'] url).map Prod.fst

/-- A URL begins with a scheme and `://` exactly if this is its scheme. -/
lemma scheme?_eq_some_iff {url name : List Char} (hname : '/' ∉ name) :
    scheme? url = some name ↔ name ++ [':', '/', '/'] <+: url := by
  constructor
  · intro h
    obtain ⟨⟨before, after⟩, hcut, rfl⟩ := Option.map_eq_some_iff.mp h
    exact ⟨after, (eq_of_cut? hcut).symm⟩
  · rintro ⟨after, rfl⟩
    rw [scheme?, cut?_of_scheme hname]
    rfl

/-- The schemes of full URLs. -/
def fullSchemes : List (List Char) :=
  ["mongodb".toList, "mongodb+srv".toList]

lemma isFull_iff {url : String} :
    isFull url = true ↔ ∃ name ∈ fullSchemes, scheme? url.toList = some name := by
  have hplain : '/' ∉ "mongodb".toList := by decide
  have hsrv : '/' ∉ "mongodb+srv".toList := by decide
  unfold isFull fullSchemes
  rw [Bool.or_eq_true, List.isPrefixOf_iff_prefix, List.isPrefixOf_iff_prefix]
  constructor
  · rintro (h | h)
    · exact ⟨_, by simp, (scheme?_eq_some_iff hplain).mpr h⟩
    · exact ⟨_, by simp, (scheme?_eq_some_iff hsrv).mpr h⟩
  · rintro ⟨name, hmem, hscheme⟩
    rcases List.mem_pair.mp hmem with rfl | rfl
    · left
      exact (scheme?_eq_some_iff hplain).mp hscheme
    · right
      exact (scheme?_eq_some_iff hsrv).mp hscheme

/-! ## Writing credentials into a URL -/

/-- Credentials are written behind the first `://` of a URL, or not at all. -/
lemma embed_cases (url authority : String) :
    embed url authority = url ∨ ∃ before after,
      cut? [':', '/', '/'] url.toList = some (before, after) ∧
        (embed url authority).toList =
          before ++ [':', '/', '/'] ++ (authority.toList ++ after) := by
  unfold embed
  split
  · left
    rfl
  · cases hcut : cut? [':', '/', '/'] url.toList with
    | none =>
      left
      rfl
    | some parts =>
      right
      refine ⟨parts.1, parts.2, rfl, ?_⟩
      simp

/-- The scheme stays what it is. -/
lemma scheme?_embed (url authority : String) :
    scheme? (embed url authority).toList = scheme? url.toList := by
  rcases embed_cases url authority with h | ⟨before, after, hcut, h⟩
  · rw [h]
  · unfold scheme?
    rw [h, cut?_append_of_cut? (by simp) hcut, hcut]
    rfl

lemma isFull_embed (url authority : String) : isFull (embed url authority) = isFull url := by
  rw [Bool.eq_iff_iff, isFull_iff, isFull_iff, scheme?_embed]

/-- A beginning that ends before some character does not depend on what follows it. -/
lemma prefix_append_cons_iff {c : Char} {start before tail : List Char} (hc : c ∉ start) :
    start <+: before ++ c :: tail ↔ start <+: before := by
  constructor
  · intro h
    rcases le_or_gt start.length before.length with hle | hlt
    · exact List.prefix_of_prefix_length_le h (List.prefix_append _ _) hle
    · have hbefore : before ++ [c] <+: before ++ c :: tail := ⟨tail, by simp⟩
      have hlonger : before ++ [c] <+: start :=
        List.prefix_of_prefix_length_le hbefore h (by simpa using hlt)
      exact absurd (hlonger.subset (by simp)) hc
  · intro h
    exact h.trans (List.prefix_append _ _)

/-- So do the letters that a URL begins with, up to the `://`. -/
lemma prefix_embed_iff {start : List Char} (hstart : ':' ∉ start) (url authority : String) :
    start <+: (embed url authority).toList ↔ start <+: url.toList := by
  rcases embed_cases url authority with h | ⟨before, after, hcut, h⟩
  · rw [h]
  · rw [h, eq_of_cut? hcut, List.append_assoc, List.append_assoc]
    exact (prefix_append_cons_iff hstart).trans (prefix_append_cons_iff hstart).symm

/-! ## Making a URL full -/

lemma withScheme_of_begins {url : String} (h : "mongodb".toList <+: url.toList) :
    withScheme url = url := by
  rw [withScheme, if_pos (List.isPrefixOf_iff_prefix.mpr h)]

lemma withScheme_of_not_begins {url : String} (h : ¬ "mongodb".toList <+: url.toList) :
    withScheme url = "mongodb://" ++ url := by
  rw [withScheme, if_neg fun hp => h (List.isPrefixOf_iff_prefix.mp hp)]

/-- What has been given a scheme is longer than before. -/
lemma scheme_append_ne (url : String) : "mongodb://" ++ url ≠ url := by
  intro h
  have hlength := congrArg String.length h
  rw [String.length_append] at hlength
  have : "mongodb://".length = 10 := by decide
  omega

lemma isFull_scheme_append (url : String) : isFull ("mongodb://" ++ url) = true := by
  rw [isFull_iff]
  refine ⟨"mongodb".toList, by simp [fullSchemes], (scheme?_eq_some_iff (by decide)).mpr ?_⟩
  rw [String.toList_append]
  exact List.prefix_append _ _

/-- The schemes of full URLs begin with the name of the first. -/
lemma prefix_of_isFull {url : String} (h : isFull url = true) :
    "mongodb".toList <+: url.toList := by
  obtain ⟨name, hmem, hscheme⟩ := isFull_iff.mp h
  rcases List.mem_pair.mp hmem with rfl | rfl
  · exact (List.prefix_append _ _).trans ((scheme?_eq_some_iff (by decide)).mp hscheme)
  · refine .trans ?_ ((scheme?_eq_some_iff (by decide)).mp hscheme)
    exact ⟨"+srv://".toList, by decide⟩

/-- For an endpoint with credentials written into it, the following holds exactly if the endpoint
is a full URL or does not begin with the name of the scheme: the URL that is made of it is always
full, it is the endpoint itself if and only if the endpoint is full, and otherwise it has the first
scheme in front. -/
theorem withScheme_embed_iff (server authority : String) :
    (isFull (withScheme (embed server authority)) = true ∧
      (withScheme (embed server authority) = embed server authority ↔
        isFull (embed server authority) = true) ∧
      (isFull (embed server authority) = false →
        withScheme (embed server authority) = "mongodb://" ++ embed server authority)) ↔
    ("mongodb".toList <+: server.toList → isFull server = true) := by
  have hcolon : ':' ∉ "mongodb".toList := by decide
  have hprefix := prefix_embed_iff hcolon server authority
  rw [← isFull_embed server authority, ← hprefix]
  generalize embed server authority = url
  by_cases h : "mongodb".toList <+: url.toList
  · rw [withScheme_of_begins h]
    constructor
    · intro hagree _
      exact hagree.1
    · intro hfull
      refine ⟨hfull h, iff_of_true rfl (hfull h), fun hnot => ?_⟩
      rw [hfull h] at hnot
      cases hnot
  · rw [withScheme_of_not_begins h]
    constructor
    · intro _ hp
      exact absurd hp h
    · intro _
      refine ⟨isFull_scheme_append url, ?_, fun _ => rfl⟩
      exact iff_of_false (scheme_append_ne url) fun hfull => h (prefix_of_isFull hfull)

/-- A host whose name begins like the scheme is taken for a full URL, which it is not. -/
theorem withScheme_keeps_host :
    isFull (embed "mongodb1:27017" "u:p@") = false ∧
      withScheme (embed "mongodb1:27017" "u:p@") = embed "mongodb1:27017" "u:p@" ∧
      isFull (withScheme (embed "mongodb1:27017" "u:p@")) = false := by
  decide

end LoadBinding.Url
