import Mathlib
import LoadBinding.Settings.Resolve

/-!
# What resolved settings satisfy

Settings that were resolved from a property bag satisfy what the rest of the library relies on
without checking it again: their numbers are within bounds (`Settings.InBounds`), and there is an
endpoint.

Every setting is read for itself.  Bags that differ in one setting alone (`Settings.AgreeBut`) are
therefore resolved alike but for this setting, and a bag that is accepted stays so when the setting
is given another value that can be read.
-/

namespace LoadBinding

namespace Reading

variable {α β : Type}

/-- What was read, if it was not refused. -/
def value? : Reading α → Option α
  | .ok x => some x
  | .refused _ => none

@[simp]
lemma value?_ok (x : α) : (Reading.ok x).value? = some x :=
  rfl

lemma exists_of_map_value? {r : Reading α} {f : α → β} {y : β} (h : r.value?.map f = some y) :
    ∃ x, r = .ok x ∧ f x = y := by
  cases r with
  | refused _ => cases h
  | ok x => exact ⟨x, rfl, Option.some.inj h⟩

/-- Whatever a reading yields has a property. -/
def Yields (P : α → Prop) (r : Reading α) : Prop :=
  ∀ x, r = .ok x → P x

/-- A reading that is applied to another yields a value of the first at a value of the second. -/
lemma yields_and {P : β → Prop} {Q : α → Prop} {f : Reading (α → β)} {a : Reading α}
    (hf : Yields (fun g => ∀ x, Q x → P (g x)) f) (ha : Yields Q a) : Yields P (f.and a) := by
  intro y h
  cases f with
  | refused _ => cases a <;> cases h
  | ok g =>
    cases a with
    | refused _ => cases h
    | ok x =>
      cases h
      exact hf g rfl x (ha x rfl)

/-- A property that does not depend on what was read last. -/
lemma yields_and_left {P : β → Prop} {f : Reading (α → β)} {a : Reading α}
    (hf : Yields (fun g => ∀ x, P (g x)) f) : Yields P (f.and a) :=
  yields_and (Q := fun _ => True) (fun g hg x _ => hf g hg x) fun _ _ => trivial

/-- A setting that was read is the default or was converted from a value of the bag. -/
lemma yields_scalar {P : α → Prop} {convert : Value → Except Flaw α} {missing : α}
    (hmissing : P missing) (hconvert : ∀ v x, convert v = .ok x → P x) (bag : Bag)
    (property short : String) : Yields P (scalar convert missing bag property short) := by
  intro x h
  unfold scalar at h
  split at h
  · cases h
    exact hmissing
  · rename_i v _
    split at h
    · rename_i hv
      cases h
      exact hconvert v x hv
    · cases h

/-- Whatever two readings yield is related. -/
def Relates (R : α → α → Prop) (r r' : Reading α) : Prop :=
  ∀ x x', r = .ok x → r' = .ok x' → R x x'

/-- Readings that go on in the same way stay related. -/
lemma relates_and {R : β → β → Prop} {f f' : Reading (α → β)} {a : Reading α}
    (hf : Relates (fun g g' => ∀ x, R (g x) (g' x)) f f') : Relates R (f.and a) (f'.and a) := by
  intro y y' h h'
  cases a with
  | refused _ => cases f <;> cases h
  | ok x =>
    cases f with
    | refused _ => cases h
    | ok g =>
      cases f' with
      | refused _ => cases h'
      | ok g' =>
        cases h
        cases h'
        exact hf g g' rfl rfl x

/-- Readings that differ in what was read last alone. -/
lemma relates_and_last {R : β → β → Prop} {f : Reading (α → β)} {a a' : Reading α}
    (hf : Yields (fun g => ∀ x x', R (g x) (g x')) f) : Relates R (f.and a) (f.and a') := by
  intro y y' h h'
  cases f with
  | refused _ => cases a <;> cases h
  | ok g =>
    cases a with
    | refused _ => cases h
    | ok x =>
      cases a' with
      | refused _ => cases h'
      | ok x' =>
        cases h
        cases h'
        exact hf g rfl x x'

/-- When the first of two readings yields a value, the second yields one that is related to it. -/
def Follows (R : α → α → Prop) (r r' : Reading α) : Prop :=
  ∀ x, r = .ok x → ∃ x', r' = .ok x' ∧ R x x'

/-- Readings that go on in the same way keep following each other. -/
lemma follows_and {R : β → β → Prop} {f f' : Reading (α → β)} {a : Reading α}
    (hf : Follows (fun g g' => ∀ x, R (g x) (g' x)) f f') : Follows R (f.and a) (f'.and a) := by
  intro y h
  cases f with
  | refused _ => cases a <;> cases h
  | ok g =>
    obtain ⟨g', rfl, hg⟩ := hf g rfl
    cases a with
    | refused _ => cases h
    | ok x =>
      cases h
      exact ⟨g' x, rfl, hg x⟩

/-- Readings that differ in what is read last, where the second yields a value. -/
lemma follows_and_last {R : β → β → Prop} {f : Reading (α → β)} {a a' : Reading α} {x' : α}
    (hf : Yields (fun g => ∀ x, R (g x) (g x')) f) (ha' : a' = .ok x') :
    Follows R (f.and a) (f.and a') := by
  subst ha'
  intro y h
  cases f with
  | refused _ => cases a <;> cases h
  | ok g =>
    cases a with
    | refused _ => cases h
    | ok x =>
      cases h
      exact ⟨g x', rfl, hf g rfl x⟩

end Reading

namespace Convert

lemma le_of_integerFrom {bound n : ℤ} {v : Value} (h : integerFrom bound v = .ok n) :
    bound ≤ n := by
  unfold integerFrom at h
  split at h
  · split at h
    · cases h
    · cases h
      omega
  · cases h

lemma pos_of_positiveReal {x : Float} {v : Value} (h : positiveReal v = .ok x) : 0.0 < x := by
  unfold positiveReal at h
  split at h
  · split at h
    · rename_i hx
      cases h
      exact hx
    · cases h
  · cases h

end Convert

namespace Settings

variable {bag : Bag} {s : Settings}

/-- The numbers among some settings are within the bounds that are checked when they are read. -/
structure InBounds (s : Settings) : Prop where
  batchSize : 1 ≤ s.batchSize
  compressibility : 0.0 < s.compressibility
  threadCount : 1 ≤ s.threadCount
  encryptedFields : 0 ≤ s.encryptedFields

open Reading in
lemma yields_read : Yields InBounds (read bag) := by
  have hinteger {bound missing : ℤ} (hmissing : bound ≤ missing) (property short : String) :
      Yields (fun n => bound ≤ n)
        (scalar (Convert.integerFrom bound) missing bag property short) :=
    yields_scalar hmissing (fun _ _ => Convert.le_of_integerFrom) bag property short
  have hreal : Yields (fun x : Float => 0.0 < x)
      (scalar Convert.positiveReal ({} : Settings).compressibility bag "compressibility"
        "compressibility") :=
    yields_scalar (by decide) (fun _ _ => Convert.pos_of_positiveReal) bag _ _
  unfold read
  -- The settings are read in order: ten come before the size of a batch, one between this and the
  -- ratio, four between the number of threads and that of the encrypted fields, and four after.
  iterate 4 refine yields_and_left ?_
  refine yields_and ?_ (hinteger (by decide) _ _)
  iterate 4 refine yields_and_left ?_
  refine yields_and ?_ (hinteger (by decide) _ _)
  refine yields_and ?_ hreal
  refine yields_and_left ?_
  refine yields_and ?_ (hinteger le_rfl _ _)
  iterate 10 refine yields_and_left ?_
  rintro _ ⟨⟩ _ _ _ _ _ _ _ _ _ _ batchSize hbatchSize _ ratio hratio threads hthreads _ _ _ _
    fields hfields
  intros
  exact ⟨hbatchSize, hratio, hthreads, hfields⟩

/-- Settings are only accepted if they were read and break no rule. -/
lemma of_validate (h : validate bag = .ok s) :
    read bag = .ok s ∧ s.conflict? = none := by
  unfold validate at h
  split at h
  · cases h
  · rename_i s' hread
    split at h
    · rename_i hc
      cases h
      exact ⟨hread, hc⟩
    · cases h

lemma inBounds (h : (resolve bag).1 = .ok s) : s.InBounds :=
  yields_read s (of_validate h).1

lemma one_le_batchSize (h : (resolve bag).1 = .ok s) :
    1 ≤ s.batchSize :=
  (inBounds h).batchSize

/-- Accepted settings name an endpoint. -/
lemma endpoints_ne_nil (h : (resolve bag).1 = .ok s) :
    s.endpoints ≠ [] := by
  intro hnil
  have hc := (of_validate h).2
  unfold conflict? at hc
  rw [hnil] at hc
  split_ifs at hc with _ _ hne
  exact hne rfl

/-! ## Bags that differ in one setting -/

/-- Two bags agree on everything but one setting, which has two names. -/
def AgreeBut (property short : String) (bag bag' : Bag) : Prop :=
  ∀ key, key ≠ property → key ≠ short → bag.get? key = bag'.get? key

/-- Bags that begin with a setting agree on everything else if their rest is the same. -/
lemma agreeBut_cons (property short : String) (bag : Bag) (v v' : Value) :
    AgreeBut property short ((property, v) :: bag) ((property, v') :: bag) := by
  intro key hkey _
  rw [Mapping.get?_cons, Mapping.get?_cons, if_neg (by simpa using hkey),
    if_neg (by simpa using hkey)]

/-- A bag in which a setting is replaced agrees with the bag on everything else. -/
lemma agreeBut_set (property short : String) (bag : Bag) (v : Value) :
    AgreeBut property short bag (bag.set property v) := by
  intro key hkey _
  rw [Mapping.get?_set, if_neg hkey]

/-- A setting whose names do not play a part in the resolution of credentials. -/
structure IsNoCredential (property short : String) : Prop where
  url : "mongodb.url" ≠ property ∧ "mongodb.url" ≠ short
  username : "mongodb.username" ≠ property ∧ "mongodb.username" ≠ short
  password : "mongodb.password" ≠ property ∧ "mongodb.password" ≠ short

variable {bag' : Bag} {s' : Settings} {property short : String}

section Agreeing

variable (h : AgreeBut property short bag bag')

include h

lemma find?_of_agree {property' short' : String} (hp : property' ≠ property ∧ property' ≠ short)
    (hs : short' ≠ property ∧ short' ≠ short) :
    Reading.find? bag property' short' = Reading.find? bag' property' short' := by
  unfold Reading.find?
  rw [h property' hp.1 hp.2, h short' hs.1 hs.2]

/-- Any other setting is read alike. -/
lemma scalar_of_agree {α : Type} (convert : Value → Except Flaw α) (missing : α)
    {property' short' : String} (hp : property' ≠ property ∧ property' ≠ short)
    (hs : short' ≠ property ∧ short' ≠ short) :
    Reading.scalar convert missing bag property' short' =
      Reading.scalar convert missing bag' property' short' := by
  unfold Reading.scalar
  rw [find?_of_agree h hp hs]

/-- Any other list is read alike. -/
lemma integers_of_agree (missing : ℤ) {property' short' : String}
    (hp : property' ≠ property ∧ property' ≠ short) (hs : short' ≠ property ∧ short' ≠ short) :
    Reading.integers missing bag property' short' =
      Reading.integers missing bag' property' short' := by
  unfold Reading.integers
  rw [find?_of_agree h hp hs]

lemma agree_set (key : String) (v : Value) :
    AgreeBut property short (bag.set key v) (bag'.set key v) := by
  intro other ho ho'
  rw [Mapping.get?_set, Mapping.get?_set, h other ho ho']

/-- The credentials of the endpoints are filled in alike, and reported alike. -/
lemma withEndpointCredentials_of_agree (hnames : IsNoCredential property short) :
    AgreeBut property short (withEndpointCredentials bag).1 (withEndpointCredentials bag').1 ∧
      (withEndpointCredentials bag).2 = (withEndpointCredentials bag').2 := by
  have hcredentials : endpointCredentials? bag = endpointCredentials? bag' := by
    unfold endpointCredentials?
    rw [h "mongodb.url" hnames.url.1 hnames.url.2]
  have hcontradicts (c : Credentials) : contradicts bag c = contradicts bag' c := by
    unfold contradicts
    rw [h "mongodb.username" hnames.username.1 hnames.username.2,
      h "mongodb.password" hnames.password.1 hnames.password.2]
  unfold withEndpointCredentials
  rw [hcredentials]
  cases endpointCredentials? bag' with
  | none => exact ⟨h, rfl⟩
  | some c => exact ⟨agree_set (agree_set h _ _) _ _, by dsimp only; rw [hcontradicts]⟩

end Agreeing

/-! ### The size of a batch -/

/-- Settings read from two such bags differ in the size of a batch alone. -/
lemma relates_read (h : AgreeBut "batchsize" "batch_size" bag bag') :
    Reading.Relates (fun s s' : Settings => s' = { s with batchSize := s'.batchSize })
      (read bag) (read bag') := by
  unfold read
  dsimp only
  simp (disch := decide) only [scalar_of_agree h, integers_of_agree h]
  iterate 12 refine Reading.relates_and ?_
  refine Reading.relates_and_last ?_
  iterate 10 refine Reading.yields_and_left ?_
  rintro _ ⟨⟩
  intros
  rfl

/-- Bags that agree on everything but the size of a batch are resolved alike, but for that size. -/
lemma resolve_of_agree (h : AgreeBut "batchsize" "batch_size" bag bag')
    (hs : (resolve bag).1 = .ok s) (hs' : (resolve bag').1 = .ok s') :
    s' = { s with batchSize := s'.batchSize } ∧ (resolve bag).2 = (resolve bag').2 := by
  have hnames : IsNoCredential "batchsize" "batch_size" :=
    ⟨by decide, by decide, by decide⟩
  obtain ⟨hagree, hentries⟩ := withEndpointCredentials_of_agree h hnames
  exact ⟨relates_read hagree s s' (of_validate hs).1 (of_validate hs').1, hentries⟩

end Settings

end LoadBinding
