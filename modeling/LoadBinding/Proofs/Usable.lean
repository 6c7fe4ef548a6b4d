import LoadBinding.Proofs.Opening
import LoadBinding.Proofs.Searching

/-!
# Usable settings

Resolving a property bag has two outcomes: settings that the rest of the library can use without
checking them again, or a refusal that says what is wrong with the bag.  Nothing else comes about,
whatever texts the bag gives under whatever names (`Context.usable_or_refused`).

`Settings.Usable` collects what is relied upon elsewhere: a batch must hold a document, the pool
takes the number of its endpoints as a modulus, and the set-up of the encryption expects a single
mode and the path of the library that it is told to load.
-/

namespace LoadBinding

open LoadBinding.Text LoadBinding.Action World

/-! ## Endpoints in a list -/

namespace Text

lemma mem_of_mem_trim {p : Char → Bool} {cs : List Char} {c : Char} (h : c ∈ trim p cs) :
    c ∈ cs := by
  unfold trim at h
  have hrest : c ∈ (cs.dropWhile p).reverse :=
    (List.dropWhile_suffix p).mem (List.mem_reverse.mp h)
  exact (List.dropWhile_suffix p).mem (List.mem_reverse.mp hrest)

/-- A text that neither begins nor ends with a character to be removed stays as it is. -/
lemma trim_eq_self {p : Char → Bool} {cs : List Char} (hfirst : ∀ c ∈ cs.head?, p c = false)
    (hlast : ∀ c ∈ cs.getLast?, p c = false) : trim p cs = cs := by
  have hkeep (l : List Char) (h : ∀ c ∈ l.head?, p c = false) : l.dropWhile p = l := by
    cases l with
    | nil => rfl
    | cons c l => exact List.dropWhile_cons_of_neg (by simpa using h c rfl)
  unfold trim
  rw [hkeep cs hfirst, hkeep cs.reverse (by simpa using hlast), List.reverse_reverse]

/-- What has been trimmed stays as it is. -/
lemma trim_trim (p : Char → Bool) (cs : List Char) : trim p (trim p cs) = trim p cs :=
  trim_eq_self (fun _ h => head?_trim h) fun _ h => getLast?_trim h

end Text

/-- An entry of a list of endpoints is not blank, has no blanks around it and no separator in it. -/
lemma Url.of_mem_endpoints {urls server : String} (h : server ∈ endpoints urls) :
    strip server = server ∧ isAllBlank server = false ∧ '|' ∉ server.toList := by
  unfold endpoints at h
  obtain ⟨entry, hentry, hsome⟩ := List.mem_filterMap.mp h
  obtain ⟨part, hpart, rfl⟩ := List.mem_map.mp hentry
  split at hsome
  · cases hsome
  · rename_i hempty
    obtain rfl := Option.some.inj hsome
    have hlist : (String.ofList (trim isBlank part)).toList = trim isBlank part :=
      String.toList_ofList
    refine ⟨?_, ?_, fun hmem => ?_⟩
    · unfold strip
      rw [hlist, trim_trim]
    · -- A blank text that is trimmed would be empty.
      unfold isAllBlank
      rw [hlist, Bool.eq_false_iff]
      intro hall
      have hnil := trim_eq_nil_iff.mpr (List.all_eq_true.mp hall)
      rw [trim_trim] at hnil
      exact hempty (by simp [hnil])
    · rw [hlist] at hmem
      exact not_mem_of_mem_splitOn hpart (mem_of_mem_trim hmem)

/-! ## Refusals -/

namespace Reading

variable {α β : Type}

/-- A reading that is refused says what is wrong. -/
def Explains (r : Reading α) : Prop :=
  ∀ problems, r = .refused problems → problems ≠ []

/-- Two readings together are refused with the problems of both. -/
lemma explains_and {f : Reading (α → β)} {a : Reading α} (hf : f.Explains) (ha : a.Explains) :
    (f.and a).Explains := by
  intro problems h
  cases f with
  | ok g =>
    cases a with
    | ok x => cases h
    | refused second =>
      cases h
      exact ha problems rfl
  | refused first =>
    cases a with
    | ok x =>
      cases h
      exact hf problems rfl
    | refused second =>
      cases h
      simp [hf first rfl]

lemma explains_ok (x : α) : (Reading.ok x).Explains :=
  nofun

lemma explains_single (p : Problem) : (Reading.refused [p] : Reading α).Explains := by
  rintro _ ⟨⟩
  simp

/-- A single setting is refused with the problem of its value. -/
lemma explains_scalar (convert : Value → Except Flaw α) (missing : α) (bag : Bag)
    (property short : String) : (scalar convert missing bag property short).Explains := by
  unfold scalar
  split
  · exact explains_ok _
  · split
    · exact explains_ok _
    · exact explains_single _

lemma explains_elements (name : String) (start : ℕ) (values : List Value) :
    (elements name start values).Explains := by
  induction values generalizing start with
  | nil => exact explains_ok _
  | cons v values ih =>
    unfold elements
    refine explains_and (explains_and (explains_ok _) ?_) (ih _)
    split
    · exact explains_ok _
    · exact explains_single _

lemma explains_integers (missing : ℤ) (bag : Bag) (property short : String) :
    (integers missing bag property short).Explains := by
  unfold integers
  split
  · exact explains_ok _
  · split
    · exact explains_ok _
    · exact explains_single _
  · exact explains_elements _ _ _
  · exact explains_single _

end Reading

namespace Settings

variable {bag : Bag} {s : Settings}

open Reading in
/-- A bag that cannot be read is refused with the problems of its settings. -/
lemma explains_read (bag : Bag) : (read bag).Explains := by
  unfold read
  dsimp only
  -- Of the 23 settings two are lists of integers.
  iterate 2 refine explains_and ?_ (explains_scalar _ _ _ _ _)
  iterate 2 refine explains_and ?_ (explains_integers _ _ _ _)
  iterate 19 refine explains_and ?_ (explains_scalar _ _ _ _ _)
  exact explains_ok _

lemma explains_validate (bag : Bag) : (validate bag).Explains := by
  unfold validate
  split
  · rename_i problems hread
    rintro _ ⟨⟩
    exact explains_read bag problems hread
  · split
    · exact Reading.explains_ok _
    · exact Reading.explains_single _

/-! ## Accepted settings -/

/-- What is relied upon in settings without a further check. -/
structure Usable (s : Settings) : Prop where
  batchSize : 1 ≤ s.batchSize
  threadCount : 1 ≤ s.threadCount
  encryptedFields : 0 ≤ s.encryptedFields
  endpoints_ne_nil : s.endpoints ≠ []
  endpoints_clean : ∀ server ∈ s.endpoints,
    strip server = server ∧ isAllBlank server = false ∧ '|' ∉ server.toList
  single_mode : ¬ (s.useLegacy = true ∧ s.useQueryable = true)
  library : s.useSharedLibrary = true → s.sharedLibraryPath ≠ ""
  poolSize_eq_mul_iff : s.poolSize = s.threadCount * 3 ↔ s.useLegacy = true ∨ s.useQueryable = true
  poolSize_eq_iff : s.poolSize = s.threadCount ↔ s.useLegacy = false ∧ s.useQueryable = false

/-- Settings that break no rule have at most one mode of encryption, the path of a library that is
to be used, and an endpoint. -/
lemma conflict?_eq_none_iff : s.conflict? = none ↔
    ¬ (s.useLegacy = true ∧ s.useQueryable = true) ∧
      (s.useSharedLibrary = true → s.sharedLibraryPath ≠ "") ∧ s.endpoints ≠ [] := by
  unfold conflict?
  split_ifs with hmodes hlibrary hendpoints
  · simp_all
  · simp_all
  · simp_all
  · simp_all

lemma encryptionMode_isEnabled (s : Settings) :
    s.encryptionMode.isEnabled = (s.useLegacy || s.useQueryable) := by
  unfold encryptionMode
  cases s.useLegacy with
  | true => rfl
  | false => cases s.useQueryable <;> rfl

/-- The connections of encrypted clients are three times as many, which makes a difference since
there is a thread. -/
lemma poolSize_iff (h : 1 ≤ s.threadCount) :
    (s.poolSize = s.threadCount * 3 ↔ s.useLegacy = true ∨ s.useQueryable = true) ∧
      (s.poolSize = s.threadCount ↔ s.useLegacy = false ∧ s.useQueryable = false) := by
  have hfactor : s.threadCount * 3 ≠ s.threadCount := by omega
  unfold poolSize
  rw [encryptionMode_isEnabled]
  cases s.useLegacy <;> cases s.useQueryable <;> simp [encryptedPoolFactor, hfactor, hfactor.symm]

/-- Accepted settings are usable. -/
lemma usable_of_resolve (h : (resolve bag).1 = .ok s) : s.Usable := by
  have hbounds := inBounds h
  have hpool := poolSize_iff hbounds.threadCount
  obtain ⟨hmodes, hlibrary, hendpoints⟩ := conflict?_eq_none_iff.mp (of_validate h).2
  exact
    { batchSize := hbounds.batchSize
      threadCount := hbounds.threadCount
      encryptedFields := hbounds.encryptedFields
      endpoints_ne_nil := hendpoints
      endpoints_clean := fun _ hserver => Url.of_mem_endpoints hserver
      single_mode := hmodes
      library := hlibrary
      poolSize_eq_mul_iff := hpool.1
      poolSize_eq_iff := hpool.2 }

end Settings

/-! ## Outcomes -/

namespace Context

/-- A bag of texts is resolved into usable settings, or refused with what is wrong with it.  Nothing
but the log changes. -/
theorem usable_or_refused (properties : Mapping String) (w : World) :
    ∃ entries,
      (∃ s, s.Usable ∧ exec (resolve (properties.mapValues Value.text)) w =
        (.ok s, { w with entries := w.entries ++ entries })) ∨
      (∃ problems, problems ≠ [] ∧ exec (resolve (properties.mapValues Value.text)) w =
        (.error (.settings problems), { w with entries := w.entries ++ entries })) := by
  refine ⟨(Settings.resolve (properties.mapValues Value.text)).2, ?_⟩
  cases hresolved : (Settings.resolve (properties.mapValues Value.text)).1 with
  | ok s =>
    exact .inl ⟨s, Settings.usable_of_resolve hresolved, exec_resolve_of_ok hresolved w⟩
  | refused problems =>
    have hproblems : problems ≠ [] := Settings.explains_validate _ _ hresolved
    exact .inr ⟨problems, hproblems, exec_resolve_of_refused hresolved w⟩

/-- The blank entries of a list are dropped, and the number of connections is tripled. -/
example :
    (Settings.resolve [("url", .text " h1 || h2 "), ("mongodb.qe", .text "TRUE"),
      ("threadcount", .text "07"), ("other", .text "|")]).1.value?.map (fun s =>
        (s.endpoints, s.poolSize)) = some (["h1", "h2"], 21) := by
  decide +kernel

end Context

end LoadBinding
