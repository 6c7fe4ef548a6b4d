import LoadBinding.Encryption.Schema
import LoadBinding.Proofs.Overriding
import LoadBinding.Proofs.Resolution
import LoadBinding.Proofs.Searching

/-!
# Lists of integers by field

Two settings are lists of integers with one entry for each field: the contention factors and the
cardinalities.  Both are written as texts, in which an entry may be left blank, and both take effect
by the index of the entry.  What is written for a field thus has to reach this field and no other.

`Number.Joins` says that a text writes a list of optional integers.  Such a text is read back index
by index (`Number.exists_readList`), up to the value that stands for a blank entry; this value is
one that has no effect.
-/

namespace LoadBinding

open LoadBinding.Text

/-! ## Digits and spaces -/

namespace Text

/-- What is dropped at the front ends where the rest begins with something to keep. -/
lemma dropWhile_append_of_head {p : Char → Bool} {before cs : List Char}
    (hbefore : ∀ c ∈ before, p c = true) (hhead : ∀ c ∈ cs.head?, p c = false) :
    (before ++ cs).dropWhile p = cs := by
  rw [List.dropWhile_append_of_pos hbefore]
  cases cs with
  | nil => rfl
  | cons c cs =>
    have hc : p c = false := hhead c rfl
    rw [List.dropWhile_cons_of_neg (by simp [hc])]

/-- Trimming takes off what surrounds a text whose ends are to be kept. -/
lemma trim_surrounded {p : Char → Bool} {before cs after : List Char}
    (hbefore : ∀ c ∈ before, p c = true) (hafter : ∀ c ∈ after, p c = true) (hne : cs ≠ [])
    (hhead : ∀ c ∈ cs.head?, p c = false) (hlast : ∀ c ∈ cs.getLast?, p c = false) :
    trim p (before ++ cs ++ after) = cs := by
  have hfront : (before ++ (cs ++ after)).dropWhile p = cs ++ after := by
    refine dropWhile_append_of_head hbefore fun c hc => hhead c ?_
    rwa [List.head?_append_of_ne_nil _ hne] at hc
  have hback : (after.reverse ++ cs.reverse).dropWhile p = cs.reverse := by
    refine dropWhile_append_of_head (fun c hc => hafter c (List.mem_reverse.mp hc)) fun c hc => ?_
    rw [List.head?_reverse] at hc
    exact hlast c hc
  rw [trim, List.append_assoc, hfront, List.reverse_append, hback, List.reverse_reverse]

/-- The code points of the digits `0` to `9`. -/
lemma toNat_of_isDigit {c : Char} (h : c.isDigit = true) : 48 ≤ c.toNat ∧ c.toNat ≤ 57 := by
  simpa [Char.isDigit, UInt32.le_iff_toNat_le] using h

/-- The value of a digit `0` to `9`. -/
lemma digitValue?_of_isDigit {c : Char} (h : c.isDigit = true) :
    digitValue? c = some (c.toNat - '0'.toNat) := by
  have hrange := toNat_of_isDigit h
  unfold digitValue? digitZeros
  rw [List.find?_cons_of_pos (by simp; omega)]
  rfl

/-- Digits are weighed as the library weighs them. -/
lemma ofDigits_map (cs : List Char) :
    ofDigits (cs.map fun c => c.toNat - '0'.toNat) = Nat.ofDigitChars 10 cs 0 := by
  unfold ofDigits Nat.ofDigitChars
  rw [List.foldl_map]
  simp only [Nat.mul_comm]

/-- A digit is not blank. -/
lemma isBlank_eq_false_of_isDigit {c : Char} (h : c.isDigit = true) : isBlank c = false := by
  have hrange := toNat_of_isDigit h
  simp [isBlank, isSpace]
  omega

end Text

/-! ## Integers -/

namespace Number

/-- A text of digits is read to its end. -/
lemma takeDigits_of_isDigit {pending : Bool} {cs : List Char} (hne : pending = true → cs ≠ [])
    (h : ∀ c ∈ cs, c.isDigit = true) :
    takeDigits digitValue? pending cs = some (cs.map fun c => c.toNat - '0'.toNat, []) := by
  induction cs generalizing pending with
  | nil =>
    cases pending with
    | false => rfl
    | true => exact absurd rfl (hne rfl)
  | cons c cs ih =>
    have hc := digitValue?_of_isDigit (h c List.mem_cons_self)
    have hrest : takeDigits digitValue? false cs =
        some (cs.map fun c => c.toNat - '0'.toNat, []) :=
      ih (fun hfalse => absurd hfalse (by decide)) fun d hd => h d (List.mem_cons_of_mem _ hd)
    rw [takeDigits, hc, hrest]
    rfl

/-- The sign of an integer as it is written. -/
def signText (i : ℤ) : List Char :=
  if i < 0 then ['-'] else []

/-- An integer is written as its sign and the digits of its magnitude. -/
lemma toList_toString (i : ℤ) : (toString i).toList = signText i ++ Nat.toDigits 10 i.natAbs := by
  cases i with
  | ofNat n => exact Nat.toList_repr
  | negSucc n =>
    change ("-" ++ Nat.repr (n + 1)).toList = _
    rw [String.toList_append, Nat.toList_repr, signText, if_pos (Int.negSucc_lt_zero n)]
    rfl

lemma takeSign_of_isDigit {cs : List Char} (h : ∀ c ∈ cs, c.isDigit = true) :
    takeSign cs = (false, cs) := by
  unfold takeSign
  split
  · exact absurd (h '-' List.mem_cons_self) (by decide)
  · exact absurd (h '+' List.mem_cons_self) (by decide)
  · rfl

/-- The sign of an integer is separated from its digits. -/
lemma takeSign_signText {i : ℤ} {cs : List Char} (h : ∀ c ∈ cs, c.isDigit = true) :
    takeSign (signText i ++ cs) = (decide (i < 0), cs) := by
  unfold signText
  split
  · rename_i hi
    simp [takeSign, hi]
  · rename_i hi
    rw [List.nil_append, takeSign_of_isDigit h, decide_eq_false hi]

/-- An integer is made up of its sign and its magnitude. -/
lemma signed_natAbs (i : ℤ) : signed (decide (i < 0)) i.natAbs = i := by
  unfold signed
  split
  · rename_i hi
    rw [Int.ofNat_natAbs_of_nonpos (of_decide_eq_true hi).le, Int.neg_neg]
  · rename_i hi
    have hnonneg : 0 ≤ i := by simpa using hi
    exact Int.natAbs_of_nonneg hnonneg

/-- The characters of an integer are digits and minus signs. -/
lemma eq_or_isDigit_of_mem_toString {i : ℤ} {c : Char} (h : c ∈ (toString i).toList) :
    c = '-' ∨ c.isDigit = true := by
  rw [toList_toString, List.mem_append] at h
  rcases h with h | h
  · unfold signText at h
    split at h
    · exact .inl (List.mem_singleton.mp h)
    · cases h
  · exact .inr (Nat.isDigit_of_mem_toDigits (by decide) (by decide) h)

/-- No character of an integer is blank. -/
lemma isBlank_eq_false_of_mem_toString {i : ℤ} {c : Char} (h : c ∈ (toString i).toList) :
    isBlank c = false := by
  rcases eq_or_isDigit_of_mem_toString h with rfl | hc
  · decide
  · exact isBlank_eq_false_of_isDigit hc

/-- An integer that is written in decimal digits, with space around, is read back. -/
lemma readEntry_toString {i : ℤ} {before after : List Char}
    (hbefore : before.all isSpace = true) (hafter : after.all isSpace = true)
    (hlength : (Nat.toDigits 10 i.natAbs).length ≤ maxDigits) :
    readEntry (String.ofList (before ++ (toString i).toList ++ after)) = .ok i := by
  have hdigit : ∀ c ∈ Nat.toDigits 10 i.natAbs, c.isDigit = true :=
    fun c hc => Nat.isDigit_of_mem_toDigits (by decide) (by decide) hc
  have hne : Nat.toDigits 10 i.natAbs ≠ [] := Nat.toDigits_ne_nil
  have htrim : trim isSpace (before ++ (toString i).toList ++ after) = (toString i).toList := by
    have hkept : ∀ c ∈ (toString i).toList, isSpace c = false := by
      intro c hc
      have hblank := isBlank_eq_false_of_mem_toString hc
      unfold isBlank at hblank
      exact (Bool.or_eq_false_iff.mp hblank).1
    refine trim_surrounded (List.all_eq_true.mp hbefore) (List.all_eq_true.mp hafter) ?_ ?_ ?_
    · rw [toList_toString]
      exact List.append_ne_nil_of_right_ne_nil _ hne
    · intro c hc
      exact hkept c (List.mem_of_mem_head? hc)
    · intro c hc
      exact hkept c (List.mem_of_getLast? hc)
  unfold readEntry
  rw [String.toList_ofList, htrim, toList_toString, takeSign_signText hdigit]
  dsimp only
  rw [takeDigits_of_isDigit (fun _ => hne) hdigit]
  dsimp only
  rw [List.length_map, if_neg (by omega), ofDigits_map, Nat.ofDigitChars_ten_toDigits,
    signed_natAbs]
  rfl

/-- A signed 64-bit integer has few digits. -/
lemma length_toDigits_int64 (n : Int64) :
    (Nat.toDigits 10 n.toInt.natAbs).length ≤ maxDigits := by
  have hlt := n.toInt_lt
  have hge := n.le_toInt
  have hlength : (Nat.toDigits 10 n.toInt.natAbs).length ≤ 19 := by
    rw [Nat.length_toDigits_le_iff (by decide) (by decide)]
    omega
  exact hlength.trans (by decide)

/-! ## Lists -/

/-- A text that writes an integer in decimal digits, or nothing if there is none, with space
around. -/
def Writes (e : Option Int64) (cs : List Char) : Prop :=
  ∃ before after : List Char, before.all isSpace = true ∧ after.all isSpace = true ∧
    cs = before ++ (e.elim "" toString).toList ++ after

/-- A text that joins optional integers with commas. -/
def Joins (es : List (Option Int64)) (text : String) : Prop :=
  ∃ parts, List.Forall₂ Writes es parts ∧ text.toList = [','].intercalate parts

/-- The integer of an index, if there is one. -/
def integerAt? (es : List (Option Int64)) (i : ℕ) : Option ℤ :=
  es[i]?.join.map Int64.toInt

variable {e : Option Int64} {es : List (Option Int64)} {part : List Char}
  {parts : List (List Char)} {text : String}

/-- A text without an integer is blank, and one with an integer is not. -/
lemma Writes.all_isBlank (h : Writes e part) : part.all isBlank = e.isNone := by
  obtain ⟨before, after, hbefore, hafter, rfl⟩ := h
  have hspaces : ∀ cs : List Char, cs.all isSpace = true → cs.all isBlank = true :=
    fun cs hcs => List.all_eq_true.mpr fun c hc =>
      isBlank_of_isSpace (List.all_eq_true.mp hcs c hc)
  rw [List.all_append, List.all_append, hspaces before hbefore, hspaces after hafter,
    Bool.true_and, Bool.and_true]
  cases e with
  | none => rfl
  | some n =>
    have hne : (toString n.toInt).toList ≠ [] := by
      rw [toList_toString]
      exact List.append_ne_nil_of_right_ne_nil _ Nat.toDigits_ne_nil
    obtain ⟨c, hc⟩ := List.exists_mem_of_ne_nil _ hne
    refine List.all_eq_false.mpr ⟨c, hc, ?_⟩
    simp [isBlank_eq_false_of_mem_toString hc]

/-- No comma stands in a text that writes a single integer. -/
lemma Writes.not_mem (h : Writes e part) : ',' ∉ part := by
  obtain ⟨before, after, hbefore, hafter, rfl⟩ := h
  have hspaces : ∀ cs : List Char, cs.all isSpace = true → ',' ∉ cs :=
    fun cs hcs hmem => absurd (List.all_eq_true.mp hcs ',' hmem) (by decide)
  intro hmem
  rcases List.mem_append.mp hmem with hmem | hmem
  · rcases List.mem_append.mp hmem with hmem | hmem
    · exact hspaces before hbefore hmem
    · cases e with
      | none => cases hmem
      | some n =>
        rcases eq_or_isDigit_of_mem_toString (i := n.toInt) hmem with hc | hc
        · cases hc
        · cases hc
  · exact hspaces after hafter hmem

/-- No comma stands in the entries of a list. -/
lemma forall_not_mem (h : List.Forall₂ Writes es parts) : ∀ part ∈ parts, ',' ∉ part := by
  induction h with
  | nil => exact fun _ hpart => absurd hpart List.not_mem_nil
  | cons hpart _ ih => exact List.forall_mem_cons.mpr ⟨hpart.not_mem, ih⟩

/-- A text that writes an integer is read back, and a blank one stands for what is missing. -/
lemma Writes.read (h : Writes e part) (missing : ℤ) :
    (if part.all isBlank then Except.ok missing else readEntry (String.ofList part)) =
      .ok (e.elim missing Int64.toInt) := by
  rw [h.all_isBlank]
  obtain ⟨before, after, hbefore, hafter, rfl⟩ := h
  cases e with
  | none => rfl
  | some n =>
    rw [Option.isNone_some, if_neg Bool.false_ne_true]
    exact readEntry_toString hbefore hafter (length_toDigits_int64 n)

/-- The entries of a list are read back one by one. -/
lemma mapM_read (h : List.Forall₂ Writes es parts) (missing : ℤ) :
    (parts.mapM fun entry =>
      if entry.all isBlank then Except.ok missing else readEntry (String.ofList entry)) =
      .ok (es.map fun e => e.elim missing Int64.toInt) := by
  induction h with
  | nil => rfl
  | cons hpart _ ih =>
    rw [List.mapM_cons, hpart.read missing, ih]
    rfl

/-- Only a list without integers is written as a blank text. -/
lemma integerAt?_of_all_isBlank (h : List.Forall₂ Writes es parts)
    (hblank : ([','].intercalate parts).all isBlank = true) (i : ℕ) : integerAt? es i = none := by
  cases h with
  | nil => rfl
  | cons hpart hrest =>
    cases hrest with
    | nil =>
      rw [List.intercalate_singleton, hpart.all_isBlank, Option.isNone_iff_eq_none] at hblank
      subst hblank
      cases i <;> rfl
    | cons _ _ =>
      -- Two entries have a comma between them.
      rw [List.intercalate_cons_cons, List.all_append, List.all_append] at hblank
      simp [show isBlank ',' = false from by decide] at hblank

/-- An index has an integer above the value that stands for a missing one. -/
lemma lt_integerAt?_iff (es : List (Option Int64)) (i : ℕ) (missing : ℤ) (P : ℤ → Prop) :
    (missing < (integerAt? es i).getD missing ∧ P ((integerAt? es i).getD missing)) ↔
      ∃ n : Int64, es[i]? = some (some n) ∧ missing < n.toInt ∧ P n.toInt := by
  unfold integerAt?
  rcases es[i]? with _ | _ | n <;> simp

/-- A joined text is read back, index by index. -/
theorem exists_readList (h : Joins es text) (missing : ℤ) :
    ∃ ns, readList text missing = .ok ns ∧
      ∀ i, ns[i]?.getD missing = (integerAt? es i).getD missing := by
  obtain ⟨parts, hparts, htext⟩ := h
  unfold readList isAllBlank
  rw [htext]
  cases hblank : ([','].intercalate parts).all isBlank with
  | true =>
    refine ⟨[], rfl, fun i => ?_⟩
    rw [integerAt?_of_all_isBlank hparts hblank]
    rfl
  | false =>
    have hne : parts ≠ [] := by
      rintro rfl
      cases hblank
    have hcomma := forall_not_mem hparts
    refine ⟨es.map fun e => e.elim missing Int64.toInt, ?_, fun i => ?_⟩
    · rw [if_neg (by decide), splitOn_eq, List.splitOn_intercalate ',' hcomma hne]
      exact mapM_read hparts missing
    · rw [List.getElem?_map]
      unfold integerAt?
      rcases es[i]? with _ | _ | n <;> rfl

end Number

/-! ## Contention factors -/

namespace Schema

/-- The elements of an array. -/
def elements : Value → List Value
  | .array vs => vs
  | _ => []

/-- The characters of a text. -/
def asText? : Value → Option String
  | .text s => some s
  | _ => none

/-- The value of a key of a document, if there is any. -/
def member? (key : String) : Value → Option Value
  | .document doc => Mapping.get? doc key
  | _ => none

/-- The queries that the fields of an encrypted collection allow on the field with a name. -/
def queries (fields : Document) (name : String) : List Value :=
  let described := (fields.get? "fields").elim [] elements
  let named := described.filter fun d => (member? "path" d).bind asText? == some name
  named.flatMap fun d => (member? "queries" d).elim [] elements

/-- Every field is described once, with one query. -/
lemma queries_queryableFields (key : KeyId) (encoding : Encoding) (factors : List ℤ) {count i : ℕ}
    (hi : i < count) :
    queries (queryableFields key count encoding factors) (Discrete.fieldName i) =
      [.document (equalityQuery factors[i]?)] := by
  let description : ℕ → Value := fun j =>
    queryableField key encoding (Discrete.fieldName j) factors[j]?
  have hnamed : (fun d => (member? "path" d).bind asText? == some (Discrete.fieldName i)) ∘
      description = fun j => j == i := by
    funext j
    change (some (Discrete.fieldName j) == some (Discrete.fieldName i)) = (j == i)
    rw [Bool.eq_iff_iff]
    simp [Discrete.fieldName_injective.eq_iff]
  change (((List.range count).map description).filter _).flatMap _ = _
  rw [List.filter_map, hnamed, List.filter_beq,
    List.count_eq_one_of_mem List.nodup_range (List.mem_range.mpr hi)]
  rfl

/-- A query states the contention factor that is known and not negative. -/
lemma get?_equalityQuery (contention : Option ℤ) (v : Value) :
    (equalityQuery contention).get? "contention" = some v ↔
      -1 < contention.getD (-1) ∧ v = .int64 (contention.getD (-1)) := by
  cases contention with
  | none => simp [equalityQuery, Mapping.get?_cons]
  | some factor =>
    unfold equalityQuery
    dsimp only
    split
    · rename_i h
      simp [Mapping.get?_cons, h, eq_comm]
    · rename_i h
      simp [Mapping.get?_cons, h]

end Schema

/-! ## Cardinalities -/

namespace Discrete

/-- A field has a generator exactly if its cardinality is positive, which has as many values. -/
lemma get?_forFields_iff (cardinalities : List ℤ) (field : String) (g : Discrete) :
    (forFields cardinalities).get? field = some g ↔
      ∃ i, 0 < cardinalities[i]?.getD 0 ∧ field = fieldName i ∧
        g = uniform (cardinalities[i]?.getD 0).toNat := by
  constructor
  · intro h
    obtain ⟨i, c, hc, hpos, hfield, hg⟩ :=
      exists_index_of_mem_forFieldsFrom (Mapping.mem_of_get? h)
    rw [Nat.zero_add] at hfield
    refine ⟨i, ?_, hfield, ?_⟩
    · rwa [hc]
    · rwa [hc]
  · rintro ⟨i, hpos, rfl, rfl⟩
    cases hc : cardinalities[i]? with
    | none =>
      rw [hc] at hpos
      exact absurd hpos (lt_irrefl 0)
    | some c =>
      rw [hc] at hpos
      exact get?_forFields hc hpos

end Discrete

/-! ## Settings -/

namespace Settings

variable {bag bag' : Bag} {property short text : String} {s : Settings} {ns : List ℤ}

/-- Contention factors that can be read take the place of those of a bag. -/
lemma follows_read_contentionFactors
    (h : AgreeBut "mongodb.contentionFactors" "contention_factors" bag bag')
    (hns : Reading.integers (-1) bag' "mongodb.contentionFactors" "contention_factors" = .ok ns) :
    Reading.Follows (fun s s' : Settings => s' = { s with contentionFactors := ns })
      (read bag) (read bag') := by
  unfold read
  dsimp only
  simp (disch := decide) only [scalar_of_agree h, integers_of_agree h]
  iterate 3 refine Reading.follows_and ?_
  refine Reading.follows_and_last ?_ hns
  iterate 19 refine Reading.yields_and_left ?_
  rintro _ ⟨⟩
  intros
  rfl

/-- Cardinalities that can be read take the place of those of a bag. -/
lemma follows_read_cardinalities
    (h : AgreeBut "mongodb.cardinalities" "cardinalities" bag bag')
    (hns : Reading.integers 0 bag' "mongodb.cardinalities" "cardinalities" = .ok ns) :
    Reading.Follows (fun s s' : Settings => s' = { s with cardinalities := ns })
      (read bag) (read bag') := by
  unfold read
  dsimp only
  simp (disch := decide) only [scalar_of_agree h, integers_of_agree h]
  iterate 2 refine Reading.follows_and ?_
  refine Reading.follows_and_last ?_ hns
  iterate 20 refine Reading.yields_and_left ?_
  rintro _ ⟨⟩
  intros
  rfl

/-- The credentials of the endpoints are filled in under two names. -/
lemma get?_withEndpointCredentials {key : String} (hu : key ≠ "mongodb.username")
    (hp : key ≠ "mongodb.password") :
    (withEndpointCredentials bag).1.get? key = bag.get? key := by
  unfold withEndpointCredentials
  cases endpointCredentials? bag with
  | none => rfl
  | some c =>
    dsimp only
    rw [Mapping.get?_set, if_neg hp, Mapping.get?_set, if_neg hu]

/-- A text that can be read as a list is accepted in every bag that is accepted otherwise, and
changes this list alone. -/
lemma resolve_set_list {missing : ℤ} {change : Settings → Settings}
    (hnames : IsNoCredential property short)
    (hread : ∀ {bag bag' : Bag}, AgreeBut property short bag bag' →
      Reading.integers missing bag' property short = .ok ns →
      Reading.Follows (fun s s' => s' = change s) (read bag) (read bag'))
    (hconflict : ∀ s, (change s).conflict? = s.conflict?)
    (htext : Number.readList text missing = .ok ns) (hs : (resolve bag).1 = .ok s) :
    (resolve (bag.set property (.text text))).1 = .ok (change s) := by
  have hset := agreeBut_set property short bag (.text text)
  have hfind : (withEndpointCredentials (bag.set property (.text text))).1.get? property =
      some (.text text) := by
    rw [get?_withEndpointCredentials hnames.username.1.symm hnames.password.1.symm,
      Mapping.get?_set, if_pos rfl]
  have hlist : Reading.integers missing
      (withEndpointCredentials (bag.set property (.text text))).1 property short = .ok ns := by
    unfold Reading.integers Reading.find?
    rw [hfind]
    dsimp only
    rw [htext]
  obtain ⟨hold, hrules⟩ := of_validate hs
  obtain ⟨s', hnew, rfl⟩ :=
    hread (withEndpointCredentials_of_agree hset hnames).1 hlist s hold
  change validate (withEndpointCredentials (bag.set property (.text text))).1 = _
  unfold validate
  rw [hnew]
  dsimp only
  rw [hconflict, hrules]

/-- **Lists by field.**  A text that joins optional integers with commas is accepted in every bag
that is accepted otherwise.  As the contention factors it gives a field the integer of its index,
if there is one and it is not negative; as the cardinalities it gives a generator to exactly the
fields whose index has a positive integer, over as many values. -/
theorem lists_by_field {es : List (Option Int64)} (ht : Number.Joins es text)
    (hs : (resolve bag).1 = .ok s) :
    (∃ s', (resolve (bag.set "mongodb.contentionFactors" (.text text))).1 = .ok s' ∧
      s' = { s with contentionFactors := s'.contentionFactors } ∧
      ∀ (key : KeyId) (encoding : Encoding) (count i : ℕ), i < count → ∃ query : Document,
        Schema.queries (Schema.queryableFields key count encoding s'.contentionFactors)
            (Discrete.fieldName i) = [.document query] ∧
          ∀ v, query.get? "contention" = some v ↔
            ∃ n : Int64, es[i]? = some (some n) ∧ 0 ≤ n.toInt ∧ v = .int64 n.toInt) ∧
    ∃ s', (resolve (bag.set "mongodb.cardinalities" (.text text))).1 = .ok s' ∧
      s' = { s with cardinalities := s'.cardinalities } ∧
      ∀ field values,
        ((Discrete.forFields s'.cardinalities).get? field).map (fun g => g.values.toList) =
            some values ↔
          ∃ i, ∃ n : Int64, es[i]? = some (some n) ∧ 0 < n.toInt ∧
            field = Discrete.fieldName i ∧
            values = (List.range n.toInt.toNat).map Discrete.valueName := by
  constructor
  · obtain ⟨ns, hread, hns⟩ := Number.exists_readList ht (-1)
    refine ⟨{ s with contentionFactors := ns }, ?_, rfl, ?_⟩
    · exact resolve_set_list ⟨by decide, by decide, by decide⟩ follows_read_contentionFactors
        (fun _ => rfl) hread hs
    · intro key encoding count i hi
      refine ⟨_, Schema.queries_queryableFields key encoding ns hi, fun v => ?_⟩
      rw [Schema.get?_equalityQuery, hns,
        Number.lt_integerAt?_iff es i (-1) fun n => v = .int64 n]
      rfl
  · obtain ⟨ns, hread, hns⟩ := Number.exists_readList ht 0
    refine ⟨{ s with cardinalities := ns }, ?_, rfl, ?_⟩
    · exact resolve_set_list ⟨by decide, by decide, by decide⟩ follows_read_cardinalities
        (fun _ => rfl) hread hs
    · intro field values
      rw [Option.map_eq_some_iff]
      simp only [Discrete.get?_forFields_iff, hns]
      constructor
      · rintro ⟨g, ⟨i, hpos, hfield, rfl⟩, rfl⟩
        obtain ⟨n, hn, hpos, hg⟩ := (Number.lt_integerAt?_iff es i 0 fun c =>
          (Discrete.uniform ((Number.integerAt? es i).getD 0).toNat) = Discrete.uniform c.toNat).mp
            ⟨hpos, rfl⟩
        exact ⟨i, n, hn, hpos, hfield, by rw [hg, Discrete.toList_values_uniform]⟩
      · rintro ⟨i, n, hn, hpos, hfield, rfl⟩
        obtain ⟨hpos, hg⟩ := (Number.lt_integerAt?_iff es i 0 fun c =>
          Discrete.uniform c.toNat = Discrete.uniform n.toInt.toNat).mpr ⟨n, hn, hpos, rfl⟩
        exact ⟨_, ⟨i, hpos, hfield, rfl⟩, by rw [hg, Discrete.toList_values_uniform]⟩

/-- A bag in which the contention factors go by their short name. -/
def namedShortBag : Bag :=
  [("contention_factors", .text "7,7"), ("mongodb.cardinalities", .text "9")]

/-- Entries before, between and behind gaps. -/
def gappedList : List (Option Int64) :=
  [none, some 5, some (-3), none, some 2]

/-- The entries behind the gaps take effect for their own fields. -/
theorem lists_by_field_gappedList :
    (∃ s, (resolve (namedShortBag.set "mongodb.contentionFactors"
        (.text " , 5 ,-3,,2\t"))).1 = .ok s ∧
      ∃ query : Document, Schema.queries
          (Schema.queryableFields ⟨[]⟩ 7 .binary s.contentionFactors) "field4" = [.document query] ∧
        query.get? "contention" = some (.int64 2)) ∧
    ∃ s, (resolve (namedShortBag.set "mongodb.cardinalities" (.text " , 5 ,-3,,2\t"))).1 = .ok s ∧
      ((Discrete.forFields s.cardinalities).get? "field4").map (fun g => g.values.toList) =
        some ["value0", "value1"] := by
  have hjoins : Number.Joins gappedList " , 5 ,-3,,2\t" := by
    refine ⟨[[' '], [' ', '5', ' '], ['-', '3'], [], ['2', '\t']], ?_, by decide⟩
    refine .cons ⟨[' '], [], by decide, by decide, by decide⟩ ?_
    refine .cons ⟨[' '], [' '], by decide, by decide, by decide⟩ ?_
    refine .cons ⟨[], [], by decide, by decide, by decide⟩ ?_
    refine .cons ⟨[], [], by decide, by decide, by decide⟩ ?_
    exact .cons ⟨[], ['\t'], by decide, by decide, by decide⟩ .nil
  have hfacts : (resolve namedShortBag).1.value?.map (fun s =>
      (s.contentionFactors, s.cardinalities)) = some ([7, 7], [9]) := by
    decide +kernel
  obtain ⟨s, hs, -⟩ := Reading.exists_of_map_value? hfacts
  obtain ⟨⟨s₁, hs₁, -, hqueries⟩, s₂, hs₂, -, hvalues⟩ := lists_by_field hjoins hs
  obtain ⟨query, hquery, hcontention⟩ := hqueries ⟨[]⟩ .binary 7 4 (by decide)
  refine ⟨⟨s₁, hs₁, query, hquery, (hcontention _).mpr ⟨2, rfl, by decide, rfl⟩⟩, s₂, hs₂, ?_⟩
  exact (hvalues _ _).mpr ⟨4, 2, rfl, by decide, by decide, by decide⟩

end Settings

end LoadBinding
