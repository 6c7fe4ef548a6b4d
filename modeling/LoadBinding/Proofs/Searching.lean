import Mathlib
import LoadBinding.Text.Search

/-!
# Laws of searching in a text

What reading a text up to a character, splitting it, cutting it at a pattern and replacing a pattern
in it come to.

A cut is made at the first occurrence: `eq_of_cut?` puts the text together again, and
`cut?_append_of_cut?` says that what stands behind the occurrence has no part in finding it.  A
pattern of two characters is not found exactly when these never stand next to each other
(`cut?_pair_eq_none_iff`).

A replacement goes from left to right.  `replaceFrom_append` passes over what stands before the
first occurrence, and `replaceFrom_pattern` exchanges the occurrence and goes on behind it.  Under
`isChain_replaceFrom` no pair of equal characters comes about that was not there before.
-/

namespace LoadBinding.Text

variable {pattern replacement : List Char}

/-! ## Reading up to a character -/

lemma bne_of_not_mem {c : Char} {cs : List Char} (h : c ∉ cs) : ∀ d ∈ cs, (d != c) = true := by
  intro d hd
  have hne : d ≠ c := fun heq => h (heq ▸ hd)
  simpa using hne

/-- The character up to which a text is read does not occur in what is read. -/
lemma not_mem_takeWhile (c : Char) (cs : List Char) : c ∉ cs.takeWhile (· != c) := by
  intro hmem
  have hne := List.mem_takeWhile_imp hmem
  simp at hne

lemma takeWhile_append_of_not_mem {c : Char} {start : List Char} (h : c ∉ start)
    (tail : List Char) :
    (start ++ tail).takeWhile (· != c) = start ++ tail.takeWhile (· != c) := by
  rw [List.takeWhile_append_of_pos (bne_of_not_mem h)]

/-- What stands behind a character has no part in the search for the first one. -/
lemma takeWhile_append_of_mem {c : Char} {front : List Char} (h : c ∈ front) (tail : List Char) :
    (front ++ tail).takeWhile (· != c) = front.takeWhile (· != c) := by
  obtain ⟨before, after, rfl, hbefore⟩ := List.eq_append_cons_of_mem h
  rw [List.append_assoc, takeWhile_append_of_not_mem hbefore, takeWhile_append_of_not_mem hbefore]
  simp

/-- A pattern with some character does not occur before the first such character of a text is part
of it. -/
lemma not_found_before {c : Char} {start rest : List Char} (hmem : c ∈ pattern)
    (hstart : c ∉ start) {n : ℕ} (hn : n < start.length) :
    ¬ pattern <+: (start ++ (pattern ++ rest)).drop n := by
  rintro ⟨after, hafter⟩
  obtain ⟨front, back, rfl, hfront⟩ := List.eq_append_cons_of_mem hmem
  have hfirst : ∀ l : List Char, ((front ++ c :: back) ++ l).takeWhile (· != c) = front := by
    intro l
    rw [List.append_assoc, takeWhile_append_of_not_mem hfront]
    simp
  have hdrop : (start ++ ((front ++ c :: back) ++ rest)).drop n =
      start.drop n ++ ((front ++ c :: back) ++ rest) := List.drop_append_of_le_length hn.le
  have hstart' : c ∉ start.drop n := fun hm => hstart (List.mem_of_mem_drop hm)
  have hlength := congrArg (fun l => (l.takeWhile (· != c)).length) (hafter.trans hdrop)
  rw [hfirst, takeWhile_append_of_not_mem hstart', hfirst, List.length_append,
    List.length_drop] at hlength
  omega

/-! ## Splitting -/

/-- Splitting is that of the library. -/
lemma splitOn_eq (separator : Char) (cs : List Char) :
    splitOn separator cs = cs.splitOn separator := by
  induction cs with
  | nil => rfl
  | cons c cs ih =>
    rw [splitOn, List.splitOn_cons_eq_if_modifyHead, ih]
    split
    · rfl
    · cases h : cs.splitOn separator with
      | nil => exact absurd h (List.splitOn_ne_nil separator cs)
      | cons part parts => rfl

/-- The separator does not occur in the parts between its occurrences. -/
lemma not_mem_of_mem_splitOn {separator : Char} {part cs : List Char}
    (h : part ∈ splitOn separator cs) : separator ∉ part := by
  induction cs generalizing part with
  | nil =>
    obtain rfl := List.mem_singleton.mp h
    exact List.not_mem_nil
  | cons c cs ih =>
    unfold splitOn at h
    by_cases hc : c = separator
    · rw [if_pos (by simpa using hc)] at h
      rcases List.mem_cons.mp h with rfl | h
      · exact List.not_mem_nil
      · exact ih h
    · rw [if_neg (by simpa using hc)] at h
      have hcons (first : List Char) (hfirst : separator ∉ first) : separator ∉ c :: first := by
        simp [Ne.symm hc, hfirst]
      cases hparts : splitOn separator cs with
      | nil =>
        rw [hparts] at h
        obtain rfl := List.mem_singleton.mp h
        exact hcons [] List.not_mem_nil
      | cons first parts =>
        rw [hparts] at h ih
        rcases List.mem_cons.mp h with rfl | h
        · exact hcons first (ih List.mem_cons_self)
        · exact ih (List.mem_cons_of_mem _ h)

/-! ## Cutting -/

lemma cut?_cons_of_found {c : Char} {cs : List Char} (h : pattern <+: c :: cs) :
    cut? pattern (c :: cs) = some ([], (c :: cs).drop pattern.length) := by
  rw [cut?, if_pos (List.isPrefixOf_iff_prefix.mpr h)]

lemma cut?_cons_of_not_found {c : Char} {cs : List Char} (h : ¬ pattern <+: c :: cs) :
    cut? pattern (c :: cs) =
      (cut? pattern cs).map fun pair => (c :: pair.1, pair.2) := by
  rw [cut?, if_neg fun hp => h (List.isPrefixOf_iff_prefix.mp hp)]

/-- A text is made of what stands before the pattern, the pattern, and what stands after it. -/
lemma eq_of_cut? {cs before after : List Char} (h : cut? pattern cs = some (before, after)) :
    cs = before ++ pattern ++ after := by
  induction cs generalizing before with
  | nil =>
    cases pattern with
    | nil =>
      cases h
      rfl
    | cons p ps => cases h
  | cons c cs ih =>
    by_cases hp : pattern <+: c :: cs
    · rw [cut?_cons_of_found hp] at h
      cases h
      exact (List.prefix_iff_eq_append.mp hp).symm
    · rw [cut?_cons_of_not_found hp, Option.map_eq_some_iff] at h
      obtain ⟨⟨before', after'⟩, hcut, heq⟩ := h
      cases heq
      rw [ih hcut]
      rfl

/-- What stands behind the first occurrence of a pattern can be exchanged. -/
lemma cut?_append_of_cut? {cs before after : List Char} (hne : pattern ≠ [])
    (h : cut? pattern cs = some (before, after)) (after' : List Char) :
    cut? pattern (before ++ pattern ++ after') = some (before, after') := by
  induction cs generalizing before with
  | nil =>
    rw [cut?, if_neg (by simpa using hne)] at h
    cases h
  | cons c cs ih =>
    by_cases hp : pattern <+: c :: cs
    · rw [cut?_cons_of_found hp] at h
      cases h
      obtain ⟨p, ps, rfl⟩ := List.exists_cons_of_ne_nil hne
      have hprefix : p :: ps <+: p :: (ps ++ after') := ⟨after', rfl⟩
      rw [List.nil_append, List.cons_append, cut?_cons_of_found hprefix]
      simp
    · rw [cut?_cons_of_not_found hp, Option.map_eq_some_iff] at h
      obtain ⟨⟨before', after''⟩, hcut, heq⟩ := h
      cases heq
      have hnot : ¬ pattern <+: c :: (before' ++ pattern ++ after') := by
        -- An earlier occurrence would lie within what the two texts have in common.
        intro hearlier
        have hcommon : c :: (before' ++ pattern) <+: c :: (before' ++ pattern ++ after') :=
          ⟨after', by simp⟩
        have hwithin : pattern <+: c :: (before' ++ pattern) :=
          List.prefix_of_prefix_length_le hearlier hcommon (by simp; omega)
        refine hp (hwithin.trans ?_)
        rw [eq_of_cut? hcut]
        exact ⟨after'', by simp⟩
      rw [List.cons_append, List.cons_append, cut?_cons_of_not_found hnot, ih hcut]
      rfl

/-- A text is cut at an occurrence of the pattern before which there is no other. -/
lemma cut?_append {before after : List Char} (hne : pattern ≠ [])
    (h : ∀ n < before.length, ¬ pattern <+: (before ++ (pattern ++ after)).drop n) :
    cut? pattern (before ++ (pattern ++ after)) = some (before, after) := by
  induction before with
  | nil =>
    obtain ⟨p, ps, rfl⟩ := List.exists_cons_of_ne_nil hne
    have hprefix : p :: ps <+: p :: (ps ++ after) := ⟨after, rfl⟩
    rw [List.nil_append, List.cons_append, cut?_cons_of_found hprefix]
    simp
  | cons c before ih =>
    have hfirst : ¬ pattern <+: c :: (before ++ (pattern ++ after)) := h 0 (by simp)
    rw [List.cons_append, cut?_cons_of_not_found hfirst,
      ih fun n hn => h (n + 1) (by simpa using hn)]
    rfl

/-- A pair of characters can only be cut at if its characters stand next to each other somewhere. -/
lemma cut?_pair_eq_none_iff {a b : Char} {cs : List Char} :
    cut? [a, b] cs = none ↔ cs.IsChain fun c d => ¬ (c = a ∧ d = b) := by
  induction cs with
  | nil => simp [cut?]
  | cons c cs ih =>
    have hprefix : [a, b] <+: c :: cs ↔ a = c ∧ [b] <+: cs := List.cons_prefix_cons
    cases cs with
    | nil => simp [cut?]
    | cons d ds =>
      rw [List.isChain_cons_cons, ← ih]
      by_cases hp : [a, b] <+: c :: d :: ds
      · obtain ⟨rfl, hd⟩ := hprefix.mp hp
        obtain ⟨rfl, -⟩ := List.cons_prefix_cons.mp hd
        rw [cut?_cons_of_found hp]
        simp
      · rw [cut?_cons_of_not_found hp, Option.map_eq_none_iff]
        refine ⟨fun h => ⟨?_, h⟩, And.right⟩
        rintro ⟨rfl, rfl⟩
        exact hp ⟨ds, rfl⟩

/-! ## Replacing -/

/-- Characters that are passed over have no part in what follows. -/
lemma replaceFrom_skip (pattern replacement : List Char) (skip : ℕ) (cs : List Char) :
    replaceFrom pattern replacement skip cs = replaceFrom pattern replacement 0 (cs.drop skip) := by
  induction cs generalizing skip with
  | nil => cases skip <;> rfl
  | cons c cs ih =>
    cases skip with
    | zero => rfl
    | succ skip =>
      rw [replaceFrom, ih, List.drop_succ_cons]

lemma replaceFrom_cons_of_not_found {c : Char} {cs : List Char} (h : ¬ pattern <+: c :: cs) :
    replaceFrom pattern replacement 0 (c :: cs) = c :: replaceFrom pattern replacement 0 cs := by
  rw [replaceFrom, if_neg fun hp => h (List.isPrefixOf_iff_prefix.mp hp)]

/-- An occurrence is exchanged, and the search goes on behind it. -/
lemma replaceFrom_pattern (hne : pattern ≠ []) (cs : List Char) :
    replaceFrom pattern replacement 0 (pattern ++ cs) =
      replacement ++ replaceFrom pattern replacement 0 cs := by
  obtain ⟨p, ps, rfl⟩ := List.exists_cons_of_ne_nil hne
  have hprefix : (p :: ps).isPrefixOf (p :: (ps ++ cs)) = true :=
    List.isPrefixOf_iff_prefix.mpr ⟨cs, rfl⟩
  rw [List.cons_append, replaceFrom, if_pos hprefix, replaceFrom_skip]
  simp

/-- What stands before the first occurrence is kept. -/
lemma replaceFrom_append {before cs : List Char}
    (h : ∀ n < before.length, ¬ pattern <+: (before ++ cs).drop n) :
    replaceFrom pattern replacement 0 (before ++ cs) =
      before ++ replaceFrom pattern replacement 0 cs := by
  induction before with
  | nil => rfl
  | cons c before ih =>
    have hfirst : ¬ pattern <+: c :: (before ++ cs) := h 0 (by simp)
    rw [List.cons_append, replaceFrom_cons_of_not_found hfirst,
      ih fun n hn => h (n + 1) (by simpa using hn)]
    rfl

/-- A replacement that begins as the pattern does leaves the first character of a text as it is. -/
lemma head?_replaceFrom (hne : pattern ≠ []) (hhead : replacement.head? = pattern.head?)
    (cs : List Char) : (replaceFrom pattern replacement 0 cs).head? = cs.head? := by
  cases cs with
  | nil => rfl
  | cons c cs =>
    by_cases hp : pattern <+: c :: cs
    · obtain ⟨p, ps, rfl⟩ := List.exists_cons_of_ne_nil hne
      obtain ⟨rest, hrest⟩ := hp
      rw [← hrest, replaceFrom_pattern hne, List.head?_append, hhead]
      rfl
    · rw [replaceFrom_cons_of_not_found hp]
      rfl

/-- A pair of equal characters does not come about by a replacement that begins as the pattern does,
ends with another character and does not contain the pair. -/
lemma isChain_replaceFrom {a : Char} (hne : pattern ≠ [])
    (hhead : replacement.head? = pattern.head?) (hlast : replacement.getLast? ≠ some a)
    (hpair : replacement.IsChain fun c d => ¬ (c = a ∧ d = a)) {cs : List Char}
    (h : cs.IsChain fun c d => ¬ (c = a ∧ d = a)) (skip : ℕ) :
    (replaceFrom pattern replacement skip cs).IsChain fun c d => ¬ (c = a ∧ d = a) := by
  induction cs generalizing skip with
  | nil =>
    rw [replaceFrom]
    exact h
  | cons c cs ih =>
    have htail : cs.IsChain fun c d => ¬ (c = a ∧ d = a) := h.tail
    cases skip with
    | succ skip =>
      rw [replaceFrom]
      exact ih htail skip
    | zero =>
      by_cases hp : pattern <+: c :: cs
      · rw [replaceFrom, if_pos (List.isPrefixOf_iff_prefix.mpr hp), List.isChain_append]
        refine ⟨hpair, ih htail _, fun x hx y _ heq => hlast ?_⟩
        rw [← heq.1]
        exact hx
      · rw [replaceFrom_cons_of_not_found hp, List.isChain_cons, head?_replaceFrom hne hhead]
        exact ⟨(List.isChain_cons.mp h).1, ih htail 0⟩

end LoadBinding.Text
