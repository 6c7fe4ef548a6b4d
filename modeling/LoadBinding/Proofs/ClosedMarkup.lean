import LoadBinding.Log.Markup
import Mathlib

/-!
# Markup that closes what it opens

A console refuses a message with a closing tag that finds nothing to close.  A message is never
refused if every style that it opens is closed again: such a text leaves the open styles as they
were, whatever they were (`Markup.IsClosed`).  Text without opening brackets and backslashes is
closed, so is a sequence of closed texts (`Markup.IsClosed.append`), and so is a closed text between
the tags of a style (`Markup.IsClosed.enclose`).
-/

namespace LoadBinding.Log

open LoadBinding.Text

namespace Tag

variable {cs rest body : List Char}

/-- Whether a character neither begins a tag nor stops the next one from beginning. -/
def isPlain (c : Char) : Bool :=
  c != '[' && c != '\\'

/-- Text of plain characters has no tags in it. -/
lemma listFrom_plain (h : cs.all isPlain = true) (position : ℕ) :
    listFrom position 0 0 (cs ++ rest) = listFrom (position + cs.length) 0 0 rest := by
  induction cs generalizing position with
  | nil => rfl
  | cons c cs ih =>
    obtain ⟨hc, hcs⟩ := Bool.and_eq_true_iff.mp h
    obtain ⟨hbracket, hbackslash⟩ := Bool.and_eq_true_iff.mp hc
    rw [List.cons_append, listFrom, if_neg (by simpa using hbackslash),
      if_neg (by simpa using hbracket), ih hcs, List.length_cons]
    congr 1
    omega

/-- The characters that belong to the tag before are passed over. -/
lemma listFrom_skip (position : ℕ) :
    listFrom position 0 cs.length (cs ++ rest) = listFrom (position + cs.length) 0 0 rest := by
  induction cs generalizing position with
  | nil => rfl
  | cons c cs ih =>
    rw [List.length_cons, List.cons_append, listFrom, ih]
    congr 1
    omega

/-- What stands between two brackets is the body of a tag if it may begin as one. -/
lemma body?_of_closed (hfirst : body.head?.any isFirst = true)
    (h : ∀ c ∈ body, c ≠ '[' ∧ c ≠ ']') : body? (body ++ ']' :: rest) = some body := by
  have hinside : ∀ c ∈ body, (c != '[' && c != ']') = true := by
    intro c hc
    simpa using h c hc
  have htake : (body ++ ']' :: rest).takeWhile (fun c => c != '[' && c != ']') = body := by
    rw [List.takeWhile_append_of_pos hinside, List.takeWhile_cons_of_neg (by decide),
      List.append_nil]
  simp only [body?, htake, List.drop_left, hfirst, List.head?_cons, beq_self_eq_true,
    Bool.and_self, if_true]

/-- A tag is found where it stands. -/
lemma listFrom_tag (hfirst : body.head?.any isFirst = true)
    (h : ∀ c ∈ body, c ≠ '[' ∧ c ≠ ']') (position : ℕ) :
    listFrom position 0 0 ('[' :: (body ++ ']' :: rest)) =
      ⟨body, position⟩ :: listFrom (position + (body.length + 2)) 0 0 rest := by
  have hskip : listFrom (position + 1) 0 (body.length + 1) (body ++ ']' :: rest) =
      listFrom (position + 1 + (body.length + 1)) 0 0 rest := by
    rw [← List.length_singleton (a := ']'), ← List.length_append, ← listFrom_skip,
      List.append_assoc, List.singleton_append]
  rw [listFrom, if_neg (by decide), if_pos (by decide), body?_of_closed hfirst h]
  dsimp only
  rw [if_pos (by decide), hskip]
  congr 2
  omega

end Tag

namespace Markup

variable {cs ds name : List Char} {style : String}

/-- Whether the tags of a text leave the open styles as they were, wherever the text stands and
whatever follows it. -/
def IsClosed (cs : List Char) : Prop :=
  ∀ position, ∃ tags : List Tag,
    (∀ rest, Tag.listFrom position 0 0 (cs ++ rest) =
      tags ++ Tag.listFrom (position + cs.length) 0 0 rest) ∧
    ∀ styles, tags.foldlM openAfter styles = .ok styles

lemma isClosed_plain (h : cs.all Tag.isPlain = true) : IsClosed cs := by
  intro position
  refine ⟨[], ?_, fun styles => rfl⟩
  intro rest
  rw [Tag.listFrom_plain h, List.nil_append]

lemma IsClosed.append (hcs : IsClosed cs) (hds : IsClosed ds) : IsClosed (cs ++ ds) := by
  intro position
  obtain ⟨first, hfirst, hfirstStyles⟩ := hcs position
  obtain ⟨second, hsecond, hsecondStyles⟩ := hds (position + cs.length)
  refine ⟨first ++ second, ?_, ?_⟩
  · intro rest
    rw [List.append_assoc, hfirst, hsecond, List.append_assoc, List.length_append, Nat.add_assoc]
  · intro styles
    rw [List.foldlM_append, hfirstStyles]
    exact hsecondStyles styles

/-- The name of a style as it stands in a tag, without parameters, and the style itself, which is no
handler. -/
structure Names (name : List Char) (style : String) : Prop where
  first : name.head?.any (fun c => Tag.isFirst c && c != '/') = true
  inside : name.all (fun c => c != '[' && c != ']' && c != '=') = true
  trimmed : trim isBlank name = name
  normal : normalName name = .ok style
  noHandler : style.startsWith "@" = false

/-- Without parameters, the body of a tag is its name. -/
lemma name_eq_body (h : ∀ c ∈ name, c ≠ '=') (position : ℕ) : Tag.name ⟨name, position⟩ = name := by
  rw [Tag.name, List.takeWhile_eq_self_iff]
  intro c hc
  simpa using h c hc

lemma Names.of_mem (h : Names name style) {c : Char} (hc : c ∈ name) :
    (c ≠ '[' ∧ c ≠ ']') ∧ c ≠ '=' := by
  simpa using List.all_eq_true.mp h.inside c hc

lemma Names.ne_nil (h : Names name style) : name ≠ [] := by
  rintro rfl
  cases h.first

/-- An opening tag adds its style. -/
lemma Names.openAfter_opening (h : Names name style) (styles : List OpenStyle) (position : ℕ) :
    openAfter styles ⟨name, position⟩ = .ok (⟨style, []⟩ :: styles) := by
  have hname := name_eq_body (fun c hc => (h.of_mem hc).2) position
  have hparameters : Tag.parameters ⟨name, position⟩ = [] := by
    rw [Tag.parameters, hname]
    exact List.drop_eq_nil_of_le (Nat.le_succ _)
  unfold openAfter
  rw [hname, hparameters]
  split
  · have hfirst := h.first
    simp at hfirst
  · rw [h.normal]
    rfl

/-- The closing tag of the style that was opened last takes it away. -/
lemma Names.openAfter_closing (h : Names name style) (styles : List OpenStyle) (position : ℕ) :
    openAfter (⟨style, []⟩ :: styles) ⟨'/' :: name, position⟩ = .ok styles := by
  have hslash : ∀ c ∈ '/' :: name, c ≠ '=' := by
    intro c hc
    rcases List.mem_cons.mp hc with rfl | hc
    · decide
    · exact (h.of_mem hc).2
  have hclose : close ⟨style, []⟩ = .ok () := by
    unfold close
    rw [h.noHandler]
    rfl
  have hnonempty : name.isEmpty = false := by simpa using h.ne_nil
  unfold openAfter
  rw [name_eq_body hslash]
  split
  · rename_i closed heq
    obtain rfl : name = closed := (List.cons.inj heq).2
    rw [h.trimmed]
    dsimp only
    rw [hnonempty, if_neg Bool.false_ne_true, h.normal]
    simp [bind, Except.bind, pure, Except.pure, hclose]
  · rename_i hother
    exact absurd rfl (hother name)

/-- What stands between the tags of a style is closed like the text without them. -/
lemma IsClosed.enclose (h : Names name style) (hcs : IsClosed cs) :
    IsClosed ('[' :: (name ++ ']' :: (cs ++ '[' :: '/' :: (name ++ [']'])))) := by
  have hopening : name.head?.any Tag.isFirst = true := by
    have hfirst := h.first
    cases name with
    | nil => exact hfirst
    | cons c name => exact (Bool.and_eq_true_iff.mp hfirst).1
  have hinside : ∀ c ∈ name, c ≠ '[' ∧ c ≠ ']' := fun c hc => (h.of_mem hc).1
  have hslash : ∀ c ∈ '/' :: name, c ≠ '[' ∧ c ≠ ']' := by
    intro c hc
    rcases List.mem_cons.mp hc with rfl | hc
    · decide
    · exact hinside c hc
  intro position
  obtain ⟨tags, htags, hstyles⟩ := hcs (position + (name.length + 2))
  refine ⟨⟨name, position⟩ ::
    (tags ++ [⟨'/' :: name, position + (name.length + 2) + cs.length⟩]), ?_, ?_⟩
  · intro rest
    simp only [List.cons_append, List.append_assoc, List.nil_append]
    rw [Tag.listFrom_tag hopening hinside, htags]
    have hclosing := @Tag.listFrom_tag rest _ rfl hslash (position + (name.length + 2) + cs.length)
    rw [List.cons_append] at hclosing
    rw [hclosing]
    congr 4
    simp only [List.length_cons, List.length_append, List.length_nil]
    omega
  · intro styles
    simp only [List.foldlM_cons, List.foldlM_append, List.foldlM_nil, h.openAfter_opening, hstyles,
      h.openAfter_closing, bind, Except.bind, pure, Except.pure]

/-- A closed text leaves no style open, and is not refused. -/
theorem leftOpen_of_isClosed {text : String} (h : IsClosed text.toList) :
    leftOpen text = .ok [] := by
  obtain ⟨tags, htags, hstyles⟩ := h 0
  have hlist := htags []
  rw [List.append_nil, Tag.listFrom, List.append_nil] at hlist
  rw [leftOpen, Tag.list, hlist]
  exact hstyles []

end Markup

end LoadBinding.Log
