import LoadBinding.Log.Logger
import LoadBinding.Proofs.ClosedMarkup
import LoadBinding.Proofs.IntegerLists

/-!
# Setting up logging again and again

Every set-up replaces the handlers of the logger, and one that asks for a known level also sets the
level and the propagation and is announced (`Logger.setUp_of_known`).  The announcement to a console
is markup, and is never refused: the text of a known level opens no tag, and all tags of
the announcement are closed (`Logger.isClosed_announcement`).

A set-up that asks for an unknown level is refused, and keeps the level and the propagation, but
not the handlers: a console asks for the level before its handler is added, and leaves none, and
the error stream asks for it afterwards, and leaves its own (`Logger.setUp_of_unknown`).  So the
handlers are those of the last set-up, and the level and the propagation those of the last one that
was not refused (`Logger.settings_after`).
-/

namespace LoadBinding.Log

/-- One call that sets up logging. -/
structure SetUpRequest where
  time : String
  level : LevelName
  pretty : Bool
  propagate : Bool

namespace SetUpRequest

/-- The handler that a request asks for, at a level. -/
def handler (r : SetUpRequest) (v : LevelValue) : Handler :=
  if r.pretty then { kind := .console, level := v } else { kind := .stream }

/-- The handlers that a request leaves behind. -/
def handlers (r : SetUpRequest) : List Handler :=
  match r.level.level? with
  | some v => [r.handler v]
  | none => if r.pretty then [] else [{ kind := .stream }]

/-- What a request sets if its level is known. -/
def settings? (r : SetUpRequest) : Option (LevelValue × Bool) :=
  r.level.level?.map fun v => (v, r.propagate)

end SetUpRequest

/-! ## Levels -/

/-- The text of a known level has neither opening brackets nor backslashes in it. -/
lemma LevelName.plain_text {level : LevelName} {v : LevelValue} (h : level.level? = some v) :
    level.text.toList.all Tag.isPlain = true := by
  cases level with
  | name s =>
    obtain ⟨n, hn, -⟩ := Option.map_eq_some_iff.mp h
    obtain ⟨before, after, hlevels, -⟩ := List.lookup_eq_some_iff.mp hn
    have hmem : (s, n) ∈ namedLevels := by
      rw [hlevels]
      exact List.mem_append_right _ List.mem_cons_self
    have hnames : (namedLevels.all fun p => p.1.toList.all Tag.isPlain) = true := by
      decide +kernel
    exact List.all_eq_true.mp hnames (s, n) hmem
  | level v =>
    cases v with
    | number n =>
      rw [List.all_eq_true]
      intro c hc
      rcases Number.eq_or_isDigit_of_mem_toString hc with rfl | hdigit
      · decide
      · have hrange := Text.toNat_of_isDigit hdigit
        rw [Tag.isPlain, Bool.and_eq_true_iff]
        constructor <;> (rw [bne_iff_ne]; rintro rfl; revert hrange; decide)
    | truth b => cases b <;> decide +kernel
  | other literal => cases h

namespace Logger

variable {l : Logger} {r : SetUpRequest}

/-! ## Announcements -/

lemma names_bold : Markup.Names "bold".toList "bold" := by
  constructor <;> decide +kernel

lemma names_dimWhite : Markup.Names "dim white".toList "dim white" := by
  constructor <;> decide +kernel

/-- The announcement of a level without opening brackets is markup that closes what it opens. -/
lemma isClosed_announcement {text : String} (h : text.toList.all Tag.isPlain = true) :
    Markup.IsClosed (markupText family
      ("Binding logging initialized at level: " ++ ("[bold]" ++ text ++ "[/bold]"))).toList := by
  have hsource : Markup.IsClosed family.toList := Markup.isClosed_plain (by decide +kernel)
  have hwords : Markup.IsClosed ": Binding logging initialized at level: ".toList :=
    Markup.isClosed_plain (by decide +kernel)
  have hlevel : Markup.IsClosed text.toList := Markup.isClosed_plain h
  have hall := ((hsource.enclose names_dimWhite).append hwords).append (hlevel.enclose names_bold)
  simp only [markupText, String.toList_append]
  simpa using hall

/-- A handler refuses no record that is closed markup, and the error stream refuses none. -/
lemma exists_handle {handler : Handler} {source text : String}
    (h : handler.kind = .console → Markup.IsClosed (markupText source text).toList)
    (time : String) (v : LevelValue) :
    ∃ written, handle handler time v source text = .ok written := by
  unfold handle
  split
  · exact ⟨_, rfl⟩
  · cases hkind : handler.kind with
    | null => exact ⟨_, rfl⟩
    | stream => exact ⟨_, rfl⟩
    | console =>
      rw [Markup.leftOpen_of_isClosed (h hkind)]
      exact ⟨_, rfl⟩

/-- An answer is kept, and nothing else changes. -/
lemma ask_eq (l : Logger) (source : String) (level : ℤ) :
    ∃ isPassing answered, l.ask source level = (isPassing, { l with answered := answered }) := by
  unfold ask
  cases l.answered.lookup (source, level) with
  | some answer => exact ⟨_, _, rfl⟩
  | none => exact ⟨_, _, rfl⟩

/-- A record of the family goes to the only handler, which does not refuse it. -/
lemma exists_deliver {handler : Handler} {time text written : String} {v : LevelValue}
    (hhandlers : l.handlers = [handler])
    (hhandle : handle handler time v family text = .ok written) :
    ∃ emission, l.deliver time v family text = .ok emission := by
  have hmember : isMember l.known family = true := by
    rw [isMember, beq_self_eq_true, Bool.true_or]
  unfold deliver
  rw [hmember, hhandlers, if_pos rfl, List.isEmpty_cons, Bool.false_and,
    if_neg Bool.false_ne_true, List.mapM_cons, hhandle]
  exact ⟨_, rfl⟩

lemma exists_emit {handler : Handler} {time text written : String} {v : LevelValue}
    (hhandlers : l.handlers = [handler])
    (hhandle : handle handler time v family text = .ok written) :
    ∃ emission known answered, l.emit time (.level v) family text =
      (.ok emission, { l with known := known, answered := answered }) := by
  obtain ⟨isPassing, answered, hask⟩ := ask_eq { l with known := family :: l.known } family v.toInt
  unfold emit
  dsimp only
  rw [hask]
  cases isPassing with
  | false => exact ⟨_, _, _, rfl⟩
  | true =>
    obtain ⟨emission, hemission⟩ := exists_deliver
      (l := { l with known := family :: l.known, answered := answered }) hhandlers hhandle
    exact ⟨emission, _, _, by rw [← hemission]; rfl⟩

/-! ## Set-ups -/

/-- A set-up that asks for a known level is announced, and leaves what it asks for. -/
lemma setUp_of_known {v : LevelValue} (h : r.level.level? = some v) (l : Logger) :
    ∃ emission known answered, l.setUp r.time r.level r.pretty r.propagate =
      (.ok emission, { level := v, propagate := r.propagate, handlers := [r.handler v],
                       known := known, answered := answered }) := by
  have hclosed : (r.handler v).kind = .console → Markup.IsClosed (markupText family
      ("Binding logging initialized at level: " ++
        (if r.pretty then "[bold]" ++ r.level.text ++ "[/bold]" else r.level.text))).toList := by
    unfold SetUpRequest.handler
    cases r.pretty with
    | false => exact fun hstream => absurd hstream (by simp)
    | true => exact fun _ => isClosed_announcement (LevelName.plain_text h)
  obtain ⟨written, hwritten⟩ := exists_handle hclosed r.time (.number infoLevel)
  unfold setUp
  rw [h]
  exact exists_emit rfl hwritten

/-- A set-up that asks for an unknown level is refused, and the handlers that were there are
gone. -/
lemma setUp_of_unknown (h : r.level.level? = none) (l : Logger) :
    l.setUp r.time r.level r.pretty r.propagate =
      (.error (.unknownLevel r.level), { l with handlers := r.handlers }) := by
  unfold setUp SetUpRequest.handlers
  rw [h]

/-- The logger as one request leaves it, and what the request tells. -/
def perform (l : Logger) (r : SetUpRequest) : Except LoggingError Emission × Logger :=
  l.setUp r.time r.level r.pretty r.propagate

/-- The logger as requests leave it one after the other. -/
def after (l : Logger) (requests : List SetUpRequest) : Logger :=
  requests.foldl (fun l r => (l.perform r).2) l

/-- What one request changes: the handlers always, and the rest if its level is known. -/
lemma settings_perform (l : Logger) (r : SetUpRequest) :
    (l.perform r).2.handlers = r.handlers ∧
      ((l.perform r).2.level, (l.perform r).2.propagate) =
        r.settings?.getD (l.level, l.propagate) := by
  rw [perform, SetUpRequest.settings?]
  cases h : r.level.level? with
  | none =>
    rw [setUp_of_unknown h]
    exact ⟨rfl, rfl⟩
  | some v =>
    obtain ⟨emission, known, answered, hsetUp⟩ := setUp_of_known h l
    rw [hsetUp, SetUpRequest.handlers, h]
    exact ⟨rfl, rfl⟩

/-- The handlers are those of the last request, and the level and the propagation those of the last
request with a known level. -/
theorem settings_after (l : Logger) (requests : List SetUpRequest) :
    (l.after requests).handlers =
        (requests.getLast?.map SetUpRequest.handlers).getD l.handlers ∧
      ((l.after requests).level, (l.after requests).propagate) =
        (requests.filterMap SetUpRequest.settings?).getLast?.getD (l.level, l.propagate) := by
  induction requests generalizing l with
  | nil => exact ⟨rfl, rfl⟩
  | cons r rest ih =>
    obtain ⟨hhandlers, hsettings⟩ := ih (l.perform r).2
    obtain ⟨hfirst, hfirstSettings⟩ := settings_perform l r
    rw [hfirst] at hhandlers
    rw [hfirstSettings] at hsettings
    rw [after, List.foldl_cons, ← after, hhandlers, hsettings, List.getLast?_cons,
      List.filterMap_cons]
    constructor
    · cases rest.getLast? <;> rfl
    · cases r.settings? with
      | none => rfl
      | some settings =>
        dsimp only
        rw [List.getLast?_cons]
        rfl

/-- After any requests, one that asks for a known level succeeds, and leaves one handler of the kind
asked for, the level and the propagation.  One that asks for an unknown level is refused and keeps
the level and the propagation, but not the handlers: a console leaves none, and the error stream its
own. -/
theorem perform_after (before : List SetUpRequest) (r : SetUpRequest) :
    ((({} : Logger).after before).handlers =
        (before.getLast?.map SetUpRequest.handlers).getD [{ kind := .null }] ∧
      ((({} : Logger).after before).level, (({} : Logger).after before).propagate) =
        (before.filterMap SetUpRequest.settings?).getLast?.getD (.number 0, true)) ∧
    match r.level.level? with
    | some v => ∃ emission l', (({} : Logger).after before).perform r = (.ok emission, l') ∧
        l'.handlers = [r.handler v] ∧ l'.level = v ∧ l'.propagate = r.propagate
    | none => ∃ l', (({} : Logger).after before).perform r =
          (.error (.unknownLevel r.level), l') ∧
        l'.handlers = (if r.pretty then [] else [{ kind := .stream }]) ∧
        l'.level = (({} : Logger).after before).level ∧
        l'.propagate = (({} : Logger).after before).propagate := by
  refine ⟨settings_after {} before, ?_⟩
  cases h : r.level.level? with
  | some v =>
    obtain ⟨emission, known, answered, hsetUp⟩ := setUp_of_known h (({} : Logger).after before)
    exact ⟨emission, _, hsetUp, rfl, rfl, rfl⟩
  | none =>
    refine ⟨_, setUp_of_unknown h _, ?_, rfl, rfl⟩
    dsimp only
    rw [SetUpRequest.handlers, h]

/-- The handler that is there from the start is lost to a request that is refused. -/
theorem handlers_lost_to_unknown_level :
    (({} : Logger).perform ⟨"", .name "bogus", true, false⟩).1 =
        .error (.unknownLevel (.name "bogus")) ∧
      (({} : Logger).perform ⟨"", .name "bogus", true, false⟩).2.handlers = [] ∧
      ({} : Logger).handlers = [{ kind := .null }] := by
  decide +kernel

end Logger

end LoadBinding.Log
