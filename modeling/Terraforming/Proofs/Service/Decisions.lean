import Mathlib.Data.List.Forall2
import Terraforming.Proofs.Service.Answers
import Terraforming.Proofs.Turn.Resumption
import Terraforming.Proofs.Wire.Limits
import Terraforming.Proofs.Wire.Loaded

/-!
# Options that are sent back

A move that waits for a decision is answered with the options, and each of these can be put into the
choices of the same request.

* `readSentChoice_choiceFor` — an option that is sent back is read as the choice that it stands for;
* `reads_moreChoices` — a request with one more choice is read as the same request with that choice;
* `attempt_resumed` — the move then goes on from where it stopped;
* `options_sent_back` — so the answer is no rejection, and blames no answer.
-/

namespace Terraforming

open Reader

/-! ## Options as choices -/

/-- An option, put where the choices of its kind have it; a card is a choice as it is listed. -/
def choiceFor (kind : String) (option : Json) : Json :=
  match kind with
  | "location" => .object [("location", option)]
  | "player" => .object [("player_id", option)]
  | "option" => .object [("option_index", option)]
  | _ => option

namespace SentLocation

/-- A location as it is listed among the options. -/
def ofLocation : Location → SentLocation
  | .onMars h => { x := h.x, y := h.y }
  | .offMars s => { site := s }

theorem location_ofLocation (l : Location) : (ofLocation l).location = .ok l := by
  cases l <;> rfl

end SentLocation

namespace SentChoice

/-- A choice as it is sent. -/
def ofChoice (c : Choice) : SentChoice :=
  { location := c.location.map .ofLocation, player := c.player, instanceId := c.instanceId,
    option := c.option }

theorem choice_ofChoice (c : Choice) : (ofChoice c).choice = .ok c := by
  obtain ⟨location, player, instanceId, option⟩ := c
  cases location with
  | none => rfl
  | some l => simp [choice, ofChoice, SentLocation.location_ofLocation]

end SentChoice

theorem readSentLocation_option (l : Location) :
    readSentLocation l.optionJson = .ok (.ofLocation l) := by
  cases l with
  | onMars h =>
    have x : optional int (.int h.x) = .ok (some h.x) := rfl
    have y : optional int (.int h.y) = .ok (some h.y) := rfl
    simp [readSentLocation, Location.optionJson, x, y, SentLocation.ofLocation]
  | offMars s =>
    have site : optional term (.term s) = .ok (some s) := optional_term (some s)
    simp [readSentLocation, Location.optionJson, site, SentLocation.ofLocation]

/-- An option of a decision, put into a choice, is read as the choice that stands in its place. -/
theorem readSentChoice_choiceFor (o : Options) :
    List.Forall₂ (fun option c => readSentChoice (choiceFor o.typeWord option) = .ok (.ofChoice c))
      o.json o.choices := by
  have same {α : Type} {as : List α} {w : α → Json} {c : α → Choice}
      (h : ∀ a, readSentChoice (choiceFor o.typeWord (w a)) = .ok (.ofChoice (c a))) :
      List.Forall₂ (fun option c => readSentChoice (choiceFor o.typeWord option) = .ok (.ofChoice c))
        (as.map w) (as.map c) := by
    rw [List.forall₂_map_left_iff, List.forall₂_map_right_iff, List.forall₂_same]
    exact fun a _ => h a
  have number (n : Int) : optional int (.int n) = .ok (some n) := rfl
  cases o with
  | locations ls =>
    refine same fun l => ?_
    have location : optional readSentLocation l.optionJson = .ok (some (.ofLocation l)) := by
      have read := readSentLocation_option l
      cases l <;> exact congrArg (some <$> ·) read
    simp [readSentChoice, choiceFor, Options.typeWord, location, SentChoice.ofChoice, Choice.at_]
  | players ps =>
    refine same fun p => ?_
    simp [readSentChoice, choiceFor, Options.typeWord, number, SentChoice.ofChoice, Choice.ofPlayer]
  | cards cs =>
    refine same fun t => ?_
    simp [readSentChoice, choiceFor, Options.typeWord, number, SentChoice.ofChoice, Choice.ofCard]
  | indexes n =>
    refine same fun k => ?_
    simp [readSentChoice, choiceFor, Options.typeWord, Json.nat, number, SentChoice.ofChoice,
      Choice.ofOption]

/-! ## A request with one more choice -/

/-- The members `ms'` are those of `ms` with one more choice. -/
structure AddsChoice (ms ms' : Members) (choice : Json) : Prop where
  others : ∀ name, name ≠ "choices" → Json.member? name ms' = Json.member? name ms
  choices : ∃ xs, (Json.member? "choices" ms).getD (.array []) = .array xs ∧
    Json.member? "choices" ms' = some (.array (xs ++ [choice]))

theorem all_elements_append {α : Type} {read : Reader α} {xs : List Json} {x : Json} {as : List α}
    {a : α} {start : Nat} (h : Checked.all (elements read start xs) = .ok as) (hx : read x = .ok a) :
    Checked.all (elements read start (xs ++ [x])) = .ok (as ++ [a]) := by
  induction xs generalizing start as with
  | nil =>
    cases h
    simp [elements, Checked.all, hx]
  | cons y xs ih =>
    rw [elements, Checked.all] at h
    obtain ⟨_, others, first, rest, rfl⟩ := Checked.seq_eq_ok.1 h
    obtain ⟨b, read, rfl⟩ := Checked.map_eq_ok.1 first
    rw [List.cons_append, elements, Checked.all, read, ih rest]
    rfl

namespace AddsChoice

variable {ms ms' : Members} {choice : Json} {sent : SentChoice} {sents : List SentChoice}

theorem readChoices (adds : AddsChoice ms ms' choice) (h : readChoices ms = .ok sents)
    (hc : readSentChoice choice = .ok sent) : readChoices ms' = .ok (sents ++ [sent]) := by
  obtain ⟨xs, before, after⟩ := adds.choices
  have read : list readSentChoice (.array xs) = .ok sents := by
    rw [Terraforming.readChoices, fieldOr_eq] at h
    cases hm : Json.member? "choices" ms with
    | none =>
      rw [hm] at before h
      cases before
      cases h
      rfl
    | some j =>
      rw [hm] at before h
      cases before
      exact Checked.under_eq_ok.1 h
  rw [Terraforming.readChoices, fieldOr_eq, after, Option.map_some, Option.getD_some,
    Checked.under_eq_ok]
  exact all_elements_append read hc

/-- The rest of the request is read as before. -/
theorem readMove {head : Checked (List SentChoice → Bool → MoveRequest)} {r : MoveRequest}
    (made : ∀ f, head = .ok f → ∃ player move, f = MoveRequest.mk player move)
    (adds : AddsChoice ms ms' choice) (hc : readSentChoice choice = .ok sent)
    (h : head <*> Terraforming.readChoices ms <*> readCommit ms = .ok r) :
    head <*> Terraforming.readChoices ms' <*> readCommit ms' =
      .ok { r with choices := r.choices ++ [sent] } := by
  obtain ⟨_, commit, started, committed, rfl⟩ := Checked.seq_eq_ok.1 h
  obtain ⟨f, sents, hf, hs, rfl⟩ := Checked.seq_eq_ok.1 started
  obtain ⟨player, move, rfl⟩ := made f hf
  have same : readCommit ms' = readCommit ms := by
    rw [readCommit, fieldOr_eq, adds.others "commit" (by decide), readCommit, fieldOr_eq]
  rw [hf, adds.readChoices hs hc, same, committed]
  rfl

end AddsChoice

/-- How the body of a move is read, by the path that it is sent to. -/
def moveReaders : List (Reader MoveRequest) := [readPlayCard, readPerformAction, readStandardProject]

/-- A request with one more choice is read as the same request, with that choice. -/
theorem reads_moreChoices {read : Reader MoveRequest} {ms ms' : Members} {choice : Json}
    {sent : SentChoice} {r : MoveRequest} (reader : read ∈ moveReaders)
    (adds : AddsChoice ms ms' choice) (hc : readSentChoice choice = .ok sent)
    (h : read (.object ms) = .ok r) :
    read (.object ms') = .ok { r with choices := r.choices ++ [sent] } := by
  have field {α : Type} {name : String} (other : name ≠ "choices") (read : Reader α) :
      field ms' name read = field ms name read := by
    rw [field_eq, adds.others name other, field_eq]
  have fieldOr {α : Type} {name : String} (other : name ≠ "choices") (d : α) (read : Reader α) :
      fieldOr ms' name d read = fieldOr ms name d read := by
    rw [fieldOr_eq, adds.others name other, fieldOr_eq]
  simp only [moveReaders, List.mem_cons, List.not_mem_nil, or_false] at reader
  rcases reader with rfl | rfl | rfl
  · unfold readPlayCard at h ⊢
    rw [record_object] at h ⊢
    rw [field (by decide), field (by decide)]
    refine adds.readMove (fun f hf => ?_) hc h
    obtain ⟨_, name, started, -, rfl⟩ := Checked.seq_eq_ok.1 hf
    obtain ⟨player, -, rfl⟩ := Checked.map_eq_ok.1 started
    exact ⟨player, .playCard name, rfl⟩
  · unfold readPerformAction at h ⊢
    rw [record_object] at h ⊢
    rw [field (by decide), field (by decide), fieldOr (by decide)]
    refine adds.readMove (fun f hf => ?_) hc h
    obtain ⟨_, index, named, -, rfl⟩ := Checked.seq_eq_ok.1 hf
    obtain ⟨_, instanceId, started, -, rfl⟩ := Checked.seq_eq_ok.1 named
    obtain ⟨player, -, rfl⟩ := Checked.map_eq_ok.1 started
    exact ⟨player, .performAction instanceId index, rfl⟩
  · unfold readStandardProject at h ⊢
    rw [record_object] at h ⊢
    rw [field (by decide), field (by decide)]
    refine adds.readMove (fun f hf => ?_) hc h
    obtain ⟨_, project, started, -, rfl⟩ := Checked.seq_eq_ok.1 hf
    obtain ⟨player, -, rfl⟩ := Checked.map_eq_ok.1 started
    exact ⟨player, .standardProject project, rfl⟩

/-! ## Requests as they are sent -/

namespace Request

/-- The body of `r'` is that of `r`, with one more choice; both are within the limits. -/
def AddsChoice (limits : Json.Limits) (r r' : Request) (choice : Json) : Prop :=
  ∃ ms ms', r.bodyJson limits = .ok (.object ms) ∧ r'.bodyJson limits = .ok (.object ms') ∧
    Terraforming.AddsChoice ms ms' choice

theorem bodyOf_eq_ok {α : Type} {r : Request} {limits : Json.Limits} {read : Reader α} {a : α} :
    r.bodyOf limits read = .ok a ↔ ∃ j, r.bodyJson limits = .ok j ∧ read j = .ok a := by
  unfold bodyOf
  split
  next empty =>
    have nothing : r.bodyJson limits = .error .malformed := by
      rw [bodyJson, String.isEmpty_iff.1 empty]
      rfl
    simp [nothing]
  next =>
    cases r.bodyJson limits with
    | error e => cases e <;> simp
    | ok j =>
      dsimp only
      cases hj : read j <;> simp [hj]

/-- The body has a value with a certain text, so it has that value. -/
theorem bodyJson_of_text {r : Request} {limits : Json.Limits} {j : Json} (plain : j.plain = true)
    (read : (r.bodyJson limits).toOption.any (fun b => b.plain && b.text == j.text) = true) :
    r.bodyJson limits = .ok j := by
  obtain ⟨b, hb, same⟩ := (Option.any_eq_true _ _).1 read
  obtain ⟨plain', text⟩ := Bool.and_eq_true_iff.1 same
  rw [← Json.eq_of_text_eq plain' plain (eq_of_beq text)]
  exact toOption_eq_some.1 hb

end Request

/-! ## Taking a move up -/

/-- Every choice that is listed is accepted. -/
theorem Options.accepts_of_mem_choices {o : Options} {c : Choice} (h : c ∈ o.choices) :
    o.accepts c = true := by
  cases o with
  | locations ls =>
    obtain ⟨l, hl, rfl⟩ := List.mem_map.1 h
    simpa [accepts, Choice.at_] using hl
  | players ps =>
    obtain ⟨p, hp, rfl⟩ := List.mem_map.1 h
    simpa [accepts, Choice.ofPlayer] using hp
  | cards cs =>
    obtain ⟨t, ht, rfl⟩ := List.mem_map.1 h
    simpa [accepts, Choice.ofCard, Choice.card?] using ht
  | indexes n =>
    obtain ⟨k, hk, rfl⟩ := List.mem_map.1 h
    simpa [accepts, Choice.ofOption] using List.mem_range.1 hk

/-- An accepted answer to the decision that an attempt waits for is not refused as illegal. -/
theorem Attempt.Pends.resume_legal {p : PlayerId} {a : Attempt} {pending : Pending} {c : Choice}
    {r : Refusal} (pends : a.Pends p) (waits : a.pending? = some pending)
    (hc : pending.options.accepts c = true) (h : a.resume p [c] = .ok (.unplayable r)) :
    r.blamesAnswer = false := by
  cases a with
  | unplayable _ | complete _ _ => cases waits
  | waiting ops remaining pending' source g =>
    cases waits
    obtain ⟨is, d, rfl, hd, hw⟩ := pends
    exact Impact.resolve_legal hd hw hc ((Impact.resolve_from_start ops g [c]).symm.trans h)

namespace Service

variable {s s₁ : Service} {id : String} {h : Hosted} {r : MoveRequest} {m : MoveAnswer}
  {a : Attempt} {pending : Pending} {sent : SentChoice} {c : Choice} {limits : Json.Limits}

/-- With one more choice, a move goes on from where it stopped. -/
theorem attempt_resumed (ha : attempt h r = .ok a) (hs : sent.choice = .ok c) :
    a.Pends r.player ∧ attempt h { r with choices := r.choices ++ [sent] } =
      unbroken (a.resume r.player [c]) := by
  obtain ⟨card, hcard, ha⟩ := bind_eq_ok.1 ha
  obtain ⟨cs, hcs, ha⟩ := bind_eq_ok.1 ha
  have taken := mapError_eq_ok.1 ha
  have chosen := mapM_eq_ok.1 (mapError_eq_ok.1 hcs)
  have choices : choicesFor { r with choices := r.choices ++ [sent] } = .ok (cs ++ [c]) :=
    mapError_eq_ok.2 (mapM_eq_ok.2 (List.rel_append chosen (.cons hs .nil)))
  have resumes := Game.takeTurn_resumes (p := r.player) h.game (turnFor card r.move)
  refine ⟨resumes.pends cs a taken, ?_⟩
  simp only [attempt, hcard, choices, ok_bind, resumes.append cs [c] a taken]

/-- A move that waits changes nothing. -/
theorem move_waiting (hm : s.move id r = (.ok m, s₁)) (waits : m.attempt.pending? = some pending) :
    s₁ = s ∧ ∃ h, s.hostedFor id r.player = .ok h ∧ attempt h r = .ok m.attempt := by
  obtain ⟨f, failed⟩ | ⟨h, a, hh, ha⟩ := move_cases s id r
  · rw [failed] at hm
    cases hm
  · cases hc : committed? r a with
    | some g =>
      rw [move_of_committed hh ha hc, Prod.mk.injEq, map_eq_ok] at hm
      obtain ⟨⟨summary, -, rfl⟩, -⟩ := hm
      obtain ⟨-, ops, rfl⟩ := committed?_eq_some.1 hc
      cases waits
    | none =>
      rw [move_of_uncommitted hh ha hc, Prod.mk.injEq, map_eq_ok] at hm
      obtain ⟨⟨summary, -, rfl⟩, rfl⟩ := hm
      exact ⟨rfl, h, hh, ha⟩

/-- What comes of a move that comes to an attempt: the attempt, unless the game cannot be scored. -/
theorem move_of_attempt (hh : s.hostedFor id r.player = .ok h) (ha : attempt h r = .ok a) :
    (∃ f, (s.move id r).1 = .error (.ofFault f)) ∨ ∃ m, (s.move id r).1 = .ok m ∧ m.attempt = a := by
  have summed (h : Hosted) (committed : Bool) :
      (∃ f, (h.summary id).map (MoveAnswer.mk a committed) = .error (.ofFault f)) ∨
        ∃ m, (h.summary id).map (MoveAnswer.mk a committed) = .ok m ∧ m.attempt = a := by
    rw [Hosted.summary, unbroken]
    cases h.game.scores with
    | error f => exact .inl ⟨f, rfl⟩
    | ok points => exact .inr ⟨_, rfl, rfl⟩
  cases hc : committed? r a with
  | some g =>
    rw [move_of_committed hh ha hc]
    exact summed { h with game := g } true
  | none =>
    rw [move_of_uncommitted hh ha hc]
    exact summed h false

/-- **A move that is taken up with an accepted answer is not turned away**, and not refused for the
answer. -/
theorem move_resumed (hm : s.move id r = (.ok m, s₁)) (waits : m.attempt.pending? = some pending)
    (hs : sent.choice = .ok c) (hc : pending.options.accepts c = true) :
    (∃ f, (s₁.move id { r with choices := r.choices ++ [sent] }).1 = .error (.ofFault f)) ∨
      ∃ m', (s₁.move id { r with choices := r.choices ++ [sent] }).1 = .ok m' ∧
        ∀ c' t, m'.attempt ≠ .unplayable (.illegalAnswer c' t) := by
  obtain ⟨rfl, h, hh, ha⟩ := move_waiting hm waits
  obtain ⟨pends, resumed⟩ := attempt_resumed ha hs
  cases hb : m.attempt.resume r.player [c] with
  | error f =>
    rw [hb] at resumed
    refine .inl ⟨f, ?_⟩
    have there : s₁.hostedFor id ({ r with choices := r.choices ++ [sent] } : MoveRequest).player =
      .ok h := hh
    simp only [move, there, ok_bind, resumed, unbroken, Except.mapError, error_bind]
  | ok b =>
    have comes : attempt h { r with choices := r.choices ++ [sent] } = .ok b := by
      rw [resumed, hb]
      rfl
    obtain failed | ⟨m', answered, rfl⟩ :=
      move_of_attempt (r := { r with choices := r.choices ++ [sent] }) hh comes
    · exact .inl failed
    · refine .inr ⟨m', answered, fun c' t illegal => ?_⟩
      have fair := pends.resume_legal waits hc (hb.trans (congrArg _ illegal))
      cases fair

/-! ## Whole requests -/

/-- The service takes a request up: what it answers is no rejection but the answer to a move, and it
blames no answer.  There may be no answer at all, but only where the engine breaks down on a game that
cannot be presented. -/
structure TakesUp (s : Service) (limits : Json.Limits) (id : String) (req : Request)
    (read : Reader MoveRequest) : Prop where
  answered : (∃ f, (s.moving limits id req read).1 = .broken (.fault f)) ∨
    ∃ m : MoveAnswer, (s.moving limits id req read).1 = .answered 200 m.json ∧
      ∀ c t, m.attempt ≠ .unplayable (.illegalAnswer c t)
  presentable : s.Presentable → ∀ e, (s.moving limits id req read).1 ≠ .broken e

theorem moving_eq {req : Request} {read : Reader MoveRequest}
    (h : req.bodyOf limits read = .ok r) :
    s.moving limits id req read = changing MoveAnswer.json (s.move id r) := by
  rw [moving, h]
  rfl

/-- An answer is sent as it is, if only as a rejection. -/
theorem changing_answered {α : Type} {json : α → Json} {x : Except Failure α × Service}
    (h : Answered x.1) (e : SnapshotError) : (changing json x).1 ≠ .broken e := by
  obtain ⟨a | a, s⟩ := x
  · cases a with
    | rejected => exact fun broken => nomatch broken
    | broken e => exact absurd rfl (h e)
  · exact fun broken => nomatch broken

/-- **Options that are listed can be sent back.** When a request for a move is answered with a decision
that waits, each of the options listed, put into one more choice of the same request, is read as the
choice that stands in its place, and the request is taken up. -/
theorem options_sent_back {req : Request} {read : Reader MoveRequest} (reader : read ∈ moveReaders)
    (hr : req.bodyOf limits read = .ok r) (hm : s.move id r = (.ok m, s₁))
    (waits : m.attempt.pending? = some pending) :
    List.Forall₂ (fun option c => ∃ sent,
        readSentChoice (choiceFor pending.options.typeWord option) = .ok sent ∧
        sent.choice = .ok c ∧
        ∀ req' : Request,
          req.AddsChoice limits req' (choiceFor pending.options.typeWord option) →
          req'.bodyOf limits read = .ok { r with choices := r.choices ++ [sent] } ∧
            s₁.TakesUp limits id req' read)
      pending.options.json pending.options.choices := by
  have listed := readSentChoice_choiceFor pending.options
  rw [List.forall₂_iff_get] at listed ⊢
  obtain ⟨length, each⟩ := listed
  refine ⟨length, fun k hk hk' => ?_⟩
  have sent := SentChoice.choice_ofChoice (pending.options.choices.get ⟨k, hk'⟩)
  refine ⟨_, each k hk hk', sent, fun req' ⟨ms, ms', body, body', adds⟩ => ?_⟩
  have accepted := Options.accepts_of_mem_choices (List.get_mem pending.options.choices ⟨k, hk'⟩)
  obtain ⟨j, hj, hr⟩ := Request.bodyOf_eq_ok.1 hr
  cases body.symm.trans hj
  have more := Request.bodyOf_eq_ok.2
    ⟨_, body', reads_moreChoices reader adds (each k hk hk') hr⟩
  refine ⟨more, ?_, ?_⟩
  · rw [moving_eq more]
    refine (move_resumed hm waits sent accepted).imp ?_ ?_
    · rintro ⟨f, failed⟩
      exact ⟨f, by rw [changing, failed]; rfl⟩
    · rintro ⟨m', answered, fair⟩
      exact ⟨m', by rw [changing, answered]; rfl, fair⟩
  · intro presentable
    rw [moving_eq more]
    exact changing_answered (presentable.answered_move id _)

/-- A service with a game of one player who can pay for an ocean. -/
def hostingSolo : Service where
  games := Table.ofList [(idOf 0, { catalog := .base, game := .solo })]
  created := 1

/-- A request for an ocean. -/
def oceanAsked (choices : String) : Request where
  method := "POST"
  address := "/api/v1/games/" ++ idOf 0 ++ "/standard-projects"
  body := "\x7b\"player_id\": 1, \"project\": \"aquifer\", \"choices\": [" ++ choices ++ "]\x7d"

/-- The places for oceans on the standard board. -/
def oceanPlaces : List Location :=
  [.onMars ⟨3, -3⟩, .onMars ⟨4, -8⟩, .onMars ⟨4, -4⟩, .onMars ⟨5, -6⟩, .onMars ⟨5, -5⟩, .onMars ⟨5, -1⟩,
    .onMars ⟨6, -7⟩, .onMars ⟨7, -8⟩, .onMars ⟨7, -3⟩, .onMars ⟨8, -7⟩, .onMars ⟨8, -5⟩, .onMars ⟨8, -4⟩]

/-- The request for an ocean in the first of these places. -/
def oceanPlaced : Request := oceanAsked "\x7b\"location\": \x7b\"x\": 3, \"y\": -3\x7d\x7d"

/-- What such a request says. -/
def oceanMembers (choices : List Json) : Members :=
  [("player_id", .int 1), ("project", .string "aquifer"), ("choices", .array choices)]

theorem oceanPlaced_adds : Request.AddsChoice .sent (oceanAsked "") oceanPlaced
    (choiceFor "location" (Location.optionJson (.onMars ⟨3, -3⟩))) := by
  refine ⟨oceanMembers [],
    oceanMembers [choiceFor "location" (Location.optionJson (.onMars ⟨3, -3⟩))],
    Request.bodyJson_of_text rfl (by decide +kernel),
    Request.bodyJson_of_text rfl (by decide +kernel),
    fun name other => ?_, [], rfl, rfl⟩
  simp [oceanMembers, Json.member?, other.symm]

/-- The ocean waits for its place, and the first place that is listed is sent back. -/
theorem options_sent_back_solo :
    ∃ r m pending, (oceanAsked "").bodyOf .sent readStandardProject = .ok r ∧
      hostingSolo.move (idOf 0) r = (.ok m, hostingSolo) ∧ m.attempt.pending? = some pending ∧
      pending.options = .locations oceanPlaces ∧
      hostingSolo.TakesUp .sent (idOf 0) oceanPlaced readStandardProject := by
  have waits : (((oceanAsked "").bodyOf .sent readStandardProject).toOption.bind fun r =>
      (hostingSolo.move (idOf 0) r).1.toOption.bind fun m =>
        (m.attempt.pending?.filter (·.options = .locations oceanPlaces)).map fun pending =>
          (r, m, pending)).isSome = true := by
    decide +kernel
  obtain ⟨_, h⟩ := Option.isSome_iff_exists.1 waits
  obtain ⟨r, hr, h⟩ := Option.bind_eq_some_iff.1 h
  obtain ⟨m, hm, h⟩ := Option.bind_eq_some_iff.1 h
  obtain ⟨⟨impact, options⟩, hp, -⟩ := Option.map_eq_some_iff.1 h
  obtain ⟨hp, listed⟩ := Option.filter_eq_some_iff.1 hp
  obtain rfl : options = .locations oceanPlaces := of_decide_eq_true listed
  have read := toOption_eq_some.1 hr
  have moved : hostingSolo.move (idOf 0) r = (.ok m, _) := Prod.ext (toOption_eq_some.1 hm) rfl
  have same := (move_waiting moved hp).1
  have back := options_sent_back (by simp [moveReaders]) read moved hp
  rw [same] at moved back
  obtain ⟨⟨_, -, -, takesUp⟩, -⟩ := List.forall₂_cons.1 back
  exact ⟨r, m, _, read, moved, hp, rfl, (takesUp _ oceanPlaced_adds).2⟩

end Service

end Terraforming
