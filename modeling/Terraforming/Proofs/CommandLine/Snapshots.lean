import Terraforming.CommandLine.Run
import Terraforming.Proofs.Game.Scoring
import Terraforming.Proofs.Text.Utf8
import Terraforming.Proofs.Wire.Loaded

/-!
# Commands on a snapshot

Two commands read the snapshot in a file: one shows the board, and one the scores.  Whatever bytes the
file has, they are meant to do so or to say that the snapshot is invalid.  What is said in that way is
what the reader finds: bytes that are no text, a text that is no JSON, fields that are missing or
wrong, and a version that is not known.  What the board finds wrong with its contents is no misuse but
a violation, and so it is not said; and what is read is not checked for being countable.

* `Asks` — the words of a command line that lead to a command;
* `Contains`, `GameIn` — the snapshot in the bytes of a file, and its game;
* `load_cases`, `withGame_cases` — what a text is loaded as, and what a command makes of a file;
* `Uncounted`, `showScores_cases` — what keeps scores from being shown;
* `snapshot_commands` — how the two commands end, by what is in the file.
-/

namespace Terraforming.CommandLine

open Wire

/-! ## Asking for a command -/

/-- The words of a command line ask for a command, and the log has the level that they name. -/
def Asks (words : List String) (c : Command) : Prop :=
  ∃ level, Invocation.ofWords words = .ok ⟨some level, some c⟩ ∧ unknownLevel? level = none

/-- What is asked for is run. -/
theorem Asks.run {words : List String} {c : Command} (asks : Asks words c) (files : Files)
    (limits : Json.Limits) : run files words limits = c.run limits files := by
  obtain ⟨level, read, known⟩ := asks
  simp only [CommandLine.run, read, Invocation.run, known]

theorem ne_separator {s : String} (h : looksLikeOption s = false) : s ≠ "--" := by
  rintro rfl
  exact absurd h (by decide +kernel)

theorem classify_value {g : Grammar} {s : String} (h : looksLikeOption s = false) :
    classify g s = .ok (.value s) := by
  rw [classify, if_neg (ne_separator h), h]
  rfl

theorem classifyAll_cons {g : Grammar} {s : String} {ss : List String} {w : Word} {ws : List Word}
    (separator : s ≠ "--") (first : classify g s = .ok w) (rest : classifyAll g ss = .ok ws) :
    classifyAll g (s :: ss) = .ok (w :: ws) := by
  rw [classifyAll, if_neg separator, first, rest]
  rfl

theorem classifyAll_value {g : Grammar} {s : String} (h : looksLikeOption s = false) :
    classifyAll g [s] = .ok [.value s] :=
  classifyAll_cons (ne_separator h) (classify_value h) rfl

/-- The words of a command ask for it, if none of them is taken for an option in front of it. -/
theorem asks_of_command {name : String} {words : List String} {ws : List Word} {c : Command}
    (first : looksLikeOption name = false) (front : classifyAll frontGrammar words = .ok ws)
    (command : Command.ofWords name words = .ok c) : Asks (name :: words) c := by
  refine ⟨"WARNING", ?_, by decide +kernel⟩
  have all := classifyAll_cons (ne_separator first) (classify_value first) front
  rw [Invocation.ofWords, all, ok_bind, Invocation.ofWordsAfter.eq_def]
  simp only [classify_value first, ok_bind, command]
  rfl

/-- A board is asked for with the name of a file. -/
theorem asks_board {name : String} (h : looksLikeOption name = false) :
    Asks ["board", "--snapshot", name] (.board (some name)) := by
  have unknown : classify frontGrammar "--snapshot" = .ok .unknown := by
    have spaceless : "--snapshot".contains ' ' = false := by simp
    have nothing : candidates frontGrammar "--snapshot" = [] := by decide +kernel
    rw [classify, nothing, spaceless]
    decide +kernel
  have option : classify boardGrammar "--snapshot" = .ok (.option ⟨"--snapshot", .text⟩ none) := by
    decide +kernel
  refine asks_of_command (by decide +kernel)
    (classifyAll_cons (by decide) unknown (classifyAll_value h)) ?_
  rw [Command.ofWords, Grammar.sorted, classifyAll_cons (by decide) option (classifyAll_value h)]
  rfl

/-- Scores are asked for with the name of a file. -/
theorem asks_score {name : String} (h : looksLikeOption name = false) :
    Asks ["score", name] (.score name) := by
  refine asks_of_command (by decide +kernel) (classifyAll_value h) ?_
  rw [Command.ofWords, Grammar.sorted, classifyAll_value h]
  rfl

/-! ## What a file contains -/

/-- The bytes are those of a text that the reader takes and that is a snapshot, of the version that is
known. -/
def Contains (limits : Json.Limits) (content : List UInt8) (s : Snapshot) : Prop :=
  (∃ text j, content = text.toUTF8.data.toList ∧ Json.ofText? text limits = some j ∧
    readSnapshot limits j = .ok s) ∧ s.version = snapshotVersion

/-- The bytes are those of the snapshot of a game. -/
def GameIn (limits : Json.Limits) (content : List UInt8) (g : Game) : Prop :=
  ∃ s, Contains limits content s ∧ s.game = .ok g

/-- The bytes are those of a snapshot whose board is not consistent. -/
def UnsoundIn (limits : Json.Limits) (content : List UInt8) : Prop :=
  ∃ s, Contains limits content s ∧ ¬s.board.board.Consistent

section

variable {limits : Json.Limits} {files : Files} {name text : String} {content : List UInt8}
  {s s' : Snapshot}

/-- What is in the file of a text is what the text says. -/
theorem contains_text : Contains limits text.toUTF8.data.toList s ↔
    (∃ j, Json.ofText? text limits = some j ∧ readSnapshot limits j = .ok s) ∧
      s.version = snapshotVersion := by
  refine and_congr_left fun _ => ⟨?_, ?_⟩
  · rintro ⟨text', j, spelled, parsed, read⟩
    have decoded := Text.decoded_eq_ok_iff.2 spelled
    rw [Text.decoded_eq_ok_iff.2 rfl] at decoded
    obtain rfl := Except.ok.inj decoded
    exact ⟨j, parsed, read⟩
  · rintro ⟨j, parsed, read⟩
    exact ⟨text, j, rfl, parsed, read⟩

/-- There is one snapshot in a file at most. -/
theorem Contains.unique (h : Contains limits content s) (h' : Contains limits content s') :
    s = s' := by
  obtain ⟨⟨text, j, rfl, parsed, read⟩, -⟩ := h
  obtain ⟨⟨j', parsed', read'⟩, -⟩ := contains_text.1 h'
  obtain rfl := Option.some.inj (parsed.symm.trans parsed')
  exact Checked.ok.inj (read.symm.trans read')

/-- What a text is loaded as: nothing if there is no snapshot in it, a violation if the board of the
snapshot is not consistent, and else the game of the snapshot. -/
theorem load_cases (limits : Json.Limits) (text : String) :
    ((¬∃ s, Contains limits text.toUTF8.data.toList s) ∧
      ((∃ ps, Game.load text limits = .error (.malformed ps)) ∨
        ∃ m, Game.load text limits = .error (.fault (.misuse m)))) ∨
    ∃ s, Contains limits text.toUTF8.data.toList s ∧
      ((¬s.board.board.Consistent ∧ ∃ v, Game.load text limits = .error (.fault (.violation v))) ∨
        ∃ g, s.game = .ok g ∧ Game.load text limits = .ok g) := by
  simp only [contains_text, Game.load]
  cases Json.ofText? text limits with
  | none =>
    refine .inl ⟨?_, .inl ⟨_, rfl⟩⟩
    rintro ⟨s, ⟨_, ⟨⟩, -⟩, -⟩
  | some j =>
    simp only [Game.ofJson]
    cases read : readSnapshot limits j with
    | bad ps =>
      refine .inl ⟨?_, .inl ⟨ps, rfl⟩⟩
      rintro ⟨s, ⟨_, ⟨⟩, read'⟩, -⟩
      cases read.symm.trans read'
    | ok s =>
      by_cases known : s.version = snapshotVersion
      · refine .inr ⟨s, ⟨⟨j, rfl, read⟩, known⟩, ?_⟩
        rcases Snapshot.game_of_version known with ⟨unsound, v, unmade⟩ | ⟨-, g, made⟩
        · exact .inl ⟨unsound, v, by simp only [unmade]⟩
        · exact .inr ⟨g, made, by simp only [made]⟩
      · refine .inl ⟨?_, .inr ⟨.unsupportedVersion s.version, ?_⟩⟩
        · rintro ⟨s', ⟨_, ⟨⟩, read'⟩, known'⟩
          obtain rfl := Checked.ok.inj (read.symm.trans read')
          exact known known'
        · simp only [Snapshot.game, if_pos known]

/-- The board of a game in a file is consistent. -/
theorem GameIn.sound {g : Game} (there : GameIn limits content g) : ¬UnsoundIn limits content := by
  obtain ⟨s, contains, made⟩ := there
  rintro ⟨s', contains', unsound⟩
  obtain rfl := contains.unique contains'
  rcases Snapshot.game_of_version contains.2 with ⟨-, v, unmade⟩ | ⟨consistent, -⟩
  · cases made.symm.trans unmade
  · exact unsound consistent

theorem GameIn.unique {g g' : Game} (h : GameIn limits content g)
    (h' : GameIn limits content g') : g = g' := by
  obtain ⟨s, contains, made⟩ := h
  obtain ⟨s', contains', made'⟩ := h'
  obtain rfl := contains.unique contains'
  exact Except.ok.inj (made.symm.trans made')

/-- The game that is loaded from a text is in its file. -/
theorem gameIn_of_load {g : Game} (loaded : Game.load text limits = .ok g) :
    GameIn limits text.toUTF8.data.toList g := by
  rcases load_cases limits text with
    ⟨-, ⟨ps, h⟩ | ⟨m, h⟩⟩ | ⟨s, contains, ⟨-, v, h⟩ | ⟨g', made, h⟩⟩
  · cases loaded.symm.trans h
  · cases loaded.symm.trans h
  · cases loaded.symm.trans h
  · obtain rfl := Except.ok.inj (loaded.symm.trans h)
    exact ⟨s, contains, made⟩

/-- The run says that the snapshot of a name is invalid, and why. -/
def Run.ReportsInvalid (r : Run) (name : String) : Prop :=
  (∃ reason, r = .failed ["Error: Invalid snapshot " ++ name ++ ": " ++ reason]) ∨
    ∃ ps, r = .malformed ("Error: Invalid snapshot " ++ name ++ ": ") ps

/-- A command that reads the snapshot in a file says that there is none, or breaks down if the board
is not consistent, or goes on with the game. -/
theorem withGame_cases {f : Game → Run} (found : files (Path.ofText name) = .ofBytes content) :
    ((¬∃ s, Contains limits content s) ∧ (withGame limits files name f).ReportsInvalid name) ∨
    ∃ s, Contains limits content s ∧
      ((¬s.board.board.Consistent ∧ ∃ b, (withGame limits files name f).ending = .broken b) ∨
        ∃ g, s.game = .ok g ∧ withGame limits files name f = f g) := by
  unfold Opened.ofBytes at found
  cases decoded : Text.decoded content with
  | error u =>
    rw [decoded] at found
    refine .inl ⟨?_, .inl ⟨u.message, by simp only [withGame, found]⟩⟩
    rintro ⟨s, ⟨text, j, spelled, -⟩, -⟩
    rw [Text.decoded_eq_ok_iff.2 spelled] at decoded
    cases decoded
  | ok text =>
    rw [decoded] at found
    obtain rfl := Text.decoded_eq_ok_iff.1 decoded
    simp only [withGame, found, withGameOf]
    rcases load_cases limits text with
      ⟨none, ⟨ps, h⟩ | ⟨m, h⟩⟩ | ⟨s, contains, ⟨unsound, v, h⟩ | ⟨g, made, h⟩⟩
    · exact .inl ⟨none, .inr ⟨ps, by simp only [h]⟩⟩
    · exact .inl ⟨none, .inl ⟨m.message, by simp only [h]⟩⟩
    · exact .inr ⟨s, contains, .inl ⟨unsound, .fault (.violation v), by simp only [h, Run.broken]⟩⟩
    · exact .inr ⟨s, contains, .inr ⟨g, made, by simp only [h]⟩⟩

end

/-! ## Scores -/

/-- What keeps the scores of a game from being shown. -/
inductive Uncounted (g : Game) : Prop where
  /-- A card in play is printed with points that make no sense. -/
  | card {p : PlayerId} {q : Player} {c : PlayedCard} (present : g.player? p = some q)
      (played : c ∈ q.played) (senseless : c.card.scorable = false)
  /-- There is a player, and a funded award is not known. -/
  | award {p : PlayerId} {q : Player} {n : String} (present : g.player? p = some q)
      (funded : n ∈ g.funded.keys) (unknown : Vocabulary.ofWord? (α := Award) n = none)
  /-- The points of a player have too many digits. -/
  | digits {p : PlayerId} {n : Int} (scored : g.points p = .ok n)
      (long : Text.maxDigits < digitCount n)

/-- The line of a player. -/
def scoreText (e : PlayerId × Int) : String :=
  "  player " ++ toString e.1 ++ ": " ++ toString e.2 ++ " VP"

theorem Run.lines_ok (ls : List String) : Run.lines (ls.map .ok) = .done ls := by
  induction ls with
  | nil => rfl
  | cons l ls ih => rw [List.map_cons, Run.lines, ih]; rfl

theorem Run.lines_broken {xs : List (Except Fault String)} {e : Fault} (h : .error e ∈ xs) :
    ∃ b, (Run.lines xs).ending = .broken b := by
  induction xs with
  | nil => cases h
  | cons x xs ih =>
    cases x with
    | error e' => exact ⟨.fault e', rfl⟩
    | ok l =>
      obtain ⟨b, hb⟩ := ih ((List.mem_cons.1 h).resolve_left nofun)
      exact ⟨b, hb⟩

theorem scoreLine_eq_ok {e : PlayerId × Int} (short : digitCount e.2 ≤ Text.maxDigits) :
    scoreLine e = .ok (scoreText e) := by
  rw [scoreLine, numeral, if_pos short]
  rfl

theorem scoreLine_eq_error {e : PlayerId × Int} (long : Text.maxDigits < digitCount e.2) :
    scoreLine e = .error (.misuse .excessDigits) := by
  rw [scoreLine, numeral, if_neg (Nat.not_le.2 long)]
  rfl

/-- A game without scores has something that cannot be counted. -/
theorem uncounted_of_scores {g : Game} (none : ¬∃ ns, g.scores = .ok ns) : Uncounted g := by
  rw [Game.scores_answers_iff] at none
  push Not at none
  obtain ⟨p, hp, unscored⟩ := none
  obtain ⟨q, hq⟩ := Game.mem_playerIds.1 hp
  by_contra counted
  refine not_exists.2 unscored ((Game.points_answers_iff hq).2 ⟨fun c hc => ?_, fun n hn => ?_⟩)
  · by_contra senseless
    exact counted (.card hq hc (Bool.eq_false_of_not_eq_true senseless))
  · by_contra unknown
    exact counted (.award hq hn (Option.not_isSome_iff_eq_none.1 unknown))

/-- The scores of a game are shown, unless something cannot be counted. -/
theorem showScores_cases (g : Game) :
    (Uncounted g ∧ ∃ b, (showScores g).ending = .broken b) ∨
    (¬Uncounted g ∧ ∃ ns, g.scores = .ok ns ∧
      showScores g = .done (("Generation " ++ toString g.generation) :: ns.map scoreText)) := by
  unfold showScores
  cases scores : g.scores with
  | error e =>
    exact .inl ⟨uncounted_of_scores (by simp [scores]), .fault e, rfl⟩
  | ok ns =>
    by_cases short : ∀ e ∈ ns, digitCount e.2 ≤ Text.maxDigits
    · have lines : ns.map scoreLine = (ns.map scoreText).map .ok := by
        rw [List.map_map]
        exact List.map_congr_left fun e he => scoreLine_eq_ok (short e he)
      refine .inr ⟨?_, ns, rfl, ?_⟩
      · have scored : ∀ p q, g.player? p = some q → ∃ n, g.points p = .ok n := fun p q hq =>
          Game.scores_answers_iff.1 ⟨ns, scores⟩ p (Game.mem_playerIds.2 ⟨q, hq⟩)
        rintro (⟨hq, played, senseless⟩ | ⟨hq, funded, unknown⟩ | ⟨scored, long⟩)
        · have sense := ((Game.points_answers_iff hq).1 (scored _ _ hq)).1 _ played
          exact absurd (senseless.symm.trans sense) Bool.false_ne_true
        · have known := ((Game.points_answers_iff hq).1 (scored _ _ hq)).2 _ funded
          rw [unknown] at known
          cases known
        · exact Nat.not_le.2 long (short _ ((Game.mem_scores scores).2 scored))
      · simp only [Run.orBreak, lines, Run.lines_ok]
        rfl
    · push Not at short
      obtain ⟨⟨p, n⟩, he, long⟩ := short
      refine .inl ⟨.digits ((Game.mem_scores scores).1 he) long, ?_⟩
      have unwritten := scoreLine_eq_error long
      obtain ⟨b, hb⟩ := Run.lines_broken (List.mem_map.2 ⟨_, he, unwritten⟩)
      exact ⟨b, hb⟩

/-! ## The commands -/

/-- What is shown of a board. -/
def BoardText (g : Game) (lines : List String) : Prop :=
  ∃ text, g.board.render = .ok text ∧ lines = [text]

/-- What is shown of the scores. -/
def ScoreText (g : Game) (lines : List String) : Prop :=
  ∃ ns, g.scores = .ok ns ∧ lines = ("Generation " ++ toString g.generation) :: ns.map scoreText

/-- The run shows something of the game in a file of these bytes, and ends well. -/
def Run.Shows (r : Run) (limits : Json.Limits) (content : List UInt8)
    (Text : Game → List String → Prop) : Prop :=
  ∃ g lines, GameIn limits content g ∧ Text g lines ∧ r = .done lines

/-- How a command ends that shows something of the game in a file.  If there is no defect, it does
what it should. -/
structure Run.Ends (r : Run) (limits : Json.Limits) (name : String) (content : List UInt8)
    (Text : Game → List String → Prop) (Defect : Prop) : Prop where
  handled : ¬Defect → r.Shows limits content Text ∨ r.ReportsInvalid name
  broken : (∃ b, r.ending = .broken b) ↔ Defect
  reported : r.ReportsInvalid name ↔ ¬∃ s, Contains limits content s
  shown : r.Shows limits content Text ↔ (∃ g, GameIn limits content g) ∧ ¬Defect

section

variable {limits : Json.Limits} {files : Files} {name : String} {content : List UInt8}
  {s : Snapshot} {r : Run} {Text : Game → List String → Prop}

theorem Run.Shows.ending (h : r.Shows limits content Text) : r.ending = .exit 0 := by
  obtain ⟨_, _, -, -, rfl⟩ := h
  rfl

theorem Run.ReportsInvalid.ending (h : r.ReportsInvalid name) : r.ending = .exit 1 := by
  obtain ⟨_, rfl⟩ | ⟨_, rfl⟩ := h <;> rfl

namespace Run.Ends

variable {Defect : Prop}

/-- A run that breaks down, where there is a snapshot and a defect. -/
theorem of_broken {b : Breakdown} (broken : r.ending = .broken b) (defect : Defect)
    (contains : Contains limits content s) : r.Ends limits name content Text Defect := by
  have unreported : ¬r.ReportsInvalid name := by
    intro reports
    cases broken.symm.trans reports.ending
  have unshown : ¬r.Shows limits content Text := by
    intro shows
    cases broken.symm.trans shows.ending
  exact ⟨fun flawless => absurd defect flawless, iff_of_true ⟨b, broken⟩ defect,
    iff_of_false unreported (not_not.2 ⟨s, contains⟩), iff_of_false unshown fun h => h.2 defect⟩

/-- A run that says that there is no snapshot, where there is none. -/
theorem of_reported (reports : r.ReportsInvalid name) (nothing : ¬∃ s, Contains limits content s)
    (flawless : ¬Defect) : r.Ends limits name content Text Defect := by
  have whole : ¬∃ b, r.ending = .broken b := by
    rintro ⟨b, broken⟩
    cases reports.ending.symm.trans broken
  have unshown : ¬r.Shows limits content Text := by
    intro shows
    cases reports.ending.symm.trans shows.ending
  have gameless : ¬∃ g, GameIn limits content g := by
    rintro ⟨_, s, contains, -⟩
    exact nothing ⟨s, contains⟩
  exact ⟨fun _ => .inr reports, iff_of_false whole flawless, iff_of_true reports nothing,
    iff_of_false unshown fun h => gameless h.1⟩

/-- A run that shows what it should, where there is a game without defect. -/
theorem of_shown (shows : r.Shows limits content Text) (flawless : ¬Defect) :
    r.Ends limits name content Text Defect := by
  obtain ⟨g, lines, there, -, -⟩ := id shows
  obtain ⟨s, contains, -⟩ := id there
  have whole : ¬∃ b, r.ending = .broken b := by
    rintro ⟨b, broken⟩
    cases broken.symm.trans shows.ending
  have unreported : ¬r.ReportsInvalid name := by
    intro reports
    cases reports.ending.symm.trans shows.ending
  exact ⟨fun _ => .inl shows, iff_of_false whole flawless,
    iff_of_false unreported (not_not.2 ⟨s, contains⟩), iff_of_true shows ⟨⟨g, there⟩, flawless⟩⟩

end Run.Ends

/-- A command that reads the game in a file, and shows it or breaks down, ends as it does with the
game, or before it has one. -/
theorem withGame_ends {f : Game → Run} {Defect : Game → Prop}
    (found : files (Path.ofText name) = .ofBytes content)
    (runs : ∀ g, GameIn limits content g → (Defect g ∧ ∃ b, (f g).ending = .broken b) ∨
      (¬Defect g ∧ ∃ lines, Text g lines ∧ f g = .done lines)) :
    (withGame limits files name f).Ends limits name content Text
      (UnsoundIn limits content ∨ ∃ g, GameIn limits content g ∧ Defect g) := by
  obtain ⟨nothing, reports⟩ | ⟨s, contains, ⟨unsound, b, broken⟩ | ⟨g, made, goes⟩⟩ :=
    withGame_cases (f := f) found
  · refine .of_reported reports nothing ?_
    rintro (⟨s, contains, -⟩ | ⟨g, ⟨s, contains, -⟩, -⟩)
    · exact nothing ⟨s, contains⟩
    · exact nothing ⟨s, contains⟩
  · exact .of_broken broken (.inl ⟨s, contains, unsound⟩) contains
  · have there : GameIn limits content g := ⟨s, contains, made⟩
    rw [goes]
    obtain ⟨defect, b, broken⟩ | ⟨flawless, lines, shown, done⟩ := runs g there
    · exact .of_broken broken (.inr ⟨g, there, defect⟩) contains
    · refine .of_shown ⟨g, lines, there, shown, done⟩ ?_
      rintro (unsound | ⟨g', there', defect⟩)
      · exact there.sound unsound
      · exact flawless (there.unique there' ▸ defect)

/-- The board of a game in a file can be shown. -/
theorem GameIn.board {g : Game} (there : GameIn limits content g) :
    ∃ text, g.board.render = .ok text := by
  obtain ⟨s, ⟨⟨_, j, -, -, read⟩, -⟩, made⟩ := there
  obtain ⟨j, read⟩ := exists_readBoard read
  obtain ⟨-, same⟩ := Snapshot.game_eq_ok made
  exact (same ▸ readBoard_labels read : g.board.Labelled).render

/-- **Commands on a snapshot** show the board and the scores, or say that the snapshot is invalid,
but for two defects, with which they break down: a board that is not consistent, and points that
cannot be counted.  So it is whatever the limits of the reader are. -/
theorem snapshot_commands (limits : Json.Limits) (named : name ≠ "")
    (found : files (Path.ofText name) = .ofBytes content) :
    (∀ words, Asks words (.board (some name)) →
      (run files words limits).Ends limits name content BoardText (UnsoundIn limits content)) ∧
    ∀ words, Asks words (.score name) →
      (run files words limits).Ends limits name content ScoreText
        (UnsoundIn limits content ∨ ∃ g, GameIn limits content g ∧ Uncounted g) := by
  constructor
  · intro words asks
    have reads : Command.run limits files (.board (some name)) =
        withGame limits files name fun g => showBoard g.board := by
      rw [Command.run, printBoard, Option.filter_some, decide_eq_true named]
      rfl
    have ends : (withGame limits files name fun g => showBoard g.board).Ends limits name content
        BoardText (UnsoundIn limits content ∨ ∃ g, GameIn limits content g ∧ False) := by
      refine withGame_ends found fun g there => .inr ⟨not_false, ?_⟩
      obtain ⟨text, shown⟩ := there.board
      exact ⟨[text], ⟨text, shown, rfl⟩, by rw [showBoard, shown]; rfl⟩
    rw [asks.run, reads]
    simpa using ends
  · intro words asks
    rw [asks.run]
    refine withGame_ends found fun g _ => ?_
    obtain defect | ⟨counted, ns, scores, shown⟩ := showScores_cases g
    · exact .inl defect
    · exact .inr ⟨counted, _, ⟨ns, scores, rfl⟩, shown⟩

end

/-! ## Two files -/

/-- A folder with one file in it. -/
def onlyFile (name text : String) : Files := fun path =>
  if path = Path.ofText name then .ofBytes text.toUTF8.data.toList else .missing

theorem onlyFile_found (name text : String) :
    onlyFile name text (Path.ofText name) = .ofBytes text.toUTF8.data.toList := if_pos rfl

/-- A snapshot with more oxygen than there can be. -/
def thickAir : String :=
  "\x7b\"board\": \x7b\"spaces\": [], \"oxygen\": 15, \"temperature\": -30\x7d, \"players\": []\x7d"

theorem load_thickAir :
    Game.load thickAir .files = .error (.fault (.violation (.oxygenOutOfRange 15))) := by
  have loaded : (match Game.load thickAir .files with
      | .error (.fault f) => decide (f = .violation (.oxygenOutOfRange 15))
      | _ => false) = true := by
    decide +kernel
  split at loaded
  next f h => rw [h, of_decide_eq_true loaded]
  next => cases loaded

/-- Neither command says that this snapshot is invalid: both break down. -/
theorem thickAir_breaks_down :
    run (onlyFile "s.json" thickAir) ["board", "--snapshot", "s.json"] .files =
        .broken (.fault (.violation (.oxygenOutOfRange 15))) ∧
      run (onlyFile "s.json" thickAir) ["score", "s.json"] .files =
        .broken (.fault (.violation (.oxygenOutOfRange 15))) := by
  have breaks : ∀ f, withGame .files (onlyFile "s.json" thickAir) "s.json" f =
      .broken (.fault (.violation (.oxygenOutOfRange 15))) := by
    intro f
    have found : onlyFile "s.json" thickAir (Path.ofText "s.json") = .text thickAir := by
      rw [onlyFile_found, Opened.ofBytes, Text.decoded_eq_ok_iff.2 rfl]
    simp only [withGame, found, withGameOf, load_thickAir]
  have option : looksLikeOption "s.json" = false := by decide +kernel
  exact ⟨((asks_board option).run _ _).trans (breaks _),
    ((asks_score option).run _ _).trans (breaks _)⟩

/-- A snapshot of a game with one player, in which an award is funded that there is not. -/
def strangeAward : String :=
  "\x7b\"board\": \x7b\"spaces\": [], \"oxygen\": 0, \"temperature\": -30\x7d, \"players\": " ++
  "[\x7b\"player_id\": 1, \"resources\": \x7b\x7d, \"production\": \x7b\x7d, " ++
  "\"terraform_rating\": 20\x7d], \"funded_awards\": \x7b\"Janitor\": 1\x7d\x7d"

theorem exists_load_strangeAward :
    ∃ g, Game.load strangeAward .files = .ok g ∧ (g.player? 1).isSome = true ∧
      "Janitor" ∈ g.funded.keys := by
  have loaded : (match Game.load strangeAward .files with
      | .ok g => (g.player? 1).isSome && decide ("Janitor" ∈ g.funded.keys)
      | _ => false) = true := by
    decide +kernel
  split at loaded
  next g h =>
    rw [Bool.and_eq_true] at loaded
    exact ⟨g, h, loaded.1, of_decide_eq_true loaded.2⟩
  next => cases loaded

/-- The board of this game is shown, but the scores are not. -/
theorem snapshot_commands_strangeAward :
    (run (onlyFile "s.json" strangeAward) ["board", "--snapshot", "s.json"] .files).Shows .files
        strangeAward.toUTF8.data.toList BoardText ∧
      ∃ b, (run (onlyFile "s.json" strangeAward) ["score", "s.json"] .files).ending = .broken b := by
  obtain ⟨g, loaded, present, funded⟩ := exists_load_strangeAward
  obtain ⟨q, present⟩ := Option.isSome_iff_exists.1 present
  have there : GameIn .files strangeAward.toUTF8.data.toList g := gameIn_of_load loaded
  have option : looksLikeOption "s.json" = false := by decide +kernel
  have commands :=
    snapshot_commands .files (by decide : "s.json" ≠ "") (onlyFile_found _ strangeAward)
  have uncounted : Uncounted g := .award present funded (by decide +kernel)
  exact ⟨(commands.1 _ (asks_board option)).shown.2 ⟨⟨g, there⟩, there.sound⟩,
    (commands.2 _ (asks_score option)).broken.2 (.inr ⟨g, there, uncounted⟩)⟩

end Terraforming.CommandLine
